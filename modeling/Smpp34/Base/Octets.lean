import Mathlib.Algebra.Ring.Nat
import Mathlib.Data.List.Basic
import Mathlib.Tactic.Common

namespace Octets

abbrev Bytes := List UInt8

def be16 (n : UInt16) : Bytes := [UInt8.ofNat (n.toNat / 256), UInt8.ofNat n.toNat]

def ofBe16 (a b : UInt8) : UInt16 := UInt16.ofNat (a.toNat * 256 + b.toNat)

def be32 (n : UInt32) : Bytes :=
  [UInt8.ofNat (n.toNat / 16777216), UInt8.ofNat (n.toNat / 65536),
    UInt8.ofNat (n.toNat / 256), UInt8.ofNat n.toNat]

def ofBe32 (a b c d : UInt8) : UInt32 :=
  UInt32.ofNat (a.toNat * 16777216 + b.toNat * 65536 + c.toNat * 256 + d.toNat)

@[simp] theorem be16_length (n : UInt16) : (be16 n).length = 2 := rfl

@[simp] theorem be32_length (n : UInt32) : (be32 n).length = 4 := rfl

theorem ofBe16_bytes (n : UInt16) :
    ofBe16 (UInt8.ofNat (n.toNat / 256)) (UInt8.ofNat n.toNat) = n := by
  have bound := n.toNat_lt
  apply UInt16.toNat_inj.mp
  simp only [ofBe16, UInt16.toNat_ofNat', UInt8.toNat_ofNat']
  omega

theorem ofBe32_bytes (n : UInt32) :
    ofBe32 (UInt8.ofNat (n.toNat / 16777216)) (UInt8.ofNat (n.toNat / 65536))
      (UInt8.ofNat (n.toNat / 256)) (UInt8.ofNat n.toNat) = n := by
  have bound := n.toNat_lt
  apply UInt32.toNat_inj.mp
  simp only [ofBe32, UInt32.toNat_ofNat', UInt8.toNat_ofNat']
  omega

theorem be16_ofBe16 (a b : UInt8) : be16 (ofBe16 a b) = [a, b] := by
  have low := b.toNat_lt
  have high := a.toNat_lt
  have number : (ofBe16 a b).toNat = a.toNat * 256 + b.toNat := by
    rw [ofBe16, UInt16.toNat_ofNat']
    omega
  have first : UInt8.ofNat ((a.toNat * 256 + b.toNat) / 256) = a := by
    apply UInt8.toNat_inj.mp
    rw [UInt8.toNat_ofNat']
    omega
  have second : UInt8.ofNat (a.toNat * 256 + b.toNat) = b := by
    apply UInt8.toNat_inj.mp
    rw [UInt8.toNat_ofNat']
    omega
  rw [be16, number, first, second]

theorem be32_ofBe32 (a b c d : UInt8) : be32 (ofBe32 a b c d) = [a, b, c, d] := by
  have bounds := And.intro a.toNat_lt (And.intro b.toNat_lt (And.intro c.toNat_lt d.toNat_lt))
  have number : (ofBe32 a b c d).toNat =
      a.toNat * 16777216 + b.toNat * 65536 + c.toNat * 256 + d.toNat := by
    rw [ofBe32, UInt32.toNat_ofNat']
    omega
  have octet (n : Nat) (value : UInt8) (same : n % 256 = value.toNat) : UInt8.ofNat n = value := by
    apply UInt8.toNat_inj.mp
    rw [UInt8.toNat_ofNat']
    exact same
  rw [be32, number, octet _ a (by omega), octet _ b (by omega), octet _ c (by omega),
    octet _ d (by omega)]

end Octets
