import BlockAccess.Wire.BigEndian
import Mathlib.Algebra.Ring.Nat
import Mathlib.Data.List.Induction

/-!
# Laws of big-endian words

## Main results

* `ofBigEndian_bigEndian` — reading gives back the low `w` bytes of the number.
* `bigEndian_ofBigEndian` — every sequence of `w` bytes is the writing of the number it reads as.
-/

namespace BlockAccess.Wire

theorem ofBigEndian_bigEndian (w n : Nat) : ofBigEndian (bigEndian w n) = n % 256 ^ w := by
  induction w generalizing n with
  | zero => simp [bigEndian, Nat.mod_one]
  | succ w ih =>
    have hsplit : n % (256 * 256 ^ w) = n % 256 + 256 * (n / 256 % 256 ^ w) := Nat.mod_mul
    rw [bigEndian, ofBigEndian_concat, ih, pow_succ' 256 w, hsplit, UInt8.toNat_ofNat']
    omega

theorem bigEndian_ofBigEndian (bs : List UInt8) : bigEndian bs.length (ofBigEndian bs) = bs := by
  induction bs using List.reverseRecOn with
  | nil => rfl
  | append_singleton bs b ih =>
    have hb := b.toNat_lt
    have hrest : (ofBigEndian bs * 256 + b.toNat) / 256 = ofBigEndian bs := by omega
    have hlast : UInt8.ofNat (ofBigEndian bs * 256 + b.toNat) = b := by
      apply UInt8.toNat_inj.1
      rw [UInt8.toNat_ofNat']
      omega
    rw [ofBigEndian_concat, List.length_append, List.length_singleton, bigEndian, hrest, hlast, ih]

/-- What lies above the low `w` bytes of a number is not written. -/
theorem bigEndian_mod (w n : Nat) : bigEndian w (n % 256 ^ w) = bigEndian w n := by
  have h := bigEndian_ofBigEndian (bigEndian w n)
  rwa [length_bigEndian, ofBigEndian_bigEndian] at h

end BlockAccess.Wire
