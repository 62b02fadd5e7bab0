import BlockAccess.Json.Shape
import Mathlib.Data.List.TakeWhile
import Mathlib.Tactic.IntervalCases

/-!
# Numbers in JSON are read back

Ids, durations, expiries and the bytes of a secret are written in decimal and read by a scanner for
numbers of every form that JSON has. An integer uses of this form only the sign and the digits
(`Numeral.ofInt`). What has to be shown is that the scanner finds no flaw in them, in particular no
needless zero in front, and that the digits write the number again; the readers of fixed width then
only check a range that no word leaves.

## Main results

* `Numeral.ofChars?_int` — the text of an integer is scanned as its sign and its digits.
* `Numeral.int?_ofInt` — these are read as the integer.
-/

namespace BlockAccess

/-! ## Digits -/

/-- The digits of a number write it. -/
theorem Digits.natOf_toDigits (n : Nat) : natOf 10 ((Nat.toDigits 10 n).map decimalValue) = n := by
  have hdigits : Nat.ofDigitChars 10 (Nat.toDigits 10 n) 0 = n := Nat.ofDigitChars_ten_toDigits
  rw [Nat.ofDigitChars_eq_foldl] at hdigits
  simp only [natOf, natOnto, List.foldl_map, decimalValue, Nat.mul_comm _ 10]
  exact hdigits

namespace Json

theorem isDigit_of_mem_toDigits {n : Nat} {c : Char} (h : c ∈ Nat.toDigits 10 n) :
    c.isDigit = true := Nat.isDigit_of_mem_toDigits (by decide) (Nat.le_refl 10) h

/-- Only the number zero begins with a zero. -/
theorem head?_toDigits_ne {n : Nat} (h : 0 < n) : (Nat.toDigits 10 n).head? ≠ some '0' := by
  induction n using Nat.strongRecOn with
  | _ n ih =>
    by_cases hsmall : n < 10
    · rw [Nat.toDigits_of_lt_base hsmall]
      interval_cases n <;> decide
    · have hrest : 0 < n / 10 := by omega
      have hfirst := ih (n / 10) (by omega) hrest
      have hsome : (Nat.toDigits 10 (n / 10)).head?.isSome := by
        rw [List.isSome_head?]
        exact Nat.toDigits_ne_nil
      rw [Nat.toDigits_of_base_le (by decide) (by omega), List.head?_append,
        Option.or_of_isSome hsome]
      exact hfirst

/-- The digits of a number have no needless zero in front. -/
theorem length_or_head?_toDigits (n : Nat) :
    (Nat.toDigits 10 n).length = 1 ∨ (Nat.toDigits 10 n).head? ≠ some '0' := by
  by_cases hzero : n = 0
  · left
    rw [hzero]
    rfl
  · right
    exact head?_toDigits_ne (by omega)

/-! ## Integers -/

/-- The number that the text of an integer writes. -/
def Numeral.ofInt (n : Int) : Numeral := ⟨n < 0, Nat.toDigits 10 n.natAbs, none, none⟩

/-- The characters of an integer: its digits, after a minus if it is negative. -/
def intChars (n : Int) : List Char :=
  if n < 0 then '-' :: Nat.toDigits 10 n.natAbs else Nat.toDigits 10 n.natAbs

theorem toList_toString_nat (n : Nat) : (toString n).toList = intChars n := by
  rw [Nat.toString_eq_ofList_toDigits, String.toList_ofList, intChars, if_neg (by omega),
    Int.natAbs_natCast]

theorem toList_toString_int (n : Int) : (toString n).toList = intChars n := by
  cases n with
  | ofNat n => exact toList_toString_nat n
  | negSucc n =>
    show ("-" ++ n.succ.repr).toList = _
    rw [intChars, if_pos (Int.negSucc_lt_zero n), Int.natAbs_negSucc, String.toList_append,
      Nat.repr_eq_ofList_toDigits, String.toList_ofList, String.toList_ofList]
    rfl

theorem eq_or_isDigit_of_mem_intChars {n : Int} {c : Char} (h : c ∈ intChars n) :
    c = '-' ∨ c.isDigit = true := by
  unfold intChars at h
  split at h
  · exact (List.mem_cons.1 h).imp_right isDigit_of_mem_toDigits
  · exact .inr (isDigit_of_mem_toDigits h)

namespace Numeral

/-- Digits without a needless zero are scanned as a whole number. -/
theorem ofChars?_digits {digits : List Char} (hdigits : ∀ c ∈ digits, c.isDigit = true)
    (hne : digits ≠ []) (hlead : digits.length = 1 ∨ digits.head? ≠ some '0') :
    ofChars? digits = some ⟨false, digits, none, none⟩ ∧
      ofChars? ('-' :: digits) = some ⟨true, digits, none, none⟩ := by
  have hwhole : leadingDigits digits = digits := by
    rw [leadingDigits, List.takeWhile_eq_self_iff]
    exact hdigits
  have hafter : afterDigits digits = [] := by
    rw [afterDigits, List.dropWhile_eq_nil_iff]
    exact hdigits
  have hsound : (digits.isEmpty || (digits.length ≠ 1 && digits.head? = some '0')) = false := by
    rcases hlead with hone | hhead
    · simp [hne, hone]
    · simp [hne, hhead]
  constructor
  · unfold ofChars?
    split
    next heq =>
      split at heq
      next => exact absurd (hdigits '-' List.mem_cons_self) (by decide)
      next =>
        cases heq
        simp only [hwhole, hafter, hsound]
        rfl
  · simp only [ofChars?, hwhole, hafter, hsound]
    rfl

theorem ofChars?_int (n : Int) : ofChars? (intChars n) = some (ofInt n) := by
  obtain ⟨hplus, hminus⟩ := ofChars?_digits (fun _ => isDigit_of_mem_toDigits)
    (Nat.toDigits_ne_nil (n := n.natAbs)) (length_or_head?_toDigits n.natAbs)
  by_cases hneg : n < 0
  · rw [intChars, if_pos hneg, hminus, ofInt, decide_eq_true hneg]
  · rw [intChars, if_neg hneg, hplus, ofInt, decide_eq_false hneg]

/-- **An integer of 64 bits is read back,** with its sign. -/
theorem int?_ofInt {n : Int} (h : n.natAbs < UInt64.size) : (ofInt n).int? = some n := by
  have hdigits : Digits.natUpTo UInt64.size 10 ((Nat.toDigits 10 n.natAbs).map Digits.decimalValue)
      = n.natAbs := by
    have hvalue := Digits.natOf_toDigits n.natAbs
    rw [Digits.natUpTo_eq_natOf (by decide) (by rwa [hvalue]), hvalue]
  simp only [int?, ofInt, Option.isSome_none, Bool.or_self, Bool.false_eq_true, if_false, hdigits,
    if_neg (Nat.not_le.2 h)]
  by_cases hneg : n < 0
  · have hne : n.natAbs ≠ 0 := by omega
    rw [if_pos (decide_eq_true hneg), if_neg hne, Int.ofNat_natAbs_of_nonpos (by omega),
      Int.neg_neg]
  · rw [decide_eq_false hneg, if_neg Bool.false_ne_true, Int.natAbs_of_nonneg (by omega)]

end Numeral

/-- Different integers have different texts. -/
theorem intChars_injective : Function.Injective intChars := by
  intro n m h
  have hint : Numeral.ofInt n = Numeral.ofInt m := by
    rw [← Option.some_inj, ← Numeral.ofChars?_int, ← Numeral.ofChars?_int, h]
  simp only [Numeral.ofInt, Numeral.mk.injEq, decide_eq_decide, and_true] at hint
  obtain ⟨hsign, hdigits⟩ := hint
  have hsize : n.natAbs = m.natAbs := by
    rw [← Digits.natOf_toDigits n.natAbs, hdigits, Digits.natOf_toDigits]
  omega

namespace Value

/-- The value that a number is written as. -/
def ofInt (n : Int) : Value := .number (.ofInt n)

theorem unsigned?_ofInt {n size : Nat} (h : n < size) (hsize : size ≤ UInt64.size) :
    (ofInt n).unsigned? size = some n := by
  have hint : (ofInt n).int? = some (n : Int) := Numeral.int?_ofInt (by omega)
  rw [unsigned?, hint, Option.bind_some, if_pos (by omega), Int.toNat_natCast]

theorem uint8?_ofInt (b : UInt8) : (ofInt b.toNat).uint8? = some b := by
  rw [uint8?, unsigned?_ofInt b.toNat_lt (by decide), Option.map_some, UInt8.ofNat_toNat]

theorem uint32?_ofInt (n : UInt32) : (ofInt n.toNat).uint32? = some n := by
  rw [uint32?, unsigned?_ofInt n.toNat_lt (by decide), Option.map_some, UInt32.ofNat_toNat]

theorem uint64?_ofInt (n : UInt64) : (ofInt n.toNat).uint64? = some n := by
  rw [uint64?, unsigned?_ofInt n.toNat_lt (Nat.le_refl _), Option.map_some, UInt64.ofNat_toNat]

theorem int64?_ofInt (n : Int64) : (ofInt n.toInt).int64? = some n := by
  have hlow := n.le_toInt
  have hhigh := n.toInt_lt
  have hint : (ofInt n.toInt).int? = some n.toInt := Numeral.int?_ofInt (by
    simp only [UInt64.size]
    omega)
  have hfits : fitsInt64 n.toInt = true := by
    simp only [fitsInt64, Bool.and_eq_true, decide_eq_true_eq]
    omega
  rw [int64?, hint, Option.bind_some, if_pos hfits, Int64.ofInt_toInt]

end Value

end Json

end BlockAccess
