/-!
# Digits

Numbers written with the digits of a base. A reader that has room only for numbers below a bound
need not go on once the bound is reached, however many digits follow.

## Main results

* `natUpTo_eq_natOf` — below the bound nothing is left out.
* `natUpTo_lt_iff` — whether the bound is reached can be told from either number.
-/

namespace BlockAccess.Digits

/-- The value of a decimal digit. -/
def decimalValue (c : Char) : Nat := c.toNat - 48

/-- The number that digits write after `n`. -/
def natOnto (base n : Nat) (digits : List Nat) : Nat := digits.foldl (fun n d => n * base + d) n

/-- The number that digits write. -/
def natOf (base : Nat) (digits : List Nat) : Nat := natOnto base 0 digits

/-- The number that digits write after `n`, up to the digit by which the bound is reached. -/
def natOntoUpTo (bound base n : Nat) (digits : List Nat) : Nat :=
  digits.foldl (fun n d => if n < bound then n * base + d else n) n

/-- **The number that digits write, up to the digit by which the bound is reached.** The digits
after that one are left out. -/
def natUpTo (bound base : Nat) (digits : List Nat) : Nat := natOntoUpTo bound base 0 digits

theorem le_natOnto {base : Nat} (hbase : 0 < base) (n : Nat) (digits : List Nat) :
    n ≤ natOnto base n digits := by
  induction digits generalizing n with
  | nil => exact Nat.le_refl n
  | cons d rest ih =>
    have hstep : n ≤ n * base + d :=
      Nat.le_trans (Nat.le_mul_of_pos_right n hbase) (Nat.le_add_right _ _)
    exact Nat.le_trans hstep (ih (n * base + d))

theorem natOntoUpTo_of_le {bound n : Nat} (base : Nat) (h : bound ≤ n) (digits : List Nat) :
    natOntoUpTo bound base n digits = n := by
  induction digits with
  | nil => rfl
  | cons d rest ih => simpa [natOntoUpTo, Nat.not_lt.mpr h] using ih

theorem natOntoUpTo_cons_of_lt {bound n : Nat} (base : Nat) (h : n < bound) (d : Nat)
    (rest : List Nat) :
    natOntoUpTo bound base n (d :: rest) = natOntoUpTo bound base (n * base + d) rest := by
  simp [natOntoUpTo, h]

private theorem natOntoUpTo_eq {bound base n : Nat} (hbase : 0 < base) {digits : List Nat}
    (h : natOnto base n digits < bound) :
    natOntoUpTo bound base n digits = natOnto base n digits := by
  induction digits generalizing n with
  | nil => rfl
  | cons d rest ih =>
    have hn : n < bound := Nat.lt_of_le_of_lt (le_natOnto hbase n (d :: rest)) h
    rw [natOntoUpTo_cons_of_lt base hn]
    exact ih h

private theorem le_natOntoUpTo {bound base n : Nat} {digits : List Nat}
    (h : bound ≤ natOnto base n digits) :
    bound ≤ natOntoUpTo bound base n digits := by
  induction digits generalizing n with
  | nil => exact h
  | cons d rest ih =>
    by_cases hn : n < bound
    · rw [natOntoUpTo_cons_of_lt base hn]
      exact ih h
    · rw [natOntoUpTo_of_le base (Nat.not_lt.mp hn)]
      exact Nat.not_lt.mp hn

theorem natUpTo_eq_natOf {bound base : Nat} (hbase : 0 < base) {digits : List Nat}
    (h : natOf base digits < bound) : natUpTo bound base digits = natOf base digits :=
  natOntoUpTo_eq hbase h

theorem natUpTo_lt_iff {bound base : Nat} (hbase : 0 < base) {digits : List Nat} :
    natUpTo bound base digits < bound ↔ natOf base digits < bound := by
  constructor
  · intro h
    apply Nat.not_le.mp
    intro hle
    exact Nat.not_le.mpr h (le_natOntoUpTo hle)
  · intro h
    rwa [natUpTo_eq_natOf hbase h]

end BlockAccess.Digits
