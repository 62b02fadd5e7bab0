/-!
# Instants and durations

Every deadline of the library is an `Instant`: a signed 64-bit count of milliseconds since the
epoch. Durations are unsigned 64-bit counts (`Millis`). Moving an instant into the future
*saturates* twice: a duration too long for a signed count is taken as the longest one, and a
deadline that would leave the representable range is the last instant. So a very long lifetime
never turns into a deadline in the past.

All laws are stated through the view `Instant.toInt`, where the order and the addition are those
of the integers.

## Main results

* `Instant.le_iff_toInt_le`, `Instant.lt_iff_toInt_lt` — the order is the order of the view.
* `Instant.toInt_after` — moving forward is addition, cut off at the last instant.
-/

namespace BlockAccess

/-- A length of time in milliseconds. -/
abbrev Millis := UInt64

/-- A point in time, in milliseconds since the epoch. -/
structure Instant where
  /-- The signed count of milliseconds. -/
  millis : Int64
  deriving DecidableEq, Inhabited, Repr

namespace Instant

/-- The instant as an integer: the view in which the laws of time are stated. -/
def toInt (t : Instant) : Int := t.millis.toInt

/-- The epoch. -/
def epoch : Instant := ⟨0⟩

/-- The greatest millisecond count an instant can hold. -/
def lastMillis : Int := 0x7FFFFFFFFFFFFFFF

theorem toInt_le_lastMillis (t : Instant) : t.toInt ≤ lastMillis := by
  have h := t.millis.toInt_lt
  simp only [toInt, lastMillis]
  omega

theorem le_toInt (t : Instant) : -0x8000000000000000 ≤ t.toInt := t.millis.le_toInt

theorem toInt_inj {s t : Instant} (h : s.toInt = t.toInt) : s = t := by
  cases s
  cases t
  simp only [toInt, Int64.toInt_inj] at h
  rw [h]

instance : LE Instant := ⟨fun s t => s.toInt ≤ t.toInt⟩
instance : LT Instant := ⟨fun s t => s.toInt < t.toInt⟩
instance (s t : Instant) : Decidable (s ≤ t) := inferInstanceAs (Decidable (s.toInt ≤ t.toInt))
instance (s t : Instant) : Decidable (s < t) := inferInstanceAs (Decidable (s.toInt < t.toInt))

theorem le_iff_toInt_le {s t : Instant} : s ≤ t ↔ s.toInt ≤ t.toInt := Iff.rfl
theorem lt_iff_toInt_lt {s t : Instant} : s < t ↔ s.toInt < t.toInt := Iff.rfl

theorem le_refl (t : Instant) : t ≤ t := Int.le_refl t.toInt

theorem le_trans {s t u : Instant} (hst : s ≤ t) (htu : t ≤ u) : s ≤ u := by
  rw [le_iff_toInt_le] at hst htu ⊢
  omega

/-- The later of two instants. -/
protected def max (s t : Instant) : Instant := if s ≤ t then t else s

instance : Max Instant := ⟨Instant.max⟩

theorem toInt_max (s t : Instant) : (max s t).toInt = max s.toInt t.toInt := by
  show (if s ≤ t then t else s).toInt = _
  split <;> rename_i h <;> simp only [le_iff_toInt_le] at h <;> omega

theorem le_max_left (s t : Instant) : s ≤ max s t := by
  rw [le_iff_toInt_le, toInt_max]
  omega

theorem le_max_right (s t : Instant) : t ≤ max s t := by
  rw [le_iff_toInt_le, toInt_max]
  omega

theorem max_le {s t u : Instant} (hs : s ≤ u) (ht : t ≤ u) : max s t ≤ u := by
  rw [le_iff_toInt_le] at hs ht ⊢
  rw [toInt_max]
  omega

/-- **The instant `d` milliseconds after `t`**, or the last instant if there is none. -/
def after (t : Instant) (d : Millis) : Instant :=
  ⟨Int64.ofInt (min (t.toInt + min (d.toNat : Int) lastMillis) lastMillis)⟩

theorem toInt_after (t : Instant) (d : Millis) :
    (t.after d).toInt = min (t.toInt + min (d.toNat : Int) lastMillis) lastMillis := by
  have hlow := t.le_toInt
  simp only [toInt, lastMillis, after] at hlow ⊢
  exact Int64.toInt_ofInt_of_le (by omega) (by omega)

theorem le_after (t : Instant) (d : Millis) : t ≤ t.after d := by
  have h := t.toInt_le_lastMillis
  rw [le_iff_toInt_le, toInt_after]
  simp only [lastMillis] at h ⊢
  omega

/-- Before the last instant, a move forward leads past the instant. -/
theorem lt_after {t : Instant} (hlast : t.toInt < lastMillis) {d : Millis} (hd : d ≠ 0) :
    t < t.after d := by
  have hpos : d.toNat ≠ 0 := fun hzero => hd (UInt64.toNat_inj.1 hzero)
  rw [lt_iff_toInt_lt, toInt_after]
  simp only [lastMillis] at hlast ⊢
  omega

theorem after_le_after {s t : Instant} (h : s ≤ t) (d : Millis) : s.after d ≤ t.after d := by
  rw [le_iff_toInt_le] at h ⊢
  rw [toInt_after, toInt_after]
  omega

/-- Two moves can be made in either order, even where the last instant cuts them off. -/
theorem after_right_comm (t : Instant) (d d' : Millis) :
    (t.after d).after d' = (t.after d').after d := by
  apply toInt_inj
  simp only [toInt_after]
  omega

/-- Whether a deadline lies in the past. The deadline itself still counts as in time. -/
def isPast (deadline now : Instant) : Bool := deadline < now

@[simp] theorem isPast_iff {deadline now : Instant} :
    deadline.isPast now = true ↔ deadline.toInt < now.toInt := by
  simp [isPast, lt_iff_toInt_lt]

theorem isPast_eq_false_iff {deadline now : Instant} :
    deadline.isPast now = false ↔ now ≤ deadline := by
  rw [Bool.eq_false_iff, ne_eq, isPast_iff, le_iff_toInt_le]
  omega

/-- A clock that is moved by `d` milliseconds, in either direction, wraps around at 64 bits. -/
def shift (t : Instant) (d : Int64) : Instant := ⟨t.millis + d⟩

/-- The decimal text of the millisecond count. -/
def decimal (t : Instant) : String := toString t.toInt

end Instant

end BlockAccess
