import BlockAccess.Time.Instant

/-!
# Durations with nanoseconds

Callers give durations with a resolution of nanoseconds; the library works with whole
milliseconds. What is too long for a millisecond count is the longest one.

## Main results

* `Duration.toMillis_ofMillis` — a whole number of milliseconds survives.
-/

namespace BlockAccess

/-- A length of time in nanoseconds. -/
structure Duration where
  nanos : Nat
  deriving DecidableEq, Repr

namespace Duration

/-- The duration of whole seconds and further nanoseconds. -/
def ofSeconds (seconds nanos : Nat) : Duration := ⟨seconds * 1000000000 + nanos⟩

/-- The longest duration: a 64-bit count of seconds, and all nanoseconds short of one more. -/
def longest : Duration := ofSeconds (UInt64.size - 1) 999999999

def ofMillis (d : Millis) : Duration := ⟨d.toNat * 1000000⟩

/-- The whole milliseconds of a duration. -/
def toMillis (d : Duration) : Millis := UInt64.ofNat (min (d.nanos / 1000000) (UInt64.size - 1))

theorem toMillis_ofMillis (d : Millis) : (ofMillis d).toMillis = d := by
  have h := d.toNat_lt
  apply UInt64.toNat_inj.1
  simp only [ofMillis, toMillis, UInt64.size, Nat.mul_div_cancel _ (show 0 < 1000000 by decide),
    UInt64.toNat_ofNat']
  omega

end Duration

end BlockAccess
