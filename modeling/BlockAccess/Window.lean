import BlockAccess.Key.Export

/-!
# Key windows

The keys that a manager works with at a time: the current key signs; a master also holds the key
that will be current next; retired keys are retained, newest first, to verify the tokens they have
signed. Every question about keys is answered from the `candidates`: the keys of the window in this
order, less those that have run out.

## Main results

* `mem_candidates` — the candidates are the unexpired keys of the window.
* `isDue_eq_false_iff` — a rotation is due when the interval of the current key is over.
-/

namespace BlockAccess

/-- The keys of a manager, and the durations they were made for. -/
structure KeyWindow where
  current? : Option BlockKey
  /-- Held by masters only: promoted to be the current key by the next rotation. -/
  next? : Option BlockKey
  /-- Retired keys, newest first. -/
  retained : List BlockKey
  /-- When the current key became current. -/
  currentSince : Instant
  interval : Millis
  lifetime : Millis
  deriving DecidableEq, Inhabited, Repr

namespace KeyWindow

/-- The window without a key. -/
def empty (since : Instant) (interval lifetime : Millis) : KeyWindow :=
  ⟨none, none, [], since, interval, lifetime⟩

/-- All keys: the current one, the next one, the retained ones. -/
def keys (w : KeyWindow) : List BlockKey := w.current?.toList ++ w.next?.toList ++ w.retained

/-- **The keys that count at a time,** in the order in which they are tried. -/
def candidates (w : KeyWindow) (now : Instant) : List BlockKey :=
  w.keys.filter fun k => !k.isExpired now

/-- The first candidate with the given id. -/
def find? (w : KeyWindow) (id : KeyId) (now : Instant) : Option BlockKey :=
  (w.candidates now).find? (·.id = id)

theorem mem_candidates {w : KeyWindow} {now : Instant} {k : BlockKey} :
    k ∈ w.candidates now ↔ k ∈ w.keys ∧ now ≤ k.expiry := by
  rw [candidates, List.mem_filter, BlockKey.not_isExpired_iff]

/-- The retired keys that a rotation leaves: the current key, good for as long as the tokens that it
may have signed until `now`, and the retained keys that have not run out. -/
def retiring (w : KeyWindow) (now : Instant) : List BlockKey :=
  (w.current?.map (·.extendedTo (now.after w.lifetime))).toList
    ++ w.retained.filter fun k => !k.isExpired now

/-- How many keys a rotation evicts because they have run out. -/
def evictedCount (w : KeyWindow) (now : Instant) : Nat :=
  w.retained.length + w.current?.toList.length - (w.retiring now).length

/-- Until when a key that becomes current at `now` has to be good: it signs for one interval, and
what it signs last is good for a lifetime. -/
def currentExpiry (w : KeyWindow) (now : Instant) : Instant :=
  (now.after w.interval).after w.lifetime

/-- When the current key is due to be replaced. -/
def dueAt (w : KeyWindow) : Instant := w.currentSince.after w.interval

/-- Whether a rotation is due: the interval is over, or there is no key at all. -/
def isDue (w : KeyWindow) (now : Instant) : Bool := w.current?.isNone || w.dueAt ≤ now

theorem isDue_eq_false_iff {w : KeyWindow} {current : BlockKey}
    (hcurrent : w.current? = some current) {now : Instant} :
    w.isDue now = false ↔ now < w.dueAt := by
  simp only [isDue, hcurrent, Option.isNone_some, Bool.false_or, decide_eq_false_iff_not,
    Instant.le_iff_toInt_le, Instant.lt_iff_toInt_lt, Int.not_le]

/-- The window in which `promoted` is current, `next` comes next, and at most `limit` of the
retired keys are kept. -/
def rotated (w : KeyWindow) (now : Instant) (promoted next : BlockKey) (limit : Nat) : KeyWindow :=
  { w with
    current? := some promoted
    next? := some next
    retained := (w.retiring now).take limit
    currentSince := now }

/-- The retired keys of an export, as an importer keeps them: those that are not the current key and
have not run out, newest first. -/
def retainedOf (e : KeyExport) (now : Instant) : List BlockKey :=
  (e.others.filter fun k => k.id ≠ e.current.id && !k.isExpired now).mergeSort
    fun a b => b.id ≤ a.id

/-- The window that an export makes, with at most `limit` retired keys. -/
def ofExport (e : KeyExport) (now : Instant) (limit : Nat) : KeyWindow :=
  ⟨some e.current, none, (retainedOf e now).take limit, now, e.interval, e.lifetime⟩

/-- The export of a window, if it has a current key. -/
def toExport? (w : KeyWindow) : Option KeyExport :=
  w.current?.map fun k => ⟨w.interval, w.lifetime, k, w.next?.toList ++ w.retained⟩

end KeyWindow

end BlockAccess
