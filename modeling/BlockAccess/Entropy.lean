/-!
# Entropy

Secrets and the first key id are drawn from a source of random bytes. A source may run dry: a draw
of more bytes than are left fails and takes nothing.
-/

namespace BlockAccess

/-- A source of random bytes. -/
inductive Entropy
  /-- Exactly these bytes. -/
  | bytes (left : List UInt8)
  /-- A linear congruential generator, and how many bytes it may still give. -/
  | generator (state : UInt64) (left? : Option Nat)
  deriving DecidableEq, Repr

namespace Entropy

instance : Inhabited Entropy := ⟨.generator 1 none⟩

/-- The next state of the generator. -/
def nextState (state : UInt64) : UInt64 := state * 6364136223846793005 + 1442695040888963407

/-- `n` bytes of a generator after those in `acc`, which are in reverse order, and its state
afterwards. Each byte is the top byte of the next state. -/
def generate (next : UInt64 → UInt64) (acc : List UInt8) : Nat → UInt64 → List UInt8 × UInt64
  | 0, state => (acc.reverse, state)
  | n + 1, state => generate next ((next state >>> 56).toUInt8 :: acc) n (next state)

/-- Draws `n` bytes. -/
def draw? (n : Nat) : Entropy → Option (List UInt8 × Entropy)
  | bytes left =>
    if n ≤ left.length then some (left.take n, bytes (left.drop n)) else none
  | generator state left? =>
    if left?.all (n ≤ ·) then
      let (drawn, after) := generate nextState [] n state
      some (drawn, generator after (left?.map (· - n)))
    else none

private theorem length_generate (next : UInt64 → UInt64) (acc : List UInt8) (n : Nat)
    (state : UInt64) : (generate next acc n state).1.length = acc.length + n := by
  induction n generalizing acc state with
  | zero => simp [generate]
  | succ n ih =>
    rw [generate, ih, List.length_cons]
    omega

/-- A draw that succeeds gives as many bytes as were asked for. -/
theorem length_of_draw? {n : Nat} {e e' : Entropy} {drawn : List UInt8}
    (h : e.draw? n = some (drawn, e')) : drawn.length = n := by
  cases e with
  | bytes left =>
    simp only [draw?] at h
    split at h
    · rename_i hle
      cases h
      simp [hle]
    · cases h
  | generator state left? =>
    simp only [draw?] at h
    split at h
    · cases h
      simp [length_generate]
    · cases h

end Entropy

end BlockAccess
