import BlockAccess.Proofs.Rotation.Polling
import BlockAccess.Proofs.Rotation.Secrets

/-!
# Polling more often than is needed

Nothing is lost by polling a master too often. `Manager.pollAll` polls it at each of a list of times
and tells at which of them it rotated. A rotation is due an interval after the current key became
current, and not by a schedule, so two of them are an interval apart however the times lie; and a
poll that finds nothing due takes neither an id nor entropy, so the later polls do not notice
whether it was made. `Padded` says which polls have been put in between: each of them is made when
nothing is due. That the clock does not go back is never used.

Two masters that draw from different sources of entropy rotate at the same times, and their windows
are the same but for the secrets. `KeyWindow.withoutSecrets` is what they share.

## Main results

* `MasterWindow.rotations_spaced` — the rotations of a run of polls are an interval apart.
* `Padded.pollAll_eq` — a run with extra polls ends as it would have ended without them.
* `MasterWindow.pollAll_congr` — the entropy decides about the secrets only.
* `extra_polls_harmless` — all of this for every master and every list of times.
-/

namespace BlockAccess

/-- Times each of which is `gap` milliseconds or more before the next. -/
def Spaced (gap : Nat) (times : List Instant) : Prop :=
  times.Pairwise fun t₁ t₂ => t₁.toInt + (gap : Int) ≤ t₂.toInt

/-! ## Polls at given times -/

namespace Manager

/-- What a run of polls leaves: the times at which the master rotated, the master, and the entropy
that is left. -/
structure Polled where
  rotations : List Instant
  manager : Manager
  entropy : Entropy

/-- The same run with a poll at `now` before it. -/
def Polled.after (p : Polled) (now : Instant) (rotated : Bool) : Polled :=
  { p with rotations := if rotated then now :: p.rotations else p.rotations }

/-- **Polls a master at each of the times in turn,** up to the first poll that fails. -/
def pollAll (m : Manager) (entropy : Entropy) : List Instant → Except AccessError Polled
  | [] => .ok ⟨[], m, entropy⟩
  | now :: times => do
    let poll := m.rotateIfDue now entropy
    let rotated ← poll.result
    let later ← poll.manager.pollAll poll.entropy times
    return later.after now rotated

variable {m : Manager} {entropy : Entropy} {now : Instant} {times : List Instant} {p : Polled}

theorem pollAll_cons_eq_ok :
    m.pollAll entropy (now :: times) = .ok p ↔
      ∃ rotated later, (m.rotateIfDue now entropy).result = .ok rotated ∧
        (m.rotateIfDue now entropy).manager.pollAll (m.rotateIfDue now entropy).entropy times
          = .ok later ∧ later.after now rotated = p := by
  simp only [pollAll]
  cases (m.rotateIfDue now entropy).result with
  | error e => simp [bind, Except.bind]
  | ok rotated =>
    cases (m.rotateIfDue now entropy).manager.pollAll (m.rotateIfDue now entropy).entropy times with
    | error e => simp [bind, Except.bind]
    | ok later => simp [bind, Except.bind, pure, Except.pure]

/-- A run can be stopped at any of its polls. -/
theorem pollAll_append_eq_ok {before after : List Instant}
    (h : m.pollAll entropy (before ++ after) = .ok p) :
    ∃ first later, m.pollAll entropy before = .ok first ∧
      first.manager.pollAll first.entropy after = .ok later := by
  induction before generalizing m entropy p with
  | nil => exact ⟨_, p, rfl, h⟩
  | cons now before ih =>
    rw [List.cons_append] at h
    obtain ⟨rotated, later, hresult, hlater, -⟩ := pollAll_cons_eq_ok.1 h
    obtain ⟨first, last, hfirst, hlast⟩ := ih hlater
    have hboth := pollAll_cons_eq_ok.2 ⟨rotated, first, hresult, hfirst, rfl⟩
    exact ⟨first.after now rotated, last, hboth, hlast⟩

/-- It rotates at some of the times, in the order in which they come. -/
theorem rotations_sublist (h : m.pollAll entropy times = .ok p) : p.rotations.Sublist times := by
  induction times generalizing m entropy p with
  | nil =>
    cases h
    exact List.Sublist.refl []
  | cons now times ih =>
    obtain ⟨rotated, later, -, hlater, rfl⟩ := pollAll_cons_eq_ok.1 h
    have hsub := ih hlater
    cases rotated with
    | true => exact hsub.cons_cons now
    | false => exact hsub.cons now

end Manager

open Manager (Polled)

/-- **Polls put in between.** The second list is the first with more times in it, at each of which
the master that is polled at the first times only has nothing due. -/
inductive Padded : Manager → Entropy → List Instant → List Instant → Prop
  | done (m : Manager) (entropy : Entropy) : Padded m entropy [] []
  | poll {m : Manager} {entropy : Entropy} {times padded : List Instant} (now : Instant)
      (h : Padded (m.rotateIfDue now entropy).manager (m.rotateIfDue now entropy).entropy times
        padded) : Padded m entropy (now :: times) (now :: padded)
  | extra {m : Manager} {entropy : Entropy} {times padded : List Instant} (now : Instant)
      (hdue : m.window.isDue now = false) (h : Padded m entropy times padded) :
      Padded m entropy times (now :: padded)

namespace MasterWindow

variable {s : Settings} {m : Manager} {current next : BlockKey} {entropy : Entropy}
  {times : List Instant} {p : Polled}

/-- **A poll either rotates when that is due, or leaves everything as it is,** the entropy too. -/
theorem rotateIfDue_cases (h : MasterWindow s m current next) {now : Instant} {rotated : Bool}
    (hresult : (m.rotateIfDue now entropy).result = .ok rotated) :
    (rotated = true ∧ m.window.dueAt ≤ now ∧
      ∃ secret, (m.rotateIfDue now entropy).manager = m.renewed now next secret) ∨
    (rotated = false ∧ now < m.window.dueAt ∧
      m.rotateIfDue now entropy = ⟨.ok false, m, entropy, []⟩) := by
  rcases h.poll_cases hresult with hrotated | ⟨hkept, hearly, -⟩
  · exact .inl hrotated
  · have hdue := (KeyWindow.isDue_eq_false_iff h.current?).2 hearly
    exact .inr ⟨hkept, hearly, Manager.rotateIfDue_of_not_due h.role hdue entropy⟩

/-- Whatever a poll does, it leaves a master. -/
theorem rotateIfDue (h : MasterWindow s m current next) (now : Instant) (entropy : Entropy) :
    ∃ current' next', MasterWindow s (m.rotateIfDue now entropy).manager current' next' :=
  h.call .rotateIfDue now entropy

theorem pollAll (h : MasterWindow s m current next) (hpolled : m.pollAll entropy times = .ok p) :
    ∃ current' next', MasterWindow s p.manager current' next' := by
  induction times generalizing m entropy p current next with
  | nil =>
    cases hpolled
    exact ⟨current, next, h⟩
  | cons now times ih =>
    obtain ⟨rotated, later, -, hlater, rfl⟩ := Manager.pollAll_cons_eq_ok.1 hpolled
    obtain ⟨current₁, next₁, h₁⟩ := h.rotateIfDue now entropy
    show ∃ current' next', MasterWindow s later.manager current' next'
    exact ih h₁ hlater

/-- The interval after the current key became current is over when a poll rotates: short of the
last instant, the deadline is not cut off. -/
theorem interval_le_of_dueAt_le (h : MasterWindow s m current next) {t : Instant}
    (hlast : t.toInt < Instant.lastMillis) (hdue : m.window.dueAt ≤ t) :
    m.window.currentSince.toInt + s.interval.toNat ≤ t.toInt := by
  obtain ⟨-, -, -, hinterval, -⟩ := Settings.fault?_eq_none_iff.1 h.settings
  rw [Instant.le_iff_toInt_le, KeyWindow.dueAt, h.interval, Instant.toInt_after] at hdue
  omega

/-- **The rotations of a run of polls are an interval apart,** and the first of them is an interval
away from the last rotation before the run. -/
theorem rotations_spaced (h : MasterWindow s m current next)
    (hlast : ∀ t ∈ times, t.toInt < Instant.lastMillis)
    (hpolled : m.pollAll entropy times = .ok p) :
    Spaced s.interval.toNat (m.window.currentSince :: p.rotations) := by
  induction times generalizing m entropy p current next with
  | nil =>
    cases hpolled
    exact List.pairwise_singleton _ _
  | cons now times ih =>
    obtain ⟨rotated, later, hresult, hlater, rfl⟩ := Manager.pollAll_cons_eq_ok.1 hpolled
    obtain ⟨hnow, htimes⟩ := List.forall_mem_cons.1 hlast
    obtain ⟨current₁, next₁, h₁⟩ := h.rotateIfDue now entropy
    have hspaced := ih h₁ htimes hlater
    rcases h.rotateIfDue_cases hresult with ⟨rfl, hdue, secret, hrenewed⟩ | ⟨rfl, -, hsame⟩
    · -- The run goes on from a master whose current key became current at `now`.
      have hfirst := h.interval_le_of_dueAt_le hnow hdue
      rw [hrenewed] at hspaced
      refine List.pairwise_cons.2 ⟨fun t ht => ?_, hspaced⟩
      rcases List.mem_cons.1 ht with rfl | hlate
      · exact hfirst
      · have hapart := (List.pairwise_cons.1 hspaced).1 t hlate
        change now.toInt + (s.interval.toNat : Int) ≤ t.toInt at hapart
        omega
    · rwa [hsame] at hspaced

end MasterWindow

/-! ## Counting -/

/-- Times that are `gap` apart take up a `gap` each, the last one apart. -/
theorem Spaced.length_mul_le {gap : Nat} {a b : Int} {times : List Instant}
    (hspaced : Spaced gap times)
    (hwithin : ∀ t ∈ times, a ≤ t.toInt ∧ t.toInt ≤ b) (hle : a ≤ b) :
    a + times.length * gap ≤ b + gap := by
  induction times generalizing a with
  | nil =>
    simp only [List.length_nil, Int.natCast_zero, Int.zero_mul]
    omega
  | cons t times ih =>
    obtain ⟨hfirst, hlater⟩ := List.pairwise_cons.1 hspaced
    obtain ⟨⟨hstart, hend⟩, hrest⟩ := List.forall_mem_cons.1 hwithin
    rw [List.length_cons, Int.natCast_add, Int.add_mul, Int.natCast_one, Int.one_mul]
    cases times with
    | nil =>
      simp only [List.length_nil, Int.natCast_zero, Int.zero_mul]
      omega
    | cons t' times =>
      have hnext := hfirst t' (List.mem_cons_self ..)
      have hnextEnd := (hrest t' (List.mem_cons_self ..)).2
      have hcount := ih hlater (a := t.toInt + gap)
        (fun u hu => ⟨hfirst u hu, (hrest u hu).2⟩) (by omega)
      omega

/-- **How many times that are `gap` apart fit into a span of time:** one at once, and one for every
`gap`. -/
theorem Spaced.count_le {gap : Nat} (hpos : 0 < gap) {times : List Instant}
    (hspaced : Spaced gap times) {a b : Instant}
    (hle : a ≤ b) :
    (times.filter fun t => a ≤ t ∧ t ≤ b).length ≤ 1 + (b.toInt - a.toInt).toNat / gap := by
  rw [Instant.le_iff_toInt_le] at hle
  have hwithin : ∀ t ∈ times.filter fun t => a ≤ t ∧ t ≤ b, a.toInt ≤ t.toInt ∧ t.toInt ≤ b.toInt :=
    fun t ht => of_decide_eq_true (List.mem_filter.1 ht).2
  have hkept : Spaced gap (times.filter fun t => a ≤ t ∧ t ≤ b) := hspaced.filter _
  have hcount := hkept.length_mul_le hwithin hle
  exact le_one_add_div hpos hcount (by omega)

/-! ## Polls put in between -/

/-- **A run with extra polls ends as it would have ended without them.** -/
theorem Padded.pollAll_eq {s : Settings} {m : Manager} {current next : BlockKey} {entropy : Entropy}
    {times padded : List Instant} {p : Polled} (hpadded : Padded m entropy times padded)
    (h : MasterWindow s m current next) (hpolled : m.pollAll entropy times = .ok p) :
    m.pollAll entropy padded = .ok p := by
  induction hpadded generalizing p current next with
  | done m entropy => exact hpolled
  | @poll m entropy times padded now _ ih =>
    obtain ⟨rotated, later, hresult, hlater, hp⟩ := Manager.pollAll_cons_eq_ok.1 hpolled
    obtain ⟨current₁, next₁, h₁⟩ := h.rotateIfDue now entropy
    exact Manager.pollAll_cons_eq_ok.2 ⟨rotated, later, hresult, ih h₁ hlater, hp⟩
  | @extra m entropy times padded now hdue _ ih =>
    have hsame := Manager.rotateIfDue_of_not_due h.role hdue entropy
    refine Manager.pollAll_cons_eq_ok.2 ⟨false, p, ?_, ?_, rfl⟩
    · rw [hsame]
    · rw [hsame]
      exact ih h hpolled

/-! ## What does not depend on the entropy -/

/-- What a key is without its secret. -/
def BlockKey.withoutSecret (k : BlockKey) : BlockKey := { k with secret := [] }

namespace KeyWindow

/-- **The window without its secrets:** the ids and the expiries of its keys, when the current one
became current, and the durations. -/
def withoutSecrets (w : KeyWindow) : KeyWindow :=
  { w with
    current? := w.current?.map (·.withoutSecret)
    next? := w.next?.map (·.withoutSecret)
    retained := w.retained.map (·.withoutSecret) }

end KeyWindow

namespace Manager

/-- The manager without the secrets of its keys. -/
def withoutSecrets (m : Manager) : Manager := { m with window := m.window.withoutSecrets }

/-- What a rotation makes of a master, the secrets apart, does not depend on the secrets. -/
theorem withoutSecrets_renewed (m : Manager) (now : Instant) (next : BlockKey)
    (secret : List UInt8) :
    (m.renewed now next secret).withoutSecrets
      = m.withoutSecrets.renewed now next.withoutSecret [] :=
  m.mapSecrets_renewed (fun _ => []) now next secret

end Manager

namespace MasterWindow

variable {s : Settings} {m m' : Manager} {current current' next next' : BlockKey}
  {entropy entropy' : Entropy} {p p' : Polled}

theorem next_congr (h : MasterWindow s m current next) (h' : MasterWindow s m' current' next')
    (hsame : m.withoutSecrets = m'.withoutSecrets) : next.withoutSecret = next'.withoutSecret := by
  have hnext := congrArg (·.window.next?) hsame
  simpa [Manager.withoutSecrets, KeyWindow.withoutSecrets, h.next?, h'.next?] using hnext

/-- **Masters that differ in their secrets only answer a poll alike,** if neither of them fails, and
go on differing in their secrets only. -/
theorem poll_congr (h : MasterWindow s m current next) (h' : MasterWindow s m' current' next')
    (hsame : m.withoutSecrets = m'.withoutSecrets) {now : Instant} {rotated rotated' : Bool}
    (hresult : (m.rotateIfDue now entropy).result = .ok rotated)
    (hresult' : (m'.rotateIfDue now entropy').result = .ok rotated') :
    rotated = rotated' ∧ (m.rotateIfDue now entropy).manager.withoutSecrets
      = (m'.rotateIfDue now entropy').manager.withoutSecrets := by
  have hdueAt : m.window.dueAt = m'.window.dueAt := congrArg (·.window.dueAt) hsame
  rcases h.rotateIfDue_cases hresult with ⟨rfl, hdue, _, hrenewed⟩ | ⟨rfl, hearly, hkept⟩ <;>
    rcases h'.rotateIfDue_cases hresult' with ⟨rfl, hdue', _, hrenewed'⟩ | ⟨rfl, hearly', hkept'⟩
  · rw [hrenewed, hrenewed', Manager.withoutSecrets_renewed, Manager.withoutSecrets_renewed, hsame,
      h.next_congr h' hsame]
    exact ⟨rfl, rfl⟩
  · rw [hdueAt] at hdue
    exact absurd hdue (Int.not_le.2 hearly')
  · rw [hdueAt] at hearly
    exact absurd hdue' (Int.not_le.2 hearly)
  · rw [hkept, hkept']
    exact ⟨rfl, hsame⟩

/-- **The entropy decides about the secrets only.** Two runs of polls at the same times rotate at
the same times, and leave windows that are the same but for the secrets. -/
theorem pollAll_congr {times : List Instant} (h : MasterWindow s m current next)
    (h' : MasterWindow s m' current' next') (hsame : m.withoutSecrets = m'.withoutSecrets)
    (hpolled : m.pollAll entropy times = .ok p) (hpolled' : m'.pollAll entropy' times = .ok p') :
    p.rotations = p'.rotations ∧ p.manager.withoutSecrets = p'.manager.withoutSecrets := by
  induction times generalizing m m' entropy entropy' p p' current current' next next' with
  | nil =>
    cases hpolled
    cases hpolled'
    exact ⟨rfl, hsame⟩
  | cons now times ih =>
    obtain ⟨rotated, later, hresult, hlater, rfl⟩ := Manager.pollAll_cons_eq_ok.1 hpolled
    obtain ⟨rotated', later', hresult', hlater', rfl⟩ := Manager.pollAll_cons_eq_ok.1 hpolled'
    obtain ⟨rfl, hnext⟩ := h.poll_congr h' hsame hresult hresult'
    obtain ⟨_, _, h₁⟩ := h.rotateIfDue now entropy
    obtain ⟨_, _, h₁'⟩ := h'.rotateIfDue now entropy'
    obtain ⟨hrotations, hmanager⟩ := ih h₁ h₁' hnext hlater hlater'
    refine ⟨?_, hmanager⟩
    rw [Polled.after, Polled.after, hrotations]

end MasterWindow

/-! ## The main result -/

/-- **Extra polling is harmless.** Let a master, whatever has happened to it before, be polled at a
list of times short of the last instant, and let no poll fail. Then

* it rotates at some of the times, and these are an interval apart, from each other and from the
  last rotation before the run;
* no span of time holds more of them than one and one for every interval;
* a poll that does not rotate leaves everything as it is, and nothing is due right after any poll;
* polls may be put in between wherever nothing is due: with the same entropy the run ends with the
  same keys, and with any other that does not fail, with the same keys but for their secrets. -/
theorem extra_polls_harmless {clock : Instant → Instant → Prop} {s : Settings} {t : Instant}
    {m : Manager} {entropy : Entropy} {times : List Instant} {p : Polled}
    (hreached : ReachedMaster clock s t m)
    (hlast : ∀ now ∈ times, now.toInt < Instant.lastMillis)
    (hpolled : m.pollAll entropy times = .ok p) :
    p.rotations.Sublist times ∧
    Spaced s.interval.toNat (m.window.currentSince :: p.rotations) ∧
    (∀ a b : Instant, a ≤ b → (p.rotations.filter fun now => a ≤ now ∧ now ≤ b).length
      ≤ 1 + (b.toInt - a.toInt).toNat / s.interval.toNat) ∧
    (∀ before now after, times = before ++ now :: after →
      ∃ first rotated, m.pollAll entropy before = .ok first ∧
        (first.manager.rotateIfDue now first.entropy).result = .ok rotated ∧
        (rotated = false → first.manager.rotateIfDue now first.entropy
          = ⟨.ok false, first.manager, first.entropy, []⟩) ∧
        (first.manager.rotateIfDue now first.entropy).manager.window.isDue now = false) ∧
    ∀ padded, Padded m entropy times padded →
      m.pollAll entropy padded = .ok p ∧
      ∀ entropy' p', m.pollAll entropy' padded = .ok p' →
        p'.rotations = p.rotations ∧
        p'.manager.window.withoutSecrets = p.manager.window.withoutSecrets := by
  obtain ⟨current, next, h⟩ := hreached.masterWindow
  have hspaced := h.rotations_spaced hlast hpolled
  refine ⟨Manager.rotations_sublist hpolled, hspaced, ?_, ?_, ?_⟩
  · intro a b hle
    exact Spaced.count_le h.interval_pos (List.pairwise_cons.1 hspaced).2 hle
  · rintro before now after rfl
    obtain ⟨first, later, hfirst, hrest⟩ := Manager.pollAll_append_eq_ok hpolled
    obtain ⟨rotated, -, hresult, -⟩ := Manager.pollAll_cons_eq_ok.1 hrest
    obtain ⟨current₁, next₁, h₁⟩ := h.pollAll hfirst
    have hnow := hlast now (by simp)
    refine ⟨first, rotated, hfirst, hresult, ?_, h₁.isDue_poll hnow hresult⟩
    rintro rfl
    rcases h₁.rotateIfDue_cases hresult with ⟨hrotated, -⟩ | ⟨-, -, hkept⟩
    · cases hrotated
    · exact hkept
  · intro padded hpadded
    have hsame := hpadded.pollAll_eq h hpolled
    refine ⟨hsame, fun entropy' p' hother => ?_⟩
    obtain ⟨hrotations, hmanager⟩ := h.pollAll_congr h rfl hother hsame
    exact ⟨hrotations, congrArg (·.window) hmanager⟩

set_option maxRecDepth 4000 in
/-- A master is polled once more in the very millisecond of a rotation, and in the last millisecond
before the next one is due; that one comes late, and other entropy does not move it. -/
theorem extra_polls_harmless_around_rotation :
    ∃ p p', (Manager.zeroKeyed ⟨0⟩).pollAll (.zeros 128) [⟨600000⟩, ⟨1300000⟩] = .ok p ∧
      p.rotations = [⟨600000⟩, ⟨1300000⟩] ∧
      (Manager.zeroKeyed ⟨0⟩).pollAll (.zeros 128)
        [⟨600000⟩, ⟨600000⟩, ⟨1199999⟩, ⟨1300000⟩] = .ok p ∧
      (Manager.zeroKeyed ⟨0⟩).pollAll (.bytes (List.replicate 128 1))
        [⟨600000⟩, ⟨600000⟩, ⟨1199999⟩, ⟨1300000⟩] = .ok p' ∧
      p'.manager.window ≠ p.manager.window ∧
      p'.manager.window.withoutSecrets = p.manager.window.withoutSecrets := by
  have hpolled : (Manager.zeroKeyed ⟨0⟩).pollAll (.zeros 128) [⟨600000⟩, ⟨1300000⟩] = .ok _ := rfl
  have hother : (Manager.zeroKeyed ⟨0⟩).pollAll (.bytes (List.replicate 128 1))
      [⟨600000⟩, ⟨600000⟩, ⟨1199999⟩, ⟨1300000⟩] = .ok _ := rfl
  have hlast : ∀ now ∈ [(⟨600000⟩ : Instant), ⟨1300000⟩], now.toInt < Instant.lastMillis := by
    decide
  obtain ⟨-, -, -, -, hpadding⟩ :=
    extra_polls_harmless (reachedMaster_zeroKeyed anyClock ⟨0⟩) hlast hpolled
  obtain ⟨hsame, hsecrets⟩ := hpadding [⟨600000⟩, ⟨600000⟩, ⟨1199999⟩, ⟨1300000⟩]
    (.poll _ (.extra _ rfl (.extra _ rfl (.poll _ (.done _ _)))))
  exact ⟨_, _, hpolled, rfl, hsame, hother, by decide, (hsecrets _ _ hother).2⟩

end BlockAccess
