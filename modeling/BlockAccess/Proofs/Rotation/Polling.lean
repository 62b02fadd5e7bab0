import BlockAccess.Proofs.Rotation.Tolerance

/-!
# Masters that are polled

A master is usually not told to rotate; it is asked again and again to rotate if that is due.
`PollRun` is a sequence of such polls, all of which succeeded. Three things are to be known of it.
Two rotations are an interval apart, so that not many of them can fall into the life of a token.
Right after a poll nothing is due, so that the current key is good for a lifetime more. And a key
that is replaced late is extended when it is retired, so that it does not matter if it had run out.
Together they carry a token from its minting to its expiry, as long as the last poll is not more
than a lifetime ago. How far apart the polls are is of no account for the tokens that are checked
in time.

## Main results

* `MasterWindow.poll_cases` — a poll rotates if that is due, and otherwise changes nothing.
* `PollRun.isDue` — right after a poll nothing is due.
* `PollRun.count_le` — how many rotations fit into a span of time.
* `accepts_under_polling` — a polled master accepts the tokens it has minted throughout their life.
-/

namespace BlockAccess

/-- **A run of polls** on a manager `m` that was last polled at `p`: the number of the polls that
rotated, the time of the last poll, and the manager after it. No poll of the run is made before
`since`, the clock does not go back and is short of the last instant, and every poll succeeds. -/
inductive PollRun (since p : Instant) (m : Manager) : Nat → Instant → Manager → Prop
  | start : PollRun since p m 0 p m
  | poll {n : Nat} {p₁ now : Instant} {m₁ : Manager} {rotated : Bool} (entropy : Entropy)
      (hrun : PollRun since p m n p₁ m₁) (hclock : p₁ ≤ now) (hsince : since ≤ now)
      (hlast : now.toInt < Instant.lastMillis)
      (hresult : (RotationCall.rotateIfDue.run m₁ now entropy).result = .ok rotated) :
      PollRun since p m (n + rotated.toNat) now
        (RotationCall.rotateIfDue.run m₁ now entropy).manager

/-! ## One poll -/

namespace MasterWindow

variable {s : Settings} {m : Manager} {current next : BlockKey} {now : Instant}
  {entropy : Entropy} {rotated : Bool}

/-- **A poll rotates if that is due, and otherwise changes nothing.** -/
theorem poll_cases (h : MasterWindow s m current next)
    (hresult : (RotationCall.rotateIfDue.run m now entropy).result = .ok rotated) :
    (rotated = true ∧ m.window.dueAt ≤ now ∧
      ∃ secret, (RotationCall.rotateIfDue.run m now entropy).manager = m.renewed now next secret) ∨
    (rotated = false ∧ now < m.window.dueAt ∧
      (RotationCall.rotateIfDue.run m now entropy).manager = m) := by
  have heffect := h.effect .rotateIfDue now entropy
  rw [hresult] at heffect
  generalize (RotationCall.rotateIfDue.run m now entropy).manager = m' at heffect ⊢
  cases heffect with
  | rotated hdue hcounter hdraw =>
    have hlate : ¬ now < m.window.dueAt := by
      rw [← KeyWindow.isDue_eq_false_iff h.current?, hdue rfl]
      exact Bool.noConfusion
    rw [Instant.lt_iff_toInt_lt] at hlate
    exact .inl ⟨rfl, Int.not_lt.1 hlate, _, rfl⟩
  | notDue hdue => exact .inr ⟨rfl, (KeyWindow.isDue_eq_false_iff h.current?).1 hdue, rfl⟩

/-- Right after a poll nothing is due. -/
theorem isDue_poll (h : MasterWindow s m current next) (hlast : now.toInt < Instant.lastMillis)
    (hresult : (RotationCall.rotateIfDue.run m now entropy).result = .ok rotated) :
    (RotationCall.rotateIfDue.run m now entropy).manager.window.isDue now = false := by
  obtain ⟨hinterval, -⟩ := Settings.fault?_eq_none_iff.1 h.settings
  rcases h.poll_cases hresult with ⟨-, -, secret, hrenewed⟩ | ⟨-, hearly, hsame⟩
  · rw [hrenewed]
    refine (KeyWindow.isDue_eq_false_iff rfl).2 (Instant.lt_after hlast ?_)
    exact h.interval ▸ hinterval
  · rw [hsame]
    exact (KeyWindow.isDue_eq_false_iff h.current?).2 hearly

theorem interval_pos (h : MasterWindow s m current next) : 0 < s.interval.toNat := by
  obtain ⟨hinterval, -⟩ := Settings.fault?_eq_none_iff.1 h.settings
  exact Nat.pos_of_ne_zero fun hzero => hinterval (UInt64.toNat_inj.1 hzero)

/-- Where nothing is due at `p`, the current key is good for a lifetime from `p` on. -/
theorem le_current_expiry (h : MasterWindow s m current next) {p t : Instant}
    (hdue : m.window.isDue p = false) (hrecent : t ≤ p.after s.lifetime) :
    t ≤ current.expiry := by
  have hearly : p ≤ m.window.dueAt := by
    have hlt := (KeyWindow.isDue_eq_false_iff h.current?).1 hdue
    rw [Instant.lt_iff_toInt_lt] at hlt
    exact Int.le_of_lt hlt
  have hlate := Instant.after_le_after hearly s.lifetime
  have hexpiry := h.current_expiry
  rw [KeyWindow.currentExpiry, h.lifetime] at hexpiry
  exact Instant.le_trans hrecent (Instant.le_trans hlate hexpiry)

end MasterWindow

/-! ## Runs of polls -/

/-- How many gaps fit into a span of time, if the last one may reach beyond it. -/
theorem le_one_add_div {a b : Int} {n gap span : Nat} (hpos : 0 < gap)
    (hfit : a + n * gap ≤ b + gap) (hspan : b ≤ a + span) : n ≤ 1 + span / gap := by
  have hcast : ((n * gap : Nat) : Int) = n * gap := Int.natCast_mul ..
  have hmul : n * gap ≤ span + gap := by omega
  rw [Nat.add_comm, ← Nat.add_div_right span hpos]
  exact (Nat.le_div_iff_mul_le hpos).2 hmul

namespace PollRun

variable {s : Settings} {since p p' : Instant} {m m' : Manager} {n : Nat}
  {current next : BlockKey}

/-- Polls are calls, and as many of them rotate. -/
theorem rotationRun (hrun : PollRun since p m n p' m') :
    ∃ t, RotationRun (· ≤ ·) since m n t m' ∧ ∀ t', since ≤ t' → p' ≤ t' → t ≤ t' := by
  induction hrun with
  | start => exact ⟨since, .start, fun t' hsince _ => hsince⟩
  | @poll n p₁ now m₁ rotated entropy _ hclock hsince _ hresult ih =>
    obtain ⟨t, hcalls, hle⟩ := ih
    have hnow := hle now hsince hclock
    cases rotated with
    | true =>
      exact ⟨now, .rotated .rotateIfDue entropy hcalls hnow hresult, fun _ _ hpolled => hpolled⟩
    | false =>
      have hkept : (RotationCall.rotateIfDue.run m₁ now entropy).result ≠ .ok true := by
        simp [hresult]
      exact ⟨now, .kept .rotateIfDue entropy hcalls hnow hkept, fun _ _ hpolled => hpolled⟩

theorem masterWindow (hrun : PollRun since p m n p' m') (h : MasterWindow s m current next) :
    ∃ current' next', MasterWindow s m' current' next' := by
  obtain ⟨t, hcalls, -⟩ := hrun.rotationRun
  exact hcalls.masterWindow h

/-- **Right after a poll nothing is due,** and so it stays until the next poll is made. -/
theorem isDue (hrun : PollRun since p m n p' m') (h : MasterWindow s m current next)
    (hdue : m.window.isDue p = false) : m'.window.isDue p' = false := by
  cases hrun with
  | start => exact hdue
  | poll entropy hrun _ _ hlast hresult =>
    obtain ⟨current₁, next₁, h₁⟩ := hrun.masterWindow h
    exact h₁.isDue_poll hlast hresult

/-- The rotations of a run are an interval apart: the first is made at `since` or later, and the
last is the one that made the current key current. -/
theorem spaced (hrun : PollRun since p m n p' m') (h : MasterWindow s m current next) :
    n = 0 ∨ (m'.window.currentSince ≤ p' ∧
      since.toInt + n * s.interval.toNat ≤ m'.window.currentSince.toInt + s.interval.toNat) := by
  obtain ⟨-, -, -, hinterval, -⟩ := Settings.fault?_eq_none_iff.1 h.settings
  induction hrun with
  | start => exact .inl rfl
  | @poll n p₁ now m₁ rotated entropy hrun hclock hsince hlast hresult ih =>
    obtain ⟨current₁, next₁, h₁⟩ := hrun.masterWindow h
    rcases h₁.poll_cases hresult with ⟨rfl, hdue, secret, hrenewed⟩ | ⟨rfl, -, hsame⟩
    · rw [hrenewed]
      refine .inr ⟨Instant.le_refl now, ?_⟩
      show since.toInt + ((n + 1 : Nat) : Int) * s.interval.toNat ≤ now.toInt + s.interval.toNat
      rw [Instant.le_iff_toInt_le, KeyWindow.dueAt, h₁.interval, Instant.toInt_after] at hdue
      rw [Instant.le_iff_toInt_le] at hsince
      push_cast
      rw [Int.add_mul, Int.one_mul]
      rcases ih with rfl | ⟨-, hspaced⟩
      · simpa using hsince
      · omega
    · rw [hsame]
      rcases ih with rfl | ⟨hpolled, hspaced⟩
      · exact .inl rfl
      · exact .inr ⟨Instant.le_trans hpolled hclock, hspaced⟩

/-- **How many rotations fit into a span of time:** one at once, and one for every interval. -/
theorem count_le (hrun : PollRun since p m n p' m') (h : MasterWindow s m current next) {span : Nat}
    (hend : p'.toInt ≤ since.toInt + span) : n ≤ 1 + span / s.interval.toNat := by
  rcases hrun.spaced h with rfl | ⟨hpolled, hspaced⟩
  · exact Nat.zero_le _
  rw [Instant.le_iff_toInt_le] at hpolled
  exact le_one_add_div h.interval_pos hspaced (Int.le_trans hpolled hend)

end PollRun

/-! ## Tokens -/

/-- **A polled master accepts the tokens it has minted throughout their life.** From the first poll
on, at `p₀`, the master is only polled. It has last been polled at `p₁` when it mints a token at
`t`, and at `p₂` when it checks the token at `t'`. The cap is above the number of intervals in a
lifetime, and the last poll is not more than a lifetime ago. -/
theorem accepts_under_polling {clock : Instant → Instant → Prop} {s : Settings}
    {t₀ p₀ p₁ t p₂ t' : Instant} {m m₁ m₂ : Manager} {entropy : Entropy} {rotated : Bool}
    {n₁ n₂ : Nat} {block : Block} {modes : AccessModes} {owner? : Option String} {token : Token}
    (hreached : ReachedMaster clock s t₀ m)
    (hroom : 1 + s.lifetime.toNat / s.interval.toNat ≤ s.maxRetained.toNat)
    (hfirst : (RotationCall.rotateIfDue.run m p₀ entropy).result = .ok rotated)
    (hlast : p₀.toInt < Instant.lastMillis)
    (hbefore : PollRun p₀ p₀ (RotationCall.rotateIfDue.run m p₀ entropy).manager n₁ p₁ m₁)
    (hmint : m₁.mint t block modes owner? = .ok token)
    (hafter : PollRun t p₁ m₁ n₂ p₂ m₂) (htime : t ≤ t') (hpolled : p₂ ≤ t')
    (hrecent : t' ≤ p₂.after s.lifetime) :
    ∃ k x, m₁.window.current? = some k ∧ x = m₁.identifierFor t k block modes owner? ∧
      (t' ≤ x.expiry → m₂.Accepts t' token x) := by
  obtain ⟨_, _, h⟩ := hreached.masterWindow
  obtain ⟨_, _, h₀⟩ := h.call .rotateIfDue p₀ entropy
  obtain ⟨current, next, h₁⟩ := hbefore.masterWindow h₀
  have hcarries := h₁.carries_of_mint hmint
  refine ⟨current, _, h₁.current?, rfl, fun hexpiry => ?_⟩
  have hlife : t' ≤ t.after s.lifetime := h₁.lifetime ▸ hexpiry
  obtain ⟨t₁, hcalls, hle⟩ := hafter.rotationRun
  have hspan : p₂.toInt ≤ t.toInt + s.lifetime.toNat := by
    rw [Instant.le_iff_toInt_le, Instant.toInt_after] at hlife
    rw [Instant.le_iff_toInt_le] at hpolled
    omega
  have hcount := Nat.le_trans (hafter.count_le h₁ hspan) hroom
  have hend := Instant.le_trans (hle t' htime hpolled) hlife
  rcases hcalls.window_or_retiredWithin h₁ hcount hend with ⟨rfl, hwindow⟩ | ⟨-, hretired⟩
  · have hdue := hafter.isDue h₁ (hbefore.isDue h₀ (h.isDue_poll hlast hfirst))
    have hgood := h₁.le_current_expiry (hwindow ▸ hdue) hrecent
    have hcandidate := KeyWindow.current_mem_candidates h₁.current? hgood
    exact hcarries.accepts (hwindow ▸ hcandidate) rfl hexpiry
  · obtain ⟨k, hmem, hsecret⟩ := hretired.candidate hlife
    exact hcarries.accepts hmem hsecret hexpiry

/-- A token minted just before a rotation, at the last moment of its life, when the last poll is
just a lifetime ago. -/
theorem accepts_under_polling_at_bounds :
    ∃ t x m₂, (Manager.zeroKeyed ⟨0⟩).mint ⟨600000⟩ ⟨"", 7⟩ .all none = .ok t ∧
      PollRun ⟨600000⟩ ⟨0⟩ (.zeroKeyed ⟨0⟩) 1 ⟨600000⟩ m₂ ∧
      x.expiry = ⟨1200000⟩ ∧ m₂.Accepts ⟨1200000⟩ t x := by
  obtain ⟨t, hmint⟩ := mint_zeroKeyed ⟨0⟩ ⟨600000⟩ .all
  have hfirst : (RotationCall.rotateIfDue.run (.zeroKeyed ⟨0⟩) ⟨0⟩ (.zeros 0)).result
      = .ok false := rfl
  have hrotated : (RotationCall.rotateIfDue.run (.zeroKeyed ⟨0⟩) ⟨600000⟩ (.zeros 64)).result
      = .ok true := rfl
  have hpoll : PollRun ⟨600000⟩ ⟨0⟩ (.zeroKeyed ⟨0⟩) 1 ⟨600000⟩ _ :=
    .poll (.zeros 64) .start (by decide) (by decide) (by decide) hrotated
  have hlater : (⟨600000⟩ : Instant) ≤ ⟨1200000⟩ := by decide
  obtain ⟨k, x, hcurrent, hx, haccepts⟩ := accepts_under_polling
    (reachedMaster_zeroKeyed anyClock ⟨0⟩) (by decide) hfirst (by decide) .start hmint hpoll hlater
    hlater (by decide)
  have hexpiry : x.expiry = ⟨1200000⟩ := by
    cases hcurrent
    rw [hx]
    decide
  exact ⟨t, x, _, hmint, hpoll, hexpiry, haccepts (hexpiry ▸ Instant.le_refl _)⟩

end BlockAccess
