import BlockAccess.Proofs.Access.Issuance

/-!
# Tokens outlive rotations

A token is signed with the current key, and that key is on the move: the next rotation retires it,
and every further rotation pushes it one place towards the end of the retained keys, where the cap
waits. Three bounds meet on the way, and each holds with equality at worst. Retiring the key makes
it good for a lifetime from the rotation on, which is not before the token was minted; a retained
key is only dropped after its expiry, which is not before that of the token; and the `r`-th rotation
leaves the key among the first `r` retained keys, which the cap spares as long as `r` is not above
it. `KeyWindow.RetiredWithin` is the invariant of the way, `r` being the number of rotations.

## Main results

* `KeyWindow.RetiredWithin.rotated` — one rotation moves a retired key by at most one place.
* `RotationRun.window_or_retiredWithin` — where the signing key is after a run.
* `accepts_after_rotations` — a token is accepted throughout its life, whatever number of rotations
  the cap allows for lies in between.
-/

namespace BlockAccess

/-- What a filter keeps does not move away from the front. -/
theorem mem_take_filter {α : Type} {p : α → Bool} {x : α} (hx : p x = true) (l : List α) :
    ∀ n : Nat, x ∈ l.take n → x ∈ (l.filter p).take n := by
  induction l with
  | nil =>
    intro n hmem
    simp at hmem
  | cons y ys ih =>
    intro n hmem
    cases n with
    | zero => simp at hmem
    | succ n =>
      rw [List.take_succ_cons] at hmem
      rcases List.mem_cons.1 hmem with rfl | hrest
      · simp [List.filter_cons_of_pos hx]
      · have hkept := ih n hrest
        by_cases hy : p y = true
        · rw [List.filter_cons_of_pos hy, List.take_succ_cons]
          exact List.mem_cons_of_mem y hkept
        · rw [List.filter_cons_of_neg hy]
          exact (List.take_prefix_take_left (Nat.le_succ n)).subset hkept

namespace KeyWindow

/-- **A key with the given secret was retired at most `r` rotations ago** and is good until
`deadline` at least. -/
def RetiredWithin (w : KeyWindow) (r : Nat) (secret : List UInt8) (deadline : Instant) : Prop :=
  ∃ k ∈ w.retained.take r, k.secret = secret ∧ deadline ≤ k.expiry

/-- The number of rotations is a bound. -/
theorem RetiredWithin.mono {w : KeyWindow} {r r' : Nat} {secret : List UInt8} {deadline : Instant}
    (h : w.RetiredWithin r secret deadline) (hr : r ≤ r') : w.RetiredWithin r' secret deadline := by
  obtain ⟨k, hmem, hk⟩ := h
  exact ⟨k, (List.take_prefix_take_left hr).subset hmem, hk⟩

/-- So is the deadline. -/
theorem RetiredWithin.earlier {w : KeyWindow} {r : Nat} {secret : List UInt8}
    {deadline deadline' : Instant} (h : w.RetiredWithin r secret deadline)
    (hle : deadline' ≤ deadline) : w.RetiredWithin r secret deadline' := by
  obtain ⟨k, hmem, hsecret, hexpiry⟩ := h
  exact ⟨k, hmem, hsecret, Instant.le_trans hle hexpiry⟩

/-- The current key is retired by a rotation, and is then good for as long as it was before, and for
a lifetime at least. -/
theorem retiredWithin_one {w : KeyWindow} {current : BlockKey}
    (hcurrent : w.current? = some current) (now : Instant) (promoted fresh : BlockKey)
    {limit : Nat} (hlimit : 1 ≤ limit) :
    (w.rotated now promoted fresh limit).RetiredWithin 1 current.secret
      (max current.expiry (now.after w.lifetime)) := by
  refine ⟨current.extendedTo (now.after w.lifetime), ?_, rfl, Instant.le_refl _⟩
  rw [rotated, List.take_take, Nat.min_eq_left hlimit]
  simp [retiring, hcurrent]

/-- **A rotation moves a retired key by at most one place** and keeps it, provided the key is still
needed and the cap leaves room for it. -/
theorem RetiredWithin.rotated {w : KeyWindow} {r : Nat} {secret : List UInt8} {deadline : Instant}
    (h : w.RetiredWithin r secret deadline) {current : BlockKey}
    (hcurrent : w.current? = some current) {now : Instant} (hnow : now ≤ deadline)
    (promoted fresh : BlockKey) {limit : Nat} (hlimit : r + 1 ≤ limit) :
    (w.rotated now promoted fresh limit).RetiredWithin (r + 1) secret deadline := by
  obtain ⟨k, hmem, hsecret, hexpiry⟩ := h
  have hgood : (!k.isExpired now) = true :=
    BlockKey.not_isExpired_iff.2 (Instant.le_trans hnow hexpiry)
  refine ⟨k, ?_, hsecret, hexpiry⟩
  rw [KeyWindow.rotated, List.take_take, Nat.min_eq_left hlimit]
  simp only [retiring, hcurrent, Option.map_some, Option.toList_some, List.singleton_append,
    List.take_succ_cons]
  have hkept := mem_take_filter (p := fun k : BlockKey => !k.isExpired now) hgood w.retained r hmem
  exact List.mem_cons_of_mem _ hkept

/-- A retired key that is still needed is a candidate. -/
theorem RetiredWithin.candidate {w : KeyWindow} {r : Nat} {secret : List UInt8}
    {deadline now : Instant} (h : w.RetiredWithin r secret deadline) (hnow : now ≤ deadline) :
    ∃ k ∈ w.candidates now, k.secret = secret := by
  obtain ⟨k, hmem, hsecret, hexpiry⟩ := h
  have hretained := List.mem_of_mem_take hmem
  exact ⟨k, mem_candidates.2 ⟨by simp [keys, hretained], Instant.le_trans hnow hexpiry⟩, hsecret⟩

end KeyWindow

/-! ## Runs -/

/-- A run under a clock that never goes back ends no earlier than it began. -/
theorem RotationRun.le {t t' : Instant} {m m' : Manager} {n : Nat}
    (hrun : RotationRun (· ≤ ·) t m n t' m') : t ≤ t' := by
  induction hrun with
  | start => exact Instant.le_refl t
  | rotated _ _ _ hclock _ ih => exact Instant.le_trans ih hclock
  | kept _ _ _ hclock _ ih => exact Instant.le_trans ih hclock

/-- A retired key goes through a run if it is needed that long and the cap leaves room for it. -/
theorem RotationRun.retiredWithin {s : Settings} {t t' deadline : Instant} {m m' : Manager}
    {r n : Nat} {secret : List UInt8} {current next : BlockKey} (h : MasterWindow s m current next)
    (hstart : m.window.RetiredWithin r secret deadline) (hrun : RotationRun (· ≤ ·) t m n t' m')
    (hn : r + n ≤ s.maxRetained.toNat) (hend : t' ≤ deadline) :
    m'.window.RetiredWithin (r + n) secret deadline := by
  induction hrun with
  | start => exact hstart
  | @rotated n t₁ now m₁ c entropy hrun hclock hresult ih =>
    obtain ⟨current₁, next₁, h₁⟩ := hrun.masterWindow h
    obtain ⟨_, hrenewed⟩ := h₁.eq_renewed hresult
    have hlimit : r + n + 1 ≤ m₁.maxRetained := h₁.maxRetained ▸ hn
    rw [hrenewed]
    exact (ih (by omega) (Instant.le_trans hclock hend)).rotated h₁.current? hend _ _ hlimit
  | kept c entropy hrun hclock hresult ih =>
    obtain ⟨current₁, next₁, h₁⟩ := hrun.masterWindow h
    rw [h₁.window_eq hresult]
    exact ih hn (Instant.le_trans hclock hend)

/-- **Where the key is that was current before a run.** After no rotation it is where it was; after
`n` rotations it was retired within the last `n`, and it is still good for all that it signed before
the run. -/
theorem RotationRun.window_or_retiredWithin {s : Settings} {t t' : Instant} {m m' : Manager}
    {n : Nat} {current next : BlockKey} (h : MasterWindow s m current next)
    (hrun : RotationRun (· ≤ ·) t m n t' m') (hn : n ≤ s.maxRetained.toNat)
    (hend : t' ≤ t.after s.lifetime) :
    (n = 0 ∧ m'.window = m.window) ∨
      (1 ≤ n ∧ m'.window.RetiredWithin n current.secret (t.after s.lifetime)) := by
  induction hrun with
  | start => exact .inl ⟨rfl, rfl⟩
  | @rotated n t₁ now m₁ c entropy hrun hclock hresult ih =>
    obtain ⟨current₁, next₁, h₁⟩ := hrun.masterWindow h
    obtain ⟨secret, hrenewed⟩ := h₁.eq_renewed hresult
    have hlimit : n + 1 ≤ m₁.maxRetained := h₁.maxRetained ▸ hn
    rw [hrenewed]
    refine .inr ⟨by omega, ?_⟩
    -- The first rotation retires the key; every further one moves it.
    rcases ih (by omega) (Instant.le_trans hclock hend) with ⟨rfl, hwindow⟩ | ⟨-, hretired⟩
    · have hcurrent : m₁.window.current? = some current := hwindow ▸ h.current?
      have hretired := KeyWindow.retiredWithin_one hcurrent now
        (next₁.extendedTo (m₁.window.currentExpiry now)) (m₁.freshNext now secret) hlimit
      have hlater := Instant.after_le_after (Instant.le_trans hrun.le hclock) s.lifetime
      rw [h₁.lifetime] at hretired
      exact hretired.earlier (Instant.le_trans hlater (Instant.le_max_right _ _))
    · exact hretired.rotated h₁.current? hend _ _ hlimit
  | kept c entropy hrun hclock hresult ih =>
    obtain ⟨current₁, next₁, h₁⟩ := hrun.masterWindow h
    rw [h₁.window_eq hresult]
    exact ih hn (Instant.le_trans hclock hend)

/-- **Tokens outlive rotations.** A token minted at `t` is accepted from then on until its expiry,
if the keys have been rotated `r` times in between and the cap is not below `r`. If they have not
been rotated at all, it must have been minted within the interval of the current key. -/
theorem accepts_after_rotations {clock : Instant → Instant → Prop} {s : Settings}
    {t₀ t t₁ t' : Instant} {m m' : Manager} {r : Nat} {block : Block} {modes : AccessModes}
    {owner? : Option String} {token : Token} (hreached : ReachedMaster clock s t₀ m)
    (hmint : m.mint t block modes owner? = .ok token)
    (hrun : RotationRun (· ≤ ·) t m r t₁ m') (hclock : t₁ ≤ t') (hr : r ≤ s.maxRetained.toNat)
    (hinterval : 1 ≤ r ∨ t ≤ m.window.currentSince.after m.window.interval) :
    ∃ k x, m.window.current? = some k ∧ x = m.identifierFor t k block modes owner? ∧
      (t' ≤ x.expiry → m'.Accepts t' token x) := by
  obtain ⟨current, next, h⟩ := hreached.masterWindow
  obtain ⟨k, hcurrent, hcarries⟩ := Manager.carries_of_mint hmint
  obtain rfl : current = k := Option.some.inj (h.current?.symm.trans hcurrent)
  refine ⟨current, _, hcurrent, rfl, fun htime => ?_⟩
  have hlife : t' ≤ t.after s.lifetime := h.lifetime ▸ htime
  rcases hrun.window_or_retiredWithin h hr (Instant.le_trans hclock hlife) with
    ⟨rfl, hwindow⟩ | ⟨-, hretired⟩
  · have hearly : t ≤ m.window.currentSince.after m.window.interval := by
      rcases hinterval with hpos | hearly
      · omega
      · exact hearly
    have hexpiry := Instant.le_trans (Instant.after_le_after hearly m.window.lifetime)
      h.current_expiry
    have hgood : t' ≤ current.expiry := Instant.le_trans htime hexpiry
    exact hcarries.accepts (hwindow ▸ KeyWindow.current_mem_candidates hcurrent hgood) rfl htime
  · obtain ⟨k, hmem, hsecret⟩ := hretired.candidate hlife
    exact hcarries.accepts hmem hsecret htime

/-- A token minted just before a rotation, at the last moment of its life. -/
theorem accepts_after_one_rotation :
    ∃ t x m', (Manager.zeroKeyed ⟨0⟩).mint ⟨599999⟩ ⟨"", 7⟩ .all none = .ok t ∧
      RotationRun (· ≤ ·) ⟨599999⟩ (.zeroKeyed ⟨0⟩) 1 ⟨600000⟩ m' ∧
      x.expiry = ⟨1199999⟩ ∧ m'.Accepts ⟨1199999⟩ t x := by
  obtain ⟨t, hmint⟩ := mint_zeroKeyed ⟨0⟩ ⟨599999⟩ .all
  have hrun : RotationRun (· ≤ ·) ⟨599999⟩ (.zeroKeyed ⟨0⟩) 1 ⟨600000⟩ _ :=
    .rotated .rotateIfDue (.zeros 64) .start (by decide) rfl
  have hlater : (⟨600000⟩ : Instant) ≤ ⟨1199999⟩ := by decide
  obtain ⟨k, x, hcurrent, hx, haccepts⟩ := accepts_after_rotations
    (reachedMaster_zeroKeyed anyClock ⟨0⟩) hmint hrun hlater (by decide) (.inl (Nat.le_refl 1))
  have hexpiry : x.expiry = ⟨1199999⟩ := by
    cases hcurrent
    rw [hx]
    decide
  exact ⟨t, x, _, hmint, hrun, hexpiry, haccepts (hexpiry ▸ Instant.le_refl _)⟩

end BlockAccess
