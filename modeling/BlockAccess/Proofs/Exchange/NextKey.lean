import BlockAccess.Proofs.Access.Issuance
import BlockAccess.Proofs.Exchange.Agreement

/-!
# Keys that are handed out before they sign

An export contains the key that the master will sign with after its next rotation. A slave that has
imported it can verify what is signed then, although it has heard nothing of the rotation. What it
has is an old copy: the master may extend the key when it becomes current, and the slave keeps the
expiry that the key had before. That expiry is two intervals and a lifetime after the current key
became current, which is enough for all that is signed within the two intervals. And the copy is in
no danger from the cap, since the next key is the newest of the keys that are cut to it.

## Main results

* `MasterWindow.next_mem_ofExport` — an importer keeps the next key, whatever its cap.
* `RotationRun.current_of_one` — after one rotation it is this key that signs.
* `accepts_with_distributed_key` — an importer accepts what is signed after the rotation.
-/

namespace BlockAccess

/-! ## The copy of the slave -/

namespace MasterWindow

variable {s : Settings} {m : Manager} {current next : BlockKey}

/-- **An importer keeps the next key,** whatever its cap, unless the key has run out. -/
theorem next_mem_ofExport (h : MasterWindow s m current next) {now : Instant}
    (hgood : now ≤ next.expiry) {limit : Nat} (hlimit : 1 ≤ limit) :
    next ∈ (KeyWindow.ofExport ⟨s.interval, s.lifetime, current, next :: m.window.retained⟩ now
      limit).keys := by
  have hkept : next.isExpired now = false := BlockKey.isExpired_eq_false_iff.2 hgood
  obtain ⟨n, rfl⟩ := Nat.exists_eq_add_of_le' hlimit
  rw [KeyWindow.keys_ofExport h.export_descending]
  refine List.mem_cons_of_mem _ ?_
  simp [hkept]

/-- What is signed within two intervals from when the current key became current runs out no later
than the next key. -/
theorem after_lifetime_le_next_expiry (h : MasterWindow s m current next) {now : Instant}
    (huntil : now ≤ (m.window.currentSince.after s.interval).after s.interval) :
    now.after s.lifetime ≤ next.expiry := by
  rw [h.next_expiry, KeyWindow.currentExpiry, h.interval, h.lifetime, Instant.after_right_comm _
    s.lifetime]
  exact Instant.after_le_after huntil s.lifetime

end MasterWindow

/-! ## The key of the master -/

namespace RotationRun

variable {clock : Instant → Instant → Prop} {s : Settings} {t t' : Instant} {m m' : Manager}
  {current next : BlockKey}

/-- A run without a rotation leaves the window alone. -/
theorem window_eq_of_zero (h : MasterWindow s m current next)
    (hrun : RotationRun clock t m 0 t' m') : m'.window = m.window := by
  generalize hn : 0 = n at hrun
  induction hrun with
  | start => rfl
  | rotated => omega
  | kept c entropy hrun _ hresult ih =>
    obtain ⟨current₁, next₁, h₁⟩ := hrun.masterWindow h
    rw [h₁.window_eq hresult]
    exact ih hn

/-- **After a run with one rotation the key that was next signs.** Its expiry may have changed. -/
theorem current_of_one (h : MasterWindow s m current next)
    (hrun : RotationRun clock t m 1 t' m') :
    ∃ k, m'.window.current? = some k ∧ k.secret = next.secret := by
  generalize hn : 1 = n at hrun
  induction hrun with
  | start => omega
  | @rotated n t₁ now m₁ c entropy hrun _ hresult ih =>
    obtain rfl : n = 0 := by omega
    obtain ⟨current₁, next₁, h₁⟩ := hrun.masterWindow h
    have hnext : next₁ = next := by
      have hsame := h₁.next?
      rw [hrun.window_eq_of_zero h, h.next?] at hsame
      exact (Option.some.inj hsame).symm
    obtain ⟨secret, hrenewed⟩ := h₁.eq_renewed hresult
    rw [hrenewed, ← hnext]
    exact ⟨_, rfl, rfl⟩
  | kept c entropy hrun _ hresult ih =>
    obtain ⟨current₁, next₁, h₁⟩ := hrun.masterWindow h
    rw [h₁.window_eq hresult]
    exact ih hn

end RotationRun

/-- **A slave verifies with a key that it was given in advance.** It imports the keys of a master at
`t₀`; the master rotates them once and mints a token at `t₂`, no later than two intervals after the
key became current that was current at the import. The slave accepts the token as long as it has not
run out, whatever the slave held before and however low its cap is. -/
theorem accepts_with_distributed_key {clock clock' : Instant → Instant → Prop} {s : Settings}
    {t t₀ t₁ t₂ : Instant} {m m' : Manager} {block : Block} {modes : AccessModes}
    {owner? : Option String} {token : Token} (hreached : ReachedMaster clock s t m)
    (hrun : RotationRun clock' t₀ m 1 t₁ m') (hmint : m'.mint t₂ block modes owner? = .ok token)
    (hfrom : t₀ ≤ t₂)
    (huntil : t₂ ≤ (m.window.currentSince.after s.interval).after s.interval) :
    ∃ e k x, m.exportKeys = .ok e ∧ m'.window.current? = some k ∧
      x = m'.identifierFor t₂ k block modes owner? ∧
      ∀ slave : Manager, slave.role = .slave → 1 ≤ slave.maxRetained →
        ∃ slave', slave.importKeys t₀ e = .ok slave' ∧
          ∀ t', t' ≤ x.expiry → slave'.Accepts t' token x := by
  obtain ⟨current, next, h⟩ := hreached.masterWindow
  obtain ⟨current', next', h'⟩ := hrun.masterWindow h
  have hcarries := h'.carries_of_mint hmint
  obtain ⟨signing, hsigning, hsecret⟩ := hrun.current_of_one h
  obtain rfl : signing = current' := Option.some.inj (hsigning.symm.trans h'.current?)
  have hlife := h.after_lifetime_le_next_expiry huntil
  refine ⟨_, signing, _, h.exportKeys, hsigning, rfl, fun slave hrole hcap => ?_⟩
  refine ⟨_, h.importKeys hrole t₀ _, fun t' htime => ?_⟩
  have hnow : t' ≤ next.expiry := by
    refine Instant.le_trans htime ?_
    rw [Manager.identifierFor, h'.lifetime]
    exact hlife
  have himported : t₀ ≤ next.expiry :=
    Instant.le_trans hfrom (Instant.le_trans (t₂.le_after s.lifetime) hlife)
  have hcandidate := KeyWindow.mem_candidates.2 ⟨h.next_mem_ofExport himported hcap, hnow⟩
  exact hcarries.accepts hcandidate hsecret.symm htime

/-- The master of the standard settings after its first rotation, made when it was due. -/
def Manager.zeroKeyedRenewed : Manager :=
  (zeroKeyed ⟨0⟩).renewed ⟨600000⟩ ⟨2, ⟨1800000⟩, List.replicate 64 0⟩ (List.replicate 64 0)

/-- A slave with room for a single key, a token of the last moment, and the end of its life. -/
theorem accepts_with_distributed_key_until_end :
    ∃ e token x slave', (Manager.zeroKeyed ⟨0⟩).exportKeys = .ok e ∧
      RotationRun (· ≤ ·) ⟨5⟩ (.zeroKeyed ⟨0⟩) 1 ⟨600000⟩ .zeroKeyedRenewed ∧
      Manager.zeroKeyedRenewed.mint ⟨1200000⟩ ⟨"", 7⟩ .all none = .ok token ∧
      x.expiry = ⟨1800000⟩ ∧
      (⟨.slave, false, 1, .empty ⟨0⟩ 1 1, 0⟩ : Manager).importKeys ⟨5⟩ e = .ok slave' ∧
      slave'.Accepts ⟨1800000⟩ token x := by
  have hrun : RotationRun (· ≤ ·) ⟨5⟩ (.zeroKeyed ⟨0⟩) 1 ⟨600000⟩ .zeroKeyedRenewed :=
    .rotated .rotateIfDue (.zeros 64) .start (by decide) rfl
  obtain ⟨token, hmint⟩ :
      ∃ token, Manager.zeroKeyedRenewed.mint ⟨1200000⟩ ⟨"", 7⟩ .all none = .ok token :=
    ⟨_, Manager.mint_eq_ok_iff.2
      ⟨rfl, _, _, rfl, Identifier.encode_eq_ok_iff.2 ⟨by decide, rfl⟩, rfl⟩⟩
  obtain ⟨e, k, x, hexport, hcurrent, hx, himports⟩ := accepts_with_distributed_key
    (reachedMaster_zeroKeyed anyClock ⟨0⟩) hrun hmint (by decide) (by decide)
  obtain ⟨slave', himport, haccepts⟩ := himports ⟨.slave, false, 1, .empty ⟨0⟩ 1 1, 0⟩ rfl
    (Nat.le_refl 1)
  have hexpiry : x.expiry = ⟨1800000⟩ := by
    cases hcurrent
    rw [hx]
    decide
  exact ⟨e, token, x, slave', hexport, hrun, hmint, hexpiry, himport,
    haccepts _ (hexpiry ▸ Instant.le_refl _)⟩

end BlockAccess
