import BlockAccess.Proofs.Exchange.Capacity
import BlockAccess.Proofs.Rotation.Tolerance

/-!
# Slaves that are a rotation behind

A slave signs with the key that was current when it imported, until it imports again. If the master
rotates meanwhile, that key is retired there: it keeps the expiry it had, or is made good for a
lifetime from the rotation on, whichever is later. That covers all that was signed with the key up
to the rotation. What the slave signs with it afterwards has a whole lifetime from then on, and the
expiry of the key at the master is not moved a second time. So such a token is accepted by the
master until the key has run out there, however much of its own life is left, and not any longer:
its key is gone then for good.

## Main results

* `RotationRun.retiredUntil` — a retired key is never extended again.
* `accepts_from_stale_importer` — until when the master accepts what the slave signs.
* `stale_importer_outlives_key` — a token whose life is cut short.
-/

namespace BlockAccess

/-! ## The last extension of a key -/

/-- **A key with the given id was retired for good,** until `deadline` at most: the current key is a
newer one, and no retained key with the id is good for longer. -/
def KeyWindow.RetiredUntil (w : KeyWindow) (id : KeyId) (deadline : Instant) : Prop :=
  (∀ k ∈ w.current?, id < k.id) ∧ ∀ k ∈ w.retained, k.id = id → k.expiry ≤ deadline

namespace MasterWindow

variable {s : Settings} {m : Manager} {current next : BlockKey} {id : KeyId} {deadline : Instant}

/-- A rotation extends the current key only. -/
theorem retiredUntil_renewed (h : MasterWindow s m current next) (hid : id ≤ current.id)
    {now : Instant} (hcurrent : current.id = id →
      (current.extendedTo (now.after s.lifetime)).expiry ≤ deadline)
    (hretained : ∀ k ∈ m.window.retained, k.id = id → k.expiry ≤ deadline)
    (secret : List UInt8) : (m.renewed now next secret).window.RetiredUntil id deadline := by
  constructor
  · intro k hk
    obtain rfl : next.extendedTo (m.window.currentExpiry now) = k := Option.some.inj hk
    exact UInt32.lt_of_le_of_lt hid h.current_lt_next
  · intro k hk hsame
    have hretiring := List.mem_of_mem_take hk
    rw [KeyWindow.retiring, h.current?, h.lifetime] at hretiring
    rcases List.mem_cons.1 hretiring with rfl | hkept
    · exact hcurrent hsame
    · exact hretained k (List.mem_filter.1 hkept).1 hsame

/-- The key that a rotation retires. -/
theorem retiredUntil_current (h : MasterWindow s m current next) (now : Instant)
    (secret : List UInt8) :
    (m.renewed now next secret).window.RetiredUntil current.id
      (max current.expiry (now.after s.lifetime)) := by
  refine h.retiredUntil_renewed (UInt32.le_refl _) (fun _ => Instant.le_refl _) ?_ secret
  intro k hk hsame
  exact absurd hsame (UInt32.ne_of_lt (h.retained_lt_current hk))

/-- After the deadline the key is no candidate. -/
theorem id_ne_of_retiredUntil (h : MasterWindow s m current next)
    (hretired : m.window.RetiredUntil id deadline) {now : Instant} (hlate : deadline < now) :
    ∀ k ∈ m.window.candidates now, k.id ≠ id := by
  intro k hk
  obtain ⟨hmem, hgood⟩ := KeyWindow.mem_candidates.1 hk
  have hnewer : id < current.id := hretired.1 current h.current?
  rw [h.keys] at hmem
  rcases List.mem_cons.1 hmem with rfl | hmem
  · exact (UInt32.ne_of_lt hnewer).symm
  rcases List.mem_cons.1 hmem with rfl | hretained
  · exact (UInt32.ne_of_lt (UInt32.lt_trans hnewer h.current_lt_next)).symm
  · intro hsame
    have hexpiry := hretired.2 k hretained hsame
    rw [Instant.le_iff_toInt_le] at hexpiry hgood
    rw [Instant.lt_iff_toInt_lt] at hlate
    omega

end MasterWindow

/-- **A retired key is never extended again,** whatever the run and its clock. -/
theorem RotationRun.retiredUntil {clock : Instant → Instant → Prop} {s : Settings}
    {t t' deadline : Instant} {m m' : Manager} {n : Nat} {id : KeyId} {current next : BlockKey}
    (hrun : RotationRun clock t m n t' m') (h : MasterWindow s m current next)
    (hretired : m.window.RetiredUntil id deadline) : m'.window.RetiredUntil id deadline := by
  induction hrun with
  | start => exact hretired
  | rotated c entropy hrun _ hresult ih =>
    obtain ⟨current₁, next₁, h₁⟩ := hrun.masterWindow h
    obtain ⟨secret, hrenewed⟩ := h₁.eq_renewed hresult
    have hnewer : id < current₁.id := ih.1 current₁ h₁.current?
    rw [hrenewed]
    refine h₁.retiredUntil_renewed (UInt32.le_of_lt hnewer) (fun hsame => ?_) ih.2 secret
    exact absurd hsame.symm (UInt32.ne_of_lt hnewer)
  | kept c entropy hrun _ hresult ih =>
    obtain ⟨current₁, next₁, h₁⟩ := hrun.masterWindow h
    rw [h₁.window_eq hresult]
    exact ih

theorem KeyWindow.find?_eq_none {w : KeyWindow} {id : KeyId} {now : Instant}
    (hnone : ∀ k ∈ w.candidates now, k.id ≠ id) : w.find? id now = none :=
  List.find?_eq_none.2 fun k hk hsame => hnone k hk (of_decide_eq_true hsame)

/-- **Until when the master accepts what a slave signs that is a rotation behind.** The slave has
imported the keys that the master had before a rotation at `r`, and mints a token at `t₂`, with the
key that was current then. As long as that key has not run out by its copy, the slave accepts the
token itself. The master, through fewer further rotations than the cap, accepts it within its life
for as long as the key was good before the rotation, or for a lifetime from the rotation on,
whichever is later. After that the key is gone: what needs the key itself is refused, and so is the
token, unless another candidate happens to give its password. -/
theorem accepts_from_stale_importer {clock : Instant → Instant → Prop} {s : Settings}
    {t t₀ t₁ t₂ t' r : Instant} {m m' slave slave' : Manager} {e : KeyExport} {c : RotationCall}
    {entropy : Entropy} {n : Nat} {block : Block} {modes : AccessModes} {owner? : Option String}
    {token : Token} (hreached : ReachedMaster clock s t m) (hexport : m.exportKeys = .ok e)
    (himport : slave.importKeys t₀ e = .ok slave')
    (hresult : (c.run m r entropy).result = .ok true)
    (hrun : RotationRun (· ≤ ·) r (c.run m r entropy).manager n t₁ m')
    (hn : n < s.maxRetained.toNat) (hmint : slave'.mint t₂ block modes owner? = .ok token)
    (hclock : t₁ ≤ t') :
    ∃ k x, slave'.window.current? = some k ∧ x = slave'.identifierFor t₂ k block modes owner? ∧
      x.expiry = t₂.after s.lifetime ∧
      (t₂ ≤ k.expiry → slave'.Accepts t₂ token x) ∧
      (t' ≤ x.expiry → t' ≤ max k.expiry (r.after s.lifetime) → m'.Accepts t' token x) ∧
      (max k.expiry (r.after s.lifetime) < t' → m'.window.find? k.id t' = none ∧
        (t' ≤ x.expiry →
          (∀ k' ∈ m'.window.candidates t', k'.sign token.identifier ≠ token.password) →
          ∀ expected? : Option String, (expected? = none ∨ expected? = some x.owner) →
            ∀ mode : AccessMode, modes.contains mode = true →
              m'.checkAccess t' token expected? block mode = .error .invalidSignature)) := by
  obtain ⟨current, next, h⟩ := hreached.masterWindow
  obtain rfl := Except.ok.inj (hexport.symm.trans h.exportKeys)
  obtain ⟨-, rfl⟩ := Manager.eq_of_importKeys himport
  obtain ⟨k, hcurrent, hcarries⟩ := Manager.carries_of_mint hmint
  obtain rfl : current = k := Option.some.inj hcurrent
  obtain ⟨secret, hrenewed⟩ := h.eq_renewed hresult
  obtain ⟨current₁, next₁, h₁⟩ := h.call c r entropy
  obtain ⟨current₂, next₂, h₂⟩ := hrun.masterWindow h₁
  refine ⟨current, _, hcurrent, rfl, rfl, fun hgood => ?_, fun hlife hgood => ?_, fun hlate => ?_⟩
  · exact hcarries.accepts (KeyWindow.current_mem_candidates hcurrent hgood) rfl
      (t₂.le_after s.lifetime)
  · have hcap : 1 ≤ m.maxRetained := by
      rw [h.maxRetained]
      omega
    have hstart : (m.renewed r next secret).window.RetiredWithin 1 current.secret
        (max current.expiry (r.after m.window.lifetime)) :=
      KeyWindow.retiredWithin_one h.current? r _ _ hcap
    rw [← hrenewed, h.lifetime] at hstart
    have hplaces : 1 + n ≤ s.maxRetained.toNat := by omega
    have hretired := hrun.retiredWithin h₁ hstart hplaces (Instant.le_trans hclock hgood)
    obtain ⟨k, hmem, hsecret⟩ := hretired.candidate hgood
    exact hcarries.accepts hmem hsecret hlife
  · have hretired := hrun.retiredUntil h₁ (hrenewed ▸ h.retiredUntil_current r secret)
    have hgone := h₂.id_ne_of_retiredUntil hretired hlate
    exact ⟨KeyWindow.find?_eq_none hgone, fun hlife hnone expected? howner mode hmode =>
      hcarries.refused hnone hlife howner hmode⟩

/-! ## A slave that is behind -/

/-- Settings with short intervals and lifetimes. -/
def Settings.brisk : Settings := { standard with interval := 240000, lifetime := 240000 }

/-- A master of these settings with its first keys. The secret of the current key is all zeros, that
of the next key is all ones. -/
def Manager.brisk : Manager :=
  .firstMaster .brisk ⟨0⟩ 1 (List.replicate 64 0) (List.replicate 64 1)

set_option maxRecDepth 4000 in
theorem reachedMaster_brisk : ReachedMaster (· ≤ ·) .brisk ⟨0⟩ .brisk :=
  ⟨⟨0⟩, .bytes (List.replicate 68 0 ++ List.replicate 64 1), .brisk, 0, rfl, .start⟩

/-- What that master exports. -/
def KeyExport.brisk : KeyExport :=
  ⟨240000, 240000, ⟨1, ⟨480000⟩, List.replicate 64 0⟩, [⟨2, ⟨720000⟩, List.replicate 64 1⟩]⟩

/-- A slave of the same settings that has imported this at once. -/
def Manager.briskMirror : Manager := .ofSettings .slave .brisk (.ofExport .brisk ⟨0⟩ 16) 0

/-- The master after its first rotation, made when it was due. All its other secrets are all ones. -/
def Manager.briskRenewed : Manager :=
  (RotationCall.rotateIfDue.run .brisk ⟨240000⟩ (.bytes (List.replicate 64 1))).manager

theorem import_brisk :
    Manager.brisk.exportKeys = .ok .brisk ∧
      (Manager.ofSettings .slave .brisk (.empty ⟨0⟩ 1 1) 0).importKeys ⟨0⟩ .brisk
        = .ok .briskMirror :=
  ⟨rfl, rfl⟩

/-- What the slave signs two minutes after the rotation. -/
theorem mint_briskMirror :
    Manager.briskMirror.mint ⟨360000⟩ ⟨"", 7⟩ .all none
      = .ok (.ofSigned Identifier.earlySigned.wireBytes
          (BlockKey.sign ⟨1, ⟨480000⟩, List.replicate 64 0⟩ Identifier.earlySigned.wireBytes)) :=
  Manager.mint_eq_ok_iff.2
    ⟨rfl, _, _, rfl, Identifier.encode_eq_ok_iff.2 ⟨by decide, rfl⟩, rfl⟩

/-- The master accepts the token through a further rotation until the key has run out, two minutes
before the token does. -/
theorem accepts_from_stale_importer_until_end :
    ∃ token x m', Manager.briskMirror.mint ⟨360000⟩ ⟨"", 7⟩ .all none = .ok token ∧
      x.expiry = ⟨600000⟩ ∧ RotationRun (· ≤ ·) ⟨240000⟩ .briskRenewed 1 ⟨480000⟩ m' ∧
      Manager.briskMirror.Accepts ⟨360000⟩ token x ∧ m'.Accepts ⟨480000⟩ token x := by
  have hresult : (RotationCall.rotateIfDue.run .brisk ⟨240000⟩ (.bytes (List.replicate 64 1))).result
      = .ok true := rfl
  have hrun : RotationRun (· ≤ ·) ⟨240000⟩ .briskRenewed 1 ⟨480000⟩ _ :=
    .rotated .rotateIfDue (.zeros 64) .start (by decide) rfl
  obtain ⟨k, x, hcurrent, -, hexpiry, hslave, hmaster, -⟩ := accepts_from_stale_importer
    reachedMaster_brisk import_brisk.1 import_brisk.2 hresult hrun (by decide) mint_briskMirror
    (Instant.le_refl ⟨480000⟩)
  cases hcurrent
  have hend : x.expiry = ⟨600000⟩ := hexpiry.trans (by decide)
  exact ⟨_, x, _, mint_briskMirror, hend, hrun, hslave (by decide),
    hmaster (hend ▸ by decide) (by decide)⟩

/-- The slave accepts what it signs with its copy of the retired key; the master refuses it two
minutes before its expiry. -/
theorem stale_importer_outlives_key :
    ∃ (slave : Manager) (token : Token) (x : Identifier),
      ReachedMaster (· ≤ ·) .brisk ⟨0⟩ .brisk ∧ Manager.brisk.exportKeys = .ok .brisk ∧
      (Manager.newSlave .brisk ⟨0⟩ default).result = .ok slave ∧
      slave.importKeys ⟨0⟩ .brisk = .ok .briskMirror ∧
      RotationRun (· ≤ ·) ⟨0⟩ .brisk 1 ⟨240000⟩ .briskRenewed ∧
      Manager.briskMirror.mint ⟨360000⟩ ⟨"", 7⟩ .all none = .ok token ∧ x.expiry = ⟨600000⟩ ∧
      Manager.briskMirror.Accepts ⟨360000⟩ token x ∧
      Manager.briskRenewed.checkAccess ⟨480001⟩ token none ⟨"", 7⟩ .read
        = .error .invalidSignature := by
  have hform : Identifier.earlySigned.encode = .ok Identifier.earlySigned.wireBytes :=
    Identifier.encode_eq_ok_iff.2 ⟨by decide, rfl⟩
  have hcarries := Token.carries_ofSigned hform ⟨1, ⟨480000⟩, List.replicate 64 0⟩
  have hcopy : (⟨1, ⟨480000⟩, List.replicate 64 0⟩ : BlockKey)
      ∈ Manager.briskMirror.window.candidates ⟨360000⟩ :=
    KeyWindow.current_mem_candidates rfl (by decide)
  -- All keys of the master that have not run out have the other secret.
  have hothers : ∀ k ∈ Manager.briskRenewed.window.candidates ⟨480001⟩,
      k.secret = List.replicate 64 1 := by decide
  have hrotated : RotationRun (· ≤ ·) ⟨0⟩ .brisk 1 ⟨240000⟩ .briskRenewed :=
    .rotated .rotateIfDue (.bytes (List.replicate 64 1)) .start (by decide) rfl
  refine ⟨_, _, .earlySigned, reachedMaster_brisk, import_brisk.1, rfl, rfl, hrotated,
    mint_briskMirror, rfl, hcarries.accepts hcopy rfl (by decide), ?_⟩
  refine hcarries.refused (fun k hk hsigned => ?_) (by decide) (.inl rfl) rfl
  simp only [hothers k hk, Token.ofSigned, BlockKey.sign] at hsigned
  exact hmac_earlySigned_ne hsigned

end BlockAccess
