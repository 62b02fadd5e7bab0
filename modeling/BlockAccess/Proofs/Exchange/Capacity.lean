import BlockAccess.Proofs.Access.Issuance
import BlockAccess.Proofs.Access.Verdict
import BlockAccess.Proofs.Exchange.Agreement

/-!
# What the cap of a slave costs

Master and slave may be set to keep the same number of retired keys. The master applies this cap to
retired keys only, and holds its next key apart. For the slave the next key is one more key of the
list that it cuts to its cap. So the list may be too long by one, and then its last key, the oldest
retired one, is lost: the master still verifies with it, and the slave does not. This happens
exactly when the window of the master is full (`KeyWindow.FullAt`); in every other case something
has run out, or the cap has not been reached, and the slave keeps all that the master verifies with.

## Main results

* `KeyWindow.length_le_of_not_fullAt` — a window that is not full fits under the cap.
* `MasterWindow.keys_ofExport_of_fullAt` — from a full window the importer takes all but the last.
* `import_under_own_cap` — what a slave with the cap of its master accepts.
* `full_window_loses_key` — a token that the master accepts and the slave does not.
-/

namespace BlockAccess

namespace KeyWindow

/-- **The window is full at a time:** it retains as many keys as the cap allows, and neither one of
them nor the next key has run out. -/
def FullAt (w : KeyWindow) (limit : Nat) (now : Instant) : Prop :=
  w.retained.length = limit ∧ ∀ k ∈ w.next?.toList ++ w.retained, now ≤ k.expiry

instance (w : KeyWindow) (limit : Nat) (now : Instant) : Decidable (w.FullAt limit now) :=
  inferInstanceAs (Decidable (_ ∧ _))

/-- What is still good of a window that is not full fits under the cap. -/
theorem length_le_of_not_fullAt {w : KeyWindow} {next : BlockKey} (hnext : w.next? = some next)
    {limit : Nat} (hlength : w.retained.length ≤ limit) {now : Instant}
    (hfull : ¬ w.FullAt limit now) :
    ((next :: w.retained).filter fun k => !k.isExpired now).length ≤ limit := by
  by_contra hover
  have hle := List.length_filter_le (fun k => !k.isExpired now) (next :: w.retained)
  rw [List.length_cons] at hle
  have hall : ((next :: w.retained).filter fun k => !k.isExpired now).length
      = (next :: w.retained).length := by
    rw [List.length_cons]
    omega
  refine hfull ⟨by omega, fun k hk => ?_⟩
  rw [hnext] at hk
  exact BlockKey.not_isExpired_iff.1 (List.length_filter_eq_length_iff.1 hall k hk)

end KeyWindow

namespace MasterWindow

variable {s : Settings} {m : Manager} {current next : BlockKey}

/-- From a full window the importer takes all keys but the last. -/
theorem keys_ofExport_of_fullAt (h : MasterWindow s m current next) {now : Instant}
    (hfull : m.window.FullAt s.maxRetained.toNat now) :
    (KeyWindow.ofExport ⟨s.interval, s.lifetime, current, next :: m.window.retained⟩ now
      s.maxRetained.toNat).keys = m.window.keys.dropLast := by
  have hgood : (next :: m.window.retained).filter (fun k => !k.isExpired now)
      = next :: m.window.retained := by
    refine List.filter_eq_self.2 fun k hk => BlockKey.not_isExpired_iff.2 ?_
    exact hfull.2 k (h.next? ▸ hk)
  rw [KeyWindow.keys_ofExport h.export_descending, hgood, h.keys, List.dropLast_cons_cons,
    List.dropLast_eq_take, List.length_cons, Nat.add_sub_cancel, hfull.1]

/-- The last key of a full window is a retired one that is still good. -/
theorem exists_oldest_of_fullAt (h : MasterWindow s m current next) {now : Instant}
    (hfull : m.window.FullAt s.maxRetained.toNat now) :
    ∃ oldest ∈ m.window.retained, now ≤ oldest.expiry ∧
      m.window.keys = m.window.keys.dropLast ++ [oldest] := by
  obtain ⟨-, -, hcap, -⟩ := Settings.fault?_eq_none_iff.1 h.settings
  have hsome : m.window.retained ≠ [] := by
    intro hnil
    have hlength := hfull.1
    rw [hnil, List.length_nil] at hlength
    exact hcap (UInt64.toNat_inj.1 hlength.symm)
  have hmem := List.getLast_mem hsome
  refine ⟨m.window.retained.getLast hsome, hmem, hfull.2 _ (List.mem_append_right _ hmem), ?_⟩
  have hlast : (current :: next :: m.window.retained).getLast (List.cons_ne_nil _ _)
      = m.window.retained.getLast hsome := by
    rw [List.getLast_cons (List.cons_ne_nil _ _), List.getLast_cons hsome]
  rw [h.keys, ← hlast, List.dropLast_concat_getLast]

end MasterWindow

/-- Where one key is missing, a token is refused for its signature if no other key signs it, and
accepted otherwise. -/
theorem Manager.checkAccess_of_keys_concat {m m' : Manager} {now : Instant} {lost : BlockKey}
    (hkeys : m.window.keys = m'.window.keys ++ [lost]) {token : Token} {owner? : Option String}
    {block : Block} {mode : AccessMode} {x : Identifier}
    (haccepted : m.checkAccess now token owner? block mode = .ok x) :
    (m'.window.Signs now token → m'.checkAccess now token owner? block mode = .ok x) ∧
    (¬ m'.window.Signs now token →
      m'.checkAccess now token owner? block mode = .error .invalidSignature ∧
        lost.sign token.identifier = token.password) := by
  obtain ⟨hform, hclaims, k, hmem, hgood, hsigned⟩ := checkAccess_eq_ok_iff.1 haccepted
  refine ⟨fun hother => checkAccess_eq_ok_iff.2 ⟨hform, hclaims, hother⟩, fun hnone => ⟨?_, ?_⟩⟩
  · rw [checkAccess_of_claims (Token.decodeIdentifier_eq_ok_iff.2 hform) hclaims,
      if_neg (mt KeyWindow.signs_iff_candidate.2 hnone)]
  · rw [hkeys] at hmem
    rcases List.mem_append.1 hmem with hkept | hlost
    · exact absurd ⟨k, hkept, hgood, hsigned⟩ hnone
    · rw [← List.mem_singleton.1 hlost]
      exact hsigned

/-- **What a slave with the cap of its master accepts** when it has just imported the keys of the
master. If the window of the master is not full, it gives the same answers as the master, also
later. If it is full, one key is lost, the oldest of all: a token that the master accepts is
accepted by the slave if one of the other keys signs it, and is otherwise refused for its
signature. -/
theorem import_under_own_cap {clock : Instant → Instant → Prop} {s : Settings} {t : Instant}
    {m : Manager} (hreached : ReachedMaster clock s t m) :
    ∃ e, m.exportKeys = .ok e ∧
      ∀ (slave : Manager) (t₀ : Instant), slave.role = .slave →
        slave.maxRetained = s.maxRetained.toNat →
        ∃ slave', slave.importKeys t₀ e = .ok slave' ∧
          (¬ m.window.FullAt s.maxRetained.toNat t₀ → ∀ now, t₀ ≤ now →
            ∀ token owner? block mode, slave'.checkAccess now token owner? block mode
              = m.checkAccess now token owner? block mode) ∧
          (m.window.FullAt s.maxRetained.toNat t₀ →
            ∃ oldest ∈ m.window.retained, t₀ ≤ oldest.expiry ∧
              m.window.keys = slave'.window.keys ++ [oldest] ∧
              ∀ token owner? block mode x, m.checkAccess t₀ token owner? block mode = .ok x →
                (slave'.window.Signs t₀ token →
                  slave'.checkAccess t₀ token owner? block mode = .ok x) ∧
                (¬ slave'.window.Signs t₀ token →
                  slave'.checkAccess t₀ token owner? block mode = .error .invalidSignature ∧
                    oldest.sign token.identifier = token.password)) := by
  obtain ⟨current, next, h⟩ := hreached.masterWindow
  refine ⟨_, h.exportKeys, fun slave t₀ hrole hcap => ⟨_, h.importKeys hrole t₀ _, ?_, ?_⟩⟩
  · intro hfull now htime
    have hroom := KeyWindow.length_le_of_not_fullAt h.next? (h.maxRetained ▸ h.length_retained)
      hfull
    exact Manager.checkAccess_congr
      (KeyWindow.candidates_ofExport_of_room h.toExport? h.export_descending (hcap ▸ hroom) htime)
  · intro hfull
    obtain ⟨oldest, hretired, hgood, hkeys⟩ := h.exists_oldest_of_fullAt hfull
    rw [← h.keys_ofExport_of_fullAt hfull, ← hcap] at hkeys
    exact ⟨oldest, hretired, hgood, hkeys, fun token owner? block mode x haccepted =>
      Manager.checkAccess_of_keys_concat hkeys haccepted⟩

/-! ## The least cap -/

/-- Settings under which a single retired key is kept. -/
def Settings.single : Settings := { standard with maxRetained := 1 }

/-- A master with the least cap, rotated once. The secret of its retired key is all zeros, those of
the others are all ones. -/
def Manager.singleRetaining : Manager :=
  (Manager.firstMaster .single ⟨0⟩ 1 (List.replicate 64 0) (List.replicate 64 1)).renewed ⟨1⟩
    ⟨2, ⟨1800000⟩, List.replicate 64 1⟩ (List.replicate 64 1)

set_option maxRecDepth 4000 in
theorem reachedMaster_singleRetaining :
    ReachedMaster (· ≤ ·) .single ⟨1⟩ .singleRetaining :=
  ⟨⟨0⟩, .bytes (List.replicate 68 0 ++ List.replicate 64 1), _, 1, rfl,
    .rotated .rotate (.bytes (List.replicate 64 1)) .start (by decide) rfl⟩

theorem fullAt_singleRetaining :
    Manager.singleRetaining.window.FullAt Settings.single.maxRetained.toNat ⟨1⟩ := by
  decide

/-- The slave with the same settings loses the retired key. -/
theorem import_under_least_cap :
    ∃ e slave', Manager.singleRetaining.exportKeys = .ok e ∧
      (Manager.ofSettings .slave .single (.empty ⟨0⟩ 1 1) 0).importKeys ⟨1⟩ e = .ok slave' ∧
      ∃ oldest ∈ Manager.singleRetaining.window.retained,
        Manager.singleRetaining.window.keys = slave'.window.keys ++ [oldest] := by
  obtain ⟨e, hexport, himports⟩ := import_under_own_cap reachedMaster_singleRetaining
  obtain ⟨slave', himport, -, hfull⟩ :=
    himports (.ofSettings .slave .single (.empty ⟨0⟩ 1 1) 0) ⟨1⟩ rfl rfl
  obtain ⟨oldest, hretired, -, hkeys, -⟩ := hfull fullAt_singleRetaining
  exact ⟨e, slave', hexport, himport, oldest, hretired, hkeys⟩

/-- What the first key of that master may have signed before the rotation. -/
def Identifier.earlySigned : Identifier := ⟨⟨600000⟩, 1, "", ⟨"", 7⟩, .all⟩

/-- The two secrets give different passwords. -/
theorem hmac_earlySigned_ne :
    Digest.hmacSha256 (List.replicate 64 1) Identifier.earlySigned.wireBytes
      ≠ Digest.hmacSha256 (List.replicate 64 0) Identifier.earlySigned.wireBytes := by
  decide +kernel

/-- A token of the retired key, which the master accepts and the slave of the same settings does
not. -/
theorem full_window_loses_key :
    ∃ (m slave slave' : Manager) (e : KeyExport) (t : Token) (x : Identifier),
      ReachedMaster (· ≤ ·) .single ⟨1⟩ m ∧
      (Manager.newSlave .single ⟨0⟩ default).result = .ok slave ∧
      m.exportKeys = .ok e ∧ slave.importKeys ⟨1⟩ e = .ok slave' ∧
      m.checkAccess ⟨1⟩ t none ⟨"", 7⟩ .read = .ok x ∧
      slave'.checkAccess ⟨1⟩ t none ⟨"", 7⟩ .read = .error .invalidSignature := by
  obtain ⟨current, next, h⟩ := reachedMaster_singleRetaining.masterWindow
  obtain ⟨oldest, -, -, hkeys⟩ := h.exists_oldest_of_fullAt fullAt_singleRetaining
  rw [← h.keys_ofExport_of_fullAt fullAt_singleRetaining] at hkeys
  have hform : Identifier.earlySigned.encode = .ok Identifier.earlySigned.wireBytes :=
    Identifier.encode_eq_ok_iff.2 ⟨by decide, rfl⟩
  have hcarries := Token.carries_ofSigned hform ⟨1, ⟨1200000⟩, List.replicate 64 0⟩
  have hretired : (⟨1, ⟨1200000⟩, List.replicate 64 0⟩ : BlockKey)
      ∈ Manager.singleRetaining.window.candidates ⟨1⟩ := by decide
  have haccepted := hcarries.accepts hretired rfl (by decide) none (.inl rfl) .read rfl
  refine ⟨_, _, _, _, _, _, reachedMaster_singleRetaining, rfl, h.exportKeys, h.importKeys rfl _ _,
    haccepted, ((Manager.checkAccess_of_keys_concat hkeys haccepted).2 ?_).1⟩
  -- All that the slave has kept are keys with the other secret.
  have hkept : ∀ k ∈ Manager.singleRetaining.window.keys.dropLast,
      k.secret = List.replicate 64 1 := by decide
  rintro ⟨k, hmem, -, hsigned⟩
  have hmem : k ∈ Manager.singleRetaining.window.keys.dropLast := by
    rw [← h.keys_ofExport_of_fullAt fullAt_singleRetaining]
    exact hmem
  simp only [hkept k hmem, Token.ofSigned, BlockKey.sign] at hsigned
  exact hmac_earlySigned_ne hsigned

end BlockAccess
