import BlockAccess.Proofs.Exchange.Copies
import BlockAccess.Proofs.Wire.ExportForm

/-!
# Exports on their way as bytes

A master writes its export without a limit, and a slave reads no more than 65536 bytes. Every key of
a master has a secret of 64 bytes, so the length of an export follows from the number of retained
keys alone: 777 of them fit, and with one more the export can be written and not be read. Nothing
keeps the window that small. The cap on retained keys may be set as high as one likes, and as long
as they have not run out, every rotation retains one key more.

## Main results

* `ReachedMaster.length_secret` — the keys of a master have secrets of the usual length.
* `ReachedMaster.decode_export` — what the reader makes of the export of a master.
* `export_read_back` — which exports survive their own binary form.
* `MasterWindow.fill` — how the window of a master fills.
* `full_export_unreadable` — an export that cannot be read.
-/

namespace BlockAccess

/-! ## What an export is made of -/

/-- There are no more ids below an id than it counts. -/
theorem length_le_of_descending {id : KeyId} {ids : List KeyId}
    (h : (id :: ids).Pairwise (· > ·)) : ids.length ≤ id.toNat := by
  induction ids generalizing id with
  | nil => exact Nat.zero_le _
  | cons id' rest ih =>
    obtain ⟨hfirst, hrest⟩ := List.pairwise_cons.1 h
    have hlt := UInt32.lt_iff_toNat_lt.1 (hfirst id' (List.mem_cons_self ..))
    have hle := ih hrest
    rw [List.length_cons]
    omega

namespace MasterWindow

variable {s : Settings} {m : Manager} {current next : BlockKey}

/-- A call for a rotation keeps the secrets at their usual length. -/
theorem length_secret_call (h : MasterWindow s m current next)
    (hlengths : ∀ k ∈ m.window.keys, k.secret.length = BlockKey.secretLength) (c : RotationCall)
    (now : Instant) (entropy : Entropy) :
    ∀ k ∈ (c.run m now entropy).manager.window.keys,
      k.secret.length = BlockKey.secretLength := by
  intro k hk
  rcases (h.call_keys c now entropy).2 k hk with ⟨-, -, hfresh⟩ | ⟨k₀, hk₀, -, hsecret, -⟩
  · exact hfresh
  · rw [← hsecret]
    exact hlengths k₀ hk₀

/-- The keys of a master have different ids below the counter, so there are not many. -/
theorem length_retained_lt (h : MasterWindow s m current next) :
    m.window.retained.length + 1 < 256 ^ 8 := by
  have hlength := length_le_of_descending h.descending
  have hsize := m.nextKeyId.toNat_lt
  simp only [List.length_cons, List.length_map] at hlength
  omega

end MasterWindow

theorem RotationRun.length_secret {clock : Instant → Instant → Prop} {s : Settings}
    {t t' : Instant} {m m' : Manager} {n : Nat} {current next : BlockKey}
    (hrun : RotationRun clock t m n t' m') (h : MasterWindow s m current next)
    (hlengths : ∀ k ∈ m.window.keys, k.secret.length = BlockKey.secretLength) :
    ∀ k ∈ m'.window.keys, k.secret.length = BlockKey.secretLength := by
  induction hrun with
  | start => exact hlengths
  | rotated c entropy hrun _ _ ih | kept c entropy hrun _ _ ih =>
    obtain ⟨_, _, hwindow⟩ := hrun.masterWindow h
    exact hwindow.length_secret_call ih c _ entropy

/-- **The keys of a master have secrets of the usual length.** -/
theorem ReachedMaster.length_secret {clock : Instant → Instant → Prop} {s : Settings} {t : Instant}
    {m : Manager} (hreached : ReachedMaster clock s t m) :
    ∀ k ∈ m.window.keys, k.secret.length = BlockKey.secretLength := by
  obtain ⟨start, entropy, m₀, n, hmade, hrun⟩ := hreached
  obtain ⟨current, next, h⟩ := MasterWindow.of_newMaster hmade
  refine hrun.length_secret h fun k hk => ?_
  obtain ⟨-, first, secret₁, secret₂, -, hlength₁, hlength₂, rfl⟩ := Manager.newMaster_eq_ok hmade
  rcases List.mem_cons.1 hk with rfl | hk
  · exact hlength₁
  · rw [List.mem_singleton.1 hk]
    exact hlength₂

namespace KeyExport

/-- An export of keys whose secrets have the usual length: it takes 108 bytes, and 84 for every key
besides the current one, and is read as long as this is within the limit. -/
theorem decode_encode_of_length_secret {e : KeyExport} (hcount : e.others.length < 256 ^ 8)
    (hsecrets : ∀ k ∈ e.current :: e.others, k.secret.length = BlockKey.secretLength) :
    e.encode.length = 108 + 84 * e.others.length ∧
      decode e.encode = if 108 + 84 * e.others.length ≤ 65536 then .ok e
        else .error (.malformedKeys (.unreadable .limitExceeded)) := by
  have hkey (k : BlockKey) (hk : k ∈ e.current :: e.others) : k.wireBytes.length = 84 := by
    rw [k.length_wireBytes, hsecrets k hk, BlockKey.secretLength]
  have hothers : (e.others.flatMap BlockKey.wireBytes).length = 84 * e.others.length := by
    rw [List.length_flatMap, List.map_congr_left fun k hk => hkey k (List.mem_cons_of_mem _ hk),
      List.map_const', List.sum_replicate_nat, Nat.mul_comm]
  have hlength : e.encode.length = 108 + 84 * e.others.length := by
    rw [length_encode, hothers, hkey e.current (List.mem_cons_self ..)]
  have hreadable : e.Readable ↔ 108 + 84 * e.others.length ≤ 65536 := by
    rw [readable_iff_length, hlength, Wire.maxEncodedSize]
    intro k hk
    rw [hsecrets k (List.mem_cons_of_mem _ hk), BlockKey.secretLength]
    decide
  refine ⟨hlength, ?_⟩
  rw [decode_encode hcount fun k hk => by rw [hsecrets k hk, BlockKey.secretLength]; decide]
  simp only [hreadable]

end KeyExport

/-- The export of a master: its size, and what its reader makes of it. -/
theorem ReachedMaster.decode_export {clock : Instant → Instant → Prop} {s : Settings} {t : Instant}
    {m : Manager} (hreached : ReachedMaster clock s t m) :
    ∃ e, m.exportKeys = .ok e ∧ e.encode.length = 192 + 84 * m.window.retained.length ∧
      KeyExport.decode e.encode = if m.window.retained.length ≤ 777 then .ok e
        else .error (.malformedKeys (.unreadable .limitExceeded)) := by
  obtain ⟨current, next, h⟩ := hreached.masterWindow
  have hsecrets := hreached.length_secret
  rw [KeyWindow.keys_of_toExport? h.toExport?] at hsecrets
  have hcount : (next :: m.window.retained).length < 256 ^ 8 := h.length_retained_lt
  obtain ⟨hlength, hdecode⟩ := KeyExport.decode_encode_of_length_secret
    (e := ⟨s.interval, s.lifetime, current, next :: m.window.retained⟩) hcount hsecrets
  rw [List.length_cons] at hlength hdecode
  have hfits : 108 + 84 * (m.window.retained.length + 1) ≤ 65536 ↔
      m.window.retained.length ≤ 777 := by omega
  simp only [hfits] at hdecode
  exact ⟨_, h.exportKeys, by omega, hdecode⟩

/-- **Which exports survive their own binary form.** Every master that was reached can export its
keys, and write the export. It is read back unchanged if at most 777 keys are retained, so always if
the cap is not above that; and whenever more are retained, its reader stops at the limit. -/
theorem export_read_back {clock : Instant → Instant → Prop} {s : Settings} {t : Instant}
    {m : Manager} (hreached : ReachedMaster clock s t m) :
    ∃ e, m.exportKeys = .ok e ∧ e.encode.length = 192 + 84 * m.window.retained.length ∧
      (m.window.retained.length ≤ 777 → KeyExport.decode e.encode = .ok e) ∧
      (777 < m.window.retained.length →
        KeyExport.decode e.encode = .error (.malformedKeys (.unreadable .limitExceeded))) ∧
      (s.maxRetained.toNat ≤ 777 → KeyExport.decode e.encode = .ok e) := by
  obtain ⟨current, next, h⟩ := hreached.masterWindow
  obtain ⟨e, hexport, hlength, hdecode⟩ := hreached.decode_export
  have hread (hfew : m.window.retained.length ≤ 777) := hdecode.trans (if_pos hfew)
  have hcap : m.window.retained.length ≤ s.maxRetained.toNat := h.maxRetained ▸ h.length_retained
  exact ⟨e, hexport, hlength, hread, fun hmany => hdecode.trans (if_neg (Nat.not_le.2 hmany)),
    fun hlow => hread (Nat.le_trans hcap hlow)⟩

/-- The first export of a master. -/
theorem export_read_back_first :
    ∃ e, (Manager.zeroKeyed ⟨0⟩).exportKeys = .ok e ∧ e.encode.length = 192 ∧
      KeyExport.decode e.encode = .ok e := by
  obtain ⟨e, hexport, hlength, hread, -⟩ := export_read_back (reachedMaster_zeroKeyed anyClock ⟨0⟩)
  exact ⟨e, hexport, hlength, hread (by decide)⟩

/-! ## A window that fills -/

/-- If all retained keys are good and the cap leaves room, a rotation retains one key more and drops
none. -/
theorem MasterWindow.retained_renewed {s : Settings} {m : Manager} {current next : BlockKey}
    (h : MasterWindow s m current next) {now : Instant}
    (hgood : ∀ k ∈ m.window.retained, now ≤ k.expiry)
    (hroom : m.window.retained.length < m.maxRetained) (secret : List UInt8) :
    (m.renewed now next secret).window.retained
      = current.extendedTo (now.after s.lifetime) :: m.window.retained := by
  have hkept : m.window.retained.filter (fun k => !k.isExpired now) = m.window.retained :=
    List.filter_eq_self.2 fun k hk => BlockKey.not_isExpired_iff.2 (hgood k hk)
  have hretiring : m.window.retiring now
      = current.extendedTo (now.after s.lifetime) :: m.window.retained := by
    rw [KeyWindow.retiring, h.current?, h.lifetime, hkept]
    rfl
  show (m.window.retiring now).take m.maxRetained = _
  rw [hretiring, List.take_of_length_le]
  exact hroom

/-- **How the window of a master fills.** If no time passes and there is room under the cap, `n`
rotations retain `n` keys more. -/
theorem MasterWindow.fill {s : Settings} {t : Instant} {m : Manager} {current next : BlockKey}
    (h : MasterWindow s m current next) (hgood : ∀ k ∈ m.window.retained, t ≤ k.expiry) (n : Nat)
    (hroom : m.window.retained.length + n ≤ m.maxRetained)
    (hcounter : m.nextKeyId.toNat + n < UInt32.size) :
    ∃ m', RotationRun (· ≤ ·) t m n t m' ∧ m'.nextKeyId.toNat = m.nextKeyId.toNat + n ∧
      m'.window.retained.length = m.window.retained.length + n ∧
      ∀ k ∈ m'.window.retained, t ≤ k.expiry := by
  induction n with
  | zero => exact ⟨m, .start, rfl, rfl, hgood⟩
  | succ n ih =>
    obtain ⟨m₁, hrun, hid, hlength, hgood₁⟩ := ih (by omega) (by omega)
    obtain ⟨current₁, next₁, h₁⟩ := hrun.masterWindow h
    have hsame : m₁.maxRetained = m.maxRetained := h₁.maxRetained.trans h.maxRetained.symm
    have hnext : m₁.nextKeyId.toNat + 1 < UInt32.size := by omega
    have hresult := h₁.rotates hnext t (.zeros 64) rfl
    obtain ⟨secret, hrenewed⟩ := h₁.eq_renewed hresult
    have hretained := h₁.retained_renewed hgood₁ (by omega) secret
    refine ⟨_, .rotated .rotate (.zeros 64) hrun (Instant.le_refl t) hresult, ?_⟩
    rw [hrenewed, hretained]
    refine ⟨?_, by rw [List.length_cons, hlength]; omega, fun k hk => ?_⟩
    · show (m₁.nextKeyId + 1).toNat = _
      rw [toNat_succ_of_room hnext]
      omega
    · rcases List.mem_cons.1 hk with rfl | hold
      · exact Instant.le_trans (t.le_after s.lifetime) (Instant.le_max_right _ _)
      · exact hgood₁ k hold

/-- Settings under which one key more is retained than fits into a readable export. -/
def Settings.roomy : Settings := { standard with maxRetained := 778 }

set_option maxRecDepth 4000 in
/-- The smallest export that cannot be read: the master was rotated 778 times. -/
theorem full_export_unreadable :
    ∃ (m₀ m : Manager) (e : KeyExport),
      (Manager.newMaster .roomy ⟨0⟩ (.zeros 132)).result = .ok m₀ ∧
      RotationRun (· ≤ ·) ⟨0⟩ m₀ 778 ⟨0⟩ m ∧ m.exportKeys = .ok e ∧ e.encode.length = 65544 ∧
      KeyExport.decode e.encode = .error (.malformedKeys (.unreadable .limitExceeded)) := by
  have hmade : (Manager.newMaster .roomy ⟨0⟩ (.zeros 132)).result
      = .ok (.firstMaster .roomy ⟨0⟩ 1 (List.replicate 64 0) (List.replicate 64 0)) := rfl
  obtain ⟨current, next, h⟩ := MasterWindow.of_newMaster hmade
  have hnone : ∀ k ∈ ([] : List BlockKey), (⟨0⟩ : Instant) ≤ k.expiry := nofun
  obtain ⟨m, hrun, -, hretained, -⟩ := h.fill hnone 778 (by decide) (by decide)
  have hmany : m.window.retained.length = 778 := hretained
  obtain ⟨e, hexport, hlength, hdecode⟩ :=
    ReachedMaster.decode_export ⟨⟨0⟩, .zeros 132, _, 778, hmade, hrun⟩
  rw [hmany] at hlength hdecode
  exact ⟨_, m, e, hmade, hrun, hexport, hlength, hdecode⟩

end BlockAccess
