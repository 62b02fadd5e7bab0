import BlockAccess.Proofs.Exchange.Relay
import Mathlib.Data.List.Nodup

/-!
# Copies of keys

Keys are copied: into exports, from there into the windows of slaves, and out of these into further
exports. Exports may be kept for as long as one likes and imported in any order. The master
meanwhile goes on, moves the expiries of the keys it holds and drops keys, and what it has drawn an
id for may fail. This module is about everything that can then be around at the same time.

What holds it together is that the master is *ahead of* all copies (`Manager.AheadOf`): their ids
are used up, and as long as the master holds a key itself, a copy of it has the same secret and is
good for no longer. A call keeps the master ahead of whatever it was ahead of, because every key
that it leaves is either new, with an id that no copy has, or an old one whose expiry has not been
brought forward (`MasterWindow.call_keys`). Copying keys about adds nothing to this.

## Main results

* `MasterWindow.call_keys` — where the keys come from that a call leaves.
* `Exchange.Consistent.step` — whatever happens, the copies stay consistent.
* `one_id_one_key` — what this means for keys with the same id.
-/

namespace BlockAccess

/-! ## A master and the copies of its keys -/

/-- **The master is ahead of copies of keys:** their ids are used up, and a copy of a key that it
still holds has the secret of that key and runs out no later. -/
structure Manager.AheadOf (m : Manager) (copies : List BlockKey) : Prop where
  used : ∀ k ∈ copies, k.id < m.nextKeyId
  held : ∀ k ∈ copies, ∀ k' ∈ m.window.keys, k.id = k'.id →
    k.secret = k'.secret ∧ k.expiry ≤ k'.expiry

namespace MasterWindow

variable {s : Settings} {m : Manager} {current next : BlockKey}

theorem nodup_ids (h : MasterWindow s m current next) : (m.window.keys.map (·.id)).Nodup := by
  have hdescending := (List.pairwise_cons.1 h.descending).2
  have hdistinct : (next.id :: current.id :: m.window.retained.map (·.id)).Nodup :=
    hdescending.imp fun hlt => (UInt32.ne_of_lt hlt).symm
  rw [h.keys]
  exact (List.Perm.swap ..).nodup_iff.1 hdistinct

/-- A master is ahead of its own keys. -/
theorem aheadOf_keys (h : MasterWindow s m current next) : m.AheadOf m.window.keys where
  used := by
    intro k hk
    have hbelow := (List.pairwise_cons.1 h.descending).1
    rw [h.keys] at hk
    rcases List.mem_cons.1 hk with rfl | hk
    · exact hbelow k.id (by simp)
    · rcases List.mem_cons.1 hk with rfl | hretained
      · exact hbelow k.id (by simp)
      · exact hbelow k.id (by simp [List.mem_map_of_mem hretained])
  held := by
    intro k hk k' hk' hid
    rw [List.inj_on_of_nodup_map h.nodup_ids hk hk' hid]
    exact ⟨rfl, Instant.le_refl _⟩

/-- The keys of a rotated master: besides the fresh one, every key is one that the master had, with
its secret, and good for as long at least. -/
theorem mem_keys_renewed (h : MasterWindow s m current next) {now : Instant}
    {secret : List UInt8} {k : BlockKey} (hk : k ∈ (m.renewed now next secret).window.keys) :
    k = m.freshNext now secret ∨
      ∃ k₀ ∈ m.window.keys, k₀.id = k.id ∧ k₀.secret = k.secret ∧ k₀.expiry ≤ k.expiry := by
  rw [h.keys]
  rcases List.mem_cons.1 hk with rfl | hk
  · exact .inr ⟨next, by simp, rfl, rfl, Instant.le_max_left _ _⟩
  rcases List.mem_cons.1 hk with rfl | hretired
  · exact .inl rfl
  have hretiring := List.mem_of_mem_take hretired
  rw [KeyWindow.retiring, h.current?] at hretiring
  rcases List.mem_cons.1 hretiring with rfl | hkept
  · exact .inr ⟨current, by simp, rfl, rfl, Instant.le_max_left _ _⟩
  · have hold := (List.mem_filter.1 hkept).1
    exact .inr ⟨k, by simp [hold], rfl, rfl, Instant.le_refl _⟩

/-- **Where the keys come from that a call leaves.** The counter does not go back; a key is new, with
the id at which the counter stood and a secret of the usual length, or the master had it before. -/
theorem call_keys (h : MasterWindow s m current next) (c : RotationCall) (now : Instant)
    (entropy : Entropy) :
    m.nextKeyId ≤ (c.run m now entropy).manager.nextKeyId ∧
      ∀ k ∈ (c.run m now entropy).manager.window.keys,
        (k.id = m.nextKeyId ∧ m.nextKeyId < (c.run m now entropy).manager.nextKeyId ∧
          k.secret.length = BlockKey.secretLength) ∨
          ∃ k₀ ∈ m.window.keys, k₀.id = k.id ∧ k₀.secret = k.secret ∧ k₀.expiry ≤ k.expiry := by
  have hsame : ∀ k ∈ m.window.keys,
      ∃ k₀ ∈ m.window.keys, k₀.id = k.id ∧ k₀.secret = k.secret ∧ k₀.expiry ≤ k.expiry :=
    fun k hk => ⟨k, hk, rfl, rfl, Instant.le_refl _⟩
  have heffect := h.effect c now entropy
  generalize (c.run m now entropy).manager = m' at heffect ⊢
  generalize (c.run m now entropy).result = result at heffect
  cases heffect with
  | rotated _ hcounter hdraw =>
    have hmoved := lt_succ_of_room hcounter
    refine ⟨UInt32.le_of_lt hmoved, fun k hk => ?_⟩
    rcases h.mem_keys_renewed hk with rfl | hold
    · exact .inl ⟨rfl, hmoved, Entropy.length_of_draw? hdraw⟩
    · exact .inr hold
  | notDue => exact ⟨UInt32.le_refl _, fun k hk => .inr (hsame k hk)⟩
  | exhausted => exact ⟨UInt32.le_refl _, fun k hk => .inr (hsame k hk)⟩
  | dry hcounter _ =>
    exact ⟨UInt32.le_of_lt (lt_succ_of_room hcounter), fun k hk => .inr (hsame k hk)⟩

/-- **A call keeps the master ahead** of whatever it was ahead of. -/
theorem aheadOf_call (h : MasterWindow s m current next) {copies : List BlockKey}
    (hahead : m.AheadOf copies) (c : RotationCall) (now : Instant) (entropy : Entropy) :
    (c.run m now entropy).manager.AheadOf copies := by
  obtain ⟨hcounter, hkeys⟩ := h.call_keys c now entropy
  constructor
  · intro k hk
    exact UInt32.lt_of_lt_of_le (hahead.used k hk) hcounter
  · intro k hk k' hk' hid
    rcases hkeys k' hk' with ⟨hfresh, -⟩ | ⟨k₀, hk₀, hsame, hsecret, hexpiry⟩
    · -- No copy has the id of a fresh key.
      have hlt := hahead.used k hk
      rw [hid, hfresh] at hlt
      exact absurd hlt (UInt32.lt_irrefl _)
    · obtain ⟨hsecret₀, hexpiry₀⟩ := hahead.held k hk k₀ hk₀ (hid.trans hsame.symm)
      exact ⟨hsecret₀.trans hsecret, Instant.le_trans hexpiry₀ hexpiry⟩

/-- A call does not bring back an id that was given out before and that no key has. -/
theorem id_ne_call (h : MasterWindow s m current next) {id : KeyId} (hused : id < m.nextKeyId)
    (hnone : ∀ k ∈ m.window.keys, k.id ≠ id) (c : RotationCall) (now : Instant)
    (entropy : Entropy) :
    id < (c.run m now entropy).manager.nextKeyId ∧
      ∀ k ∈ (c.run m now entropy).manager.window.keys, k.id ≠ id := by
  obtain ⟨hcounter, hkeys⟩ := h.call_keys c now entropy
  refine ⟨UInt32.lt_of_lt_of_le hused hcounter, fun k hk => ?_⟩
  rcases hkeys k hk with ⟨hfresh, -⟩ | ⟨k₀, hk₀, hsame, -⟩
  · rw [hfresh]
    exact (UInt32.ne_of_lt hused).symm
  · rw [← hsame]
    exact hnone k₀ hk₀

end MasterWindow

/-! ## What slaves copy -/

theorem Manager.keys_newSlave {s : Settings} {now : Instant} {entropy : Entropy} {slave : Manager}
    (h : (newSlave s now entropy).result = .ok slave) : slave.window.keys = [] := by
  unfold newSlave at h
  split at h
  · cases h
  · cases h
    rfl

namespace KeyWindow

variable {e : KeyExport} {now : Instant} {limit : Nat}

theorem mem_of_mem_ofExport {k : BlockKey} (hk : k ∈ (ofExport e now limit).keys) : k ∈ e.keys := by
  rcases List.mem_cons.1 hk with rfl | hretained
  · exact List.mem_cons_self ..
  · have hkept := List.mem_mergeSort.1 (List.mem_of_mem_take hretained)
    exact List.mem_cons_of_mem _ (List.mem_filter.1 hkept).1

/-- An import does not double ids, whatever order the keys of the export are in. -/
theorem nodup_ids_ofExport (he : e.keyIds.Nodup) :
    ((ofExport e now limit).keys.map (·.id)).Nodup := by
  obtain ⟨hcurrent, hothers⟩ := List.nodup_cons.1 he
  refine List.nodup_cons.2 ⟨fun hmem => ?_, ?_⟩
  · obtain ⟨k, hk, hid⟩ := List.mem_map.1 hmem
    have hkept := List.mem_mergeSort.1 (List.mem_of_mem_take hk)
    have hdoubled := List.mem_map_of_mem (f := (·.id)) (List.mem_filter.1 hkept).1
    rw [hid] at hdoubled
    exact hcurrent hdoubled
  · have hsorted : ((retainedOf e now).map (·.id)).Nodup :=
      ((List.mergeSort_perm _ _).map _).nodup_iff.2 (hothers.sublist (List.filter_sublist.map _))
    exact hsorted.sublist ((List.take_sublist limit _).map _)

end KeyWindow

/-! ## A master, its slaves and the exports between them -/

/-- **A master and the slaves that get their keys from it,** with every export that was ever made.
Exports are not used up: each can be imported at any time, as often as one likes, by every slave. -/
structure Exchange where
  master : Manager
  slaves : List Manager
  sent : List KeyExport

namespace Exchange

/-- All keys that are around: in the window of the master, in those of the slaves, and in exports. -/
def keys (x : Exchange) : List BlockKey :=
  x.master.window.keys ++ (x.slaves.flatMap (·.window.keys) ++ x.sent.flatMap KeyExport.keys)

/-- **What can happen.** Clocks and entropy may be anything each time. -/
inductive Step (x : Exchange) : Exchange → Prop
  /-- The master is called for a rotation. -/
  | call (c : RotationCall) (now : Instant) (entropy : Entropy) :
      Step x { x with master := (c.run x.master now entropy).manager }
  /-- The master exports its keys. -/
  | send {e : KeyExport} (hexport : x.master.exportKeys = .ok e) :
      Step x { x with sent := e :: x.sent }
  /-- A slave is made. -/
  | join {s : Settings} {now : Instant} {entropy : Entropy} {slave : Manager}
      (hmade : (Manager.newSlave s now entropy).result = .ok slave) :
      Step x { x with slaves := slave :: x.slaves }
  /-- A slave imports an export that was made before. -/
  | receive {i : Nat} {slave slave' : Manager} {e : KeyExport} (now : Instant)
      (hslave : x.slaves[i]? = some slave) (hsent : e ∈ x.sent)
      (himport : slave.importKeys now e = .ok slave') :
      Step x { x with slaves := x.slaves.set i slave' }
  /-- A slave exports the keys it has. -/
  | resend {slave : Manager} {e : KeyExport} (hslave : slave ∈ x.slaves)
      (hexport : slave.exportKeys = .ok e) : Step x { x with sent := e :: x.sent }

/-- **A run:** any number of steps. -/
inductive Run (x : Exchange) : Exchange → Prop
  | start : Run x x
  | step {y z : Exchange} (hrun : Run x y) (hstep : Step y z) : Run x z

/-- **The keys that are around fit together,** and they fit to what is remembered: the keys in
`past`, which were around at some earlier time, and the ids in `gone`, which were given out for keys
that were never made. -/
structure Consistent (s : Settings) (past : List BlockKey) (gone : List KeyId) (x : Exchange) :
    Prop where
  master : ∃ current next, MasterWindow s x.master current next
  slaves : ∀ slave ∈ x.slaves, (slave.window.keys.map (·.id)).Nodup
  sent : ∀ e ∈ x.sent, e.keyIds.Nodup
  ahead : x.master.AheadOf (past ++ x.keys)
  agree : ∀ k ∈ past ++ x.keys, ∀ k' ∈ past ++ x.keys, k.id = k'.id → k.secret = k'.secret
  gone : ∀ id ∈ gone, id < x.master.nextKeyId ∧ ∀ k ∈ x.keys, k.id ≠ id

variable {s : Settings} {past : List BlockKey} {gone : List KeyId} {x y : Exchange}

theorem mem_keys {k : BlockKey} :
    k ∈ x.keys ↔ k ∈ x.master.window.keys ∨ (∃ slave ∈ x.slaves, k ∈ slave.window.keys) ∨
      ∃ e ∈ x.sent, k ∈ e.keys := by
  simp only [keys, List.mem_append, List.mem_flatMap]

namespace Consistent

/-- Where the master stays as it is and keys are only copied, everything stays consistent. -/
theorem of_subset (h : Consistent s past gone x) (hmaster : y.master = x.master)
    (hkeys : ∀ k ∈ y.keys, k ∈ x.keys)
    (hslaves : ∀ slave ∈ y.slaves, (slave.window.keys.map (·.id)).Nodup)
    (hsent : ∀ e ∈ y.sent, e.keyIds.Nodup) : Consistent s past gone y := by
  have hall : ∀ k ∈ past ++ y.keys, k ∈ past ++ x.keys := by
    intro k hk
    rcases List.mem_append.1 hk with hpast | hnow
    · exact List.mem_append_left _ hpast
    · exact List.mem_append_right _ (hkeys k hnow)
  refine ⟨?_, hslaves, hsent, ?_, ?_, ?_⟩
  · rw [hmaster]
    exact h.master
  · rw [hmaster]
    exact ⟨fun k hk => h.ahead.used k (hall k hk), fun k hk => h.ahead.held k (hall k hk)⟩
  · exact fun k hk k' hk' => h.agree k (hall k hk) k' (hall k' hk')
  · intro id hid
    obtain ⟨hused, hnone⟩ := h.gone id hid
    rw [hmaster]
    exact ⟨hused, fun k hk => hnone k (hkeys k hk)⟩

/-- Slaves come and change, but have no keys that are not around. -/
theorem with_slaves (h : Consistent s past gone x) {slaves : List Manager}
    (hslaves : ∀ slave ∈ slaves, slave ∈ x.slaves ∨
      ((∀ k ∈ slave.window.keys, k ∈ x.keys) ∧ (slave.window.keys.map (·.id)).Nodup)) :
    Consistent s past gone { x with slaves } := by
  refine h.of_subset rfl (fun k hk => ?_) (fun slave hslave => ?_) h.sent
  · rcases mem_keys.1 hk with hmaster | ⟨slave, hslave, hmem⟩ | hsent
    · exact mem_keys.2 (.inl hmaster)
    · rcases hslaves slave hslave with hold | ⟨hknown, -⟩
      · exact mem_keys.2 (.inr (.inl ⟨slave, hold, hmem⟩))
      · exact hknown k hmem
    · exact mem_keys.2 (.inr (.inr hsent))
  · rcases hslaves slave hslave with hold | ⟨-, hnodup⟩
    · exact h.slaves slave hold
    · exact hnodup

/-- An export is made of a window whose keys are around. -/
theorem with_export (h : Consistent s past gone x) {m : Manager} {e : KeyExport}
    (hexport : m.exportKeys = .ok e) (hknown : ∀ k ∈ m.window.keys, k ∈ x.keys)
    (hnodup : (m.window.keys.map (·.id)).Nodup) :
    Consistent s past gone { x with sent := e :: x.sent } := by
  have hsame := KeyWindow.keys_of_toExport? (Manager.exportKeys_eq_ok_iff.1 hexport)
  rw [hsame] at hknown hnodup
  refine h.of_subset rfl (fun k hk => ?_) h.slaves (fun e' he' => ?_)
  · rcases mem_keys.1 hk with hmaster | hslave | ⟨e', he', hmem⟩
    · exact mem_keys.2 (.inl hmaster)
    · exact mem_keys.2 (.inr (.inl hslave))
    · rcases List.mem_cons.1 he' with rfl | hold
      · exact hknown k hmem
      · exact mem_keys.2 (.inr (.inr ⟨e', hold, hmem⟩))
  · rcases List.mem_cons.1 he' with rfl | hold
    · exact hnodup
    · exact h.sent e' hold

/-- No window has two keys with the same id. -/
theorem nodup_ids (h : Consistent s past gone x) {m : Manager} (hm : m ∈ x.master :: x.slaves) :
    (m.window.keys.map (·.id)).Nodup := by
  rcases List.mem_cons.1 hm with rfl | hslave
  · obtain ⟨current, next, hwindow⟩ := h.master
    exact hwindow.nodup_ids
  · exact h.slaves m hslave

/-- A call for a rotation is the only step that makes a key. -/
theorem call (h : Consistent s past gone x) (c : RotationCall) (now : Instant)
    (entropy : Entropy) :
    Consistent s past gone { x with master := (c.run x.master now entropy).manager } := by
  obtain ⟨current, next, hwindow⟩ := h.master
  obtain ⟨current', next', hwindow'⟩ := hwindow.call c now entropy
  have hahead := hwindow.aheadOf_call h.ahead c now entropy
  have hown := hwindow'.aheadOf_keys
  have hgone (id : KeyId) (hid : id ∈ gone) := hwindow.id_ne_call (h.gone id hid).1
    (fun k hk => (h.gone id hid).2 k (mem_keys.2 (.inl hk))) c now entropy
  generalize (c.run x.master now entropy).manager = m' at hwindow' hahead hown hgone ⊢
  -- What is around afterwards is a key of the master or was around before.
  have hcases : ∀ k ∈ past ++ keys { x with master := m' },
      k ∈ past ++ x.keys ∨ k ∈ m'.window.keys := by
    intro k hk
    rcases List.mem_append.1 hk with hpast | hnow
    · exact .inl (List.mem_append_left _ hpast)
    · rcases mem_keys.1 hnow with hmaster | hcopy
      · exact .inr hmaster
      · exact .inl (List.mem_append_right _ (mem_keys.2 (.inr hcopy)))
  refine ⟨⟨current', next', hwindow'⟩, h.slaves, h.sent, ⟨?_, ?_⟩, ?_, ?_⟩
  · intro k hk
    rcases hcases k hk with hold | hmaster
    · exact hahead.used k hold
    · exact hown.used k hmaster
  · intro k hk k' hk' hid
    rcases hcases k hk with hold | hmaster
    · exact hahead.held k hold k' hk' hid
    · exact hown.held k hmaster k' hk' hid
  · intro k hk k' hk' hid
    rcases hcases k hk with hold | hmaster
    · rcases hcases k' hk' with hold' | hmaster'
      · exact h.agree k hold k' hold' hid
      · exact (hahead.held k hold k' hmaster' hid).1
    · rcases hcases k' hk' with hold' | hmaster'
      · exact (hahead.held k' hold' k hmaster hid.symm).1.symm
      · exact (hown.held k hmaster k' hmaster' hid).1
  · intro id hid
    refine ⟨(hgone id hid).1, fun k hk => ?_⟩
    rcases mem_keys.1 hk with hmaster | hcopy
    · exact (hgone id hid).2 k hmaster
    · exact (h.gone id hid).2 k (mem_keys.2 (.inr hcopy))

/-- **Whatever happens, the copies stay consistent.** -/
theorem step (h : Consistent s past gone x) (hstep : Step x y) : Consistent s past gone y := by
  cases hstep with
  | call c now entropy => exact h.call c now entropy
  | send hexport =>
    obtain ⟨current, next, hwindow⟩ := h.master
    exact h.with_export hexport (fun k hk => mem_keys.2 (.inl hk)) hwindow.nodup_ids
  | join hmade =>
    have hnone := Manager.keys_newSlave hmade
    refine h.with_slaves fun slave hslave => ?_
    rcases List.mem_cons.1 hslave with rfl | hold
    · rw [hnone]
      exact .inr ⟨nofun, List.nodup_nil⟩
    · exact .inl hold
  | receive now hslave hsent himport =>
    obtain ⟨-, rfl⟩ := Manager.eq_of_importKeys himport
    refine h.with_slaves fun slave' hslave' => ?_
    rcases List.mem_or_eq_of_mem_set hslave' with hold | rfl
    · exact .inl hold
    · refine .inr ⟨fun k hk => ?_, KeyWindow.nodup_ids_ofExport (h.sent _ hsent)⟩
      exact mem_keys.2 (.inr (.inr ⟨_, hsent, KeyWindow.mem_of_mem_ofExport hk⟩))
  | resend hslave hexport =>
    exact h.with_export hexport (fun k hk => mem_keys.2 (.inr (.inl ⟨_, hslave, hk⟩)))
      (h.slaves _ hslave)

theorem run (h : Consistent s past gone x) (hrun : Run x y) : Consistent s past gone y := by
  induction hrun with
  | start => exact h
  | step _ hstep ih => exact ih.step hstep

/-- A master that has just been made is consistent with itself. -/
theorem of_newMaster {start : Instant} {entropy : Entropy} {m : Manager}
    (hmade : (Manager.newMaster s start entropy).result = .ok m) :
    Consistent s [] [] ⟨m, [], []⟩ := by
  obtain ⟨current, next, hwindow⟩ := MasterWindow.of_newMaster hmade
  have hown := hwindow.aheadOf_keys
  have hall : [] ++ keys ⟨m, [], []⟩ = m.window.keys := by simp [keys]
  refine ⟨⟨current, next, hwindow⟩, nofun, nofun, ?_, ?_, nofun⟩
  · rw [hall]
    exact hown
  · rw [hall]
    exact fun k hk k' hk' hid => (hown.held k hk k' hk' hid).1

/-- The keys that are around may be remembered. -/
theorem remember (h : Consistent s [] [] x) : Consistent s x.keys [] x := by
  have hall : ∀ k ∈ x.keys ++ x.keys, k ∈ [] ++ x.keys := by
    intro k hk
    rcases List.mem_append.1 hk with hk | hk <;> exact hk
  exact ⟨h.master, h.slaves, h.sent,
    ⟨fun k hk => h.ahead.used k (hall k hk), fun k hk => h.ahead.held k (hall k hk)⟩,
    fun k hk k' hk' => h.agree k (hall k hk) k' (hall k' hk'), nofun⟩

/-- **The id that a failed call used up is gone.** -/
theorem remember_failed (h : Consistent s [] [] x) {c : RotationCall} {now : Instant}
    {entropy : Entropy} {error : AccessError}
    (hfailed : (c.run x.master now entropy).result = .error error)
    (hused : (c.run x.master now entropy).manager.nextKeyId ≠ x.master.nextKeyId) :
    Consistent s [] [x.master.nextKeyId]
      { x with master := (c.run x.master now entropy).manager } := by
  obtain ⟨current, next, hwindow⟩ := h.master
  have hresult : (c.run x.master now entropy).result ≠ .ok true := by simp [hfailed]
  have hkept := hwindow.window_eq hresult
  have hcounter := (hwindow.call_keys c now entropy).1
  have hafter := h.call c now entropy
  refine { hafter with gone := fun id hid => ?_ }
  obtain rfl := List.mem_singleton.1 hid
  refine ⟨UInt32.lt_of_le_of_ne hcounter hused.symm, fun k hk => UInt32.ne_of_lt ?_⟩
  refine h.ahead.used k (mem_keys.2 ?_)
  rw [← hkept]
  exact mem_keys.1 hk

end Consistent

end Exchange

/-- **One id, one key.** A master has been made, and anything has happened between it and its slaves
up to `x`. Then no window and no export has two keys with the same id. And from there on, up to any
`y`: a key that was around before and one that is around now have the same secret if they have the
same id; if the master holds the latter, it is good for as long at least, so no copy outlives the
key of the master, and the master does not shorten the life of a key; and no key ever gets an id
that a failed rotation has used up. -/
theorem one_id_one_key {s : Settings} {start : Instant} {entropy₀ : Entropy} {m₀ : Manager}
    {x : Exchange} (hmade : (Manager.newMaster s start entropy₀).result = .ok m₀)
    (hrun : Exchange.Run ⟨m₀, [], []⟩ x) :
    (∀ m ∈ x.master :: x.slaves, (m.window.keys.map (·.id)).Nodup) ∧
    (∀ e ∈ x.sent, e.keyIds.Nodup) ∧
    (∀ y, Exchange.Run x y →
      (∀ k ∈ x.keys, ∀ k' ∈ y.keys, k.id = k'.id → k.secret = k'.secret) ∧
      ∀ k ∈ x.keys, ∀ k' ∈ y.master.window.keys, k.id = k'.id → k.expiry ≤ k'.expiry) ∧
    ∀ (c : RotationCall) (now : Instant) (entropy : Entropy) (error : AccessError),
      (c.run x.master now entropy).result = .error error →
      (c.run x.master now entropy).manager.nextKeyId ≠ x.master.nextKeyId →
      ∀ y, Exchange.Run { x with master := (c.run x.master now entropy).manager } y →
        ∀ k ∈ y.keys, k.id ≠ x.master.nextKeyId := by
  have h := (Exchange.Consistent.of_newMaster hmade).run hrun
  obtain ⟨current, next, hwindow⟩ := h.master
  refine ⟨fun m hm => ?_, h.sent, fun y hlater => ⟨?_, ?_⟩, ?_⟩
  · rcases List.mem_cons.1 hm with rfl | hslave
    · exact hwindow.nodup_ids
    · exact h.slaves m hslave
  · intro k hk k' hk'
    exact (h.remember.run hlater).agree k (List.mem_append_left _ hk) k'
      (List.mem_append_right _ hk')
  · intro k hk k' hk' hid
    exact ((h.remember.run hlater).ahead.held k (List.mem_append_left _ hk) k' hk' hid).2
  · intro c now entropy error hfailed hused y hlater
    have hgone := ((h.remember_failed hfailed hused).run hlater).gone
    exact (hgone x.master.nextKeyId (List.mem_singleton_self _)).2

/-- A slave imports an export that is one rotation old, and then the entropy of the master fails. -/
theorem one_id_one_key_of_stale_import :
    ∃ x : Exchange, Exchange.Run ⟨.zeroKeyed ⟨0⟩, [], []⟩ x ∧
      x.master.currentKeyId? = some 2 ∧ x.slaves.map (·.currentKeyId?) = [some 1] ∧
      (∀ k ∈ x.keys, ∀ k' ∈ x.keys, k.id = k'.id → k.secret = k'.secret) ∧
      ∀ y, Exchange.Run
        { x with master := (RotationCall.rotate.run x.master ⟨9⟩ (.zeros 0)).manager } y →
        ∀ k ∈ y.keys, k.id ≠ 4 := by
  obtain ⟨current, next, h⟩ := (reachedMaster_zeroKeyed anyClock ⟨0⟩).masterWindow
  have hmade : (Manager.newSlave .standard ⟨0⟩ default).result
      = .ok (.ofSettings .slave .standard (.empty ⟨0⟩ 600000 600000) 0) := rfl
  have hsent : Exchange.Run ⟨.zeroKeyed ⟨0⟩, [], []⟩ _ :=
    (Exchange.Run.start.step (.join hmade)).step (.send h.exportKeys)
  have hrotated := hsent.step (.call .rotate ⟨1⟩ (.zeros 64))
  have hrun := hrotated.step
    (.receive (i := 0) ⟨5⟩ rfl (List.mem_singleton_self _) (h.importKeys rfl ⟨5⟩ _))
  obtain ⟨-, -, hsame, hgone⟩ := one_id_one_key (newMaster_zeros ⟨0⟩) hrun
  obtain rfl := Option.some.inj h.current?
  obtain rfl := Option.some.inj h.next?
  exact ⟨_, hrun, rfl, rfl, (hsame _ .start).1, hgone .rotate ⟨9⟩ (.zeros 0) _ rfl (by decide)⟩

end BlockAccess
