import BlockAccess.Proofs.Access.Verdict
import BlockAccess.Proofs.Exchange.Relay

/-!
# How long keys live

The expiry of a key is set when the key is made, and moved twice: when the key becomes current and
when it is retired. Both times it can only grow, and rotations may come early or late. Still a
master whose clock does not go back has its keys in order: the next key is good the longest, then
the current one, then the retired ones, the newest first. The next key was made when the current
key became current, and is good for two intervals and a lifetime from then on. Together this bounds
the life of every key, and of the bounds none could be proved alone: the order needs that of the key
before, and the bound needs the order.

Two things follow. What the cap cuts off are the keys with the least to live. And once the bound has
passed, no token is accepted any more by whoever has got his keys from there, even by way of other
slaves, since these add no keys of their own (`KeyExport.Relayed`).

## Main results

* `MasterWindow.expiriesDescend_renewed` — a rotation keeps the keys in order.
* `ReachedMaster.orderedWindow` — every master has them in order under a clock that never goes back.
* `ExpiriesDescend.le_of_mem_take_drop` — a cap cuts off what runs out first.
* `bounded_key_life` — the bound, with its consequences for caps and for slaves.
-/

namespace BlockAccess

/-- **Each of the keys is good for as long at least as those after it.** -/
def ExpiriesDescend (ks : List BlockKey) : Prop := ks.Pairwise fun k k' => k'.expiry ≤ k.expiry

namespace ExpiriesDescend

variable {k k' : BlockKey} {ks ks' : List BlockKey}

/-- It is enough to compare a key with the one right after it. -/
theorem cons_cons (hle : k'.expiry ≤ k.expiry) (h : ExpiriesDescend (k' :: ks)) :
    ExpiriesDescend (k :: k' :: ks) := by
  refine List.pairwise_cons.2 ⟨fun x hx => ?_, h⟩
  rcases List.mem_cons.1 hx with rfl | hlater
  · exact hle
  · exact Instant.le_trans ((List.pairwise_cons.1 h).1 x hlater) hle

/-- The first key may be replaced by one that is good for longer. -/
theorem extend_head (hle : k'.expiry ≤ k.expiry) (h : ExpiriesDescend (k' :: ks)) :
    ExpiriesDescend (k :: ks) := by
  obtain ⟨hfirst, hrest⟩ := List.pairwise_cons.1 h
  exact List.pairwise_cons.2 ⟨fun x hx => Instant.le_trans (hfirst x hx) hle, hrest⟩

theorem sublist (h : ExpiriesDescend ks) (hsub : ks'.Sublist ks) : ExpiriesDescend ks' :=
  List.Pairwise.sublist hsub h

/-- **A cap cuts off what runs out first.** -/
theorem le_of_mem_take_drop (h : ExpiriesDescend ks) {n : Nat} {kept dropped : BlockKey}
    (hkept : kept ∈ ks.take n) (hdropped : dropped ∈ ks.drop n) :
    dropped.expiry ≤ kept.expiry := by
  rw [ExpiriesDescend, ← List.take_append_drop n ks] at h
  exact (List.pairwise_append.1 h).2.2 kept hkept dropped hdropped

end ExpiriesDescend

/-! ## Masters whose clock does not go back -/

namespace MasterWindow

variable {s : Settings} {m : Manager} {current next : BlockKey} {now : Instant}

/-- **A rotation keeps the keys in order,** also those that the cap is about to cut off. -/
theorem expiriesDescend_renewed (h : MasterWindow s m current next)
    (hkeys : ExpiriesDescend (next :: current :: m.window.retained))
    (hnow : m.window.currentSince ≤ now) (secret : List UInt8) :
    ExpiriesDescend (m.freshNext now secret :: next.extendedTo (m.window.currentExpiry now)
      :: m.window.retiring now) := by
  obtain ⟨hnext, hrest⟩ := List.pairwise_cons.1 hkeys
  have hpromoted : (next.extendedTo (m.window.currentExpiry now)).expiry
      ≤ (m.freshNext now secret).expiry := by
    refine Instant.max_le ?_ (Instant.le_after _ _)
    rw [h.next_expiry]
    exact Instant.after_le_after
      (Instant.after_le_after (Instant.after_le_after hnow _) _) m.window.interval
  have hretired : (current.extendedTo (now.after m.window.lifetime)).expiry
      ≤ (next.extendedTo (m.window.currentExpiry now)).expiry := by
    refine Instant.max_le ?_ ?_
    · exact Instant.le_trans (hnext current (List.mem_cons_self ..)) (Instant.le_max_left _ _)
    · exact Instant.le_trans (Instant.after_le_after (Instant.le_after _ _) _)
        (Instant.le_max_right _ _)
  have hkept : ExpiriesDescend
      (current :: m.window.retained.filter fun k => !k.isExpired now) :=
    ExpiriesDescend.sublist hrest (List.filter_sublist.cons_cons current)
  have hretiring := hkept.extend_head (k := current.extendedTo (now.after m.window.lifetime))
    (Instant.le_max_left _ _)
  rw [KeyWindow.retiring, h.current?]
  exact (hretiring.cons_cons hretired).cons_cons hpromoted

end MasterWindow

/-- **What is true of a master at `t`** besides the invariant if its clock has never gone back: its
keys are in order, and the current key became current in the past. -/
structure OrderedWindow (s : Settings) (t : Instant) (m : Manager) (current next : BlockKey) : Prop
    extends MasterWindow s m current next where
  expiries : ExpiriesDescend (next :: current :: m.window.retained)
  since : m.window.currentSince ≤ t

namespace OrderedWindow

variable {s : Settings} {t now : Instant} {m : Manager} {current next : BlockKey}

/-- Every call keeps the order. -/
theorem call (h : OrderedWindow s t m current next) (c : RotationCall) (hnow : t ≤ now)
    (entropy : Entropy) :
    ∃ current' next', OrderedWindow s now (c.run m now entropy).manager current' next' := by
  have hsince := Instant.le_trans h.since hnow
  have heffect := h.effect c now entropy
  generalize (c.run m now entropy).manager = m' at heffect ⊢
  generalize (c.run m now entropy).result = result at heffect
  cases heffect with
  | @rotated _ secret _ _ hcounter _ =>
    have hall := h.expiriesDescend_renewed h.expiries hsince secret
    have hcut := hall.sublist
      (((List.take_sublist m.maxRetained (m.window.retiring now)).cons_cons _).cons_cons _)
    exact ⟨_, _, { h.renewed hcounter now secret with
      expiries := hcut
      since := Instant.le_refl now }⟩
  | notDue => exact ⟨current, next, { h with since := hsince }⟩
  | exhausted => exact ⟨current, next, { h with since := hsince }⟩
  | dry hcounter _ =>
    exact ⟨current, next, { h.idTaken hcounter with
      expiries := h.expiries
      since := hsince }⟩

/-- The two keys of a new master are in order. -/
theorem of_newMaster {entropy : Entropy} (hmade : (Manager.newMaster s t entropy).result = .ok m) :
    ∃ current next, OrderedWindow s t m current next := by
  obtain ⟨current, next, h⟩ := MasterWindow.of_newMaster hmade
  obtain ⟨-, first, secret₁, secret₂, -, -, -, rfl⟩ := Manager.newMaster_eq_ok hmade
  obtain rfl := Option.some.inj h.current?
  obtain rfl := Option.some.inj h.next?
  exact ⟨_, _, { h with
    expiries := .cons_cons (Instant.le_after _ _) (List.pairwise_singleton _ _)
    since := Instant.le_refl t }⟩

/-- No key is good for longer than two intervals and a lifetime from when the current key became
current. -/
theorem toInt_expiry_le (h : OrderedWindow s t m current next) {k : BlockKey}
    (hk : k ∈ m.window.keys) :
    k.expiry.toInt ≤ min (m.window.currentSince.toInt + 2 * s.interval.toNat + s.lifetime.toNat)
      Instant.lastMillis := by
  have hnext : k.expiry ≤ next.expiry := by
    rw [h.keys] at hk
    obtain ⟨hfirst, -⟩ := List.pairwise_cons.1 h.expiries
    rcases List.mem_cons.1 hk with rfl | hk
    · exact hfirst k (List.mem_cons_self ..)
    · rcases List.mem_cons.1 hk with rfl | hretained
      · exact Instant.le_refl _
      · exact hfirst k (List.mem_cons_of_mem _ hretained)
  have hbound := h.toInt_next_expiry
  rw [Instant.le_iff_toInt_le] at hnext
  omega

end OrderedWindow

theorem RotationRun.orderedWindow {s : Settings} {t t' : Instant} {m m' : Manager} {n : Nat}
    {current next : BlockKey} (hrun : RotationRun (· ≤ ·) t m n t' m')
    (h : OrderedWindow s t m current next) :
    ∃ current' next', OrderedWindow s t' m' current' next' := by
  induction hrun with
  | start => exact ⟨current, next, h⟩
  | rotated c entropy _ hclock _ ih =>
    obtain ⟨_, _, hwindow⟩ := ih
    exact hwindow.call c hclock entropy
  | kept c entropy _ hclock _ ih =>
    obtain ⟨_, _, hwindow⟩ := ih
    exact hwindow.call c hclock entropy

theorem ReachedMaster.orderedWindow {s : Settings} {t : Instant} {m : Manager}
    (h : ReachedMaster (· ≤ ·) s t m) : ∃ current next, OrderedWindow s t m current next := by
  obtain ⟨start, entropy, m₀, n, hmade, hrun⟩ := h
  obtain ⟨current, next, hwindow⟩ := OrderedWindow.of_newMaster hmade
  exact hrun.orderedWindow hwindow

/-! ## Slaves -/

/-- A window in which all keys have run out accepts nothing. -/
theorem Manager.checkAccess_error_of_expired {m : Manager} {now : Instant}
    (hexpired : ∀ k ∈ m.window.keys, k.expiry < now) (token : Token) (owner? : Option String)
    (block : Block) (mode : AccessMode) :
    ∃ error, m.checkAccess now token owner? block mode = .error error := by
  cases hcheck : m.checkAccess now token owner? block mode with
  | error error => exact ⟨error, rfl⟩
  | ok x =>
    obtain ⟨-, -, k, hk, hgood, -⟩ := checkAccess_eq_ok_iff.1 hcheck
    have hlate := hexpired k hk
    rw [Instant.lt_iff_toInt_lt] at hlate
    rw [Instant.le_iff_toInt_le] at hgood
    omega

/-- An importer has got all its keys from the export. -/
theorem KeyWindow.keys_ofExport_sublist {e : KeyExport} (he : e.Descending) (now : Instant)
    (limit : Nat) : (ofExport e now limit).keys.Sublist e.keys := by
  rw [keys_ofExport he]
  exact ((List.take_sublist _ _).trans List.filter_sublist).cons_cons e.current

/-- **The life of keys is bounded.** Under a clock that never goes back the keys of a master run out
in the order of their age, the next key last, and none of them later than two intervals and a
lifetime after the current key became current. So a rotation cuts off no key that is good for
longer than one that it keeps, and neither does a slave that imports an export of the master,
directly or by way of other slaves. After the bound such a slave refuses every token. -/
theorem bounded_key_life {s : Settings} {t : Instant} {m : Manager}
    (hreached : ReachedMaster (· ≤ ·) s t m) :
    (∃ current next, m.window.current? = some current ∧ m.window.next? = some next ∧
      (next :: current :: m.window.retained).Pairwise fun k k' => k'.expiry ≤ k.expiry) ∧
    (∀ k ∈ m.window.keys, k.expiry.toInt
      ≤ min (m.window.currentSince.toInt + 2 * s.interval.toNat + s.lifetime.toNat)
        Instant.lastMillis) ∧
    (∀ (c : RotationCall) (now : Instant) (entropy : Entropy), t ≤ now →
      (c.run m now entropy).result = .ok true →
      ∀ dropped ∈ (m.window.retiring now).drop m.maxRetained,
        ∀ kept ∈ (c.run m now entropy).manager.window.keys, dropped.expiry ≤ kept.expiry) ∧
    ∃ e, m.exportKeys = .ok e ∧ ∀ e', e.Relayed e' →
      ∀ (slave slave' : Manager) (t₀ : Instant), slave.importKeys t₀ e' = .ok slave' →
        (∀ dropped ∈ (KeyWindow.retainedOf e' t₀).drop slave.maxRetained,
          ∀ kept ∈ slave'.window.retained, dropped.expiry ≤ kept.expiry) ∧
        ∀ now : Instant,
          m.window.currentSince.toInt + 2 * s.interval.toNat + s.lifetime.toNat < now.toInt →
          ∀ token owner? block mode, ∃ error,
            slave'.checkAccess now token owner? block mode = .error error := by
  obtain ⟨current, next, h⟩ := hreached.orderedWindow
  refine ⟨⟨current, next, h.current?, h.next?, h.expiries⟩, fun k hk => h.toInt_expiry_le hk, ?_,
    _, h.exportKeys, ?_⟩
  · intro c now entropy hnow hresult dropped hdropped kept hkept
    obtain ⟨secret, hrenewed⟩ := h.eq_renewed hresult
    have hall := h.expiriesDescend_renewed h.expiries (Instant.le_trans h.since hnow) secret
    rw [hrenewed] at hkept
    -- The cap leaves the two newest keys alone: it cuts the list of all keys two places later.
    refine hall.le_of_mem_take_drop (n := m.maxRetained + 2) ?_ hdropped
    rcases List.mem_cons.1 hkept with rfl | hkept
    · exact List.mem_cons_of_mem _ (List.mem_cons_self ..)
    · rcases List.mem_cons.1 hkept with rfl | hretained
      · exact List.mem_cons_self ..
      · exact List.mem_cons_of_mem _ (List.mem_cons_of_mem _ hretained)
  · intro e' hrelayed slave slave' t₀ himport
    have hreduces := hrelayed.reduces h.export_descending
    have he' := hreduces.descending h.export_descending
    obtain ⟨-, rfl⟩ := Manager.eq_of_importKeys himport
    constructor
    · intro dropped hdropped kept hkept
      have hothers : ExpiriesDescend (next :: m.window.retained) :=
        h.expiries.sublist ((List.sublist_cons_self current _).cons_cons next)
      have hretained : ExpiriesDescend (KeyWindow.retainedOf e' t₀) := by
        rw [KeyWindow.retainedOf_eq_filter he']
        exact (hothers.sublist hreduces.others).sublist List.filter_sublist
      exact hretained.le_of_mem_take_drop hkept hdropped
    · intro now hnow token owner? block mode
      refine Manager.checkAccess_error_of_expired (fun k hk => ?_) token owner? block mode
      have hsent := (KeyWindow.keys_ofExport_sublist he' t₀ slave.maxRetained).subset hk
      have howned : k ∈ m.window.keys := by
        rw [KeyWindow.keys_of_toExport? h.toExport?]
        exact hreduces.keys_sublist.subset hsent
      have hbound := h.toInt_expiry_le howned
      rw [Instant.lt_iff_toInt_lt]
      omega

/-- The master of the standard settings, rotated at once. -/
def Manager.zeroKeyedEarly : Manager :=
  (zeroKeyed ⟨0⟩).renewed ⟨1⟩ ⟨2, ⟨1800000⟩, List.replicate 64 0⟩ (List.replicate 64 0)

/-- The keys of that master reach a slave by way of another, whose clock is ahead. At the first
moment after the bound the slave refuses everything. -/
theorem bounded_key_life_by_relay :
    ∃ e relay e' slave, ReachedMaster (· ≤ ·) .standard ⟨1⟩ .zeroKeyedEarly ∧
      Manager.zeroKeyedEarly.exportKeys = .ok e ∧
      (Manager.emptySlave 1).importKeys ⟨600⟩ e = .ok relay ∧ relay.exportKeys = .ok e' ∧
      (Manager.emptySlave 2).importKeys ⟨2⟩ e' = .ok slave ∧
      ∀ token owner? block mode, ∃ error,
        slave.checkAccess ⟨1800002⟩ token owner? block mode = .error error := by
  have hreached : ReachedMaster (· ≤ ·) .standard ⟨1⟩ .zeroKeyedEarly :=
    ⟨⟨0⟩, .zeros 132, _, 1, newMaster_zeros ⟨0⟩,
      .rotated .rotate (.zeros 64) .start (by decide) rfl⟩
  obtain ⟨current, next, h⟩ := hreached.masterWindow
  obtain ⟨-, -, -, e, hexport, hslaves⟩ := bounded_key_life hreached
  obtain rfl := Except.ok.inj (hexport.symm.trans h.exportKeys)
  have hrole : (Manager.emptySlave 1).role = .slave := rfl
  have himport := h.importKeys hrole ⟨600⟩ (next :: Manager.zeroKeyedEarly.window.retained)
  have hrelayed := KeyExport.Relayed.handedOn .sent himport rfl
  obtain ⟨-, hrefused⟩ :=
    hslaves _ hrelayed (.emptySlave 2) _ ⟨2⟩ (h.importKeys rfl ⟨2⟩ _)
  exact ⟨_, _, _, _, hreached, hexport, himport, rfl, h.importKeys rfl ⟨2⟩ _,
    hrefused ⟨1800002⟩ (by decide)⟩

end BlockAccess
