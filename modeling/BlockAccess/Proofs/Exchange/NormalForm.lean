import BlockAccess.Proofs.Exchange.Agreement
import Mathlib.Data.List.Perm.Subperm

/-!
# What an import makes of an export

A slave takes over whatever it is handed: keys in any order, ids that occur twice, the current key
once more among the others, keys that have run out. What it exports afterwards is put in order. The
current key and the durations are as they were; of the others, those that are good come newest
first, and the cap has been applied. `KeyExport.normalized` is this export, and `KeyExport.NormalAt`
says what it is like without saying how it is made.

That a second import changes nothing is not proved by going through filter, sort and cap once more,
but from two facts: what an import makes is in order, and what is in order stays as it is. The
second one also holds of the exports of masters, whose keys stand in this order from the beginning.

## Main results

* `KeyExport.normalAt_normalized` — what an import makes is in order.
* `KeyExport.NormalAt.normalized_eq` — what is in order stays as it is.
* `import_normalizes` — what a slave exports, and what a chain of slaves hands on.
-/

namespace BlockAccess

namespace KeyWindow

variable {e : KeyExport} {now : Instant}

/-- Which keys an importer retains, before the cap is applied. -/
theorem mem_retainedOf {k : BlockKey} :
    k ∈ retainedOf e now ↔ k ∈ e.others ∧ k.id ≠ e.current.id ∧ now ≤ k.expiry := by
  simp only [retainedOf, List.mem_mergeSort, List.mem_filter, Bool.and_eq_true, decide_eq_true_eq,
    BlockKey.not_isExpired_iff]

/-- They come newest first; keys with the same id stay in the order in which they were sent. -/
theorem sorted_retainedOf (e : KeyExport) (now : Instant) :
    (retainedOf e now).Pairwise fun a b => b.id ≤ a.id := by
  have htrans : ∀ a b c : BlockKey, decide (b.id ≤ a.id) = true → decide (c.id ≤ b.id) = true →
      decide (c.id ≤ a.id) = true := by
    intro a b c hab hbc
    rw [decide_eq_true_eq] at hab hbc ⊢
    exact UInt32.le_trans hbc hab
  have htotal : ∀ a b : BlockKey, (decide (b.id ≤ a.id) || decide (a.id ≤ b.id)) = true := by
    intro a b
    simpa using UInt32.le_total b.id a.id
  exact (List.pairwise_mergeSort htrans htotal _).imp of_decide_eq_true

end KeyWindow

namespace KeyExport

open KeyWindow

variable {e : KeyExport} {now : Instant} {limit : Nat}

/-- **What a slave exports that has imported `e`** at a time and under a cap. -/
def normalized (e : KeyExport) (now : Instant) (limit : Nat) : KeyExport :=
  { e with others := (retainedOf e now).take limit }

/-- **The keys besides the current one are in order:** newest first, neither the current key nor any
that has run out among them, and not more than the cap allows. -/
structure NormalAt (e : KeyExport) (now : Instant) (limit : Nat) : Prop where
  sorted : e.others.Pairwise fun a b => b.id ≤ a.id
  apart : ∀ k ∈ e.others, k.id ≠ e.current.id
  unexpired : ∀ k ∈ e.others, now ≤ k.expiry
  capped : e.others.length ≤ limit

theorem normalAt_normalized (e : KeyExport) (now : Instant) (limit : Nat) :
    (e.normalized now limit).NormalAt now limit where
  sorted := (sorted_retainedOf e now).sublist (List.take_sublist _ _)
  apart _ hk := (mem_retainedOf.1 (List.mem_of_mem_take hk)).2.1
  unexpired _ hk := (mem_retainedOf.1 (List.mem_of_mem_take hk)).2.2
  capped := List.length_take_le _ _

/-- **What is in order stays as it is.** -/
theorem NormalAt.normalized_eq (h : e.NormalAt now limit) : e.normalized now limit = e := by
  have hfilter : (e.others.filter fun k => k.id ≠ e.current.id && !k.isExpired now) = e.others := by
    refine List.filter_eq_self.2 fun k hk => ?_
    have hid := h.apart k hk
    have hgood := BlockKey.not_isExpired_iff.2 (h.unexpired k hk)
    simp [hid, hgood]
  have hsort : retainedOf e now = e.others := by
    rw [retainedOf, hfilter]
    exact List.mergeSort_of_pairwise (h.sorted.imp decide_eq_true)
  rw [normalized, hsort, List.take_of_length_le h.capped]

/-- Every key was sent, and no key is there more often than it was sent. -/
theorem subperm_normalized (e : KeyExport) (now : Instant) (limit : Nat) :
    (e.normalized now limit).others.Subperm e.others := by
  have hsort : (retainedOf e now).Perm _ := List.mergeSort_perm _ _
  have hfilter : (retainedOf e now).Subperm e.others :=
    hsort.subperm.trans List.filter_sublist.subperm
  exact (List.take_sublist limit _).subperm.trans hfilter

/-- A good key that is not handed on has been cut off by the cap, behind keys that are not older. -/
theorem le_of_not_mem_normalized {k : BlockKey} (hk : k ∈ e.others) (hid : k.id ≠ e.current.id)
    (hgood : now ≤ k.expiry) (hcut : k ∉ (e.normalized now limit).others) :
    (e.normalized now limit).others.length = limit ∧
      ∀ kept ∈ (e.normalized now limit).others, k.id ≤ kept.id := by
  have hretained := mem_retainedOf.2 ⟨hk, hid, hgood⟩
  have hsorted := sorted_retainedOf e now
  rw [← List.take_append_drop limit (retainedOf e now)] at hretained hsorted
  rcases List.mem_append.1 hretained with htaken | hdropped
  · exact absurd htaken hcut
  · constructor
    · have hlong := List.length_pos_of_mem hdropped
      rw [List.length_drop] at hlong
      simp only [normalized, List.length_take]
      omega
    · intro kept hkept
      exact (List.pairwise_append.1 hsorted).2.2 kept hkept k hdropped

/-- What comes out of a chain of slaves, each of which imports at its own time what the slave before
it exports. -/
def passedOn (e : KeyExport) : List (Manager × Instant) → Except AccessError KeyExport
  | [] => .ok e
  | (slave, now) :: later => do
    let holder ← slave.importKeys now e
    let handed ← holder.exportKeys
    handed.passedOn later

end KeyExport

/-! ## Imports and exports of a slave -/

namespace Manager

theorem exportKeys_ofExport (slave : Manager) (e : KeyExport) (now : Instant) (limit : Nat) :
    { slave with window := .ofExport e now limit }.exportKeys = .ok (e.normalized now limit) := rfl

end Manager

/-- The window that a normal form makes is the one from which it was exported. -/
theorem KeyWindow.ofExport_normalized (e : KeyExport) (now : Instant) (limit : Nat) :
    ofExport (e.normalized now limit) now limit = ofExport e now limit := by
  have hothers := congrArg KeyExport.others (e.normalAt_normalized now limit).normalized_eq
  simp only [KeyExport.normalized] at hothers
  simp only [ofExport, KeyExport.normalized, hothers]

/-- The keys of a master are in order. -/
theorem MasterWindow.normalAt {s : Settings} {m : Manager} {current next : BlockKey}
    (h : MasterWindow s m current next) {e : KeyExport} (hexport : m.exportKeys = .ok e)
    {now : Instant} {limit : Nat} (hgood : ∀ k ∈ e.others, now ≤ k.expiry)
    (hroom : e.others.length ≤ limit) : e.NormalAt now limit := by
  rw [h.exportKeys] at hexport
  cases hexport
  have hdescending := h.export_descending
  refine ⟨?_, hdescending.current, hgood, hroom⟩
  exact (List.pairwise_map.1 hdescending.others).imp UInt32.le_of_lt

/-- A chain of slaves hands on unchanged what is in order for each of them. -/
theorem KeyExport.passedOn_of_normalAt {e : KeyExport} (hinterval : e.interval ≠ 0)
    (hlifetime : e.lifetime ≠ 0) {chain : List (Manager × Instant)}
    (hchain : ∀ link ∈ chain, link.1.role = .slave ∧ e.NormalAt link.2 link.1.maxRetained) :
    e.passedOn chain = .ok e := by
  induction chain with
  | nil => rfl
  | cons link later ih =>
    obtain ⟨slave, now⟩ := link
    obtain ⟨hrole, hnormal⟩ := hchain _ (List.mem_cons_self ..)
    rw [passedOn, Manager.importKeys_of_slave hrole hinterval hlifetime]
    show (e.normalized now slave.maxRetained).passedOn later = .ok e
    rw [hnormal.normalized_eq]
    exact ih fun link hlink => hchain link (List.mem_cons_of_mem _ hlink)

/-- **An import puts an export in order, once and for all.** Whatever export with durations a slave
is handed, it takes it over, and exports the same durations and the same current key; the others are
in order, all of them were sent, and a good key is missing only if the cap had room for newer ones
only. A slave with the same cap that imports this at the same time gets the same window. And what a
master exports is in order from the beginning: as long as none of its keys has run out and the caps
leave room for them, a chain of slaves hands it on unchanged. -/
theorem import_normalizes :
    (∀ (e : KeyExport) (slave : Manager) (now : Instant), e.interval ≠ 0 → e.lifetime ≠ 0 →
      slave.role = .slave →
      ∃ slave' e', slave.importKeys now e = .ok slave' ∧ slave'.exportKeys = .ok e' ∧
        e'.interval = e.interval ∧ e'.lifetime = e.lifetime ∧ e'.current = e.current ∧
        e'.NormalAt now slave.maxRetained ∧ e'.others.Subperm e.others ∧
        (∀ k ∈ e.others, k.id ≠ e.current.id → now ≤ k.expiry → k ∉ e'.others →
          e'.others.length = slave.maxRetained ∧ ∀ kept ∈ e'.others, k.id ≤ kept.id) ∧
        ∀ other : Manager, other.role = .slave → other.maxRetained = slave.maxRetained →
          ∃ other', other.importKeys now e' = .ok other' ∧ other'.window = slave'.window) ∧
    ∀ (clock : Instant → Instant → Prop) (s : Settings) (t : Instant) (m : Manager)
      (e : KeyExport) (chain : List (Manager × Instant)), ReachedMaster clock s t m →
      m.exportKeys = .ok e →
      (∀ link ∈ chain, link.1.role = .slave ∧ e.others.length ≤ link.1.maxRetained ∧
        ∀ k ∈ e.others, link.2 ≤ k.expiry) →
      e.passedOn chain = .ok e := by
  constructor
  · intro e slave now hinterval hlifetime hrole
    refine ⟨_, _, Manager.importKeys_of_slave hrole hinterval hlifetime now,
      Manager.exportKeys_ofExport .., rfl, rfl, rfl, e.normalAt_normalized now _,
      e.subperm_normalized now _, ?_, ?_⟩
    · intro k hk hid hgood hcut
      exact KeyExport.le_of_not_mem_normalized hk hid hgood hcut
    · intro other hother hcap
      refine ⟨_, Manager.importKeys_of_slave (e := e.normalized now slave.maxRetained) hother
        hinterval hlifetime now, ?_⟩
      show KeyWindow.ofExport (e.normalized now slave.maxRetained) now other.maxRetained = _
      rw [hcap]
      exact KeyWindow.ofExport_normalized e now slave.maxRetained
  · intro clock s t m e chain hreached hexport hchain
    obtain ⟨current, next, h⟩ := hreached.masterWindow
    obtain ⟨hinterval, hlifetime, -⟩ := Settings.fault?_eq_none_iff.1 h.settings
    have hdurations : e.interval ≠ 0 ∧ e.lifetime ≠ 0 := by
      have hshape := hexport
      rw [h.exportKeys] at hshape
      cases hshape
      exact ⟨hinterval, hlifetime⟩
    refine KeyExport.passedOn_of_normalAt hdurations.1 hdurations.2 fun link hlink => ?_
    obtain ⟨hrole, hroom, hgood⟩ := hchain link hlink
    exact ⟨hrole, h.normalAt hexport hgood hroom⟩

/-- Keys in disorder: one id occurs twice, a key has run out by 60, and the current id is there. -/
def KeyExport.disordered : KeyExport :=
  ⟨1, 1, ⟨5, ⟨90⟩, [5]⟩, [⟨3, ⟨90⟩, [1]⟩, ⟨9, ⟨59⟩, [2]⟩, ⟨5, ⟨90⟩, [3]⟩, ⟨7, ⟨60⟩, [4]⟩,
    ⟨3, ⟨90⟩, [5]⟩, ⟨4, ⟨90⟩, [6]⟩]⟩

/-- Of the two keys with the same id the cap spares the one that was sent first. And the keys of a
new master go through two slaves, the second of which gets them at the last moment. -/
theorem import_normalizes_disordered :
    (∃ (slave again : Manager) (e : KeyExport),
      (Manager.emptySlave 3).importKeys ⟨60⟩ .disordered = .ok slave ∧ slave.exportKeys = .ok e ∧
      e.others.map (·.secret) = [[4], [6], [1]] ∧ e.NormalAt ⟨60⟩ 3 ∧
      (Manager.emptySlave 3).importKeys ⟨60⟩ e = .ok again ∧ again.window = slave.window) ∧
    ∃ e, (Manager.zeroKeyed ⟨0⟩).exportKeys = .ok e ∧
      e.passedOn [(.emptySlave 1, ⟨5⟩), (.emptySlave 1, ⟨1800000⟩)] = .ok e := by
  constructor
  · obtain ⟨slave, e, himport, hexport, -, -, -, hnormal, -, -, hagain⟩ :=
      import_normalizes.1 .disordered (.emptySlave 3) ⟨60⟩ (by decide) (by decide) rfl
    obtain ⟨again, himport', hwindow⟩ := hagain (.emptySlave 3) rfl rfl
    have hsecrets : (KeyExport.disordered.normalized ⟨60⟩ 3).others.map (·.secret)
        = [[4], [6], [1]] := by
      have hgood : (KeyExport.disordered.others.filter fun k =>
          k.id ≠ KeyExport.disordered.current.id && !k.isExpired ⟨60⟩)
            = [⟨3, ⟨90⟩, [1]⟩, ⟨7, ⟨60⟩, [4]⟩, ⟨3, ⟨90⟩, [5]⟩, ⟨4, ⟨90⟩, [6]⟩] := rfl
      rw [KeyExport.normalized, KeyWindow.retainedOf, hgood]
      simp [List.mergeSort, List.MergeSort.Internal.splitInTwo]
    have hform : KeyExport.disordered.normalized ⟨60⟩ 3 = e := by
      obtain rfl := Except.ok.inj himport
      exact Except.ok.inj hexport
    exact ⟨slave, again, e, himport, hexport, hform ▸ hsecrets, hnormal, himport', hwindow⟩
  · have hexport : (Manager.zeroKeyed ⟨0⟩).exportKeys = .ok _ := rfl
    refine ⟨_, hexport, ?_⟩
    exact import_normalizes.2 anyClock .standard ⟨0⟩ (.zeroKeyed ⟨0⟩) _ _
      (reachedMaster_zeroKeyed anyClock ⟨0⟩) hexport (by decide)

end BlockAccess
