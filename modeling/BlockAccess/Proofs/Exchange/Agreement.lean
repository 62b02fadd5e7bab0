import BlockAccess.Manager.Access
import BlockAccess.Proofs.Rotation.Invariant

/-!
# Master and slave agree after an import

The windows of a master and of a slave that imports from it have different shapes. The master holds
its next key apart; the slave files it among the retired ones, drops what has run out, sorts by id
and cuts the list to its cap. What both are asked about, though, is only the list of candidates. An
export of a master is already in the order that the slave sorts it into (`KeyExport.Descending`),
and a key that had run out at the import is no candidate later on either. So the candidate lists are
equal from the import on, and with them all answers.

## Main results

* `KeyWindow.retainedOf_eq_filter` — an import keeps the order of an export that descends.
* `KeyWindow.candidates_ofExport` — the importer has the candidates of the exporter.
* `agree_after_import` — master and slave give the same answers until the next change.
-/

namespace BlockAccess

/-- The keys of the export besides the current one are in descending order of their ids, and the
current one is not among them. -/
structure KeyExport.Descending (e : KeyExport) : Prop where
  others : (e.others.map (·.id)).Pairwise (· > ·)
  current : ∀ k ∈ e.others, k.id ≠ e.current.id

namespace KeyWindow

/-- **An import keeps the order of an export that descends;** it drops what has run out. -/
theorem retainedOf_eq_filter {e : KeyExport} (he : e.Descending) (now : Instant) :
    retainedOf e now = e.others.filter fun k => !k.isExpired now := by
  have hfilter : (e.others.filter fun k => k.id ≠ e.current.id && !k.isExpired now)
      = e.others.filter fun k => !k.isExpired now := by
    refine List.filter_congr fun k hk => ?_
    simp [he.current k hk]
  rw [retainedOf, hfilter]
  refine List.mergeSort_of_pairwise ?_
  have hsorted := (List.pairwise_map.1 he.others).imp (S := fun a b => decide (b.id ≤ a.id) = true)
    (fun hlt => decide_eq_true (UInt32.le_of_lt hlt))
  exact hsorted.sublist List.filter_sublist

/-- What was dropped at an import has run out for all later times. -/
theorem filter_filter_isExpired {t₀ t : Instant} (htime : t₀ ≤ t) (ks : List BlockKey) :
    (ks.filter fun k => !k.isExpired t₀).filter (fun k => !k.isExpired t)
      = ks.filter fun k => !k.isExpired t := by
  rw [List.filter_filter]
  refine List.filter_congr fun k _ => ?_
  cases hlater : k.isExpired t with
  | true => rfl
  | false =>
    have hearlier : k.isExpired t₀ = false := by
      rw [BlockKey.isExpired_eq_false_iff] at hlater ⊢
      exact Instant.le_trans htime hlater
    rw [hearlier]
    rfl

theorem keys_of_toExport? {w : KeyWindow} {e : KeyExport} (hexport : w.toExport? = some e) :
    w.keys = e.current :: e.others := by
  obtain ⟨k, hcurrent, rfl⟩ := Option.map_eq_some_iff.1 hexport
  simp [keys, hcurrent]

/-- **The keys of an importer:** the current key, and the others in their order, as far as they have
not run out and the cap leaves room for them. -/
theorem keys_ofExport {e : KeyExport} (he : e.Descending) (now : Instant) (limit : Nat) :
    (ofExport e now limit).keys
      = e.current :: (e.others.filter fun k => !k.isExpired now).take limit := by
  simp only [keys, ofExport, Option.toList_some, Option.toList_none, List.append_nil,
    List.singleton_append, retainedOf_eq_filter he]

/-- An importer that has room for all keys that are good at the import has the candidates of the
exporter from then on. -/
theorem candidates_ofExport_of_room {w : KeyWindow} {e : KeyExport}
    (hexport : w.toExport? = some e) (he : e.Descending) {limit : Nat} {t₀ t : Instant}
    (hroom : (e.others.filter fun k => !k.isExpired t₀).length ≤ limit) (htime : t₀ ≤ t) :
    (ofExport e t₀ limit).candidates t = w.candidates t := by
  rw [candidates, candidates, keys_ofExport he, keys_of_toExport? hexport,
    List.take_of_length_le hroom, List.filter_cons, List.filter_cons,
    filter_filter_isExpired htime]

/-- **The importer has the candidates of the exporter,** from the import on, if its cap leaves room
for all keys. -/
theorem candidates_ofExport {w : KeyWindow} {e : KeyExport} (hexport : w.toExport? = some e)
    (he : e.Descending) {limit : Nat} (hlimit : e.others.length ≤ limit) {t₀ t : Instant}
    (htime : t₀ ≤ t) : (ofExport e t₀ limit).candidates t = w.candidates t :=
  candidates_ofExport_of_room hexport he (Nat.le_trans (List.length_filter_le _ _) hlimit) htime

end KeyWindow

/-! ## Answers depend on the candidates -/

namespace Manager

variable {m m' : Manager} {now : Instant}

theorem checkAccess_congr (h : m.window.candidates now = m'.window.candidates now) (t : Token)
    (owner? : Option String) (block : Block) (mode : AccessMode) :
    m.checkAccess now t owner? block mode = m'.checkAccess now t owner? block mode := by
  simp only [checkAccess, h]

theorem checkIdentifier_congr (h : m.window.candidates now = m'.window.candidates now)
    (x : Identifier) (owner? : Option String) (block : Block) (mode : AccessMode) :
    m.checkIdentifier now x owner? block mode = m'.checkIdentifier now x owner? block mode := by
  simp only [checkIdentifier, KeyWindow.find?, h]

theorem password_congr (h : m.window.candidates now = m'.window.candidates now) (x : Identifier) :
    m.password now x = m'.password now x := by
  simp only [password, KeyWindow.find?, h]

/-- Tokens are the same where the current key and the lifetime are. -/
theorem mint_congr (hissue : m.mayIssue = true) (hissue' : m'.mayIssue = true)
    (hcurrent : m.window.current? = m'.window.current?)
    (hlifetime : m.window.lifetime = m'.window.lifetime) (block : Block) (modes : AccessModes)
    (owner? : Option String) :
    m.mint now block modes owner? = m'.mint now block modes owner? := by
  have hidentifier : m.identifierFor = m'.identifierFor := by
    funext now k block modes owner?
    simp only [identifierFor, hlifetime]
  simp only [mint, hissue, hissue', hcurrent, hidentifier, Bool.not_true, Bool.false_eq_true,
    if_false]

end Manager

/-! ## The exports of a master -/

namespace MasterWindow

variable {s : Settings} {m : Manager} {current next : BlockKey}

theorem toExport? (h : MasterWindow s m current next) :
    m.window.toExport? = some ⟨s.interval, s.lifetime, current, next :: m.window.retained⟩ := by
  rw [KeyWindow.toExport?, h.current?, h.next?, h.interval, h.lifetime]
  rfl

theorem exportKeys (h : MasterWindow s m current next) :
    m.exportKeys = .ok ⟨s.interval, s.lifetime, current, next :: m.window.retained⟩ := by
  rw [Manager.exportKeys, h.toExport?]

/-- Every slave can import what a master exports. -/
theorem importKeys (h : MasterWindow s m current next) {slave : Manager}
    (hrole : slave.role = .slave) (now : Instant) (others : List BlockKey) :
    slave.importKeys now ⟨s.interval, s.lifetime, current, others⟩
      = .ok { slave with
          window :=
            .ofExport ⟨s.interval, s.lifetime, current, others⟩ now slave.maxRetained } := by
  obtain ⟨hinterval, hlifetime, -⟩ := Settings.fault?_eq_none_iff.1 h.settings
  exact Manager.importKeys_of_slave hrole hinterval hlifetime now

/-- The next key is newer than the current one and the retained keys are older. -/
theorem export_descending (h : MasterWindow s m current next) :
    (⟨s.interval, s.lifetime, current, next :: m.window.retained⟩ : KeyExport).Descending := by
  have hids := (List.pairwise_cons.1 h.descending).2
  refine ⟨hids.sublist ((List.sublist_cons_self current.id _).cons_cons next.id), fun k hk => ?_⟩
  rcases List.mem_cons.1 hk with rfl | hold
  · exact (UInt32.ne_of_lt h.current_lt_next).symm
  · exact UInt32.ne_of_lt (h.retained_lt_current hold)

end MasterWindow

/-- **Master and slave agree after an import.** A master that was reached by whatever run exports
its keys; every slave whose cap leaves room for them imports them, whatever it held before; and from
then on both give the same answers to everything, until the keys of either change. -/
theorem agree_after_import {clock : Instant → Instant → Prop} {s : Settings} {t : Instant}
    {m : Manager} (hreached : ReachedMaster clock s t m) :
    ∃ e, m.exportKeys = .ok e ∧
      ∀ (slave : Manager) (t₀ : Instant), slave.role = .slave →
        e.others.length ≤ slave.maxRetained →
        ∃ slave', slave.importKeys t₀ e = .ok slave' ∧ ∀ now, t₀ ≤ now →
          (∀ token owner? block mode, slave'.checkAccess now token owner? block mode
            = m.checkAccess now token owner? block mode) ∧
          (∀ x owner? block mode, slave'.checkIdentifier now x owner? block mode
            = m.checkIdentifier now x owner? block mode) ∧
          (∀ x, slave'.password now x = m.password now x) ∧
          (slave.slaveMayIssue = true → ∀ block modes owner?,
            slave'.mint now block modes owner? = m.mint now block modes owner?) := by
  obtain ⟨current, next, h⟩ := hreached.masterWindow
  obtain ⟨hinterval, hlifetime, -⟩ := Settings.fault?_eq_none_iff.1 h.settings
  refine ⟨_, by rw [Manager.exportKeys, h.toExport?], fun slave t₀ hrole hlimit => ?_⟩
  refine ⟨_, by rw [Manager.importKeys, hrole]; exact if_neg (by simp [hinterval, hlifetime]), ?_⟩
  intro now htime
  have hcandidates := KeyWindow.candidates_ofExport h.toExport? h.export_descending hlimit htime
  refine ⟨Manager.checkAccess_congr hcandidates, Manager.checkIdentifier_congr hcandidates,
    Manager.password_congr hcandidates, fun hissue => ?_⟩
  refine Manager.mint_congr ?_ ?_ h.current?.symm h.lifetime.symm
  · simp [Manager.mayIssue, hissue]
  · simp [Manager.mayIssue, Manager.isMaster, h.role]

/-- A slave without keys imports those of a master that has just been made. -/
theorem agree_after_first_import :
    ∃ e slave, (Manager.zeroKeyed ⟨0⟩).exportKeys = .ok e ∧
      (Manager.ofSettings .slave .standard (.empty ⟨0⟩ 1 1) 0).importKeys ⟨5⟩ e = .ok slave ∧
      ∀ now, ⟨5⟩ ≤ now → ∀ x, slave.password now x = (Manager.zeroKeyed ⟨0⟩).password now x := by
  obtain ⟨e, hexport, hagree⟩ := agree_after_import (reachedMaster_zeroKeyed anyClock ⟨0⟩)
  cases hexport
  obtain ⟨slave, himport, hanswers⟩ := hagree (.ofSettings .slave .standard (.empty ⟨0⟩ 1 1) 0)
    ⟨5⟩ rfl (by decide)
  exact ⟨_, slave, rfl, himport, fun now htime => (hanswers now htime).2.2.1⟩

end BlockAccess
