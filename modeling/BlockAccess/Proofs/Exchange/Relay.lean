import BlockAccess.Proofs.Exchange.Agreement

/-!
# Exports that slaves hand on

A slave can export the keys it has imported, and other slaves can import that export. On its way
through slaves an export of a master gets shorter: every slave drops what has run out by its own
clock and cuts the rest to its own cap. It never gets anything else. The current key and the
durations stay, and the other keys stay in their order (`KeyExport.Reduces`).

## Main results

* `KeyExport.Reduces.of_reexport` — what one slave makes of an export.
* `KeyExport.Relayed.reduces` — what any chain of slaves makes of it.
-/

namespace BlockAccess

namespace KeyExport

/-- The keys of the export, the current one first. -/
def keys (e : KeyExport) : List BlockKey := e.current :: e.others

/-- **The export `e'` is `e`, except that keys may be missing** which are not the current key. -/
structure Reduces (e' e : KeyExport) : Prop where
  interval : e'.interval = e.interval
  lifetime : e'.lifetime = e.lifetime
  current : e'.current = e.current
  others : e'.others.Sublist e.others

/-- **An export on its way through slaves:** it is the export that was sent, or what a slave exports
that has imported it on its way, at whatever time by its clock. -/
inductive Relayed (e : KeyExport) : KeyExport → Prop
  | sent : Relayed e e
  | handedOn {e₁ e₂ : KeyExport} {slave slave' : Manager} {now : Instant} (h : Relayed e e₁)
      (himport : slave.importKeys now e₁ = .ok slave') (hexport : slave'.exportKeys = .ok e₂) :
      Relayed e e₂

namespace Reduces

variable {e e₁ e₂ : KeyExport}

theorem refl (e : KeyExport) : e.Reduces e := ⟨rfl, rfl, rfl, List.Sublist.refl _⟩

theorem trans (h₂ : e₂.Reduces e₁) (h₁ : e₁.Reduces e) : e₂.Reduces e where
  interval := h₂.interval.trans h₁.interval
  lifetime := h₂.lifetime.trans h₁.lifetime
  current := h₂.current.trans h₁.current
  others := h₂.others.trans h₁.others

theorem keys_sublist (h : e₁.Reduces e) : e₁.keys.Sublist e.keys := by
  rw [keys, keys, h.current]
  exact h.others.cons_cons e.current

/-- The order of the ids is kept. -/
theorem descending (h : e₁.Reduces e) (he : e.Descending) : e₁.Descending where
  others := he.others.sublist (h.others.map (·.id))
  current := by
    intro k hk
    rw [h.current]
    exact he.current k (h.others.subset hk)

/-- **What one slave makes of an export** whose ids descend. -/
theorem of_reexport (he : e.Descending) {slave slave' : Manager} {now : Instant}
    (himport : slave.importKeys now e = .ok slave') (hexport : slave'.exportKeys = .ok e₁) :
    e₁.Reduces e := by
  obtain ⟨-, rfl⟩ := Manager.eq_of_importKeys himport
  have hshape := Manager.exportKeys_eq_ok_iff.1 hexport
  cases hshape
  refine ⟨rfl, rfl, rfl, ?_⟩
  show ((KeyWindow.retainedOf e now).take slave.maxRetained).Sublist e.others
  rw [KeyWindow.retainedOf_eq_filter he]
  exact (List.take_sublist _ _).trans List.filter_sublist

end Reduces

/-- **What any chain of slaves makes of an export** whose ids descend. -/
theorem Relayed.reduces {e e' : KeyExport} (h : e.Relayed e') (he : e.Descending) :
    e'.Reduces e := by
  induction h with
  | sent => exact .refl e
  | handedOn _ himport hexport ih =>
    exact (Reduces.of_reexport (ih.descending he) himport hexport).trans ih

end KeyExport

end BlockAccess
