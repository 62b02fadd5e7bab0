import BlockAccess.AccessError

/-!
# Registries of pools

A registry says which manager is in charge of a pool. It is a finite map from the names of pools to
whatever stands for a manager.

## Main results

* `find?_add`, `find?_remove` — what is found after a successful change.
* `Unambiguous.add`, `Unambiguous.remove` — each pool occurs once.
-/

namespace BlockAccess

/-- A finite map from pools to their managers. Each pool occurs once. -/
structure Registry (μ : Type) where
  entries : List (String × μ)
  deriving Repr

namespace Registry

variable {μ : Type}

/-- The registry without a pool. -/
def empty : Registry μ := ⟨[]⟩

instance : Inhabited (Registry μ) := ⟨empty⟩

/-- The manager of a pool, if the pool is registered. -/
def find? (r : Registry μ) (pool : String) : Option μ := r.entries.lookup pool

/-- The manager of a pool. -/
def find (r : Registry μ) (pool : String) : Except AccessError μ :=
  match r.find? pool with
  | some m => .ok m
  | none => .error (.unknownPool pool)

/-- **Registers a pool** that is not registered yet. -/
def add (r : Registry μ) (pool : String) (m : μ) : Except AccessError (Registry μ) :=
  match r.find? pool with
  | some _ => .error (.duplicatePool pool)
  | none => .ok ⟨r.entries ++ [(pool, m)]⟩

/-- **Takes a pool out of the registry,** and gives its manager. -/
def remove (r : Registry μ) (pool : String) : Except AccessError (μ × Registry μ) :=
  match r.find? pool with
  | some m => .ok (m, ⟨r.entries.filter (·.1 ≠ pool)⟩)
  | none => .error (.unknownPool pool)

def contains (r : Registry μ) (pool : String) : Bool := (r.find? pool).isSome

/-- The number of registered pools. -/
def size (r : Registry μ) : Nat := r.entries.length

/-- The registered pools in the order of their names. -/
def pools (r : Registry μ) : List String :=
  (r.entries.map (·.1)).mergeSort fun a b => decide (a ≤ b)

theorem find?_add {r r' : Registry μ} {pool : String} {m : μ} (h : r.add pool m = .ok r')
    (other : String) :
    r'.find? other = if other = pool then some m else r.find? other := by
  unfold add at h
  split at h
  · cases h
  · rename_i hnone
    cases h
    simp only [find?, List.lookup_append] at hnone ⊢
    by_cases ho : other = pool
    · subst ho
      simp [hnone]
    · have hb : (other == pool) = false := by simpa using ho
      simp [ho, hb, List.lookup_cons]

private theorem lookup_filter_ne (entries : List (String × μ)) (pool other : String) :
    (entries.filter (·.1 ≠ pool)).lookup other
      = if other = pool then none else entries.lookup other := by
  induction entries with
  | nil => simp
  | cons e rest ih =>
    obtain ⟨name, m⟩ := e
    by_cases hn : name = pool
    · subst hn
      rw [List.filter_cons_of_neg (by simp), ih]
      by_cases ho : other = name
      · simp [ho]
      · have hb : (other == name) = false := by simpa using ho
        simp [ho, hb, List.lookup_cons]
    · rw [List.filter_cons_of_pos (by simpa using hn)]
      by_cases ho : other = name
      · subst ho
        simp [hn]
      · have hb : (other == name) = false := by simpa using ho
        simp only [List.lookup_cons, hb]
        exact ih

theorem find?_remove {r r' : Registry μ} {pool : String} {m : μ}
    (h : r.remove pool = .ok (m, r')) (other : String) :
    r'.find? other = if other = pool then none else r.find? other := by
  unfold remove at h
  split at h
  · cases h
    exact lookup_filter_ne r.entries pool other
  · cases h

/-! ## The names of the pools -/

/-- **Each pool occurs once.** -/
def Unambiguous (r : Registry μ) : Prop := (r.entries.map (·.1)).Nodup

theorem find?_isSome_iff {r : Registry μ} {pool : String} :
    (r.find? pool).isSome = true ↔ pool ∈ r.entries.map (·.1) := by
  rw [find?, List.lookup_isSome_iff, List.mem_map]
  constructor
  · rintro ⟨e, hmem, hname⟩
    exact ⟨e, hmem, (beq_iff_eq.1 hname).symm⟩
  · rintro ⟨e, hmem, rfl⟩
    exact ⟨e, hmem, beq_self_eq_true e.1⟩

/-- The pools that are listed are those for which there is a manager. -/
theorem mem_pools {r : Registry μ} {pool : String} :
    pool ∈ r.pools ↔ (r.find? pool).isSome = true := by
  rw [find?_isSome_iff, pools, List.mem_mergeSort]

theorem length_pools (r : Registry μ) : r.pools.length = r.size := by
  rw [pools, List.length_mergeSort, List.length_map, size]

theorem unambiguous_empty : (empty : Registry μ).Unambiguous := List.nodup_nil

namespace Unambiguous

variable {r r' : Registry μ} {pool : String} {m : μ}

theorem nodup_pools (h : r.Unambiguous) : r.pools.Nodup := (List.mergeSort_perm _ _).nodup_iff.2 h

theorem add (h : r.Unambiguous) (hadd : r.add pool m = .ok r') : r'.Unambiguous := by
  unfold Registry.add at hadd
  split at hadd
  · cases hadd
  · rename_i hfree
    cases hadd
    have hnew : pool ∉ r.entries.map (·.1) := by
      intro hmem
      have hsome := find?_isSome_iff.2 hmem
      rw [hfree] at hsome
      cases hsome
    rw [Unambiguous, List.map_append, List.map_singleton, List.nodup_append]
    refine ⟨h, List.pairwise_singleton _ _, ?_⟩
    intro name hname last hlast hsame
    rw [hsame, List.mem_singleton.1 hlast] at hname
    exact hnew hname

theorem remove (h : r.Unambiguous) (hremove : r.remove pool = .ok (m, r')) :
    r'.Unambiguous := by
  unfold Registry.remove at hremove
  split at hremove
  · cases hremove
    exact h.sublist (List.filter_sublist.map _)
  · cases hremove

end Unambiguous

end Registry

end BlockAccess
