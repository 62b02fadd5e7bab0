import BlockAccess.Proofs.Access.Issuance
import BlockAccess.Proofs.Access.Verdict
import BlockAccess.Proofs.Deployment.PoolEffect

/-!
# Registries keep pools apart

A registry is asked about many pools, and each of its managers is to see nothing of the others. Four
things make this up. The registry is a map from pools to managers, which only successful additions
and removals change. What is done to a pool leaves the managers of the others as they are. What is
answered about tokens depends on the manager of the pool and on the time, and on nothing else in the
registry. And a token is for one block: the registry asks the manager of the block that a caller
wants, not of the block that the token names, but then the claims of the token have to name the same
block, so that keys that two pools share do not open one to the tokens of the other.

A registry takes over the managers that it is given: nobody can hand it the same manager twice.
Between two calls anything else may happen, managers that rotate and clocks that are set included.

## Main results

* `RegistryRun.tracked` — a registry is the map that its history makes.
* `PoolEffect.frame` — a call about one pool leaves the others alone.
* `registry_isolates_pools` — all of it together.
-/

namespace BlockAccess

open Deployment

variable {r : RegistryRef} {d d' : Deployment} {call : PoolCall}
  {answer : Except AccessError PoolAnswer}

/-! ## The map that a history makes -/

/-- What was called and what was answered, the latest call first. -/
abbrev PoolHistory := List (PoolCall × Except AccessError PoolAnswer)

/-- **The map from pools to managers that a history makes:** it begins empty, and only additions and
removals that succeed change it. -/
def PoolHistory.map : PoolHistory → String → Option ManagerRef
  | [] => fun _ => none
  | (.add pool m, .ok _) :: earlier => Function.update (map earlier) pool (some m)
  | (.remove pool, .ok _) :: earlier => Function.update (map earlier) pool none
  | _ :: earlier => map earlier

/-- **A run of calls on a registry,** from when it was set up. Between the calls anything may happen
that does not call the registry. -/
inductive RegistryRun (r : RegistryRef) : PoolHistory → Deployment → Prop
  | start {d₀ d : Deployment} (h : newRegistry.run d₀ = (r, d)) : RegistryRun r [] d
  | call {history : PoolHistory} {d d' : Deployment} {call : PoolCall}
      {answer : Except AccessError PoolAnswer} (hrun : RegistryRun r history d)
      (hfresh : call.Fresh r d) (h : (call.run r).run d = (answer, d')) :
      RegistryRun r ((call, answer) :: history) d'
  | meanwhile {history : PoolHistory} {d d' : Deployment} (hrun : RegistryRun r history d)
      (h : d'.registries[r.index]? = d.registries[r.index]?) : RegistryRun r history d'

/-- **What holds of a registry throughout a run.** -/
structure Tracked (r : RegistryRef) (history : PoolHistory) (d : Deployment) : Prop where
  place : r.index < d.registries.size
  find? (pool : String) : (d.registry r).find? pool = history.map pool
  unambiguous : (d.registry r).Unambiguous
  /-- No two pools have one manager. -/
  apart (pool other : String) (m : ManagerRef) (h : (d.registry r).find? pool = some m)
    (h' : (d.registry r).find? other = some m) : pool = other

namespace Tracked

variable {history : PoolHistory}

theorem start {d₀ : Deployment} (h : newRegistry.run d₀ = (r, d)) : Tracked r [] d := by
  cases h
  have hempty : ({ d₀ with registries := d₀.registries.push .empty } : Deployment).registry
      ⟨d₀.registries.size⟩ = .empty := by
    rw [Deployment.registry, Array.getD_eq_getD_getElem?, Array.getElem?_push_size]
    rfl
  constructor
  case place =>
    show d₀.registries.size < (d₀.registries.push .empty).size
    rw [Array.size_push]
    exact Nat.lt_succ_self _
  case find? =>
    intro pool
    exact congrArg (·.find? pool) hempty
  case unambiguous =>
    show Registry.Unambiguous (Deployment.registry _ _)
    rw [hempty]
    exact Registry.unambiguous_empty
  case apart =>
    intro pool other m h
    have hnone : (none : Option ManagerRef) = some m :=
      (congrArg (·.find? pool) hempty).symm.trans h
    cases hnone

theorem meanwhile (h : Tracked r history d)
    (hsame : d'.registries[r.index]? = d.registries[r.index]?) : Tracked r history d' := by
  have hregistry : d'.registry r = d.registry r := by
    rw [Deployment.registry, Deployment.registry, Array.getD_eq_getD_getElem?,
      Array.getD_eq_getD_getElem?, hsame]
  constructor
  case place =>
    rw [Array.getElem?_eq_getElem h.place] at hsame
    exact (Array.getElem?_eq_some_iff.1 hsame).1
  case find? => exact fun pool => hregistry ▸ h.find? pool
  case unambiguous => exact hregistry ▸ h.unambiguous
  case apart => exact hregistry ▸ h.apart

/-- What a call changes in a registry is what it changes in the map. -/
theorem step (h : Tracked r history d) (hfresh : call.Fresh r d)
    (heffect : PoolEffect r d call answer d') : Tracked r ((call, answer) :: history) d' := by
  cases heffect with
  | @added pool m x log hfree hadd =>
    have hregistry : ({ d.withRegistry r x with log } : Deployment).registry r = x :=
      registry_withRegistry h.place x
    constructor
    case place => exact (size_withRegistry d r x).symm ▸ h.place
    case find? =>
      intro other
      rw [hregistry, Registry.find?_add hadd, h.find?, PoolHistory.map, Function.update_apply]
    case unambiguous => exact hregistry.symm ▸ h.unambiguous.add hadd
    case apart =>
      -- The new manager is none of those that were there before.
      intro one other held hone hother
      rw [hregistry, Registry.find?_add hadd] at hone hother
      by_cases h₁ : one = pool <;> by_cases h₂ : other = pool
      · rw [h₁, h₂]
      · rw [if_pos h₁] at hone
        rw [if_neg h₂, ← hone] at hother
        exact absurd hother (hfresh other)
      · rw [if_pos h₂] at hother
        rw [if_neg h₁, ← hother] at hone
        exact absurd hone (hfresh one)
      · rw [if_neg h₁] at hone
        rw [if_neg h₂] at hother
        exact h.apart one other held hone hother
  | @removed pool m x log hheld hremove =>
    have hregistry : ({ d.withRegistry r x with log } : Deployment).registry r = x :=
      registry_withRegistry h.place x
    have hkept (other : String) (held : ManagerRef) (hother : x.find? other = some held) :
        (d.registry r).find? other = some held := by
      rw [Registry.find?_remove hremove] at hother
      split at hother
      · cases hother
      · exact hother
    constructor
    case place => exact (size_withRegistry d r x).symm ▸ h.place
    case find? =>
      intro other
      rw [hregistry, Registry.find?_remove hremove, h.find?, PoolHistory.map,
        Function.update_apply]
    case unambiguous => exact hregistry.symm ▸ h.unambiguous.remove hremove
    case apart =>
      intro one other held hone hother
      rw [hregistry] at hone hother
      exact h.apart one other held (hkept one held hone) (hkept other held hother)
  | imported | answered | duplicate | missing | unserved | notImported | notAnswered =>
    exact ⟨h.place, h.find?, h.unambiguous, h.apart⟩

end Tracked

/-- **Throughout a run the registry is the map that its history makes.** -/
theorem RegistryRun.tracked {history : PoolHistory} (h : RegistryRun r history d) :
    Tracked r history d := by
  induction h with
  | start hnew => exact .start hnew
  | call _ hfresh hrun ih => exact ih.step hfresh (PoolCall.effect_run hrun)
  | meanwhile _ hsame ih => exact ih.meanwhile hsame

/-! ## What a call leaves alone -/

/-- **A call leaves other pools alone:** their managers, the keys of these, and their clocks. -/
theorem PoolEffect.frame {history : PoolHistory} (h : PoolEffect r d call answer d')
    (htracked : Tracked r history d) {other : String} (hother : other ≠ call.pool) :
    (d'.registry r).find? other = (d.registry r).find? other ∧
      d'.poolState? r other = d.poolState? r other := by
  cases h with
  | @added pool m x log hfree hadd =>
    have hfind : ((d.withRegistry r x).registry r).find? other = (d.registry r).find? other := by
      rw [registry_withRegistry htracked.place, Registry.find?_add hadd]
      exact if_neg hother
    exact ⟨hfind, congrArg (Option.map fun m => (d.manager m, d.now m)) hfind⟩
  | @removed pool m x log hheld hremove =>
    have hfind : ((d.withRegistry r x).registry r).find? other = (d.registry r).find? other := by
      rw [registry_withRegistry htracked.place, Registry.find?_remove hremove]
      exact if_neg hother
    exact ⟨hfind, congrArg (Option.map fun m => (d.manager m, d.now m)) hfind⟩
  | @imported pool e m changed log hheld himport =>
    refine ⟨rfl, Option.map_congr fun q hq => ?_⟩
    -- The pool that imports has a manager of its own.
    have hne : q ≠ m := fun hsame =>
      hother (htracked.apart other pool m (hsame ▸ hq) hheld)
    have hmanager : (d.withManager m changed).manager q = d.manager q :=
      congrArg Member.manager (member_withManager_of_ne hne changed)
    exact Prod.ext hmanager (now_withManager_of_ne hne changed)
  | answered | duplicate | missing | unserved | notImported | notAnswered => exact ⟨rfl, rfl⟩

/-! ## Tokens -/

/-- **A token that was minted for a block is not accepted for another one,** by whatever manager
with whatever keys. -/
theorem Manager.block_of_checkAccess_mint {m m' : Manager} {now now' : Instant}
    {block other : Block} {modes : AccessModes} {owner? expected? : Option String}
    {mode : AccessMode} {t : Token} {x : Identifier}
    (hmint : m.mint now block modes owner? = .ok t)
    (haccepted : m'.checkAccess now' t expected? other mode = .ok x) : other = block := by
  obtain ⟨k, -, hcarries⟩ := carries_of_mint hmint
  obtain ⟨hform, hclaims, -⟩ := checkAccess_eq_ok_iff.1 haccepted
  obtain ⟨-, hblock, -, -⟩ := Identifier.checkClaims_eq_ok_iff.1 hclaims
  have hsays := Token.decodeIdentifier_eq_ok_iff.2 hform
  rw [hcarries.decode] at hsays
  cases hsays
  exact hblock.symm

/-! ## Isolation -/

/-- **Registries keep pools apart.** At any point of any run of calls on a registry:

* its pools and their managers are those of the map that the successful additions and removals make,
  each pool is listed once, and an addition succeeds exactly where there is nothing yet, a removal
  where there is something;
* a call that is refused changes nothing, and a call about one pool leaves the managers of all other
  pools as they are, with their keys and clocks;
* what is answered to a question about tokens is determined by the manager of its pool and the time,
  so that any registry with such a manager for the pool answers the same;
* a token that is minted for a block is not accepted for any other block, there and then or at any
  other time, by this or any other registry or manager, whatever keys they have. -/
theorem registry_isolates_pools {r : RegistryRef} {history : PoolHistory} {d : Deployment}
    (h : RegistryRun r history d) :
    ((∀ pool, (d.registry r).find? pool = history.map pool) ∧ (d.registry r).pools.Nodup ∧
      (d.registry r).pools.length = (d.registry r).size ∧
      ∀ pool, pool ∈ (d.registry r).pools ↔ ∃ m, history.map pool = some m) ∧
    (∀ pool m, ((addPool r pool m).run d).1 =
      match history.map pool with
      | some _ => .error (.duplicatePool pool)
      | none => .ok ()) ∧
    (∀ pool, ((removePool r pool).run d).1 =
      match history.map pool with
      | some m => .ok m
      | none => .error (.unknownPool pool)) ∧
    (∀ call answer d', (PoolCall.run r call).run d = (answer, d') →
      (∀ e, answer = .error e → d' = d) ∧
      ∀ pool, pool ≠ call.pool → (d'.registry r).find? pool = (d.registry r).find? pool ∧
        d'.poolState? r pool = d.poolState? r pool) ∧
    (∀ q : TokenQuery, ((q.ask (.registry r)).run d).1 = q.answer (d.poolState? r q.pool) ∧
      ∀ r' d', d'.poolState? r' q.pool = d.poolState? r q.pool →
        ((q.ask (.registry r')).run d').1 = ((q.ask (.registry r)).run d).1) ∧
    ∀ block modes owner? t, ((mint (.registry r) block modes owner?).run d).1 = .ok t →
      ∀ (d' : Deployment) a expected? other mode x, other ≠ block →
        d'.checkAccess a t expected? other mode ≠ .ok x := by
  have htracked := h.tracked
  have hanswer (q : TokenQuery) (r : RegistryRef) (d : Deployment) :
      ((q.ask (.registry r)).run d).1 = q.answer (d.poolState? r q.pool) := by
    obtain ⟨log, hrun, -⟩ := q.run_ask r d
    rw [hrun]
  refine ⟨⟨htracked.find?, htracked.unambiguous.nodup_pools, Registry.length_pools _, ?_⟩,
    ?_, ?_, ?_, ?_, ?_⟩
  · intro pool
    rw [Registry.mem_pools, htracked.find?, Option.isSome_iff_exists]
  · intro pool m
    rw [run_addPool, Registry.add, htracked.find?]
    cases history.map pool <;> rfl
  · intro pool
    rw [run_removePool, Registry.remove, htracked.find?]
    cases history.map pool <;> rfl
  · intro call answer d' hrun
    have heffect := PoolCall.effect_run hrun
    refine ⟨?_, fun pool hother => heffect.frame htracked hother⟩
    rintro e rfl
    exact heffect.eq_of_refused
  · intro q
    refine ⟨hanswer q r d, fun r' d' hsame => ?_⟩
    rw [hanswer, hanswer, hsame]
  · intro block modes owner? t hmint d' a expected? other mode x hother haccepted
    obtain ⟨m, -, hsigned⟩ := mint_eq_ok_iff.1 hmint
    obtain ⟨m', -, hchecked⟩ := checkAccess_eq_ok_iff.1 haccepted
    exact hother (Manager.block_of_checkAccess_mint hsigned hchecked)

/-! ## Two pools with the same keys -/

/-- What a master with the standard settings exports if its entropy was zero. -/
def KeyExport.zeroKeyed : KeyExport :=
  ⟨600000, 600000, ⟨1, ⟨1200000⟩, List.replicate 64 0⟩, [⟨2, ⟨1800000⟩, List.replicate 64 0⟩]⟩

/-- A master that has its first keys, and a slave that has none yet. -/
def Deployment.masterAndSlave : Deployment :=
  { Deployment.empty ⟨0⟩ with
    members := #[⟨.zeroKeyed ⟨0⟩, .system⟩,
      ⟨.ofSettings .slave .standard (.empty ⟨0⟩ 1 1) 0, .system⟩] }

/-- The calls that give each of them a pool, and the keys of the master to both. The latest comes
first. -/
def PoolHistory.sharing : PoolHistory :=
  [(.importKeys "right" .zeroKeyed, .ok .done), (.add "right" ⟨1⟩, .ok .done),
    (.add "left" ⟨0⟩, .ok .done)]

/-- Makes these calls. -/
def Deployment.share : Deploy Unit := do
  let r ← newRegistry
  let _ ← addPool r "left" ⟨0⟩
  let _ ← addPool r "right" ⟨1⟩
  let _ ← importAt .zeroKeyed (.pool r "right")

/-- What they lead to. -/
def Deployment.sharing : Deployment := (share.run masterAndSlave).2

theorem registryRun_sharing : RegistryRun ⟨0⟩ .sharing .sharing := by
  have hset : newRegistry.run masterAndSlave = (⟨0⟩, _) := rfl
  have hnew := RegistryRun.start hset
  have hleft : RegistryRun ⟨0⟩ [(.add "left" ⟨0⟩, .ok .done)] _ := hnew.call (fun _ => nofun) rfl
  have hfree (pool : String) : [("left", (⟨0⟩ : ManagerRef))].lookup pool ≠ some ⟨1⟩ := by
    rw [List.lookup_cons, List.lookup_nil]
    split <;> decide
  have hright : RegistryRun ⟨0⟩ ((.add "right" ⟨1⟩, .ok .done) :: _) _ := hleft.call hfree rfl
  exact hright.call trivial rfl

/-- The first key of the master. -/
def BlockKey.shared : BlockKey := ⟨1, ⟨1200000⟩, List.replicate 64 0⟩

/-- What either of the two signs for a block of the first pool. -/
def Identifier.shared : Identifier := ⟨⟨600000⟩, 1, "", ⟨"left", 7⟩, .all⟩

/-- The token that they make of it. -/
def Token.shared : Token :=
  .ofSigned Identifier.shared.wireBytes (BlockKey.shared.sign Identifier.shared.wireBytes)

theorem encode_shared : Identifier.shared.encode = .ok Identifier.shared.wireBytes :=
  Identifier.encode_eq_ok_iff.2 ⟨by decide, rfl⟩

theorem carries_shared : Token.shared.Carries .shared .shared :=
  Token.carries_ofSigned encode_shared .shared

theorem mint_shared : (Manager.zeroKeyed ⟨0⟩).mint ⟨0⟩ ⟨"left", 7⟩ .all none = .ok .shared :=
  Manager.mint_eq_ok_iff.2 ⟨rfl, .shared, _, rfl, encode_shared, rfl⟩

/-- Both managers have the key. -/
theorem shared_mem_candidates :
    .shared ∈ (Deployment.sharing.manager ⟨0⟩).window.candidates ⟨0⟩ ∧
      .shared ∈ (Deployment.sharing.manager ⟨1⟩).window.candidates ⟨0⟩ :=
  ⟨KeyWindow.current_mem_candidates rfl (by decide),
    KeyWindow.current_mem_candidates rfl (by decide)⟩

/-- The slave would verify the password of what the master mints for its pool, and yet the registry
does not accept it for the block of that number in the other pool. -/
theorem registry_isolates_shared_keys :
    RegistryRun ⟨0⟩ .sharing .sharing ∧
      ((mint (.registry ⟨0⟩) ⟨"left", 7⟩ .all none).run .sharing).1 = .ok .shared ∧
      (Deployment.sharing.manager ⟨1⟩).window.Signs ⟨0⟩ .shared ∧
      ∀ mode x, Deployment.sharing.checkAccess (.registry ⟨0⟩) .shared none ⟨"right", 7⟩ mode
        ≠ .ok x := by
  have hmint : ((mint (.registry ⟨0⟩) ⟨"left", 7⟩ .all none).run .sharing).1 = .ok .shared :=
    mint_eq_ok_iff.2 ⟨⟨0⟩, rfl, mint_shared⟩
  have hsigned : (Deployment.sharing.manager ⟨1⟩).window.Signs ⟨0⟩ .shared :=
    KeyWindow.signs_iff_candidate.2 ⟨_, shared_mem_candidates.2, carries_shared.signed⟩
  obtain ⟨-, -, -, -, -, hrefused⟩ := registry_isolates_pools registryRun_sharing
  refine ⟨registryRun_sharing, hmint, hsigned, fun mode x => ?_⟩
  exact hrefused _ _ _ _ hmint _ _ _ _ mode x (by decide)

end BlockAccess
