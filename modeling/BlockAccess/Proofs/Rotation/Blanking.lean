import BlockAccess.Proofs.Rotation.Secrets

/-!
# Blank secrets

A secret is made blank by as many zeros; a line about a key shows how long its secret is, and it
still does. Two managers that are the same with blank secrets cannot be told apart by what they
answer, once the secrets in an answer are blank too. To see this each of the two is compared with
the blank manager itself: to blank the secrets before an operation or after it is the same. Where
the operation draws a secret, the blank manager may draw from another source, as long as that one
does not fail at other draws (`Entropy.FailAlike`).

## Main results

* `Manager.rotateWindow_alike` — the only operation that draws, provided that there is a next key:
  without one it would draw twice.
* `Manager.newMaster_alike` — the making of a master, which draws the first id before the secrets.
* `Manager.mint_blanked` — the only operation that signs.
-/

namespace BlockAccess

/-! ## Blank secrets -/

/-- Zeros in place of the bytes. -/
def blank (secret : List UInt8) : List UInt8 := List.replicate secret.length 0

@[simp] theorem length_blank (secret : List UInt8) : (blank secret).length = secret.length :=
  List.length_replicate

theorem blank_eq_of_length {a b : List UInt8} (h : a.length = b.length) : blank a = blank b := by
  rw [blank, blank, h]

@[simp] theorem blank_blank (secret : List UInt8) : blank (blank secret) = blank secret :=
  blank_eq_of_length (length_blank secret)

/-- The key with a blank secret. -/
abbrev BlockKey.blanked (k : BlockKey) : BlockKey := k.mapSecret blank

/-- The export with blank secrets. -/
abbrev KeyExport.blanked (e : KeyExport) : KeyExport := e.mapSecrets blank

/-- The manager with blank secrets. -/
abbrev Manager.blanked (m : Manager) : Manager := m.mapSecrets blank

/-- The token with a blank password. -/
def Token.blanked (t : Token) : Token := { t with password := blank t.password }

@[simp] theorem BlockKey.blanked_blanked (k : BlockKey) : k.blanked.blanked = k.blanked := by
  simp only [blanked, mapSecret, blank_blank]

theorem KeyWindow.blanked_blanked (w : KeyWindow) :
    (w.mapSecrets blank).mapSecrets blank = w.mapSecrets blank := by
  simp only [mapSecrets, Option.map_map, List.map_map, Function.comp_def, BlockKey.blanked_blanked]

@[simp] theorem Manager.blanked_blanked (m : Manager) : m.blanked.blanked = m.blanked := by
  simp only [blanked, mapSecrets, KeyWindow.blanked_blanked]

@[simp] theorem KeyExport.blanked_blanked (e : KeyExport) : e.blanked.blanked = e.blanked := by
  simp only [blanked, mapSecrets, List.map_map, Function.comp_def, BlockKey.blanked_blanked]

/-! ### Lines -/

/-- A line about a key shows the length of the secret. -/
theorem BlockKey.redactedText_blanked (k : BlockKey) : k.blanked.redactedText = k.redactedText := by
  have hid : k.blanked.id = k.id := rfl
  have hexpiry : k.blanked.expiry = k.expiry := rfl
  have hlength : k.blanked.secret.length = k.secret.length := length_blank k.secret
  unfold redactedText
  rw [hid, hexpiry, hlength]

/-! ## Draws -/

namespace Entropy

/-- **The sources fail alike:** of draws of these sizes, one after the other, each succeeds with
both or with neither. -/
def FailAlike : List Nat → Entropy → Entropy → Prop
  | [], _, _ => True
  | n :: sizes, e, e' =>
    match e.draw? n, e'.draw? n with
    | some (_, rest), some (_, rest') => FailAlike sizes rest rest'
    | none, none => True
    | some _, none | none, some _ => False

/-- **The sources give the same first id,** if they give one, and then fail alike at the draws of
the first two secrets. -/
def SameFirstId (e e' : Entropy) : Prop :=
  match e.draw? 4, e'.draw? 4 with
  | some (drawn, rest), some (drawn', rest') =>
    drawn = drawn' ∧ FailAlike [BlockKey.secretLength, BlockKey.secretLength] rest rest'
  | none, none => True
  | some _, none | none, some _ => False

variable {e e' : Entropy} {n : Nat} {sizes : List Nat}

theorem FailAlike.cases (h : FailAlike (n :: sizes) e e') :
    (e.draw? n = none ∧ e'.draw? n = none) ∨
    ∃ drawn rest drawn' rest', e.draw? n = some (drawn, rest) ∧
      e'.draw? n = some (drawn', rest') ∧ blank drawn = blank drawn' ∧
      FailAlike sizes rest rest' := by
  unfold FailAlike at h
  split at h
  next drawn rest drawn' rest' hdraw hdraw' =>
    have hlength : drawn.length = drawn'.length := by
      rw [length_of_draw? hdraw, length_of_draw? hdraw']
    exact .inr ⟨drawn, rest, drawn', rest', hdraw, hdraw', blank_eq_of_length hlength, h⟩
  next hdraw hdraw' => exact .inl ⟨hdraw, hdraw'⟩
  next => exact h.elim
  next => exact h.elim

theorem FailAlike.refl (sizes : List Nat) (e : Entropy) : FailAlike sizes e e := by
  induction sizes generalizing e with
  | nil => trivial
  | cons n sizes ih =>
    unfold FailAlike
    cases e.draw? n with
    | none => trivial
    | some drawn => exact ih drawn.2

end Entropy

open Entropy (FailAlike SameFirstId)

/-! ## Operations on one manager -/

namespace Manager

/-- The rotations are seen to be the same: they differ in the secrets that they leave, and in the
entropy. -/
structure Rotation.Alike {α : Type} (r r' : Rotation α) : Prop where
  result : r.result = r'.result
  manager : r.manager.blanked = r'.manager.blanked
  events : r.events = r'.events

variable {m : Manager} (now : Instant) {e e' : Entropy}

theorem blanked_renewed (m : Manager) (now : Instant) (next : BlockKey)
    {secret secret' : List UInt8} (hsecret : blank secret = blank secret') :
    (m.renewed now next secret).blanked = (m.blanked.renewed now next.blanked secret').blanked := by
  have hblanked (m : Manager) (next : BlockKey) (secret : List UInt8) :
      (m.renewed now next secret).blanked = m.blanked.renewed now next.blanked (blank secret) :=
    m.mapSecrets_renewed blank now next secret
  rw [hblanked, hblanked, hsecret, blanked_blanked, BlockKey.blanked_blanked]

/-- **A rotation does not look at secrets,** neither at those that are there nor at the one that it
draws. -/
theorem rotateWindow_alike {next : BlockKey} (hnext : m.window.next? = some next)
    (hfail : m.nextKeyId.toNat + 1 < UInt32.size → FailAlike [BlockKey.secretLength] e e') :
    (m.rotateWindow now e).Alike (m.blanked.rotateWindow now e') := by
  have hnext' : m.blanked.window.next? = some next.blanked := by
    simp only [mapSecrets, KeyWindow.mapSecrets, hnext, Option.map_some]
  have hnewest : newestId? m.blanked.window = newestId? m.window :=
    newestId?_mapSecrets blank m.window
  have hid : m.blanked.nextKeyId = m.nextKeyId := rfl
  simp only [rotateWindow, hnewest, hid]
  cases (newestId? m.window).filter (m.nextKeyId ≤ ·) with
  | some newest => exact ⟨rfl, m.blanked_blanked.symm, rfl⟩
  | none =>
    simp only [run_successors hnext, run_successors hnext']
    by_cases hroom : m.nextKeyId.toNat + 1 < UInt32.size
    · simp only [if_pos hroom]
      rcases (hfail hroom).cases with ⟨hdry, hdry'⟩ | ⟨_, _, _, _, hdraw, hdraw', hsecret, -⟩
      · have hmanager : m.idTaken.blanked = m.blanked.idTaken.blanked := by
          simp only [idTaken, mapSecrets, KeyWindow.blanked_blanked]
        simp only [hdry, hdry']
        exact ⟨rfl, hmanager, rfl⟩
      · have hretiring : (m.blanked.window.retiring now).length
            = (m.window.retiring now).length := by
          rw [show m.blanked.window = m.window.mapSecrets blank from rfl,
            KeyWindow.retiring_mapSecrets, List.length_map]
        have hevicted : m.blanked.window.evictedCount now = m.window.evictedCount now :=
          KeyWindow.evictedCount_mapSecrets blank m.window now
        simp only [hdraw, hdraw', hretiring, hevicted]
        exact ⟨rfl, m.blanked_renewed now next hsecret, rfl⟩
    · simp only [if_neg hroom]
      exact ⟨rfl, m.blanked_blanked.symm, rfl⟩

/-- Whether a call for a rotation comes to draw a secret. -/
def Draws (m : Manager) (c : RotationCall) (now : Instant) : Prop :=
  m.role = .master ∧ (c = .rotateIfDue → m.window.isDue now = true) ∧
    m.nextKeyId.toNat + 1 < UInt32.size

/-- A call for a rotation is answered alike, whichever manager it reaches. -/
theorem call_alike (hnext : m.role = .master → m.window.next?.isSome) (c : RotationCall)
    (hfail : m.Draws c now → FailAlike [BlockKey.secretLength] e e') :
    (c.run m now e).Alike (c.run m.blanked now e') := by
  have hrole : m.blanked.role = m.role := rfl
  cases hm : m.role with
  | slave =>
    cases c <;> simp only [RotationCall.run, rotate, rotateIfDue, hrole, hm]
    all_goals exact ⟨rfl, m.blanked_blanked.symm, rfl⟩
  | master =>
    obtain ⟨next, hnext⟩ := Option.isSome_iff_exists.1 (hnext hm)
    have hdue : m.blanked.window.isDue now = m.window.isDue now :=
      KeyWindow.isDue_mapSecrets blank m.window now
    cases c with
    | rotate =>
      have hasked : RotationCall.rotate = .rotateIfDue → m.window.isDue now = true := by
        intro hcall
        cases hcall
      obtain ⟨hresult, hmanager, hevents⟩ :=
        rotateWindow_alike now hnext fun hroom => hfail ⟨hm, hasked, hroom⟩
      simp only [RotationCall.run, rotate, hrole, hm]
      exact ⟨congrArg (Except.map fun _ => true) hresult, hmanager, hevents⟩
    | rotateIfDue =>
      simp only [RotationCall.run, rotateIfDue, hrole, hm, hdue]
      by_cases h : m.window.isDue now = true
      · obtain ⟨hresult, hmanager, hevents⟩ :=
          rotateWindow_alike now hnext fun hroom => hfail ⟨hm, fun _ => h, hroom⟩
        simp only [if_pos h]
        exact ⟨congrArg (Except.map fun _ => true) hresult, hmanager, hevents⟩
      · simp only [if_neg h]
        exact ⟨rfl, m.blanked_blanked.symm, rfl⟩

/-- **A token shows the secret in its password only,** and this is of one length. -/
theorem mint_blanked (m : Manager) (block : Block) (modes : AccessModes)
    (owner? : Option String) :
    (m.mint now block modes owner?).map Token.blanked
      = (m.blanked.mint now block modes owner?).map Token.blanked := by
  have hrole : m.blanked.role = m.role := rfl
  have hissue : m.blanked.mayIssue = m.mayIssue := rfl
  have hcurrent : m.blanked.window.current? = m.window.current?.map BlockKey.blanked := rfl
  unfold mint
  rw [hissue, hrole, hcurrent]
  cases m.mayIssue with
  | false => rfl
  | true =>
    cases m.window.current? with
    | none => rfl
    | some k =>
      have hidentifier : m.blanked.identifierFor now k.blanked block modes owner?
          = m.identifierFor now k block modes owner? := rfl
      simp only [Option.map_some, hidentifier]
      cases (m.identifierFor now k block modes owner?).encode with
      | error error => simp only [bind, Except.bind]
      | ok bytes =>
        have hpassword : blank (k.sign bytes) = blank (k.blanked.sign bytes) :=
          blank_eq_of_length (by rw [BlockKey.length_sign, BlockKey.length_sign])
        exact congrArg (fun password => Except.ok (Token.ofSigned bytes password)) hpassword

/-! ### The making of a master -/

/-- **The making of a master does not look at the secrets,** only at the first id. -/
theorem newMaster_alike (s : Settings) (now : Instant) (h : SameFirstId e e') :
    (newMaster s now e).result.map blanked = (newMaster s now e').result.map blanked ∧
      (newMaster s now e).events = (newMaster s now e').events := by
  unfold newMaster
  cases s.validate with
  | error error => exact ⟨rfl, rfl⟩
  | ok _ =>
    simp only [run_firstKeys]
    unfold SameFirstId at h
    split at h
    next drawn e₁ drawn' e₁' hfirst hfirst' =>
      obtain ⟨rfl, hrest⟩ := h
      rw [hfirst, hfirst']
      dsimp only
      rcases hrest.cases with ⟨hdry, hdry'⟩ | ⟨_, _, _, _, hdraw, hdraw', hsecret₁, hrest⟩
      · rw [hdry, hdry']
        exact ⟨rfl, rfl⟩
      · rw [hdraw, hdraw']
        dsimp only
        rcases hrest.cases with ⟨hdry, hdry'⟩ | ⟨_, _, _, _, hdraw, hdraw', hsecret₂, -⟩
        · rw [hdry, hdry']
          exact ⟨rfl, rfl⟩
        · rw [hdraw, hdraw']
          refine ⟨?_, rfl⟩
          simp only [Except.map, ofSettings, mapSecrets, KeyWindow.mapSecrets, Option.map_some,
            BlockKey.mapSecret, hsecret₁, hsecret₂]
    next hdry hdry' =>
      rw [hdry, hdry']
      exact ⟨rfl, rfl⟩
    next => exact h.elim
    next => exact h.elim

end Manager

end BlockAccess
