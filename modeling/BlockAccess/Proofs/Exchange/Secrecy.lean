import BlockAccess.Proofs.Rotation.Blanking
import BlockAccess.Proofs.Rotation.Invariant

/-!
# Secrets show in passwords and exports only

A master and a slave that imports exports (`Tandem`) are called in any order, and this is done
twice. The two runs have the same settings, the same calls and the same times; the first id is the
same, and draws fail at the same calls, but the secrets that are drawn have nothing to do with each
other. Then the answers are the same once the secrets in exports and the passwords of tokens are
blank, and so is all that is reported, and every line that is shown as it is.

Each run is compared with one call of the blank tandem at a time (`Tandem.call_blanked`). The
invariant that carries this through a run is `Tandem.Formed`: there is one of each role, and the
master has a next key.

## Main results

* `Tandem.Formed.call` — what every call preserves.
* `Tandem.call_blanked` — one call does not look at secrets.
* `Tandem.answers_blanked` — a run does not look at secrets.
* `secrets_show_nowhere_else` — two runs from the making of the managers on.
-/

namespace BlockAccess

open Entropy (FailAlike SameFirstId)

/-- A master and a slave, with the exports that were made by either of them, in order. -/
structure Tandem where
  master : Manager
  slave : Manager
  exports : List KeyExport

namespace Tandem

/-! ## Calls -/

/-- What a manager is asked to do. -/
inductive Operation
  | rotation (c : RotationCall)
  | exportKeys
  /-- To import the export that was made after `i` others. -/
  | importKeys (i : Nat)
  | mint (block : Block) (modes : AccessModes) (owner? : Option String)
  | checkIdentifier (x : Identifier) (owner? : Option String) (block : Block) (mode : AccessMode)
  | currentKeyId
  | summary

/-- A call: which manager is asked, what for, and what time it is. -/
structure Call where
  role : Role
  operation : Operation
  now : Instant

/-- What is answered. -/
inductive Reply
  | made (result : Except AccessError Unit)
  /-- Whether the keys were rotated. -/
  | rotated (result : Except AccessError Bool)
  | keys (result : Except AccessError KeyExport)
  | noSuchExport
  | imported (result : Except AccessError Unit)
  | token (result : Except AccessError Token)
  | checked (result : Except AccessError Unit)
  | keyId (id? : Option KeyId)
  | line (text : String)

/-- An answer, and what is reported along with it. -/
structure Answer where
  reply : Reply
  events : List Event

/-- The answer with every secret and every password blank. -/
def Answer.blanked (a : Answer) : Answer :=
  { a with reply := match a.reply with
    | .keys result => .keys (result.map KeyExport.blanked)
    | .token result => .token (result.map Token.blanked)
    | reply => reply }

/-- The message of an error, or else the lines about a result. -/
def resultLines {α : Type} (lines : α → List String) : Except AccessError α → List String
  | .ok a => lines a
  | .error error => [error.message]

/-- **The lines that are shown of an answer,** none of them blanked: messages of errors, what is
shown of managers, keys and tokens, and the texts of what is reported. -/
def Answer.lines (a : Answer) : List String :=
  (match a.reply with
    | .made result | .imported result | .checked result => resultLines (fun _ => []) result
    | .rotated result => resultLines (fun _ => []) result
    | .keys result =>
      resultLines (fun e => (e.current :: e.others).map BlockKey.redactedText) result
    | .token result => resultLines (fun t => [t.redactedText]) result
    | .noSuchExport | .keyId _ => []
    | .line text => [text])
  ++ a.events.flatMap fun event => event.entry.fields.map Prod.snd

/-- The manager of a role. -/
def manager (t : Tandem) : Role → Manager
  | .master => t.master
  | .slave => t.slave

/-- The tandem with another manager in a role. -/
def set (t : Tandem) (role : Role) (m : Manager) : Tandem :=
  match role with
  | .master => { t with master := m }
  | .slave => { t with slave := m }

/-- **Makes a call.** -/
def call (t : Tandem) (c : Call) (entropy : Entropy) : Answer × Tandem :=
  let m := t.manager c.role
  match c.operation with
  | .rotation asked =>
    let r := asked.run m c.now entropy
    (⟨.rotated r.result, r.events⟩, t.set c.role r.manager)
  | .exportKeys =>
    (⟨.keys m.exportKeys, []⟩, { t with exports := t.exports ++ m.exportKeys.toOption.toList })
  | .importKeys i =>
    match t.exports[i]? with
    | none => (⟨.noSuchExport, []⟩, t)
    | some e =>
      match m.importKeys c.now e with
      | .error error => (⟨.imported (.error error), []⟩, t)
      | .ok after => (⟨.imported (.ok ()), m.importEvents c.now e⟩, t.set c.role after)
  | .mint block modes owner? =>
    match m.mint c.now block modes owner? with
    | .error error => (⟨.token (.error error), []⟩, t)
    | .ok token => (⟨.token (.ok token), m.mintEvents block modes⟩, t)
  | .checkIdentifier x owner? block mode =>
    (⟨.checked (m.checkIdentifier c.now x owner? block mode), []⟩, t)
  | .currentKeyId => (⟨.keyId m.currentKeyId?, []⟩, t)
  | .summary => (⟨.line m.summary, []⟩, t)

/-- The answers to calls, each of which has its own source of entropy. -/
def answers (t : Tandem) : List (Call × Entropy) → List Answer
  | [] => []
  | (c, entropy) :: calls => (t.call c entropy).1 :: (t.call c entropy).2.answers calls

/-- Whether a call comes to draw a secret. -/
def Draws (t : Tandem) (c : Call) : Prop :=
  ∃ asked, c.operation = .rotation asked ∧ (t.manager c.role).Draws asked c.now

/-- **The same calls from the same sources, as far as failures go.** Where a secret is drawn, the
draw fails with both sources or with neither; the other calls take nothing from their sources, and
these may be anything. -/
inductive SameCalls : Tandem → List (Call × Entropy) → List (Call × Entropy) → Prop
  | done (t : Tandem) : SameCalls t [] []
  | call {t : Tandem} {calls calls' : List (Call × Entropy)} (c : Call) {e e' : Entropy}
      (hfail : t.Draws c → FailAlike [BlockKey.secretLength] e e')
      (h : SameCalls (t.call c e).2 calls calls') :
      SameCalls t ((c, e) :: calls) ((c, e') :: calls')

/-! ## What every call preserves -/

/-- There is one manager of each role, and the master is as masters with these settings are. -/
structure Formed (s : Settings) (t : Tandem) : Prop where
  master : ∃ current next, MasterWindow s t.master current next
  slave : t.slave.role = .slave

variable {s : Settings} {t t' : Tandem} {c : Call} {e e' : Entropy}

/-- A slave stays a slave, whatever it is called for. -/
theorem run_of_slave {m : Manager} (hrole : m.role = .slave) (asked : RotationCall)
    (now : Instant) (entropy : Entropy) : (asked.run m now entropy).manager = m := by
  cases asked <;> simp only [RotationCall.run, Manager.rotate, Manager.rotateIfDue, hrole]

theorem Formed.set (h : t.Formed s) {role : Role} {m : Manager}
    (hmaster : role = .master → ∃ current next, MasterWindow s m current next)
    (hslave : role = .slave → m.role = .slave) : (t.set role m).Formed s := by
  cases role with
  | master => exact ⟨hmaster rfl, h.slave⟩
  | slave => exact ⟨h.master, hslave rfl⟩

theorem Formed.call (h : t.Formed s) (c : Call) (entropy : Entropy) :
    (t.call c entropy).2.Formed s := by
  obtain ⟨role, operation, now⟩ := c
  obtain ⟨current, next, hmaster⟩ := h.master
  cases operation with
  | rotation asked =>
    apply h.set
    · rintro rfl
      exact hmaster.call asked now entropy
    · rintro rfl
      show (asked.run t.slave now entropy).manager.role = .slave
      rw [run_of_slave h.slave, h.slave]
  | exportKeys => exact ⟨h.master, h.slave⟩
  | importKeys i =>
    simp only [Tandem.call]
    split
    · exact h
    split
    · exact h
    next after himport =>
      obtain ⟨hrole, rfl⟩ := Manager.eq_of_importKeys himport
      apply h.set
      · rintro rfl
        have hboth := hmaster.role.symm.trans hrole
        cases hboth
      · exact fun _ => hrole
  | mint block modes owner? =>
    simp only [Tandem.call]
    split <;> exact h
  | checkIdentifier x owner? block mode => exact h
  | currentKeyId => exact h
  | summary => exact h

/-! ## One call -/

/-- The tandem with blank secrets, in managers and exports. -/
def blanked (t : Tandem) : Tandem :=
  ⟨t.master.blanked, t.slave.blanked, t.exports.map KeyExport.blanked⟩

theorem blanked_blanked (t : Tandem) : t.blanked.blanked = t.blanked := by
  simp only [blanked, Manager.blanked_blanked, List.map_map, Function.comp_def,
    KeyExport.blanked_blanked]

theorem manager_blanked (t : Tandem) (role : Role) :
    t.blanked.manager role = (t.manager role).blanked := by
  cases role <;> rfl

theorem blanked_set (t : Tandem) (role : Role) (m : Manager) :
    (t.set role m).blanked = t.blanked.set role m.blanked := by
  cases role <;> rfl

/-- What is seen of a call: the answer with blank secrets, and all that is left with blank
secrets. -/
def seen (outcome : Answer × Tandem) : Answer × Tandem := (outcome.1.blanked, outcome.2.blanked)

section Seen

variable {role : Role} {now : Instant}

/-- Only a master draws, and it has a next key. -/
theorem seen_rotation (h : t.Formed s) {asked : RotationCall}
    (hfail : t.Draws ⟨role, .rotation asked, now⟩ → FailAlike [BlockKey.secretLength] e e') :
    seen (t.call ⟨role, .rotation asked, now⟩ e)
      = seen (t.blanked.call ⟨role, .rotation asked, now⟩ e') := by
  have hnext : (t.manager role).role = .master → (t.manager role).window.next?.isSome := by
    intro hrole
    cases role with
    | master =>
      obtain ⟨current, next, hmaster⟩ := h.master
      exact Option.isSome_of_eq_some hmaster.next?
    | slave => cases h.slave.symm.trans hrole
  obtain ⟨hresult, hmanager, hevents⟩ :=
    Manager.call_alike now hnext asked fun hdraws => hfail ⟨asked, rfl, hdraws⟩
  simp only [seen, call, manager_blanked, hresult, hevents, blanked_set, hmanager,
    blanked_blanked]

/-- What is exported now is blanked now, and what was exported before was blanked with the rest. -/
theorem seen_exportKeys :
    seen (t.call ⟨role, .exportKeys, now⟩ e)
      = seen (t.blanked.call ⟨role, .exportKeys, now⟩ e') := by
  have hexport : (t.manager role).blanked.exportKeys
      = (t.manager role).exportKeys.map KeyExport.blanked :=
    (t.manager role).mapSecrets_exportKeys blank
  simp only [seen, call, manager_blanked, hexport]
  cases (t.manager role).exportKeys with
  | error error => simp [Answer.blanked, blanked, Except.map, Except.toOption]
  | ok made => simp [Answer.blanked, blanked, Except.map, Except.toOption]

theorem seen_importKeys {i : Nat} :
    seen (t.call ⟨role, .importKeys i, now⟩ e)
      = seen (t.blanked.call ⟨role, .importKeys i, now⟩ e') := by
  have hsent : t.blanked.exports[i]? = t.exports[i]?.map KeyExport.blanked := List.getElem?_map ..
  simp only [seen, call, manager_blanked, hsent]
  cases t.exports[i]? with
  | none => simp only [Option.map_none, blanked_blanked]
  | some made =>
    have himport : (t.manager role).blanked.importKeys now made.blanked
        = ((t.manager role).importKeys now made).map Manager.blanked :=
      (t.manager role).mapSecrets_importKeys blank now made
    have hevents : (t.manager role).blanked.importEvents now made.blanked
        = (t.manager role).importEvents now made :=
      (t.manager role).importEvents_mapSecrets blank now made
    simp only [Option.map_some, himport, hevents]
    cases (t.manager role).importKeys now made with
    | error error => simp only [Except.map, blanked_blanked]
    | ok after => simp only [Except.map, blanked_set, blanked_blanked, Manager.blanked_blanked]

/-- The two tokens have the same identifier, signed with different keys. -/
theorem seen_mint {block : Block} {modes : AccessModes} {owner? : Option String} :
    seen (t.call ⟨role, .mint block modes owner?, now⟩ e)
      = seen (t.blanked.call ⟨role, .mint block modes owner?, now⟩ e') := by
  have hevents : (t.manager role).blanked.mintEvents block modes
      = (t.manager role).mintEvents block modes := by
    simp only [Manager.mintEvents, Manager.blanked, Manager.currentKeyId?_mapSecrets]
  have hmint := (t.manager role).mint_blanked now block modes owner?
  simp only [seen, call, manager_blanked, hevents]
  rcases hminted : (t.manager role).mint now block modes owner? with error | token <;>
    rcases hminted' : (t.manager role).blanked.mint now block modes owner? with error' | token' <;>
    rw [hminted, hminted'] at hmint
  · cases hmint
    simp only [blanked_blanked]
  · cases hmint
  · cases hmint
  · have htoken : token.blanked = token'.blanked := Except.ok.inj hmint
    simp only [Answer.blanked, Except.map, htoken, blanked_blanked]

end Seen

/-- **A call does not look at secrets.** To blank them before the call or after it is the same. -/
theorem call_blanked (h : t.Formed s)
    (hfail : t.Draws c → FailAlike [BlockKey.secretLength] e e') :
    seen (t.call c e) = seen (t.blanked.call c e') := by
  obtain ⟨role, operation, now⟩ := c
  cases operation with
  | rotation asked => exact seen_rotation h hfail
  | exportKeys => exact seen_exportKeys
  | importKeys i => exact seen_importKeys
  | mint block modes owner? => exact seen_mint
  | checkIdentifier x owner? block mode =>
    have hchecked := (t.manager role).checkIdentifier_mapSecrets blank now x owner? block mode
    simp only [seen, call, manager_blanked, blanked_blanked, Manager.blanked, hchecked]
  | currentKeyId =>
    have hid := (t.manager role).currentKeyId?_mapSecrets blank
    simp only [seen, call, manager_blanked, blanked_blanked, Manager.blanked, hid]
  | summary =>
    have hline := (t.manager role).summary_mapSecrets blank
    simp only [seen, call, manager_blanked, blanked_blanked, Manager.blanked, hline]

/-! ## Runs -/

/-- **A run does not look at secrets.** Two tandems that are the same with blank secrets give the
same answers, but for the secrets in them. -/
theorem answers_blanked {calls calls' : List (Call × Entropy)} (hcalls : SameCalls t calls calls')
    (h : t.Formed s) (h' : t'.Formed s) (hsame : t.blanked = t'.blanked) :
    (t.answers calls).map Answer.blanked = (t'.answers calls').map Answer.blanked := by
  induction hcalls generalizing t' with
  | done t => rfl
  | @call t calls calls' c e e' hfail _ ih =>
    have hseen : seen (t.call c e) = seen (t'.call c e') := by
      rw [call_blanked h hfail, hsame]
      exact (call_blanked h' fun _ => FailAlike.refl _ _).symm
    obtain ⟨hanswer, hleft⟩ := Prod.mk.inj hseen
    have hlater := ih (h.call c e) (h'.call c e') hleft
    simp only [answers, List.map_cons, hanswer, hlater]

/-- No line shows what was blanked. -/
theorem Answer.lines_blanked (a : Answer) : a.blanked.lines = a.lines := by
  obtain ⟨reply, events⟩ := a
  cases reply with
  | keys result =>
    cases result with
    | error error => rfl
    | ok made =>
      have hlines : (made.blanked.current :: made.blanked.others).map BlockKey.redactedText
          = (made.current :: made.others).map BlockKey.redactedText := by
        simp only [KeyExport.mapSecrets, List.map_cons, List.map_map, Function.comp_def,
          BlockKey.redactedText_blanked]
      simp only [lines, Answer.blanked, Except.map, resultLines, hlines]
  | token result =>
    cases result with
    | error error => rfl
    | ok token => rfl
  | _ => rfl

/-! ## The making of both -/

/-- What the two managers are made from, and when. -/
structure Setup where
  master : Settings
  masterMade : Instant
  slave : Settings
  slaveMade : Instant

/-- Makes both managers, and tells what is reported. -/
def Setup.make (setup : Setup) (entropy : Entropy) : Except AccessError Tandem × List Event :=
  let master := Manager.newMaster setup.master setup.masterMade entropy
  let slave := Manager.newSlave setup.slave setup.slaveMade master.entropy
  (do return ⟨← master.result, ← slave.result, []⟩, master.events ++ slave.events)

/-- A slave takes nothing from the source that the master has left. -/
theorem newSlave_congr (s : Settings) (now : Instant) (e e' : Entropy) :
    (Manager.newSlave s now e).result = (Manager.newSlave s now e').result ∧
      (Manager.newSlave s now e).events = (Manager.newSlave s now e').events := by
  unfold Manager.newSlave
  cases s.validate <;> exact ⟨rfl, rfl⟩

/-- Nor does the making of the two look at secrets. -/
theorem Setup.make_blanked (setup : Setup) (hfirst : SameFirstId e e') :
    (setup.make e).1.map blanked = (setup.make e').1.map blanked ∧
      (setup.make e).2 = (setup.make e').2 := by
  obtain ⟨hmaster, hevents⟩ := Manager.newMaster_alike setup.master setup.masterMade hfirst
  obtain ⟨hslave, hnotices⟩ := newSlave_congr setup.slave setup.slaveMade
    (Manager.newMaster setup.master setup.masterMade e).entropy
    (Manager.newMaster setup.master setup.masterMade e').entropy
  simp only [make, hslave, hevents, hnotices, and_true]
  revert hmaster
  cases (Manager.newMaster setup.master setup.masterMade e).result <;>
    cases (Manager.newMaster setup.master setup.masterMade e').result <;>
    intro hmaster
  case error.error =>
    cases hmaster
    rfl
  case error.ok => cases hmaster
  case ok.error => cases hmaster
  case ok.ok m m' =>
    cases (Manager.newSlave setup.slave setup.slaveMade _).result with
    | error error => rfl
    | ok slave =>
      exact congrArg (fun m => Except.ok (Tandem.mk m slave.blanked [])) (Except.ok.inj hmaster)

/-- A slave is made as one. -/
theorem role_newSlave {slave : Manager} {now : Instant}
    (h : (Manager.newSlave s now e).result = .ok slave) : slave.role = .slave := by
  unfold Manager.newSlave at h
  cases hvalid : s.validate with
  | error error =>
    rw [hvalid] at h
    cases h
  | ok _ =>
    rw [hvalid] at h
    cases h
    rfl

/-- A tandem is well formed when it is made. -/
theorem Setup.formed_make {setup : Setup} (h : (setup.make e).1 = .ok t) :
    t.Formed setup.master := by
  simp only [make] at h
  cases hmaster : (Manager.newMaster setup.master setup.masterMade e).result with
  | error error =>
    rw [hmaster] at h
    cases h
  | ok master =>
    cases hslave : (Manager.newSlave setup.slave setup.slaveMade
        (Manager.newMaster setup.master setup.masterMade e).entropy).result with
    | error error =>
      rw [hmaster, hslave] at h
      cases h
    | ok slave =>
      rw [hmaster, hslave] at h
      cases h
      exact ⟨MasterWindow.of_newMaster hmaster, role_newSlave hslave⟩

/-- **All answers of a run,** from the making of the managers on. -/
def Setup.answers (setup : Setup) (entropy : Entropy) (calls : List (Call × Entropy)) :
    List Answer :=
  match setup.make entropy with
  | (.error error, events) => [⟨.made (.error error), events⟩]
  | (.ok t, events) => ⟨.made (.ok ()), events⟩ :: t.answers calls

end Tandem

/-- **Secrets show in passwords and exports only.** Let a master and a slave be made twice from the
same settings at the same times, from sources that give the same first id, and let them be called
alike, where a secret is drawn in the one run if it is in the other. Then the secrets that were
drawn make no difference but in exports and passwords: with these blank, all answers are the same,
among them the identifiers of tokens, ids, expiries, whether there was a rotation, errors, and what
was reported. All lines are the same as they are. -/
theorem secrets_show_nowhere_else {setup : Tandem.Setup} {e e' : Entropy}
    {calls calls' : List (Tandem.Call × Entropy)} (hfirst : SameFirstId e e')
    (hcalls : ∀ t, (setup.make e).1 = .ok t → t.SameCalls calls calls') :
    (setup.answers e calls).map Tandem.Answer.blanked
      = (setup.answers e' calls').map Tandem.Answer.blanked ∧
    (setup.answers e calls).map Tandem.Answer.lines
      = (setup.answers e' calls').map Tandem.Answer.lines := by
  have hanswers : (setup.answers e calls).map Tandem.Answer.blanked
      = (setup.answers e' calls').map Tandem.Answer.blanked := by
    obtain ⟨hmade, hevents⟩ := setup.make_blanked hfirst
    unfold Tandem.Setup.answers
    rcases hmake : setup.make e with ⟨error | t, events⟩ <;>
      rcases hmake' : setup.make e' with ⟨error' | t', events'⟩ <;>
      simp only [hmake, hmake'] at hmade hevents
    · cases hmade
      rw [hevents]
    · cases hmade
    · cases hmade
    · have ht : (setup.make e).1 = .ok t := congrArg Prod.fst hmake
      have ht' : (setup.make e').1 = .ok t' := congrArg Prod.fst hmake'
      have hlater := Tandem.answers_blanked (hcalls t ht) (Tandem.Setup.formed_make ht)
        (Tandem.Setup.formed_make ht') (Except.ok.inj hmade)
      simp only [List.map_cons, hlater, hevents]
  refine ⟨hanswers, ?_⟩
  have hlines := congrArg (List.map Tandem.Answer.lines) hanswers
  simpa only [List.map_map, Function.comp_def, Tandem.Answer.lines_blanked] using hlines

/-- A setup with the standard settings. -/
def Tandem.Setup.plain : Setup := ⟨.standard, ⟨0⟩, .standard, ⟨0⟩⟩

/-- Entropy for the first id 1 and two secrets that consist of one byte. -/
def Entropy.uniform (b : UInt8) : Entropy := .bytes (List.replicate 4 0 ++ List.replicate 128 b)

/-- The keys go to the slave, the master signs a token and rotates, with a secret that consists of
one byte, and the new keys are exported. -/
def Tandem.tour (b : UInt8) : List (Call × Entropy) := [
  (⟨.master, .exportKeys, ⟨0⟩⟩, .zeros 0),
  (⟨.slave, .importKeys 0, ⟨1⟩⟩, .zeros 0),
  (⟨.master, .mint ⟨"", 7⟩ .all none, ⟨2⟩⟩, .zeros 0),
  (⟨.master, .rotation .rotateIfDue, ⟨600000⟩⟩, .bytes (List.replicate 64 b)),
  (⟨.slave, .summary, ⟨600001⟩⟩, .zeros 0),
  (⟨.master, .exportKeys, ⟨600002⟩⟩, .zeros 0)]

set_option maxRecDepth 4000 in
/-- Two runs in which every secret is another one. -/
theorem secrets_show_nowhere_else_on_tour :
    (∃ sent sent', (Tandem.Setup.plain.answers (.uniform 0) (Tandem.tour 0))[1]?
        = some ⟨.keys (.ok sent), []⟩ ∧
      (Tandem.Setup.plain.answers (.uniform 1) (Tandem.tour 1))[1]?
        = some ⟨.keys (.ok sent'), []⟩ ∧ sent.current.secret ≠ sent'.current.secret) ∧
    (Tandem.Setup.plain.answers (.uniform 0) (Tandem.tour 0)).map Tandem.Answer.blanked
      = (Tandem.Setup.plain.answers (.uniform 1) (Tandem.tour 1)).map Tandem.Answer.blanked := by
  have hfirst : SameFirstId (.uniform 0) (.uniform 1) := ⟨rfl, trivial⟩
  have hcalls (t : Tandem) : t.SameCalls (Tandem.tour 0) (Tandem.tour 1) := by
    refine .call _ ?_ (.call _ ?_ (.call _ ?_ (.call _ ?_ (.call _ ?_ (.call _ ?_ (.done _))))))
    case refine_4 => exact fun _ => trivial
    all_goals
      rintro ⟨asked, hasked, -⟩
      cases hasked
  exact ⟨⟨_, _, rfl, rfl, by decide⟩, (secrets_show_nowhere_else hfirst fun t _ => hcalls t).1⟩

end BlockAccess
