import BlockAccess.Json.Printer
import BlockAccess.Proofs.Json.Numbers

/-!
# Written values are read back

The two machines of the reader are taken one at a time. The parser gives every value back from its
lexemes (`Value.lexemes`), and this needs no printer. For the lexer a number is the difficulty: it
ends only at the character after it, so what a text writes is stated for the text with such a
character behind it (`Writes`). The lexemes of an array are cut behind an item, and not behind a
comma: what follows an item then always begins with a character that ends it.

## Main results

* `Parser.run_lexemes` — a value is parsed from its lexemes.
* `parse?_of_writes` — a text that writes a value is read as that value.
* `fields?_object` — the fields of a written record are found under their names.
-/

namespace BlockAccess.Json

/-! ## Lexemes of a value -/

mutual

/-- The lexemes of a value. -/
def Value.lexemes : Value → List Lexeme
  | .null => [.null]
  | .bool b => [.bool b]
  | .number n => [.number n]
  | .string pieces => [.string pieces]
  | .array [] => [.openArray, .closeArray]
  | .array (v :: items) => .openArray :: (v.lexemes ++ laterItems items)
  | .object [] => [.openObject, .closeObject]
  | .object ((key, v) :: members) =>
    .openObject :: .string key :: .colon :: (v.lexemes ++ laterMembers members)

/-- The lexemes of an array after one of its items: the items that follow, and the end. -/
def laterItems : List Value → List Lexeme
  | [] => [.closeArray]
  | v :: items => .comma :: (v.lexemes ++ laterItems items)

/-- The lexemes of an object after one of its members. -/
def laterMembers : Members → List Lexeme
  | [] => [.closeObject]
  | (key, v) :: members => .comma :: .string key :: .colon :: (v.lexemes ++ laterMembers members)

end

namespace Parser

mutual

/-- **A value is parsed from its lexemes,** wherever a value may stand. -/
theorem run_lexemes (v : Value) (stack : List Frame) (rest : List Lexeme) :
    run none ⟨stack, .value⟩ (v.lexemes ++ rest) = run none (complete stack v) rest ∧
      run none ⟨stack, .firstItem⟩ (v.lexemes ++ rest) = run none (complete stack v) rest := by
  match v with
  | .null | .bool _ | .number _ | .string _ => exact ⟨rfl, rfl⟩
  | .array [] => exact ⟨rfl, rfl⟩
  | .array (v :: items) =>
    have hitems : run none ⟨.array [] :: stack, .firstItem⟩ (v.lexemes ++ laterItems items ++ rest)
        = run none (complete stack (.array (v :: items))) rest := by
      rw [List.append_assoc, (run_lexemes v _ _).2]
      exact run_laterItems items [v] stack rest
    exact ⟨hitems, hitems⟩
  | .object [] => exact ⟨rfl, rfl⟩
  | .object ((key, v) :: members) =>
    have hmembers : run none ⟨.object [] key :: stack, .value⟩
        (v.lexemes ++ laterMembers members ++ rest)
        = run none (complete stack (.object ((key, v) :: members))) rest := by
      rw [List.append_assoc, (run_lexemes v _ _).1]
      exact run_laterMembers members [(key, v)] stack rest
    exact ⟨hmembers, hmembers⟩

/-- The items that follow are put to those that are there. -/
theorem run_laterItems (items done : List Value) (stack : List Frame) (rest : List Lexeme) :
    run none ⟨.array done :: stack, .nextItem⟩ (laterItems items ++ rest)
      = run none (complete stack (.array (done.reverse ++ items))) rest := by
  match items with
  | [] =>
    rw [List.append_nil]
    rfl
  | v :: items =>
    show run none ⟨.array done :: stack, .value⟩ (v.lexemes ++ laterItems items ++ rest) = _
    rw [List.append_assoc, (run_lexemes v _ _).1]
    have hlater := run_laterItems items (v :: done) stack rest
    rwa [List.reverse_cons, List.append_assoc] at hlater

/-- The members that follow are put to those that are there. -/
theorem run_laterMembers (members done : Members) (stack : List Frame) (rest : List Lexeme) :
    run none ⟨stack, .nextMember done⟩ (laterMembers members ++ rest)
      = run none (complete stack (.object (done.reverse ++ members))) rest := by
  match members with
  | [] =>
    rw [List.append_nil]
    rfl
  | (key, v) :: members =>
    show run none ⟨.object done key :: stack, .value⟩
      (v.lexemes ++ laterMembers members ++ rest) = _
    rw [List.append_assoc, (run_lexemes v _ _).1]
    have hlater := run_laterMembers members ((key, v) :: done) stack rest
    rwa [List.reverse_cons, List.append_assoc] at hlater

end

end Parser

/-! ### In one piece -/

/-- A part and those after it, up to the end, with the commas between them. -/
private theorem append_later {α : Type} (lexemes : α → List Lexeme) {later : List α → List Lexeme}
    {close : Lexeme} (hnil : later [] = [close])
    (hcons : ∀ x parts, later (x :: parts) = .comma :: (lexemes x ++ later parts)) (x : α)
    (parts : List α) :
    lexemes x ++ later parts
      = [Lexeme.comma].intercalate ((x :: parts).map lexemes) ++ [close] := by
  induction parts generalizing x with
  | nil => rw [hnil, List.map_singleton, List.intercalate_singleton]
  | cons next parts ih =>
    rw [hcons, ih]
    simp only [List.map_cons, List.intercalate_cons_cons, List.append_assoc, List.cons_append,
      List.nil_append]

theorem Value.lexemes_array (items : List Value) :
    (Value.array items).lexemes
      = .openArray :: ([Lexeme.comma].intercalate (items.map Value.lexemes) ++ [.closeArray]) := by
  cases items with
  | nil => rfl
  | cons v items =>
    rw [← append_later lexemes (show laterItems [] = _ from rfl) fun _ _ => rfl]
    rfl

/-- The lexemes of a member. -/
def memberLexemes (m : List Piece × Value) : List Lexeme := .string m.1 :: .colon :: m.2.lexemes

theorem Value.lexemes_object (members : Members) :
    (Value.object members).lexemes
      = .openObject :: ([Lexeme.comma].intercalate (members.map memberLexemes)
          ++ [.closeObject]) := by
  cases members with
  | nil => rfl
  | cons m members =>
    rw [← append_later memberLexemes (show laterMembers [] = _ from rfl) fun _ _ => rfl]
    rfl

/-! ## Texts of a value -/

/-- The characters that may follow a value inside an array or an object. -/
def endsValue (c : Char) : Bool := c = ',' || c = ']' || c = '\x7d'

/-- In front of a character that ends a value the lexer finds these lexemes in the text. -/
def Lexes (text : List Char) (lexemes : List Lexeme) : Prop :=
  ∀ (found : List Lexeme) (c : Char) (rest : List Char), endsValue c = true →
    Lexer.run ⟨found, .between⟩ (text ++ c :: rest)
      = Lexer.run ⟨lexemes.reverse ++ found, .between⟩ (c :: rest)

/-- The text writes the value. -/
def Writes (text : String) (v : Value) : Prop := Lexes text.toList v.lexemes

namespace Lexer

/-- At the end of a text the lexer finds what it would have found at a comma. -/
theorem finish_of_step_comma {s : Lexer} {found : List Lexeme}
    (h : s.step ',' = some ⟨.comma :: found, .between⟩) : s.finish = some found.reverse := by
  obtain ⟨before, mode⟩ := s
  cases mode with
  | between =>
    cases h
    rfl
  | word letters =>
    change (wordLexeme? letters.reverse).bind _ = _ at h
    obtain ⟨l, hword, hcomma⟩ := Option.bind_eq_some_iff.1 h
    cases hcomma
    show (wordLexeme? letters.reverse).map _ = _
    rw [hword]
    rfl
  | number chars =>
    change (Numeral.ofChars? chars.reverse).bind _ = _ at h
    obtain ⟨n, hnumber, hcomma⟩ := Option.bind_eq_some_iff.1 h
    cases hcomma
    show (Numeral.ofChars? chars.reverse).map _ = _
    rw [hnumber]
    rfl
  | string pieces => cases h
  | escape pieces => cases h
  | unit pieces digits value => cases h

end Lexer

/-- **A text that writes a value is read as that value.** -/
theorem parse?_of_writes {text : String} {v : Value} (h : Writes text v) :
    parse? none text = some v := by
  have hcomma : Lexer.start.run (text.toList ++ [','])
      = some ⟨.comma :: v.lexemes.reverse, .between⟩ := by
    have hvalue := h [] ',' [] rfl
    rw [List.append_nil] at hvalue
    exact hvalue
  rw [Lexer.run_append] at hcomma
  obtain ⟨s, hs, hlast⟩ := Option.bind_eq_some_iff.1 hcomma
  have hstep : s.step ',' = some ⟨.comma :: v.lexemes.reverse, .between⟩ := by
    obtain ⟨t, hstep, ht⟩ := Option.bind_eq_some_iff.1 hlast
    cases ht
    exact hstep
  have hlexemes : lexemes? text.toList = some v.lexemes := by
    rw [lexemes?, hs, Option.bind_some, Lexer.finish_of_step_comma hstep, List.reverse_reverse]
  have hparse := (Parser.run_lexemes v [] []).1
  rw [List.append_nil] at hparse
  rw [parse?, hlexemes, Option.bind_some, Parser.start, hparse]
  rfl

/-! ### Numbers -/

namespace Lexer

theorem step_number (found : List Lexeme) (chars : List Char) (c : Char) :
    step ⟨found, .number chars⟩ c =
      if isNumberChar c then some ⟨found, .number (c :: chars)⟩
      else (Numeral.ofChars? chars.reverse).bind fun n => begin (.number n :: found) c := rfl

theorem isNumberChar_of_endsValue {c : Char} (h : endsValue c = true) : isNumberChar c = false := by
  simp only [endsValue, Bool.or_eq_true, decide_eq_true_eq] at h
  rcases h with (rfl | rfl) | rfl <;> decide

theorem begin_number {c : Char} (h : c = '-' ∨ c.isDigit = true) (found : List Lexeme) :
    begin found c = some ⟨found, .number [c]⟩ := by
  have hblank : isBlank c = false := by
    rw [Bool.eq_false_iff]
    intro hblank
    simp only [isBlank, Bool.or_eq_true, decide_eq_true_eq] at hblank
    rcases hblank with ((rfl | rfl) | rfl) | rfl <;> revert h <;> decide
  have hnumber : (decide (c = '-') || c.isDigit) = true := by
    simpa only [Bool.or_eq_true, decide_eq_true_eq] using h
  unfold begin
  split
  all_goals first
    | exact absurd h (by decide)
    | rw [hblank, if_neg Bool.false_ne_true, if_pos hnumber]

theorem run_number {chars : List Char} (h : ∀ c ∈ chars, isNumberChar c = true)
    (found : List Lexeme) (taken rest : List Char) :
    run ⟨found, .number taken⟩ (chars ++ rest)
      = run ⟨found, .number (chars.reverse ++ taken)⟩ rest := by
  induction chars generalizing taken with
  | nil => rfl
  | cons c chars ih =>
    obtain ⟨hc, hchars⟩ := List.forall_mem_cons.1 h
    rw [List.cons_append, run, step_number, if_pos hc, Option.bind_some, ih hchars,
      List.reverse_cons, List.append_assoc]
    rfl

end Lexer

/-- An integer begins with a minus or a digit, and then has only digits. -/
theorem exists_intChars (n : Int) : ∃ first later, intChars n = first :: later ∧
    (first = '-' ∨ first.isDigit = true) ∧ ∀ c ∈ later, isNumberChar c = true := by
  have hdigits : ∀ c ∈ Nat.toDigits 10 n.natAbs, c.isDigit = true :=
    fun _ => isDigit_of_mem_toDigits
  have hnumber {c : Char} (hc : c.isDigit = true) : isNumberChar c = true := by
    simp [isNumberChar, hc]
  by_cases hneg : n < 0
  · exact ⟨'-', Nat.toDigits 10 n.natAbs, if_pos hneg, .inl rfl, fun c hc => hnumber (hdigits c hc)⟩
  · cases h : Nat.toDigits 10 n.natAbs with
    | nil => exact absurd h Nat.toDigits_ne_nil
    | cons first later =>
      obtain ⟨hfirst, hlater⟩ := List.forall_mem_cons.1 (h ▸ hdigits)
      exact ⟨first, later, (if_neg hneg).trans h, .inr hfirst, fun c hc => hnumber (hlater c hc)⟩

/-- **An integer is written by its text.** The character that ends it is the first that is no part
of it. -/
theorem writes_int (n : Int) : Writes (toString n) (.ofInt n) := by
  intro found c rest hc
  obtain ⟨first, later, hchars, hfirst, hlater⟩ := exists_intChars n
  have hscan : Numeral.ofChars? (later.reverse ++ [first]).reverse = some (.ofInt n) := by
    rw [← List.reverse_cons, List.reverse_reverse, ← hchars]
    exact Numeral.ofChars?_int n
  have hbegin : Lexer.step ⟨found, .between⟩ first = some ⟨found, .number [first]⟩ :=
    Lexer.begin_number hfirst found
  have hend : Lexer.step ⟨found, .number (later.reverse ++ [first])⟩ c
      = Lexer.begin (.number (.ofInt n) :: found) c := by
    rw [Lexer.step_number, Lexer.isNumberChar_of_endsValue hc, if_neg Bool.false_ne_true, hscan,
      Option.bind_some]
  rw [toList_toString_int, hchars, List.cons_append, Lexer.run, hbegin, Option.bind_some,
    Lexer.run_number hlater, Lexer.run, hend]
  rfl

theorem writes_nat (n : Nat) : Writes (toString n) (.ofInt n) := by
  have hint := writes_int n
  rwa [Writes, toList_toString_int, ← toList_toString_nat] at hint

/-! ### Names -/

section Names

variable {name : String}

/-- Whether a text is written as it is. -/
def isPlain (name : String) : Bool := name.toList.all fun c => escapeChar c = [c]

theorem isPlain_iff : isPlain name = true ↔ ∀ c ∈ name.toList, escapeChar c = [c] := by
  simp only [isPlain, List.all_eq_true, decide_eq_true_eq]

theorem Lexer.step_string (found : List Lexeme) (pieces : List Piece) (c : Char) :
    step ⟨found, .string pieces⟩ c =
      if c = '"' then some ⟨.string pieces.reverse :: found, .between⟩
      else if c = '\\' then some ⟨found, .escape pieces⟩
      else if c.toNat < 0x20 then some ⟨found, .string (.control c :: pieces)⟩
      else some ⟨found, .string (.plain c :: pieces)⟩ := rfl

theorem Lexer.step_plain {c : Char} (h : escapeChar c = [c]) (found : List Lexeme)
    (pieces : List Piece) :
    step ⟨found, .string pieces⟩ c = some ⟨found, .string (.plain c :: pieces)⟩ := by
  have hquote : c ≠ '"' := by
    rintro rfl
    cases h
  have hbackslash : c ≠ '\\' := by
    rintro rfl
    cases h
  have hcontrol : ¬ c.toNat < 0x20 := by
    intro hlow
    unfold escapeChar at h
    split at h
    all_goals first
      | cases h
      | rw [if_pos hlow] at h
        cases h
  rw [step_string, if_neg hquote, if_neg hbackslash, if_neg hcontrol]

theorem Lexer.run_plain {cs : List Char} (h : ∀ c ∈ cs, escapeChar c = [c])
    (found : List Lexeme) (pieces : List Piece) (rest : List Char) :
    run ⟨found, .string pieces⟩ (cs ++ rest)
      = run ⟨found, .string ((cs.map .plain).reverse ++ pieces)⟩ rest := by
  induction cs generalizing pieces with
  | nil => rfl
  | cons c cs ih =>
    obtain ⟨hc, hcs⟩ := List.forall_mem_cons.1 h
    rw [List.cons_append, run, step_plain hc, Option.bind_some, ih hcs, List.map_cons,
      List.reverse_cons, List.append_assoc]
    rfl

theorem toList_quoted (h : isPlain name = true) :
    (quoted name).toList = '"' :: (name.toList ++ ['"']) := by
  have hchars : name.toList.flatMap escapeChar = name.toList := by
    rw [List.flatMap_def, List.map_congr_left (isPlain_iff.1 h), ← List.flatMap_def,
      List.flatMap_singleton']
  rw [quoted, hchars, String.toList_append, String.toList_append, String.ofList_toList]
  rfl

/-- The pieces of a text without escapes. -/
def plainPieces (name : String) : List Piece := name.toList.map .plain

theorem Lexer.run_quoted (h : isPlain name = true) (found : List Lexeme) (rest : List Char) :
    run ⟨found, .between⟩ ((quoted name).toList ++ rest)
      = run ⟨.string (plainPieces name) :: found, .between⟩ rest := by
  have hquote : step ⟨found, .string (plainPieces name).reverse⟩ '"'
      = some ⟨.string (plainPieces name) :: found, .between⟩ := by
    rw [step_string, if_pos rfl, List.reverse_reverse]
  rw [toList_quoted h, List.cons_append, List.append_assoc]
  show run ⟨found, .string []⟩ (name.toList ++ '"' :: rest) = _
  rw [run_plain (isPlain_iff.1 h), List.append_nil, ← plainPieces, run, hquote, Option.bind_some]

end Names

/-! ### Arrays and objects -/

section Sequences

variable {α : Type} {text : α → List Char} {lexemes : α → List Lexeme}

theorem Lexes.comma {left right : List Char} {before after : List Lexeme}
    (hleft : Lexes left before) (hright : Lexes right after) :
    Lexes (left ++ ',' :: right) (before ++ .comma :: after) := by
  intro found c rest hc
  have hstep : Lexer.run ⟨before.reverse ++ found, .between⟩ (',' :: (right ++ c :: rest))
      = Lexer.run ⟨.comma :: (before.reverse ++ found), .between⟩ (right ++ c :: rest) := rfl
  rw [List.append_assoc, List.cons_append, hleft found _ _ rfl, hstep, hright _ c rest hc]
  simp only [List.reverse_append, List.reverse_cons, List.append_assoc, List.cons_append,
    List.nil_append]

/-- Texts with commas between them. -/
theorem Lexes.intercalate : ∀ {items : List α}, (∀ x ∈ items, Lexes (text x) (lexemes x)) →
    Lexes ([','].intercalate (items.map text))
      ([Lexeme.comma].intercalate (items.map lexemes)) := by
  intro items h
  match items with
  | [] => exact fun _ _ _ _ => rfl
  | [x] =>
    rw [List.map_singleton, List.map_singleton, List.intercalate_singleton,
      List.intercalate_singleton]
    exact h x List.mem_cons_self
  | x :: y :: items =>
    obtain ⟨hx, hlater⟩ := List.forall_mem_cons.1 h
    have hjoined := hx.comma (Lexes.intercalate hlater)
    simp only [List.map_cons, List.intercalate_cons_cons, List.append_assoc, List.cons_append,
      List.nil_append] at hjoined ⊢
    exact hjoined

/-- A text in brackets. -/
theorem Lexes.enclosed {inner : List Char} {ls : List Lexeme} (h : Lexes inner ls)
    (opening closing : Char) (first last : Lexeme)
    (hopening : ∀ found, Lexer.begin found opening = some ⟨first :: found, .between⟩)
    (hclosing : ∀ found, Lexer.begin found closing = some ⟨last :: found, .between⟩)
    (hends : endsValue closing = true) :
    Lexes (opening :: (inner ++ [closing])) (first :: (ls ++ [last])) := by
  intro found c rest _
  have hopen : Lexer.step ⟨found, .between⟩ opening = some ⟨first :: found, .between⟩ :=
    hopening found
  have hclose : Lexer.step ⟨ls.reverse ++ first :: found, .between⟩ closing
      = some ⟨last :: (ls.reverse ++ first :: found), .between⟩ := hclosing _
  rw [List.cons_append, Lexer.run, hopen, Option.bind_some, List.append_assoc, List.cons_append,
    h _ closing _ hends, Lexer.run, hclose, Option.bind_some]
  simp only [List.reverse_cons, List.reverse_append, List.reverse_nil, List.nil_append,
    List.append_assoc, List.cons_append]

end Sequences

/-- An array is written by the texts of its items. -/
theorem writes_array {α : Type} {text : α → String} {value : α → Value} (items : List α)
    (h : ∀ x ∈ items, Writes (text x) (value x)) :
    Writes (arrayText (items.map text)) (.array (items.map value)) := by
  have htext : (arrayText (items.map text)).toList
      = '[' :: ([','].intercalate (items.map fun x => (text x).toList) ++ [']']) := by
    rw [arrayText, String.toList_append, String.toList_append, String.toList_intercalate,
      List.map_map]
    rfl
  rw [Writes, htext, Value.lexemes_array, List.map_map]
  exact (Lexes.intercalate h).enclosed '[' ']' .openArray .closeArray (fun _ => rfl) (fun _ => rfl)
    (by decide)

/-! ### Records -/

/-- A field of a record: its name, its text, and the value that the text writes. -/
structure Field where
  name : String
  text : String
  value : Value

namespace Field

/-- The member that a field is read as. -/
def member (f : Field) : List Piece × Value := (plainPieces f.name, f.value)

/-- The characters of a field. -/
def chars (f : Field) : List Char := (quoted f.name ++ ":" ++ f.text).toList

theorem lexes {f : Field} (hname : isPlain f.name = true) (htext : Writes f.text f.value) :
    Lexes f.chars (memberLexemes f.member) := by
  intro found c rest hc
  have hcolon : Lexer.run ⟨.string (plainPieces f.name) :: found, .between⟩
      (':' :: (f.text.toList ++ c :: rest))
      = Lexer.run ⟨.colon :: .string (plainPieces f.name) :: found, .between⟩
        (f.text.toList ++ c :: rest) := rfl
  have hchars : f.chars = (quoted f.name).toList ++ ':' :: f.text.toList := by
    rw [chars, String.toList_append, String.toList_append, List.append_assoc]
    rfl
  rw [hchars, List.append_assoc, List.cons_append, Lexer.run_quoted hname, hcolon,
    htext _ c rest hc]
  simp only [memberLexemes, member, List.reverse_cons, List.append_assoc, List.cons_append,
    List.nil_append]

end Field

/-- A record is written by the texts of its fields. -/
theorem writes_object (fields : List Field) (hnames : (fields.map Field.name).all isPlain = true)
    (htexts : ∀ f ∈ fields, Writes f.text f.value) :
    Writes (objectText (fields.map fun f => (f.name, f.text)))
      (.object (fields.map Field.member)) := by
  have hchars : (objectText (fields.map fun f => (f.name, f.text))).toList
      = '\x7b' :: ([','].intercalate (fields.map Field.chars) ++ ['\x7d']) := by
    rw [objectText, String.toList_append, String.toList_append, String.toList_intercalate,
      List.map_map, List.map_map]
    rfl
  have hfields : ∀ f ∈ fields, Lexes f.chars (memberLexemes f.member) := fun f hf =>
    Field.lexes (List.all_eq_true.1 hnames f.name (List.mem_map_of_mem hf)) (htexts f hf)
  rw [Writes, hchars, Value.lexemes_object, List.map_map]
  exact (Lexes.intercalate hfields).enclosed '\x7b' '\x7d' .openObject .closeObject (fun _ => rfl)
    (fun _ => rfl) (by decide)

/-! ## Reading records -/

/-- The members of a record are all known, each under its name. -/
theorem knownMembers?_fields {names : List String} {fields : List Field}
    (hknown : ∀ f ∈ fields, f.name ∈ names) (hdistinct : (fields.map Field.name).Nodup) :
    knownMembers? names (fields.map Field.member)
      = some (fields.map fun f => (f.name, f.value)) := by
  induction fields with
  | nil => rfl
  | cons f fields ih =>
    obtain ⟨hf, hlater⟩ := List.forall_mem_cons.1 hknown
    obtain ⟨hnew, hdistinct⟩ := List.nodup_cons.1 hdistinct
    have hname : textOf? (plainPieces f.name) = some f.name := textOf?_ofString f.name
    have honce : (fields.map fun g => (g.name, g.value)).any (·.1 = f.name) = false := by
      rw [List.any_eq_false]
      intro known hmem hsame
      obtain ⟨g, hg, rfl⟩ := List.mem_map.1 hmem
      exact hnew (of_decide_eq_true hsame ▸ List.mem_map_of_mem hg)
    rw [List.map_cons, Field.member, knownMembers?, hname, ih hlater hdistinct]
    show (if names.contains f.name then _ else _) = _
    rw [if_pos (List.contains_iff_mem.2 hf)]
    show (if (fields.map fun g => (g.name, g.value)).any (·.1 = f.name) then _ else _) = _
    rw [honce]
    rfl

/-- A field of a record with distinct names is the first under its name. -/
theorem lookup_name {fields : List Field} (hdistinct : (fields.map Field.name).Nodup) :
    ∀ f ∈ fields, List.lookup f.name (fields.map fun g => (g.name, g.value)) = some f.value := by
  induction fields with
  | nil => exact fun _ h => absurd h List.not_mem_nil
  | cons first fields ih =>
    obtain ⟨hnew, hdistinct⟩ := List.nodup_cons.1 hdistinct
    intro f hf
    rcases List.mem_cons.1 hf with rfl | hlater
    · rw [List.map_cons, List.lookup_cons_self]
    · have hother : (f.name == first.name) = false := by
        rw [beq_eq_false_iff_ne]
        intro hsame
        exact hnew (hsame ▸ List.mem_map_of_mem hlater)
      rw [List.map_cons, List.lookup_cons, hother]
      exact ih hdistinct f hlater

/-- **The fields of a written record are found under their names.** -/
theorem fields?_object (fields : List Field) (hdistinct : (fields.map Field.name).Nodup) :
    fields? (fields.map Field.name) (.object (fields.map Field.member))
      = some (fields.map fun f => some f.value) := by
  have hknown := knownMembers?_fields (fun f hf => List.mem_map_of_mem hf) hdistinct
  rw [fields?, hknown, Option.map_some, List.map_map]
  exact congrArg some (List.map_congr_left (lookup_name hdistinct))

end BlockAccess.Json
