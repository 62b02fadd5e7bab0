import BlockAccess.Json.Lexeme

/-!
# JSON texts

A value is put together from lexemes by a machine with a stack: `Frame` is an array or an object
that has been opened and waits for a value. The machine may be told how many of them may be open at
a time.
-/

namespace BlockAccess.Json

/-- The members of an object, with their keys. -/
abbrev Members := List (List Piece × Value)

/-- An array or an object that waits for a value. What it holds is in reverse order. -/
inductive Frame
  | array (items : List Value)
  | object (members : Members) (key : List Piece)

/-- What may come next. -/
inductive Expecting
  /-- A value. -/
  | value
  /-- The first item of an array, or its end. -/
  | firstItem
  /-- A comma after an item, or the end of the array. -/
  | nextItem
  /-- The first key of an object, or its end. -/
  | firstKey
  /-- A key. -/
  | key (members : Members)
  /-- The colon after a key. -/
  | colon (members : Members) (key : List Piece)
  /-- A comma after a member, or the end of the object. -/
  | nextMember (members : Members)
  /-- Nothing: the value is whole. -/
  | nothing (value : Value)

/-- The machine. -/
structure Parser where
  stack : List Frame
  expecting : Expecting

namespace Parser

/-- The machine before the first lexeme. -/
def start : Parser := ⟨[], .value⟩

/-- Hands a whole value to the innermost open frame. -/
def complete (stack : List Frame) (v : Value) : Parser :=
  match stack with
  | [] => ⟨[], .nothing v⟩
  | .array items :: outer => ⟨.array (v :: items) :: outer, .nextItem⟩
  | .object members key :: outer => ⟨outer, .nextMember ((key, v) :: members)⟩

/-- Takes the first lexeme of a value. -/
def beginValue (limit? : Option Nat) (stack : List Frame) (l : Lexeme) : Option Parser :=
  let mayOpen := match limit? with
    | none => true
    | some limit => stack.length < limit
  match l with
  | .null => some (complete stack .null)
  | .bool b => some (complete stack (.bool b))
  | .number n => some (complete stack (.number n))
  | .string pieces => some (complete stack (.string pieces))
  | .openArray => if mayOpen then some ⟨.array [] :: stack, .firstItem⟩ else none
  | .openObject => if mayOpen then some ⟨stack, .firstKey⟩ else none
  | .closeArray | .closeObject | .comma | .colon => none

/-- Ends the innermost open array. -/
def endArray? : List Frame → Option Parser
  | .array items :: outer => some (complete outer (.array items.reverse))
  | .object .. :: _ => none
  | [] => none

/-- Takes a lexeme. -/
def step (limit? : Option Nat) (p : Parser) (l : Lexeme) : Option Parser :=
  match p.expecting with
  | .value => beginValue limit? p.stack l
  | .firstItem => if l = .closeArray then endArray? p.stack else beginValue limit? p.stack l
  | .nextItem =>
    match l with
    | .comma => some { p with expecting := .value }
    | .closeArray => endArray? p.stack
    | _ => none
  | .firstKey =>
    match l with
    | .string key => some { p with expecting := .colon [] key }
    | .closeObject => some (complete p.stack (.object []))
    | _ => none
  | .key members =>
    match l with
    | .string key => some { p with expecting := .colon members key }
    | _ => none
  | .colon members key =>
    match l with
    | .colon => some ⟨.object members key :: p.stack, .value⟩
    | _ => none
  | .nextMember members =>
    match l with
    | .comma => some { p with expecting := .key members }
    | .closeObject => some (complete p.stack (.object members.reverse))
    | _ => none
  | .nothing _ => none

/-- Takes lexemes one after the other. -/
def run (limit? : Option Nat) (p : Parser) : List Lexeme → Option Parser
  | [] => some p
  | l :: ls => (p.step limit? l).bind fun q => q.run limit? ls

theorem run_append (limit? : Option Nat) (p : Parser) (ks ls : List Lexeme) :
    p.run limit? (ks ++ ls) = (p.run limit? ks).bind fun q => q.run limit? ls := by
  induction ks generalizing p with
  | nil => rfl
  | cons k ks ih =>
    simp only [List.cons_append, run]
    cases p.step limit? k with
    | none => rfl
    | some q => exact ih q

/-- The value, if it is whole. -/
def finish (p : Parser) : Option Value :=
  match p.expecting with
  | .nothing v => some v
  | _ => none

end Parser

/-- **The value that a text writes,** with at most `limit?` arrays and objects open at a time. -/
def parse? (limit? : Option Nat) (text : String) : Option Value :=
  (lexemes? text.toList).bind fun ls => (Parser.start.run limit? ls).bind Parser.finish

end BlockAccess.Json
