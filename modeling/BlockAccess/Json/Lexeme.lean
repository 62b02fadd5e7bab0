import BlockAccess.Json.Value

/-!
# JSON lexemes

A text is cut into lexemes by a machine that takes one character at a time (`Lexer.step`). A string
ends at its closing quote; a word or a number ends at the first character that cannot belong to it,
or at the end of the text, and only then is it looked at as a whole. Blanks between lexemes are
space, tab, line feed and carriage return.
-/

namespace BlockAccess.Json

/-- A lexical unit. -/
inductive Lexeme
  | openArray
  | closeArray
  | openObject
  | closeObject
  | comma
  | colon
  | null
  | bool (b : Bool)
  | number (n : Numeral)
  | string (pieces : List Piece)
  deriving DecidableEq, Repr

/-- The digits in front. -/
def leadingDigits (cs : List Char) : List Char := cs.takeWhile Char.isDigit

/-- What follows the digits in front. -/
def afterDigits (cs : List Char) : List Char := cs.dropWhile Char.isDigit

/-- The exponent that the characters write, `none` for a malformed one. -/
def exponentOf? : List Char → Option (Option (Bool × List Char))
  | [] => some none
  | e :: rest =>
    if e = 'e' ∨ e = 'E' then
      let (negative, digits) := match rest with
        | '+' :: ds => (false, ds)
        | '-' :: ds => (true, ds)
        | ds => (false, ds)
      if digits.isEmpty || !digits.all Char.isDigit then none else some (some (negative, digits))
    else none

/-- The number that the characters write: a whole part without needless leading zeros, then
possibly a fraction, then possibly an exponent. -/
def Numeral.ofChars? (chars : List Char) : Option Numeral := do
  let (negative, chars) := match chars with
    | '-' :: rest => (true, rest)
    | rest => (false, rest)
  let whole := leadingDigits chars
  if whole.isEmpty || (whole.length ≠ 1 && whole.head? = some '0') then none
  match afterDigits chars with
  | '.' :: rest =>
    let fraction := leadingDigits rest
    if fraction.isEmpty then none
    return ⟨negative, whole, some fraction, ← exponentOf? (afterDigits rest)⟩
  | rest => return ⟨negative, whole, none, ← exponentOf? rest⟩

/-- What the machine is in the middle of. What has been taken in is in reverse order. -/
inductive LexerMode
  | between
  | word (letters : List Char)
  | number (chars : List Char)
  | string (pieces : List Piece)
  | escape (pieces : List Piece)
  | unit (pieces : List Piece) (digits value : Nat)
  deriving Repr

/-- The machine: the lexemes found, last one first, and what it is in the middle of. -/
structure Lexer where
  found : List Lexeme
  mode : LexerMode
  deriving Repr

/-- The machine before the first character. -/
def Lexer.start : Lexer := ⟨[], .between⟩

/-- The lexeme of a whole word. -/
def wordLexeme? (word : List Char) : Option Lexeme :=
  if word = ['t', 'r', 'u', 'e'] then some (.bool true)
  else if word = ['f', 'a', 'l', 's', 'e'] then some (.bool false)
  else if word = ['n', 'u', 'l', 'l'] then some .null
  else none

def isWordChar (c : Char) : Bool := c.isLower

def isNumberChar (c : Char) : Bool :=
  c.isDigit || c = '-' || c = '+' || c = '.' || c = 'e' || c = 'E'

def isBlank (c : Char) : Bool := c = ' ' || c = '\t' || c = '\n' || c = '\r'

/-- The value of a hexadecimal digit. -/
def hexValue? (c : Char) : Option Nat :=
  if c.isDigit then some (c.toNat - 48)
  else if 'a' ≤ c && c ≤ 'f' then some (c.toNat - 87)
  else if 'A' ≤ c && c ≤ 'F' then some (c.toNat - 55)
  else none

/-- The character of a short escape. -/
def shortEscape? (c : Char) : Option Char :=
  match c with
  | '"' => some '"'
  | '\\' => some '\\'
  | '/' => some '/'
  | 'b' => some '\x08'
  | 'f' => some '\x0c'
  | 'n' => some '\n'
  | 'r' => some '\r'
  | 't' => some '\t'
  | _ => none

namespace Lexer

/-- Takes a character between lexemes. -/
def begin (found : List Lexeme) (c : Char) : Option Lexer :=
  match c with
  | '[' => some ⟨.openArray :: found, .between⟩
  | ']' => some ⟨.closeArray :: found, .between⟩
  | '\x7b' => some ⟨.openObject :: found, .between⟩
  | '\x7d' => some ⟨.closeObject :: found, .between⟩
  | ',' => some ⟨.comma :: found, .between⟩
  | ':' => some ⟨.colon :: found, .between⟩
  | '"' => some ⟨found, .string []⟩
  | _ =>
    if isBlank c then some ⟨found, .between⟩
    else if c = '-' || c.isDigit then some ⟨found, .number [c]⟩
    else if isWordChar c then some ⟨found, .word [c]⟩
    else none

/-- Takes a character. -/
def step (s : Lexer) (c : Char) : Option Lexer :=
  match s.mode with
  | .between => begin s.found c
  | .word letters =>
    if isWordChar c then some { s with mode := .word (c :: letters) }
    else (wordLexeme? letters.reverse).bind fun l => begin (l :: s.found) c
  | .number chars =>
    if isNumberChar c then some { s with mode := .number (c :: chars) }
    else (Numeral.ofChars? chars.reverse).bind fun n => begin (.number n :: s.found) c
  | .string pieces =>
    if c = '"' then some ⟨.string pieces.reverse :: s.found, .between⟩
    else if c = '\\' then some { s with mode := .escape pieces }
    else if c.toNat < 0x20 then some { s with mode := .string (.control c :: pieces) }
    else some { s with mode := .string (.plain c :: pieces) }
  | .escape pieces =>
    if c = 'u' then some { s with mode := .unit pieces 0 0 }
    else (shortEscape? c).map fun e => { s with mode := .string (.plain e :: pieces) }
  | .unit pieces digits value =>
    (hexValue? c).map fun d =>
      let value := value * 16 + d
      if digits = 3 then { s with mode := .string (.unit value :: pieces) }
      else { s with mode := .unit pieces (digits + 1) value }

/-- The lexemes, once the text has ended. -/
def finish (s : Lexer) : Option (List Lexeme) :=
  match s.mode with
  | .between => some s.found.reverse
  | .word letters => (wordLexeme? letters.reverse).map fun l => (l :: s.found).reverse
  | .number chars => (Numeral.ofChars? chars.reverse).map fun n => (.number n :: s.found).reverse
  | .string _ | .escape _ | .unit .. => none

/-- Takes characters one after the other. -/
def run (s : Lexer) : List Char → Option Lexer
  | [] => some s
  | c :: cs => (s.step c).bind fun t => t.run cs

theorem run_append (s : Lexer) (cs ds : List Char) :
    s.run (cs ++ ds) = (s.run cs).bind fun t => t.run ds := by
  induction cs generalizing s with
  | nil => rfl
  | cons c cs ih =>
    simp only [List.cons_append, run]
    cases s.step c with
    | none => rfl
    | some t => exact ih t

end Lexer

/-- **The lexemes of a text.** -/
def lexemes? (text : List Char) : Option (List Lexeme) := (Lexer.start.run text).bind Lexer.finish

end BlockAccess.Json
