import BlockAccess.Digits
import BlockAccess.Text.Utf8

/-!
# JSON values

A value keeps what was written as far as a reader may still need it: a number keeps its parts, and
a string keeps apart the characters that stand for themselves, the control characters that a text
must not hold bare, and the 16-bit units that were escaped. What a string means depends on its
reader: as a text it must be free of bare control characters and of lone surrogates, as a byte
sequence it may have both.

## Main results

* `textOf?_ofString` — a text written without escapes reads as itself.
-/

namespace BlockAccess.Json

/-- A number as written. -/
structure Numeral where
  negative : Bool
  /-- The digits before the point. -/
  whole : List Char
  /-- The digits after the point, if there is one. -/
  fraction? : Option (List Char)
  /-- The sign and the digits of the exponent, if there is one. -/
  exponent? : Option (Bool × List Char)
  deriving DecidableEq, Repr

/-- The integer that a number is, if it is written as one and its magnitude is below
`UInt64.size`. Minus zero is no integer. -/
def Numeral.int? (n : Numeral) : Option Int :=
  if n.fraction?.isSome || n.exponent?.isSome then none
  else
    let magnitude := Digits.natUpTo UInt64.size 10 (n.whole.map Digits.decimalValue)
    if UInt64.size ≤ magnitude then none
    else if n.negative then if magnitude = 0 then none else some (-(magnitude : Int))
    else some magnitude

/-- A piece of a string. -/
inductive Piece
  /-- A character that stands for itself, or was written by a short escape. -/
  | plain (c : Char)
  /-- A control character that stands bare. -/
  | control (c : Char)
  /-- A 16-bit unit, escaped by its number. -/
  | unit (u : Nat)
  deriving DecidableEq, Repr

/-- Whether a unit is the first half of a surrogate pair. -/
def isHighSurrogate (u : Nat) : Bool := 0xD800 ≤ u && u < 0xDC00

/-- Whether a unit is the second half of a surrogate pair. -/
def isLowSurrogate (u : Nat) : Bool := 0xDC00 ≤ u && u < 0xE000

/-- The code point of a surrogate pair. -/
def ofSurrogates (high low : Nat) : Nat := 0x10000 + (high - 0xD800) * 0x400 + (low - 0xDC00)

/-- The code points of a string, after those in `acc`, which are in reverse order. Two escaped
halves of a pair that follow each other are one code point. -/
def codePointsOnto (acc : List Nat) : List Piece → List Nat
  | [] => acc.reverse
  | .plain c :: rest => codePointsOnto (c.toNat :: acc) rest
  | .control c :: rest => codePointsOnto (c.toNat :: acc) rest
  | .unit high :: .unit low :: rest =>
    if isHighSurrogate high && isLowSurrogate low then
      codePointsOnto (ofSurrogates high low :: acc) rest
    else codePointsOnto (high :: acc) (.unit low :: rest)
  | .unit u :: rest => codePointsOnto (u :: acc) rest

/-- The code points of a string. -/
def codePoints (pieces : List Piece) : List Nat := codePointsOnto [] pieces

/-- The character of a code point, if it is one. -/
def charOf? (n : Nat) : Option Char := if n.isValidChar then some (Char.ofNat n) else none

def Piece.isControl : Piece → Bool
  | .control _ => true
  | .plain _ | .unit _ => false

/-- The text that a string means, if it means one. -/
def textOf? (pieces : List Piece) : Option String :=
  if pieces.any Piece.isControl then none
  else ((codePoints pieces).mapM charOf?).map String.ofList

/-- The bytes of a code point. Those of a lone surrogate have the pattern of its range. -/
def codePointBytes (n : Nat) : List UInt8 :=
  if n < 0x80 then [UInt8.ofNat n]
  else if n < 0x800 then [UInt8.ofNat (0xC0 + n / 64), UInt8.ofNat (0x80 + n % 64)]
  else if n < 0x10000 then
    [UInt8.ofNat (0xE0 + n / 4096), UInt8.ofNat (0x80 + n / 64 % 64), UInt8.ofNat (0x80 + n % 64)]
  else
    [UInt8.ofNat (0xF0 + n / 262144), UInt8.ofNat (0x80 + n / 4096 % 64),
      UInt8.ofNat (0x80 + n / 64 % 64), UInt8.ofNat (0x80 + n % 64)]

/-- The bytes that a string means. -/
def bytesOf (pieces : List Piece) : List UInt8 := (codePoints pieces).flatMap codePointBytes

/-- A JSON value. The members of an object stand in the order in which they are written. -/
inductive Value
  | null
  | bool (b : Bool)
  | number (n : Numeral)
  | string (pieces : List Piece)
  | array (items : List Value)
  | object (members : List (List Piece × Value))

mutual

/-- Whether no string of the value holds a bare control character. -/
def Value.isClean : Value → Bool
  | .null | .bool _ | .number _ => true
  | .string pieces => !pieces.any Piece.isControl
  | .array items => allClean items
  | .object members => membersClean members

/-- Whether all items are clean. -/
def allClean : List Value → Bool
  | [] => true
  | v :: rest => v.isClean && allClean rest

/-- Whether all members are clean. -/
def membersClean : List (List Piece × Value) → Bool
  | [] => true
  | (key, v) :: rest => !key.any Piece.isControl && v.isClean && membersClean rest

end

private theorem mapM_charOf? (cs : List Char) : (cs.map Char.toNat).mapM charOf? = some cs := by
  induction cs with
  | nil => rfl
  | cons c cs ih =>
    have hc : charOf? c.toNat = some c := by
      have hvalid : c.toNat.isValidChar := c.valid
      rw [charOf?, if_pos hvalid, Char.ofNat_toNat]
    simp only [List.map_cons, List.mapM_cons, hc, ih]
    rfl

private theorem codePointsOnto_plain (acc : List Nat) (cs : List Char) :
    codePointsOnto acc (cs.map .plain) = acc.reverse ++ cs.map Char.toNat := by
  induction cs generalizing acc with
  | nil => simp [codePointsOnto]
  | cons c cs ih => simp [codePointsOnto, ih]

theorem textOf?_ofString (s : String) : textOf? (s.toList.map .plain) = some s := by
  have hclean : (s.toList.map Piece.plain).any Piece.isControl = false := by
    simp [List.any_map, Function.comp_def, Piece.isControl]
  simp only [textOf?, hclean, codePoints, codePointsOnto_plain, List.reverse_nil, List.nil_append,
    mapM_charOf?]
  simp

end BlockAccess.Json
