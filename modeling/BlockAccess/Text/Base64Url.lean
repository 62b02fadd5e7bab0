import BlockAccess.Text.Utf8

/-!
# URL-safe base64

Bytes as text over the 64 symbols `A-Z a-z 0-9 - _`, three bytes to four symbols. There is no
padding, and the bits of the last symbol that no byte needs are zero, so that each byte sequence
has one text.

Reading goes over the symbols in groups of four. All groups but the last are whole; the last has
one to four symbols. The first unknown symbol is reported, with one exception: if a single symbol
is left over at the end and it is unknown, it is reported before everything else. A padding sign is
an unknown symbol everywhere but in the third and fourth place of the last group, where it is
reported as padding once nothing else is wrong.
-/

namespace BlockAccess.Base64Url

/-- Why a text is no base64. -/
inductive Fault
  | symbol (byte : UInt8) (offset : Nat)
  | length (size : Nat)
  | lastSymbol (byte : UInt8) (offset : Nat)
  | padded
  deriving DecidableEq, Repr

/-- The wording of a fault. -/
def Fault.message : Fault → String
  | .symbol byte offset =>
    "Invalid symbol " ++ toString byte.toNat ++ ", offset " ++ toString offset ++ "."
  | .length size => "Invalid input length: " ++ toString size
  | .lastSymbol byte offset =>
    "Invalid last symbol " ++ toString byte.toNat ++ ", offset " ++ toString offset ++ "."
  | .padded => "Invalid padding"

/-- The symbol of a number below 64. -/
def symbolOf (n : UInt8) : UInt8 :=
  if n < 26 then n + 65
  else if n < 52 then n + 71
  else if n < 62 then n - 4
  else if n = 62 then 45
  else 95

/-- The number of a symbol. -/
def valueOf? (symbol : UInt8) : Option UInt8 :=
  if 65 ≤ symbol && symbol ≤ 90 then some (symbol - 65)
  else if 97 ≤ symbol && symbol ≤ 122 then some (symbol - 71)
  else if 48 ≤ symbol && symbol ≤ 57 then some (symbol + 4)
  else if symbol = 45 then some 62
  else if symbol = 95 then some 63
  else none

/-- The padding sign. -/
def paddingSign : UInt8 := 61

/-- The symbols of the bytes, after the symbols in `acc`, which are in reverse order. -/
def encodeOnto (acc : List UInt8) : List UInt8 → List UInt8
  | a :: b :: c :: rest =>
    encodeOnto
      (symbolOf (c &&& 63) :: symbolOf ((b &&& 15) <<< 2 ||| c >>> 6)
        :: symbolOf ((a &&& 3) <<< 4 ||| b >>> 4) :: symbolOf (a >>> 2) :: acc) rest
  | [a, b] =>
    (symbolOf ((b &&& 15) <<< 2) :: symbolOf ((a &&& 3) <<< 4 ||| b >>> 4) :: symbolOf (a >>> 2)
      :: acc).reverse
  | [a] => (symbolOf ((a &&& 3) <<< 4) :: symbolOf (a >>> 2) :: acc).reverse
  | [] => acc.reverse

/-- **The base64 text of a byte sequence.** -/
def encode (bytes : List UInt8) : String :=
  String.ofList ((encodeOnto [] bytes).map fun b => Char.ofNat b.toNat)

/-- The number of a symbol, or the fault that it is at its offset. -/
def value (offset : Nat) (symbol : UInt8) : Except Fault UInt8 :=
  match valueOf? symbol with
  | some n => .ok n
  | none => .error (.symbol symbol offset)

/-- The bytes of the last group, after the bytes in `acc`, which are in reverse order. -/
def decodeTail (acc : List UInt8) (offset : Nat) : List UInt8 → Except Fault (List UInt8)
  | [] => .ok acc.reverse
  | [a] => do
    let _ ← value offset a
    throw (.length (offset + 1))
  | [a, b] => do
    let x ← value offset a
    let y ← value (offset + 1) b
    if y &&& 15 ≠ 0 then throw (.lastSymbol b (offset + 1))
    return ((x <<< 2 ||| y >>> 4) :: acc).reverse
  | [a, b, c] => do
    let x ← value offset a
    let y ← value (offset + 1) b
    if c = paddingSign then throw .padded
    let z ← value (offset + 2) c
    if z &&& 3 ≠ 0 then throw (.lastSymbol c (offset + 2))
    return ((y <<< 4 ||| z >>> 2) :: (x <<< 2 ||| y >>> 4) :: acc).reverse
  | a :: b :: c :: d :: _ => do
    let x ← value offset a
    let y ← value (offset + 1) b
    if c = paddingSign then
      if d = paddingSign then throw .padded else throw (.symbol paddingSign (offset + 2))
    let z ← value (offset + 2) c
    if d = paddingSign then throw .padded
    let u ← value (offset + 3) d
    return ((z <<< 6 ||| u) :: (y <<< 4 ||| z >>> 2) :: (x <<< 2 ||| y >>> 4) :: acc).reverse

/-- The bytes of the symbols from `offset` on, after the bytes in `acc`, which are in reverse
order. -/
def decodeOnto (acc : List UInt8) (offset : Nat) : List UInt8 → Except Fault (List UInt8)
  | a :: b :: c :: d :: e :: rest => do
    let x ← value offset a
    let y ← value (offset + 1) b
    let z ← value (offset + 2) c
    let u ← value (offset + 3) d
    decodeOnto ((z <<< 6 ||| u) :: (y <<< 4 ||| z >>> 2) :: (x <<< 2 ||| y >>> 4) :: acc)
      (offset + 4) (e :: rest)
  | tail => decodeTail acc offset tail

/-- A single symbol left over after whole groups, if it is unknown and no padding sign. -/
def strayEnd? (symbols : List UInt8) : Option Fault :=
  if symbols.length % 4 = 1 then
    match symbols.getLast? with
    | some last =>
      if last ≠ paddingSign ∧ valueOf? last = none then some (.symbol last (symbols.length - 1))
      else none
    | none => none
  else none

/-- **The bytes that a base64 text writes.** -/
def decode (text : String) : Except Fault (List UInt8) :=
  let symbols := utf8Bytes text
  match strayEnd? symbols with
  | some fault => .error fault
  | none => decodeOnto [] 0 symbols

end BlockAccess.Base64Url
