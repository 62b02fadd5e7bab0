import BlockAccess.Digits

/-!
# Decimal numbers

A decimal number is a sign, a whole number of digits and a power of ten. It is read from text, and
rounded to the nearest binary floating-point number.

A text may be long. Of its digits only so many are kept as can matter for the rounding, and an
exponent is read only as long as it is below `exponentBound`.
-/

namespace BlockAccess

/-- The number `± digits · 10 ^ exponent`. -/
structure Decimal where
  negative : Bool
  digits : Nat
  exponent : Int
  deriving DecidableEq, Repr

namespace Decimal

/-- Beyond this power of ten every number is infinite, or zero on the other side. -/
def outOfRange : Int := 400

/-- Once an exponent has come as far as this, its further digits are left out. -/
def exponentBound : Nat := 0x10000

/-- So many digits are kept. A number half-way between two neighbouring floating-point numbers has
fewer, so that of the digits after these it only matters whether all of them are zero. -/
def keptDigits : Nat := 800

/-- The decimal with the given digits, of which no more are kept than can matter. A last digit
stands for those that are left out. -/
def ofDigits (negative : Bool) (digits : List Char) (exponent : Int) : Decimal :=
  let digits := (digits.map Digits.decimalValue).dropWhile (· = 0)
  let more := digits.drop keptDigits
  let kept := Digits.natOf 10 (digits.take keptDigits)
  if more.all (· = 0) then ⟨negative, kept, exponent + more.length⟩
  else ⟨negative, kept * 10 + 1, exponent + more.length - 1⟩

/-- The infinite number of the given sign. -/
def infinity (negative : Bool) : Float := if negative then -1.0 / 0.0 else 1.0 / 0.0

/-- **The nearest floating-point number;** infinity if the number is too large for one. -/
def toFloat (d : Decimal) : Float :=
  let magnitude :=
    let size : Int := (Nat.toDigits 10 d.digits).length + d.exponent
    if d.digits = 0 ∨ size < -outOfRange then 0.0
    else if outOfRange < size then infinity false
    else Float.ofScientific d.digits (d.exponent < 0) d.exponent.natAbs
  if d.negative then -magnitude else magnitude

/-- Takes a sign off. The flag tells whether it is a minus. -/
def splitSign : List Char → Bool × List Char
  | '-' :: rest => (true, rest)
  | '+' :: rest => (false, rest)
  | rest => (false, rest)

/-- The exponent that the characters write, zero if there are none. -/
def exponentOf? : List Char → Option Int
  | [] => some 0
  | e :: rest =>
    if e = 'e' ∨ e = 'E' then
      let (negative, digits) := splitSign rest
      if digits.isEmpty || !digits.all Char.isDigit then none
      else
        let n : Int := Digits.natUpTo exponentBound 10 (digits.map Digits.decimalValue)
        some (if negative then -n else n)
    else none

/-- The decimal that a text writes: digits with at most one point among or around them, then
possibly an exponent. -/
def ofChars? (chars : List Char) : Option Decimal := do
  let (negative, chars) := splitSign chars
  let whole := chars.takeWhile Char.isDigit
  let (fraction, rest) := match chars.dropWhile Char.isDigit with
    | '.' :: rest => (rest.takeWhile Char.isDigit, rest.dropWhile Char.isDigit)
    | rest => ([], rest)
  if whole.isEmpty && fraction.isEmpty then none
  let exponent ← exponentOf? rest
  return ofDigits negative (whole ++ fraction) (exponent - fraction.length)

end Decimal

/-- The number below `UInt64.size` that decimal digits write. -/
def wordOfDigits? (digits : List Char) : Option Nat :=
  if digits.isEmpty || !digits.all Char.isDigit then none
  else
    let n := Digits.natUpTo UInt64.size 10 (digits.map Digits.decimalValue)
    if n < UInt64.size then some n else none

/-- The integer that a text writes: digits, possibly after a sign. Its magnitude must be below
`UInt64.size`. -/
def integerOf? (chars : List Char) : Option Int :=
  let (negative, digits) := Decimal.splitSign chars
  (wordOfDigits? digits).map fun n => if negative then -(n : Int) else n

/-- Whether an integer fits into a signed 64-bit word. -/
def fitsInt64 (n : Int) : Bool := -0x8000000000000000 ≤ n && n < 0x8000000000000000

/-- The floating-point number that a text writes: a decimal, or one of the words for the infinite
numbers and for what is no number, in letters of either case. -/
def floatOf? (chars : List Char) : Option Float :=
  let (negative, rest) := Decimal.splitSign chars
  let word := String.ofList (rest.map Char.toLower)
  if word = "inf" ∨ word = "infinity" then some (Decimal.infinity negative)
  else if word = "nan" then some (0.0 / 0.0)
  else (Decimal.ofChars? chars).map Decimal.toFloat

end BlockAccess
