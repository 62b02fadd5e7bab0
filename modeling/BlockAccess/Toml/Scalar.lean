import BlockAccess.Toml.Value

/-!
# TOML numbers, dates and words

A bare value is looked at as a whole: it is a word, a number, or a date and time.
-/

namespace BlockAccess.Toml

/-- The digits of a sequence in which single underscores may stand between digits. -/
def ungroup? (isDigit : Char → Bool) : List Char → Option (List Char)
  | [] => none
  | [c] => if isDigit c then some [c] else none
  | c :: '_' :: rest => if isDigit c then (ungroup? isDigit rest).map (c :: ·) else none
  | c :: rest => if isDigit c then (ungroup? isDigit rest).map (c :: ·) else none

/-- The value of a digit of a base up to sixteen. -/
def digitOf (c : Char) : Nat :=
  if c.isDigit then c.toNat - 48 else if c.isLower then c.toNat - 87 else c.toNat - 55

/-- Whether a character is a digit of the base. -/
def isDigitOf (base : Nat) (c : Char) : Bool :=
  (c.isDigit || ('a' ≤ c && c ≤ 'f') || ('A' ≤ c && c ≤ 'F')) && digitOf c < base

/-- The number that digits of a base write. -/
def natOfBase (base : Nat) (digits : List Char) : Nat := Digits.natOf base (digits.map digitOf)

/-- Digits of the decimal system without a needless leading zero. -/
def plainDigits? (chars : List Char) : Option (List Char) :=
  (ungroup? Char.isDigit chars).filter fun ds => ds.length = 1 || ds.head? ≠ some '0'

/-- The integer that a bare value is. It must fit into a signed 64-bit word. -/
def integer? (chars : List Char) : Option Int :=
  let magnitude (base : Nat) (digits : List Char) : Nat :=
    Digits.natUpTo UInt64.size base (digits.map digitOf)
  let based (base : Nat) (digits : List Char) : Option Int :=
    (ungroup? (isDigitOf base) digits).map fun ds => (magnitude base ds : Int)
  let n? := match chars with
    | '0' :: 'x' :: digits => based 16 digits
    | '0' :: 'o' :: digits => based 8 digits
    | '0' :: 'b' :: digits => based 2 digits
    | _ =>
      let (negative, digits) := Decimal.splitSign chars
      (plainDigits? digits).map fun ds =>
        let n : Int := magnitude 10 ds
        if negative then -n else n
  n?.filter fitsInt64

/-- The exponent that the characters write, zero if there are none. -/
def exponent? : List Char → Option Int
  | [] => some 0
  | e :: rest =>
    if e = 'e' ∨ e = 'E' then
      let (negative, digits) := Decimal.splitSign rest
      (ungroup? Char.isDigit digits).map fun ds =>
        let n : Int := Digits.natUpTo Decimal.exponentBound 10 (ds.map Digits.decimalValue)
        if negative then -n else n
    else none

def isExponentSign (c : Char) : Bool := c = 'e' || c = 'E'

/-- The floating-point number that a bare value is: it has a fraction or an exponent, and it does
not overflow to plus infinity. -/
def float? (chars : List Char) : Option Float :=
  let (negative, rest) := Decimal.splitSign chars
  if rest = ['i', 'n', 'f'] then some (Decimal.infinity negative)
  else if rest = ['n', 'a', 'n'] then some (0.0 / 0.0)
  else do
    let mantissa := rest.takeWhile (!isExponentSign ·)
    if mantissa = rest && !mantissa.contains '.' then none
    let exponent ← exponent? (rest.dropWhile (!isExponentSign ·))
    let whole ← plainDigits? (mantissa.takeWhile (· ≠ '.'))
    let fraction ← match mantissa.dropWhile (· ≠ '.') with
      | [] => some []
      | _ :: digits => ungroup? Char.isDigit digits
    let x := (Decimal.ofDigits negative (whole ++ fraction) (exponent - fraction.length)).toFloat
    if x == Decimal.infinity false then none else some x

/-- The number that exactly `count` digits in front write, and what follows. -/
def digitsInFront? (count : Nat) (chars : List Char) : Option (Nat × List Char) :=
  let digits := chars.take count
  if digits.length = count && digits.all Char.isDigit then
    some (natOfBase 10 digits, chars.drop count)
  else none

/-- What follows a given character. -/
def after? (c : Char) : List Char → Option (List Char)
  | d :: rest => if d = c then some rest else none
  | [] => none

def isLeapYear (year : Nat) : Bool := year % 4 = 0 && (year % 100 ≠ 0 || year % 400 = 0)

/-- The number of days of a month. -/
def daysOfMonth (year month : Nat) : Nat :=
  if month = 2 then if isLeapYear year then 29 else 28
  else if [4, 6, 9, 11].contains month then 30
  else 31

/-- What follows a date in front. -/
def afterDate? (chars : List Char) : Option (List Char) := do
  let (year, chars) ← digitsInFront? 4 chars
  let chars ← after? '-' chars
  let (month, chars) ← digitsInFront? 2 chars
  let chars ← after? '-' chars
  let (day, chars) ← digitsInFront? 2 chars
  if 1 ≤ month && month ≤ 12 && 1 ≤ day && day ≤ daysOfMonth year month then some chars else none

/-- What follows a time of day in front. A minute may have a leap second. -/
def afterTime? (chars : List Char) : Option (List Char) := do
  let (hour, chars) ← digitsInFront? 2 chars
  let chars ← after? ':' chars
  let (minute, chars) ← digitsInFront? 2 chars
  let chars ← after? ':' chars
  let (second, chars) ← digitsInFront? 2 chars
  if 23 < hour || 59 < minute || 60 < second then none
  match chars with
  | '.' :: rest =>
    if (rest.takeWhile Char.isDigit).isEmpty then none else some (rest.dropWhile Char.isDigit)
  | _ => some chars

/-- Whether the characters are an offset from universal time, or nothing. -/
def isOffset : List Char → Bool
  | [] => true
  | ['Z'] | ['z'] => true
  | sign :: rest =>
    (sign = '+' || sign = '-') &&
      match digitsInFront? 2 rest with
      | some (hour, ':' :: rest) =>
        match digitsInFront? 2 rest with
        | some (minute, []) => hour ≤ 23 && minute ≤ 59
        | _ => false
      | _ => false

/-- Whether a bare value is a time of day, possibly with an offset. -/
def isTimeWithOffset (chars : List Char) : Bool :=
  match afterTime? chars with
  | some rest => isOffset rest
  | none => false

/-- Whether a bare value is a date without a time. -/
def isDate (chars : List Char) : Bool := afterDate? chars = some []

/-- Whether the characters are a date, a time of day, or a date and a time with one of the given
separators between. Only a date with a time may have an offset. -/
def isDateTime (separators : List Char) (chars : List Char) : Bool :=
  match afterDate? chars with
  | some [] => true
  | some (sep :: rest) => separators.contains sep && isTimeWithOffset rest
  | none => afterTime? chars = some []

/-- The scalar that a bare value is. -/
def bareScalar? (chars : List Char) : Option Scalar :=
  if chars = ['t', 'r', 'u', 'e'] then some (.boolean true)
  else if chars = ['f', 'a', 'l', 's', 'e'] then some (.boolean false)
  else if isDateTime ['T', 't'] chars then some (.dateTime (String.ofList chars))
  else
    match integer? chars with
    | some n => some (.integer n)
    | none => (float? chars).map .float

end BlockAccess.Toml
