import BlockAccess.Json.Value

/-!
# JSON numbers in floating point

A number that is not wanted exactly is read as a whole number of at most 64 bits, scaled by a power
of ten in floating-point arithmetic. Digits that the whole number has no room for only move the
point, or are dropped after it. A number too large for a floating-point number is refused.
-/

namespace BlockAccess.Json

/-- Digits in front of an exponent: a whole number, and how far the point has moved. -/
structure Significand where
  value : Nat
  shift : Int
  /-- Whether a digit has been left out. -/
  full : Bool

/-- Takes a digit. The point moves by `onFit` if there is room for it, and by `onFull` if not. -/
def Significand.push (onFit onFull : Int) (s : Significand) (c : Char) : Significand :=
  let next := s.value * 10 + Digits.decimalValue c
  if s.full || UInt64.size ≤ next then ⟨s.value, s.shift + onFull, true⟩
  else ⟨next, s.shift + onFit, false⟩

/-- The digits of a number. -/
def Numeral.significand (n : Numeral) : Significand :=
  let whole := n.whole.foldl (Significand.push 0 1) ⟨0, 0, false⟩
  (n.fraction?.getD []).foldl (Significand.push (-1) 0) ⟨whole.value, whole.shift, false⟩

/-- A power of ten that a floating-point number has room for. -/
def powerOfTen (n : Nat) : Float := Float.ofScientific 1 false n

/-- Scales by a power of ten. `none` if the number gets too large. -/
def scale? (x : Float) (exponent : Int) : Option Float :=
  if 308 < exponent then if x == 0.0 then some x else none
  else if 0 ≤ exponent then
    let y := x * powerOfTen exponent.toNat
    if y.isInf then none else some y
  else if -308 ≤ exponent then some (x / powerOfTen exponent.natAbs)
  else if x == 0.0 then some x
  else scale? (x / powerOfTen 308) (exponent + 308)
termination_by exponent.natAbs
decreasing_by omega

/-- Once an exponent has come as far as this, its further digits are left out. No text has so many
digits that they could make up for it. -/
def exponentBound : Nat := 0x80000000

/-- **The floating-point number that a number is read as.** -/
def Numeral.float? (n : Numeral) : Option Float :=
  let s := n.significand
  let exponent : Int := match n.exponent? with
    | none => 0
    | some (negative, digits) =>
      let e : Int := Digits.natUpTo exponentBound 10 (digits.map Digits.decimalValue)
      if negative then -e else e
  (scale? (UInt64.ofNat s.value).toFloat (s.shift + exponent)).map fun x =>
    if n.negative then -x else x

mutual

/-- Whether all strings of a value are texts and all its numbers are in range. -/
def Value.isSound : Value → Bool
  | .null | .bool _ => true
  | .number n => n.float?.isSome
  | .string pieces => (textOf? pieces).isSome
  | .array items => allSound items
  | .object members => membersSound members

/-- Whether all items are sound. -/
def allSound : List Value → Bool
  | [] => true
  | v :: rest => v.isSound && allSound rest

/-- Whether all members are sound. -/
def membersSound : List (List Piece × Value) → Bool
  | [] => true
  | (key, v) :: rest => (textOf? key).isSome && v.isSound && membersSound rest

end

/-- How many arrays and objects may be open at a time where a whole text is read as a value. -/
def maxNesting : Nat := 127

end BlockAccess.Json
