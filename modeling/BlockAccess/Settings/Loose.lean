import BlockAccess.Decimal
import BlockAccess.Text.LowerCase

/-!
# Loosely typed settings

Files and variables say what they say in types of their own. A setting takes what it can make sense
of: a number may stand for a truth value, a word for a number, and a fraction is rounded.
-/

namespace BlockAccess.Settings

/-- The value of a setting, as its source has it. -/
inductive Loose
  | null
  | bool (b : Bool)
  | integer (n : Int)
  | float (x : Float)
  | text (s : String)
  /-- A table without entries. It says nothing that has not been said before. -/
  | emptyTable
  /-- A list, or a table with entries, which no setting can make sense of. -/
  | compound

/-- The truth value of a word. -/
def wordValue? (word : String) : Option Bool :=
  if ["true", "on", "yes"].contains word then some true
  else if ["false", "off", "no"].contains word then some false
  else none

/-- The word of 64 bits that a text writes in decimal, possibly after a plus. -/
def uint64OfText? (s : String) : Option UInt64 :=
  let digits := match s.toList with
    | '+' :: rest => rest
    | chars => chars
  (wordOfDigits? digits).map UInt64.ofNat

namespace Loose

/-- The value of a setting after one more has been said about it. The last word counts. -/
def after (said? : Option Loose) : Loose → Loose
  | emptyTable => said?.getD emptyTable
  | value => value

/-- The number that a value stands for. A fraction is rounded, a half away from zero, and a number
out of range is brought to the nearest one in it; but an integer must not be negative. -/
def uint64? : Loose → Option UInt64
  | bool b => some b.toUInt64
  | integer n => if 0 ≤ n then some (UInt64.ofNat n.toNat) else none
  | float x => some x.round.toUInt64
  | text s =>
    match wordValue? (lowerCase s) with
    | some b => some b.toUInt64
    | none => uint64OfText? s
  | null | emptyTable | compound => none

/-- The truth value that a value stands for. Every number but zero is true. -/
def bool? : Loose → Option Bool
  | bool b => some b
  | integer n => some (n ≠ 0)
  | float x => some (x != 0.0)
  | text s =>
    match lowerCase s with
    | "1" => some true
    | "0" => some false
    | word => wordValue? word
  | null | emptyTable | compound => none

/-- The value of a text that may be meant as something else: a truth value, an integer of 64 bits,
a number, and only then a text. -/
def ofVariable (s : String) : Loose :=
  let chars := s.toList
  match lowerCase s with
  | "true" => bool true
  | "false" => bool false
  | _ =>
    match (integerOf? chars).filter fitsInt64 with
    | some n => integer n
    | none =>
      match floatOf? chars with
      | some x => float x
      | none => text s

end Loose

end BlockAccess.Settings
