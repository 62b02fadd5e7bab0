import BlockAccess.Decimal
import BlockAccess.Text.LowerCase

/-!
# Names of settings

A source says something about a setting under its name, in letters of either case. A name may also
go on to a part of a setting: after a point with the name of the part, or in brackets with its
place. What does not read as a name of this sort is a name as a whole.
-/

namespace BlockAccess.Settings

/-- What a name speaks of. -/
structure Name where
  /-- The setting, in lower case. -/
  setting : String
  /-- Whether the name speaks of a part of the setting only. -/
  isPart : Bool
  deriving DecidableEq, Repr

/-- Whether a character may stand in the name of a setting or of a part, if there are other
parts. -/
def isNameChar (c : Char) : Bool := c.isAlphanum || c = ' ' || c = '_' || c = '-'

/-- Whether a character may stand around the place in brackets. -/
def isBlank (c : Char) : Bool := c = ' ' || c = '\t'

/-- What follows the place of a part, of which the opening bracket has been read. The place may be
counted from the end, and fits in 64 bits. -/
def afterPlace? (chars : List Char) : Option (List Char) :=
  let chars := chars.dropWhile isBlank
  let (sign, chars) := match chars with
    | '-' :: rest => (['-'], rest)
    | _ => ([], chars)
  let digits := chars.takeWhile Char.isDigit
  if ((integerOf? (sign ++ digits)).filter fitsInt64).isNone then none
  else
    match (chars.dropWhile Char.isDigit).dropWhile isBlank with
    | ']' :: rest => some rest
    | _ => none

/-- Whether the characters lead in at most `n` steps from a setting to a part of it. -/
def areSteps (n : Nat) (chars : List Char) : Bool :=
  match n, chars with
  | _, [] => true
  | n + 1, '.' :: rest =>
    !(rest.takeWhile isNameChar).isEmpty && areSteps n (rest.dropWhile isNameChar)
  | n + 1, '[' :: rest =>
    match afterPlace? rest with
    | some rest => areSteps n rest
    | none => false
  | _, _ => false

/-- **What a name speaks of.** -/
def Name.ofString (s : String) : Name :=
  let name := lowerCase s
  let own := name.toList.takeWhile isNameChar
  let steps := name.toList.dropWhile isNameChar
  if !own.isEmpty && !steps.isEmpty && areSteps steps.length steps then ⟨String.ofList own, true⟩
  else ⟨name, false⟩

end BlockAccess.Settings
