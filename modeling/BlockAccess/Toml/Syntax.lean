import BlockAccess.Toml.Scalar

/-!
# The syntax of TOML

A document is a sequence of lines: headers of tables, headers of lists of tables, and keys with
their values (`Line`). A `Scan` takes characters from the front. Arrays and tables in braces
may be nested up to `maxNesting` deep, and keys may have as many parts.

A scan knows the number of characters of the whole text. As each repetition takes a character, it
bounds every repetition.
-/

namespace BlockAccess.Toml

/-- A way to take characters from the front, which may fail. It knows the number of characters of
the whole text. -/
abbrev Scan (α : Type) := ReaderT Nat (StateT (List Char) Option) α

/-- Nothing is nested as deep as this. -/
def maxNesting : Nat := 80

namespace Scan

/-- A scan that does not look at the number of characters. -/
def ofStep {α : Type} (step : List Char → Option (α × List Char)) : Scan α := fun _ => step

/-- The next character, if it satisfies a condition. -/
def satisfying (p : Char → Bool) : Scan Char := ofStep fun
  | c :: rest => if p c then some (c, rest) else none
  | [] => none

/-- A given character. -/
def char (c : Char) : Scan Unit := do
  let _ ← satisfying (· = c)

/-- The longest sequence of characters that satisfy a condition. -/
def run (p : Char → Bool) : Scan (List Char) := ofStep fun chars =>
  some (chars.takeWhile p, chars.dropWhile p)

/-- The characters in front that are to be looked at without being taken. -/
def ahead (n : Nat) : Scan (List Char) := ofStep fun chars => some (chars.take n, chars)

/-- Whether the given characters are in front; if so they are taken. -/
def takes (expected : List Char) : Scan Bool := ofStep fun chars =>
  if expected.isPrefixOf chars then some (true, chars.drop expected.length)
  else some (false, chars)

/-- As many repetitions as succeed, but at most `n`, after those in `acc`, which are in reverse
order. -/
def repeatOnto {α : Type} (p : Scan α) (acc : List α) : Nat → Scan (List α)
  | 0 => return acc.reverse
  | n + 1 => fun bound chars =>
    match p bound chars with
    | some (a, rest) => repeatOnto p (a :: acc) n bound rest
    | none => some (acc.reverse, chars)

/-- As many repetitions as succeed. Each of them has to take a character. -/
def many {α : Type} (p : Scan α) : Scan (List α) := do repeatOnto p [] (← read)

/-- Nothing is left. -/
def atEnd : Scan Unit := ofStep fun
  | [] => some ((), [])
  | _ :: _ => none

/-- What a scan takes from the front of a text. -/
def take? {α : Type} (p : Scan α) (text : String) : Option α :=
  (p text.length text.toList).map (·.1)

end Scan

open Scan

/-! ## Blanks and line ends -/

def isWhite (c : Char) : Bool := c = ' ' || c = '\t'

/-- Whether a character may stand in a comment. -/
def isCommentChar (c : Char) : Bool := c = '\t' || (' ' ≤ c && c ≠ '\x7f')

/-- Blanks inside a line. -/
def white : Scan Unit := do
  let _ ← run isWhite

/-- The end of a line. -/
def newline : Scan Unit := do
  if ← takes ['\r', '\n'] then return () else char '\n'

/-- The end of a line, or of the document. -/
def lineEnd : Scan Unit := do
  if !(← ahead 1).isEmpty then newline

/-- A comment, up to the end of its line. -/
def comment : Scan Unit := do
  char '#'
  let _ ← run isCommentChar

/-- What may follow on a line: blanks and a comment. -/
def lineTail : Scan Unit := do
  white
  if (← ahead 1) = ['#'] then comment
  lineEnd

/-- A line end, or a comment with its line end. -/
def lineBreak : Scan Unit := do
  if (← ahead 1) = ['#'] then comment
  newline

/-- Blanks, line ends and comments. -/
def blankLines : Scan Unit := do
  white
  let _ ← many do
    lineBreak
    white

/-! ## Strings -/

/-- The value of a hexadecimal number of exactly `n` digits. -/
def hexNumber (n : Nat) : Scan Nat := ofStep fun chars =>
  let digits := chars.take n
  if digits.length = n && digits.all (isDigitOf 16) then
    some (natOfBase 16 digits, chars.drop n)
  else none

/-- The character with a given number. -/
def numbered (n : Nat) : Scan Char := if n.isValidChar then return Char.ofNat n else failure

/-- The character of an escape, after the backslash. -/
def escaped : Scan Char := do
  match ← satisfying fun _ => true with
  | 'b' => return '\x08'
  | 't' => return '\t'
  | 'n' => return '\n'
  | 'f' => return '\x0c'
  | 'r' => return '\r'
  | '"' => return '"'
  | '\\' => return '\\'
  | 'u' => numbered (← hexNumber 4)
  | 'U' => numbered (← hexNumber 8)
  | _ => failure

/-- Whether a character may stand bare in a string. -/
def isStringChar (c : Char) : Bool := c = '\t' || (' ' ≤ c && c ≠ '\x7f')

/-- A character of a string between double quotes. -/
def basicChar : Scan Char := do
  if ← takes ['\\'] then escaped else satisfying fun c => isStringChar c && c ≠ '"'

/-- The rest of a string between double quotes. -/
def basicRest : Scan String := do
  let cs ← many basicChar
  char '"'
  return String.ofList cs

/-- The rest of a string between single quotes. -/
def literalRest : Scan String := do
  let cs ← run fun c => isStringChar c && c ≠ '\''
  char '\''
  return String.ofList cs

/-- A backslash at the end of a line takes the blanks and line ends after it away. -/
def continuation : Scan (List Char) := do
  char '\\'
  white
  newline
  white
  let _ ← many do
    newline
    white
  return []

/-- A piece of a string of several lines: a line end, a character, or one or two quotes that do not
end it. -/
def linesPiece (quote : Char) (one : Scan (List Char)) : Scan (List Char) := do
  let next ← ahead 3
  if next.head? = some '\n' || next.take 2 = ['\r', '\n'] then
    newline
    return ['\n']
  else if next.head? ≠ some quote then one
  else if next = [quote, quote, quote] then failure
  else run (· = quote)

/-- The end of a string of several lines. One or two quotes before it belong to the string. -/
def linesEnd (quote : Char) : Scan (List Char) := do
  let quotes ← run (· = quote)
  if 3 ≤ quotes.length && quotes.length ≤ 5 then return quotes.drop 3 else failure

/-- The rest of a string of several lines. A line end at its beginning is dropped. -/
def linesRest (quote : Char) (one : Scan (List Char)) : Scan String := do
  if (← ahead 1) = ['\n'] || (← ahead 2) = ['\r', '\n'] then newline
  let pieces ← many (linesPiece quote one)
  let quotes ← linesEnd quote
  return String.ofList (pieces.flatten ++ quotes)

/-- A piece of a string of several lines between double quotes. -/
def basicPiece : Scan (List Char) := continuation <|> return [← basicChar]

/-- A piece of a string of several lines between single quotes. -/
def literalPiece : Scan (List Char) := return [← satisfying isStringChar]

/-- A string of any sort. -/
def string : Scan String := do
  if ← takes ['"', '"', '"'] then linesRest '"' basicPiece
  else if ← takes ['\'', '\'', '\''] then linesRest '\'' literalPiece
  else if ← takes ['"'] then basicRest
  else
    char '\''
    literalRest

/-! ## Keys -/

def isBareKeyChar (c : Char) : Bool := c.isAlphanum || c = '-' || c = '_'

/-- A part of a key. -/
def keyPart : Scan String := do
  if ← takes ['"'] then basicRest
  else if ← takes ['\''] then literalRest
  else
    let cs ← run isBareKeyChar
    if cs.isEmpty then failure else return String.ofList cs

/-- A key: parts with points between them, and blanks around each. -/
def key : Scan (List String) := do
  let part : Scan String := do
    white
    let p ← keyPart
    white
    return p
  let first ← part
  let rest ← many do
    char '.'
    part
  if rest.length + 1 < maxNesting then return first :: rest else failure

/-! ## Values -/

/-- Whether a character may stand in a bare value. -/
def isBareValueChar (c : Char) : Bool := c.isAlphanum || ['+', '-', '_', '.', ':'].contains c

/-- A bare value. A date may be followed by a blank and a time. -/
def bareValue : Scan Scalar := do
  let chars ← run isBareValueChar
  let chars ←
    if isDate chars then
      ofStep fun rest =>
        match rest with
        | ' ' :: more =>
          let time := more.takeWhile isBareValueChar
          if isTimeWithOffset time then some (chars ++ 'T' :: time, more.drop time.length)
          else some (chars, rest)
        | _ => some (chars, rest)
    else pure chars
  liftM (bareScalar? chars)

/-- Adds a value to a table in braces. The parts of a dotted key before the last name tables of
which no other key but a dotted one may name a part. -/
def addInline (entries : Entries) (value : Node) : List String → Option Entries
  | [] => none
  | [k] =>
    match entries.lookup k with
    | none => some (setEntry entries k value)
    | some _ => none
  | k :: rest => do
    match entries.lookup k with
    | none => return setEntry entries k (.table .dottedKey (← addInline [] value rest))
    | some (.table .dottedKey inner) =>
      return setEntry entries k (.table .dottedKey (← addInline inner value rest))
    | some _ => none

/-- Items with commas between them. -/
def separated {α : Type} (item : Scan α) : Scan (List α) := do
  match ← (some <$> item) <|> return none with
  | none => return []
  | some first => return first :: (← many (do char ','; item))

/-- A value nested at most `depth` deep. -/
def value (depth : Nat) : Scan Node := do
  match ← ahead 1 with
  | ['"'] | ['\''] => return .scalar (.string (← string))
  | ['['] =>
    match depth with
    | 0 => failure
    | depth + 1 =>
      char '['
      let items ← separated do
        blankLines
        let v ← value depth
        blankLines
        return v
      if !items.isEmpty then
        let _ ← takes [',']
      blankLines
      char ']'
      return .array items
  | ['\x7b'] =>
    match depth with
    | 0 => failure
    | depth + 1 =>
      char '\x7b'
      let pairs ← separated do
        let k ← key
        char '='
        white
        let v ← value depth
        white
        return (k, v)
      white
      char '\x7d'
      let entries? := pairs.foldlM (fun entries (k, v) => addInline entries v k) ([] : Entries)
      return .inlineTable (← liftM entries?)
  | _ => return .scalar (← bareValue)

/-! ## Lines -/

/-- A line of a document that says something. -/
inductive Line
  | header (path : List String)
  | listHeader (path : List String)
  | entry (path : List String) (value : Node)

/-- A line that says something. -/
def line : Scan Line := do
  if ← takes ['[', '['] then
    let path ← key
    if ← takes [']', ']'] then
      lineTail
      return .listHeader path
    else failure
  else if ← takes ['['] then
    let path ← key
    char ']'
    lineTail
    return .header path
  else
    let path ← key
    char '='
    white
    let v ← value (maxNesting - 1)
    lineTail
    return .entry path v

/-- A comment or nothing, up to the end of the line. -/
def emptyLine : Scan Unit := do
  if ← takes ['#'] then
    let _ ← run isCommentChar
    lineEnd
  else newline

/-- A line of either sort. -/
def anyLine : Scan (Option Line) := do
  match ← ahead 1 with
  | [] => failure
  | '#' :: _ | '\n' :: _ | '\r' :: _ =>
    emptyLine
    return none
  | _ => return some (← line)

/-- All lines of a document. -/
def documentLines : Scan (List Line) := do
  let _ ← takes ['\uFEFF']
  white
  let lines ← many do
    let l ← anyLine
    white
    return l
  atEnd
  return lines.reduceOption

end BlockAccess.Toml
