import BlockAccess.Json.Float
import BlockAccess.Json.Parser
import BlockAccess.Settings.Loose
import BlockAccess.Toml.Document

/-!
# Files of settings

How a file is found by a path, and what it says. A file is a table at its root, in TOML or in JSON;
its ending tells which.
-/

namespace BlockAccess.Settings

/-- Names with their values, in the order in which they are set. -/
abbrev Layer := List (String × Loose)

/-- The formats of files. -/
inductive FileFormat
  | toml
  | json
  deriving DecidableEq, Repr

/-! ## Finding a file -/

/-- The endings of file names, with their formats. -/
def FileFormat.endings : List (String × FileFormat) := [("toml", toml), ("json", json)]

/-- The ending of a file name: what follows its last point, if something is in front of it. -/
def ending (name : String) : String :=
  let reversed := name.toList.reverse
  match reversed.dropWhile (· ≠ '.') with
  | _ :: _ :: _ => String.ofList (reversed.takeWhile (· ≠ '.')).reverse
  | _ => ""

/-- No path of so many bytes means a file. -/
def maxPathBytes : Nat := 4096

/-- The steps of a path, between its slashes. -/
def pathSteps (path : String) : List String := path.splitOn "/"

/-- Whether a step of a path stays where it is. -/
def staysThere (step : String) : Bool := step = "" || step = "."

/-- The name that a path ends in, if the path does not leave the directory: nothing but steps that
stay there may come before it. -/
def nameInDirectory? (path : String) : Option String :=
  let steps := pathSteps path
  match steps.getLast? with
  | some name =>
    if path.startsWith "/" || !steps.dropLast.all staysThere || staysThere name || name = ".." then
      none
    else some name
  | none => none

/-- The name that is left of a path without the steps that stay where they are, if only one is and
the path does not leave the directory. -/
def bareName? (path : String) : Option String :=
  match (pathSteps path).filter (!staysThere ·) with
  | [name] => if path.startsWith "/" || name = ".." then none else some name
  | _ => none

/-- The content of the file of a directory that has the given name. -/
def contentOf? (files : List (String × String)) (name : String) : Option String :=
  (files.find? fun (path, _) => nameInDirectory? path = some name).map (·.2)

/-- **The file that a path means** among the files of a directory. If the path is that of a file,
the file must have an ending that tells its format. If it is not, the endings are tried one by one,
and it does not matter how the path ends then. -/
def findFile? (files : List (String × String)) (path : String) : Option (FileFormat × String) :=
  let named? := (nameInDirectory? path).bind fun name =>
    (contentOf? files name).map fun content => (name, content)
  if maxPathBytes ≤ path.utf8ByteSize then none
  else match named? with
  | some (name, content) =>
    (FileFormat.endings.lookup (ending name)).map fun format => (format, content)
  | none =>
    (bareName? path).bind fun name =>
      FileFormat.endings.findSome? fun (suffix, format) =>
        (contentOf? files (name ++ "." ++ suffix)).map fun content => (format, content)

/-! ## What a file says -/

/-- How the entries of a TOML table read as the value of a setting. -/
def ofTomlTable (entries : Toml.Entries) : Loose :=
  match entries with
  | [] => .emptyTable
  | _ :: _ =>
    match Toml.tableDate? entries with
    | some (.scalar (.string s)) => .text s
    | _ => .compound

/-- How a TOML node reads as the value of a setting. -/
def ofToml : Toml.Node → Loose
  | .scalar (.string s) => .text s
  | .scalar (.integer n) => .integer n
  | .scalar (.float x) => .float x
  | .scalar (.boolean b) => .bool b
  | .scalar (.dateTime s) => .text s
  | .inlineTable entries | .table _ entries => ofTomlTable entries
  | .array _ | .tableList _ => .compound

/-- The layer of a TOML text. Its root must not be a date in the shape of a table. -/
def layerOfToml? (content : String) : Option Layer := do
  let entries ← Toml.parse? content
  if (Toml.tableDate? entries).isSome then none
  else return entries.map fun (name, node) => (name, ofToml node)

/-- How a JSON value reads as the value of a setting. A string must be a text. -/
def ofJsonValue? : Json.Value → Option Loose
  | .null => some .null
  | .bool b => some (.bool b)
  | .number n =>
    match n.int?.filter fitsInt64 with
    | some i => some (.integer i)
    | none => n.float?.map .float
  | .string pieces => (Json.textOf? pieces).map .text
  | .object [] => some .emptyTable
  | .array _ | .object _ => some .compound

/-- A layer in which a name has a given value, in the place of the one that it had before. -/
def setName (layer : Layer) (name : String) (value : Loose) : Layer :=
  match layer with
  | [] => [(name, value)]
  | (n, v) :: rest => if n = name then (n, value) :: rest else (n, v) :: setName rest name value

/-- The layer of a JSON text. Its root must be an object, all of whose strings are texts and all of
whose numbers are in range. Of members with one key the last one counts. -/
def layerOfJson? (content : String) : Option Layer :=
  match Json.parse? (some Json.maxNesting) content with
  | some (.object members) =>
    if Json.membersSound members then do
      let pairs ← members.mapM fun (key, v) => return (← Json.textOf? key, ← ofJsonValue? v)
      return pairs.foldl (fun layer (name, value) => setName layer name value) []
    else none
  | _ => none

/-- The layer of a file. -/
def layerOfFile? (format : FileFormat) (content : String) : Option Layer :=
  match format with
  | .toml => layerOfToml? content
  | .json => layerOfJson? content

end BlockAccess.Settings
