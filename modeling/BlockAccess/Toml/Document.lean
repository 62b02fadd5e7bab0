import BlockAccess.Toml.DateTable
import BlockAccess.Toml.Syntax

/-!
# TOML documents

The lines of a document build a tree of tables. No table is begun twice, no key is set twice, and
what is closed stays closed: a header opens a table that does not exist yet, or one that was only
named on the way to another; a dotted key opens tables that do not exist yet, and adds only to
tables that were opened by dotted keys.
-/

namespace BlockAccess.Toml

/-- The tables named on the way: the newest table of a list stands for the list. -/
def openTable? : Node → Option (Origin × Entries × (Entries → Node))
  | .table origin entries => some (origin, entries, .table origin)
  | .tableList (entries :: older) =>
    some (.header, entries, fun changed => .tableList (changed :: older))
  | .tableList [] | .scalar _ | .array _ | .inlineTable _ => none

/-- Changes the table at the end of a path of headers. Tables that do not exist are named on the
way. -/
def changeAt (change : Entries → Option Entries) (entries : Entries) :
    List String → Option Entries
  | [] => change entries
  | k :: rest => do
    match entries.lookup k with
    | none => return setEntry entries k (.table .onTheWay (← changeAt change [] rest))
    | some node =>
      let (_, inner, rebuild) ← openTable? node
      return setEntry entries k (rebuild (← changeAt change inner rest))

/-- Sets a key inside a table. Tables named by the parts of a dotted key come about by it, unless
they exist and have no header of their own; the innermost must have come about by a dotted key. -/
def addEntry (value : Node) (entries : Entries) : List String → Option Entries
  | [] => none
  | [k] =>
    match entries.lookup k with
    | none => some (setEntry entries k value)
    | some _ => none
  | k :: rest => do
    match entries.lookup k with
    | none => return setEntry entries k (.table .dottedKey (← addEntry value [] rest))
    | some node =>
      match node with
      | .table .header _ => none
      | .table .onTheWay inner =>
        if rest.length = 1 then none
        else return setEntry entries k (.table .onTheWay (← addEntry value inner rest))
      | _ =>
        let (_, inner, rebuild) ← openTable? node
        if rest.length = 1 && !(match node with | .table .. => true | _ => false) then none
        else return setEntry entries k (rebuild (← addEntry value inner rest))

/-- Opens the table of a header. A table that was named before it gets its header moves behind the
other entries. -/
def openHeader (k : String) (entries : Entries) : Option Entries :=
  match entries.lookup k with
  | none => some (setEntry entries k (.table .header []))
  | some (.table .onTheWay inner) =>
    some (entries.filter (·.1 ≠ k) ++ [(k, .table .header inner)])
  | some _ => none

/-- Opens a new table of a list. -/
def openListHeader (k : String) (entries : Entries) : Option Entries :=
  match entries.lookup k with
  | none => some (setEntry entries k (.tableList [[]]))
  | some (.tableList tables) => some (setEntry entries k (.tableList ([] :: tables)))
  | some _ => none

/-- A document while it is built, and the path of the table that keys are set in. -/
structure Building where
  root : Entries
  path : List String

/-- Adds a line to a document. -/
def Building.add (b : Building) : Line → Option Building
  | .header path => do
    let last ← path.getLast?
    return ⟨← changeAt (openHeader last) b.root path.dropLast, path⟩
  | .listHeader path => do
    let last ← path.getLast?
    return ⟨← changeAt (openListHeader last) b.root path.dropLast, path⟩
  | .entry path value =>
    (changeAt (fun entries => addEntry value entries path) b.root b.path).map fun root =>
      { b with root }

/-- **The entries that a TOML text sets,** at the root of its tree. -/
def parse? (text : String) : Option Entries := do
  let lines ← documentLines.take? text
  let b ← lines.foldlM Building.add ⟨[], []⟩
  if tableIsSound b.root then return b.root else none

end BlockAccess.Toml
