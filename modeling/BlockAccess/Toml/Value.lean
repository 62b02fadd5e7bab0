import BlockAccess.Decimal

/-!
# TOML values

The scalars of TOML 1.0 and the tree that a document builds. Tables remember how they came about,
because that decides who may still add to them.
-/

namespace BlockAccess.Toml

/-- A value without parts. -/
inductive Scalar
  | string (s : String)
  | integer (n : Int)
  | float (x : Float)
  | boolean (b : Bool)
  /-- A date, a time or both, as written. -/
  | dateTime (text : String)

/-- How a table has come about. -/
inductive Origin
  /-- It has a header of its own. -/
  | header
  /-- It was named on the way to a table that has a header. -/
  | onTheWay
  /-- It was named by a dotted key. -/
  | dottedKey
  deriving DecidableEq, Repr

/-- A node of a document. The entries of a table stand in the order in which they are written. -/
inductive Node
  | scalar (s : Scalar)
  | array (items : List Node)
  /-- A table between braces. It is closed. -/
  | inlineTable (entries : List (String × Node))
  | table (origin : Origin) (entries : List (String × Node))
  /-- The tables of a list with headers of their own, the last one first. -/
  | tableList (tables : List (List (String × Node)))

/-- The entries of a table. -/
abbrev Entries := List (String × Node)

instance : Inhabited Node := ⟨.array []⟩

/-- The entries with the entry of a key changed, or added at the end. -/
def setEntry (entries : Entries) (key : String) (node : Node) : Entries :=
  match entries with
  | [] => [(key, node)]
  | (k, n) :: rest => if k = key then (k, node) :: rest else (k, n) :: setEntry rest key node

end BlockAccess.Toml
