import BlockAccess.Toml.Scalar

/-!
# Dates in the shape of tables

A table whose first key is `dateKey` is not meant as a table. It is a date or time, written as a
text under this key, and what else it holds is not looked at.
-/

namespace BlockAccess.Toml

/-- The first key of a table that is a date. -/
def dateKey : String := "$__toml_private_datetime"

/-- The node under the first key, if the entries are those of a date in the shape of a table. -/
def tableDate? : Entries → Option Node
  | (k, v) :: _ => if k = dateKey then some v else none
  | [] => none

/-- Whether a node is a text that is a date or time. -/
def Node.isDate : Node → Bool
  | .scalar (.string s) => isDateTime ['T', 't', ' '] s.toList
  | .scalar _ | .array _ | .inlineTable _ | .table .. | .tableList _ => false

mutual

/-- Whether every table of a node that is meant as a date is one. -/
def Node.isSound : Node → Bool
  | .scalar _ => true
  | .array items => itemsAreSound items
  | .inlineTable entries | .table _ entries => tableIsSound entries
  | .tableList tables => tablesAreSound tables

/-- Whether all items of an array are sound. -/
def itemsAreSound : List Node → Bool
  | [] => true
  | n :: rest => n.isSound && itemsAreSound rest

/-- Whether a table is sound. -/
def tableIsSound : Entries → Bool
  | [] => true
  | (k, n) :: rest => if k = dateKey then n.isDate else n.isSound && entriesAreSound rest

/-- Whether all entries are sound. -/
def entriesAreSound : Entries → Bool
  | [] => true
  | (_, n) :: rest => n.isSound && entriesAreSound rest

/-- Whether all tables of a list are sound. -/
def tablesAreSound : List Entries → Bool
  | [] => true
  | entries :: rest => tableIsSound entries && tablesAreSound rest

end

end BlockAccess.Toml
