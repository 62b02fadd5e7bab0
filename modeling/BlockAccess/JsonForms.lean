import BlockAccess.AccessError
import BlockAccess.Json.Printer
import BlockAccess.Json.Shape
import BlockAccess.Key

/-!
# JSON forms of the small types

Modes and roles are written as their names, a block as a record.
-/

namespace BlockAccess

/-- The value that a JSON text describes, if `read?` can make one of it. -/
def ofJsonText {α : Type} (read? : Json.Value → Option α) (text : String) :
    Except AccessError α :=
  match (Json.parse? none text).bind read? with
  | some a => .ok a
  | none => .error .unreadableJson

namespace AccessMode

def jsonText (m : AccessMode) : String := Json.quoted m.name

def ofJson (text : String) : Except AccessError AccessMode :=
  ofJsonText (fun v => (Json.choice? v).bind ofName?) text

end AccessMode

namespace Role

def jsonText (r : Role) : String := Json.quoted r.name

def ofJson (text : String) : Except AccessError Role :=
  ofJsonText (fun v => (Json.choice? v).bind ofName?) text

end Role

namespace Block

/-- The names of the fields in JSON. -/
def fieldNames : List String := ["pool_id", "block_id"]

def jsonText (b : Block) : String :=
  Json.objectText [("pool_id", Json.quoted b.pool), ("block_id", toString b.id.toInt)]

/-- The block that a JSON value describes. -/
def ofValue? (v : Json.Value) : Option Block :=
  match Json.fields? fieldNames v with
  | some [some pool, some id] => do return ⟨← pool.text?, ← id.int64?⟩
  | _ => none

def ofJson (text : String) : Except AccessError Block := ofJsonText ofValue? text

end Block

/-- The key that a JSON text describes. -/
def BlockKey.ofJson (text : String) : Except AccessError BlockKey :=
  ofJsonText BlockKey.ofValue? text

end BlockAccess
