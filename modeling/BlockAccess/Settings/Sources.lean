import BlockAccess.Settings
import BlockAccess.Settings.File
import BlockAccess.Settings.Name

/-!
# Reading settings from files and variables

Settings are put together in layers: what is standard, then a file, then the variables of the
environment. A later layer wins. Names that mean nothing are passed over, and no setting has
parts.

Whatever is left standing has to make sense; only then are the settings validated as a whole.
-/

namespace BlockAccess.Settings

/-! ## Variables -/

/-- The names of variables that speak of settings begin so by default. -/
def standardPrefix : String := "BLOCK_TOKEN"

/-- The layer of the variables whose names begin with the given text and an underscore. -/
def layerOfEnvironment (start : String) (environment : List (String × String)) : Layer :=
  let start := (lowerCase (start ++ "_")).toList
  environment.filterMap fun (name, value) =>
    let name := (lowerCase name).toList
    if start.isPrefixOf name then
      some (String.ofList (name.drop start.length), Loose.ofVariable value)
    else none

/-! ## Putting the layers together -/

/-- What a name in a layer says about a setting, if it says something. -/
def effect? (setting : String) (name : String) (value : Loose) : Option Loose :=
  let name := Name.ofString name
  if name.setting = setting then some (if name.isPart then .compound else value) else none

/-- What the layers say about a setting, one word after the other. -/
def said? (layers : Layer) (setting : String) : Option Loose :=
  let words := layers.filterMap fun (name, value) => effect? setting name value
  words.foldl (fun said? word => some (word.after said?)) none

/-- The settings that layers make. -/
def ofLayer? (layers : Layer) : Option Settings :=
  let read {α : Type} (setting : String) (standard : α) (value? : Loose → Option α) : Option α :=
    match said? layers setting with
    | none => some standard
    | some said => value? said
  return {
    interval := ← read "key_update_interval_ms" standard.interval Loose.uint64?
    lifetime := ← read "token_lifetime_ms" standard.lifetime Loose.uint64?
    allowSlaveIssuance := ← read "allow_slave_issuance" standard.allowSlaveIssuance Loose.bool?
    maxRetained := ← read "max_retained_keys" standard.maxRetained Loose.uint64? }

/-- What settings are read from. -/
structure Sources where
  /-- The files there are, with their contents. -/
  files : List (String × String)
  /-- The file to be read, if any. -/
  file? : Option String
  /-- What the names of variables begin with. -/
  start : String
  environment : List (String × String)

/-- The settings that the sources say, before they are validated. -/
def Sources.read? (s : Sources) : Option Settings := do
  let fromFile ← match s.file? with
    | none => some []
    | some name => (findFile? s.files name).bind fun (format, content) =>
        layerOfFile? format content
  ofLayer? (fromFile ++ layerOfEnvironment s.start s.environment)

/-- **Loads settings,** and accepts only such as can be worked with. -/
def load (s : Sources) : Except AccessError Settings := do
  match s.read? with
  | none => throw .unreadableSettings
  | some loaded =>
    loaded.validate
    return loaded

end BlockAccess.Settings
