/-!
# Roles

A *master* makes keys and hands them out; a *slave* takes over the keys of a master. Both verify
tokens.
-/

namespace BlockAccess

/-- The side of the key exchange that a manager is on. -/
inductive Role
  | master
  | slave
  deriving DecidableEq, Repr

instance : Inhabited Role := ⟨.slave⟩

namespace Role

/-- The name of a role. -/
def name : Role → String
  | master => "master"
  | slave => "slave"

/-- The role of the given name. -/
def ofName? (name : String) : Option Role := [master, slave].find? (·.name = name)

theorem ofName?_name (r : Role) : ofName? r.name = some r := by cases r <;> decide

end Role

end BlockAccess
