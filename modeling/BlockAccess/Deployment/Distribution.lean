import BlockAccess.Deployment

/-!
# Distributing keys

Keys are delivered to one target after the other. The first target that refuses them ends the
delivery: those before it have the keys, those after it do not. As an import replaces all keys, a
delivery may be repeated as a whole.
-/

namespace BlockAccess.Deployment

/-- Delivers keys to a target. -/
def importAt (e : KeyExport) : Target → Deploy (Except AccessError Unit)
  | .manager r => importKeys r e
  | .pool registry name => do
    match ((← get).registry registry).find name with
    | .error error => return .error error
    | .ok r => importKeys r e

/-- **Delivers keys to all targets,** up to the first that refuses them. -/
def distribute (e : KeyExport) : List Target → Deploy (Except AccessError Unit)
  | [] => return .ok ()
  | target :: rest => do
    match ← importAt e target with
    | .error error => return .error error
    | .ok () => distribute e rest

/-- The outcome of a delivery that came back. -/
def outcomeOf : Except AccessError Unit → DeliveryOutcome
  | .ok () => .accepted
  | .error e => .refused e

/-- Delivers the keys of a task on its channel. The task comes back with what its channel has
seen. -/
def deliver (task : RotationTask) (e : KeyExport) : Deploy (DeliveryOutcome × RotationTask) := do
  match task.channel with
  | .direct targets => return (outcomeOf (← distribute e targets), task)
  | .rehearsed plan target? =>
    let planned := plan.head?.getD .succeed
    let task := { task with
      channel := .rehearsed plan.tail target?
      deliveries := task.deliveries ++ [⟨planned, e.keyIds⟩] }
    match planned with
    | .succeed =>
      match target? with
      | none => return (.accepted, task)
      | some r => return (outcomeOf (← importKeys r e), task)
    | .fail => return (.refused (.configuration .controlPlaneUnavailable), task)
    | .breakDown => return (.brokeDown, task)

end BlockAccess.Deployment
