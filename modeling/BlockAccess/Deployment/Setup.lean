import BlockAccess.Deployment
import BlockAccess.Settings.Sources

/-!
# Setting up

Settings are checked before anything is made from them. Checking leaves a notice in the log about
settings that are accepted and yet unusual; settings that are refused leave none.
-/

namespace BlockAccess.Deployment

/-- Checks settings, and reports what is unusual about them. -/
def approve (s : Settings) : Deploy (Except AccessError Unit) := do
  report s.notices
  return s.validate

/-- **Loads settings** and checks them. -/
def loadSettings (sources : Settings.Sources) : Deploy (Except AccessError Settings) := do
  match Settings.load sources with
  | .error e => return .error e
  | .ok s =>
    report s.notices
    return .ok s

end BlockAccess.Deployment
