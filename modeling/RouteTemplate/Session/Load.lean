import RouteTemplate.Session
import RouteTemplate.Settings.Yaml

/- Loading settings into a session.

   Declarations are registered in order, and the first that cannot be registered ends the loading: there
   is then no session, only the error, tagged with the name of the method. What was reported up to there
   stays reported. -/
namespace RouteTemplate

/-- Why settings could not be loaded. -/
inductive LoadError where
  /-- The text is not a settings file. -/
  | notSettings
  /-- A declaration could not be registered. -/
  | declaration (method : Text) (cause : EndpointError)
  deriving DecidableEq

def LoadError.message : LoadError → Text
  | .notSettings => "Invalid yaml configuration".toList
  | .declaration method cause =>
    "Invalid declaration for method ".toList ++ Text.quoted method ++ ": ".toList ++ cause.message

namespace Session

/-- Registers declarations in turn, up to the first that fails. -/
def registerAll : List Declaration → Session → Except LoadError Session × List Event
  | [], s => (.ok s, s.log)
  | d :: rest, s =>
    match s.register d with
    | (.error e, s) => (.error (.declaration d.name e), s.log)
    | (.ok _, s) => registerAll rest s

/-- The session that the settings describe, and what was reported. -/
def load (settings : Settings) : Except LoadError Session × List Event :=
  registerAll settings.methods (start settings.root)

/-- The session that a settings file describes, and what was reported. -/
def loadYaml (t : Text) : Except LoadError Session × List Event :=
  match Settings.ofYaml? t with
  | none => (.error .notSettings, [])
  | some settings => load settings

end Session

end RouteTemplate
