import RouteTemplate.Command.Assignments
import RouteTemplate.Session
import RouteTemplate.Text.Literal
import RouteTemplate.Text.Percent

/- Commands: what can be asked of a registry from outside.

   `fill` writes the target of a call from assignments, `identify` finds the method and the arguments of a
   target, and `shapes` lists what the targets of a method look like. Values are percent-coded on the way
   into a target and decoded on the way out of it, unless they are to be taken raw. -/
namespace RouteTemplate

/-- Why a command has no answer. -/
inductive CommandError where
  | unknownMethod (name : Text)
  | assignment (cause : AssignmentError)
  | endpoint (cause : EndpointError)
  | request (cause : RequestError)
  /-- The decoded value of an argument is not text. -/
  | notText (argument : Text)
  deriving DecidableEq

def CommandError.message : CommandError → Text
  | .unknownMethod name => "Unknown method ".toList ++ Text.quoted name
  | .assignment cause => cause.message
  | .endpoint cause => cause.message
  | .request cause => cause.message
  | .notText argument =>
    "Argument ".toList ++ Text.quoted argument ++ " is not valid UTF-8 once decoded".toList

/-- The method and the arguments of a call, read off its target. -/
structure Resolution where
  method : Text
  arguments : Dict Text
  deriving DecidableEq

/-- The arguments of a resolution, one on a line. -/
def Resolution.displayArguments (arguments : Dict Text) : Text :=
  let lines := arguments.entries.map fun (name, value) =>
    "\n    ".toList ++ Text.literal name ++ ": ".toList ++ Text.literal value
  if lines.isEmpty then ['\x7b', '\x7d']
  else '\x7b' :: Text.join [','] lines ++ "\n  ".toList ++ ['\x7d']

/-- A resolution as a JSON object, its arguments in the order of their names. -/
def Resolution.display (r : Resolution) : Text :=
  '\x7b' :: "\n  \"method\": ".toList ++ Text.literal r.method ++
    ",\n  \"arguments\": ".toList ++ displayArguments r.arguments ++ ['\n', '\x7d']

/-- The table with one more argument, its value decoded. -/
def decodeArgument (decoded : Dict Text) : Text × Text → Except CommandError (Dict Text)
  | (name, value) =>
    match Text.Percent.decode? value with
    | none => .error (.notText name)
    | some value => .ok (decoded.insert name value)

/-- Arguments with their values decoded, unless they are raw. -/
def decodeArguments (raw : Bool) (arguments : Bindings) : Except CommandError (Dict Text) :=
  if raw then .ok arguments else arguments.entries.foldlM decodeArgument .empty

namespace Session

/-- The target of a call to a method. Arguments that are not assigned are absent. -/
def fill (s : Session) (method : Text) (assignments : List Text) (raw : Bool) : Except CommandError Text :=
  match s.registry.find? method with
  | none => .error (.unknownMethod method)
  | some m =>
    match readAssignments assignments with
    | .error e => .error (.assignment e)
    | .ok values =>
      let coded := fun name =>
        (values.get? name).map fun value => if raw then value else Text.Percent.encode value
      (m.fill values.contains (Lookup.recording coded) []).1.mapError .endpoint

/-- The method that a target goes to and its arguments, or `none` when no method matches. -/
def identify (s : Session) (target : Text) (raw : Bool) :
    Except CommandError (Option Resolution) × Session :=
  match s.routeTarget target with
  | (.error e, s) => (.error (.request e), s)
  | (.ok none, s) => (.ok none, s)
  | (.ok (some found), s) =>
    ((decodeArguments raw found.arguments).map fun arguments => some ⟨found.method.name, arguments⟩, s)

/-- The leaves of a method, one on a line. -/
def shapes (s : Session) (method : Text) : Except CommandError (List Text) × Session :=
  match s.registry.find? method with
  | none => (.error (.unknownMethod method), s)
  | some m =>
    let (leaves, s) := s.enumerate m
    (.ok (leaves.toList.map (·.display)), s)

end Session

end RouteTemplate
