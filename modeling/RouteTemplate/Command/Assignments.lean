import RouteTemplate.Dict

/- Assignments: arguments given as `name=value`.

   The name is what stands before the first `=` and the value all after it, so a value may hold further
   ones. A list of assignments makes a table, in which no name may be given twice; the first assignment
   that is wrong is the one complained about. -/
namespace RouteTemplate

/-- What is wrong with an assignment. -/
inductive AssignmentError where
  /-- There is no `=`. -/
  | noValue (assignment : Text)
  /-- Nothing stands before the `=`. -/
  | noName (assignment : Text)
  /-- An earlier assignment has the name. -/
  | repeated (name : Text)
  deriving DecidableEq

def AssignmentError.message : AssignmentError → Text
  | .noValue assignment =>
    "Invalid argument ".toList ++ Text.quoted assignment ++ ": expected 'name=value'".toList
  | .noName assignment => "Invalid argument ".toList ++ Text.quoted assignment ++ ": empty name".toList
  | .repeated name => "Argument ".toList ++ Text.quoted name ++ " given more than once".toList

/-- The table with one more assignment. -/
def assign (values : Dict Text) (assignment : Text) : Except AssignmentError (Dict Text) :=
  match Text.splitOnce '=' assignment with
  | none => .error (.noValue assignment)
  | some ([], _) => .error (.noName assignment)
  | some (name, value) =>
    if values.contains name then .error (.repeated name) else .ok (values.insert name value)

/-- The table that the assignments make. -/
def readAssignments (assignments : List Text) : Except AssignmentError (Dict Text) :=
  assignments.foldlM assign .empty

end RouteTemplate
