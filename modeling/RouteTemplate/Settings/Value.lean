import RouteTemplate.Text

/- Plain data: what settings are read from and written to.

   A value is nothing, a truth value, a number, text, a list of values, or a record of named values. -/
namespace RouteTemplate

inductive Value where
  | null
  | bool (b : Bool)
  /-- A number; no setting is one, so its size does not matter. -/
  | number
  | text (t : Text)
  | list (items : List Value)
  | record (fields : List (Text × Value))
  deriving Inhabited

namespace Value

/-- The value of a field, if the record has it. -/
def field? (name : Text) : List (Text × Value) → Option Value
  | [] => none
  | (other, v) :: rest => if other = name then some v else field? name rest

/-- The text that the value is. -/
def text? : Value → Option Text
  | .text t => some t
  | _ => none

/-- The texts that the value lists. -/
def texts? : Value → Option (List Text)
  | .list items => items.mapM text?
  | _ => none

end Value

end RouteTemplate
