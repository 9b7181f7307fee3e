import RouteTemplate.Registry
import RouteTemplate.Settings.Value

/- Settings: a routing prefix and the declarations of methods.

   Settings are read from plain data, either as records or by position. A record may leave out the prefix,
   the methods, and a method's endpoint and arguments, and may give none of them twice; fields with other
   names do not count. By position the fields come in the order prefix, methods, and name, endpoint,
   arguments, and only a prefix, methods or arguments at the end may be left out; an endpoint that is not
   declared is `null`. `toValue` writes records, without an endpoint that is not declared and without an
   empty list of arguments. -/
namespace RouteTemplate

structure Settings where
  root : Text
  methods : List Declaration
  deriving DecidableEq

namespace Field

def root : Text := "prefix".toList
def methods : Text := "methods".toList
def name : Text := "name".toList
def template : Text := "endpoint".toList
def arguments : Text := "arguments".toList

end Field

open Value

/-- Is none of the names given to two fields? -/
def givenOnce {α : Type} (names : List Text) (fields : List (Text × α)) : Bool :=
  names.all fun name => (fields.map (·.1)).count name ≤ 1

/-- An endpoint's template, which may be declared absent. -/
def optionalText? : Value → Option (Option Text)
  | .null => some none
  | .text t => some (some t)
  | _ => none

/-- A field read by `read`, or the default when the record does not have it. -/
def fieldOr {α : Type} (fields : List (Text × Value)) (name : Text) (read : Value → Option α)
    (default : α) : Option α :=
  match field? name fields with
  | none => some default
  | some v => read v

namespace Declaration

/-- The names of a declaration's fields. -/
def fieldNames : List Text := [Field.name, Field.template, Field.arguments]

def ofValue? : Value → Option Declaration
  | .record fields =>
    if givenOnce fieldNames fields then do
      let name ← (field? Field.name fields).bind text?
      let template ← fieldOr fields Field.template optionalText? none
      let arguments ← fieldOr fields Field.arguments texts? []
      return ⟨name, template, arguments⟩
    else none
  | .list [name, template] => do
    return ⟨← name.text?, ← optionalText? template, []⟩
  | .list [name, template, arguments] => do
    return ⟨← name.text?, ← optionalText? template, ← arguments.texts?⟩
  | _ => none

def toValue (d : Declaration) : Value :=
  .record ([(Field.name, .text d.name)] ++
    (d.template.toList.map fun t => (Field.template, .text t)) ++
    if d.arguments.isEmpty then [] else [(Field.arguments, .list (d.arguments.map .text))])

/-- The fields of a declaration in order, with `null` for a template that is not declared. -/
def toPositional (d : Declaration) : Value :=
  .list [.text d.name, (d.template.map Value.text).getD .null, .list (d.arguments.map .text)]

/-- Several declarations. -/
def listOfValue? : Value → Option (List Declaration)
  | .list items => items.mapM ofValue?
  | _ => none

end Declaration

namespace Settings

/-- The names of the fields of settings. -/
def fieldNames : List Text := [Field.root, Field.methods]

def ofValue? : Value → Option Settings
  | .record fields =>
    if givenOnce fieldNames fields then do
      let root ← fieldOr fields Field.root text? []
      let methods ← fieldOr fields Field.methods Declaration.listOfValue? []
      return ⟨root, methods⟩
    else none
  | .list [] => some ⟨[], []⟩
  | .list [root] => do
    return ⟨← root.text?, []⟩
  | .list [root, methods] => do
    return ⟨← root.text?, ← Declaration.listOfValue? methods⟩
  | _ => none

def toValue (s : Settings) : Value :=
  .record [(Field.root, .text s.root), (Field.methods, .list (s.methods.map (·.toValue)))]

end Settings

end RouteTemplate
