import RouteTemplate.Settings
import RouteTemplate.Yaml.Node

/- Settings written in YAML.

   Where text is wanted, a scalar stands for its text, whatever it looks like. An endpoint is not declared
   when its plain scalar is empty or means null, and a list is empty when its plain scalar is. A record may
   not give a setting twice; fields with other names do not count. A list does not stand for a record. -/
namespace RouteTemplate

open Yaml

namespace Yaml.Node

/-- The text of a scalar. -/
def text? : Node → Option Text
  | .scalar _ t => some t
  | _ => none

/-- A text that may be declared absent. -/
def optionalText? : Node → Option (Option Text)
  | .scalar true t =>
    if ["".toList, "~".toList, "null".toList, "Null".toList, "NULL".toList].contains t then some none
    else some (some t)
  | .scalar false t => some (some t)
  | _ => none

/-- The items of a list, each read by `read`. -/
def listOf? {α : Type} (read : Node → Option α) : Node → Option (List α)
  | .list items => items.mapM read
  | .scalar true [] => some []
  | _ => none

/-- The fields of a record by name, if every key is a scalar and no setting among `known` is given twice. -/
def fields? (known : List Text) (fields : List (Node × Node)) : Option (List (Text × Node)) := do
  let named ← fields.mapM fun (key, value) => key.text?.map (·, value)
  if givenOnce known named then some named else none

/-- A field read by `read`, or the default when the record does not have it. -/
def fieldOr {α : Type} (fields : List (Text × Node)) (name : Text) (read : Node → Option α)
    (default : α) : Option α :=
  match fields.lookup name with
  | none => some default
  | some n => read n

end Yaml.Node

open Yaml.Node

def Declaration.ofNode? : Node → Option Declaration
  | .record fields => do
    let fields ← fields? Declaration.fieldNames fields
    let name ← (fields.lookup Field.name).bind text?
    let template ← Yaml.Node.fieldOr fields Field.template Yaml.Node.optionalText? none
    let arguments ← Yaml.Node.fieldOr fields Field.arguments (listOf? text?) []
    return ⟨name, template, arguments⟩
  | _ => none

def Settings.ofNode? : Node → Option Settings
  | .scalar true [] => some ⟨[], []⟩
  | .record fields => do
    let fields ← fields? Settings.fieldNames fields
    let root ← Yaml.Node.fieldOr fields Field.root text? []
    let methods ← Yaml.Node.fieldOr fields Field.methods (listOf? Declaration.ofNode?) []
    return ⟨root, methods⟩
  | _ => none

/-- The settings that a YAML text describes. -/
def Settings.ofYaml? (t : Text) : Option Settings := (Node.ofText? t).bind Settings.ofNode?

end RouteTemplate
