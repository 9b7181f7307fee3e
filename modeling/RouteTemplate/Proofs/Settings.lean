import Mathlib.Data.List.Forall2
import RouteTemplate.Settings

/- Settings, written and read back.

   Settings and each of their declarations may be written as a record or by position (`Settings.Written`,
   `Declaration.Written`). A record does without a template that is not declared and without an empty list of
   arguments, and its fields, whose names differ, stand in any order and beside others; by position every field stands
   in its place. What is left out is read as what it stands for, so that every form is read as what was written,
   whichever form each declaration has (`Settings.ofValue?_written`). -/
namespace RouteTemplate

open Value

/-! ## Forms -/

/-- How a declaration may be written. -/
inductive Declaration.Written (d : Declaration) : Value → Prop
  /-- Its fields by name, except for a template that there is not and for arguments that are none. -/
  | record {fields : List (Text × Value)} (distinct : (fields.map (·.1)).Nodup)
      (name : field? Field.name fields = some (.text d.name))
      (template : field? Field.template fields = d.template.map .text)
      (arguments : field? Field.arguments fields =
        if d.arguments = [] then none else some (.list (d.arguments.map .text))) : d.Written (.record fields)
  /-- Its fields by position, with `null` for a template that there is not. -/
  | positional : d.Written (.list [.text d.name, (d.template.map .text).getD .null, .list (d.arguments.map .text)])

/-- How settings may be written, each declaration in a form of its own. -/
inductive Settings.Written (s : Settings) : Value → Prop
  | record {fields : List (Text × Value)} {methods : List Value} (distinct : (fields.map (·.1)).Nodup)
      (each : List.Forall₂ Declaration.Written s.methods methods)
      (root : field? Field.root fields = some (.text s.root))
      (methods_eq : field? Field.methods fields = some (.list methods)) : s.Written (.record fields)
  | positional {methods : List Value} (each : List.Forall₂ Declaration.Written s.methods methods) :
      s.Written (.list [.text s.root, .list methods])

/-! ## Reading -/

/-- Items that are read as the members of a list are read as the list. -/
theorem mapM_eq_some_of_forall₂ {α : Type} {read : Value → Option α} {l : List α} {items : List Value}
    (h : List.Forall₂ (fun a v => read v = some a) l items) : items.mapM read = some l := by
  induction h with
  | nil => rfl
  | cons hread _ ih =>
    rw [List.mapM_cons, hread, ih]
    rfl

theorem Value.texts?_list (l : List Text) : texts? (.list (l.map .text)) = some l := by
  refine mapM_eq_some_of_forall₂ (List.forall₂_map_right_iff.mpr ?_)
  exact List.forall₂_same.mpr fun _ _ => rfl

theorem givenOnce_of_nodup {α : Type} {fields : List (Text × α)} (distinct : (fields.map (·.1)).Nodup)
    (names : List Text) : givenOnce names fields = true := by
  rw [givenOnce, List.all_eq_true]
  exact fun name _ => decide_eq_true (List.nodup_iff_count.mp distinct name)

theorem optionalText?_getD (template : Option Text) :
    optionalText? ((template.map .text).getD .null) = some template := by
  cases template <;> rfl

namespace Declaration

variable {d : Declaration} {v : Value}

theorem fieldOr_template {fields : List (Text × Value)} (h : field? Field.template fields = d.template.map .text) :
    fieldOr fields Field.template optionalText? none = some d.template := by
  rw [fieldOr, h]
  cases d.template <;> rfl

theorem fieldOr_arguments {fields : List (Text × Value)} (h : field? Field.arguments fields =
    if d.arguments = [] then none else some (.list (d.arguments.map .text))) :
    fieldOr fields Field.arguments texts? [] = some d.arguments := by
  by_cases empty : d.arguments = []
  · rw [fieldOr, h, if_pos empty, empty]
  · rw [fieldOr, h, if_neg empty]
    exact texts?_list d.arguments

theorem ofValue?_of_written (h : d.Written v) : ofValue? v = some d := by
  cases h with
  | record distinct name template arguments =>
    rw [ofValue?, if_pos (givenOnce_of_nodup distinct _), name, fieldOr_template template, fieldOr_arguments arguments]
    rfl
  | positional =>
    rw [ofValue?, optionalText?_getD, texts?_list]
    rfl

theorem written_toValue (d : Declaration) : d.Written d.toValue := by
  obtain ⟨name, template, arguments⟩ := d
  cases template with
  | none =>
    cases arguments with
    | nil => exact .record (show [Field.name].Nodup by decide) rfl rfl rfl
    | cons argument rest => exact .record (show [Field.name, Field.arguments].Nodup by decide) rfl rfl rfl
  | some template =>
    cases arguments with
    | nil => exact .record (show [Field.name, Field.template].Nodup by decide) rfl rfl rfl
    | cons argument rest =>
      exact .record (show [Field.name, Field.template, Field.arguments].Nodup by decide) rfl rfl rfl

theorem written_toPositional (d : Declaration) : d.Written d.toPositional := .positional

theorem listOfValue?_of_written {l : List Declaration} {items : List Value} (h : List.Forall₂ Written l items) :
    listOfValue? (.list items) = some l :=
  mapM_eq_some_of_forall₂ (h.imp fun _ _ => ofValue?_of_written)

end Declaration

namespace Settings

variable {s : Settings} {v : Value}

theorem ofValue?_of_written (h : s.Written v) : ofValue? v = some s := by
  cases h with
  | record distinct each root methods_eq =>
    rw [ofValue?, if_pos (givenOnce_of_nodup distinct _), fieldOr, fieldOr, root, methods_eq]
    simp only [Declaration.listOfValue?_of_written each]
    rfl
  | positional each =>
    rw [ofValue?, Declaration.listOfValue?_of_written each]
    rfl

theorem written_toValue (s : Settings) : s.Written s.toValue := by
  refine .record (show [Field.root, Field.methods].Nodup by decide) ?each rfl rfl
  exact List.forall₂_map_right_iff.mpr (List.forall₂_same.mpr fun d _ => d.written_toValue)

/-- **Settings that are written are read back.** Whether the settings are written as a record or by position, and each
    declaration in them as a record or by position, they are read as what was written. Records as they are written leave
    out just a template that is not declared and arguments that are none. So whatever value settings are read from, once
    they are written they are read again unchanged. -/
theorem ofValue?_written :
    (∀ (s : Settings) (v : Value), s.Written v → ofValue? v = some s) ∧
    (∀ s : Settings, s.Written s.toValue) ∧
    (∀ d : Declaration, d.Written d.toValue ∧ d.Written d.toPositional) ∧
    ∀ v : Value, ((ofValue? v).bind fun s => ofValue? s.toValue) = ofValue? v := by
  refine ⟨fun s v => ofValue?_of_written, written_toValue,
    fun d => ⟨d.written_toValue, d.written_toPositional⟩, fun v => ?_⟩
  cases ofValue? v with
  | none => rfl
  | some s => exact ofValue?_of_written (written_toValue s)

/-- By position, with one method by position and one as a record with a field of no meaning. -/
example : ofValue? (.list [.text "p".toList, .list [.list [.text "ping".toList, .null, .list []],
    .record [("note".toList, .number), (Field.name, .text "get".toList), (Field.template, .text "a/\x7bid\x7d".toList),
      (Field.arguments, .list [.text "id".toList])]]]) =
    some ⟨"p".toList, [⟨"ping".toList, none, []⟩, ⟨"get".toList, some "a/\x7bid\x7d".toList, ["id".toList]⟩]⟩ := rfl

end Settings

end RouteTemplate
