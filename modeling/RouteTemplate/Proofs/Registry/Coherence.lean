import Mathlib.Data.List.Nodup
import RouteTemplate.Registry
import RouteTemplate.Proofs.Template.Faults

/- A registry and its table of places.

   Methods stand in a list and are found by a table, and a registration writes to both. The two say the same: the
   table has a place for a name exactly when the method in that place has the name (`Registry.Coherent`). A call
   comes out in one of three ways (`Registry.register_cases`), and in each of them this is kept
   (`Registry.Coherent.register`). Hence no name stands twice, no place is out of range, and what is found by a
   name is the method that has it. -/
namespace RouteTemplate

theorem Endpoint.checkParameters_eq_ok_iff {e : Endpoint} (method : Text) {known : Text → Bool} :
    e.checkParameters method known = .ok () ↔ ∀ name ∈ e.parameters, known name = true := by
  unfold checkParameters
  split
  · next name hfound =>
    refine iff_of_false (by simp) fun h => ?_
    have unknown := List.find?_some hfound
    rw [h name (List.mem_of_find?_eq_some hfound)] at unknown
    cases unknown
  · next hnone =>
    refine iff_of_true rfl fun name hm => ?_
    simpa using List.find?_eq_none.mp hnone name hm

namespace Method

variable {root : Text} {d : Declaration} {m : Method} {fault : EndpointError}

/-- The arguments that a declaration makes known: its own and the receivers. -/
def known (d : Declaration) : SortedSet Text :=
  SortedSet.ofList (d.arguments ++ [Placeholder.instanceReceiver.text, Placeholder.extensionReceiver.text])

theorem declare_eq (root : Text) (d : Declaration) :
    declare root d = match Endpoint.parse (d.template.getD defaultTemplate) with
      | .error fault => .error fault
      | .ok read =>
        match (read.substitute d.name root).checkParameters d.name (· ∈ known d) with
        | .error fault => .error fault
        | .ok () => .ok ⟨d.name, known d, read.substitute d.name root⟩ :=
  rfl

theorem declare_eq_ok_iff : declare root d = .ok m ↔ ∃ read,
    Endpoint.parse (d.template.getD defaultTemplate) = .ok read ∧
      m = ⟨d.name, known d, read.substitute d.name root⟩ ∧ ∀ name ∈ m.endpoint.parameters, name ∈ m.arguments := by
  rw [declare_eq]
  cases Endpoint.parse (d.template.getD defaultTemplate) with
  | error fault => simp
  | ok read =>
    simp only [Except.ok.injEq, exists_eq_left']
    cases hcheck : (read.substitute d.name root).checkParameters d.name (· ∈ known d) with
    | error fault =>
      refine iff_of_false (by simp) fun h => ?_
      obtain ⟨rfl, hknown⟩ := h
      have ok := (Endpoint.checkParameters_eq_ok_iff d.name).mpr fun name hm =>
        decide_eq_true (hknown name hm)
      rw [hcheck] at ok
      cases ok
    | ok _ =>
      have all := (Endpoint.checkParameters_eq_ok_iff d.name).mp hcheck
      refine ⟨fun h => ?_, fun h => by rw [h.1]⟩
      cases h
      exact ⟨rfl, fun name hm => of_decide_eq_true (all name hm)⟩

theorem name_of_declare (h : declare root d = .ok m) : m.name = d.name := by
  obtain ⟨_, -, rfl, -⟩ := declare_eq_ok_iff.mp h
  rfl

/-- A declaration is refused for its template or for a parameter that it does not declare. -/
theorem fault_of_declare (h : declare root d = .error fault) :
    fault.OfTemplate ∨ ∃ name, fault = .unknownParameter d.name name := by
  unfold declare at h
  split at h
  · next hparse =>
    cases h
    exact .inl (Endpoint.ofTemplate_of_parse hparse)
  · simp only at h
    split at h
    · next hcheck =>
      cases h
      unfold Endpoint.checkParameters at hcheck
      split at hcheck
      · next name _ =>
        cases hcheck
        exact .inr ⟨name, rfl⟩
      · cases hcheck
    · cases h

theorem declare_ne_duplicateMethod {name : Text} : declare root d ≠ .error (.duplicateMethod name) := by
  intro h
  rcases fault_of_declare h with h | ⟨_, h⟩
  · exact h
  · cases h

end Method

namespace Registry

variable {r : Registry} {d : Declaration} {m : Method} {name : Text} {fault : EndpointError}

/-- The registry with one more method. -/
def push (r : Registry) (m : Method) : Registry :=
  { r with methods := r.methods ++ [m], places := r.places.insert m.name r.methods.length }

/-- What comes of a call: the name is taken, or the declaration is refused, or its method is entered. -/
theorem register_cases (r : Registry) (d : Declaration) :
    (r.places.contains d.name = true ∧ r.register d = (.error (.duplicateMethod d.name), r)) ∨
    (r.places.contains d.name = false ∧
      ((∃ fault, Method.declare r.root d = .error fault ∧ r.register d = (.error fault, r)) ∨
        ∃ m, Method.declare r.root d = .ok m ∧ r.register d = (.ok m, r.push m))) := by
  unfold register
  cases hname : r.places.contains d.name with
  | true => exact .inl ⟨rfl, rfl⟩
  | false =>
    refine .inr ⟨rfl, ?_⟩
    cases hm : Method.declare r.root d with
    | error fault => exact .inl ⟨fault, rfl, rfl⟩
    | ok m => exact .inr ⟨m, rfl, by rw [push, Method.name_of_declare hm]; rfl⟩

theorem register_of_error (h : (r.register d).1 = .error fault) : (r.register d).2 = r := by
  rcases register_cases r d with ⟨-, heq⟩ | ⟨-, ⟨_, -, heq⟩ | ⟨_, -, heq⟩⟩
  · rw [heq]
  · rw [heq]
  · rw [heq] at h
    cases h

theorem register_eq_ok_iff :
    (r.register d).1 = .ok m ↔ r.places.contains d.name = false ∧ Method.declare r.root d = .ok m := by
  rcases register_cases r d with ⟨taken, heq⟩ | ⟨free, ⟨fault, hfault, heq⟩ | ⟨m', hm, heq⟩⟩
  · simp [heq, taken]
  · simp [heq, hfault]
  · simp [heq, free, hm]

theorem register_of_ok (h : (r.register d).1 = .ok m) : (r.register d).2 = r.push m := by
  rcases register_cases r d with ⟨-, heq⟩ | ⟨-, ⟨_, -, heq⟩ | ⟨_, -, heq⟩⟩
  · rw [heq] at h
    cases h
  · rw [heq] at h
    cases h
  · rw [heq] at h
    cases h
    rw [heq]

/-- A name is refused as taken exactly when it has a place, whatever the template. -/
theorem register_eq_duplicate_iff :
    (r.register d).1 = .error (.duplicateMethod name) ↔ d.name = name ∧ r.places.contains d.name = true := by
  rcases register_cases r d with ⟨taken, heq⟩ | ⟨free, ⟨fault, hfault, heq⟩ | ⟨m, -, heq⟩⟩
  · simp [heq, taken]
  · refine iff_of_false ?_ (by simp [free])
    rw [heq]
    intro h
    cases h
    exact Method.declare_ne_duplicateMethod hfault
  · simp [heq, free]

theorem root_register (r : Registry) (d : Declaration) : (r.register d).2.root = r.root := by
  rcases register_cases r d with ⟨-, heq⟩ | ⟨-, ⟨_, -, heq⟩ | ⟨_, -, heq⟩⟩ <;> simp [heq, push]

theorem mem_methods_register (hm : m ∈ r.methods) (d : Declaration) : m ∈ (r.register d).2.methods := by
  rcases register_cases r d with ⟨-, heq⟩ | ⟨-, ⟨_, -, heq⟩ | ⟨_, -, heq⟩⟩ <;> simp [heq, push, hm]

/-! ## Coherence -/

/-- A name has a place exactly when the method there has the name. -/
def Coherent (r : Registry) : Prop :=
  ∀ name place, r.places.get? name = some place ↔ (r.methods.map (·.name))[place]? = some name

theorem coherent_empty (root : Text) : (empty root).Coherent := by
  intro name place
  simp [empty]

theorem Coherent.push (h : r.Coherent) (free : r.places.contains m.name = false) : (r.push m).Coherent := by
  intro name place
  have absent : r.places.get? m.name = none := by simpa [Dict.contains] using free
  have names : (r.push m).methods.map (·.name) = r.methods.map (·.name) ++ [m.name] := by simp [Registry.push]
  have places : (r.push m).places.get? name = if m.name = name then some r.methods.length else r.places.get? name :=
    Dict.get?_insert _ _ _ _
  rw [names, places, List.getElem?_append, List.length_map]
  by_cases hname : m.name = name
  · subst hname
    rw [if_pos rfl]
    by_cases hlt : place < r.methods.length
    · -- Below the new place no method has the name.
      rw [if_pos hlt, ← h, absent]
      exact iff_of_false (by simpa using Nat.ne_of_gt hlt) (by simp)
    · rw [if_neg hlt, List.getElem?_singleton]
      split
      · exact iff_of_true (by congr; omega) rfl
      · exact iff_of_false (by simp only [Option.some.injEq]; omega) (by simp)
  · rw [if_neg hname, h]
    by_cases hlt : place < r.methods.length
    · rw [if_pos hlt]
    · rw [if_neg hlt, List.getElem?_singleton, List.getElem?_eq_none (by simpa using hlt)]
      refine iff_of_false (by simp) ?_
      split <;> simp [hname]

/-- Whatever comes of a call, the registry stays coherent. -/
theorem Coherent.register (h : r.Coherent) (d : Declaration) : (r.register d).2.Coherent := by
  rcases register_cases r d with ⟨-, heq⟩ | ⟨free, ⟨_, -, heq⟩ | ⟨m, hm, heq⟩⟩
  · rw [heq]
    exact h
  · rw [heq]
    exact h
  · rw [heq]
    rw [← Method.name_of_declare hm] at free
    exact h.push free

section
variable (h : r.Coherent)
include h

theorem Coherent.places_eq_some_iff {place : Nat} :
    r.places.get? name = some place ↔ ∃ m, r.methods[place]? = some m ∧ m.name = name := by
  rw [h name place, List.getElem?_map, Option.map_eq_some_iff]

theorem Coherent.nodup_names : (r.methods.map (·.name)).Nodup := by
  rw [List.nodup_iff_getElem?_ne_getElem?]
  intro i j hlt hj heq
  have there := List.getElem?_eq_getElem hj
  have hi := (h _ i).mpr (heq.trans there)
  rw [(h _ j).mpr there] at hi
  exact Nat.ne_of_gt hlt (Option.some.inj hi)

theorem Coherent.contains_iff : r.places.contains name = true ↔ name ∈ r.methods.map (·.name) := by
  rw [Dict.contains_iff, List.mem_iff_getElem?]
  exact exists_congr fun place => h name place

theorem Coherent.find?_eq_some_iff : r.find? name = some m ↔ m ∈ r.methods ∧ m.name = name := by
  rw [find?, Option.bind_eq_some_iff]
  simp only [h.places_eq_some_iff]
  refine ⟨?_, ?_⟩
  · intro hfind
    obtain ⟨place, ⟨m', hplace, hname⟩, hm⟩ := hfind
    rw [hplace] at hm
    cases hm
    exact ⟨List.mem_of_getElem? hplace, hname⟩
  · intro hm
    obtain ⟨hm, hname⟩ := hm
    obtain ⟨place, hplace⟩ := List.mem_iff_getElem?.mp hm
    exact ⟨place, ⟨m, hplace, hname⟩, hplace⟩

end

end Registry

end RouteTemplate
