import RouteTemplate.Proofs.ResolveTree.Presence
import RouteTemplate.Proofs.Rendering

/- How filling ends.

   Atoms are rendered one after the other, and the first parameter that gets no value ends it. So whatever a lookup
   does with its state, either every question was answered by a value, or the last question was for a parameter among
   the atoms and got none; what is reported is this parameter, and the state is the one that this question left
   (`Lookup.Outcome`). Answers that are remembered are values, since nothing is asked after the first question without
   one: so the last question is put to the lookup itself (`Endpoint.fillMemoized_outcome`). -/
namespace RouteTemplate

variable {σ α : Type}

/-- What may come of asking for parameters among the atoms: all have values, or the last one asked for has none.
    `Q` holds of the states in which nothing was missing yet. -/
inductive Lookup.Outcome (look : Lookup σ) (Q : σ → Prop) (atoms : List Atom) : Except EndpointError α × σ → Prop
  | answered (a : α) (s : σ) : Q s → Outcome look Q atoms (.ok a, s)
  | missing (name : Text) (before after : σ) : .param name ∈ atoms → Q before → look name before = (none, after) →
      Outcome look Q atoms (.error (.missingArgument name), after)

namespace Lookup

variable {look : Lookup σ} {Q : σ → Prop}

theorem Outcome.mono {atoms more : List Atom} {result : Except EndpointError α × σ}
    (h : look.Outcome Q atoms result) (hsub : ∀ atom ∈ atoms, atom ∈ more) : look.Outcome Q more result := by
  cases h with
  | answered a s hs => exact .answered a s hs
  | missing name before after hm hs hlook => exact .missing name before after (hsub _ hm) hs hlook

theorem Outcome.map {β : Type} {atoms : List Atom} {result : Except EndpointError α × σ}
    (h : look.Outcome Q atoms result) (f : α → β) : look.Outcome Q atoms (result.1.map f, result.2) := by
  cases h with
  | answered a s hs => exact .answered (f a) s hs
  | missing name before after hm hs hlook => exact .missing name before after hm hs hlook

theorem render_outcome (keeps : ∀ name s, Q s → (look name s).1 ≠ none → Q (look name s).2) (atoms : List Atom) {s : σ}
    (hs : Q s) : look.Outcome Q atoms (look.render atoms s) := by
  induction atoms generalizing s with
  | nil => exact .answered [] s hs
  | cons atom rest ih =>
    have tail := fun {s} hs => (ih (s := s) hs).mono fun other hm => List.mem_cons_of_mem atom hm
    cases atom with
    | literal text =>
      rw [render_literal]
      exact (tail hs).map _
    | param name =>
      have next := keeps name s hs
      rcases hlook : look name s with ⟨_ | value, s'⟩
      · rw [render_param_of_none hlook]
        exact .missing name s s' List.mem_cons_self hs hlook
      · rw [hlook] at next
        rw [render_param_of_some hlook]
        exact (tail (next (Option.some_ne_none value))).map _

/-- No parameter is remembered as missing. -/
def NoneMissing (state : Dict (Option Text) × σ) : Prop := ∀ name, state.1.get? name ≠ some none

theorem noneMissing_memoized (look : Lookup σ) (name : Text) (state : Dict (Option Text) × σ) (h : NoneMissing state)
    (hvalue : (look.memoized name state).1 ≠ none) : NoneMissing (look.memoized name state).2 := by
  obtain ⟨known, s⟩ := state
  cases hknown : known.get? name with
  | some answer => rwa [memoized_of_known hknown]
  | none =>
    rw [memoized_of_new hknown] at hvalue ⊢
    intro other hother
    simp only [Dict.get?_insert] at hother
    split at hother
    · exact hvalue (Option.some.inj hother)
    · exact h other hother

/-- A question without an answer is put to the lookup itself. -/
theorem asked_of_memoized {name : Text} {state after : Dict (Option Text) × σ} (h : NoneMissing state)
    (hlook : look.memoized name state = (none, after)) : look name state.2 = (none, after.2) := by
  obtain ⟨known, s⟩ := state
  cases hknown : known.get? name with
  | some answer =>
    rw [memoized_of_known hknown] at hlook
    cases hlook
    exact absurd hknown (h name)
  | none =>
    rw [memoized_of_new hknown] at hlook
    obtain ⟨missing, rfl⟩ := Prod.mk.inj hlook
    exact Prod.ext missing rfl

end Lookup

namespace Endpoint

variable {look : Lookup σ} {Q : σ → Prop}

theorem atoms_keep (present : Text → Bool) (e : Endpoint) :
    (e.keep present).parts.map (·.atom) = keptAtoms present e.parts := by
  simp [parts, keep, keptAtoms, Part.bare, List.filter_map, Function.comp_def]

theorem fill_outcome (keeps : ∀ name s, Q s → (look name s).1 ≠ none → Q (look name s).2) (e : Endpoint)
    (present : Text → Bool) {s : σ} (hs : Q s) :
    look.Outcome Q (keptAtoms present e.parts) (e.fill present look s) := by
  rw [← atoms_keep, atoms_parts]
  have path := (Lookup.render_outcome keeps ((e.keep present).path.map (·.atom)) hs).mono fun atom hm =>
    List.mem_append_left ((e.keep present).query.map (·.part.atom)) hm
  rcases hpath : look.render ((e.keep present).path.map (·.atom)) s with ⟨fault | segments, next⟩
  · rw [hpath] at path
    rw [fill_of_path_error hpath]
    cases path with
    | missing name before _ hm hbefore hlook => exact .missing name before next hm hbefore hlook
  · rw [hpath] at path
    rw [fill_of_path_ok hpath]
    cases path with
    | answered segments next hnext =>
      have query := (Lookup.render_outcome keeps ((e.keep present).query.map (·.part.atom)) hnext).mono fun atom hm =>
        List.mem_append_right ((e.keep present).path.map (·.atom)) hm
      exact query.map _

theorem fillMemoized_outcome (e : Endpoint) (present : Text → Bool) (look : Lookup σ) (s : σ) :
    look.Outcome (fun _ => True) (keptAtoms present e.parts) (e.fillMemoized present look s) := by
  have nothing : Lookup.NoneMissing (Dict.empty, s) := fun _ h => by cases h
  have outcome := fill_outcome (Lookup.noneMissing_memoized look) e present nothing
  rw [fillMemoized]
  generalize e.fill present look.memoized (Dict.empty, s) = result at outcome
  cases outcome with
  | answered target state _ => exact .answered target state.2 trivial
  | missing name before after hm hbefore hlook =>
    exact .missing name before.2 after.2 hm trivial (Lookup.asked_of_memoized hbefore hlook)

end Endpoint

end RouteTemplate
