import RouteTemplate.Endpoint.Fill
import RouteTemplate.Proofs.Cutting

/- What filling writes.

   When a lookup answers from a function, whatever its state, filling is a matter of that function alone: it
   succeeds exactly when every parameter that is kept has a value, and it then writes the kept atoms, each as
   the text it stands for (`Endpoint.fill_eq_ok_iff`).

   Lookups that answer alike, from states that stay related, fill alike, and end in related states
   (`Endpoint.fill_congr`). -/
namespace RouteTemplate

/-- The text an atom stands for when parameters have the given values; without a value it is empty. -/
def Atom.fillIn (values : Text → Option Text) : Atom → Text
  | .literal text => text
  | .param name => (values name).getD []

/-- Every parameter among the atoms has a value. -/
def Valued (values : Text → Option Text) (atoms : List Atom) : Prop :=
  ∀ name, .param name ∈ atoms → values name ≠ none

theorem valued_append {values : Text → Option Text} {l m : List Atom} :
    Valued values (l ++ m) ↔ Valued values l ∧ Valued values m := by
  simp only [Valued, List.mem_append, or_imp, forall_and]

namespace Lookup

variable {σ : Type} {look : Lookup σ} {values : Text → Option Text}

/-- Whatever its state, the lookup answers from the function. -/
def Answers (look : Lookup σ) (values : Text → Option Text) : Prop := ∀ name s, (look name s).1 = values name

theorem recording_answers (values : Text → Option Text) : (recording values).Answers values := fun _ _ => rfl

theorem render_literal (text : Text) (rest : List Atom) (s : σ) : look.render (.literal text :: rest) s =
    ((look.render rest s).1.map (text :: ·), (look.render rest s).2) := by
  rw [render]
  rcases look.render rest s with ⟨_ | more, s'⟩ <;> rfl

theorem render_param_of_some {name value : Text} {s next : σ} (h : look name s = (some value, next))
    (rest : List Atom) : look.render (.param name :: rest) s =
      ((look.render rest next).1.map (value :: ·), (look.render rest next).2) := by
  rw [render]
  simp only [h]
  rcases look.render rest next with ⟨_ | more, s'⟩ <;> rfl

theorem render_param_of_none {name : Text} {s next : σ} (h : look name s = (none, next)) (rest : List Atom) :
    look.render (.param name :: rest) s = (.error (.missingArgument name), next) := by
  rw [render]
  simp only [h]

theorem render_literal_eq_ok_iff {text : Text} {rest : List Atom} {texts : List Text} {s : σ} :
    (look.render (.literal text :: rest) s).1 = .ok texts ↔
      ∃ more, (look.render rest s).1 = .ok more ∧ text :: more = texts := by
  rw [render_literal]
  cases (look.render rest s).1 <;> simp [Except.map]

theorem render_param_eq_ok_iff {name : Text} {rest : List Atom} {texts : List Text} {s : σ} :
    (look.render (.param name :: rest) s).1 = .ok texts ↔ ∃ value more, (look name s).1 = some value ∧
      (look.render rest (look name s).2).1 = .ok more ∧ value :: more = texts := by
  rcases hlook : look name s with ⟨_ | value, next⟩
  · rw [render_param_of_none hlook]
    simp
  · rw [render_param_of_some hlook]
    cases (look.render rest next).1 <;> simp [Except.map]

/-- Rendering succeeds exactly when every parameter has a value, and gives the texts that are stood for. -/
theorem render_eq_ok_iff (h : look.Answers values) : ∀ {atoms : List Atom} {texts : List Text} {s : σ},
    (look.render atoms s).1 = .ok texts ↔ Valued values atoms ∧ atoms.map (·.fillIn values) = texts
  | [], texts, s => by simp [render, Valued]
  | .literal text :: rest, texts, s => by
    rw [render_literal_eq_ok_iff]
    simp [render_eq_ok_iff h, Valued, Atom.fillIn, and_assoc]
  | .param name :: rest, texts, s => by
    rw [render_param_eq_ok_iff, h name s]
    cases hv : values name with
    | none => simp [Valued, hv]
    | some value => simp [render_eq_ok_iff h, Valued, Atom.fillIn, and_assoc, hv]

theorem not_valued_of_error (h : look.Answers values) {atoms : List Atom} {fault : EndpointError} {s s' : σ}
    (hr : look.render atoms s = (.error fault, s')) : ¬Valued values atoms := by
  intro hv
  have ok := (render_eq_ok_iff h (s := s)).mpr ⟨hv, rfl⟩
  rw [hr] at ok
  cases ok

end Lookup

namespace Endpoint

variable {σ : Type} {look : Lookup σ} {values : Text → Option Text}

theorem atoms_parts (e : Endpoint) :
    e.parts.map (·.atom) = e.path.map (·.atom) ++ e.query.map (·.part.atom) := by
  simp [parts]

theorem fill_of_path_error {e : Endpoint} {present : Text → Bool} {fault : EndpointError} {s next : σ}
    (h : look.render ((e.keep present).path.map (·.atom)) s = (.error fault, next)) :
    e.fill present look s = (.error fault, next) := by
  simp only [fill, h]

/-- After the path the query is rendered, and its texts are written with their names. -/
theorem fill_of_path_ok {e : Endpoint} {present : Text → Bool} {segments : List Text} {s next : σ}
    (h : look.render ((e.keep present).path.map (·.atom)) s = (.ok segments, next)) : e.fill present look s =
      ((look.render ((e.keep present).query.map (·.part.atom)) next).1.map fun texts =>
        Request.written segments (((e.keep present).query.map (·.name)).zip texts),
      (look.render ((e.keep present).query.map (·.part.atom)) next).2) := by
  simp only [fill, h, Request.written, List.zip, List.map_zipWith]
  generalize look.render ((e.keep present).query.map (·.part.atom)) next = query
  rcases query with ⟨_ | texts, s'⟩ <;> rfl

theorem fill_eq_ok_iff (h : look.Answers values) {e : Endpoint} {present : Text → Bool} {target : Text} {s : σ} :
    (e.fill present look s).1 = .ok target ↔ Valued values ((e.keep present).parts.map (·.atom)) ∧
      Request.written ((e.keep present).path.map (·.atom.fillIn values))
        ((e.keep present).query.map fun entry => (entry.name, entry.part.atom.fillIn values)) = target := by
  rw [atoms_parts, valued_append]
  rcases hpath : look.render ((e.keep present).path.map (·.atom)) s with ⟨fault | segments, next⟩
  · rw [fill_of_path_error hpath]
    simp [Lookup.not_valued_of_error h hpath]
  · obtain ⟨path_valued, rfl⟩ := (Lookup.render_eq_ok_iff h).mp (congrArg Prod.fst hpath)
    rw [fill_of_path_ok hpath]
    rcases hquery : look.render ((e.keep present).query.map (·.part.atom)) next with ⟨fault | texts, last⟩
    · simp [Except.map, hquery, Lookup.not_valued_of_error h hquery]
    · obtain ⟨query_valued, rfl⟩ := (Lookup.render_eq_ok_iff h).mp (congrArg Prod.fst hquery)
      simp [Except.map, hquery, path_valued, query_valued, List.zip_map', Function.comp_def]

end Endpoint

/-! ## Lookups that answer alike -/

section
variable {σ τ : Type} {look : Lookup σ} {look' : Lookup τ} {R : σ → τ → Prop}

namespace Lookup

/-- From related states both give the same answer, and related states after it. -/
def AnswersAlike (look : Lookup σ) (look' : Lookup τ) (R : σ → τ → Prop) : Prop :=
  ∀ name s t, R s t → (look name s).1 = (look' name t).1 ∧ R (look name s).2 (look' name t).2

theorem render_congr (h : look.AnswersAlike look' R) (atoms : List Atom) : ∀ {s : σ} {t : τ}, R s t →
    (look.render atoms s).1 = (look'.render atoms t).1 ∧ R (look.render atoms s).2 (look'.render atoms t).2 := by
  induction atoms with
  | nil => exact fun related => ⟨rfl, related⟩
  | cons atom rest ih =>
    intro s t related
    cases atom with
    | literal text =>
      obtain ⟨same, related⟩ := ih related
      rw [render_literal, render_literal, same]
      exact ⟨rfl, related⟩
    | param name =>
      obtain ⟨same, related⟩ := h name s t related
      rcases hs : look name s with ⟨answer, s'⟩
      rcases ht : look' name t with ⟨answer', t'⟩
      rw [hs, ht] at same related
      cases same
      cases answer with
      | none =>
        rw [render_param_of_none hs, render_param_of_none ht]
        exact ⟨rfl, related⟩
      | some value =>
        obtain ⟨same, related⟩ := ih related
        rw [render_param_of_some hs, render_param_of_some ht, same]
        exact ⟨rfl, related⟩

/-! Answers that are remembered. -/

theorem memoized_of_known {name : Text} {answer : Option Text} {known : Dict (Option Text)} {s : σ}
    (h : known.get? name = some answer) : look.memoized name (known, s) = (answer, (known, s)) := by
  simp only [memoized, h]

theorem memoized_of_new {name : Text} {known : Dict (Option Text)} {s : σ} (h : known.get? name = none) :
    look.memoized name (known, s) = ((look name s).1, (known.insert name (look name s).1, (look name s).2)) := by
  simp only [memoized, h]

end Lookup

namespace Endpoint

theorem fill_congr (h : look.AnswersAlike look' R) (e : Endpoint) (present : Text → Bool) {s : σ} {t : τ}
    (related : R s t) : (e.fill present look s).1 = (e.fill present look' t).1 ∧
      R (e.fill present look s).2 (e.fill present look' t).2 := by
  obtain ⟨same, related⟩ := Lookup.render_congr h ((e.keep present).path.map (·.atom)) related
  rcases hs : look.render ((e.keep present).path.map (·.atom)) s with ⟨path, s'⟩
  rcases ht : look'.render ((e.keep present).path.map (·.atom)) t with ⟨path', t'⟩
  rw [hs, ht] at same related
  cases same
  cases path with
  | error fault =>
    rw [fill_of_path_error hs, fill_of_path_error ht]
    exact ⟨rfl, related⟩
  | ok segments =>
    obtain ⟨same, related⟩ := Lookup.render_congr h ((e.keep present).query.map (·.part.atom)) related
    rw [fill_of_path_ok hs, fill_of_path_ok ht, same]
    exact ⟨rfl, related⟩

end Endpoint

end

end RouteTemplate
