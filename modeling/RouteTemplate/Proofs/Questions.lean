import RouteTemplate.Proofs.FirstAppearance
import RouteTemplate.Proofs.Rendering

/- What filling asks for.

   A lookup that answers from a function is asked for one kept parameter after the other, up to and including the first
   without a value (`upToMissing`). Seen by a lookup that records its questions this is a list, and any other lookup
   with the same answers goes along with it, question by question (`Lookup.Answers.recorded`). A lookup that remembers
   its answers goes along too: what it knows are the questions so far, and it has asked each of them once, when it came
   first (`Lookup.Answers.recalled`). So remembering changes the questions to those at their first appearance, and
   nothing else (`Endpoint.fillMemoized_questions`). -/
namespace RouteTemplate

variable {σ : Type}

/-- The parameters among atoms, at each occurrence. -/
def occurrences (atoms : List Atom) : List Text := atoms.filterMap (·.parameter?)

/-- The first of the names without a value. -/
def firstMissing? (values : Text → Option Text) (names : List Text) : Option Text :=
  names.find? fun name => (values name).isNone

/-- The names in order, up to and including the first without a value. -/
def upToMissing (values : Text → Option Text) : List Text → List Text
  | [] => []
  | name :: rest => name :: if (values name).isSome then upToMissing values rest else []

/-- The state in which the questions leave a lookup. -/
def Lookup.after (look : Lookup σ) (names : List Text) (s : σ) : σ := names.foldl (fun s name => (look name s).2) s

/-- The parameters that are kept for the present keys, at each occurrence, path before query. -/
def Endpoint.keptParameters (present : Text → Bool) (e : Endpoint) : List Text :=
  occurrences ((e.keep present).parts.map (·.atom))

/-- The target with the values put in. -/
def Endpoint.written (values : Text → Option Text) (present : Text → Bool) (e : Endpoint) : Text :=
  Request.written ((e.keep present).path.map (·.atom.fillIn values))
    ((e.keep present).query.map fun entry => (entry.name, entry.part.atom.fillIn values))

/-- What filling from a function asks for. -/
def Endpoint.questions (values : Text → Option Text) (present : Text → Bool) (e : Endpoint) : List Text :=
  upToMissing values (e.keptParameters present)

/-- What filling from a function comes to: the target, or the first kept parameter without a value. -/
def Endpoint.fillFrom (values : Text → Option Text) (present : Text → Bool) (e : Endpoint) :
    Except EndpointError Text :=
  match firstMissing? values (e.keptParameters present) with
  | some name => .error (.missingArgument name)
  | none => .ok (e.written values present)

/-! ## One question after the other -/

section
variable {values : Text → Option Text}

theorem occurrences_append (l m : List Atom) : occurrences (l ++ m) = occurrences l ++ occurrences m :=
  List.filterMap_append

theorem mem_occurrences {name : Text} {atoms : List Atom} : name ∈ occurrences atoms ↔ .param name ∈ atoms := by
  rw [occurrences, List.mem_filterMap]
  constructor
  · rintro ⟨atom, hm, hname⟩
    cases atom with
    | literal text => cases hname
    | param other =>
      cases hname
      exact hm
  · exact fun hm => ⟨.param name, hm, rfl⟩

theorem firstMissing?_eq_none_iff {names : List Text} :
    firstMissing? values names = none ↔ ∀ name ∈ names, values name ≠ none := by
  simp [firstMissing?]

theorem firstMissing?_eq_some_iff {names : List Text} {name : Text} : firstMissing? values names = some name ↔
    ∃ before after, names = before ++ name :: after ∧ (∀ other ∈ before, values other ≠ none) ∧ values name = none := by
  rw [firstMissing?, List.find?_eq_some_iff_append]
  constructor
  · rintro ⟨missing, before, after, heq, valued⟩
    exact ⟨before, after, heq, by simpa [Option.isSome_iff_ne_none] using valued, by simpa using missing⟩
  · rintro ⟨before, after, heq, valued, missing⟩
    exact ⟨by simpa using missing, before, after, heq, by simpa [Option.isSome_iff_ne_none] using valued⟩

theorem upToMissing_of_valued {names : List Text} (h : ∀ name ∈ names, values name ≠ none) :
    upToMissing values names = names := by
  induction names with
  | nil => rfl
  | cons name rest ih =>
    have first := Option.isSome_iff_ne_none.mpr (h name List.mem_cons_self)
    rw [upToMissing, if_pos first, ih fun other hm => h other (List.mem_cons_of_mem name hm)]

theorem firstMissing?_append (l m : List Text) :
    firstMissing? values (l ++ m) = (firstMissing? values l).or (firstMissing? values m) :=
  List.find?_append

theorem firstMissing?_cons (name : Text) (rest : List Text) : firstMissing? values (name :: rest) =
    if (values name).isSome then firstMissing? values rest else some name := by
  cases hvalue : values name <;> simp [firstMissing?, hvalue]

theorem upToMissing_append (l m : List Text) : upToMissing values (l ++ m) =
    upToMissing values l ++ if (firstMissing? values l).isNone then upToMissing values m else [] := by
  induction l with
  | nil => rfl
  | cons name rest ih =>
    rw [List.cons_append, upToMissing, upToMissing, firstMissing?_cons]
    cases hvalue : values name with
    | none => rfl
    | some value => simpa using ih

theorem upToMissing_of_missing {before after : List Text} {name : Text} (valued : ∀ other ∈ before, values other ≠ none)
    (missing : values name = none) : upToMissing values (before ++ name :: after) = before ++ [name] := by
  rw [upToMissing_append, upToMissing_of_valued valued, firstMissing?_eq_none_iff.mpr valued, upToMissing]
  simp [missing]

end

namespace Lookup

variable {look : Lookup σ} {values : Text → Option Text}

theorem after_concat (look : Lookup σ) (names : List Text) (name : Text) (s : σ) :
    look.after (names ++ [name]) s = (look name (look.after names s)).2 := by
  simp [after]

theorem after_recording (names asked : List Text) : (recording values).after names asked = asked ++ names := by
  induction names generalizing asked with
  | nil => simp [after]
  | cons name rest ih =>
    show (recording values).after rest (asked ++ [name]) = asked ++ name :: rest
    rw [ih, List.append_assoc, List.singleton_append]

theorem render_recording (atoms : List Atom) : ∀ asked : List Text, (recording values).render atoms asked =
    (match firstMissing? values (occurrences atoms) with
      | some name => .error (.missingArgument name)
      | none => .ok (atoms.map (·.fillIn values)),
    asked ++ upToMissing values (occurrences atoms)) := by
  induction atoms with
  | nil => exact fun asked => by simp [render, occurrences, upToMissing, firstMissing?]
  | cons atom rest ih =>
    intro asked
    cases atom with
    | literal text =>
      have same : occurrences (.literal text :: rest) = occurrences rest := rfl
      rw [render_literal, ih, same]
      cases firstMissing? values (occurrences rest) <;> rfl
    | param name =>
      have first : occurrences (.param name :: rest) = name :: occurrences rest := rfl
      rw [first, firstMissing?_cons, upToMissing]
      cases hvalue : values name with
      | none =>
        have unanswered : recording values name asked = (none, asked ++ [name]) := by rw [recording, hvalue]
        rw [render_param_of_none unanswered]
        rfl
      | some value =>
        have answered : recording values name asked = (some value, asked ++ [name]) := by rw [recording, hvalue]
        have stands : (Atom.param name).fillIn values = value := by rw [Atom.fillIn, hvalue, Option.getD_some]
        rw [render_param_of_some answered, ih, List.append_assoc, List.map_cons, stands]
        cases firstMissing? values (occurrences rest) <;> rfl

/-! ## Lookups that go along -/

theorem Answers.recorded (h : look.Answers values) (first : σ) :
    look.AnswersAlike (recording values) fun s asked => s = look.after asked first := by
  intro name s asked related
  subst related
  exact ⟨h name _, (after_concat look asked name first).symm⟩

/-- What is remembered are the answers to the questions asked. -/
def Recalls (values : Text → Option Text) (asked : List Text) (known : Dict (Option Text)) : Prop :=
  ∀ name, known.get? name = if name ∈ asked then some (values name) else none

/-- A lookup that remembers has asked each question once, where it first appeared. -/
theorem Answers.recalled (h : look.Answers values) (first : σ) :
    look.memoized.AnswersAlike (recording values) fun state asked =>
      Recalls values asked state.1 ∧ state.2 = look.after asked.eraseDups first := by
  intro name state asked related
  obtain ⟨known, s⟩ := state
  obtain ⟨recalls, hs⟩ := related
  simp only at recalls hs
  subst hs
  by_cases hm : name ∈ asked
  · -- Asked before: the answer is known, and nothing changes.
    rw [memoized_of_known ((recalls name).trans (if_pos hm))]
    refine ⟨rfl, fun other => ?_, ?_⟩
    · have absorbed : other ∈ asked ++ [name] ↔ other ∈ asked := by
        rw [List.mem_append, List.mem_singleton, or_iff_left_of_imp fun heq => heq ▸ hm]
      simp only [recording, absorbed]
      exact recalls other
    · simp only [recording, eraseDups_concat, if_pos hm]
  · -- New: the lookup is asked, and its answer is kept.
    rw [memoized_of_new ((recalls name).trans (if_neg hm))]
    refine ⟨h name _, fun other => ?_, ?_⟩
    · simp only [recording, Dict.get?_insert, List.mem_append, List.mem_singleton, recalls other, h name]
      by_cases heq : other = name
      · simp [heq]
      · simp [heq, Ne.symm heq]
    · simp only [recording, eraseDups_concat, if_neg hm, after_concat]

end Lookup

/-! ## Filling -/

namespace Endpoint

variable {look : Lookup σ} {values : Text → Option Text}

theorem fill_recording (e : Endpoint) (present : Text → Bool) (asked : List Text) :
    e.fill present (Lookup.recording values) asked =
      (e.fillFrom values present, asked ++ e.questions values present) := by
  have parts : e.keptParameters present = occurrences ((e.keep present).path.map (·.atom)) ++
      occurrences ((e.keep present).query.map (·.part.atom)) := by
    rw [keptParameters, atoms_parts, occurrences_append]
  rw [fill, Lookup.render_recording, fillFrom, questions, parts, upToMissing_append, firstMissing?_append]
  cases hpath : firstMissing? values (occurrences ((e.keep present).path.map (·.atom))) with
  | some name => simp
  | none =>
    simp only [Lookup.render_recording]
    cases hquery : firstMissing? values (occurrences ((e.keep present).query.map (·.part.atom))) with
    | some name => simp
    | none => simp [written, Request.written, Function.comp_def]

theorem fill_eq (h : look.Answers values) (e : Endpoint) (present : Text → Bool) (s : σ) : e.fill present look s =
    (e.fillFrom values present, look.after (e.questions values present) s) := by
  obtain ⟨result, state⟩ := fill_congr (h.recorded s) e present (t := []) rfl
  rw [fill_recording] at result state
  exact Prod.ext result state

/-- To ask for each name once comes to the same, with fewer questions. -/
theorem fillMemoized_eq (h : look.Answers values) (e : Endpoint) (present : Text → Bool) (s : σ) :
    e.fillMemoized present look s =
      (e.fillFrom values present, look.after (e.questions values present).eraseDups s) := by
  have nothing : Lookup.Recalls values [] Dict.empty := fun _ => rfl
  obtain ⟨result, -, state⟩ := fill_congr (h.recalled s) e present (s := (Dict.empty, s)) (t := []) ⟨nothing, rfl⟩
  rw [fill_recording] at result state
  exact Prod.ext result state

theorem fillMemoized_eq_fill (h : look.Answers values) (e : Endpoint) (present : Text → Bool) (s : σ) :
    (e.fillMemoized present look s).1 = (e.fill present look s).1 := by
  rw [fillMemoized_eq h, fill_eq h]

theorem mem_keptParameters {e : Endpoint} {present : Text → Bool} {name : Text} :
    name ∈ e.keptParameters present ↔ ∃ p ∈ e.parts, p.kept present = true ∧ p.atom = .param name := by
  rw [keptParameters, mem_occurrences]
  simp [parts, keep, Part.bare, or_and_right, exists_or, and_assoc]

/-- Either all kept parameters have values and are asked for, or the first without one is the last question. -/
theorem questions_cases (values : Text → Option Text) (present : Text → Bool) (e : Endpoint) :
    ((∀ name ∈ e.keptParameters present, values name ≠ none) ∧
      e.questions values present = e.keptParameters present ∧
      e.fillFrom values present = .ok (e.written values present)) ∨
    ∃ before name after, e.keptParameters present = before ++ name :: after ∧
      (∀ other ∈ before, values other ≠ none) ∧ values name = none ∧
      e.questions values present = before ++ [name] ∧
      e.fillFrom values present = .error (.missingArgument name) := by
  rw [questions, fillFrom]
  cases hfirst : firstMissing? values (e.keptParameters present) with
  | none =>
    have valued := firstMissing?_eq_none_iff.mp hfirst
    exact .inl ⟨valued, upToMissing_of_valued valued, rfl⟩
  | some name =>
    obtain ⟨before, after, heq, valued, missing⟩ := firstMissing?_eq_some_iff.mp hfirst
    refine .inr ⟨before, name, after, heq, valued, missing, ?_, rfl⟩
    rw [heq, upToMissing_of_missing valued missing]

/-- **To remember answers changes the questions alone.** Filling asks for the kept parameters, path before query, at
    each occurrence: all of them when they have values, and then it writes the target; otherwise those up to and
    including the first without a value, which it reports. A lookup that records its questions shows them in this
    order. Filling that remembers comes to the same result and asks the same questions, each where it first appears
    and no more than once. Any other lookup with these answers is left by either in the state to which the questions
    lead. Parameters that are not kept are never asked for. -/
theorem fillMemoized_questions (e : Endpoint) (present : Text → Bool) (values : Text → Option Text) :
    ∃ asked result,
      ((∀ name ∈ e.keptParameters present, values name ≠ none) ∧ asked = e.keptParameters present ∧
          result = .ok (e.written values present) ∨
        ∃ before name after, e.keptParameters present = before ++ name :: after ∧
          (∀ other ∈ before, values other ≠ none) ∧ values name = none ∧
          asked = before ++ [name] ∧ result = .error (.missingArgument name)) ∧
      e.fill present (Lookup.recording values) [] = (result, asked) ∧
      e.fillMemoized present (Lookup.recording values) [] = (result, asked.eraseDups) ∧
      asked.eraseDups.Nodup ∧
      (∀ {σ : Type} (look : Lookup σ), look.Answers values → ∀ s,
        e.fill present look s = (result, look.after asked s) ∧
        e.fillMemoized present look s = (result, look.after asked.eraseDups s)) ∧
      ∀ name ∈ asked, ∃ p ∈ e.parts, p.kept present = true ∧ p.atom = .param name := by
  have cases := e.questions_cases values present
  have recorded := Lookup.recording_answers values
  refine ⟨e.questions values present, e.fillFrom values present, cases, e.fill_recording present [], ?memoized,
    nodup_eraseDups _, fun look h s => ⟨fill_eq h e present s, fillMemoized_eq h e present s⟩, ?kept⟩
  case memoized => rw [fillMemoized_eq recorded, Lookup.after_recording, List.nil_append]
  case kept =>
    intro name hm
    refine mem_keptParameters.mp ?_
    rcases cases with ⟨-, asked, -⟩ | ⟨before, last, after, heq, -, -, asked, -⟩
    · rwa [asked] at hm
    · rw [asked] at hm
      rw [heq, List.append_cons]
      exact List.mem_append_left after hm

/-- Answers from a function, and counts the questions. -/
def counting (values : Text → Option Text) : Lookup Nat := fun name asked => (values name, asked + 1)

/-- `{x}/[?k:{y}]/{x}?q={z}&r={x}&s={w}` -/
def repeated : Endpoint where
  path := [⟨[], .param "x".toList⟩, ⟨["k".toList], .param "y".toList⟩, ⟨[], .param "x".toList⟩]
  query := [⟨"q".toList, [], .param "z".toList⟩, ⟨"r".toList, [], .param "x".toList⟩,
    ⟨"s".toList, [], .param "w".toList⟩]

theorem fillMemoized_questions_repeated :
    let values : Text → Option Text := fun name => if name = "x".toList then some "1".toList else none
    (counting values).Answers values ∧
    repeated.fill (fun _ => false) (Lookup.recording values) [] =
      (.error (.missingArgument "z".toList), ["x".toList, "x".toList, "z".toList]) ∧
    repeated.fill (fun _ => false) (counting values) 0 = (.error (.missingArgument "z".toList), 3) ∧
    repeated.fillMemoized (fun _ => false) (counting values) 0 = (.error (.missingArgument "z".toList), 2) := by
  intro values
  have answers : (counting values).Answers values := fun _ _ => rfl
  have recorded : repeated.fill (fun _ => false) (Lookup.recording values) [] =
      (.error (.missingArgument "z".toList), ["x".toList, "x".toList, "z".toList]) := by rfl
  obtain ⟨asked, result, -, fills, -, -, others, -⟩ := fillMemoized_questions repeated (fun _ => false) values
  cases recorded.symm.trans fills
  obtain ⟨plain, memoized⟩ := others (counting values) answers 0
  exact ⟨answers, recorded, plain, memoized⟩

end Endpoint

end RouteTemplate
