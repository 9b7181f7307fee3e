import RouteTemplate.Command
import RouteTemplate.Proofs.Cutting
import RouteTemplate.Proofs.Dict
import RouteTemplate.Proofs.FirstFault

/- Reading assignments.

   An assignment gives a value to a name in one way at most, since the name ends at the first `=` (`Assigns`). What is
   wrong with one depends on those before it through their names alone (`WrongAfter`), and the table read so far holds
   just these names (`Collected`). So a list is read exactly when each of its members assigns to a name and no two to
   the same (`Assignable`), and otherwise the first that is wrong is complained about. The table has one entry for each
   member, in the order of the names, so what the order of the list was cannot be told from it, and a target filled from
   it is the same (`readAssignments_exact`). -/
namespace RouteTemplate

variable {assignment name value : Text} {done l : List Text} {values : Dict Text} {e : AssignmentError}

/-! ## One assignment -/

/-- The name stands before the first `=` and is not empty; the value is all after it. -/
def Assigns (assignment name value : Text) : Prop := assignment = Text.entry name value ∧ '=' ∉ name ∧ name ≠ []

/-- What is wrong with an assignment after earlier ones. -/
inductive WrongAfter (earlier : List Text) (assignment : Text) : AssignmentError → Prop
  | noValue : '=' ∉ assignment → WrongAfter earlier assignment (.noValue assignment)
  | noName {value : Text} : assignment = Text.entry [] value → WrongAfter earlier assignment (.noName assignment)
  | repeated {name value other earlierValue : Text} : Assigns assignment name value → other ∈ earlier →
      Assigns other name earlierValue → WrongAfter earlier assignment (.repeated name)

namespace Assigns

theorem splitOnce_eq (h : Assigns assignment name value) : Text.splitOnce '=' assignment = some (name, value) :=
  Text.splitOnce_eq_some_iff.mpr ⟨h.1, h.2.1⟩

theorem before_eq (h : Assigns assignment name value) : Text.before '=' assignment = name := by
  rw [h.1]
  exact Text.before_append h.2.1 value

theorem unique {name' value' : Text} (h : Assigns assignment name value) (h' : Assigns assignment name' value') :
    name = name' ∧ value = value' := by
  have same := h.splitOnce_eq.symm.trans h'.splitOnce_eq
  simpa using same

end Assigns

theorem splitOnce_cases (assignment : Text) :
    (Text.splitOnce '=' assignment = none ∧ '=' ∉ assignment) ∨
      (∃ value, Text.splitOnce '=' assignment = some ([], value) ∧ assignment = Text.entry [] value) ∨
      ∃ name value, Assigns assignment name value := by
  rcases hs : Text.splitOnce '=' assignment with _ | ⟨name, value⟩
  · exact .inl ⟨rfl, Text.splitOnce_eq_none_iff.mp hs⟩
  · obtain ⟨written, free⟩ := Text.splitOnce_eq_some_iff.mp hs
    by_cases empty : name = []
    · subst empty
      exact .inr (.inl ⟨value, rfl, written⟩)
    · exact .inr (.inr ⟨name, value, written, free, empty⟩)

theorem assign_of_assigns (h : Assigns assignment name value) : assign values assignment =
    if values.contains name then .error (.repeated name) else .ok (values.insert name value) := by
  obtain ⟨c, rest, rfl⟩ := List.exists_cons_of_ne_nil h.2.2
  simp only [assign, h.splitOnce_eq]

/-! ## One after others -/

/-- The table holds one entry for each assignment, and no other. -/
def Collected (done : List Text) (values : Dict Text) : Prop :=
  ∃ pairs, List.Forall₂ (fun assignment pair => Assigns assignment pair.1 pair.2) done pairs ∧
    pairs.Perm values.entries

theorem collected_empty : Collected [] .empty := ⟨[], .nil, .nil⟩

theorem mem_assigned_iff {pairs : List (Text × Text)}
    (h : List.Forall₂ (fun assignment pair => Assigns assignment pair.1 pair.2) l pairs) :
    (name, value) ∈ pairs ↔ ∃ a ∈ l, Assigns a name value := by
  induction h with
  | nil => simp
  | @cons a pair l pairs assigns _ ih =>
    have first : (name, value) = pair ↔ Assigns a name value := by
      refine ⟨fun heq => by rw [← heq] at assigns; exact assigns, fun h => ?_⟩
      obtain ⟨hname, hvalue⟩ := h.unique assigns
      exact Prod.ext hname hvalue
    rw [List.mem_cons, first, ih, List.exists_mem_cons_iff]

namespace Collected

theorem get?_eq_some_iff (h : Collected done values) :
    values.get? name = some value ↔ ∃ a ∈ done, Assigns a name value := by
  obtain ⟨pairs, assigned, perm⟩ := h
  rw [Dict.get?_eq_some_iff, ← perm.mem_iff, mem_assigned_iff assigned]

theorem contains_iff (h : Collected done values) :
    values.contains name = true ↔ ∃ a ∈ done, ∃ value, Assigns a name value := by
  simp only [Dict.contains_iff, h.get?_eq_some_iff]
  exact ⟨fun ⟨value, a, ha, assigns⟩ => ⟨a, ha, value, assigns⟩,
    fun ⟨a, ha, value, assigns⟩ => ⟨value, a, ha, assigns⟩⟩

theorem eq_of_perm {l' : List Text} {values' : Dict Text} (h : Collected l values) (h' : Collected l' values')
    (perm : l.Perm l') : values = values' := by
  refine Dict.ext_get? fun name => Option.ext fun value => ?_
  rw [h.get?_eq_some_iff, h'.get?_eq_some_iff]
  exact exists_congr fun a => and_congr_left fun _ => perm.mem_iff

/-- An assignment fails for what is wrong with it after those that are collected. -/
theorem assign_eq_error_iff (h : Collected done values) :
    assign values assignment = .error e ↔ WrongAfter done assignment e := by
  refine ⟨fun failed => ?_, fun wrong => ?_⟩
  · rcases splitOnce_cases assignment with ⟨cut, free⟩ | ⟨value, cut, written⟩ | ⟨name, value, assigns⟩
    · rw [assign, cut] at failed
      cases failed
      exact .noValue free
    · rw [assign, cut] at failed
      cases failed
      exact .noName written
    · rw [assign_of_assigns assigns] at failed
      split at failed
      · next taken =>
        cases failed
        obtain ⟨other, ho, earlierValue, earlier⟩ := h.contains_iff.mp taken
        exact .repeated assigns ho earlier
      · cases failed
  · cases wrong with
    | noValue free => rw [assign, Text.splitOnce_eq_none_iff.mpr free]
    | noName written => rw [assign, Text.splitOnce_eq_some_iff.mpr ⟨written, List.not_mem_nil⟩]
    | repeated assigns ho earlier => rw [assign_of_assigns assigns, if_pos (h.contains_iff.mpr ⟨_, ho, _, earlier⟩)]

theorem assign {values' : Dict Text} (h : Collected done values) (entered : assign values assignment = .ok values') :
    Collected (done ++ [assignment]) values' := by
  rcases splitOnce_cases assignment with ⟨cut, -⟩ | ⟨value, cut, -⟩ | ⟨name, value, assigns⟩
  · rw [RouteTemplate.assign, cut] at entered
    cases entered
  · rw [RouteTemplate.assign, cut] at entered
    cases entered
  · rw [assign_of_assigns assigns] at entered
    split at entered
    · cases entered
    · next new =>
      cases entered
      have absent : values.get? name = none := by simpa [Dict.contains] using new
      obtain ⟨pairs, assigned, perm⟩ := h
      refine ⟨pairs ++ [(name, value)], List.rel_append assigned (.cons assigns .nil), ?_⟩
      calc (pairs ++ [(name, value)]).Perm ((name, value) :: pairs) := List.perm_append_singleton ..
        List.Perm _ ((name, value) :: values.entries) := perm.cons _
        List.Perm _ (values.insert name value).entries := (Dict.entries_insert_perm absent).symm

end Collected

theorem follows_assign : Follows assign WrongAfter Collected where
  error_iff h := h.assign_eq_error_iff
  next h entered := h.assign entered

/-! ## All assignments -/

/-- Each assigns to a name, and no two to the same. -/
def Assignable : List Text → Prop := EachOnce (fun a => ∃ name value, Assigns a name value) (Text.before '=')

theorem not_wrong_iff (h : Assignable done) : (∀ e, ¬ WrongAfter done assignment e) ↔
    (∃ name value, Assigns assignment name value) ∧ Text.before '=' assignment ∉ done.map (Text.before '=') := by
  refine ⟨fun right => ?_, fun ⟨assigns, new⟩ e wrong => ?_⟩
  · rcases splitOnce_cases assignment with ⟨-, free⟩ | ⟨value, -, written⟩ | ⟨name, value, assigns⟩
    · exact absurd (.noValue free) (right _)
    · exact absurd (.noName written) (right _)
    · refine ⟨⟨name, value, assigns⟩, fun taken => ?_⟩
      obtain ⟨other, ho, same⟩ := List.mem_map.mp taken
      obtain ⟨earlierName, earlierValue, earlier⟩ := h.good other ho
      rw [earlier.before_eq, assigns.before_eq] at same
      subst same
      exact right _ (.repeated assigns ho earlier)
  · obtain ⟨name, value, assigns⟩ := assigns
    cases wrong with
    | noValue free => exact free (by rw [assigns.1]; simp [Text.entry])
    | noName written =>
      refine assigns.2.2 ?_
      rw [← assigns.before_eq, written]
      rfl
    | repeated assigns' ho earlier =>
      refine new (List.mem_map.mpr ⟨_, ho, ?_⟩)
      rw [earlier.before_eq, assigns'.before_eq]

theorem faultless_iff_assignable : Faultless WrongAfter l ↔ Assignable l :=
  faultless_iff_eachOnce fun _ _ => not_wrong_iff

theorem exists_readAssignments_iff : (∃ values, readAssignments l = .ok values) ↔ Assignable l := by
  rw [← faultless_iff_assignable]
  exact follows_assign.exists_foldlM_eq_ok_iff collected_empty

theorem collected_of_readAssignments (read : readAssignments l = .ok values) : Collected l values :=
  follows_assign.holds_of_foldlM collected_empty read

theorem readAssignments_of_perm {l' : List Text} (read : readAssignments l = .ok values) (perm : l.Perm l') :
    readAssignments l' = .ok values := by
  have assignable : Assignable l' := (exists_readAssignments_iff.mp ⟨values, read⟩).perm perm
  obtain ⟨values', read'⟩ := exists_readAssignments_iff.mpr assignable
  have same : values = values' :=
    (collected_of_readAssignments read).eq_of_perm (collected_of_readAssignments read') perm
  rw [read', same]

/-- Assignments matter to a target through their table only. -/
theorem Session.fill_congr {l' : List Text} (same : readAssignments l' = readAssignments l) (s : Session)
    (method : Text) (raw : Bool) : s.fill method l' raw = s.fill method l raw := by
  unfold fill
  rw [same]

/-- **Assignments are read exactly, and their order does not matter.** A list is read exactly when each member assigns
    to a name and no two to the same. The table then has one entry for each, which gives the name all that stands after
    the first `=`; the members in another order make the same table, and any method is filled from them alike, with the
    same target or the same error. Otherwise the error is that of the first member that is wrong after those before it:
    there is no `=` in it, or no name, or an earlier one has the name. -/
theorem readAssignments_exact (l : List Text) :
    ((∃ values, readAssignments l = .ok values) ↔ Assignable l) ∧
    (∀ values, readAssignments l = .ok values → Collected l values ∧
      ∀ l', l.Perm l' → readAssignments l' = .ok values ∧
        ∀ (s : Session) (method : Text) (raw : Bool), s.fill method l' raw = s.fill method l raw) ∧
    ∀ e, readAssignments l = .error e ↔
      ∃ before a after, l = before ++ a :: after ∧ Assignable before ∧ WrongAfter before a e := by
  refine ⟨exists_readAssignments_iff, ?_, ?_⟩
  · intro values read
    refine ⟨collected_of_readAssignments read, ?_⟩
    intro l' perm
    have read' : readAssignments l' = .ok values := readAssignments_of_perm read perm
    exact ⟨read', Session.fill_congr (read'.trans read.symm)⟩
  · intro e
    have first : readAssignments l = .error e ↔ FirstFault WrongAfter l e :=
      follows_assign.foldlM_eq_error_iff collected_empty
    rw [first]
    unfold FirstFault
    simp only [faultless_iff_assignable]

end RouteTemplate
