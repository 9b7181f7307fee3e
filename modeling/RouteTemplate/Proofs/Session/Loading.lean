import RouteTemplate.Session.Load
import RouteTemplate.Proofs.FirstFault
import RouteTemplate.Proofs.Session.Runs

/- Loading settings.

   Declarations are registered in turn, so what becomes of one seems to depend on the whole registry before it. It
   depends on the names alone: a declaration is refused when an earlier one has its name, whatever its template, and
   otherwise when it gives no method under the prefix (`Declaration.RefusedAfter`). What holds after some declarations
   are entered decides so for the next, and holds again after it (`Session.Entered`). So loading succeeds exactly when
   no two names are equal and each declaration gives a method on its own; otherwise it ends at the first that is
   refused, and what follows that one does not matter (`Session.load_exact`). -/
namespace RouteTemplate

/-- What a declaration is refused for after earlier ones: its name is taken, or it gives no method under the prefix. -/
inductive Declaration.RefusedAfter (root : Text) (earlier : List Declaration) (d : Declaration) : EndpointError → Prop
  | taken : d.name ∈ earlier.map (·.name) → RefusedAfter root earlier d (.duplicateMethod d.name)
  | undeclared {fault : EndpointError} : d.name ∉ earlier.map (·.name) → Method.declare root d = .error fault →
      RefusedAfter root earlier d fault

namespace Declaration

variable {root : Text} {earlier : List Declaration} {d : Declaration} {fault : EndpointError}

theorem refusedAfter_of_mem (h : d.name ∈ earlier.map (·.name)) :
    d.RefusedAfter root earlier fault ↔ fault = .duplicateMethod d.name := by
  constructor
  · intro refused
    cases refused with
    | taken => rfl
    | undeclared new => exact absurd h new
  · intro duplicate
    rw [duplicate]
    exact .taken h

theorem refusedAfter_of_not_mem (h : d.name ∉ earlier.map (·.name)) :
    d.RefusedAfter root earlier fault ↔ Method.declare root d = .error fault := by
  constructor
  · intro refused
    cases refused with
    | taken earlier => exact absurd earlier h
    | undeclared _ failed => exact failed
  · exact .undeclared h

end Declaration

theorem Registry.register_empty_eq_ok_iff {root : Text} {d : Declaration} {m : Method} :
    ((Registry.empty root).register d).1 = .ok m ↔ Method.declare root d = .ok m := by
  rw [register_eq_ok_iff]
  exact and_iff_right rfl

namespace Session

variable {root : Text} {s : Session} {d : Declaration} {done l : List Declaration} {e : LoadError}

/-! ## One declaration -/

/-- Registers one declaration, or fails with its name and what is wrong with it. -/
def enter (s : Session) (d : Declaration) : Except LoadError Session :=
  match s.register d with
  | (.error fault, _) => .error (.declaration d.name fault)
  | (.ok _, s) => .ok s

theorem enter_eq_error_iff_register : s.enter d = .error e ↔
    ∃ fault, (s.registry.register d).1 = .error fault ∧ e = .declaration d.name fault := by
  rw [← register_fst, enter]
  rcases s.register d with ⟨fault | m, s'⟩
  · simp [eq_comm]
  · simp

theorem enter_eq_ok_iff_register {s' : Session} : s.enter d = .ok s' ↔
    ∃ m, (s.registry.register d).1 = .ok m ∧ s' = (s.register d).2 := by
  rw [← register_fst, enter]
  rcases s.register d with ⟨fault | m, s'⟩
  · simp
  · simp [eq_comm]

/-- The registry holds one method for each declaration, in their order, and its table finds them. -/
structure Entered (root : Text) (done : List Declaration) (s : Session) : Prop where
  root_eq : s.registry.root = root
  coherent : s.registry.Coherent
  declared : List.Forall₂ (fun d m => Method.declare root d = .ok m) done s.registry.methods

theorem entered_start (root : Text) : Entered root [] (start root) :=
  ⟨rfl, Registry.coherent_empty root, .nil⟩

theorem names_of_declared {methods : List Method}
    (h : List.Forall₂ (fun d m => Method.declare root d = .ok m) l methods) :
    methods.map (·.name) = l.map (·.name) := by
  induction h with
  | nil => rfl
  | cons hm _ ih => rw [List.map_cons, List.map_cons, Method.name_of_declare hm, ih]

theorem Entered.contains_iff (h : Entered root done s) {name : Text} :
    s.registry.places.contains name = true ↔ name ∈ done.map (·.name) := by
  rw [h.coherent.contains_iff, names_of_declared h.declared]

/-- A declaration fails for what speaks against it after those that are entered. -/
theorem Entered.enter_eq_error_iff (h : Entered root done s) :
    s.enter d = .error e ↔ ∃ fault, d.RefusedAfter root done fault ∧ e = .declaration d.name fault := by
  rw [enter_eq_error_iff_register]
  refine exists_congr fun fault => and_congr_left fun _ => ?_
  rcases Registry.register_cases s.registry d with ⟨taken, heq⟩ | ⟨free, made⟩
  · rw [heq, Declaration.refusedAfter_of_mem (h.contains_iff.mp taken), Except.error.injEq, eq_comm]
  · have new : d.name ∉ done.map (·.name) := by
      intro hm
      rw [h.contains_iff.mpr hm] at free
      cases free
    rw [Declaration.refusedAfter_of_not_mem new, ← h.root_eq]
    rcases made with ⟨fault', refused, heq⟩ | ⟨m, made, heq⟩
    · rw [heq, refused]
    · rw [heq, made]

theorem Entered.enter {s' : Session} (h : Entered root done s) (entered : s.enter d = .ok s') :
    Entered root (done ++ [d]) s' := by
  obtain ⟨m, hm, rfl⟩ := enter_eq_ok_iff_register.mp entered
  obtain ⟨-, made⟩ := Registry.register_eq_ok_iff.mp hm
  rw [h.root_eq] at made
  refine ⟨?_, ?_, ?_⟩
  · rw [registry_register, Registry.root_register, h.root_eq]
  · rw [registry_register]
    exact h.coherent.register d
  · rw [registry_register, Registry.register_of_ok hm]
    exact List.rel_append h.declared (.cons made .nil)

/-- What speaks against a declaration after earlier ones, with its name. -/
def refusals (root : Text) (earlier : List Declaration) (d : Declaration) (e : LoadError) : Prop :=
  ∃ fault, d.RefusedAfter root earlier fault ∧ e = .declaration d.name fault

theorem follows_enter (root : Text) : Follows Session.enter (refusals root) (Entered root) where
  error_iff h := h.enter_eq_error_iff
  next h entered := h.enter entered

/-! ## All declarations -/

theorem registerAll_fst (l : List Declaration) (s : Session) : (registerAll l s).1 = l.foldlM Session.enter s := by
  induction l generalizing s with
  | nil => rfl
  | cons d rest ih =>
    rw [registerAll, List.foldlM_cons, enter]
    rcases s.register d with ⟨fault | m, s'⟩
    · rfl
    · exact ih s'

/-- What stands behind a declaration that fails is not read. -/
theorem registerAll_append_of_error (more : List Declaration) (h : (registerAll l s).1 = .error e) :
    registerAll (l ++ more) s = registerAll l s := by
  induction l generalizing s with
  | nil => cases h
  | cons d rest ih =>
    rw [List.cons_append, registerAll]
    rw [registerAll] at h ⊢
    rcases hr : s.register d with ⟨fault | m, s'⟩
    · rfl
    · rw [hr] at h
      exact ih h

/-- Each declaration gives a method on its own, and no name is given twice. -/
def Sound (root : Text) : List Declaration → Prop :=
  EachOnce (fun d => ∃ m, Method.declare root d = .ok m) Declaration.name

theorem not_refused_iff : (∀ e, ¬ refusals root done d e) ↔
    (∃ m, Method.declare root d = .ok m) ∧ d.name ∉ done.map (·.name) := by
  unfold refusals
  by_cases taken : d.name ∈ done.map (·.name)
  · simp [taken, Declaration.refusedAfter_of_mem taken]
  · simp only [Declaration.refusedAfter_of_not_mem taken]
    cases Method.declare root d <;> simp [taken]

theorem faultless_iff_sound : Faultless (refusals root) l ↔ Sound root l :=
  faultless_iff_eachOnce fun _ _ _ => not_refused_iff

theorem exists_error_of_refused {fault : EndpointError} (h : d.RefusedAfter root done fault) :
    ∃ e, (registerAll (done ++ [d]) (start root)).1 = .error e := by
  rw [registerAll_fst]
  cases run : (done ++ [d]).foldlM Session.enter (start root) with
  | error e => exact ⟨e, rfl⟩
  | ok s =>
    have passed := ((follows_enter root).exists_foldlM_eq_ok_iff (entered_start root)).mp ⟨s, run⟩
    exact absurd ⟨fault, h, rfl⟩ ((faultless_concat.mp passed).2 _)

/-- **Loading is all or nothing, and the first bad declaration is blamed.** Settings are loaded exactly when no two
    methods have one name and each declaration gives a method on its own under the prefix. The registry then has one
    method for each declaration, in their order, and each is the one that registering it alone would give. Otherwise
    there is only the error of the first declaration that is refused after those before it, with its name: for the name
    if an earlier one has it, even when its template is wrong too, and else for what is wrong with it alone. Whatever
    follows that declaration, the answer and what was reported are the same. -/
theorem load_exact (settings : Settings) :
    ((∃ s, (load settings).1 = .ok s) ↔ Sound settings.root settings.methods) ∧
    (∀ s, (load settings).1 = .ok s → s.registry.root = settings.root ∧
      List.Forall₂ (fun d m => ((Registry.empty settings.root).register d).1 = .ok m)
        settings.methods s.registry.methods) ∧
    (∀ e, (load settings).1 = .error e ↔ ∃ before d after fault, settings.methods = before ++ d :: after ∧
      Sound settings.root before ∧ d.RefusedAfter settings.root before fault ∧ e = .declaration d.name fault) ∧
    ∀ before d after fault, settings.methods = before ++ d :: after → d.RefusedAfter settings.root before fault →
      ∀ later, load ⟨settings.root, before ++ d :: later⟩ = load settings := by
  have follows := follows_enter settings.root
  have begun := entered_start settings.root
  have run : (load settings).1 = settings.methods.foldlM Session.enter (start settings.root) := registerAll_fst _ _
  refine ⟨?_, fun s loaded => ?_, fun e => ?_, fun before d after fault split refused later => ?_⟩
  · rw [run, follows.exists_foldlM_eq_ok_iff begun, faultless_iff_sound]
  · have entered := follows.holds_of_foldlM begun (run.symm.trans loaded)
    exact ⟨entered.root_eq, entered.declared.imp fun _ _ hm => Registry.register_empty_eq_ok_iff.mpr hm⟩
  · rw [run, follows.foldlM_eq_error_iff begun]
    unfold FirstFault
    simp only [faultless_iff_sound]
    constructor
    · intro h
      obtain ⟨before, d, after, split, sound, fault, refused, rfl⟩ := h
      exact ⟨before, d, after, fault, split, sound, refused, rfl⟩
    · intro h
      obtain ⟨before, d, after, fault, split, sound, refused, rfl⟩ := h
      exact ⟨before, d, after, split, sound, fault, refused, rfl⟩
  · obtain ⟨e, failed⟩ := exists_error_of_refused refused
    have upTo : ∀ rest, load ⟨settings.root, before ++ d :: rest⟩ =
        registerAll (before ++ [d]) (start settings.root) := by
      intro rest
      rw [← registerAll_append_of_error rest failed, List.append_assoc, List.singleton_append]
      rfl
    rw [upTo later, ← upTo after, ← split]

end Session

end RouteTemplate
