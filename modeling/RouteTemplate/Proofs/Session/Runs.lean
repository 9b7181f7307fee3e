import RouteTemplate.Session
import RouteTemplate.Proofs.Registry.Coherence

/- Sessions over whole runs.

   Operations other than a registration leave the registry as it is (`Session.registry_perform`), and no operation
   spoils what is kept: the registry stays coherent, and each tree that was built is the tree of the method with its
   name (`Session.Kept.perform`). By induction both hold after any run. So the methods of a session are those that
   were registered in the run, in the order of the calls, and a call that fails leaves no trace but its answer
   (`Session.registry_of_run`). -/
namespace RouteTemplate

namespace Session

/-- The answers to operations in turn, and the session after them. -/
def performAll (s : Session) : List Operation → List Answer × Session
  | [] => ([], s)
  | op :: rest =>
    let (answer, s) := s.perform op
    let (answers, s) := s.performAll rest
    (answer :: answers, s)

/-- What was declared and what method it gave, for each registration of a run that succeeded. -/
def registrations (ops : List Operation) (answers : List Answer) : List (Declaration × Method) :=
  (ops.zip answers).filterMap fun
    | (.register d, .registered (.ok m)) => some (d, m)
    | _ => none

variable {s : Session} {m : Method} {d : Declaration} {fault : EndpointError}

theorem performAll_cons (s : Session) (op : Operation) (rest : List Operation) : s.performAll (op :: rest) =
    ((s.perform op).1 :: ((s.perform op).2.performAll rest).1, ((s.perform op).2.performAll rest).2) := rfl

/-! ## The registry -/

theorem register_fst (s : Session) (d : Declaration) : (s.register d).1 = (s.registry.register d).1 := by
  unfold register
  rcases s.registry.register d with ⟨_ | _, _⟩ <;> rfl

theorem registry_register (s : Session) (d : Declaration) :
    (s.register d).2.registry = (s.registry.register d).2 := by
  unfold register
  rcases s.registry.register d with ⟨_ | _, _⟩ <;> rfl

theorem trees_register (s : Session) (d : Declaration) : (s.register d).2.trees = s.trees := by
  unfold register
  rcases s.registry.register d with ⟨_ | _, _⟩ <;> rfl

theorem register_of_error (h : (s.register d).1 = .error fault) : (s.register d).2 = s := by
  have same := Registry.register_of_error (register_fst s d ▸ h)
  unfold register at h ⊢
  rcases hr : s.registry.register d with ⟨_ | _, registry⟩
  · rw [hr] at same
    cases same
    rfl
  · rw [hr] at h
    cases h

theorem registry_tree (s : Session) (m : Method) : (s.tree m).2.registry = s.registry := by
  unfold tree
  split <;> rfl

theorem registry_resolve (s : Session) (m : Method) (r : Request) : (s.resolve m r).2.registry = s.registry :=
  registry_tree s m

theorem routeAmong_cons (r : Request) (m : Method) (rest : List Method) (s : Session) :
    routeAmong r (m :: rest) s = match (s.resolve m r).1 with
      | some arguments => (some ⟨m, arguments⟩, (s.resolve m r).2)
      | none => routeAmong r rest (s.resolve m r).2 := by
  rw [routeAmong]
  rcases s.resolve m r with ⟨_ | _, _⟩ <;> rfl

theorem route_eq (s : Session) (r : Request) :
    s.route r = match (routeAmong r s.registry.methods s).1 with
      | some found => (some found, (routeAmong r s.registry.methods s).2)
      | none => (none, (routeAmong r s.registry.methods s).2.report [.noMethodMatched r.display]) := by
  rw [route]
  rcases routeAmong r s.registry.methods s with ⟨_ | _, _⟩ <;> rfl

theorem registry_routeAmong (r : Request) : ∀ (methods : List Method) (s : Session),
    (routeAmong r methods s).2.registry = s.registry
  | [], _ => rfl
  | m :: rest, s => by
    rw [routeAmong_cons]
    split
    · exact registry_resolve s m r
    · exact (registry_routeAmong r rest _).trans (registry_resolve s m r)

theorem registry_route (s : Session) (r : Request) : (s.route r).2.registry = s.registry := by
  rw [route_eq]
  split <;> exact registry_routeAmong r s.registry.methods s

theorem registry_routeTarget (s : Session) (target : Text) : (s.routeTarget target).2.registry = s.registry := by
  unfold routeTarget
  rcases Request.parse target with _ | r
  · rfl
  · exact registry_route (s.report _) r

theorem registry_withMethod {α : Type} (s : Session) (name : Text) (act : Method → α × Session)
    (h : ∀ m, (act m).2.registry = s.registry) : (s.withMethod name act).2.registry = s.registry := by
  unfold withMethod
  split
  · rfl
  · exact h _

theorem registry_perform (s : Session) (op : Operation) : (s.perform op).2.registry =
    match op with
    | .register d => (s.registry.register d).2
    | _ => s.registry := by
  cases op with
  | register d => exact registry_register s d
  | list | get name => rfl
  | tree name => exact registry_withMethod s name s.tree fun m => registry_tree s m
  | enumerate name => exact registry_withMethod s name s.enumerate fun m => registry_tree s m
  | fill name present values =>
    rw [perform]
    exact registry_withMethod s name _ fun _ => rfl
  | resolve name r => exact registry_withMethod s name _ fun m => registry_resolve s m r
  | route r => exact registry_route s r
  | routeTarget target => exact registry_routeTarget s target

/-! ## The trees -/

/-- The registry is coherent, and each tree there is belongs to the method with its name. -/
structure Kept (s : Session) : Prop where
  coherent : s.registry.Coherent
  trees : ∀ name t, s.trees.get? name = some t →
    ∃ m ∈ s.registry.methods, m.name = name ∧ t = ResolveTree.build m.endpoint

theorem kept_start (root : Text) : (start root).Kept :=
  ⟨Registry.coherent_empty root, fun _ _ h => by cases h⟩

theorem Kept.report (h : s.Kept) (events : List Event) : (s.report events).Kept := ⟨h.coherent, h.trees⟩

theorem Kept.register (h : s.Kept) (d : Declaration) : (s.register d).2.Kept where
  coherent := registry_register s d ▸ h.coherent.register d
  trees name t ht := by
    rw [trees_register] at ht
    obtain ⟨m, hm, named, built⟩ := h.trees name t ht
    rw [registry_register]
    exact ⟨m, Registry.mem_methods_register hm d, named, built⟩

theorem Kept.tree (h : s.Kept) (hm : m ∈ s.registry.methods) :
    (s.tree m).1 = ResolveTree.build m.endpoint ∧ (s.tree m).2.Kept := by
  unfold Session.tree
  split
  · next t ht =>
    -- Names differ, so the method that the tree was built for is this one.
    obtain ⟨m', hm', named, rfl⟩ := h.trees m.name t ht
    have same : m' = m := List.inj_on_of_nodup_map h.coherent.nodup_names hm' hm named
    exact ⟨by rw [same], h⟩
  · refine ⟨rfl, h.coherent, fun name t ht => ?_⟩
    rw [show (({ s with trees := s.trees.insert m.name (ResolveTree.build m.endpoint) } : Session).report _).trees =
      s.trees.insert m.name (ResolveTree.build m.endpoint) from rfl, Dict.get?_insert] at ht
    split at ht
    · next named => exact ⟨m, hm, named, (Option.some.inj ht).symm⟩
    · exact h.trees name t ht

theorem Kept.resolve (h : s.Kept) (hm : m ∈ s.registry.methods) (r : Request) :
    (s.resolve m r).1 = m.resolve r ∧ (s.resolve m r).2.Kept := by
  obtain ⟨built, kept⟩ := h.tree hm
  exact ⟨congrArg (ResolveTree.resolve · r) built, kept⟩

/-- The first among methods to match. -/
def firstAmong (r : Request) (methods : List Method) : Option Match :=
  methods.findSome? fun m => (m.resolve r).map fun arguments => ⟨m, arguments⟩

theorem Kept.routeAmong (r : Request) : ∀ {methods : List Method} {s : Session}, s.Kept →
    (∀ m ∈ methods, m ∈ s.registry.methods) →
      (Session.routeAmong r methods s).1 = firstAmong r methods ∧ (Session.routeAmong r methods s).2.Kept
  | [], _, h, _ => ⟨rfl, h⟩
  | m :: rest, s, h, hm => by
    obtain ⟨answer, kept⟩ := h.resolve (hm m List.mem_cons_self) r
    rw [firstAmong, List.findSome?_cons, ← answer, routeAmong_cons]
    cases (s.resolve m r).1 with
    | some arguments => exact ⟨rfl, kept⟩
    | none =>
      refine Kept.routeAmong r kept fun m' hm' => ?_
      rw [registry_resolve]
      exact hm m' (List.mem_cons_of_mem _ hm')

/-- A request goes to the first method, in the order of the registry, that resolves it. -/
theorem Kept.route (h : s.Kept) (r : Request) : (s.route r).1 = s.registry.route r ∧ (s.route r).2.Kept := by
  obtain ⟨answer, kept⟩ := Kept.routeAmong r h fun m hm => hm
  rw [route_eq, answer]
  cases hfirst : firstAmong r s.registry.methods with
  | some found => exact ⟨hfirst.symm, kept⟩
  | none => exact ⟨hfirst.symm, kept.report _⟩

theorem Kept.routeTarget (h : s.Kept) (target : Text) :
    (s.routeTarget target).1 = (Request.parse target).map s.registry.route ∧ (s.routeTarget target).2.Kept := by
  unfold Session.routeTarget
  rcases Request.parse target with fault | r
  · exact ⟨rfl, h.report _⟩
  · obtain ⟨answer, kept⟩ := (h.report (Request.events target (.ok r))).route r
    exact ⟨congrArg Except.ok answer, kept⟩

theorem Kept.withMethod {α : Type} (h : s.Kept) (name : Text) (act : Method → α × Session)
    (hact : ∀ m ∈ s.registry.methods, (act m).2.Kept) : (s.withMethod name act).2.Kept := by
  unfold Session.withMethod
  split
  · exact h
  · next m hfind => exact hact m (h.coherent.find?_eq_some_iff.mp hfind).1

/-- Whatever is done, what is kept stays right. -/
theorem Kept.perform (h : s.Kept) (op : Operation) : (s.perform op).2.Kept := by
  cases op with
  | register d => exact h.register d
  | list | get name => exact h
  | tree name => exact h.withMethod name s.tree fun m hm => (h.tree hm).2
  | enumerate name => exact h.withMethod name s.enumerate fun m hm => (h.tree hm).2
  | fill name present values =>
    rw [Session.perform]
    exact h.withMethod name _ fun _ _ => h
  | resolve name r => exact h.withMethod name _ fun m hm => (h.resolve hm r).2
  | route r => exact (h.route r).2
  | routeTarget target => exact (h.routeTarget target).2

theorem Kept.performAll (h : s.Kept) (ops : List Operation) : (s.performAll ops).2.Kept := by
  induction ops generalizing s with
  | nil => exact h
  | cons op ops ih => exact ih (h.perform op)

/-! ## What a run registers -/

/-- What one operation registers. -/
theorem registrations_cons (op : Operation) (answer : Answer) (ops : List Operation) (answers : List Answer) :
    registrations (op :: ops) (answer :: answers) =
      registrations [op] [answer] ++ registrations ops answers := by
  simp only [registrations, List.zip_cons_cons, List.zip_nil_right, ← List.filterMap_append, List.cons_append,
    List.nil_append]

theorem methods_perform (s : Session) (op : Operation) :
    (s.perform op).2.registry.root = s.registry.root ∧
    (s.perform op).2.registry.methods = s.registry.methods ++ (registrations [op] [(s.perform op).1]).map (·.2) ∧
    ∀ call ∈ registrations [op] [(s.perform op).1], Method.declare s.registry.root call.1 = .ok call.2 := by
  rw [registry_perform]
  cases op with
  | register d =>
    have answer : (s.perform (.register d)).1 = .registered (s.registry.register d).1 :=
      congrArg Answer.registered (register_fst s d)
    rw [answer]
    refine ⟨Registry.root_register _ d, ?_⟩
    dsimp only
    cases hr : (s.registry.register d).1 with
    | error fault =>
      rw [Registry.register_of_error hr]
      simp [registrations]
    | ok m =>
      obtain ⟨-, hm⟩ := Registry.register_eq_ok_iff.mp hr
      rw [Registry.register_of_ok hr]
      simp [registrations, Registry.push, hm]
  | _ => simp [registrations]

theorem methods_performAll : ∀ (ops : List Operation) (s : Session),
    (s.performAll ops).2.registry.root = s.registry.root ∧
    (s.performAll ops).2.registry.methods =
      s.registry.methods ++ (registrations ops (s.performAll ops).1).map (·.2) ∧
    ∀ call ∈ registrations ops (s.performAll ops).1, Method.declare s.registry.root call.1 = .ok call.2
  | [], s => by simp [performAll, registrations]
  | op :: ops, s => by
    obtain ⟨root, methods, declared⟩ := methods_perform s op
    obtain ⟨root', methods', declared'⟩ := methods_performAll ops (s.perform op).2
    rw [performAll_cons, registrations_cons]
    refine ⟨root'.trans root, by rw [methods', methods, List.map_append, List.append_assoc], fun call hcall => ?_⟩
    rcases List.mem_append.mp hcall with hcall | hcall
    · exact declared call hcall
    · rw [← root]
      exact declared' call hcall

/-- A call that fails leaves no trace but its answer. -/
theorem performAll_register_of_error (h : (s.register d).1 = .error fault) (later : List Operation) :
    s.performAll (.register d :: later) =
      (.registered (.error fault) :: (s.performAll later).1, (s.performAll later).2) := by
  have unchanged : (s.perform (.register d)).2 = s := register_of_error h
  have answer : (s.perform (.register d)).1 = .registered (.error fault) := congrArg Answer.registered h
  rw [performAll_cons, unchanged, answer]

section
variable (root : Text) (ops : List Operation)

theorem methods_of_run : ((start root).performAll ops).2.registry.methods =
    (registrations ops ((start root).performAll ops).1).map (·.2) :=
  (methods_performAll ops (start root)).2.1

variable {root ops}

theorem declare_of_registered {call : Declaration × Method}
    (hcall : call ∈ registrations ops ((start root).performAll ops).1) : Method.declare root call.1 = .ok call.2 :=
  (methods_performAll ops (start root)).2.2 call hcall

theorem mem_methods_of_run : m ∈ ((start root).performAll ops).2.registry.methods ↔
    ∃ d, (d, m) ∈ registrations ops ((start root).performAll ops).1 := by
  rw [methods_of_run]
  simp

theorem mem_names_of_run {name : Text} : name ∈ ((start root).performAll ops).2.registry.methods.map (·.name) ↔
    ∃ call ∈ registrations ops ((start root).performAll ops).1, call.1.name = name := by
  rw [methods_of_run, List.map_map, List.mem_map]
  refine exists_congr fun call => and_congr_right fun hcall => ?_
  rw [Function.comp_apply, Method.name_of_declare (declare_of_registered hcall)]

end

/-- **A registry holds what was registered.** After any run its methods are those of the registrations that
    succeeded, in the order of the calls, each as its call declared it; their names differ, a name is found when it
    was registered, and its place is that of its method. The next call succeeds exactly when its name was not
    registered and its declaration gives a method, and is refused as taken exactly when its name was registered; a call
    that fails leaves the session as it was, so that all later answers are the same. -/
theorem registry_of_run (root : Text) (ops : List Operation) :
    let s := ((start root).performAll ops).2
    let made := registrations ops ((start root).performAll ops).1
    s.registry.root = root ∧
    s.registry.methods = made.map (·.2) ∧
    (s.registry.methods.map (·.name)).Nodup ∧
    (∀ call ∈ made, Method.declare root call.1 = .ok call.2) ∧
    (∀ name m, s.registry.find? name = some m ↔ ∃ d, (d, m) ∈ made ∧ d.name = name) ∧
    (∀ name place, s.registry.places.get? name = some place ↔
      ∃ m, s.registry.methods[place]? = some m ∧ m.name = name) ∧
    ∀ d,
      (∀ m, (s.register d).1 = .ok m ↔ Method.declare root d = .ok m ∧ ∀ call ∈ made, call.1.name ≠ d.name) ∧
      (∀ name, (s.register d).1 = .error (.duplicateMethod name) ↔ d.name = name ∧ ∃ call ∈ made, call.1.name = name) ∧
      ∀ fault, (s.register d).1 = .error fault → (s.register d).2 = s ∧
        ∀ later, s.performAll (.register d :: later) =
          (.registered (.error fault) :: (s.performAll later).1, (s.performAll later).2) := by
  intro s made
  have coherent : s.registry.Coherent := ((kept_start root).performAll ops).coherent
  have hroot : s.registry.root = root := (methods_performAll ops (start root)).1
  refine ⟨hroot, methods_of_run root ops, coherent.nodup_names,
    fun call hcall => declare_of_registered hcall, fun name m => ?_, fun name place => coherent.places_eq_some_iff,
    fun d => ⟨fun m => ?_, fun name => ?_, fun fault h => ⟨register_of_error h, performAll_register_of_error h⟩⟩⟩
  · rw [coherent.find?_eq_some_iff, mem_methods_of_run, ← exists_and_right]
    refine exists_congr fun d => and_congr_right fun hcall => ?_
    rw [Method.name_of_declare (declare_of_registered hcall)]
  · rw [register_fst, Registry.register_eq_ok_iff, hroot, Bool.eq_false_iff, Ne, coherent.contains_iff,
      mem_names_of_run, and_comm]
    simp only [not_exists, not_and, ne_eq, made]
  · rw [register_fst, Registry.register_eq_duplicate_iff, coherent.contains_iff, mem_names_of_run]
    refine and_congr_right fun heq => ?_
    rw [heq]

end Session

end RouteTemplate
