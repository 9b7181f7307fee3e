import RouteTemplate.Proofs.FirstAppearance
import RouteTemplate.Proofs.ResolveTree.Presence
import RouteTemplate.Proofs.Session.Runs

/- What a session reports, and what it answers.

   Trees are built when they are first needed, so what an operation builds and reports depends on all operations
   before it. What it answers does not: an answer is a matter of the registry alone (`Session.Kept.answer`).

   An operation reaches the trees of some methods: those it asks for by name, and for a request those that are tried
   for it (`Operation.reaches`). The methods reached so far are those whose trees are kept (`Session.Tracks`), and an
   operation reports, beside the trees that it is the first to reach, only what its answer says
   (`Session.Tracks.perform`). Along a run this gives the whole log (`Session.log_of_run`). -/
namespace RouteTemplate

/-! ## Answers -/

/-- The answer of a registry, whatever trees were built. -/
def Operation.answer (registry : Registry) : Operation → Answer
  | .register d => .registered (registry.register d).1
  | .list => .listed registry
  | .get name => .method (registry.find? name)
  | .tree name => .tree ((registry.find? name).map fun m => ResolveTree.build m.endpoint)
  | .enumerate name => .leaves ((registry.find? name).map fun m => (ResolveTree.build m.endpoint).enumerate)
  | .fill name present values =>
    .filled ((registry.find? name).map fun m => m.fill present (Lookup.recording values) [])
  | .resolve name request => .resolved ((registry.find? name).map fun m => m.resolve request)
  | .route request => .routed (.ok (registry.route request))
  | .routeTarget target => .routed ((Request.parse target).map registry.route)

def Operation.registers : Operation → Bool
  | .register _ => true
  | _ => false

namespace Session

variable {s t : Session} {m : Method} {r : Request}

theorem withMethod_fst {α : Type} (s : Session) (name : Text) (act : Method → α × Session) :
    (s.withMethod name act).1 = (s.registry.find? name).map fun m => (act m).1 := by
  unfold withMethod
  cases s.registry.find? name <;> rfl

theorem Kept.withMethod_fst {α : Type} (h : s.Kept) (name : Text) (act : Method → α × Session) {answer : Method → α}
    (hact : ∀ m ∈ s.registry.methods, (act m).1 = answer m) :
    (s.withMethod name act).1 = (s.registry.find? name).map answer := by
  rw [Session.withMethod_fst]
  cases hfind : s.registry.find? name with
  | none => rfl
  | some m => exact congrArg some (hact m (h.coherent.find?_eq_some_iff.mp hfind).1)

theorem Kept.answer (h : s.Kept) (op : Operation) : (s.perform op).1 = op.answer s.registry := by
  cases op with
  | register d => exact congrArg Answer.registered (register_fst s d)
  | list | get name => rfl
  | tree name => exact congrArg Answer.tree (h.withMethod_fst name s.tree fun m hm => (h.tree hm).1)
  | enumerate name =>
    exact congrArg Answer.leaves (h.withMethod_fst name s.enumerate fun m hm =>
      congrArg ResolveTree.enumerate (h.tree hm).1)
  | fill name present values =>
    exact congrArg Answer.filled (h.withMethod_fst name
      (fun m => (m.fill present (Lookup.recording values) [], s)) fun _ _ => rfl)
  | resolve name r =>
    exact congrArg Answer.resolved (h.withMethod_fst name (s.resolve · r) fun m hm => (h.resolve hm r).1)
  | route r => exact congrArg (Answer.routed ∘ Except.ok) (h.route r).1
  | routeTarget target => exact congrArg Answer.routed (h.routeTarget target).1

theorem registry_performAll_filter (ops : List Operation) : ∀ {s t : Session}, s.registry = t.registry →
    (s.performAll (ops.filter (·.registers))).2.registry = (t.performAll ops).2.registry := by
  induction ops with
  | nil => exact fun same => same
  | cons op ops ih =>
    intro s t same
    have after : (t.perform op).2.registry = if op.registers then (s.perform op).2.registry else s.registry := by
      rw [registry_perform, registry_perform, same]
      cases op <;> rfl
    cases hop : op.registers with
    | true =>
      rw [List.filter_cons_of_pos hop]
      exact ih (after.trans (if_pos hop)).symm
    | false =>
      rw [List.filter_cons_of_neg (by simp [hop])]
      exact ih (after.trans (if_neg (by simp [hop]))).symm

theorem trees_performAll_registers {ops : List Operation} (h : ∀ op ∈ ops, op.registers = true) (s : Session) :
    (s.performAll ops).2.trees = s.trees := by
  induction ops generalizing s with
  | nil => rfl
  | cons op ops ih =>
    have first : (s.perform op).2.trees = s.trees := by
      cases op with
      | register d => exact trees_register s d
      | _ => cases h _ List.mem_cons_self
    exact (ih (fun op hm => h op (List.mem_cons_of_mem _ hm)) _).trans first

end Session

/-! ## What operations reach -/

/-- The methods that are tried for a request: up to the first that resolves it, or all. -/
def tried (r : Request) : List Method → List Method
  | [] => []
  | m :: rest => m :: if (m.resolve r).isSome then [] else tried r rest

theorem tried_sublist (r : Request) : ∀ methods : List Method, (tried r methods).Sublist methods
  | [] => .slnil
  | m :: rest => by
    rw [tried]
    split
    · exact (List.nil_sublist rest).cons_cons m
    · exact (tried_sublist r rest).cons_cons m

namespace Operation

/-- The request that is routed, if one is. -/
def request? : Operation → Option Request
  | .route r => some r
  | .routeTarget target => (Request.parse target).toOption
  | _ => none

/-- The methods whose trees are needed. -/
def reaches (registry : Registry) : Operation → List Method
  | .tree name | .enumerate name | .resolve name _ => (registry.find? name).toList
  | .route r => tried r registry.methods
  | .routeTarget target =>
    match Request.parse target with
    | .ok r => tried r registry.methods
    | .error _ => []
  | .register _ | .list | .get _ | .fill .. => []

/-- The request that is routed, when the answer is that no method matches it. -/
def unmatched (op : Operation) : Answer → Option Request
  | .routed (.ok none) => op.request?
  | _ => none

/-- What reading the target reports, if one is read. -/
def refusals : Operation → List Event
  | .routeTarget target => Request.events target (Request.parse target)
  | _ => []

end Operation

/-- The methods reached along a run, in the order in which they are. -/
def Session.reached (s : Session) : List Operation → List Method
  | [] => []
  | op :: rest => op.reaches s.registry ++ (s.perform op).2.reached rest

/-- What is reported when a method is registered. -/
def Method.registered (m : Method) : Event := .methodRegistered m.name m.endpoint.display

/-- What is reported when the tree of a method is built. -/
def Method.treeBuilt (m : Method) : Event :=
  .treeBuilt m.endpoint.display (ResolveTree.build m.endpoint).enumerate.toList.length

/-- What an operation reports beside its answer, when it is the first to reach the given methods. -/
def Operation.reports (op : Operation) (answer : Answer) (first : List Method) : List Event :=
  (Session.registrations [op] [answer]).map (fun call => call.2.registered) ++ op.refusals ++
    first.map Method.treeBuilt ++ (op.unmatched answer).toList.map fun r => .noMethodMatched r.display

namespace Session

variable {s : Session} {m : Method} {reached : List Method}

theorem built_build (m : Method) : (ResolveTree.build m.endpoint).built m.endpoint = m.treeBuilt := by
  rw [ResolveTree.built, ResolveTree.leafCount, Method.treeBuilt, ResolveTree.enumerate,
    SortedSet.length_toList_ofList ResolveTree.nodup_leaves_build]

/-- The session keeps trees for exactly the methods that were reached. -/
structure Tracks (s : Session) (reached : List Method) : Prop extends Kept s where
  stored : ∀ m ∈ reached, m ∈ s.registry.methods
  built : ∀ m ∈ s.registry.methods, (s.trees.contains m.name = true ↔ m ∈ reached)

theorem tracks_start (root : Text) : (start root).Tracks [] :=
  { kept_start root with stored := fun _ h => (by cases h), built := fun _ h => (by cases h) }

theorem Tracks.report (h : s.Tracks reached) (events : List Event) : (s.report events).Tracks reached :=
  { h.toKept.report events with stored := h.stored, built := h.built }

theorem Tracks.unchanged (h : s.Tracks reached) :
    s.log = s.log ++ ([].filter (· ∉ reached)).map Method.treeBuilt ∧ s.Tracks (reached ++ []) := by
  rw [List.append_nil]
  exact ⟨(List.append_nil s.log).symm, h⟩

theorem Tracks.tree (h : s.Tracks reached) (hm : m ∈ s.registry.methods) :
    (s.tree m).2.log = s.log ++ ([m].filter (· ∉ reached)).map Method.treeBuilt ∧
    (s.tree m).2.Tracks (reached ++ [m]) := by
  have kept := (h.toKept.tree hm).2
  have stored : ∀ m' ∈ reached ++ [m], m' ∈ s.registry.methods := by
    intro m' hm'
    rcases List.mem_append.mp hm' with hm' | hm'
    · exact h.stored m' hm'
    · exact List.mem_singleton.mp hm' ▸ hm
  by_cases known : m ∈ reached
  · obtain ⟨t, ht⟩ := Dict.contains_iff.mp ((h.built m hm).mpr known)
    have same : (s.tree m).2 = s := by rw [Session.tree, ht]
    rw [same]
    refine ⟨by simp [known], { h.toKept with stored := stored, built := fun m' hm' => ?_ }⟩
    rw [h.built m' hm', List.mem_append, List.mem_singleton]
    exact ⟨.inl, fun hor => hor.elim id fun heq => heq ▸ known⟩
  · have absent : s.trees.get? m.name = none := Option.not_isSome_iff_eq_none.mp (mt (h.built m hm).mp known)
    have grown : (s.tree m).2 =
        ({ s with trees := s.trees.insert m.name (ResolveTree.build m.endpoint) } : Session).report [m.treeBuilt] := by
      rw [Session.tree, absent, ← built_build]
    rw [grown] at kept ⊢
    refine ⟨by simp [known, Session.report], { kept with stored := stored, built := fun m' hm' => ?_ }⟩
    rw [List.mem_append, List.mem_singleton, ← h.built m' hm']
    simp only [Session.report, Dict.contains, Dict.get?_insert]
    split
    · next named =>
      -- Names differ, so it is the tree of this method that was asked for.
      exact iff_of_true rfl (.inr (List.inj_on_of_nodup_map h.coherent.nodup_names hm' hm named.symm))
    · next other => exact ⟨.inl, fun hor => hor.elim id fun heq => absurd (congrArg Method.name heq.symm) other⟩

theorem Tracks.routeAmong (r : Request) {methods : List Method} (hd : methods.Nodup) :
    ∀ {s : Session} {reached : List Method}, s.Tracks reached → (∀ m ∈ methods, m ∈ s.registry.methods) →
      (Session.routeAmong r methods s).2.log =
        s.log ++ ((tried r methods).filter (· ∉ reached)).map Method.treeBuilt ∧
      (Session.routeAmong r methods s).2.Tracks (reached ++ tried r methods) := by
  induction methods with
  | nil =>
    intro s reached h _
    exact h.unchanged
  | cons m rest ih =>
    intro s reached h hm
    obtain ⟨fresh, hd⟩ := List.nodup_cons.mp hd
    have here := hm m List.mem_cons_self
    obtain ⟨log, tracks⟩ := h.tree here
    rw [routeAmong_cons, (h.toKept.resolve here r).1, tried]
    cases m.resolve r with
    | some arguments => exact ⟨log, tracks⟩
    | none =>
      obtain ⟨log', tracks'⟩ := ih hd tracks fun m' hm' => by
        rw [registry_tree]
        exact hm m' (List.mem_cons_of_mem _ hm')
      -- The first method is not tried again, so it does not matter that it was reached.
      have others : (tried r rest).filter (· ∉ reached ++ [m]) = (tried r rest).filter (· ∉ reached) := by
        refine List.filter_congr fun m' hm' => ?_
        have distinct : m' ≠ m := fun heq => fresh (heq ▸ (tried_sublist r rest).subset hm')
        simp [distinct]
      rw [log, others, List.append_assoc, ← List.map_append, ← List.filter_append] at log'
      rw [List.append_assoc] at tracks'
      exact ⟨log', tracks'⟩

/-- A request reaches the methods that are tried for it, and is reported when none matches. -/
theorem Tracks.route (h : s.Tracks reached) (r : Request) :
    (s.route r).2.log = s.log ++ ((tried r s.registry.methods).filter (· ∉ reached)).map Method.treeBuilt ++
      (if (s.route r).1 = none then [.noMethodMatched r.display] else []) ∧
    (s.route r).2.Tracks (reached ++ tried r s.registry.methods) := by
  obtain ⟨log, tracks⟩ := Tracks.routeAmong r (.of_map _ h.coherent.nodup_names) h fun m hm => hm
  rw [route_eq]
  cases (Session.routeAmong r s.registry.methods s).1 with
  | some found => exact ⟨by simp [log], tracks⟩
  | none => exact ⟨by simp [Session.report, log], tracks.report _⟩

theorem Tracks.withMethod {α : Type} (h : s.Tracks reached) (name : Text) (act : Method → α × Session)
    (hact : ∀ m, (act m).2 = (s.tree m).2) :
    (s.withMethod name act).2.log =
      s.log ++ ((s.registry.find? name).toList.filter (· ∉ reached)).map Method.treeBuilt ∧
    (s.withMethod name act).2.Tracks (reached ++ (s.registry.find? name).toList) := by
  unfold Session.withMethod
  cases hfind : s.registry.find? name with
  | none => exact h.unchanged
  | some m =>
    simp only [hact, Option.toList_some]
    exact h.tree (h.coherent.find?_eq_some_iff.mp hfind).1

theorem Tracks.register (h : s.Tracks reached) (d : Declaration) :
    (s.register d).2.log = s.log ++
      (registrations [.register d] [.registered (s.register d).1]).map (fun call => call.2.registered) ∧
    (s.register d).2.Tracks reached := by
  cases hr : (s.register d).1 with
  | error fault =>
    rw [register_of_error hr]
    exact ⟨(List.append_nil _).symm, h⟩
  | ok m =>
    rw [register_fst] at hr
    obtain ⟨free, hm⟩ := Registry.register_eq_ok_iff.mp hr
    have registered : (s.register d).2 =
        ({ s with registry := s.registry.push m } : Session).report [m.registered] := by
      rw [Session.register, ← Registry.register_of_ok hr]
      rcases hboth : s.registry.register d with ⟨result, next⟩
      rw [hboth] at hr
      cases hr
      rfl
    have new : ∀ m' ∈ s.registry.methods, m'.name ≠ m.name := by
      intro m' hm' named
      have taken := h.coherent.contains_iff.mpr (List.mem_map.mpr ⟨m', hm', named⟩)
      rw [Method.name_of_declare hm, free] at taken
      cases taken
    have kept := h.toKept.register d
    rw [registered] at kept ⊢
    have stored : ∀ m' ∈ reached, m' ∈ s.registry.methods ++ [m] := fun m' hm' =>
      List.mem_append_left [m] (h.stored m' hm')
    refine ⟨rfl, { kept with stored := stored, built := fun m' hm' => ?_ }⟩
    rcases List.mem_append.mp hm' with hm' | hm'
    · exact h.built m' hm'
    · rw [List.mem_singleton.mp hm']
      refine iff_of_false (fun contained => ?_) fun hreached => new m (h.stored m hreached) rfl
      obtain ⟨t, ht⟩ := Dict.contains_iff.mp contained
      obtain ⟨m', hm', named, -⟩ := h.trees m.name t ht
      exact new m' hm' named

/-- An operation that registers nothing, reads no target and routes no request reports the trees it builds. -/
theorem reports_eq_treeBuilt {op : Operation} {answer : Answer} (registers : registrations [op] [answer] = [])
    (reads : op.refusals = []) (routes : op.unmatched answer = none) (first : List Method) :
    op.reports answer first = first.map Method.treeBuilt := by
  rw [Operation.reports, registers, reads, routes]
  simp

theorem reports_routed {op : Operation} {r : Request} (h : op.request? = some r) (found : Option Match)
    (first : List Method) (registers : registrations [op] [.routed (.ok found)] = []) :
    op.reports (.routed (.ok found)) first = op.refusals ++
      (first.map Method.treeBuilt ++ if found = none then [.noMethodMatched r.display] else []) := by
  rw [Operation.reports, registers]
  cases found <;> simp [Operation.unmatched, h]

theorem Tracks.routeTarget (h : s.Tracks reached) (target : Text) :
    (s.perform (.routeTarget target)).2.log = s.log ++
      (Operation.routeTarget target).reports (s.perform (.routeTarget target)).1
        (((Operation.routeTarget target).reaches s.registry).filter (· ∉ reached)) ∧
    (s.perform (.routeTarget target)).2.Tracks (reached ++ (Operation.routeTarget target).reaches s.registry) := by
  have reported := h.report (Operation.routeTarget target).refusals
  cases hread : Request.parse target with
  | error fault =>
    have refused : s.perform (.routeTarget target) =
        (.routed (.error fault), s.report (Operation.routeTarget target).refusals) := by
      simp only [Session.perform, Session.routeTarget, Operation.refusals, hread]
    have nothing : (Operation.routeTarget target).reaches s.registry = [] := by
      simp only [Operation.reaches, hread]
    rw [refused, nothing, List.append_nil, Operation.reports]
    exact ⟨by simp [registrations, Operation.unmatched, Session.report], reported⟩
  | ok r =>
    have read : s.perform (.routeTarget target) =
        (.routed (.ok ((s.report (Operation.routeTarget target).refusals).route r).1),
          ((s.report (Operation.routeTarget target).refusals).route r).2) := by
      simp only [Session.perform, Session.routeTarget, Operation.refusals, hread]
    have tries : (Operation.routeTarget target).reaches s.registry = tried r s.registry.methods := by
      simp only [Operation.reaches, hread]
    have routes : (Operation.routeTarget target).request? = some r := by
      rw [Operation.request?, hread]
      rfl
    obtain ⟨log, tracks⟩ := reported.route r
    rw [read, tries, reports_routed routes _ _ rfl]
    refine ⟨log.trans ?_, tracks⟩
    simp only [Session.report, List.append_assoc]

/-- An operation reports what its answer says, and the trees that it is the first to reach. -/
theorem Tracks.perform (h : s.Tracks reached) (op : Operation) :
    (s.perform op).2.log = s.log ++ op.reports (s.perform op).1 ((op.reaches s.registry).filter (· ∉ reached)) ∧
    (s.perform op).2.Tracks (reached ++ op.reaches s.registry) := by
  cases op with
  | register d =>
    obtain ⟨log, tracks⟩ := h.register d
    have reported : (Operation.register d).reports (s.perform (.register d)).1 [] =
        (registrations [.register d] [.registered (s.register d).1]).map (fun call => call.2.registered) := by
      rw [Operation.reports]
      simp [Operation.refusals, Operation.unmatched, Session.perform]
    rw [Operation.reaches, List.filter_nil, reported, List.append_nil]
    exact ⟨log, tracks⟩
  | list | get name =>
    rw [reports_eq_treeBuilt rfl rfl rfl]
    exact h.unchanged
  | tree name =>
    rw [reports_eq_treeBuilt rfl rfl rfl]
    exact h.withMethod name s.tree fun m => rfl
  | enumerate name =>
    rw [reports_eq_treeBuilt rfl rfl rfl]
    exact h.withMethod name s.enumerate fun m => rfl
  | fill name present values =>
    have same : (s.perform (.fill name present values)).2 = s := by
      rw [Session.perform, Session.withMethod]
      cases s.registry.find? name <;> rfl
    rw [reports_eq_treeBuilt rfl rfl rfl, same]
    exact h.unchanged
  | resolve name r =>
    rw [reports_eq_treeBuilt rfl rfl rfl]
    exact h.withMethod name (s.resolve · r) fun m => rfl
  | route r =>
    obtain ⟨log, tracks⟩ := h.route r
    refine ⟨?_, tracks⟩
    rw [show (s.perform (.route r)).1 = .routed (.ok (s.route r).1) from rfl, reports_routed rfl _ _ rfl]
    exact log.trans (List.append_assoc _ _ _)
  | routeTarget target => exact h.routeTarget target

/-! ## The log of a run -/

/-- The events with a message, in the order in which they were reported. -/
def logged (s : Session) (message : Text) : List Event := s.log.filter (·.message = message)

theorem filter_message {events : List Event} {own : Text} (h : ∀ event ∈ events, event.message = own)
    (message : Text) : events.filter (·.message = message) = if own = message then events else [] := by
  split
  · next same => exact List.filter_eq_self.mpr fun event hm => decide_eq_true ((h event hm).trans same)
  · next other => exact List.filter_eq_nil_iff.mpr fun event hm => by simpa [h event hm] using other

theorem message_of_mem_refusals {op : Operation} {event : Event} (h : event ∈ op.refusals) :
    event.message = "Malformed query entry".toList := by
  cases op with
  | routeTarget target =>
    rw [Operation.refusals, Request.events.eq_def] at h
    split at h
    · rw [List.mem_singleton.mp h]
      rfl
    · cases h
    · cases h
  | _ => cases h

/-- Each part of what an operation reports has a message of its own. -/
theorem filter_reports (op : Operation) (answer : Answer) (first : List Method) (message : Text) :
    (op.reports answer first).filter (·.message = message) =
      (if "Registered method".toList = message then
        (registrations [op] [answer]).map (fun call => call.2.registered) else []) ++
      (if "Malformed query entry".toList = message then op.refusals else []) ++
      (if "Built resolve tree".toList = message then first.map Method.treeBuilt else []) ++
      (if "No method matched request".toList = message then
        (op.unmatched answer).toList.map fun r => .noMethodMatched r.display else []) := by
  rw [Operation.reports, List.filter_append, List.filter_append, List.filter_append,
    filter_message fun event hm => ?registered, filter_message fun event hm => message_of_mem_refusals hm,
    filter_message fun event hm => ?built, filter_message fun event hm => ?unmatched]
  case registered =>
    obtain ⟨call, -, rfl⟩ := List.mem_map.mp hm
    rfl
  case built =>
    obtain ⟨m, -, rfl⟩ := List.mem_map.mp hm
    rfl
  case unmatched =>
    obtain ⟨r, -, rfl⟩ := List.mem_map.mp hm
    rfl

section
variable (h : s.Tracks reached) (op : Operation)
include h

theorem Tracks.logged_perform (message : Text) : (s.perform op).2.logged message = s.logged message ++
    (op.reports (s.perform op).1 ((op.reaches s.registry).filter (· ∉ reached))).filter (·.message = message) := by
  rw [logged, (h.perform op).1, List.filter_append, logged]

theorem Tracks.registered_perform : (s.perform op).2.logged "Registered method".toList =
    s.logged "Registered method".toList ++
      (registrations [op] [(s.perform op).1]).map (fun call => call.2.registered) := by
  rw [h.logged_perform, filter_reports, if_pos rfl, if_neg (by decide), if_neg (by decide), if_neg (by decide)]
  simp

theorem Tracks.built_perform : (s.perform op).2.logged "Built resolve tree".toList =
    s.logged "Built resolve tree".toList ++ ((op.reaches s.registry).filter (· ∉ reached)).map Method.treeBuilt := by
  rw [h.logged_perform, filter_reports, if_neg (by decide), if_neg (by decide), if_pos rfl, if_neg (by decide)]
  simp

theorem Tracks.unmatched_perform : (s.perform op).2.logged "No method matched request".toList =
    s.logged "No method matched request".toList ++
      (op.unmatched (s.perform op).1).toList.map fun r => .noMethodMatched r.display := by
  rw [h.logged_perform, filter_reports, if_neg (by decide), if_neg (by decide), if_neg (by decide), if_pos rfl]
  simp

theorem Tracks.nodup_reaches : (op.reaches s.registry).Nodup := by
  have routed : ∀ r, (tried r s.registry.methods).Nodup := fun r =>
    (tried_sublist r _).nodup (.of_map _ h.coherent.nodup_names)
  cases op with
  | tree name | enumerate name | resolve name =>
    rw [Operation.reaches]
    cases s.registry.find? name <;> simp
  | route r => exact routed r
  | routeTarget target =>
    rw [Operation.reaches]
    cases Request.parse target with
    | error fault => exact .nil
    | ok r => exact routed r
  | _ => exact .nil

/-- A method is reported the first time it is reached. -/
theorem Tracks.built_eraseDups (log : s.logged "Built resolve tree".toList = reached.eraseDups.map Method.treeBuilt) :
    (s.perform op).2.logged "Built resolve tree".toList =
      (reached ++ op.reaches s.registry).eraseDups.map Method.treeBuilt := by
  rw [h.built_perform, log, eraseDups_append_of_nodup reached (h.nodup_reaches op), List.map_append]

end

theorem Tracks.performAll (ops : List Operation) : ∀ {s : Session} {reached : List Method}, s.Tracks reached →
    (s.performAll ops).2.Tracks (reached ++ s.reached ops) ∧
    (s.performAll ops).2.logged "Registered method".toList = s.logged "Registered method".toList ++
      (registrations ops (s.performAll ops).1).map (fun call => call.2.registered) ∧
    (s.logged "Built resolve tree".toList = reached.eraseDups.map Method.treeBuilt →
      (s.performAll ops).2.logged "Built resolve tree".toList =
        (reached ++ s.reached ops).eraseDups.map Method.treeBuilt) := by
  induction ops with
  | nil =>
    intro s reached h
    rw [Session.reached, List.append_nil]
    exact ⟨h, (List.append_nil _).symm, id⟩
  | cons op ops ih =>
    intro s reached h
    obtain ⟨tracks, registered, built⟩ := ih (h.perform op).2
    rw [performAll_cons, Session.reached, ← List.append_assoc, registrations_cons, List.map_append]
    refine ⟨tracks, ?_, fun log => built (h.built_eraseDups op log)⟩
    rw [registered, h.registered_perform, List.append_assoc]

/-- **Trees are built once, and do not show in answers.** After any run the registrations in the log are those that
    succeeded, in the order of the calls, each with the endpoint as it is stored. The trees reported are those of the
    methods that were reached, each at the first time and never again, with as many leaves as the method has shapes.
    The run of the registrations alone has the same methods and no trees. Whatever operation comes next, its answer is
    the same in both; it reports the trees of the methods that it is the first to reach, and it reports a request
    without a match exactly when it routes one and answers that there is none. -/
theorem log_of_run (root : Text) (ops : List Operation) :
    let answers := ((start root).performAll ops).1
    let s := ((start root).performAll ops).2
    let reached := (start root).reached ops
    let fresh := ((start root).performAll (ops.filter (·.registers))).2
    s.logged "Registered method".toList = (registrations ops answers).map (fun call => call.2.registered) ∧
    s.logged "Built resolve tree".toList = reached.eraseDups.map Method.treeBuilt ∧
    reached.eraseDups.Nodup ∧ (∀ m ∈ reached, m ∈ s.registry.methods) ∧
    fresh.registry = s.registry ∧ fresh.trees = .empty ∧
    ∀ op,
      (s.perform op).1 = (fresh.perform op).1 ∧
      (s.perform op).2.logged "Built resolve tree".toList = s.logged "Built resolve tree".toList ++
        ((op.reaches s.registry).filter (· ∉ reached)).map Method.treeBuilt ∧
      (s.perform op).2.logged "No method matched request".toList = s.logged "No method matched request".toList ++
        (op.unmatched (s.perform op).1).toList.map fun r => .noMethodMatched r.display := by
  intro answers s reached fresh
  obtain ⟨tracks, registered, built⟩ := (tracks_start root).performAll ops
  rw [List.nil_append] at tracks built
  have same : fresh.registry = s.registry := registry_performAll_filter ops rfl
  have bare : fresh.trees = .empty := trees_performAll_registers (fun op hm => (List.mem_filter.mp hm).2) (start root)
  refine ⟨registered, built rfl, nodup_eraseDups reached, tracks.stored, same, bare, fun op =>
    ⟨?_, tracks.built_perform op, tracks.unmatched_perform op⟩⟩
  rw [tracks.toKept.answer, ((kept_start root).performAll _).answer, same]

/-- The first target goes to the first method, so the tree of the second is built for the next target, and no more when
    it is asked for. -/
example : ((start "v1".toList).performAll [.register ⟨"ping".toList, none, []⟩, .register ⟨"pong".toList, none, []⟩,
    .routeTarget "/v1/ping".toList, .routeTarget "/v1/none".toList, .tree "pong".toList]).2.log =
      [.methodRegistered "ping".toList "v1/ping".toList, .methodRegistered "pong".toList "v1/pong".toList,
        .treeBuilt "v1/ping".toList 1, .treeBuilt "v1/pong".toList 1, .noMethodMatched "v1/none".toList] := by
  decide +kernel

end Session

end RouteTemplate
