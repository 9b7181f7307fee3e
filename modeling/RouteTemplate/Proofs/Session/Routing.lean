import RouteTemplate.Proofs.Registry.Rooted
import RouteTemplate.Proofs.Session.Runs

/- Where a request goes.

   A session routes a request to the first of its methods that resolves it (`Session.Kept.route`), and a run only
   adds methods at the end (`Session.methods_performAll`). So an answer, once there is one, stays, and a request
   without one can only be taken by a method registered later (`Session.route_of_run`).

   Rooted declarations give under a prefix what they give under the empty one, below its segments
   (`Session.performAll_rooted`). So the prefix may as well be cut off the request (`Session.route_of_rooted`). -/
namespace RouteTemplate

namespace Session

variable {s : Session} {r : Request}

theorem firstAmong_eq_some_iff {methods : List Method} {m : Method} {arguments : Bindings} :
    firstAmong r methods = some ⟨m, arguments⟩ ↔ ∃ before after, methods = before ++ m :: after ∧
      m.resolve r = some arguments ∧ ∀ earlier ∈ before, earlier.resolve r = none := by
  rw [firstAmong, List.findSome?_eq_some_iff]
  simp only [Option.map_eq_some_iff, Option.map_eq_none_iff, Match.mk.injEq]
  refine ⟨?_, ?_⟩
  · intro h
    obtain ⟨before, m', after, split, ⟨_, hm, rfl, rfl⟩, fail⟩ := h
    exact ⟨before, after, split, hm, fail⟩
  · intro h
    obtain ⟨before, after, split, hm, fail⟩ := h
    exact ⟨before, m, after, split, ⟨arguments, hm, rfl, rfl⟩, fail⟩

theorem firstAmong_eq_none_iff {methods : List Method} :
    firstAmong r methods = none ↔ ∀ m ∈ methods, m.resolve r = none := by
  simp only [firstAmong, List.findSome?_eq_none_iff, Option.map_eq_none_iff]

theorem firstAmong_append (r : Request) (earlier later : List Method) :
    firstAmong r (earlier ++ later) = (firstAmong r earlier).or (firstAmong r later) :=
  List.findSome?_append

theorem method_mem_of_firstAmong {methods : List Method} {found : Match} (h : firstAmong r methods = some found) :
    found.method ∈ methods := by
  obtain ⟨before, after, rfl, -⟩ := firstAmong_eq_some_iff.mp h
  simp

theorem exists_firstAmong_of_resolve {m : Method} (h : m.resolve r ≠ none) (before after : List Method) :
    ∃ found, firstAmong r (before ++ m :: after) = some found ∧ found.method ∈ before ++ [m] := by
  have taken : firstAmong r (before ++ [m]) ≠ none := fun hnone => h (firstAmong_eq_none_iff.mp hnone m (by simp))
  obtain ⟨found, hfound⟩ := Option.ne_none_iff_exists'.mp taken
  refine ⟨found, ?_, method_mem_of_firstAmong hfound⟩
  rw [List.append_cons, firstAmong_append, hfound, Option.some_or]

theorem Kept.route_eq_firstAmong (h : s.Kept) (r : Request) : (s.route r).1 = firstAmong r s.registry.methods :=
  (h.route r).1

/-- What a further run does to the answer: the methods that it registers are asked after those there are. -/
theorem Kept.route_performAll (h : s.Kept) (later : List Operation) (r : Request) :
    ((s.performAll later).2.route r).1 =
      (s.route r).1.or (firstAmong r ((registrations later (s.performAll later).1).map (·.2))) := by
  obtain ⟨-, methods, -⟩ := methods_performAll later s
  rw [(h.performAll later).route_eq_firstAmong, methods, firstAmong_append, h.route_eq_firstAmong]

/-- **A request goes to the first method that resolves it, and stays there.** After any run the trees that are kept
    answer as the methods themselves do; a request is answered by a method exactly when that method resolves it and
    none registered before does, and not at all exactly when none resolves it. Whatever is done afterwards, an
    answer stays, and a request that had none has none still or is taken by a method registered since. -/
theorem route_of_run (root : Text) (ops : List Operation) (r : Request) :
    let s := ((start root).performAll ops).2
    let registered := (registrations ops ((start root).performAll ops).1).map (·.2)
    (∀ m ∈ registered, (s.resolve m r).1 = m.resolve r) ∧
    (∀ m arguments, (s.route r).1 = some ⟨m, arguments⟩ ↔ ∃ before after, registered = before ++ m :: after ∧
      m.resolve r = some arguments ∧ ∀ earlier ∈ before, earlier.resolve r = none) ∧
    ((s.route r).1 = none ↔ ∀ m ∈ registered, m.resolve r = none) ∧
    ∀ later,
      (∀ found, (s.route r).1 = some found → ((s.performAll later).2.route r).1 = some found) ∧
      ((s.route r).1 = none → ∀ found, ((s.performAll later).2.route r).1 = some found →
        found.method ∈ (registrations later (s.performAll later).1).map (·.2)) := by
  intro s registered
  have kept : s.Kept := (kept_start root).performAll ops
  have methods : s.registry.methods = registered := methods_of_run root ops
  have answer : (s.route r).1 = firstAmong r registered := methods ▸ kept.route_eq_firstAmong r
  refine ⟨fun m hm => (kept.resolve (methods ▸ hm) r).1, fun m arguments => ?_, ?_, fun later => ⟨?_, ?_⟩⟩
  · rw [answer]
    exact firstAmong_eq_some_iff
  · rw [answer]
    exact firstAmong_eq_none_iff
  · intro found h
    rw [kept.route_performAll later, h, Option.some_or]
  · intro h found hfound
    rw [kept.route_performAll later, h, Option.none_or] at hfound
    exact method_mem_of_firstAmong hfound

/-! ## Under a prefix -/

theorem firstAmong_below (segments : List Text) (methods : List Method) (r : Request) :
    firstAmong r (methods.map (Method.below segments)) = (after? segments r.segments).bind fun rest =>
      (firstAmong { r with segments := rest } methods).map fun found =>
        ⟨found.method.below segments, found.arguments⟩ := by
  rw [firstAmong, List.findSome?_map]
  have each : (fun m : Method => (m.resolve r).map fun arguments => (⟨m, arguments⟩ : Match)) ∘ Method.below segments =
      fun m => (after? segments r.segments).bind fun rest =>
        (m.resolve { r with segments := rest }).map fun arguments => ⟨m.below segments, arguments⟩ := by
    funext m
    rw [Function.comp_apply, Method.resolve_below, Option.map_bind]
    rfl
  rw [each]
  cases after? segments r.segments with
  | none => exact List.findSome?_eq_none_iff.mpr fun _ _ => rfl
  | some rest =>
    rw [Option.bind_some, firstAmong, List.map_findSome?]
    refine congrArg (List.findSome? · methods) (funext fun m => ?_)
    rw [Option.bind_some, Function.comp_apply, Option.map_map]
    rfl

theorem performAll_rooted {root : Text} {calls : List Declaration} (h : ∀ d ∈ calls, d.Rooted) :
    ∀ {s plain : Session}, s.registry = plain.registry.below root → plain.registry.root = [] →
      (s.performAll (calls.map .register)).2.registry =
        (plain.performAll (calls.map .register)).2.registry.below root ∧
      ∃ results : List (Except EndpointError Method),
        (plain.performAll (calls.map .register)).1 = results.map Answer.registered ∧
        (s.performAll (calls.map .register)).1 =
          results.map fun result => .registered (result.map (Method.below (Text.pieces '/' root))) := by
  induction calls with
  | nil => exact fun alike _ => ⟨alike, [], rfl, rfl⟩
  | cons d calls ih =>
    intro s plain alike hroot
    have rooted := h d List.mem_cons_self
    -- The first call comes out alike and keeps the two registries alike.
    have registries : (s.perform (.register d)).2.registry =
        (plain.perform (.register d)).2.registry.below root := by
      rw [registry_perform, registry_perform]
      dsimp only
      rw [alike, rooted.register root hroot]
    have answers : (s.register d).1 = (plain.register d).1.map (Method.below (Text.pieces '/' root)) := by
      rw [register_fst, register_fst, alike, rooted.register root hroot]
    have unrooted : (plain.perform (.register d)).2.registry.root = [] :=
      (methods_perform plain (.register d)).1.trans hroot
    obtain ⟨last, results, hplain, hs⟩ := ih (fun d hd => h d (List.mem_cons_of_mem _ hd)) registries unrooted
    refine ⟨last, (plain.register d).1 :: results, ?_, ?_⟩
    · rw [List.map_cons, performAll_cons, hplain, List.map_cons]
      rfl
    · rw [List.map_cons, performAll_cons, hs, List.map_cons, ← answers]
      rfl

/-- **To register under a prefix is to cut the prefix off requests.** When rooted declarations are registered under a
    prefix and under the empty one, each call gives the same fault, or the same method below the segments of the
    prefix. A request goes under the prefix where what is left of it goes under the empty one, to a method of the same
    name with the same arguments, and nowhere when it does not begin with the prefix. -/
theorem route_of_rooted (root : Text) (calls : List Declaration) (h : ∀ d ∈ calls, d.Rooted) :
    let under := (start root).performAll (calls.map .register)
    let plain := (start []).performAll (calls.map .register)
    (∃ results : List (Except EndpointError Method), plain.1 = results.map Answer.registered ∧
      under.1 = results.map fun result => .registered (result.map (Method.below (Text.pieces '/' root)))) ∧
    ∀ r, (under.2.route r).1.map (fun found => (found.method.name, found.arguments)) =
      (r.trim? root).bind fun rest =>
        (plain.2.route rest).1.map fun found => (found.method.name, found.arguments) := by
  intro under plain
  have start_below : (start root).registry = (start []).registry.below root := rfl
  obtain ⟨registries, results⟩ := performAll_rooted h start_below rfl
  refine ⟨results, fun r => ?_⟩
  have underKept : under.2.Kept := (kept_start root).performAll _
  have plainKept : plain.2.Kept := (kept_start []).performAll _
  have methods : under.2.registry.methods = plain.2.registry.methods.map (Method.below (Text.pieces '/' root)) :=
    congrArg Registry.methods registries
  rw [underKept.route_eq_firstAmong, methods, firstAmong_below, Request.trim?, Option.bind_map, Option.map_bind]
  refine congrArg (Option.bind (after? (Text.pieces '/' root) r.segments)) (funext fun rest => ?_)
  rw [Function.comp_apply, Function.comp_apply, plainKept.route_eq_firstAmong, Option.map_map]
  rfl

/-- A method for users, with details on demand, and one with the default template. -/
def userService : List Declaration :=
  [⟨"user".toList, some "$prefix/users/\x7bid\x7d/[?full:details]".toList, ["id".toList]⟩, ⟨"ping".toList, none, []⟩]

theorem rooted_userService : ∀ d ∈ userService, d.Rooted := by
  intro d hd
  rcases List.mem_cons.mp hd with rfl | hd
  · intro template read htemplate hread
    cases htemplate
    have parsed : Endpoint.parse "$prefix/users/\x7bid\x7d/[?full:details]".toList = .ok
        ⟨[⟨[], .param "$prefix".toList⟩, ⟨[], .literal "users".toList⟩, ⟨[], .param "id".toList⟩,
          ⟨["full".toList], .literal "details".toList⟩], []⟩ := by decide +kernel
    rw [parsed] at hread
    cases hread
    exact ⟨_, rfl, by decide, by decide⟩
  · rw [List.mem_singleton.mp hd]
    intro template read htemplate
    cases htemplate

theorem route_of_rooted_userService : (∀ d ∈ userService, d.Rooted) ∧
    (((start "/v1/".toList).performAll (userService.map .register)).2.route
      ⟨["v1".toList, "users".toList, "7".toList], .empty⟩).1.map (fun found => (found.method.name, found.arguments)) =
        some ("user".toList, Dict.empty.insert "id".toList "7".toList) := by
  refine ⟨rooted_userService, ?_⟩
  rw [(route_of_rooted _ _ rooted_userService).2]
  decide +kernel

end Session

end RouteTemplate
