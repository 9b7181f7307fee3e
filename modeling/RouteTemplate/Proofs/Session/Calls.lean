import RouteTemplate.Command
import RouteTemplate.Proofs.Percent
import RouteTemplate.Proofs.Questions
import RouteTemplate.Proofs.Registry.Legible
import RouteTemplate.Proofs.Session.Routing

/- Calls from outside, there and back.

   A call fills the endpoint of a registered method with coded values. Coded text holds no mark, so the target is read
   back as the request that was written, whatever the values are, and the method resolves it: the request goes to that
   method, or to one registered before it that matches too. Where none does, and no earlier leaf of the method, the
   values come back decoded, as they were assigned (`Session.identify_of_fill`). -/
namespace RouteTemplate

open Text

/-! ## Decoding arguments -/

theorem foldlM_decodeArgument {l : List (Text × Text)} (h : ∀ e ∈ l, Percent.decode? e.2 ≠ none) (d : Dict Text) :
    l.foldlM decodeArgument d = .ok
      ((l.filterMap fun e => (Percent.decode? e.2).map (e.1, ·)).foldl (fun d e => d.insert e.1 e.2) d) := by
  induction l generalizing d with
  | nil => rfl
  | cons e l ih =>
    obtain ⟨value, hvalue⟩ := Option.ne_none_iff_exists'.mp (h e List.mem_cons_self)
    have head : decodeArgument d e = .ok (d.insert e.1 value) := by
      simp only [decodeArgument, hvalue]
    rw [List.foldlM_cons, head, List.filterMap_cons, hvalue]
    exact ih (fun e he => h e (List.mem_cons_of_mem _ he)) _

theorem exists_decodeArguments {b : Bindings} {values : Text → Option Text}
    (h : ∀ name, b.get? name = (values name).map Percent.encode) :
    ∃ d, decodeArguments false b = .ok d ∧ ∀ name, d.get? name = values name := by
  have coded : ∀ e ∈ b.entries, ∃ value, values e.1 = some value ∧ Percent.encode value = e.2 := fun e he =>
    Option.map_eq_some_iff.mp ((h e.1).symm.trans (Dict.get?_eq_some_iff.mpr he))
  refine ⟨_, foldlM_decodeArgument (fun e he => ?_) .empty, fun name => Option.ext fun value => ?_⟩
  · obtain ⟨value, -, heq⟩ := coded e he
    rw [← heq, Percent.decode?_encode]
    exact Option.some_ne_none value
  · rw [← Dict.ofList, Dict.get?_ofList_filterMap b.nodup_names]
    refine ⟨?_, ?_⟩
    · intro hfound
      obtain ⟨e, he, rfl, hdecoded⟩ := hfound
      obtain ⟨value', hvalue, heq⟩ := coded e he
      rw [← heq, Percent.decode?_encode] at hdecoded
      rw [hvalue, hdecoded]
    · intro hvalue
      have bound : b.get? name = some (Percent.encode value) := by rw [h, hvalue, Option.map_some]
      exact ⟨_, Dict.get?_eq_some_iff.mp bound, rfl, Percent.decode?_encode value⟩

namespace Session

variable {s : Session} {m : Method} {values : Dict Text} {target : Text}

/-! ## Filling and identifying -/

/-- The values of assignments as a target carries them. -/
def coded (values : Dict Text) (name : Text) : Option Text := (values.get? name).map Percent.encode

theorem fill_of_find? {name : Text} {assignments : List Text} (hm : s.registry.find? name = some m)
    (read : readAssignments assignments = .ok values) (fills : s.fill name assignments false = .ok target) :
    (m.endpoint.fill values.contains (Lookup.recording (coded values)) []).1 = .ok target := by
  have look : (fun name => (values.get? name).map fun value => if false = true then value else Percent.encode value) =
      coded values := by
    funext name
    simp [coded]
  simp only [fill, hm, read, look, Method.fill] at fills
  rw [Endpoint.fillMemoized_eq_fill (Lookup.recording_answers _)] at fills
  cases hresult : (m.endpoint.fill values.contains (Lookup.recording (coded values)) []).1 with
  | error fault =>
    rw [hresult] at fills
    cases fills
  | ok written =>
    rw [hresult] at fills
    cases fills
    rfl

theorem legibleValues_coded {e : Endpoint} {present : Text → Bool}
    (nonempty : ∀ name, .param name ∈ (e.keep present).path.map (·.atom) → values.get? name ≠ some []) :
    e.LegibleValues present (coded values) where
  segments name value hname hvalue := by
    obtain ⟨given, hgiven, rfl⟩ := Option.map_eq_some_iff.mp hvalue
    exact Percent.isSegment_encode fun hnil => nonempty name hname (by rw [hgiven, hnil])
  values name value _ hvalue := by
    obtain ⟨given, -, rfl⟩ := Option.map_eq_some_iff.mp hvalue
    exact Percent.isQueryValue_encode given

/-- A target filled with coded values is read back, and the leaf that goes with the assigned names resolves it to the
    coded values of the kept parameters. -/
theorem exists_leaf_of_fill {e : Endpoint} (legible : e.Legible)
    (nonempty : ∀ name, .param name ∈ (e.keep values.contains).path.map (·.atom) → values.get? name ≠ some [])
    (fills : (e.fill values.contains (Lookup.recording (coded values)) []).1 = .ok target) :
    ∃ r l b, Request.parse target = .ok r ∧
      (ResolveTree.build e).leaves.filter (Leaf.consistent values.contains) = [l] ∧
      l.shape.resolve r = some b ∧ (∀ name ∈ (e.keep values.contains).parameters, values.get? name ≠ none) ∧
      ∀ name, b.get? name =
        (if name ∈ (e.keep values.contains).parameters then values.get? name else none).map Percent.encode := by
  obtain ⟨valued, written⟩ := (Endpoint.fill_eq_ok_iff (Lookup.recording_answers (coded values))).mp fills
  have parsed := Endpoint.parse_filled legible (legibleValues_coded nonempty) valued
  rw [written] at parsed
  obtain ⟨l, only, -⟩ := ResolveTree.exists_filter_consistent_build e values.contains
  obtain ⟨hl, consistent⟩ := List.mem_filter.mp (only ▸ List.mem_singleton_self l)
  obtain ⟨b, hb, bound⟩ := exists_resolve_filled hl legible.distinct consistent valued
  refine ⟨_, l, b, parsed, only, hb, fun name hname hnone => ?_, fun name => ?_⟩
  · exact valued name (Endpoint.mem_parameters.mp hname) (by rw [coded, hnone, Option.map_none])
  · rw [bound]
    split <;> rfl

theorem identify_of_routeTarget {found : Match} {arguments : Dict Text}
    (routed : (s.routeTarget target).1 = .ok (some found))
    (decoded : decodeArguments false found.arguments = .ok arguments) :
    (s.identify target false).1 = .ok (some ⟨found.method.name, arguments⟩) := by
  unfold identify
  rcases hrouted : s.routeTarget target with ⟨result, s'⟩
  rw [hrouted] at routed
  cases routed
  simp only [decoded]
  rfl

/-- **A call is identified as it was made.** Let a target be filled for a method from assignments, with any values, of
    which those kept in the path are not empty, where the literals of the endpoint hold no mark. The target then goes to
    the method or to one registered before. When no method before resolves it, and no leaf of the method before the one
    that goes with the assigned names, the call is identified by the method's name and exactly the kept parameters,
    each with the value that was assigned. -/
theorem identify_of_fill (root : Text) (ops : List Operation) {before after : List Method} {assignments : List Text}
    (place : ((start root).performAll ops).2.registry.methods = before ++ m :: after)
    (unmarked : m.endpoint.Unmarked) (read : readAssignments assignments = .ok values)
    (nonempty : ∀ name, .param name ∈ (m.endpoint.keep values.contains).path.map (·.atom) →
      values.get? name ≠ some [])
    (fills : ((start root).performAll ops).2.fill m.name assignments false = .ok target) :
    let s := ((start root).performAll ops).2
    (∃ found, (s.routeTarget target).1 = .ok (some found) ∧ found.method ∈ before ++ [m]) ∧
    ∃ r l, Request.parse target = .ok r ∧
      (ResolveTree.build m.endpoint).leaves.filter (Leaf.consistent values.contains) = [l] ∧
      ((∀ earlier ∈ before, earlier.resolve r = none) →
        ∀ first rest, (ResolveTree.build m.endpoint).leaves = first ++ l :: rest →
          (∀ leaf ∈ first, leaf.shape.resolve r = none) →
            ∃ arguments, (s.identify target false).1 = .ok (some ⟨m.name, arguments⟩) ∧
              (∀ name ∈ (m.endpoint.keep values.contains).parameters,
                ∃ value, values.get? name = some value ∧ arguments.get? name = some value) ∧
              ∀ name ∉ (m.endpoint.keep values.contains).parameters, arguments.get? name = none) := by
  intro s
  have kept : s.Kept := (kept_start root).performAll ops
  have hm : m ∈ s.registry.methods := by
    rw [place]
    exact List.mem_append_right _ List.mem_cons_self
  obtain ⟨d, hcall⟩ := mem_methods_of_run.mp hm
  have legible : m.endpoint.Legible := (Method.cut_of_declare (declare_of_registered hcall)).legible unmarked
  obtain ⟨r, l, b, parsed, only, hb, valued, bound⟩ := exists_leaf_of_fill legible nonempty
    (fill_of_find? (kept.coherent.find?_eq_some_iff.mpr ⟨hm, rfl⟩) read fills)
  have routed : (s.routeTarget target).1 = .ok (firstAmong r (before ++ m :: after)) := by
    rw [(kept.routeTarget target).1, parsed, ← place]
    rfl
  refine ⟨?_, r, l, parsed, only, fun earlier first rest split fail => ?_⟩
  · -- The leaf resolves the request, so the method does.
    have hl : l ∈ (ResolveTree.build m.endpoint).leaves := (List.mem_filter.mp (only ▸ List.mem_singleton_self l)).1
    obtain ⟨found, hfound, hmem⟩ :=
      exists_firstAmong_of_resolve (ResolveTree.resolve_build_ne_none hl hb) before after
    exact ⟨found, routed.trans (by rw [hfound]), hmem⟩
  · have resolved : m.resolve r = some b := ResolveTree.resolve_build_of_first split hb fail
    have found : firstAmong r (before ++ m :: after) = some ⟨m, b⟩ :=
      firstAmong_eq_some_iff.mpr ⟨before, after, rfl, resolved, earlier⟩
    obtain ⟨arguments, decoded, given⟩ := exists_decodeArguments bound
    refine ⟨arguments, identify_of_routeTarget (routed.trans (by rw [found])) decoded, fun name hname => ?_,
      fun name hname => by rw [given, if_neg hname]⟩
    obtain ⟨value, hvalue⟩ := Option.ne_none_iff_exists'.mp (valued name hname)
    exact ⟨value, hvalue, by rw [given, if_pos hname, hvalue]⟩

/-- A user's pages: `$prefix/users/{id}?[?paged:page={page}]&by={id}`. -/
def userPages : Declaration :=
  ⟨"user".toList, some "$prefix/users/\x7bid\x7d?[?paged:page=\x7bpage\x7d]&by=\x7bid\x7d".toList,
    ["id".toList, "page".toList]⟩

/-- The method that it declares under `/v1/`. -/
def userPagesMethod : Method where
  name := "user".toList
  arguments := Method.known userPages
  endpoint :=
    ⟨[⟨[], .literal "v1".toList⟩, ⟨[], .literal "users".toList⟩, ⟨[], .param "id".toList⟩],
      [⟨"page".toList, ["paged".toList], .param "page".toList⟩, ⟨"by".toList, [], .param "id".toList⟩]⟩

/-- Values with marks and with a letter beyond ASCII. -/
def markedAssignments : List Text := ["id=a/b?ü".toList, "paged=".toList, "page=2&3".toList]

def markedValues : Dict Text :=
  ((Dict.empty.insert "id".toList "a/b?ü".toList).insert "paged".toList []).insert "page".toList "2&3".toList

theorem unmarked_userPages : userPagesMethod.endpoint.Unmarked where
  segments text ht := by
    simp [userPagesMethod] at ht
    rcases ht with rfl | rfl <;> decide
  names := by decide
  values text ht := by simp [userPagesMethod] at ht

theorem identify_of_fill_userPages :
    let s := ((start "/v1/".toList).performAll [.register userPages]).2
    let target := "v1/users/a%2Fb%3F%C3%BC?page=2%263&by=a%2Fb%3F%C3%BC".toList
    s.fill "user".toList markedAssignments false = .ok target ∧
    ∃ arguments, (s.identify target false).1 = .ok (some ⟨"user".toList, arguments⟩) ∧
      arguments.get? "id".toList = some "a/b?ü".toList ∧ arguments.get? "page".toList = some "2&3".toList ∧
      arguments.get? "paged".toList = none := by
  intro s target
  have place : s.registry.methods = [] ++ userPagesMethod :: [] := by decide +kernel
  have read : readAssignments markedAssignments = .ok markedValues := by decide +kernel
  have fills : s.fill "user".toList markedAssignments false = .ok target := by decide +kernel
  have nonempty : ∀ name, .param name ∈ (userPagesMethod.endpoint.keep markedValues.contains).path.map (·.atom) →
      markedValues.get? name ≠ some [] := by
    intro name hname
    have hid : name = "id".toList := by simpa [userPagesMethod] using mem_atoms_of_path_keep hname
    subst hid
    decide
  obtain ⟨-, r, l, -, only, identified⟩ :=
    identify_of_fill "/v1/".toList [.register userPages] place unmarked_userPages read nonempty fills
  -- No part of the path is optional, so there is no other leaf.
  obtain ⟨l', single⟩ := ResolveTree.exists_leaves_eq_of_bare (e := userPagesMethod.endpoint) (by decide)
  have same : l ∈ (ResolveTree.build userPagesMethod.endpoint).leaves :=
    (List.mem_filter.mp (only ▸ List.mem_singleton_self l)).1
  rw [single, List.mem_singleton] at same
  subst same
  obtain ⟨arguments, result, assigned, others⟩ := identified (by simp) [] [] single (by simp)
  obtain ⟨_, hid, found⟩ := assigned "id".toList (by decide)
  obtain ⟨_, hpage, found'⟩ := assigned "page".toList (by decide)
  cases hid
  cases hpage
  exact ⟨fills, arguments, result, found, found', others "paged".toList (by decide)⟩

end Session

end RouteTemplate
