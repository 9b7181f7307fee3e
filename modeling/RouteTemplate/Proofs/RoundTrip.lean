import RouteTemplate.Target
import RouteTemplate.Proofs.Dict
import RouteTemplate.Proofs.Rendering
import RouteTemplate.Proofs.ResolveTree.Presence

/- From an endpoint to a target and back.

   A target filled for a set of present keys is parsed again as the kept atoms beside their texts, since none
   of them holds a mark that would cut it (`Endpoint.parse_filled`). The leaf consistent with the set has the
   kept path as its own. Its rules ask for no entry that was dropped, and an entry that was kept has a rule
   whether its keys were decided or left open, so the leaf finds the kept atoms beside their texts and nothing
   else (`Leaf.mem_foundIn_filled`). These bind each parameter to its value (`resolve_filled`). -/
namespace RouteTemplate

/-- An endpoint whose literals and query names a target can carry, each in its place, the names differing. -/
structure Endpoint.Legible (e : Endpoint) : Prop where
  segments : ∀ text, .literal text ∈ e.path.map (·.atom) → IsSegment text
  names : ∀ entry ∈ e.query, IsQueryName entry.name
  distinct : (e.query.map (·.name)).Nodup
  values : ∀ text, .literal text ∈ e.query.map (·.part.atom) → IsQueryValue text

/-- Values that a target can carry in the places where the endpoint keeps their parameters. -/
structure Endpoint.LegibleValues (e : Endpoint) (present : Text → Bool) (values : Text → Option Text) : Prop where
  segments : ∀ name value, .param name ∈ (e.keep present).path.map (·.atom) → values name = some value →
    IsSegment value
  values : ∀ name value, .param name ∈ (e.keep present).query.map (·.part.atom) → values name = some value →
    IsQueryValue value

/-- The kept atoms stand for texts that a target can carry in their places. -/
structure Endpoint.Readable (e : Endpoint) (present : Text → Bool) (values : Text → Option Text) : Prop where
  segments : ∀ part ∈ (e.keep present).path, IsSegment (part.atom.fillIn values)
  entries : ∀ entry ∈ (e.keep present).query, IsQueryName entry.name ∧ IsQueryValue (entry.part.atom.fillIn values)

/-- The request for the kept atoms, each as the text it stands for. -/
def Endpoint.filled (e : Endpoint) (present : Text → Bool) (values : Text → Option Text) : Request where
  segments := (e.keep present).path.map (·.atom.fillIn values)
  query := Dict.ofList ((e.keep present).query.map fun entry => (entry.name, entry.part.atom.fillIn values))

section
variable {e : Endpoint} {present : Text → Bool} {values : Text → Option Text}

/-! ## What was kept -/

theorem mem_path_keep {part : Part} :
    part ∈ (e.keep present).path ↔ ∃ whole ∈ e.path, whole.kept present = true ∧ whole.bare = part := by
  simp [Endpoint.keep, and_assoc]

theorem mem_query_keep {entry : Entry} : entry ∈ (e.keep present).query ↔
    ∃ whole ∈ e.query, whole.part.kept present = true ∧ { whole with part := whole.part.bare } = entry := by
  simp [Endpoint.keep, and_assoc]

theorem mem_atoms_of_path_keep {atom : Atom} (h : atom ∈ (e.keep present).path.map (·.atom)) :
    atom ∈ e.path.map (·.atom) := by
  obtain ⟨part, hm, rfl⟩ := List.mem_map.mp h
  obtain ⟨whole, hw, -, rfl⟩ := mem_path_keep.mp hm
  exact List.mem_map.mpr ⟨whole, hw, rfl⟩

theorem mem_atoms_of_query_keep {atom : Atom} (h : atom ∈ (e.keep present).query.map (·.part.atom)) :
    atom ∈ e.query.map (·.part.atom) := by
  obtain ⟨entry, hm, rfl⟩ := List.mem_map.mp h
  obtain ⟨whole, hw, -, rfl⟩ := mem_query_keep.mp hm
  exact List.mem_map.mpr ⟨whole, hw, rfl⟩

theorem fillIn_cases {atoms : List Atom} {atom : Atom} (hm : atom ∈ atoms) (hv : Valued values atoms)
    {P : Text → Prop} (literal : ∀ text, .literal text ∈ atoms → P text)
    (param : ∀ name value, .param name ∈ atoms → values name = some value → P value) :
    P (atom.fillIn values) := by
  cases atom with
  | literal text => exact literal text hm
  | param name =>
    obtain ⟨value, hvalue⟩ := Option.ne_none_iff_exists'.mp (hv name hm)
    rw [Atom.fillIn, hvalue]
    exact param name value hm hvalue

namespace Endpoint

theorem Readable.parse (h : e.Readable present values) :
    Request.parse (Request.written ((e.keep present).path.map (·.atom.fillIn values))
      ((e.keep present).query.map fun entry => (entry.name, entry.part.atom.fillIn values))) =
        .ok (e.filled present values) := by
  apply Request.parseJudged_written
  · intro segment hs
    obtain ⟨part, hm, rfl⟩ := List.mem_map.mp hs
    exact h.segments part hm
  · intro x hx
    obtain ⟨entry, hm, rfl⟩ := List.mem_map.mp hx
    exact h.entries entry hm

theorem Legible.readable (he : e.Legible) (hl : e.LegibleValues present values)
    (hv : Valued values ((e.keep present).parts.map (·.atom))) : e.Readable present values := by
  rw [atoms_parts, valued_append] at hv
  refine ⟨fun part hm => ?_, fun entry hm => ?_⟩
  · exact fillIn_cases (List.mem_map_of_mem hm) hv.1
      (fun text ht => he.segments text (mem_atoms_of_path_keep ht)) hl.segments
  · have value : IsQueryValue (entry.part.atom.fillIn values) :=
      fillIn_cases (List.mem_map_of_mem hm) hv.2
        (fun text ht => he.values text (mem_atoms_of_query_keep ht)) hl.values
    obtain ⟨whole, hw, -, rfl⟩ := mem_query_keep.mp hm
    exact ⟨he.names whole hw, value⟩

theorem parse_filled (he : e.Legible) (hl : e.LegibleValues present values)
    (hv : Valued values ((e.keep present).parts.map (·.atom))) :
    Request.parse (Request.written ((e.keep present).path.map (·.atom.fillIn values))
      ((e.keep present).query.map fun entry => (entry.name, entry.part.atom.fillIn values))) =
        .ok (e.filled present values) :=
  (he.readable hl hv).parse

theorem mem_parameters {name : Text} : name ∈ e.parameters ↔ .param name ∈ e.parts.map (·.atom) := by
  simp only [parameters, List.mem_eraseDups, List.mem_filterMap, List.mem_map]
  refine exists_congr fun part => and_congr_right fun _ => ?_
  cases part.atom <;> simp [Atom.parameter?]

theorem get?_filled (hd : (e.query.map (·.name)).Nodup) {name value : Text} :
    (e.filled present values).query.get? name = some value ↔
      ∃ entry ∈ e.query, entry.part.kept present = true ∧ entry.name = name ∧
        entry.part.atom.fillIn values = value := by
  have collected : (e.keep present).query.map (fun entry => (entry.name, entry.part.atom.fillIn values)) =
      e.query.filterMap fun entry => (if entry.part.kept present then some (entry.part.atom.fillIn values)
        else none).map (entry.name, ·) := by
    rw [keep, List.map_map, ← List.filterMap_eq_map, List.filterMap_filter]
    congr
    funext entry
    cases entry.part.kept present <;> rfl
  rw [filled, collected, Dict.get?_ofList_filterMap hd]
  refine exists_congr fun entry => and_congr_right fun _ => ?_
  cases entry.part.kept present <;> simp

end Endpoint

/-! ## The rules of the query -/

namespace Rule

variable {taken untaken : SortedSet Text}

theorem ofPart?_of_kept {p : Part} (hu : ∀ key ∈ untaken, present key = false) (h : p.kept present = true) :
    ofPart? taken untaken p = some ⟨p.atom, p.guards.any (· ∉ taken)⟩ := by
  apply if_neg
  intro hany
  obtain ⟨key, hk, hm⟩ := List.any_eq_true.mp hany
  have here := List.all_eq_true.mp h key hk
  rw [hu key (of_decide_eq_true hm)] at here
  cases here

/-- A part that is not kept has no rule, or one that lets its name be missing. -/
theorem optional_of_not_kept {p : Part} {rule : Rule} (ht : ∀ key ∈ taken, present key = true)
    (h : p.kept present = false) (hr : ofPart? taken untaken p = some rule) : rule.optional = true := by
  unfold ofPart? at hr
  split at hr
  · cases hr
  · cases hr
    obtain ⟨key, hk, absent⟩ := List.all_eq_false.mp h
    exact List.any_eq_true.mpr ⟨key, hk, decide_eq_true fun hm => absent (ht key hm)⟩

theorem get?_table {query : List Entry} (hd : (query.map (·.name)).Nodup) {name : Text} {rule : Rule} :
    (table taken untaken query).get? name = some rule ↔
      ∃ entry ∈ query, entry.name = name ∧ ofPart? taken untaken entry.part = some rule :=
  Dict.get?_ofList_filterMap hd fun entry => ofPart? taken untaken entry.part

end Rule

/-! ## What a consistent leaf finds -/

namespace Leaf

variable {l : Leaf}

theorem get?_table_of_kept (hd : (e.query.map (·.name)).Nodup) (hc : l.consistent present = true)
    {entry : Entry} (hm : entry ∈ e.query) (hk : entry.part.kept present = true) :
    (Rule.table l.taken l.untaken e.query).get? entry.name =
      some ⟨entry.part.atom, entry.part.guards.any (· ∉ l.taken)⟩ :=
  (Rule.get?_table hd).mpr ⟨entry, hm, rfl, Rule.ofPart?_of_kept (consistent_iff.mp hc).2 hk⟩

theorem path_eq_of_consistent (hl : l ∈ (ResolveTree.build e).leaves) (hc : l.consistent present = true) :
    l.shape.path = (e.keep present).path.map (·.atom) := by
  rw [(ResolveTree.filter_consistent_eq hl hc).2, path_keep_eq, List.map_map]
  exact (List.map_id _).symm

theorem mem_foundInQuery_filled (hl : l ∈ (ResolveTree.build e).leaves) (hd : (e.query.map (·.name)).Nodup)
    (hc : l.consistent present = true) {atom : Atom} {text : Text} :
    (atom, text) ∈ l.shape.foundInQuery (e.filled present values).query ↔
      atom ∈ (e.keep present).query.map (·.part.atom) ∧ atom.fillIn values = text := by
  rw [Shape.mem_foundInQuery, ResolveTree.rules_of_mem_build hl]
  refine ⟨?_, ?_⟩
  · intro h
    obtain ⟨name, rule, hrule, hvalue, rfl⟩ := h
    obtain ⟨entry, hm, hk, rfl, rfl⟩ := (Endpoint.get?_filled hd).mp hvalue
    -- The value comes from a kept entry, so the rule of its name is that entry's.
    rw [get?_table_of_kept hd hc hm hk] at hrule
    cases hrule
    exact ⟨List.mem_map.mpr ⟨_, mem_query_keep.mpr ⟨entry, hm, hk, rfl⟩, rfl⟩, rfl⟩
  · intro h
    obtain ⟨hmem, rfl⟩ := h
    obtain ⟨_, hkept, rfl⟩ := List.mem_map.mp hmem
    obtain ⟨entry, hm, hk, rfl⟩ := mem_query_keep.mp hkept
    exact ⟨entry.name, _, get?_table_of_kept hd hc hm hk,
      (Endpoint.get?_filled hd).mpr ⟨entry, hm, hk, rfl, rfl⟩, rfl⟩

/-- In the request that was written a consistent leaf finds the kept atoms beside their texts. -/
theorem mem_foundIn_filled (hl : l ∈ (ResolveTree.build e).leaves) (hd : (e.query.map (·.name)).Nodup)
    (hc : l.consistent present = true) {atom : Atom} {text : Text} :
    (atom, text) ∈ l.shape.foundIn (e.filled present values) ↔
      atom ∈ (e.keep present).parts.map (·.atom) ∧ atom.fillIn values = text := by
  have path : l.shape.path.zip (e.filled present values).segments =
      ((e.keep present).path.map (·.atom)).map fun atom => (atom, atom.fillIn values) := by
    rw [path_eq_of_consistent hl hc, Endpoint.filled, List.map_prod_left_eq_zip, List.map_map]
    rfl
  rw [Shape.foundIn, List.mem_append, path, mem_foundInQuery_filled hl hd hc, Endpoint.atoms_parts, List.mem_append,
    or_and_right]
  refine or_congr_left ?_
  rw [List.mem_map]
  refine ⟨?_, ?_⟩
  · intro h
    obtain ⟨_, hm, heq⟩ := h
    cases heq
    exact ⟨hm, rfl⟩
  · intro h
    obtain ⟨hm, rfl⟩ := h
    exact ⟨atom, hm, rfl⟩

theorem fits_filled (hl : l ∈ (ResolveTree.build e).leaves) (hd : (e.query.map (·.name)).Nodup)
    (hc : l.consistent present = true) : l.shape.fits (e.filled present values) = true := by
  have hlen : (e.filled present values).segments.length = l.shape.path.length := by
    rw [path_eq_of_consistent hl hc, Endpoint.filled, List.length_map, List.length_map]
  rw [Shape.fits, hlen, beq_self_eq_true, Bool.true_and, Shape.answeredBy_iff, ResolveTree.rules_of_mem_build hl]
  intro name rule hrule
  obtain ⟨entry, hm, rfl, hpart⟩ := (Rule.get?_table hd).mp hrule
  -- An entry that was dropped may be missing, and one that was kept is there.
  cases hk : entry.part.kept present with
  | false => exact .inl (Rule.optional_of_not_kept (consistent_iff.mp hc).1 hk hpart)
  | true =>
    have found : (e.filled present values).query.get? entry.name = some (entry.part.atom.fillIn values) :=
      (Endpoint.get?_filled hd).mpr ⟨entry, hm, hk, rfl, rfl⟩
    exact .inr (by rw [found]; rfl)

end Leaf

theorem exists_bindAll_eq {found : List (Atom × Text)} {atoms : List Atom} (hv : Valued values atoms)
    (h : ∀ atom text, (atom, text) ∈ found ↔ atom ∈ atoms ∧ atom.fillIn values = text) :
    ∃ b, Bindings.bindAll .empty found = some b ∧
      ∀ name, b.get? name = if .param name ∈ atoms then values name else none := by
  have literals : Bindings.LiteralsAgree found := fun text value hm => ((h _ _).mp hm).2
  -- No name has two values in the list: each stands beside what it is filled in with.
  have one_valued : Bindings.OneValued .empty found := by
    intro name value value' hv hv'
    simp only [Dict.get?_empty, reduceCtorEq, false_or, h] at hv hv'
    exact hv.2.symm.trans hv'.2
  obtain ⟨b, hb⟩ := Bindings.exists_bindAll_iff.mpr ⟨literals, one_valued⟩
  obtain ⟨-, joins⟩ := Bindings.bindAll_eq_some_iff.mp hb
  refine ⟨b, hb, fun name => Option.ext fun value => ?_⟩
  rw [joins, Dict.get?_empty, h, Atom.fillIn]
  by_cases hm : Atom.param name ∈ atoms
  · obtain ⟨v, hvalue⟩ := Option.ne_none_iff_exists'.mp (hv name hm)
    simp [hm, hvalue]
  · simp [hm]

theorem exists_resolve_filled {l : Leaf} (hl : l ∈ (ResolveTree.build e).leaves)
    (hd : (e.query.map (·.name)).Nodup) (hc : l.consistent present = true)
    (hv : Valued values ((e.keep present).parts.map (·.atom))) :
    ∃ b, l.shape.resolve (e.filled present values) = some b ∧
      ∀ name, b.get? name = if name ∈ (e.keep present).parameters then values name else none := by
  obtain ⟨b, hb, only⟩ := exists_bindAll_eq hv fun _ _ => Leaf.mem_foundIn_filled hl hd hc
  refine ⟨b, ?_, fun name => ?_⟩
  · rw [Shape.resolve_eq_bindAll, Leaf.fits_filled hl hd hc, if_pos rfl, hb]
  · simp only [only, Endpoint.mem_parameters]

namespace ResolveTree

/-- Without an optional path part there is nothing to decide. -/
theorem exists_leaves_eq_of_bare (h : ∀ part ∈ e.path, part.isOptional = false) :
    ∃ l, (build e).leaves = [l] := by
  have bare : e.path.all (!·.isOptional) = true :=
    List.all_eq_true.mpr fun part hm => by rw [h part hm]; rfl
  rw [build, grow.eq_def, if_pos bare, ← map_leaf_branches, branches_tip]
  exact ⟨_, rfl⟩

/-- **What is filled in is found again.** For texts and values that a target can carry in their places, the
    target filled for a set of present keys is parsed, and the one leaf consistent with the set resolves it to
    the values of the kept parameters and nothing else. Hence the tree never misses it; and it gives these
    values unless an earlier leaf matches too, which none can where no path part is optional. -/
theorem resolve_of_fill {σ : Type} {look : Lookup σ} {values : Text → Option Text} (answers : look.Answers values)
    {e : Endpoint} {present : Text → Bool} {s : σ} {target : Text} (he : e.Legible)
    (hl : e.LegibleValues present values) (fills : (e.fill present look s).1 = .ok target) :
    ∃ r l b, Request.parse target = .ok r ∧
      (build e).leaves.filter (Leaf.consistent present) = [l] ∧ l.shape.resolve r = some b ∧
      (∀ name ∈ (e.keep present).parameters, ∃ value, values name = some value ∧ b.get? name = some value) ∧
      (∀ name ∉ (e.keep present).parameters, b.get? name = none) ∧
      (build e).resolve r ≠ none ∧
      (∀ before after, (build e).leaves = before ++ l :: after → (∀ m ∈ before, m.shape.resolve r = none) →
        (build e).resolve r = some b) ∧
      ((∀ part ∈ e.path, part.isOptional = false) → (build e).resolve r = some b) := by
  obtain ⟨hv, rfl⟩ := (Endpoint.fill_eq_ok_iff answers).mp fills
  obtain ⟨l, only, -⟩ := exists_filter_consistent_build e present
  obtain ⟨hm, hc⟩ := List.mem_filter.mp (only ▸ List.mem_singleton_self l)
  obtain ⟨b, hb, bound⟩ := exists_resolve_filled hm he.distinct hc hv
  have first : ∀ before after, (build e).leaves = before ++ l :: after →
      (∀ m ∈ before, m.shape.resolve (e.filled present values) = none) →
      (build e).resolve (e.filled present values) = some b := by
    intro before after split fail
    rw [resolve_build_eq_findSome?]
    exact List.findSome?_eq_some_iff.mpr ⟨before, l, after, split, hb, fail⟩
  refine ⟨e.filled present values, l, b, Endpoint.parse_filled he hl hv, only, hb, fun name hn => ?_,
    fun name hn => ?_, ?_, first, fun bare => ?_⟩
  · obtain ⟨value, hvalue⟩ := Option.ne_none_iff_exists'.mp (hv name (Endpoint.mem_parameters.mp hn))
    exact ⟨value, hvalue, by rw [bound, if_pos hn, hvalue]⟩
  · rw [bound, if_neg hn]
  · -- The leaf itself matches, so not all of them fail.
    rw [resolve_build_eq_findSome?]
    intro none
    rw [List.findSome?_eq_none_iff.mp none l hm] at hb
    cases hb
  · -- No leaf comes before the only one.
    obtain ⟨l', single⟩ := exists_leaves_eq_of_bare bare
    rw [single, List.mem_singleton] at hm
    subst hm
    exact first [] [] single (by simp)

/-- `users/{id}/[?full:details]?[?paged:page={page}]&by={id}` -/
def userPage : Endpoint where
  path := [⟨[], .literal "users".toList⟩, ⟨[], .param "id".toList⟩, ⟨["full".toList], .literal "details".toList⟩]
  query := [⟨"page".toList, ["paged".toList], .param "page".toList⟩, ⟨"by".toList, [], .param "id".toList⟩]

/-- User 7 on page 2. -/
def userPageValues (name : Text) : Option Text :=
  if name = "id".toList then some "7".toList else if name = "page".toList then some "2".toList else none

theorem legible_userPage : userPage.Legible where
  segments text h := by
    simp [userPage] at h
    rcases h with rfl | rfl <;> decide
  names := by decide
  distinct := by decide
  values text h := by simp [userPage] at h

theorem eq_of_userPageValues {name value : Text} (h : userPageValues name = some value) :
    value = "7".toList ∨ value = "2".toList := by
  unfold userPageValues at h
  split at h
  · exact .inl (Option.some.inj h).symm
  · split at h
    · exact .inr (Option.some.inj h).symm
    · cases h

theorem legibleValues_userPage : userPage.LegibleValues (· == "paged".toList) userPageValues where
  segments _ _ _ h := by rcases eq_of_userPageValues h with rfl | rfl <;> decide
  values _ _ _ h := by rcases eq_of_userPageValues h with rfl | rfl <;> decide

theorem resolve_of_fill_userPage :
    (userPage.fill (· == "paged".toList) (Lookup.recording userPageValues) []).1 =
      .ok "users/7?page=2&by=7".toList ∧
    ∃ r l b, Request.parse "users/7?page=2&by=7".toList = .ok r ∧
      (build userPage).leaves.filter (Leaf.consistent (· == "paged".toList)) = [l] ∧ l.shape.resolve r = some b ∧
      b.get? "id".toList = some "7".toList ∧ b.get? "page".toList = some "2".toList ∧
      (build userPage).resolve r ≠ none := by
  have fills : (userPage.fill (· == "paged".toList) (Lookup.recording userPageValues) []).1 =
      .ok "users/7?page=2&by=7".toList := by decide
  obtain ⟨r, l, b, parsed, only, hb, bound, -, found, -⟩ :=
    resolve_of_fill (Lookup.recording_answers userPageValues) legible_userPage legibleValues_userPage fills
  obtain ⟨_, hid, hseven⟩ := bound "id".toList (by decide)
  obtain ⟨_, hpage, htwo⟩ := bound "page".toList (by decide)
  cases hid
  cases hpage
  exact ⟨fills, r, l, b, parsed, only, hb, hseven, htwo, found⟩

end ResolveTree

end

end RouteTemplate
