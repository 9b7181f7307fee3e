import RouteTemplate.Endpoint.Substitute
import RouteTemplate.Proofs.FirstAppearance
import RouteTemplate.Proofs.Rendering

/- Placing the method's name and the prefix.

   The parts that take the place of one stand under its guards, and name no parameter or the one it named
   (`Part.of_mem_substitute`). So the parameters of the endpoint are left as they were but for the two placed, and
   nothing is left to be placed a second time (`Endpoint.parameters_substitute`).

   Since guards stay, it makes no difference whether parts are dropped before or after placing
   (`Endpoint.keep_substitute`). Nor does it to what is written whether the two are placed before filling or answered
   for while filling (`Lookup.placing`): in the path a value that is a join of segments becomes these segments, and they
   are joined again (`Endpoint.fill_placing`). -/
namespace RouteTemplate

variable {method root : Text}

/-! ## What takes the place of a part -/

theorem placed?_eq_none_iff {name : Text} : placed? method root name = none ↔
    name ≠ Placeholder.methodName.text ∧ name ≠ Placeholder.routingPrefix.text := by
  unfold placed?
  split
  · next h => simp [h]
  · next h =>
    split
    · next h' => simp [h']
    · next h' => simp [h, h']

theorem placed?_eq_some {name value : Text} (h : placed? method root name = some value) :
    value = method ∨ value = root := by
  unfold placed? at h
  split at h
  · exact .inl (Option.some.inj h).symm
  · split at h
    · exact .inr (Option.some.inj h).symm
    · cases h

namespace Part

theorem substitute_of_none {name : Text} (guards : List Text) (h : placed? method root name = none) :
    (⟨guards, .param name⟩ : Part).substitute method root = [⟨guards, .param name⟩] := by
  simp [substitute, Atom.parameter?, h]

theorem substitute_of_some {name value : Text} (guards : List Text) (h : placed? method root name = some value) :
    (⟨guards, .param name⟩ : Part).substitute method root =
      (Text.pieces '/' value).map fun piece => ⟨guards, .literal piece⟩ := by
  simp [substitute, Atom.parameter?, h]

/-- The parts that take the place of one stand under its guards, and a parameter among them is the one it was. -/
theorem of_mem_substitute {p q : Part} (hq : q ∈ p.substitute method root) : q.guards = p.guards ∧
    ∀ name, q.atom = .param name → p.atom = .param name ∧ placed? method root name = none := by
  unfold substitute at hq
  split at hq
  · obtain ⟨piece, -, rfl⟩ := List.mem_map.mp hq
    exact ⟨rfl, fun _ h => by cases h⟩
  · next hnone =>
    rw [List.mem_singleton.mp hq]
    refine ⟨rfl, fun name h => ⟨h, ?_⟩⟩
    rwa [h] at hnone

theorem substitute_of_free {p : Part} (h : ∀ name, p.atom = .param name → placed? method root name = none) :
    p.substitute method root = [p] := by
  obtain ⟨guards, atom⟩ := p
  cases atom with
  | literal text => rfl
  | param name => exact substitute_of_none guards (h name rfl)

end Part

namespace Entry

theorem substitute_of_none {name : Text} (label : Text) (guards : List Text) (h : placed? method root name = none) :
    (⟨label, guards, .param name⟩ : Entry).substitute method root = ⟨label, guards, .param name⟩ := by
  simp [substitute, Atom.parameter?, h]

theorem substitute_of_some {name value : Text} (label : Text) (guards : List Text)
    (h : placed? method root name = some value) :
    (⟨label, guards, .param name⟩ : Entry).substitute method root = ⟨label, guards, .literal value⟩ := by
  simp [substitute, Atom.parameter?, h]

theorem part_substitute (entry : Entry) : (entry.substitute method root).part.guards = entry.part.guards ∧
    ∀ name, (entry.substitute method root).part.atom = .param name →
      entry.part.atom = .param name ∧ placed? method root name = none := by
  unfold substitute
  split
  · exact ⟨rfl, fun _ h => by cases h⟩
  · next hnone =>
    refine ⟨rfl, fun name h => ⟨h, ?_⟩⟩
    rwa [h] at hnone

theorem substitute_of_free {entry : Entry}
    (h : ∀ name, entry.part.atom = .param name → placed? method root name = none) :
    entry.substitute method root = entry := by
  obtain ⟨label, guards, atom⟩ := entry
  cases atom with
  | literal text => rfl
  | param name => exact substitute_of_none label guards (h name rfl)

end Entry

namespace Endpoint

variable {e : Endpoint}

theorem name_substitute (entry : Entry) : (entry.substitute method root).name = entry.name := by
  unfold Entry.substitute
  split <;> rfl

theorem names_substitute (e : Endpoint) (method root : Text) :
    (e.substitute method root).query.map (·.name) = e.query.map (·.name) := by
  rw [substitute, List.map_map]
  exact List.map_congr_left fun entry _ => name_substitute entry

theorem exists_of_mem_parts_substitute {q : Part} (hq : q ∈ (e.substitute method root).parts) :
    ∃ p ∈ e.parts, q.guards = p.guards ∧
      ∀ name, q.atom = .param name → p.atom = .param name ∧ placed? method root name = none := by
  rcases List.mem_append.mp hq with hq | hq
  · obtain ⟨p, hp, hq⟩ := List.mem_flatMap.mp hq
    exact ⟨p, List.mem_append_left _ hp, Part.of_mem_substitute hq⟩
  · obtain ⟨_, hentry, rfl⟩ := List.mem_map.mp hq
    obtain ⟨entry, he, rfl⟩ := List.mem_map.mp hentry
    exact ⟨entry.part, List.mem_append_right _ (List.mem_map_of_mem he), entry.part_substitute⟩

/-! ## What is left -/

/-- Does the name stand neither for the method's name nor for the prefix? -/
def remains (name : Text) : Bool :=
  name ≠ Placeholder.methodName.text ∧ name ≠ Placeholder.routingPrefix.text

theorem remains_eq_isNone (method root name : Text) : remains name = (placed? method root name).isNone := by
  rw [remains, Bool.eq_iff_iff, decide_eq_true_iff, Option.isNone_iff_eq_none, placed?_eq_none_iff]

theorem filter_remains (method root : Text) (atom : Atom) : atom.parameter?.filter remains =
    match atom.parameter?.bind (placed? method root) with
    | some _ => none
    | none => atom.parameter? := by
  cases atom with
  | literal text => rfl
  | param name =>
    simp only [Atom.parameter?, Option.filter, Option.bind_some, remains_eq_isNone method root name]
    cases placed? method root name <;> rfl

theorem parameters_part_substitute (p : Part) : (p.substitute method root).filterMap (·.atom.parameter?) =
    (p.atom.parameter?.filter remains).toList := by
  rw [Part.substitute, filter_remains method root]
  cases p.atom.parameter?.bind (placed? method root) with
  | none => cases hname : p.atom.parameter? <;> simp [hname]
  | some value => simp [Atom.parameter?]

theorem parameter?_entry_substitute (entry : Entry) : (entry.substitute method root).part.atom.parameter? =
    entry.part.atom.parameter?.filter remains := by
  rw [Entry.substitute, filter_remains method root]
  cases entry.part.atom.parameter?.bind (placed? method root) <;> rfl

theorem parameters_substitute (e : Endpoint) (method root : Text) :
    (e.substitute method root).parameters = e.parameters.filter remains := by
  have path : (e.path.flatMap (·.substitute method root)).filterMap (·.atom.parameter?) =
      (e.path.filterMap (·.atom.parameter?)).filter remains :=
    calc (e.path.flatMap (·.substitute method root)).filterMap (·.atom.parameter?)
        = e.path.flatMap fun p => (p.substitute method root).filterMap (·.atom.parameter?) := by
          rw [List.filterMap_flatMap]
      _ = e.path.flatMap fun p => (p.atom.parameter?.filter remains).toList :=
          List.flatMap_congr fun p _ => parameters_part_substitute p
      _ = e.path.filterMap fun p => p.atom.parameter?.filter remains := by rw [List.filterMap_eq_flatMap_toList]
      _ = (e.path.filterMap (·.atom.parameter?)).filter remains := by rw [List.filter_filterMap]
  have query : ((e.query.map (·.substitute method root)).map (·.part)).filterMap (·.atom.parameter?) =
      ((e.query.map (·.part)).filterMap (·.atom.parameter?)).filter remains := by
    simp only [List.filterMap_map, List.filter_filterMap, Function.comp_def, parameter?_entry_substitute]
  rw [parameters, parameters, ← eraseDups_filter, parts, parts, List.filterMap_append, List.filterMap_append,
    List.filter_append, substitute, path, query]

theorem substitute_of_free (h : ∀ p ∈ e.parts, ∀ name, p.atom = .param name → placed? method root name = none) :
    e.substitute method root = e := by
  have path : e.path.flatMap (·.substitute method root) = e.path := by
    rw [List.flatMap_congr fun p hp => Part.substitute_of_free (h p (List.mem_append_left _ hp))]
    simp
  have query : e.query.map (·.substitute method root) = e.query := by
    rw [List.map_congr_left fun entry hentry =>
      Entry.substitute_of_free (h entry.part (List.mem_append_right _ (List.mem_map_of_mem hentry)))]
    simp
  rw [substitute, path, query]

/-- **Placing removes the two placeholders and nothing else.** Whatever the method's name and the prefix are, the
    parameters are those there were without the two placed, in the order of their first appearance; the query keeps its
    names in their order; no key is new. What was placed is not read again, so that placing another name and another
    prefix afterwards changes nothing. -/
theorem substitute_frame (e : Endpoint) (method root : Text) :
    (e.substitute method root).parameters = e.parameters.filter (fun name =>
      name ≠ Placeholder.methodName.text ∧ name ≠ Placeholder.routingPrefix.text) ∧
    (e.substitute method root).query.map (·.name) = e.query.map (·.name) ∧
    (e.substitute method root).keys ⊆ e.keys ∧
    ∀ method' root', (e.substitute method root).substitute method' root' = e.substitute method root := by
  refine ⟨e.parameters_substitute method root, e.names_substitute method root, fun key hkey => ?_, fun _ _ => ?_⟩
  · obtain ⟨q, hq, hguard⟩ := List.mem_flatMap.mp (List.mem_eraseDups.mp hkey)
    obtain ⟨p, hp, guards, -⟩ := exists_of_mem_parts_substitute hq
    exact List.mem_eraseDups.mpr (List.mem_flatMap.mpr ⟨p, hp, guards ▸ hguard⟩)
  · refine substitute_of_free fun q hq name hname => ?_
    obtain ⟨p, -, -, left⟩ := exists_of_mem_parts_substitute hq
    exact placed?_eq_none_iff.mpr (placed?_eq_none_iff.mp (left name hname).2)

/-! ## Placing and keeping -/

theorem kept_of_mem_substitute {p q : Part} (hq : q ∈ p.substitute method root) (present : Text → Bool) :
    q.kept present = p.kept present := by
  rw [Part.kept, Part.kept, (Part.of_mem_substitute hq).1]

theorem map_bare_substitute (p : Part) :
    (p.substitute method root).map (·.bare) = p.bare.substitute method root := by
  have same : p.bare.atom = p.atom := rfl
  rw [Part.substitute, Part.substitute, same]
  cases p.atom.parameter?.bind (placed? method root) with
  | none => rfl
  | some value => exact List.map_map

theorem bare_entry_substitute (entry : Entry) :
    { entry.substitute method root with part := (entry.substitute method root).part.bare } =
      ({ entry with part := entry.part.bare } : Entry).substitute method root := by
  have same : entry.part.bare.atom = entry.part.atom := rfl
  rw [Entry.substitute, Entry.substitute, same]
  cases entry.part.atom.parameter?.bind (placed? method root) <;> rfl

theorem keep_substitute (e : Endpoint) (present : Text → Bool) (method root : Text) :
    (e.substitute method root).keep present = (e.keep present).substitute method root := by
  have path : ((e.path.flatMap (·.substitute method root)).filter (·.kept present)).map (·.bare) =
      ((e.path.filter (·.kept present)).map (·.bare)).flatMap (·.substitute method root) := by
    induction e.path with
    | nil => rfl
    | cons p rest ih =>
      rw [List.flatMap_cons, List.filter_append, List.map_append, ih]
      cases hkept : p.kept present with
      | true =>
        have all : (p.substitute method root).filter (·.kept present) = p.substitute method root :=
          List.filter_eq_self.mpr fun q hq => (kept_of_mem_substitute hq present).trans hkept
        rw [List.filter_cons_of_pos hkept, all, map_bare_substitute, List.map_cons, List.flatMap_cons]
      | false =>
        have nothing : (p.substitute method root).filter (·.kept present) = [] :=
          List.filter_eq_nil_iff.mpr fun q hq => by simp [kept_of_mem_substitute hq, hkept]
        rw [List.filter_cons_of_neg (by simp [hkept]), nothing, List.map_nil, List.nil_append]
  have query : ((e.query.map (·.substitute method root)).filter (·.part.kept present)).map
        (fun entry => { entry with part := entry.part.bare }) =
      ((e.query.filter (·.part.kept present)).map fun entry => { entry with part := entry.part.bare }).map
        (·.substitute method root) := by
    have kept : (fun entry : Entry => entry.part.kept present) ∘ Entry.substitute method root =
        fun entry : Entry => entry.part.kept present := by
      funext entry
      show (entry.substitute method root).part.kept present = entry.part.kept present
      rw [Part.kept, Part.kept, entry.part_substitute.1]
    rw [List.filter_map, kept, List.map_map, List.map_map]
    exact List.map_congr_left fun entry _ => bare_entry_substitute entry
  rw [keep, keep, substitute, substitute, path, query]

/-! ## Placing and filling -/

end Endpoint

section
variable {σ : Type}

/-- The lookup that answers for the method's name and the prefix itself, and puts other questions to the one given. -/
def Lookup.placing (method root : Text) (look : Lookup σ) : Lookup σ := fun name s =>
  match placed? method root name with
  | some value => (some value, s)
  | none => look name s

/-- One or more segments with slashes between them. -/
def Text.Joined (t : Text) : Prop :=
  ∃ segments : List Text, segments ≠ [] ∧ (∀ segment ∈ segments, segment ≠ [] ∧ '/' ∉ segment) ∧
    t = Text.join ['/'] segments

theorem Text.Joined.pieces {t : Text} (h : t.Joined) :
    Text.pieces '/' t ≠ [] ∧ Text.join ['/'] (Text.pieces '/' t) = t := by
  obtain ⟨segments, nonempty, free, rfl⟩ := h
  rw [Text.pieces_join free]
  exact ⟨nonempty, rfl⟩

/-- Runs that leave the same path and the same state, or the same fault. -/
inductive SamePath : Except EndpointError (List Text) × σ → Except EndpointError (List Text) × σ → Prop
  | fault (fault : EndpointError) (s : σ) : SamePath (.error fault, s) (.error fault, s)
  | path {segments others : List Text} (s : σ) (empty : segments = [] ↔ others = [])
      (joined : Text.join ['/'] segments = Text.join ['/'] others) : SamePath (.ok segments, s) (.ok others, s)

/-- Segments on one side and their join on the other go before what leaves the same path. -/
theorem SamePath.prepend {run other : Except EndpointError (List Text) × σ} (same : SamePath run other)
    {pieces : List Text} (h : pieces ≠ []) :
    SamePath (run.1.map (pieces ++ ·), run.2) (other.1.map (Text.join ['/'] pieces :: ·), other.2) := by
  cases same with
  | fault fault s => exact .fault fault s
  | @path segments others s empty joined =>
    refine .path s (by simp [h]) ?_
    by_cases hnil : segments = []
    · show Text.join ['/'] (pieces ++ segments) = Text.join ['/'] (Text.join ['/'] pieces :: others)
      rw [hnil, empty.mp hnil, List.append_nil]
      rfl
    · have single : Text.join ['/'] (Text.join ['/'] pieces :: others) =
          Text.join ['/'] pieces ++ ['/'] ++ Text.join ['/'] others :=
        Text.join_append (List.cons_ne_nil _ []) (mt empty.mpr hnil)
      rw [Text.join_append h hnil, single, joined]

namespace Lookup

variable {look : Lookup σ}

theorem render_literals (texts : List Text) (rest : List Atom) (s : σ) :
    look.render (texts.map .literal ++ rest) s = ((look.render rest s).1.map (texts ++ ·), (look.render rest s).2) := by
  induction texts with
  | nil =>
    rw [List.map_nil, List.nil_append]
    rcases look.render rest s with ⟨_ | more, s'⟩ <;> rfl
  | cons text texts ih =>
    rw [List.map_cons, List.cons_append, render_literal, ih]
    rcases look.render rest s with ⟨_ | more, s'⟩ <;> rfl

theorem placing_of_some {name value : Text} (h : placed? method root name = some value) (s : σ) :
    look.placing method root name s = (some value, s) := by
  simp only [placing, h]

theorem placing_of_none {name : Text} (h : placed? method root name = none) (s : σ) :
    look.placing method root name s = look name s := by
  simp only [placing, h]

theorem samePath_param {name : Text} (hplaced : placed? method root name = none) {rest others : List Atom} {s : σ}
    (ih : ∀ s, SamePath (look.render rest s) ((look.placing method root).render others s)) :
    SamePath (look.render (.param name :: rest) s) ((look.placing method root).render (.param name :: others) s) := by
  have asked : look.placing method root name s = look name s := placing_of_none hplaced s
  rcases hlook : look name s with ⟨_ | value, next⟩
  · rw [render_param_of_none hlook, render_param_of_none (asked.trans hlook)]
    exact .fault _ next
  · rw [render_param_of_some hlook, render_param_of_some (asked.trans hlook)]
    exact (ih next).prepend (List.cons_ne_nil value [])

/-- A path with the name and the prefix placed is rendered to the same path as the one in which they are asked for. -/
theorem samePath_substitute (hmethod : method.Joined) (hroot : root.Joined) (look : Lookup σ) (parts : List Part) :
    ∀ s : σ,
    SamePath (look.render ((parts.flatMap (·.substitute method root)).map (·.atom)) s)
      ((look.placing method root).render (parts.map (·.atom)) s) := by
  induction parts with
  | nil => exact fun s => .path s Iff.rfl rfl
  | cons p rest ih =>
    intro s
    obtain ⟨guards, atom⟩ := p
    rw [List.flatMap_cons, List.map_append, List.map_cons]
    cases atom with
    | literal text =>
      show SamePath (look.render (.literal text :: _) s) _
      rw [render_literal, render_literal]
      exact (ih s).prepend (List.cons_ne_nil text [])
    | param name =>
      cases hplaced : placed? method root name with
      | none =>
        rw [Part.substitute_of_none guards hplaced]
        exact samePath_param hplaced ih
      | some value =>
        have joined : value.Joined := by
          rcases placed?_eq_some hplaced with rfl | rfl
          · exact hmethod
          · exact hroot
        obtain ⟨nonempty, join⟩ := joined.pieces
        have atoms : (((Text.pieces '/' value).map fun piece => (⟨guards, .literal piece⟩ : Part)).map (·.atom)) =
            (Text.pieces '/' value).map .literal := by
          rw [List.map_map]
          rfl
        have tail := (ih s).prepend nonempty
        rw [join] at tail
        rw [Part.substitute_of_some guards hplaced, atoms, render_literals,
          render_param_of_some (placing_of_some hplaced s)]
        exact tail

/-- In the query one value takes the place of one question. -/
theorem render_query_substitute (entries : List Entry) : ∀ s : σ,
    look.render ((entries.map (·.substitute method root)).map (·.part.atom)) s =
      (look.placing method root).render (entries.map (·.part.atom)) s := by
  induction entries with
  | nil => exact fun s => rfl
  | cons entry rest ih =>
    intro s
    obtain ⟨label, guards, atom⟩ := entry
    rw [List.map_cons, List.map_cons, List.map_cons]
    cases atom with
    | literal text =>
      show look.render (.literal text :: _) s = _
      rw [render_literal, render_literal, ih]
    | param name =>
      cases hplaced : placed? method root name with
      | none =>
        have asked : look.placing method root name s = look name s := placing_of_none hplaced s
        rw [Entry.substitute_of_none label guards hplaced]
        rcases hlook : look name s with ⟨_ | value, next⟩
        · rw [render_param_of_none hlook, render_param_of_none (asked.trans hlook)]
        · rw [render_param_of_some hlook, render_param_of_some (asked.trans hlook), ih]
      | some value =>
        rw [Entry.substitute_of_some label guards hplaced, render_literal,
          render_param_of_some (placing_of_some hplaced s), ih]

end Lookup

namespace Endpoint

theorem fill_substitute (hmethod : method.Joined) (hroot : root.Joined) (e : Endpoint) (present : Text → Bool)
    (look : Lookup σ) (s : σ) :
    (e.substitute method root).fill present look s = e.fill present (look.placing method root) s := by
  have path := Lookup.samePath_substitute hmethod hroot look (e.keep present).path s
  rw [fill, fill, keep_substitute, names_substitute, substitute]
  simp only
  generalize look.render (((e.keep present).path.flatMap (·.substitute method root)).map (·.atom)) s = run at path ⊢
  generalize (look.placing method root).render ((e.keep present).path.map (·.atom)) s = other at path ⊢
  cases path with
  | fault fault s => rfl
  | path s empty joined =>
    simp only [Lookup.render_query_substitute, Text.target, joined]

/-- **Early and late placing agree.** Placing the method's name and the prefix and then dropping what is not present is
    dropping first and placing then, part for part. When both texts are joins of segments, filling what they were placed
    in is filling the endpoint itself with a lookup that answers for them: to the same target or the same missing
    argument, and with the same questions to the lookup besides. -/
theorem keep_and_fill_substitute (e : Endpoint) (method root : Text) (present : Text → Bool) :
    (e.substitute method root).keep present = (e.keep present).substitute method root ∧
    (method.Joined → root.Joined → ∀ {σ : Type} (look : Lookup σ) (s : σ),
      (e.substitute method root).fill present look s = e.fill present (look.placing method root) s) :=
  ⟨e.keep_substitute present method root, fun hmethod hroot _ look s =>
    fill_substitute hmethod hroot e present look s⟩

/-- `$prefix/[?v:{$name}/{v}]/{id}?m={$name}` -/
def selfNamed : Endpoint where
  path := [⟨[], .param "$prefix".toList⟩, ⟨["v".toList], .param "$name".toList⟩, ⟨["v".toList], .param "v".toList⟩,
    ⟨[], .param "id".toList⟩]
  query := [⟨"m".toList, [], .param "$name".toList⟩]

theorem keep_and_fill_substitute_selfNamed :
    Text.Joined "api/v1".toList ∧ Text.Joined "users/get".toList ∧
    (selfNamed.substitute "users/get".toList "api/v1".toList).fill (fun _ => true) (Lookup.recording some) [] =
      selfNamed.fill (fun _ => true) ((Lookup.recording some).placing "users/get".toList "api/v1".toList) [] ∧
    selfNamed.fill (fun _ => true) ((Lookup.recording some).placing "users/get".toList "api/v1".toList) [] =
      (.ok "api/v1/users/get/v/id?m=users/get".toList, ["v".toList, "id".toList]) := by
  have root : Text.Joined "api/v1".toList :=
    ⟨["api".toList, "v1".toList], by decide, by decide, rfl⟩
  have method : Text.Joined "users/get".toList :=
    ⟨["users".toList, "get".toList], by decide, by decide, rfl⟩
  obtain ⟨-, fills⟩ := keep_and_fill_substitute selfNamed "users/get".toList "api/v1".toList fun _ => true
  exact ⟨root, method, fills method root (Lookup.recording some) [], by rfl⟩

end Endpoint

end

end RouteTemplate
