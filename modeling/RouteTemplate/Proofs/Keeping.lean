import RouteTemplate.Proofs.Rendering

/- Keeping parts.

   A guarded part is an atom in nested blocks, and every nesting is that of a part (`Nested.exists_part`). Blocks are
   opened one after the other, from outside: one with an absent key is dropped with all it holds, and one with a
   present key gives way to what it holds. However deep the nesting, nothing or an atom is left
   (`Nested.keep?_nested`). So a filler that has no text for a block never meets one, and fills as `Endpoint.fill`
   does (`Endpoint.fillNested?_eq`). -/
namespace RouteTemplate

/-- A part as a template nests it: an atom, or a block around a part. -/
inductive Nested where
  | atom (a : Atom)
  | block (key : Text) (inner : Nested)

/-- The part in its blocks, one for each guard. -/
def Part.nested (p : Part) : Nested := p.guards.foldr .block (.atom p.atom)

/-- The entry freed of its guards. -/
def Entry.bare (entry : Entry) : Entry := { entry with part := entry.part.bare }

variable {present : Text → Bool}

namespace Nested

theorem exists_part : ∀ n : Nested, ∃ p : Part, p.nested = n
  | .atom a => ⟨⟨[], a⟩, rfl⟩
  | .block key inner =>
    let ⟨p, h⟩ := inner.exists_part
    ⟨⟨key :: p.guards, p.atom⟩, congrArg (Nested.block key) h⟩

/-- What is left when the blocks with present keys are opened: nothing, when the key of one is absent. -/
def keep? (present : Text → Bool) : Nested → Option Nested
  | .atom a => some (.atom a)
  | .block key inner => if present key then inner.keep? present else none

theorem keep?_nested (p : Part) : p.nested.keep? present = if p.kept present then some (.atom p.atom) else none := by
  obtain ⟨guards, atom⟩ := p
  induction guards with
  | nil => rfl
  | cons key guards ih =>
    show (if present key then Nested.keep? present (Part.nested ⟨guards, atom⟩) else none) = _
    rw [ih]
    cases hkey : present key <;> simp [Part.kept, hkey]

theorem filterMap_keep? {α β : Type} (present : Text → Bool) (part : α → Part) (with' : α → Nested → β)
    (l : List α) :
    (l.filterMap fun x => ((part x).nested.keep? present).map (with' x)) =
      (l.filter fun x => (part x).kept present).map fun x => with' x (.atom (part x).atom) := by
  induction l with
  | nil => rfl
  | cons x l ih =>
    rw [List.filterMap_cons, ih, keep?_nested]
    cases hkept : (part x).kept present <;> simp [hkept]

end Nested

/-! ## Filling from nested parts -/

section
variable {σ : Type}

namespace Lookup

/-- The texts of nested parts, asked for in order until a parameter has no value. For a block there is no answer. -/
def renderNested? (look : Lookup σ) : List Nested → σ → Option (Except EndpointError (List Text) × σ)
  | [], s => some (.ok [], s)
  | .atom (.literal text) :: rest, s =>
    (renderNested? look rest s).map fun (result, s) => (result.map (text :: ·), s)
  | .atom (.param name) :: rest, s =>
    match look name s with
    | (none, s) => some (.error (.missingArgument name), s)
    | (some value, s) => (renderNested? look rest s).map fun (result, s) => (result.map (value :: ·), s)
  | .block _ _ :: _, _ => none

theorem renderNested?_atoms (look : Lookup σ) : ∀ (atoms : List Atom) (s : σ),
    look.renderNested? (atoms.map .atom) s = some (look.render atoms s)
  | [], s => rfl
  | .literal text :: rest, s => by
    rw [List.map_cons, renderNested?, renderNested?_atoms look rest, render_literal]
    rfl
  | .param name :: rest, s => by
    rw [List.map_cons, renderNested?]
    rcases hlook : look name s with ⟨_ | value, next⟩
    · rw [render_param_of_none hlook]
    · rw [render_param_of_some hlook]
      simp only [renderNested?_atoms look rest, Option.map_some]

end Lookup

namespace Endpoint

/-- Filling block by block: all blocks are opened, and the texts of what is left make the target. -/
def fillNested? (e : Endpoint) (present : Text → Bool) (look : Lookup σ) (s : σ) :
    Option (Except EndpointError Text × σ) :=
  let path := e.path.filterMap fun p => p.nested.keep? present
  let query := e.query.filterMap fun entry => (entry.part.nested.keep? present).map (entry.name, ·)
  match look.renderNested? path s with
  | none => none
  | some (.error fault, s) => some (.error fault, s)
  | some (.ok segments, s) =>
    (look.renderNested? (query.map (·.2)) s).map fun (result, s) =>
      (result.map fun values => Text.target segments (List.zipWith Text.entry (query.map (·.1)) values), s)

theorem fillNested?_eq (e : Endpoint) (present : Text → Bool) (look : Lookup σ) (s : σ) :
    e.fillNested? present look s = some (e.fill present look s) := by
  have path : (e.path.filterMap fun p => p.nested.keep? present) = ((e.keep present).path.map (·.atom)).map .atom := by
    have kept := Nested.filterMap_keep? present id (fun _ part => part) e.path
    simpa [keep, Part.bare, Function.comp_def] using kept
  have query := Nested.filterMap_keep? present Entry.part (fun entry part => (entry.name, part)) e.query
  have names : ((e.query.filter fun entry => entry.part.kept present).map
      fun entry => (entry.name, Nested.atom entry.part.atom)).map (·.1) = (e.keep present).query.map (·.name) := by
    simp [keep]
  have atoms : ((e.query.filter fun entry => entry.part.kept present).map
      fun entry => (entry.name, Nested.atom entry.part.atom)).map (·.2) =
        ((e.keep present).query.map (·.part.atom)).map .atom := by
    simp [keep, Part.bare]
  simp only [fillNested?, path, query, names, atoms, Lookup.renderNested?_atoms, fill, Option.map_some]
  generalize look.render ((e.keep present).path.map (·.atom)) s = rendered
  rcases rendered with ⟨fault | segments, next⟩
  · rfl
  · simp only
    generalize look.render ((e.keep present).query.map (·.part.atom)) next = rendered
    rcases rendered with ⟨fault | values, last⟩ <;> rfl

end Endpoint

end

/-! ## What is kept -/

/-- The members whose guards are all present, in their order, each freed of its guards. -/
inductive KeptOf {α : Type} (part : α → Part) (bare : α → α) (present : Text → Bool) : List α → List α → Prop
  | nil : KeptOf part bare present [] []
  | keep {x : α} {rest kept : List α} : (∀ key ∈ (part x).guards, present key = true) →
      KeptOf part bare present rest kept → KeptOf part bare present (x :: rest) (bare x :: kept)
  | drop {x : α} {key : Text} {rest kept : List α} : key ∈ (part x).guards → present key = false →
      KeptOf part bare present rest kept → KeptOf part bare present (x :: rest) kept

section
variable {α : Type} {part : α → Part} {bare : α → α} {l kept : List α}

theorem keptOf_iff : KeptOf part bare present l kept ↔ (l.filter fun x => (part x).kept present).map bare = kept := by
  refine ⟨fun h => ?_, fun h => ?_⟩
  · induction h with
    | nil => rfl
    | @keep x _ _ guards _ ih =>
      have hkept : (part x).kept present = true := by simpa [Part.kept] using guards
      rw [List.filter_cons, if_pos hkept, List.map_cons, ih]
    | @drop x key _ _ guard absent _ ih =>
      have hkept : (part x).kept present = false := by simpa [Part.kept] using ⟨key, guard, absent⟩
      rw [List.filter_cons, if_neg (by simp [hkept]), ih]
  · induction l generalizing kept with
    | nil =>
      cases h
      exact .nil
    | cons x l ih =>
      rw [List.filter_cons] at h
      cases hkept : (part x).kept present with
      | true =>
        rw [if_pos hkept, List.map_cons] at h
        cases h
        exact .keep (by simpa [Part.kept] using hkept) (ih rfl)
      | false =>
        rw [if_neg (by simp [hkept])] at h
        obtain ⟨key, guard, absent⟩ : ∃ key ∈ (part x).guards, present key = false := by
          simpa [Part.kept] using hkept
        exact .drop guard absent (ih h)

theorem keptOf_self (h : ∀ x ∈ l, (part x).guards = [] ∧ bare x = x) : KeptOf part bare present l l := by
  induction l with
  | nil => exact .nil
  | cons x l ih =>
    obtain ⟨⟨guards, same⟩, others⟩ := List.forall_mem_cons.mp h
    have first : KeptOf part bare present (x :: l) (bare x :: l) := .keep (by simp [guards]) (ih others)
    rwa [same] at first

theorem KeptOf.congr {other : Text → Bool} (h : KeptOf part bare present l kept)
    (same : ∀ x ∈ l, ∀ key ∈ (part x).guards, other key = present key) : KeptOf part bare other l kept := by
  induction h with
  | nil => exact .nil
  | keep guards _ ih =>
    obtain ⟨here, others⟩ := List.forall_mem_cons.mp same
    exact .keep (fun key hk => (here key hk).trans (guards key hk)) (ih others)
  | drop guard absent _ ih =>
    obtain ⟨here, others⟩ := List.forall_mem_cons.mp same
    exact .drop guard ((here _ guard).trans absent) (ih others)

end

namespace Endpoint

variable {e : Endpoint}

theorem keep_eq_iff {kept : Endpoint} : e.keep present = kept ↔
    KeptOf id Part.bare present e.path kept.path ∧ KeptOf Entry.part Entry.bare present e.query kept.query := by
  rw [keptOf_iff, keptOf_iff, ← Endpoint.mk.injEq]
  rfl

theorem guards_of_mem_keep {part : Part} (h : part ∈ (e.keep present).parts) : part.guards = [] := by
  rcases List.mem_append.mp h with h | h
  · obtain ⟨whole, -, rfl⟩ := List.mem_map.mp h
    rfl
  · obtain ⟨entry, hm, rfl⟩ := List.mem_map.mp h
    obtain ⟨whole, -, rfl⟩ := List.mem_map.mp hm
    rfl

theorem mem_keys {key : Text} : key ∈ e.keys ↔ ∃ part ∈ e.parts, key ∈ part.guards := by
  rw [keys, List.mem_eraseDups, List.mem_flatMap]

theorem keep_of_bare (h : ∀ part ∈ e.parts, part.guards = []) (present : Text → Bool) : e.keep present = e := by
  refine keep_eq_iff.mpr ⟨keptOf_self fun part hm => ?_, keptOf_self fun entry hm => ?_⟩
  · have guards : part.guards = [] := h part (List.mem_append_left _ hm)
    exact ⟨guards, by rw [Part.bare, ← guards]⟩
  · have guards : entry.part.guards = [] := h entry.part (List.mem_append_right _ (List.mem_map_of_mem hm))
    exact ⟨guards, by rw [Entry.bare, Part.bare, ← guards]⟩

/-- A set of present keys matters only for the keys of the endpoint. -/
theorem keep_congr {other : Text → Bool} (h : ∀ key ∈ e.keys, other key = present key) :
    e.keep other = e.keep present := by
  obtain ⟨path, query⟩ := keep_eq_iff.mp (Eq.refl (e.keep present))
  refine keep_eq_iff.mpr ⟨path.congr fun part hm key hk => ?_, query.congr fun entry hm key hk => ?_⟩
  · exact h key (mem_keys.mpr ⟨part, List.mem_append_left _ hm, hk⟩)
  · exact h key (mem_keys.mpr ⟨entry.part, List.mem_append_right _ (List.mem_map_of_mem hm), hk⟩)

/-- **Filling never meets a block.** Whatever keys are present, no part that is kept has a guard, and filling block by
    block, which has no answer for a block, has the answer of filling for every lookup. Kept are exactly the parts and
    entries whose guards are all present, in their order and freed of their guards. Of what was kept everything is kept
    again, for any keys, and of two sets of keys that agree on those of the endpoint both keep the same. -/
theorem keep_leaves_no_block (e : Endpoint) (present : Text → Bool) :
    (∀ part ∈ (e.keep present).parts, part.guards = []) ∧
    (∀ (σ : Type) (look : Lookup σ) (s : σ), e.fillNested? present look s = some (e.fill present look s)) ∧
    (∀ kept, e.keep present = kept ↔
      KeptOf id Part.bare present e.path kept.path ∧ KeptOf Entry.part Entry.bare present e.query kept.query) ∧
    (∀ other, (e.keep present).keep other = e.keep present) ∧
    ∀ other, (∀ key ∈ e.keys, other key = present key) → e.keep other = e.keep present :=
  ⟨fun _ => guards_of_mem_keep, fun _ => fillNested?_eq e present, fun _ => keep_eq_iff,
    keep_of_bare fun _ => guards_of_mem_keep, fun _ => keep_congr⟩

/-- A key nested in itself with another between, and one that guards an entry of the query. -/
def folded : Endpoint where
  path := [⟨[], .literal "r".toList⟩, ⟨["a".toList, "b".toList, "a".toList], .param "x".toList⟩]
  query := [⟨"q".toList, ["b".toList], .param "y".toList⟩, ⟨"p".toList, ["c".toList, "b".toList], .literal "1".toList⟩]

theorem keep_leaves_no_block_folded :
    (∀ key ∈ folded.keys, ["z".toList, "b".toList, "a".toList].contains key = ["a".toList, "b".toList].contains key) ∧
    folded.keep ["z".toList, "b".toList, "a".toList].contains = folded.keep ["a".toList, "b".toList].contains ∧
    folded.keep ["a".toList, "b".toList].contains =
      ⟨[⟨[], .literal "r".toList⟩, ⟨[], .param "x".toList⟩], [⟨"q".toList, [], .param "y".toList⟩]⟩ := by
  have agree : ∀ key ∈ folded.keys,
      ["z".toList, "b".toList, "a".toList].contains key = ["a".toList, "b".toList].contains key := by decide
  obtain ⟨-, -, -, -, congr⟩ := keep_leaves_no_block folded ["a".toList, "b".toList].contains
  exact ⟨agree, congr _ agree, by decide⟩

end Endpoint

end RouteTemplate
