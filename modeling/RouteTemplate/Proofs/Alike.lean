import RouteTemplate.Proofs.RoundTrip

/- Endpoints that differ in the order of their query entries.

   `Endpoint.alike` compares paths part by part and queries as tables. Where the names of entries differ, alike
   endpoints have the same entries, in some order (`Endpoint.alike_iff_perm`). The order is lost wherever entries are
   collected by name: in the rules of a leaf, and so in the whole tree, which reads the query nowhere else
   (`ResolveTree.grow_congr`), and in the request that a filled target is parsed to (`Endpoint.filled_of_perm`). It
   shows in the text of the target alone (`Endpoint.observed_alike`). -/
namespace RouteTemplate

section
variable {query query' : List Entry}

theorem Rule.table_of_perm (hd : (query.map (·.name)).Nodup) (h : query.Perm query') (taken untaken : SortedSet Text) :
    table taken untaken query = table taken untaken query' :=
  Dict.ofList_filterMap_of_perm hd h fun entry => ofPart? taken untaken entry.part

/-- A tree reads the query only for the rules at its leaves. -/
theorem ResolveTree.grow_congr (h : ∀ taken untaken, Rule.table taken untaken query = Rule.table taken untaken query')
    (above run : List Atom) (taken untaken : SortedSet Text) (parts : List Part) :
    grow query above run taken untaken parts = grow query' above run taken untaken parts := by
  induction above, run, taken, untaken, parts using grow_induction with
  | nil above run taken untaken => rw [grow_nil, grow_nil, tip, tip, h]
  | bare above run taken untaken atom rest ih => rw [grow_bare, grow_bare, ih]
  | taken above run taken untaken key guards atom rest ht ih =>
    rw [grow_taken _ _ _ _ _ _ ht, grow_taken _ _ _ _ _ _ ht, ih]
  | untaken above run taken untaken key guards atom rest ht hu ih =>
    rw [grow_untaken _ _ _ _ _ _ ht hu, grow_untaken _ _ _ _ _ _ ht hu, ih]
  | fork above run taken untaken key guards atom rest ht hu yes no =>
    rw [grow_fork _ _ _ _ _ _ ht hu, grow_fork _ _ _ _ _ _ ht hu]
    exact congrArg₂ (fun yes no : ResolveTree => under run (.fork (yes.options ++ no.options))) yes no

end

namespace Endpoint

variable {a b : Endpoint} {present : Text → Bool} {values : Text → Option Text}

theorem get?_queryTable {e : Endpoint} (hd : (e.query.map (·.name)).Nodup) {entry : Entry} :
    e.queryTable.get? entry.name = some entry.part ↔ entry ∈ e.query := by
  rw [queryTable, ← List.filterMap_eq_map]
  refine (Dict.get?_ofList_filterMap hd fun other => some other.part).trans ⟨?_, fun hm => ⟨entry, hm, rfl, rfl⟩⟩
  intro h
  obtain ⟨⟨name, part⟩, hm, rfl, hpart⟩ := h
  cases hpart
  exact hm

theorem queryTable_of_perm (hd : (a.query.map (·.name)).Nodup) (h : a.query.Perm b.query) :
    a.queryTable = b.queryTable := by
  rw [queryTable, queryTable, ← List.filterMap_eq_map]
  exact Dict.ofList_filterMap_of_perm hd h fun entry => some entry.part

theorem alike_iff_perm (ha : (a.query.map (·.name)).Nodup) (hb : (b.query.map (·.name)).Nodup) :
    a.alike b = true ↔ a.path = b.path ∧ a.query.Perm b.query := by
  have tables : a.queryTable = b.queryTable ↔ a.query.Perm b.query := by
    refine ⟨fun h => ?_, queryTable_of_perm ha⟩
    refine (List.perm_ext_iff_of_nodup (.of_map _ ha) (.of_map _ hb)).mpr fun entry => ?_
    rw [← get?_queryTable ha, ← get?_queryTable hb, h]
  simp only [alike, Bool.and_eq_true, decide_eq_true_eq, tables]

section
variable (path : a.path = b.path) (query : a.query.Perm b.query)
include path query

theorem build_of_perm (hd : (a.query.map (·.name)).Nodup) : ResolveTree.build a = ResolveTree.build b := by
  rw [ResolveTree.build, ResolveTree.build, path]
  exact ResolveTree.grow_congr (Rule.table_of_perm hd query) ..

theorem keep_of_perm (present : Text → Bool) :
    (a.keep present).path = (b.keep present).path ∧ (a.keep present).query.Perm (b.keep present).query := by
  refine ⟨?_, (query.filter _).map _⟩
  rw [keep, keep, path]

theorem valued_of_perm : Valued values ((a.keep present).parts.map (·.atom)) ↔
    Valued values ((b.keep present).parts.map (·.atom)) := by
  obtain ⟨path, query⟩ := keep_of_perm path query present
  have atoms := query.map (·.part.atom)
  rw [atoms_parts, atoms_parts, valued_append, valued_append, path]
  exact and_congr_right fun _ => forall_congr' fun name => by rw [atoms.mem_iff]

theorem Readable.of_perm (h : a.Readable present values) : b.Readable present values := by
  obtain ⟨path, query⟩ := keep_of_perm path query present
  exact ⟨fun part hm => h.segments part (path ▸ hm), fun entry hm => h.entries entry (query.mem_iff.mpr hm)⟩

theorem filled_of_perm (hd : (a.query.map (·.name)).Nodup) : a.filled present values = b.filled present values := by
  have hd' : (b.query.map (·.name)).Nodup := (query.map _).nodup_iff.mp hd
  have segments : (a.filled present values).segments = (b.filled present values).segments :=
    congrArg (List.map fun part : Part => part.atom.fillIn values) (keep_of_perm path query present).1
  have entries : (a.filled present values).query = (b.filled present values).query := by
    refine Dict.ext_get? fun name => Option.ext fun value => ?_
    rw [get?_filled hd, get?_filled hd']
    exact exists_congr fun entry => and_congr_left fun _ => query.mem_iff
  exact congrArg₂ Request.mk segments entries

end

/-- **The order of query entries shows in written targets alone.** Alike endpoints whose query names differ have the
    same tree. For any present keys and any lookup that answers by the name, one of them can be filled if the other
    can, and where the texts filled in can be carried by a target, what is written for one is parsed to the same
    request as what is written for the other. -/
theorem observed_alike (ha : (a.query.map (·.name)).Nodup) (hb : (b.query.map (·.name)).Nodup)
    (same : a.alike b = true) :
    ResolveTree.build a = ResolveTree.build b ∧
    ∀ {σ : Type} {look : Lookup σ} {values : Text → Option Text}, look.Answers values →
      ∀ (present : Text → Bool) (s t : σ),
        ((∃ target, (a.fill present look s).1 = .ok target) ↔ ∃ target, (b.fill present look t).1 = .ok target) ∧
        (a.Readable present values → ∀ target target',
          (a.fill present look s).1 = .ok target → (b.fill present look t).1 = .ok target' →
            ∃ r, Request.parse target = .ok r ∧ Request.parse target' = .ok r) := by
  obtain ⟨path, query⟩ := (alike_iff_perm ha hb).mp same
  refine ⟨build_of_perm path query ha, fun {σ look values} answers present s t => ⟨?_, ?_⟩⟩
  · simp only [fill_eq_ok_iff answers, exists_and_left, exists_eq', and_true]
    exact valued_of_perm path query
  · intro readable target target' fillsA fillsB
    obtain ⟨-, rfl⟩ := (fill_eq_ok_iff answers).mp fillsA
    obtain ⟨-, rfl⟩ := (fill_eq_ok_iff answers).mp fillsB
    refine ⟨a.filled present values, readable.parse, ?_⟩
    rw [filled_of_perm path query ha]
    exact (readable.of_perm path query).parse

/-- `items/[?one:{id}]?by={id}&[?one:full=yes]` -/
def item : Endpoint where
  path := [⟨[], .literal "items".toList⟩, ⟨["one".toList], .param "id".toList⟩]
  query := [⟨"by".toList, [], .param "id".toList⟩, ⟨"full".toList, ["one".toList], .literal "yes".toList⟩]

/-- `items/[?one:{id}]?[?one:full=yes]&by={id}` -/
def itemReversed : Endpoint := { item with query := item.query.reverse }

theorem readable_item : item.Readable (fun _ => true) fun _ => some "7".toList := ⟨by decide, by decide⟩

theorem observed_alike_item : (item.query.map (·.name)).Nodup ∧ (itemReversed.query.map (·.name)).Nodup ∧
    item.alike itemReversed = true ∧
    (item.fill (fun _ => true) (Lookup.recording fun _ => some "7".toList) []).1 = .ok "items/7?by=7&full=yes".toList ∧
    (itemReversed.fill (fun _ => true) (Lookup.recording fun _ => some "7".toList) []).1 =
      .ok "items/7?full=yes&by=7".toList ∧
    ∃ r, Request.parse "items/7?by=7&full=yes".toList = .ok r ∧
      Request.parse "items/7?full=yes&by=7".toList = .ok r := by
  have same : item.alike itemReversed = true := by decide
  have fills : (item.fill (fun _ => true) (Lookup.recording fun _ => some "7".toList) []).1 =
      .ok "items/7?by=7&full=yes".toList := by decide
  have fillsReversed : (itemReversed.fill (fun _ => true) (Lookup.recording fun _ => some "7".toList) []).1 =
      .ok "items/7?full=yes&by=7".toList := by decide
  obtain ⟨-, alike⟩ := observed_alike (a := item) (b := itemReversed) (by decide) (by decide) same
  obtain ⟨-, parsed⟩ := alike (Lookup.recording_answers fun _ => some "7".toList) (fun _ => true) [] []
  exact ⟨by decide, by decide, same, fills, fillsReversed, parsed readable_item _ _ fills fillsReversed⟩

end Endpoint

end RouteTemplate
