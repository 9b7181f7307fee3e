import RouteTemplate.Proofs.Absolute
import RouteTemplate.Proofs.Dict
import RouteTemplate.Proofs.Occurrences

/- Redundant separators.

   Cutting a text into its non-empty pieces does not see how many separators stand before, between and after them. A
   target is cut at its first `#`, then at its first `?`, and only then into pieces: neither mark stands in a segment, so
   a `?` in the query and any mark in the fragment are no cuts. So what a target describes is determined by its segments
   and the items of its query: the first item without `=` is its error (`Request.readEntries_of_first`), and without such
   an item each name has the value of its last one (`Request.get?_ofList_eq_some_iff_item`). -/
namespace RouteTemplate

open Text

theorem Text.entry_inj {name name' value value' : Text} (h : '=' ∉ name) (h' : '=' ∉ name')
    (heq : entry name value = entry name' value') : name = name' ∧ value = value' := append_cons_inj h h' heq

namespace Request

/-! ## Reading the items of a query -/

theorem readEntries_of_first {item : Text} (after : List Text) (lacking : '=' ∉ item) : ∀ {before : List Text},
    (∀ i ∈ before, '=' ∈ i) → readEntries (before ++ item :: after) = .error (.malformedQuery item)
  | [], _ => by rw [List.nil_append, readEntries, splitOnce_eq_none_iff.mpr lacking]
  | first :: before, h => by
    obtain ⟨here, others⟩ := List.forall_mem_cons.mp h
    rw [List.cons_append, readEntries, readEntries_of_first after lacking others]
    cases cut : splitOnce '=' first with
    | none => exact absurd here (splitOnce_eq_none_iff.mp cut)
    | some entry => rfl

theorem exists_entries : ∀ {items : List Text}, (∀ item ∈ items, '=' ∈ item) →
    ∃ entries : List (Text × Text), items = entries.map (fun e => entry e.1 e.2) ∧ ∀ e ∈ entries, '=' ∉ e.1
  | [], _ => ⟨[], rfl, by simp⟩
  | item :: items, h => by
    obtain ⟨here, others⟩ := List.forall_mem_cons.mp h
    obtain ⟨entries, rfl, free⟩ := exists_entries others
    cases cut : splitOnce '=' item with
    | none => exact absurd here (splitOnce_eq_none_iff.mp cut)
    | some e =>
      obtain ⟨rfl, he⟩ := splitOnce_eq_some_iff.mp cut
      exact ⟨e :: entries, rfl, List.forall_mem_cons.mpr ⟨he, free⟩⟩

theorem get?_ofList_eq_some_iff_item {entries : List (Text × Text)} (free : ∀ e ∈ entries, '=' ∉ e.1)
    {name value : Text} : (Dict.ofList entries).get? name = some value ↔ '=' ∉ name ∧ ∃ before after,
      entries.map (fun e => entry e.1 e.2) = before ++ entry name value :: after ∧
        ∀ item ∈ after, ∀ other, item ≠ entry name other := by
  rw [Dict.get?_ofList_eq_some_iff]
  refine ⟨fun h => ?_, fun h => ?_⟩
  · obtain ⟨before, after, rfl, last⟩ := h
    have hname : '=' ∉ name := free (name, value) (by simp)
    refine ⟨hname, before.map _, after.map _, List.map_append, fun item hm other heq => ?_⟩
    obtain ⟨e, he, rfl⟩ := List.mem_map.mp hm
    exact last e he (entry_inj (free e (by simp [he])) hname heq).1
  · obtain ⟨hname, before, after, split, last⟩ := h
    obtain ⟨before, rest, rfl, rfl, hrest⟩ := List.map_eq_append_iff.mp split
    obtain ⟨e, after, rfl, heq, rfl⟩ := List.map_eq_cons_iff.mp hrest
    obtain ⟨rfl, rfl⟩ := entry_inj (free e (by simp)) hname heq
    refine ⟨before, after, rfl, fun other ho hsame => ?_⟩
    exact last _ (List.mem_map_of_mem ho) other.2 (by rw [hsame])

/-! ## Reading the target -/

/-- **Separators to spare and fragments do not count.** Take segments, and items that may stand in a query, and a target
    that is made of a slash and the segments with slashes to spare around them, at least one between two, then of `?` and
    the items with ampersands to spare (both may be missing when there is no item), and then of nothing, or of `#` and any
    text. If some item has no `=`, the first such item is the error. Otherwise the target is parsed as exactly these
    segments, and as the table in which each name has the value of its last item. -/
theorem parse_spaced (fault? : Text → Option AuthorityFault) {segments items : List Text} {path query fragment : Text}
    (hs : ∀ s ∈ segments, IsSegment s) (hi : ∀ item ∈ items, IsQueryItem item) (hp : Spaced '/' segments path)
    (hq : SpacedQuery items query) (hf : IsFragment fragment) :
    (∀ before item after, items = before ++ item :: after → (∀ i ∈ before, '=' ∈ i) → '=' ∉ item →
      parseJudged fault? ('/' :: path ++ query ++ fragment) = .error (.malformedQuery item)) ∧
    ((∀ item ∈ items, '=' ∈ item) → ∃ table,
      parseJudged fault? ('/' :: path ++ query ++ fragment) = .ok ⟨segments, table⟩ ∧
      ∀ name value, table.get? name = some value ↔ '=' ∉ name ∧ ∃ before after,
        items = before ++ entry name value :: after ∧ ∀ item ∈ after, ∀ other, item ≠ entry name other) := by
  -- With a slash in front there is no scheme, and the slash is one more to spare.
  have relative : splitScheme? ('/' :: path ++ query ++ fragment) = none :=
    splitScheme?_of_followsAuthority (.cons (.inl rfl))
  rw [parseJudged_of_relative fault? relative, parseRelative_spaced hs hi hp.sep hq hf]
  refine ⟨fun before item after split named lacking => ?_, fun named => ?_⟩
  · rw [split, readEntries_of_first after lacking named]
    rfl
  · obtain ⟨entries, rfl, free⟩ := exists_entries named
    rw [readEntries_entries free]
    exact ⟨Dict.ofList entries, rfl, fun name value => get?_ofList_eq_some_iff_item free⟩

/-- A name given twice, a value with marks in it, and a fragment that looks like a path with a query; and a query in which
    two items have no `=`. -/
theorem parse_spaced_pages :
    (∃ table, parse "//a///b:/?&&x=1&y=?/&x=a=b&&#c?d=&e".toList = .ok ⟨["a".toList, "b:".toList], table⟩ ∧
      table.get? "x".toList = some "a=b".toList ∧ table.get? "y".toList = some "?/".toList) ∧
    parse "/?x=1&&flag&more".toList = .error (.malformedQuery "flag".toList) := by
  have path : Spaced '/' ["a".toList, "b:".toList] "/a///b:/".toList :=
    .sep (.item "a".toList (.sep (.sep (.item "b:".toList .nil))))
  have query : SpacedQuery ["x=1".toList, "y=?/".toList, "x=a=b".toList] "?&&x=1&y=?/&x=a=b&&".toList :=
    .mk (.sep (.sep (.item "x=1".toList (.item "y=?/".toList (.item "x=a=b".toList (.sep .nil))))))
  have flags : SpacedQuery ["x=1".toList, "flag".toList, "more".toList] "?x=1&&flag&more".toList :=
    .mk (.item "x=1".toList (.sep (.item "flag".toList (.last "more".toList))))
  obtain ⟨-, read⟩ := parse_spaced Target.fault? (by decide) (by decide) path query (.mk "c?d=&e".toList)
  obtain ⟨refuse, -⟩ := parse_spaced Target.fault? (by decide) (by decide) .nil flags .absent
  obtain ⟨table, parsed, values⟩ := read (by decide)
  refine ⟨⟨table, parsed, (values _ _).mpr ⟨by decide, ?_⟩, (values _ _).mpr ⟨by decide, ?_⟩⟩, ?_⟩
  · exact ⟨["x=1".toList, "y=?/".toList], [], rfl, by simp⟩
  · refine ⟨["x=1".toList], ["x=a=b".toList], rfl, fun item hm other heq => ?_⟩
    rw [List.mem_singleton.mp hm] at heq
    exact absurd (List.cons.inj heq).1 (by decide)
  · exact refuse ["x=1".toList] "flag".toList ["more".toList] rfl (by decide) (by decide)

end Request

end RouteTemplate
