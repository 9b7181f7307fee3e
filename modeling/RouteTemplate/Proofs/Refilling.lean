import RouteTemplate.Proofs.Matching
import RouteTemplate.Proofs.Parsing
import RouteTemplate.Proofs.RoundTrip

/- From a target to its values and back.

   What a leaf binds in a request, filled in again, is what it was found beside (`Shape.fillIn_of_resolve`). The
   keys a leaf takes keep its own path, and every entry they keep is found in the request
   (`Leaf.exists_found_of_kept`). So filling with these keys and values writes the segments of the request and
   values of its query, and since a parsed request holds nothing that would be cut again, the target is read back
   as these (`Leaf.parse_refilled`). The entries kept are all those in the table of the leaf, unless the table
   has one that may be missing (`Leaf.listed_iff_kept`). -/
namespace RouteTemplate

section
variable {e : Endpoint} {l : Leaf} {r : Request} {b : Bindings}

/-! ## What is kept for the keys a leaf takes -/

namespace Leaf

variable {entry : Entry}

theorem get?_rules_of_kept (hl : l ∈ (ResolveTree.build e).leaves) (hd : (e.query.map (·.name)).Nodup)
    (hm : entry ∈ e.query) (hk : entry.part.kept l.takes = true) :
    l.shape.query.get? entry.name = some ⟨entry.part.atom, false⟩ := by
  have taken : entry.part.guards.any (· ∉ l.taken) = false := by
    simpa [Part.kept, takes] using hk
  rw [ResolveTree.rules_of_mem_build hl,
    get?_table_of_kept hd (consistent_takes (ResolveTree.apart_of_mem_build hl)) hm hk, taken]

theorem exists_found_of_kept (hl : l ∈ (ResolveTree.build e).leaves) (hd : (e.query.map (·.name)).Nodup)
    (h : l.shape.resolve r = some b) (hm : entry ∈ e.query) (hk : entry.part.kept l.takes = true) :
    ∃ value, r.query.get? entry.name = some value ∧ (entry.part.atom, value) ∈ l.shape.foundIn r := by
  have listed := get?_rules_of_kept hl hd hm hk
  have fits := Shape.fits_iff.mp (Shape.resolve_eq_some_iff.mp h).1
  obtain ⟨value, hvalue⟩ := Dict.contains_iff.mp (fits.2 _ _ listed rfl)
  exact ⟨value, hvalue, List.mem_append_right _ (Shape.mem_foundInQuery.mpr ⟨_, _, listed, hvalue, rfl⟩)⟩

/-- When nothing in the table may be missing, the names in it are those kept for the keys taken. -/
theorem listed_iff_kept (hl : l ∈ (ResolveTree.build e).leaves) (hd : (e.query.map (·.name)).Nodup)
    (definite : ∀ name rule, l.shape.query.get? name = some rule → rule.optional = false) {name : Text} :
    l.shape.query.contains name = true ↔ ∃ entry ∈ e.query, entry.part.kept l.takes = true ∧ entry.name = name := by
  refine ⟨?_, ?_⟩
  · intro h
    obtain ⟨rule, hrule⟩ := Dict.contains_iff.mp h
    have hopt := definite name rule hrule
    rw [ResolveTree.rules_of_mem_build hl] at hrule
    obtain ⟨entry, hm, hname, hpart⟩ := (Rule.get?_table hd).mp hrule
    refine ⟨entry, hm, ?_, hname⟩
    -- A dropped entry could only be in the table as one that may be missing.
    cases hk : entry.part.kept l.takes with
    | true => rfl
    | false =>
      have taken := (consistent_iff.mp (consistent_takes (ResolveTree.apart_of_mem_build hl))).1
      rw [Rule.optional_of_not_kept taken hk hpart] at hopt
      cases hopt
  · intro h
    obtain ⟨entry, hm, hk, rfl⟩ := h
    exact Dict.contains_iff.mpr ⟨_, get?_rules_of_kept hl hd hm hk⟩

theorem valued_kept (hl : l ∈ (ResolveTree.build e).leaves) (hd : (e.query.map (·.name)).Nodup)
    (h : l.shape.resolve r = some b) : Valued b.get? ((e.keep l.takes).parts.map (·.atom)) := by
  rw [Endpoint.atoms_parts, valued_append,
    ← path_eq_of_consistent hl (consistent_takes (ResolveTree.apart_of_mem_build hl))]
  refine ⟨Shape.valued_path h, fun name hm => ?_⟩
  obtain ⟨_, hkept, hatom⟩ := List.mem_map.mp hm
  obtain ⟨entry, hm, hk, rfl⟩ := mem_query_keep.mp hkept
  obtain ⟨value, -, found⟩ := exists_found_of_kept hl hd h hm hk
  have hparam : entry.part.atom = .param name := hatom
  rw [hparam] at found
  exact Shape.get?_ne_none_of_resolve h found

theorem map_fillIn_kept (hl : l ∈ (ResolveTree.build e).leaves) (h : l.shape.resolve r = some b) :
    (e.keep l.takes).path.map (·.atom.fillIn b.get?) = r.segments := by
  rw [← Shape.map_fillIn_path h,
    path_eq_of_consistent hl (consistent_takes (ResolveTree.apart_of_mem_build hl)), List.map_map]
  rfl

theorem get?_of_kept (hl : l ∈ (ResolveTree.build e).leaves) (hd : (e.query.map (·.name)).Nodup)
    (h : l.shape.resolve r = some b) (hm : entry ∈ e.query) (hk : entry.part.kept l.takes = true) :
    r.query.get? entry.name = some (entry.part.atom.fillIn b.get?) := by
  obtain ⟨value, hvalue, found⟩ := exists_found_of_kept hl hd h hm hk
  rw [hvalue, Shape.fillIn_of_resolve h found]

theorem parse_refilled (hl : l ∈ (ResolveTree.build e).leaves) (hd : (e.query.map (·.name)).Nodup)
    (h : l.shape.resolve r = some b) (hr : r.Legible) :
    Request.parse (Request.written ((e.keep l.takes).path.map (·.atom.fillIn b.get?))
      ((e.keep l.takes).query.map fun entry => (entry.name, entry.part.atom.fillIn b.get?))) =
        .ok (e.filled l.takes b.get?) := by
  apply Request.parseJudged_written
  · rw [map_fillIn_kept hl h]
    exact hr.segments
  · intro x hx
    obtain ⟨_, hkept, rfl⟩ := List.mem_map.mp hx
    obtain ⟨entry, hm, hk, rfl⟩ := mem_query_keep.mp hkept
    exact hr.entries entry.name _ (get?_of_kept hl hd h hm hk)

theorem get?_refilled (hl : l ∈ (ResolveTree.build e).leaves) (hd : (e.query.map (·.name)).Nodup)
    (h : l.shape.resolve r = some b)
    (definite : ∀ name rule, l.shape.query.get? name = some rule → rule.optional = false) (name : Text) :
    (e.filled l.takes b.get?).query.get? name =
      if l.shape.query.contains name then r.query.get? name else none := by
  apply Option.ext
  intro value
  rw [Endpoint.get?_filled hd]
  split
  · next listed =>
    obtain ⟨entry, hm, hk, rfl⟩ := (listed_iff_kept hl hd definite).mp listed
    rw [get?_of_kept hl hd h hm hk, Option.some.injEq]
    refine ⟨?_, fun heq => ⟨entry, hm, hk, rfl, heq⟩⟩
    intro h
    obtain ⟨other, ho, -, hname, heq⟩ := h
    rwa [← List.inj_on_of_nodup_map hd ho hm hname]
  · next unlisted =>
    refine iff_of_false ?_ (by simp)
    intro h
    obtain ⟨entry, hm, hk, hname, -⟩ := h
    exact unlisted ((listed_iff_kept hl hd definite).mpr ⟨entry, hm, hk, hname⟩)

end Leaf

namespace ResolveTree

theorem exists_first_of_resolve (found : (build e).resolve r = some b) :
    ∃ l ∈ (build e).leaves, (build e).leaves.find? (fun l => (l.shape.resolve r).isSome) = some l ∧
      l.shape.resolve r = some b := by
  rw [resolve_build_eq_findSome?] at found
  obtain ⟨before, l, after, split, hb, fail⟩ := List.findSome?_eq_some_iff.mp found
  refine ⟨l, by simp [split], ?_, hb⟩
  rw [List.find?_eq_some_iff_append]
  exact ⟨by simp [hb], before, after, split, fun m hm => by simp [fail m hm]⟩

/-- **What was found fills the target again.** When the tree answers a parsed request, a first leaf matches it.
    If no entry in the table of this leaf may be missing, then filling with the keys the leaf takes and the
    values of the answer succeeds, and the target is parsed as the segments of the request with those values of
    its query whose names are in the table. -/
theorem fill_of_resolve (hd : (e.query.map (·.name)).Nodup) {target : Text} (parsed : Request.parse target = .ok r)
    (found : (build e).resolve r = some b) :
    ∃ l, (build e).leaves.find? (fun l => (l.shape.resolve r).isSome) = some l ∧
      ((∀ name rule, l.shape.query.get? name = some rule → rule.optional = false) →
        ∀ {σ : Type} (look : Lookup σ) (s : σ), look.Answers b.get? →
          ∃ again r', (e.fill l.takes look s).1 = .ok again ∧ Request.parse again = .ok r' ∧
            r'.segments = r.segments ∧
            ∀ name, r'.query.get? name = if l.shape.query.contains name then r.query.get? name else none) := by
  obtain ⟨l, hl, first, hb⟩ := exists_first_of_resolve found
  refine ⟨l, first, fun definite σ look s answers => ?_⟩
  have fills : (e.fill l.takes look s).1 = .ok _ :=
    (Endpoint.fill_eq_ok_iff answers).mpr ⟨Leaf.valued_kept hl hd hb, rfl⟩
  exact ⟨_, e.filled l.takes b.get?, fills, Leaf.parse_refilled hl hd hb (Request.legible_of_parse parsed),
    Leaf.map_fillIn_kept hl hb, Leaf.get?_refilled hl hd hb definite⟩

/-- `items/{id}/[?v:{v}]?[?v:by={id}]&lang={lang}` -/
def versioned : Endpoint where
  path := [⟨[], .literal "items".toList⟩, ⟨[], .param "id".toList⟩, ⟨["v".toList], .param "v".toList⟩]
  query := [⟨"by".toList, ["v".toList], .param "id".toList⟩, ⟨"lang".toList, [], .param "lang".toList⟩]

/-- Version 2 of item 7, in English. -/
def versionedRequest : Request where
  segments := ["items".toList, "7".toList, "2".toList]
  query := .ofList [("lang".toList, "en".toList), ("by".toList, "7".toList), ("page".toList, "3".toList)]

def versionedValues : Bindings :=
  .ofList [("id".toList, "7".toList), ("v".toList, "2".toList), ("lang".toList, "en".toList)]

theorem fill_of_resolve_versioned :
    ((versioned.query.map (·.name)).Nodup ∧
      Request.parse "/items//7/2?lang=en&by=7&page=3#top".toList = .ok versionedRequest ∧
      (build versioned).resolve versionedRequest = some versionedValues) ∧
    ∃ l, (build versioned).leaves.find? (fun l => (l.shape.resolve versionedRequest).isSome) = some l ∧
      (∀ e ∈ l.shape.query.entries, e.2.optional = false) ∧
      ∃ again r', (versioned.fill l.takes (Lookup.recording versionedValues.get?) []).1 = .ok again ∧
        Request.parse again = .ok r' ∧ r'.segments = versionedRequest.segments ∧
        r'.query.get? "by".toList = some "7".toList ∧ r'.query.get? "page".toList = none := by
  have hd : (versioned.query.map (·.name)).Nodup := by decide
  have parsed : Request.parse "/items//7/2?lang=en&by=7&page=3#top".toList = .ok versionedRequest := by
    decide +kernel
  have found : (build versioned).resolve versionedRequest = some versionedValues := by decide +kernel
  obtain ⟨l, first, refill⟩ := fill_of_resolve hd parsed found
  have matched : (build versioned).leaves.find? (fun l => (l.shape.resolve versionedRequest).isSome) =
      some ⟨⟨versioned.path.map (·.atom), Rule.table (.ofList ["v".toList]) .empty versioned.query⟩,
        .ofList ["v".toList], .empty⟩ := by decide +kernel
  rw [first] at matched
  cases matched
  have definite : ∀ e ∈ (Rule.table (.ofList ["v".toList]) .empty versioned.query).entries, e.2.optional = false := by
    decide
  obtain ⟨again, r', fills, reads, segments, query⟩ := refill
    (fun name rule h => definite _ (Dict.get?_eq_some_iff.mp h)) (Lookup.recording versionedValues.get?) []
    (Lookup.recording_answers _)
  exact ⟨⟨hd, parsed, found⟩, _, first, definite, again, r', fills, reads, segments, query "by".toList,
    query "page".toList⟩

end ResolveTree

end

end RouteTemplate
