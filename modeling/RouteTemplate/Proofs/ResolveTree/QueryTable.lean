import RouteTemplate.Proofs.RoundTrip

/- What a leaf says about the query.

   A leaf decides some keys and leaves others open, so many sets of present keys are consistent with it. An
   entry of the query is kept for all of them when the leaf takes every one of its guards, for none when the
   leaf does not take some guard, and for some only otherwise: the keys taken, alone, drop it, and together
   with its guards they keep it (`Leaf.consistent_reaching`). The table of the leaf tells these cases apart
   (`ResolveTree.table_exact`), however keys are nested and whichever of them occur in the path. -/
namespace RouteTemplate

section
variable {e : Endpoint} {l : Leaf} {present : Text → Bool} {entry : Entry}

/-- The entry is among those the endpoint keeps for the set. -/
def Endpoint.Keeps (e : Endpoint) (present : Text → Bool) (entry : Entry) : Prop :=
  { entry with part := entry.part.bare } ∈ (e.keep present).query

theorem Endpoint.keeps_iff (hd : (e.query.map (·.name)).Nodup) (hm : entry ∈ e.query) :
    e.Keeps present entry ↔ entry.part.kept present = true := by
  rw [Keeps, mem_query_keep]
  refine ⟨?_, fun h => ⟨entry, hm, h, rfl⟩⟩
  intro h
  obtain ⟨whole, hw, hk, heq⟩ := h
  have same : whole = entry := List.inj_on_of_nodup_map hd hw hm (congrArg Entry.name heq :)
  rwa [← same]

/-! ## The guards of a part, under the decisions of a leaf -/

/-- The keys a leaf takes, together with the guards of a part. -/
def Leaf.reaching (l : Leaf) (p : Part) (key : Text) : Bool := l.takes key || p.guards.contains key

/-- The guards of a part may be added to the keys taken, unless the leaf does not take one of them. -/
theorem Leaf.consistent_reaching {p : Part} (h : Apart l.taken l.untaken) (hp : ∀ key ∈ p.guards, key ∉ l.untaken) :
    l.consistent (l.reaching p) = true := by
  refine consistent_iff.mpr ⟨fun key hk => ?_, fun key hk => ?_⟩
  · simp [reaching, takes, hk]
  · have not_taken : key ∉ l.taken := fun ht => h key ht hk
    have not_guard : key ∉ p.guards := fun hg => hp key hg hk
    simp [reaching, takes, not_taken, not_guard]

namespace Rule

variable {p : Part} {rule : Rule}

theorem ofPart?_eq_none_iff {taken untaken : SortedSet Text} :
    ofPart? taken untaken p = none ↔ ∃ key ∈ p.guards, key ∈ untaken := by
  simp [ofPart?]

theorem ofPart?_eq_some_iff {taken untaken : SortedSet Text} : ofPart? taken untaken p = some rule ↔
    (∀ key ∈ p.guards, key ∉ untaken) ∧ ⟨p.atom, p.guards.any (· ∉ taken)⟩ = rule := by
  simp [ofPart?]

theorem not_kept_of_none (h : ofPart? l.taken l.untaken p = none) (hc : l.consistent present = true) :
    p.kept present = false := by
  obtain ⟨key, hk, hu⟩ := ofPart?_eq_none_iff.mp h
  refine List.all_eq_false.mpr ⟨key, hk, ?_⟩
  simp [(Leaf.consistent_iff.mp hc).2 key hu]

theorem kept_of_required (h : ofPart? l.taken l.untaken p = some rule) (ho : rule.optional = false)
    (hc : l.consistent present = true) : p.kept present = true := by
  obtain ⟨-, rfl⟩ := ofPart?_eq_some_iff.mp h
  have taken : ∀ key ∈ p.guards, key ∈ l.taken := by simpa using ho
  exact List.all_eq_true.mpr fun key hk => (Leaf.consistent_iff.mp hc).1 key (taken key hk)

theorem exists_kept (apart : Apart l.taken l.untaken) (h : ofPart? l.taken l.untaken p = some rule) :
    ∃ present, l.consistent present = true ∧ p.kept present = true := by
  obtain ⟨free, -⟩ := ofPart?_eq_some_iff.mp h
  refine ⟨l.reaching p, Leaf.consistent_reaching apart free, List.all_eq_true.mpr fun key hk => ?_⟩
  simp [Leaf.reaching, hk]

theorem exists_not_kept (apart : Apart l.taken l.untaken) (h : ofPart? l.taken l.untaken p = some rule)
    (ho : rule.optional = true) : ∃ present, l.consistent present = true ∧ p.kept present = false := by
  obtain ⟨-, rfl⟩ := ofPart?_eq_some_iff.mp h
  obtain ⟨key, hk, hnot⟩ := List.any_eq_true.mp ho
  refine ⟨l.takes, Leaf.consistent_takes apart, List.all_eq_false.mpr ⟨key, hk, ?_⟩⟩
  simpa [Leaf.takes] using hnot

end Rule

namespace ResolveTree

/-- The table of a leaf holds for each entry the rule of its part, under the keys that the leaf decides. -/
theorem get?_rules (hd : (e.query.map (·.name)).Nodup) (hl : l ∈ (build e).leaves) (hm : entry ∈ e.query) :
    l.shape.query.get? entry.name = Rule.ofPart? l.taken l.untaken entry.part := by
  rw [rules_of_mem_build hl]
  apply Option.ext
  intro rule
  rw [Rule.get?_table hd]
  refine ⟨?_, fun h => ⟨entry, hm, rfl, h⟩⟩
  intro h
  obtain ⟨other, ho, hname, hrule⟩ := h
  rwa [← List.inj_on_of_nodup_map hd ho hm hname]

theorem exists_entry_of_rules (hd : (e.query.map (·.name)).Nodup) (hl : l ∈ (build e).leaves) {name : Text}
    {rule : Rule} (h : l.shape.query.get? name = some rule) : ∃ entry ∈ e.query, entry.name = name := by
  rw [rules_of_mem_build hl] at h
  obtain ⟨entry, hm, hname, -⟩ := (Rule.get?_table hd).mp h
  exact ⟨entry, hm, hname⟩

/-- **The table of a leaf is exact.** Over all sets of present keys consistent with the leaf, an entry of the
    query is asked for when it is always kept, may be missing when it is sometimes kept and sometimes dropped,
    and is not in the table when it is never kept. In the table it has its own atom, and the table has no
    names but those of entries. -/
theorem table_exact (hd : (e.query.map (·.name)).Nodup) (hl : l ∈ (build e).leaves) :
    (∀ entry ∈ e.query,
      ((∃ rule, l.shape.query.get? entry.name = some rule ∧ rule.optional = false) ↔
        ∀ present, l.consistent present = true → e.Keeps present entry) ∧
      ((∃ rule, l.shape.query.get? entry.name = some rule ∧ rule.optional = true) ↔
        (∃ present, l.consistent present = true ∧ e.Keeps present entry) ∧
        ∃ present, l.consistent present = true ∧ ¬e.Keeps present entry) ∧
      (l.shape.query.get? entry.name = none ↔
        ∀ present, l.consistent present = true → ¬e.Keeps present entry) ∧
      ∀ rule, l.shape.query.get? entry.name = some rule → rule.atom = entry.part.atom) ∧
    ∀ name, l.shape.query.get? name ≠ none → ∃ entry ∈ e.query, entry.name = name := by
  refine ⟨fun entry hm => ?_, fun name h => ?_⟩
  · have apart := apart_of_mem_build hl
    have takes : l.consistent l.takes = true := Leaf.consistent_takes apart
    have keeps : ∀ present, e.Keeps present entry ↔ entry.part.kept present = true :=
      fun present => Endpoint.keeps_iff hd hm
    simp only [get?_rules hd hl hm, keeps]
    -- Each of the three cases settles all statements, since some set at least is consistent with the leaf.
    cases hrule : Rule.ofPart? l.taken l.untaken entry.part with
    | none =>
      have never := fun present (hc : l.consistent present = true) => Rule.not_kept_of_none hrule hc
      refine ⟨iff_of_false (by simp) fun h => ?_, iff_of_false (by simp) fun h => ?_,
        iff_of_true rfl fun present hc => by simp [never present hc], by simp⟩
      · simpa [never l.takes takes] using h l.takes takes
      · obtain ⟨⟨present, hc, hk⟩, -⟩ := h
        simp [never present hc] at hk
    | some rule =>
      obtain ⟨-, atom⟩ := Rule.ofPart?_eq_some_iff.mp hrule
      obtain ⟨reached, hreached, kept⟩ := Rule.exists_kept apart hrule
      have listed : ¬∀ present, l.consistent present = true → ¬entry.part.kept present = true :=
        fun h => h reached hreached kept
      cases ho : rule.optional with
      | true =>
        obtain ⟨small, hsmall, dropped⟩ := Rule.exists_not_kept apart hrule ho
        refine ⟨iff_of_false (by simp [ho]) fun h => ?_, iff_of_true ⟨rule, rfl, ho⟩ ⟨⟨reached, hreached, kept⟩, small,
          hsmall, by simp [dropped]⟩, iff_of_false (by simp) listed, by simp [← atom]⟩
        simpa [dropped] using h small hsmall
      | false =>
        have always := fun present (hc : l.consistent present = true) => Rule.kept_of_required hrule ho hc
        refine ⟨iff_of_true ⟨rule, rfl, ho⟩ always, iff_of_false (by simp [ho]) fun h => ?_,
          iff_of_false (by simp) listed, by simp [← atom]⟩
        obtain ⟨-, present, hc, hnot⟩ := h
        exact hnot (always present hc)
  · obtain ⟨rule, hrule⟩ := Option.ne_none_iff_exists'.mp h
    exact exists_entry_of_rules hd hl hrule

/-- `[?a:[?b:x]]?[?a:p=1]&[?b:q=2]&[?c:r=3]&s=4` -/
def nested : Endpoint where
  path := [⟨["a".toList, "b".toList], .literal "x".toList⟩]
  query := [⟨"p".toList, ["a".toList], .literal "1".toList⟩, ⟨"q".toList, ["b".toList], .literal "2".toList⟩,
    ⟨"r".toList, ["c".toList], .literal "3".toList⟩, ⟨"s".toList, [], .literal "4".toList⟩]

/-- The leaf that takes `a` and not `b`. -/
def nestedOuter : Leaf where
  shape := ⟨[], Rule.table (.ofList ["a".toList]) (.ofList ["b".toList]) nested.query⟩
  taken := .ofList ["a".toList]
  untaken := .ofList ["b".toList]

theorem table_exact_nested :
    ((nested.query.map (·.name)).Nodup ∧ nestedOuter ∈ (build nested).leaves) ∧
    (∀ present, nestedOuter.consistent present = true →
      nested.Keeps present ⟨"p".toList, ["a".toList], .literal "1".toList⟩) ∧
    (∀ present, nestedOuter.consistent present = true →
      ¬nested.Keeps present ⟨"q".toList, ["b".toList], .literal "2".toList⟩) ∧
    (∃ present, nestedOuter.consistent present = true ∧
      nested.Keeps present ⟨"r".toList, ["c".toList], .literal "3".toList⟩) ∧
    ∃ present, nestedOuter.consistent present = true ∧
      ¬nested.Keeps present ⟨"r".toList, ["c".toList], .literal "3".toList⟩ := by
  have hd : (nested.query.map (·.name)).Nodup := by decide
  have hl : nestedOuter ∈ (build nested).leaves := by decide +kernel
  obtain ⟨exact, -⟩ := table_exact hd hl
  obtain ⟨always, -⟩ := exact ⟨"p".toList, ["a".toList], .literal "1".toList⟩ (by simp [nested])
  obtain ⟨-, -, never, -⟩ := exact ⟨"q".toList, ["b".toList], .literal "2".toList⟩ (by simp [nested])
  obtain ⟨-, sometimes, -⟩ := exact ⟨"r".toList, ["c".toList], .literal "3".toList⟩ (by simp [nested])
  exact ⟨⟨hd, hl⟩, always.mp ⟨_, rfl, rfl⟩, never.mp rfl, sometimes.mp ⟨_, rfl, rfl⟩⟩

end ResolveTree

end

end RouteTemplate
