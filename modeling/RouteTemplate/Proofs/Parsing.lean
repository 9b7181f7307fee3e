import RouteTemplate.Target
import RouteTemplate.Proofs.Cutting
import RouteTemplate.Proofs.Dict
import RouteTemplate.Proofs.Trimming

/- What a parsed request holds.

   A target is cut at its marks before its pieces become segments, names and values, so none of these holds a
   mark at which it would be cut again (`Request.legible_of_parse`). This is so for relative and for absolute
   targets, since what is left of an absolute one is cut in the same way.

   Such a request is read back from its display, which is never taken for an absolute target, and trimming leaves it
   such a request (`Request.parse_display_of_parse`). -/
namespace RouteTemplate

open Text

namespace Request

/-- A request whose segments, names and values a target can carry, each in its place. -/
structure Legible (r : Request) : Prop where
  segments : ∀ segment ∈ r.segments, IsSegment segment
  entries : ∀ name value, r.query.get? name = some value → IsQueryName name ∧ IsQueryValue value

theorem exists_piece_of_readEntries : ∀ {pieces : List Text} {entries : List (Text × Text)} {entry : Text × Text},
    readEntries pieces = .ok entries → entry ∈ entries → ∃ piece ∈ pieces, splitOnce '=' piece = some entry
  | [], _, _, h, hm => by
    cases h
    cases hm
  | piece :: rest, entries, entry, h, hm => by
    unfold readEntries at h
    split at h
    · cases h
    · next first hfirst =>
      split at h
      · cases h
      · next more hmore =>
        cases h
        rcases List.mem_cons.mp hm with rfl | hm
        · exact ⟨piece, List.mem_cons_self, hfirst⟩
        · obtain ⟨other, ho, hcut⟩ := exists_piece_of_readEntries hmore hm
          exact ⟨other, List.mem_cons_of_mem _ ho, hcut⟩

theorem legible_of_parseRelative {target : Text} {r : Request} (h : parseRelative target = .ok r) : r.Legible := by
  unfold parseRelative at h
  simp only at h
  split at h
  · cases h
  · next entries hentries =>
    cases h
    -- The fragment is gone before anything else is cut.
    have hash : '#' ∉ before '#' target := not_mem_before
    refine ⟨fun segment hs => ?_, fun name value hv => ?_⟩
    · obtain ⟨nonempty, slash, chars⟩ := of_mem_pieces hs
      exact ⟨nonempty, slash, fun hm => not_mem_before (chars _ hm),
        fun hm => hash (mem_of_mem_before (chars _ hm))⟩
    · obtain ⟨piece, hp, hcut⟩ := exists_piece_of_readEntries hentries (Dict.mem_of_get?_ofList hv)
      obtain ⟨-, ampersand, chars⟩ := of_mem_pieces hp
      obtain ⟨rfl, equals⟩ := splitOnce_eq_some_iff.mp hcut
      have free : '#' ∉ name ++ '=' :: value := by
        intro hm
        cases hquery : splitOnce '?' (before '#' target) with
        | none => simpa [hquery] using chars _ hm
        | some cut =>
          obtain ⟨whole, -⟩ := splitOnce_eq_some_iff.mp hquery
          have inQuery : '#' ∈ cut.2 := by simpa [hquery] using chars _ hm
          exact hash (by rw [whole]; simp [inQuery])
      simp only [List.mem_append, List.mem_cons, not_or] at ampersand free
      exact ⟨⟨equals, ampersand.1, free.1⟩, ⟨ampersand.2.2, free.2.2⟩⟩

/-- Whatever a target is, and whoever judges absolute ones, the request it describes can be written as one. -/
theorem legible_of_parseJudged {fault? : Text → Option AuthorityFault} {target : Text} {r : Request}
    (h : parseJudged fault? target = .ok r) : r.Legible := by
  unfold parseJudged at h
  split at h
  · exact legible_of_parseRelative h
  · split at h
    · cases h
    · exact legible_of_parseRelative h

theorem legible_of_parse {target : Text} {r : Request} (h : parse target = .ok r) : r.Legible :=
  legible_of_parseJudged h

/-! ## Written and read again -/

theorem display_eq_written (r : Request) : r.display = written r.segments r.query.entries := rfl

namespace Legible

variable {r r' : Request}

theorem of_mem_entries (h : r.Legible) : ∀ e ∈ r.query.entries, IsQueryName e.1 ∧ IsQueryValue e.2 :=
  fun e he => h.entries e.1 e.2 (Dict.get?_eq_some_iff.mpr he)

theorem splitScheme?_display (h : r.Legible) : splitScheme? r.display = none :=
  splitScheme?_written h.segments r.query.entries

theorem parseJudged_display (h : r.Legible) (fault? : Text → Option AuthorityFault) :
    parseJudged fault? r.display = .ok r := by
  rw [display_eq_written, parseJudged_written fault? h.segments h.of_mem_entries, Dict.ofList_entries]

theorem trim (h : r.Legible) {root : Text} (trimmed : r.trim? root = some r') : r'.Legible := by
  obtain ⟨whole, same⟩ := trim?_eq_some_iff.mp trimmed
  refine ⟨fun segment hs => h.segments segment (by simp [whole, hs]), ?_⟩
  rw [same]
  exact h.entries

end Legible

/-- **A request is read back from its display.** Take the request that a target describes, absolute or relative, or what
    trimming leaves of it. Its display has no scheme, and describes the very same request, whoever judges absolute
    targets. -/
theorem parse_display_of_parse {fault? : Text → Option AuthorityFault} {target : Text} {r : Request}
    (parsed : parseJudged fault? target = .ok r) :
    ∀ r', (r' = r ∨ ∃ root, r.trim? root = some r') →
      splitScheme? r'.display = none ∧ ∀ judge?, parseJudged judge? r'.display = .ok r' := by
  have legible : r.Legible := legible_of_parseJudged parsed
  intro r' h
  have legible' : r'.Legible := by
    rcases h with rfl | ⟨root, trimmed⟩
    · exact legible
    · exact legible.trim trimmed
  exact ⟨legible'.splitScheme?_display, legible'.parseJudged_display⟩

/-- `http:/b?=&x=://?y=1`, which looks like an absolute target twice and is none. -/
def linked : Request where
  segments := ["http:".toList, "b".toList]
  query := .ofList [([], []), ("x".toList, "://?y=1".toList)]

theorem parse_display_of_parse_linked :
    parse "https://h:80//http:/b/?x=1&=&&x=&x=://?y=1#a?b".toList = .ok linked ∧
      linked.display = "http:/b?=&x=://?y=1".toList ∧
      splitScheme? linked.display = none ∧ parse linked.display = .ok linked ∧
      linked.trim? "/http:/".toList = some { linked with segments := ["b".toList] } ∧
      parse "b?=&x=://?y=1".toList = .ok { linked with segments := ["b".toList] } := by
  have parsed : parse "https://h:80//http:/b/?x=1&=&&x=&x=://?y=1#a?b".toList = .ok linked := by decide +kernel
  have trimmed : linked.trim? "/http:/".toList = some { linked with segments := ["b".toList] } := by decide
  obtain ⟨relative, again⟩ := parse_display_of_parse parsed linked (.inl rfl)
  obtain ⟨-, again'⟩ := parse_display_of_parse parsed _ (.inr ⟨"/http:/".toList, trimmed⟩)
  exact ⟨parsed, by decide, relative, again _, trimmed, again' Target.fault?⟩

end Request

end RouteTemplate
