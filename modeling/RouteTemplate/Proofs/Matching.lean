import Mathlib.Data.List.Forall2
import RouteTemplate.Proofs.Binding
import RouteTemplate.Proofs.Rendering

/- Matching one shape.

   A request matches a shape with some values when it has as many segments as the shape has path atoms, lacks no name
   that must be there, and gives back, wherever an atom of the shape stands beside a text, this text once the values are
   filled in (`Shape.Matches`). The values are those of the parameters that stand beside a text, and no others, so there
   is at most one way to match. The fold that matches a shape threads one table through the query and then the path and
   gives up at the first conflict; it finds exactly these values (`Shape.resolve_exact`). -/
namespace RouteTemplate

/-- Where nothing is bound before, a list is bound to the table that gives every text back when it is filled in, and
    that has a value for the parameters of the list alone. -/
theorem Bindings.bindAll_empty_eq_some_iff {found : List (Atom × Text)} {b : Bindings} :
    bindAll .empty found = some b ↔ (∀ atom text, (atom, text) ∈ found → atom.fillIn b.get? = text) ∧
      ∀ name, b.contains name = true ↔ ∃ text, (.param name, text) ∈ found := by
  have only : ∀ name value, (Dict.empty : Bindings).get? name ≠ some value := by simp
  rw [bindAll_eq_some_iff]
  refine ⟨?_, ?_⟩
  · intro h
    obtain ⟨literals, joins⟩ := h
    refine ⟨fun atom text hm => ?_, fun name => ?_⟩
    · cases atom with
      | literal own => exact literals own text hm
      | param name => rw [Atom.fillIn, (joins name text).mpr (.inr hm), Option.getD_some]
    · rw [Dict.contains_iff]
      refine exists_congr fun value => ?_
      rw [joins name value, or_iff_right (only name value)]
  · intro h
    obtain ⟨filled, bound⟩ := h
    refine ⟨fun own text hm => filled _ _ hm, fun name value => ?_⟩
    rw [or_iff_right (only name value)]
    -- A name with a value stands somewhere, and beside the value wherever it stands.
    have beside : ∀ text, (.param name, text) ∈ found → b.get? name = some text := by
      intro text hm
      obtain ⟨value, hvalue⟩ := Dict.contains_iff.mp ((bound name).mpr ⟨text, hm⟩)
      have same := filled _ _ hm
      rw [Atom.fillIn, hvalue, Option.getD_some] at same
      rw [hvalue, same]
    refine ⟨fun hvalue => ?_, beside value⟩
    obtain ⟨text, hm⟩ := (bound name).mp (Dict.contains_iff.mpr ⟨value, hvalue⟩)
    rw [beside text hm] at hvalue
    rwa [← Option.some.inj hvalue]

namespace Shape

variable {s : Shape} {r : Request} {b : Bindings}

/-! ## What was bound -/

theorem resolve_eq_some_iff : s.resolve r = some b ↔ s.fits r = true ∧
    (∀ atom text, (atom, text) ∈ s.foundIn r → atom.fillIn b.get? = text) ∧
      ∀ name, b.contains name = true ↔ ∃ text, (.param name, text) ∈ s.foundIn r := by
  rw [resolve_eq_bindAll, ← Bindings.bindAll_empty_eq_some_iff]
  cases s.fits r <;> simp

theorem length_of_fits (h : s.fits r = true) : s.path.length = r.segments.length := by
  simp only [fits, Bool.and_eq_true, beq_iff_eq] at h
  exact h.1.symm

theorem fillIn_of_resolve (h : s.resolve r = some b) {atom : Atom} {text : Text}
    (hm : (atom, text) ∈ s.foundIn r) : atom.fillIn b.get? = text :=
  (resolve_eq_some_iff.mp h).2.1 atom text hm

theorem get?_ne_none_of_resolve (h : s.resolve r = some b) {name text : Text}
    (hm : (.param name, text) ∈ s.foundIn r) : b.get? name ≠ none :=
  Option.isSome_iff_ne_none.mp (((resolve_eq_some_iff.mp h).2.2 name).mpr ⟨text, hm⟩)

/-! ## The path beside the segments -/

section
variable (hlen : s.path.length = r.segments.length)
include hlen

theorem mem_path_iff {atom : Atom} : atom ∈ s.path ↔ ∃ text, (atom, text) ∈ s.path.zip r.segments := by
  have fsts : (s.path.zip r.segments).map Prod.fst = s.path := List.map_fst_zip hlen.le
  rw [← congrArg (atom ∈ ·) fsts, List.mem_map]
  simp

theorem map_fillIn_eq_iff {values : Text → Option Text} : s.path.map (·.fillIn values) = r.segments ↔
    ∀ atom text, (atom, text) ∈ s.path.zip r.segments → atom.fillIn values = text := by
  rw [← List.forall₂_eq_eq_eq, List.forall₂_map_left_iff, List.forall₂_iff_zip]
  exact and_iff_right hlen

end

theorem map_fillIn_path (h : s.resolve r = some b) : s.path.map (·.fillIn b.get?) = r.segments :=
  (map_fillIn_eq_iff (length_of_fits (resolve_eq_some_iff.mp h).1)).mpr fun _ _ hm =>
    fillIn_of_resolve h (List.mem_append_left _ hm)

theorem valued_path (h : s.resolve r = some b) : Valued b.get? s.path := by
  intro name hm
  obtain ⟨text, hzip⟩ := (mem_path_iff (length_of_fits (resolve_eq_some_iff.mp h).1)).mp hm
  exact get?_ne_none_of_resolve h (List.mem_append_left _ hzip)

/-! ## What it is to match -/

/-- A request matches a shape with these values of parameters. -/
structure Matches (s : Shape) (r : Request) (b : Bindings) : Prop where
  length : r.segments.length = s.path.length
  /-- The values are those of the parameters in the path, and in the rules whose names are in the query. -/
  bound : ∀ name, b.contains name = true ↔ .param name ∈ s.path ∨
    ∃ key rule, s.query.get? key = some rule ∧ r.query.contains key = true ∧ rule.atom = .param name
  path : s.path.map (·.fillIn b.get?) = r.segments
  asked : ∀ key rule, s.query.get? key = some rule → rule.optional = false → r.query.contains key = true
  values : ∀ key rule value, s.query.get? key = some rule → r.query.get? key = some value →
    rule.atom.fillIn b.get? = value

theorem fits_iff : s.fits r = true ↔ r.segments.length = s.path.length ∧
    ∀ key rule, s.query.get? key = some rule → rule.optional = false → r.query.contains key = true := by
  rw [fits, Bool.and_eq_true, beq_iff_eq, answeredBy_iff]
  refine and_congr_right fun _ => forall_congr' fun key => forall_congr' fun rule => forall_congr' fun _ => ?_
  cases rule.optional <;> simp [Dict.contains]

section
variable (hlen : s.path.length = r.segments.length)
include hlen

theorem forall_found_iff {values : Text → Option Text} :
    (∀ atom text, (atom, text) ∈ s.foundIn r → atom.fillIn values = text) ↔
      s.path.map (·.fillIn values) = r.segments ∧ ∀ key rule value, s.query.get? key = some rule →
        r.query.get? key = some value → rule.atom.fillIn values = value := by
  simp only [foundIn, List.mem_append, or_imp, forall_and, ← map_fillIn_eq_iff hlen]
  refine and_congr_right fun _ => ⟨?_, ?_⟩
  · intro h key rule value hrule hvalue
    exact h _ _ (mem_foundInQuery.mpr ⟨key, rule, hrule, hvalue, rfl⟩)
  · intro h atom text hm
    obtain ⟨key, rule, hrule, hvalue, rfl⟩ := mem_foundInQuery.mp hm
    exact h key rule text hrule hvalue

theorem exists_found_iff {atom : Atom} : (∃ text, (atom, text) ∈ s.foundIn r) ↔ atom ∈ s.path ∨
    ∃ key rule, s.query.get? key = some rule ∧ r.query.contains key = true ∧ rule.atom = atom := by
  simp only [foundIn, List.mem_append, exists_or, ← mem_path_iff hlen]
  refine or_congr_right ⟨?_, ?_⟩
  · intro h
    obtain ⟨text, hm⟩ := h
    obtain ⟨key, rule, hrule, hvalue, hatom⟩ := mem_foundInQuery.mp hm
    exact ⟨key, rule, hrule, Dict.contains_iff.mpr ⟨text, hvalue⟩, hatom⟩
  · intro h
    obtain ⟨key, rule, hrule, hkey, hatom⟩ := h
    obtain ⟨text, hvalue⟩ := Dict.contains_iff.mp hkey
    exact ⟨text, mem_foundInQuery.mpr ⟨key, rule, hrule, hvalue, hatom⟩⟩

end

theorem resolve_eq_some_iff_matches : s.resolve r = some b ↔ s.Matches r b := by
  rw [resolve_eq_some_iff, fits_iff]
  refine ⟨?_, ?_⟩
  · intro h
    obtain ⟨⟨length, asked⟩, filled, bound⟩ := h
    obtain ⟨path, values⟩ := (forall_found_iff length.symm).mp filled
    exact ⟨length, fun name => (bound name).trans (exists_found_iff length.symm), path, asked, values⟩
  · intro h
    have hlen := h.length.symm
    exact ⟨⟨h.length, h.asked⟩, (forall_found_iff hlen).mpr ⟨h.path, h.values⟩,
      fun name => (h.bound name).trans (exists_found_iff hlen).symm⟩

/-- **Matching one shape is exact.** It gives values exactly when the request matches the shape with them, and nothing
    exactly when there are none to match with. In particular there is no match when a parameter stands beside two
    different texts, be it in the path or in the query. -/
theorem resolve_exact (s : Shape) (r : Request) :
    (∀ b, s.resolve r = some b ↔ s.Matches r b) ∧
    (s.resolve r = none ↔ ∀ b, ¬s.Matches r b) ∧
    ∀ name text text', (.param name, text) ∈ s.foundIn r → (.param name, text') ∈ s.foundIn r → text ≠ text' →
      s.resolve r = none := by
  refine ⟨fun b => resolve_eq_some_iff_matches, ?_, fun name text text' hm hm' hne => ?_⟩
  · simp only [← resolve_eq_some_iff_matches, ← Option.eq_none_iff_forall_ne_some]
  · rw [Option.eq_none_iff_forall_ne_some]
    intro b hb
    exact hne ((fillIn_of_resolve hb hm).symm.trans (fillIn_of_resolve hb hm'))

end Shape

end RouteTemplate
