import RouteTemplate.Proofs.Cutting

/- Trimming a prefix.

   A request begins with a prefix when its first segments are the pieces of the prefix, and what is left are the
   segments behind them (`Request.trim?_eq_some_iff`). To compare the two as far as both go is enough once the request is
   known to be no shorter (`Request.trim?_eq_drop`). Nothing else of the prefix counts, so a prefix of two parts is
   trimmed part by part (`Request.trim?_append`). -/
namespace RouteTemplate

open Text

namespace Text

theorem after?_eq_drop {α : Type} [DecidableEq α] : ∀ start l : List α, after? start l =
    if l.length < start.length ∨ (l.zip start).any fun pair => pair.1 ≠ pair.2 then none
    else some (l.drop start.length)
  | [], l => by simp [after?]
  | s :: start, [] => by simp [after?]
  | s :: start, a :: l => by
    by_cases same : s = a
    · subst same
      rw [after?, if_pos rfl, after?_eq_drop start l]
      exact if_congr (by simp) rfl rfl
    · have differs : a ≠ s := Ne.symm same
      rw [after?, if_neg same, if_pos (by simp [differs])]

end Text

namespace Request

variable {r r' : Request}

theorem trim?_eq_drop (r : Request) (root : Text) : r.trim? root =
    if r.segments.length < (pieces '/' root).length ∨
        (r.segments.zip (pieces '/' root)).any fun pair => pair.1 ≠ pair.2 then none
    else some { r with segments := r.segments.drop (pieces '/' root).length } := by
  rw [trim?, after?_eq_drop]
  split <;> rfl

theorem trim?_eq_some_iff {root : Text} :
    r.trim? root = some r' ↔ r.segments = pieces '/' root ++ r'.segments ∧ r'.query = r.query := by
  refine ⟨fun h => ?_, fun h => ?_⟩
  · obtain ⟨rest, after, rfl⟩ := Option.map_eq_some_iff.mp h
    exact ⟨eq_append_of_after? after, rfl⟩
  · obtain ⟨segments, query⟩ := r'
    obtain ⟨whole, rfl⟩ := h
    rw [trim?, whole, after?_append]
    rfl

theorem trim?_append (r : Request) (p q : Text) : r.trim? (p ++ '/' :: q) = (r.trim? p).bind (trim? q) := by
  ext r'
  rw [trim?_eq_some_iff, pieces_append_cons, Option.bind_eq_some_iff]
  refine ⟨fun h => ?_, fun h => ?_⟩
  · obtain ⟨whole, query⟩ := h
    rw [List.append_assoc] at whole
    exact ⟨⟨pieces '/' q ++ r'.segments, r.query⟩, trim?_eq_some_iff.mpr ⟨whole, rfl⟩,
      trim?_eq_some_iff.mpr ⟨rfl, query⟩⟩
  · obtain ⟨between, first, second⟩ := h
    obtain ⟨whole, same⟩ := trim?_eq_some_iff.mp first
    obtain ⟨rest, query⟩ := trim?_eq_some_iff.mp second
    exact ⟨by rw [whole, rest, List.append_assoc], query.trans same⟩

/-- **Trimming is exact, and composes.** The segments of a prefix are its pieces: texts that are not empty and hold no
    slash, set apart by slashes, of which there may be more at either end and between two. A request is trimmed to
    another exactly when its segments are those of the prefix followed by those of the other, and the other has the
    same query. Two prefixes with a slash between them are trimmed one after the other, and are not there to be trimmed
    exactly when the first is not, or the second is not in what the first leaves. -/
theorem trim?_exact (r : Request) :
    (∀ root, Spaced '/' (pieces '/' root) root ∧ (∀ piece ∈ pieces '/' root, piece ≠ [] ∧ '/' ∉ piece) ∧
      ∀ r', r.trim? root = some r' ↔ r.segments = pieces '/' root ++ r'.segments ∧ r'.query = r.query) ∧
    ∀ p q, r.trim? (p ++ '/' :: q) = (r.trim? p).bind (trim? q) ∧
      (r.trim? (p ++ '/' :: q) = none ↔ r.trim? p = none ∨ ∃ r', r.trim? p = some r' ∧ r'.trim? q = none) := by
  refine ⟨fun root => ⟨spaced_pieces root, fun piece h => ?_, fun r' => trim?_eq_some_iff⟩, fun p q => ?_⟩
  · obtain ⟨nonempty, free, -⟩ := of_mem_pieces h
    exact ⟨nonempty, free⟩
  · rw [trim?_append]
    refine ⟨rfl, ?_⟩
    cases r.trim? p with
    | none => simp
    | some r' => simp

/-- A request that ends within the prefix does not begin with it. -/
example : trim? "/api//v1/".toList ⟨["api".toList], .empty⟩ = none := by decide

end Request

end RouteTemplate
