import RouteTemplate.Template

/- Where the path of a template ends.

   Brackets and braces are counted together, and the path ends at the first `?` that stands outside of them: it is
   the beginning of the template that hides every `?` of its own and leaves nothing open before the one after it
   (`splitQuery_eq_iff`). What stands between a bracket and the one that closes it hides its `?` (`Neutral`). -/
namespace RouteTemplate

namespace Template

/-- How many brackets and braces are open after one more character; one that closes nothing counts for nothing. -/
def depthStep (depth : Nat) (c : Char) : Nat :=
  if c = '{' ∨ c = '[' then depth + 1
  else if c = '}' ∨ c = ']' then depth - 1
  else depth

/-- How many brackets and braces are open after the text, when `depth` are open before it. -/
def depthAfter (depth : Nat) (t : Text) : Nat := t.foldl depthStep depth

/-- Every `?` of the text stands in brackets or braces, when `depth` are open before it. -/
def Hides : Nat → Text → Prop
  | _, [] => True
  | depth, c :: rest => ¬(c = '?' ∧ depth = 0) ∧ Hides (depthStep depth c) rest

instance decidableHides : (depth : Nat) → (t : Text) → Decidable (Hides depth t)
  | _, [] => isTrue trivial
  | depth, c :: rest => @instDecidableAnd _ _ _ (decidableHides (depthStep depth c) rest)

variable {depth : Nat}

theorem depthAfter_append (depth : Nat) (a b : Text) : depthAfter depth (a ++ b) = depthAfter (depthAfter depth a) b :=
  List.foldl_append

theorem hides_append : ∀ {depth : Nat} {a b : Text},
    Hides depth (a ++ b) ↔ Hides depth a ∧ Hides (depthAfter depth a) b
  | _, [], _ => by simp [Hides, depthAfter]
  | depth, c :: a, b => by
    rw [List.cons_append, Hides, hides_append, Hides, and_assoc]
    rfl

/-! ## Cutting a template -/

theorem splitQuery_cons (depth : Nat) (c : Char) (rest : Text) : splitQuery depth (c :: rest) =
    if c = '?' ∧ depth = 0 then ([], some rest)
    else (c :: (splitQuery (depthStep depth c) rest).1, (splitQuery (depthStep depth c) rest).2) := rfl

/-- What a template is, cut into a path and perhaps a query. -/
def IsCut (depth : Nat) (t p : Text) : Option Text → Prop
  | none => t = p ∧ Hides depth p
  | some q => t = p ++ '?' :: q ∧ Hides depth p ∧ depthAfter depth p = 0

theorem isCut_nil {p : Text} : ∀ {query : Option Text}, IsCut depth [] p query ↔ p = [] ∧ query = none
  | none => by
    rw [IsCut, eq_comm]
    refine ⟨fun h => ⟨h.1, rfl⟩, ?_⟩
    intro h
    obtain ⟨rfl, -⟩ := h
    exact ⟨rfl, trivial⟩
  | some q => by simp [IsCut]

theorem isCut_mark {rest p : Text} : ∀ {query : Option Text},
    IsCut 0 ('?' :: rest) p query ↔ p = [] ∧ query = some rest
  | none => by
    refine iff_of_false ?_ (by simp)
    intro h
    obtain ⟨rfl, hides⟩ := h
    exact hides.1 ⟨rfl, rfl⟩
  | some q => by
    cases p with
    | nil => simp [IsCut, Hides, depthAfter, eq_comm]
    | cons d p =>
      refine iff_of_false ?_ (by simp)
      intro h
      obtain ⟨heq, hides, -⟩ := h
      exact hides.1 ⟨(List.cons.inj heq).1.symm, rfl⟩

theorem isCut_cons {c : Char} {rest p : Text} (hmark : ¬(c = '?' ∧ depth = 0)) : ∀ {query : Option Text},
    IsCut depth (c :: rest) p query ↔ ∃ more, p = c :: more ∧ IsCut (depthStep depth c) rest more query
  | none => by
    refine ⟨?_, ?_⟩
    · intro h
      obtain ⟨rfl, -, hides⟩ := h
      exact ⟨rest, rfl, rfl, hides⟩
    · intro h
      obtain ⟨more, rfl, rfl, hides⟩ := h
      exact ⟨rfl, hmark, hides⟩
  | some q => by
    refine ⟨?_, ?_⟩
    · intro h
      obtain ⟨heq, hides, hzero⟩ := h
      cases p with
      | nil => exact absurd ⟨(List.cons.inj heq).1, hzero⟩ hmark
      | cons d more =>
        obtain ⟨rfl, rfl⟩ := List.cons.inj heq
        exact ⟨more, rfl, rfl, hides.2, hzero⟩
    · intro h
      obtain ⟨more, rfl, rfl, hides, hzero⟩ := h
      exact ⟨rfl, ⟨hmark, hides⟩, hzero⟩

/-- The path is the beginning that hides every `?` of its own and leaves nothing open before the one after it. -/
theorem splitQuery_eq_iff : ∀ {t : Text} {depth : Nat} {p : Text} {query : Option Text},
    splitQuery depth t = (p, query) ↔ IsCut depth t p query
  | [], depth, p, query => by simp [splitQuery, isCut_nil, eq_comm]
  | c :: rest, depth, p, query => by
    rw [splitQuery_cons]
    split
    · next hmark =>
      obtain ⟨rfl, rfl⟩ := hmark
      simp [isCut_mark, eq_comm]
    · next hmark =>
      rw [isCut_cons hmark]
      refine ⟨?_, ?_⟩
      · intro h
        obtain ⟨rfl, rfl⟩ := Prod.mk.inj h
        exact ⟨_, rfl, splitQuery_eq_iff.mp rfl⟩
      · intro h
        obtain ⟨more, rfl, cut⟩ := h
        rw [splitQuery_eq_iff.mpr cut]

/-! ## Texts without brackets and braces -/

/-- Neither brackets nor braces. -/
structure Markless (t : Text) : Prop where
  bracket : '[' ∉ t
  closeBracket : ']' ∉ t
  brace : '{' ∉ t
  closeBrace : '}' ∉ t

instance (t : Text) : Decidable (Markless t) :=
  decidable_of_iff ('[' ∉ t ∧ ']' ∉ t ∧ '{' ∉ t ∧ '}' ∉ t)
    ⟨fun ⟨a, b, c, d⟩ => ⟨a, b, c, d⟩, fun ⟨a, b, c, d⟩ => ⟨a, b, c, d⟩⟩

theorem Markless.cons {c : Char} {t : Text} (h : Markless (c :: t)) :
    (∀ depth, depthStep depth c = depth) ∧ Markless t := by
  obtain ⟨bracket, closeBracket, brace, closeBrace⟩ := h
  simp only [List.mem_cons, not_or] at bracket closeBracket brace closeBrace
  refine ⟨fun depth => ?_, bracket.2, closeBracket.2, brace.2, closeBrace.2⟩
  simp [depthStep, Ne.symm bracket.1, Ne.symm closeBracket.1, Ne.symm brace.1, Ne.symm closeBrace.1]

/-- The text hides every `?` of its own and leaves open what was open before it. -/
structure Neutral (depth : Nat) (t : Text) : Prop where
  hides : Hides depth t
  leaves : depthAfter depth t = depth

theorem neutral_nil : Neutral depth [] := ⟨trivial, rfl⟩

theorem Neutral.append {a b : Text} (ha : Neutral depth a) (hb : Neutral depth b) : Neutral depth (a ++ b) where
  hides := hides_append.mpr ⟨ha.hides, by rw [ha.leaves]; exact hb.hides⟩
  leaves := by rw [depthAfter_append, ha.leaves, hb.leaves]

theorem Neutral.enclosed {opening closing : Char} {t : Text} (ho : opening = '{' ∨ opening = '[')
    (hc : closing = '}' ∨ closing = ']') (h : Neutral (depth + 1) t) : Neutral depth (opening :: t ++ [closing]) := by
  have up : depthStep depth opening = depth + 1 := by simp [depthStep, ho]
  have down : depthStep (depth + 1) closing = depth := by
    rcases hc with rfl | rfl <;> simp [depthStep]
  have inside : depthAfter depth (opening :: t) = depth + 1 := by
    rw [depthAfter, List.foldl_cons, up]
    exact h.leaves
  refine ⟨?_, ?_⟩
  · rw [hides_append, inside, Hides, up]
    refine ⟨⟨?_, h.hides⟩, by simp [Hides]⟩
    rcases ho with rfl | rfl <;> simp
  · rw [depthAfter_append, inside]
    exact down

/-- Without brackets and braces a `?` is hidden when something is open around the text, or when there is none. -/
theorem Markless.neutral : ∀ {t : Text}, Markless t → depth ≠ 0 ∨ '?' ∉ t → Neutral depth t
  | [], _, _ => neutral_nil
  | c :: rest, h, hmark => by
    obtain ⟨same, hrest⟩ := h.cons
    have tail : Neutral depth rest :=
      hrest.neutral (hmark.imp_right fun hmem hm => hmem (List.mem_cons_of_mem _ hm))
    refine ⟨⟨?_, by rw [same]; exact tail.hides⟩, ?_⟩
    · intro hc
      obtain ⟨rfl, hzero⟩ := hc
      rcases hmark with hdepth | hmem
      · exact hdepth hzero
      · exact hmem List.mem_cons_self
    · rw [depthAfter, List.foldl_cons, same]
      exact tail.leaves

end Template

end RouteTemplate
