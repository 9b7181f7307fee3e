import Mathlib.Data.List.TakeWhile
import RouteTemplate.Proofs.Occurrences
import RouteTemplate.Template.Shorthand

/- Texts without shorthand.

   Expansion leaves no shorthand behind, and changes nothing where there is none. A long form neither contains the
   shorthand that is being replaced nor can be entered or left by one (`Foreign`), so what stands in the expanded
   text stood there before, where the reader had refused it (`exists_of_infix_replace`).

   A shorthand holds no bracket, colon, separator or `=`, hence a text cut at one of these is free of shorthand
   when both sides are (`NoShorthand.append`). -/
namespace RouteTemplate

namespace Shorthand

/-! ## What shorthand is -/

/-- A name that shorthand can have. -/
def IsName (name : Text) : Prop := name ≠ [] ∧ ∀ c ∈ name, isNameChar c = true

/-- A shorthand as a template writes it. -/
def short (opener name : Text) : Text := opener ++ name ++ ['}', '}']

/-- The characters that mean something in a template. -/
def marks : List Char := ['{', '}', '?', '[', ']', ':', '/', '&', '=']

/-- Those of them that stand in no shorthand. -/
def outside : List Char := ['[', ']', ':', '/', '&', '=']

theorem isNameChar_of_mem_marks {c : Char} (hc : c ∈ marks) : isNameChar c = false := by
  simp only [marks, List.mem_cons, List.not_mem_nil, or_false] at hc
  rcases hc with rfl | rfl | rfl | rfl | rfl | rfl | rfl | rfl | rfl <;> decide

theorem of_mem_outside {c : Char} (hc : c ∈ outside) :
    c ∈ marks ∧ c ≠ '}' ∧ c ∉ ['{', '{'] ∧ c ∉ ['{', '{', '?'] := by
  simp only [outside, List.mem_cons, List.not_mem_nil, or_false] at hc
  rcases hc with rfl | rfl | rfl | rfl | rfl | rfl <;> decide

section
variable {opener name : Text}

theorem IsName.not_mem (h : IsName name) {c : Char} (hc : c ∈ marks) : c ∉ name := by
  intro hm
  have hchar := h.2 c hm
  rw [isNameChar_of_mem_marks hc] at hchar
  cases hchar

theorem IsName.not_mem_mark (h : IsName name) : '?' ∉ name ++ ['}', '}'] := by
  have hname : '?' ∉ name := h.not_mem (by decide)
  simp [hname]

theorem read?_eq_some_iff {t rest : Text} :
    read? opener t = some (name, rest) ↔ IsName name ∧ t = short opener name ++ rest := by
  refine ⟨?_, ?_⟩
  · intro h
    unfold read? at h
    split at h
    · cases h
    · next opened hopen =>
      split at h
      · next after hdrop =>
        split at h
        · cases h
        · next hne =>
          cases h
          refine ⟨⟨by simpa using hne, fun c hc => List.mem_takeWhile_imp hc⟩, ?_⟩
          have whole := List.takeWhile_append_dropWhile (p := isNameChar) (l := opened)
          rw [hdrop] at whole
          rw [eq_append_of_after? hopen, short]
          nth_rewrite 1 [← whole]
          simp
      · cases h
  · intro h
    obtain ⟨hname, rfl⟩ := h
    have brace : isNameChar '}' = false := isNameChar_of_mem_marks (by decide)
    have drop : (name ++ '}' :: '}' :: rest).dropWhile isNameChar = '}' :: '}' :: rest := by
      rw [List.dropWhile_append_of_pos hname.2, List.dropWhile_cons_of_neg (by simp [brace])]
    have take : (name ++ '}' :: '}' :: rest).takeWhile isNameChar = name := by
      rw [List.takeWhile_append_of_pos hname.2, List.takeWhile_cons_of_neg (by simp [brace]), List.append_nil]
    have opened : after? opener (short opener name ++ rest) = some (name ++ '}' :: '}' :: rest) := by
      rw [short, List.append_assoc, List.append_assoc]
      exact after?_append _ _
    rw [read?, opened]
    simp [drop, take, hname.1]

theorem not_mem_short (hname : IsName name) {c : Char} (hc : c ∈ outside) :
    c ∉ short ['{', '{'] name ∧ c ∉ short ['{', '{', '?'] name := by
  obtain ⟨hchar, hbrace, hplain, hoptional⟩ := of_mem_outside hc
  have hmem := hname.not_mem hchar
  simp only [short, List.mem_append, not_or, List.mem_cons, List.not_mem_nil, not_false_eq_true, and_true]
  exact ⟨⟨⟨by simpa using hplain, hmem⟩, hbrace, hbrace⟩, ⟨by simpa using hoptional, hmem⟩, hbrace, hbrace⟩

theorem short_ne_nil (opener name : Text) : short opener name ≠ [] := by simp [short]

theorem mem_of_suffix_short {b : Text} (hb : b <:+ short opener name) (hne : b ≠ []) : '}' ∈ b := by
  obtain ⟨start, heq⟩ := hb
  have last := congrArg List.getLast? heq
  rw [List.getLast?_append_of_ne_nil start hne, short, List.getLast?_append_of_ne_nil _ (by simp)] at last
  exact List.mem_of_getLast? last

end

/-- No shorthand with the opener stands in the text. -/
def Free (opener t : Text) : Prop := ∀ name, IsName name → ¬short opener name <:+: t

section
variable {opener t : Text} {long : Text → Text}

theorem Free.of_infix {s : Text} (h : Free opener t) (hs : s <:+: t) : Free opener s :=
  fun name hname hm => h name hname (hm.trans hs)

/-! ## Where nothing is replaced -/

theorem replace_of_free (h : Free opener t) : replace opener long t = t := by
  fun_induction replace opener long t with
  | case1 => rfl
  | case2 c rest name after hread =>
    obtain ⟨hname, heq⟩ := read?_eq_some_iff.mp hread
    exact absurd ⟨[], after, by rw [heq]; rfl⟩ (h name hname)
  | case3 c rest _ ih => rw [ih (h.of_infix (List.infix_cons List.infix_rfl))]

theorem replace_of_none {c : Char} {rest : Text} (h : read? opener (c :: rest) = none) :
    replace opener long (c :: rest) = c :: replace opener long rest := by
  rw [replace]
  split
  · next heq => cases h.symm.trans heq
  · rfl

theorem replace_append {b : Text} : ∀ {a : Text}, (∀ s, s ≠ [] → s <:+ a → read? opener (s ++ b) = none) →
    replace opener long (a ++ b) = a ++ replace opener long b
  | [], _ => rfl
  | c :: a, h => by
    have hread := h (c :: a) (by simp) List.suffix_rfl
    have ih := replace_append (a := a) fun s hne hs => h s hne (hs.trans (List.suffix_cons c a))
    rw [List.cons_append] at hread ⊢
    rw [replace_of_none hread, ih, List.cons_append]

theorem replace_short {name : Text} (hopener : opener ≠ []) (hname : IsName name) (rest : Text) :
    replace opener long (short opener name ++ rest) = long name ++ replace opener long rest := by
  have hread : read? opener (short opener name ++ rest) = some (name, rest) :=
    read?_eq_some_iff.mpr ⟨hname, rfl⟩
  obtain ⟨c, tail, htail⟩ : ∃ c tail, short opener name ++ rest = c :: tail :=
    List.exists_cons_of_ne_nil (by simp [short, hopener])
  rw [htail] at hread ⊢
  rw [replace]
  split
  · next heq =>
    cases hread.symm.trans heq
    rfl
  · next heq => cases hread.symm.trans heq

/-! ## What long forms cannot hold -/

/-- No long form holds the text, or begins with what the text ends with. -/
structure Foreign (long : Text → Text) (w : Text) : Prop where
  starts : ∀ {name x}, IsName name → w <:+: long name ++ x → w <:+: x
  enters : ∀ {name x b}, IsName name → b <:+ w → b ≠ [] → ¬b <+: long name ++ x

theorem Foreign.prefix_of_replace {w : Text} (hw : Foreign long w) {b : Text} (hb : b <:+ w)
    (h : b <+: replace opener long t) : b <+: t := by
  fun_induction replace opener long t generalizing b with
  | case1 => exact h
  | case2 c rest name after hread =>
    by_cases hne : b = []
    · rw [hne]
      exact List.nil_prefix
    · exact absurd h (hw.enters (read?_eq_some_iff.mp hread).1 hb hne)
  | case3 c rest _ ih =>
    cases b with
    | nil => exact List.nil_prefix
    | cons d b =>
      obtain ⟨rfl, hrest⟩ := List.cons_prefix_cons.mp h
      exact List.cons_prefix_cons.mpr ⟨rfl, ih ((List.suffix_cons d b).trans hb) hrest⟩

/-- A foreign text that stands in the replaced text stood there before, where no shorthand was read. -/
theorem exists_of_infix_replace {w : Text} (hw : Foreign long w) (hne : w ≠ [])
    (h : w <:+: replace opener long t) : ∃ s, s <:+ t ∧ read? opener s = none ∧ w <+: s := by
  fun_induction replace opener long t with
  | case1 => exact absurd (List.infix_nil.mp h) hne
  | case2 c rest name after hread ih =>
    obtain ⟨hname, heq⟩ := read?_eq_some_iff.mp hread
    obtain ⟨s, hs, found⟩ := ih (hw.starts hname h)
    exact ⟨s, hs.trans ⟨_, heq.symm⟩, found⟩
  | case3 c rest hread ih =>
    rcases List.infix_cons_iff.mp h with h | h
    · rw [← replace_of_none hread] at h
      exact ⟨c :: rest, List.suffix_rfl, hread, hw.prefix_of_replace List.suffix_rfl h⟩
    · obtain ⟨s, hs, found⟩ := ih h
      exact ⟨s, hs.trans (List.suffix_cons c rest), found⟩

theorem free_replace (hw : ∀ name, IsName name → Foreign long (short opener name)) (t : Text) :
    Free opener (replace opener long t) := by
  intro name hname h
  obtain ⟨s, -, hread, rest, heq⟩ := exists_of_infix_replace (hw name hname) (short_ne_nil opener name) h
  rw [read?_eq_some_iff.mpr ⟨hname, heq.symm⟩] at hread
  cases hread

theorem Free.replace {other : Text} (h : Free other t) (hw : ∀ name, IsName name → Foreign long (short other name)) :
    Free other (replace opener long t) := by
  intro name hname hm
  obtain ⟨s, hs, -, hstart⟩ := exists_of_infix_replace (hw name hname) (short_ne_nil other name) hm
  exact h name hname (hstart.isInfix.trans hs.isInfix)

end

/-! ## The two kinds of shorthand -/

/-- The text holds no shorthand, plain or optional. -/
structure NoShorthand (t : Text) : Prop where
  plain : Free ['{', '{'] t
  optional : Free ['{', '{', '?'] t

theorem NoShorthand.of_infix {s t : Text} (h : NoShorthand t) (hs : s <:+: t) : NoShorthand s :=
  ⟨h.plain.of_infix hs, h.optional.of_infix hs⟩

section
variable {name : Text}

theorem IsName.not_cons_prefix (hname : IsName name) {c : Char} (hc : c ∈ marks) {w rest : Text} :
    ¬c :: w <+: name ++ rest := by
  intro h
  obtain ⟨d, tail, rfl⟩ := List.exists_cons_of_ne_nil hname.1
  obtain ⟨rfl, -⟩ := List.cons_prefix_cons.mp h
  exact hname.not_mem hc List.mem_cons_self

/-- The body of an optional shorthand's block is a plain one, and the brackets around it stand in none. -/
theorem foreign_guarded (hname : IsName name) : Foreign guarded (short ['{', '{', '?'] name) where
  starts := by
    intro other x hother h
    have brace : '{' ∉ other := hother.not_mem (by decide)
    have whole : guarded other ++ x =
        ('[' :: '?' :: other ++ [':']) ++ '{' :: '{' :: (other ++ (['}', '}', ']'] ++ x)) := by
      simp [guarded]
    rw [whole] at h
    rcases List.infix_cons_iff.mp (infix_of_head_not_mem (by simp [brace]) h) with h | h
    · obtain ⟨-, h⟩ := List.cons_prefix_cons.mp h
      obtain ⟨-, h⟩ := List.cons_prefix_cons.mp h
      exact absurd h (hother.not_cons_prefix (by decide))
    · rcases List.infix_cons_iff.mp h with h | h
      · obtain ⟨-, h⟩ := List.cons_prefix_cons.mp h
        exact absurd h (hother.not_cons_prefix (by decide))
      · rw [← List.append_assoc] at h
        exact infix_of_head_not_mem (by simp [brace]) h
  enters := by
    intro other x b _ hb hne h
    have bracket : '[' ∉ short ['{', '{', '?'] name := (not_mem_short hname (by decide)).2
    obtain ⟨c, tail, rfl⟩ := List.exists_cons_of_ne_nil hne
    have hc : c = '[' := (List.cons_prefix_cons.mp h).1
    rw [hc] at hb
    exact bracket (hb.subset List.mem_cons_self)

/-- The character between the two names of a long form. -/
def between : Region → Char
  | .path => '/'
  | .query => '='

theorem long_eq (region : Region) (name : Text) :
    long region name = name ++ between region :: '{' :: (name ++ ['}']) := by
  cases region <;> simp [long, between]

theorem between_mem_outside (region : Region) : between region ∈ outside := by
  cases region <;> decide

/-- A long form has one brace before its second name, and its first is followed by a character that stands in no
    shorthand. -/
theorem foreign_long (region : Region) {third : Text} (hout : between region ∉ short ('{' :: '{' :: third) name) :
    Foreign (long region) (short ('{' :: '{' :: third) name) where
  starts := by
    intro other x hother h
    have brace : '{' ∉ other := hother.not_mem (by decide)
    have hbetween : '{' ≠ between region := by cases region <;> decide
    have whole : long region other ++ x = (other ++ [between region]) ++ '{' :: (other ++ (['}'] ++ x)) := by
      simp [long_eq]
    rw [whole] at h
    rcases List.infix_cons_iff.mp (infix_of_head_not_mem (by simp [brace, hbetween]) h) with h | h
    · obtain ⟨-, h⟩ := List.cons_prefix_cons.mp h
      exact absurd h (hother.not_cons_prefix (by decide))
    · rw [← List.append_assoc] at h
      exact infix_of_head_not_mem (by simp [brace]) h
  enters := by
    intro other x b hother hb hne h
    -- It would end within the first name, but it ends with a brace.
    rw [long_eq, List.append_assoc] at h
    have inside : b <+: other := prefix_of_not_mem (fun hm => hout (hb.subset hm)) h
    exact hother.not_mem (by decide) (inside.subset (mem_of_suffix_short hb hne))

/-- **Expansion leaves no shorthand behind.** -/
theorem noShorthand_expand (region : Region) (t : Text) : NoShorthand (expand region t) := by
  have first : Free ['{', '{', '?'] (replace ['{', '{', '?'] guarded t) :=
    free_replace (fun _ => foreign_guarded) t
  refine ⟨?_, ?_⟩
  · exact free_replace (fun _ hname => foreign_long region (not_mem_short hname (between_mem_outside region)).1) _
  · exact first.replace fun _ hname => foreign_long region (not_mem_short hname (between_mem_outside region)).2

theorem expand_of_noShorthand (region : Region) {t : Text} (h : NoShorthand t) : expand region t = t := by
  rw [expand, replace_of_free h.optional, replace_of_free h.plain]

end

/-! ## Putting texts together -/

theorem NoShorthand.append {c : Char} (hc : c ∈ outside) {a b : Text} (ha : NoShorthand a)
    (hb : NoShorthand b) : NoShorthand (a ++ c :: b) where
  plain := by
    intro name hname h
    rcases infix_of_not_mem (not_mem_short hname hc).1 h with h | h
    · exact ha.plain name hname h
    · exact hb.plain name hname h
  optional := by
    intro name hname h
    rcases infix_of_not_mem (not_mem_short hname hc).2 h with h | h
    · exact ha.optional name hname h
    · exact hb.optional name hname h

theorem noShorthand_nil : NoShorthand [] where
  plain name _ h := short_ne_nil _ name (List.infix_nil.mp h)
  optional name _ h := short_ne_nil _ name (List.infix_nil.mp h)

theorem NoShorthand.cons {c : Char} (hc : '{' ≠ c) {t : Text} (h : NoShorthand t) : NoShorthand (c :: t) where
  plain name hname hm := h.plain name hname (infix_of_head_not_mem (a := [c]) (by simp [hc]) hm)
  optional name hname hm := h.optional name hname (infix_of_head_not_mem (a := [c]) (by simp [hc]) hm)

theorem noShorthand_of_not_infix {t : Text} (h : ¬['{', '{'] <:+: t) : NoShorthand t where
  plain name _ hm := h (List.IsInfix.trans ⟨[], name ++ ['}', '}'], rfl⟩ hm)
  optional name _ hm := h (List.IsInfix.trans ⟨[], '?' :: name ++ ['}', '}'], rfl⟩ hm)

/-! ## Shorthand across a mark -/

theorem short_optional (name : Text) :
    short ['{', '{', '?'] name = ['{', '{'] ++ '?' :: (name ++ ['}', '}']) := rfl

variable {name a b : Text}

/-- Between two texts without shorthand a mark can make one, and no other than an optional one. -/
theorem exists_of_not_noShorthand (ha : NoShorthand a) (hb : NoShorthand b) (h : ¬NoShorthand (a ++ '?' :: b)) :
    ∃ p name y, IsName name ∧ a = p ++ ['{', '{'] ∧ b = name ++ '}' :: '}' :: y := by
  by_contra none
  apply h
  refine ⟨fun name hname hm => ?_, fun name hname hm => ?_⟩
  · have mark : '?' ∉ short ['{', '{'] name := by
      rw [short, List.append_assoc, List.mem_append, not_or]
      exact ⟨by decide, hname.not_mem_mark⟩
    rcases infix_of_not_mem mark hm with hm | hm
    · exact ha.plain name hname hm
    · exact hb.plain name hname hm
  · rw [short_optional] at hm
    rcases infix_append_cons_cases (by decide) hname.not_mem_mark hm with hm | hm | ⟨⟨p, hp⟩, y, hy⟩
    · exact ha.optional name hname hm
    · exact hb.optional name hname hm
    · exact none ⟨p, name, y, hname, hp.symm, by rw [← hy]; simp⟩

theorem read?_optional_eq_none {p s y : Text} (hp : NoShorthand (p ++ ['{', '{'])) (hne : s ≠ []) (hs : s <:+ p) :
    read? ['{', '{', '?'] (s ++ (short ['{', '{', '?'] name ++ y)) = none := by
  refine Option.eq_none_iff_forall_ne_some.mpr fun ⟨other, rest⟩ hread => ?_
  obtain ⟨hother, heq⟩ := read?_eq_some_iff.mp hread
  have begins : short ['{', '{', '?'] other <+: (s ++ ['{', '{']) ++ '?' :: (name ++ ['}', '}'] ++ y) :=
    ⟨rest, by rw [← heq]; simp [short]⟩
  rw [short_optional] at begins
  rcases prefix_append_cons_cases (by decide) hother.not_mem_mark begins with h | ⟨h, -⟩
  · obtain ⟨q, rfl⟩ := hs
    exact hp.optional other hother (h.isInfix.trans ⟨q, [], by simp⟩)
  · exact hne (by simpa using h)

theorem read?_plain_eq_none {p s t y : Text} (hp : NoShorthand p) (ht : '{' ∉ t) (hne : s ≠ [])
    (hs : s <:+ p ++ '[' :: t) : read? ['{', '{'] (s ++ y) = none := by
  refine Option.eq_none_iff_forall_ne_some.mpr fun ⟨other, rest⟩ hread => ?_
  obtain ⟨hother, heq⟩ := read?_eq_some_iff.mp hread
  obtain ⟨q, hq⟩ := hs
  rcases List.append_eq_append_iff.mp hq with ⟨as, rfl, rfl⟩ | ⟨bs, -, hbs⟩
  · have begins : short ['{', '{'] other <+: as ++ '[' :: (t ++ y) := ⟨rest, by rw [← heq]; simp⟩
    have within := prefix_of_not_mem (not_mem_short hother (by decide)).1 begins
    exact hp.plain other hother (within.isInfix.trans ⟨q, [], by simp⟩)
  · obtain ⟨d, s, rfl⟩ := List.exists_cons_of_ne_nil hne
    have hd : d = '{' := (List.cons.inj heq).1
    have hm : '{' ∈ '[' :: t := by
      rw [hbs, hd]
      simp
    simp [ht] at hm

/-- Such a shorthand becomes a block, and the texts around it stay. -/
theorem expand_append_short (region : Region) {p y : Text} (hname : IsName name)
    (hp : NoShorthand (p ++ ['{', '{'])) (hy : NoShorthand y) :
    expand region (p ++ short ['{', '{', '?'] name ++ y) =
      p ++ '[' :: '?' :: (name ++ ':' :: (long region name ++ ']' :: y)) := by
  have brace : '{' ∉ name := hname.not_mem (by decide)
  have rest : Free ['{', '{'] (']' :: y) := (hy.cons (by decide)).plain
  have first : replace ['{', '{', '?'] guarded (p ++ (short ['{', '{', '?'] name ++ y)) = p ++ (guarded name ++ y) := by
    rw [replace_append fun s hne hs => read?_optional_eq_none hp hne hs, replace_short (by simp) hname,
      replace_of_free hy.optional]
  have second : replace ['{', '{'] (long region)
      ((p ++ '[' :: '?' :: (name ++ [':'])) ++ (short ['{', '{'] name ++ ']' :: y)) =
      (p ++ '[' :: '?' :: (name ++ [':'])) ++ (long region name ++ ']' :: y) := by
    have opening : '{' ∉ '?' :: (name ++ [':']) := by simp [brace]
    have start := hp.of_infix (List.prefix_append p _).isInfix
    rw [replace_append fun s hne hs => read?_plain_eq_none start opening hne hs, replace_short (by simp) hname,
      replace_of_free rest]
  have between : p ++ (guarded name ++ y) =
      (p ++ '[' :: '?' :: (name ++ [':'])) ++ (short ['{', '{'] name ++ ']' :: y) := by
    simp [guarded, short]
  rw [expand, List.append_assoc, first, between, second]
  simp

end Shorthand

end RouteTemplate
