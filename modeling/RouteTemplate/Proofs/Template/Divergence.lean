import RouteTemplate.Proofs.Template.Derived

/- Paths that begin alike.

   Two texts with a common beginning are read item by item in the same way, as long as the items end within it. When
   both are paths with the same parts, so are the texts from where the first item goes beyond
   (`readPath_ne_of_rests`). Hence a path has other parts once a `?` goes on behind it
   (`readPath_append_mark_ne`), and two braces at its end are never read as the block of a shorthand would be
   (`readPath_append_block_ne`). -/
namespace RouteTemplate

open Text Shorthand

namespace Template

variable {template : Text} {parts : List Part}

/-! ## The first item of a path -/

theorem readPath_slash (rest : Text) : readPath template ('/' :: rest) = readPath template rest :=
  readRegion_sep (by decide) rest

theorem exists_of_readPath_chunk {chunk after : Text} (hne : chunk ≠ []) (hsep : '/' ∉ chunk)
    (hblock : ¬['[', '?'] <+: chunk) (ends : endsItem '/' after = true)
    (h : readPath template (chunk ++ after) = .ok parts) :
    ∃ a more, IsSegmentItem chunk a ∧ readPath template after = .ok more ∧ parts = a :: more := by
  obtain ⟨a, more, ha, hmore, hparts⟩ := exists_of_readRegion_plain (by decide) hne hsep hblock ends h
  exact ⟨a, more, (readSegment_eq_ok_iff hne hsep).mp ha, hmore, hparts⟩

theorem exists_of_readPath_cons {c : Char} {rest : Text} (hslash : c ≠ '/') (hbracket : c ≠ '[')
    (h : readPath template (c :: rest) = .ok parts) :
    ∃ a more, IsSegmentItem (c :: before '/' rest) a ∧ parts = a :: more := by
  have whole : c :: rest = (c :: before '/' rest) ++ rest.dropWhile (· ≠ '/') := by
    rw [before, List.cons_append, List.takeWhile_append_dropWhile]
  have hsep : '/' ∉ c :: before '/' rest := by simp [Ne.symm hslash, not_mem_before]
  have hblock : ¬['[', '?'] <+: c :: before '/' rest := fun hm => hbracket (List.cons_prefix_cons.mp hm).1.symm
  rw [whole] at h
  obtain ⟨a, more, ha, -, hparts⟩ := exists_of_readPath_chunk (by simp) hsep hblock endsItem_dropWhile h
  exact ⟨a, more, ha, hparts⟩

/-! ## A common beginning -/

section
variable {d d' : Text}

theorem exists_of_readPath_blocks (hd : ']' ∉ d) {opened : Text}
    (h : readPath template ('[' :: '?' :: (opened ++ d)) = .ok parts)
    (h' : readPath template ('[' :: '?' :: (opened ++ d')) = .ok parts) :
    ∃ start rest more, opened = start ++ ']' :: rest ∧ readPath template (rest ++ d) = .ok more ∧
      readPath template (rest ++ d') = .ok more := by
  obtain ⟨⟨key, body, after⟩, inner, more, hblock, hbody, hafter, rfl⟩ := exists_of_readRegion_block h
  obtain ⟨⟨key', body', after'⟩, inner', more', hblock', hbody', hafter', hparts⟩ := exists_of_readRegion_block h'
  obtain ⟨hopened, -, hkey, balanced, -⟩ := readBlock_eq_ok_iff.mp hblock
  obtain ⟨hopened', -, hkey', balanced', -⟩ := readBlock_eq_ok_iff.mp hblock'
  obtain ⟨rest, rfl, rfl⟩ := exists_of_append_cons_eq_append hd hopened.symm
  -- Both blocks end at the bracket that closes the first.
  have close := closeBracket_eq_some_iff.mpr ⟨hopened', balancedFrom_zero.mpr balanced'⟩
  have again : closeBracket 0 (key ++ ':' :: body ++ ']' :: rest ++ d') = some (key ++ ':' :: body, rest ++ d') :=
    closeBracket_eq_some_iff.mpr ⟨by simp, balancedFrom_zero.mpr balanced⟩
  rw [again] at close
  obtain ⟨hinner, rfl⟩ := Prod.mk.inj (Option.some.inj close)
  obtain ⟨rfl, rfl⟩ := append_cons_inj hkey hkey' hinner
  cases hbody.symm.trans hbody'
  rw [List.append_cancel_left_eq] at hparts
  rw [← hparts] at hafter'
  exact ⟨_, rest, more, rfl, hafter, hafter'⟩

theorem not_opens_append : ∀ {chunk : Text}, '[' ∉ d → '?' ∉ d → ¬['[', '?'] <+: chunk → ¬['[', '?'] <+: chunk ++ d
  | [], bracket, _, _, h => bracket (h.subset List.mem_cons_self)
  | [_], _, mark, _, h => mark ((List.cons_prefix_cons.mp h).2.subset List.mem_cons_self)
  | c :: e :: chunk, _, _, hblock, h => by
    obtain ⟨hc, h⟩ := List.cons_prefix_cons.mp h
    obtain ⟨he, -⟩ := List.cons_prefix_cons.mp h
    exact hblock ⟨chunk, by rw [hc, he]; rfl⟩

/-- The texts that stand behind a common beginning differ as chunks, or as the ends of chunks. -/
structure Diverge (template d d' : Text) : Prop where
  outside : ∀ c ∈ d, c ∉ ['/', '[', ']', '?']
  alone : ∀ parts, readPath template d = .ok parts → readPath template d' ≠ .ok parts
  behind : ∀ chunk part, IsSegmentItem (chunk ++ d) part → ¬IsSegmentItem (chunk ++ before '/' d') part

theorem Diverge.not_mem (h : Diverge template d d') {c : Char} (hc : c ∈ ['/', '[', ']', '?']) : c ∉ d :=
  fun hm => h.outside c hm hc

/-- Behind the beginning of a chunk the texts give different parts. -/
theorem Diverge.readPath_chunk_ne (h : Diverge template d d') {chunk : Text} (hsep : '/' ∉ chunk)
    (hblock : ¬['[', '?'] <+: chunk) (hread : readPath template (chunk ++ d) = .ok parts) :
    readPath template (chunk ++ d') ≠ .ok parts := by
  cases chunk with
  | nil => exact h.alone parts hread
  | cons c chunk =>
    intro hread'
    have hopens := not_opens_append (h.not_mem (by decide)) (h.not_mem (by decide)) hblock
    have hchunk : '/' ∉ c :: chunk ++ d := by
      rw [List.mem_append, not_or]
      exact ⟨hsep, h.not_mem (by decide)⟩
    rw [← List.append_nil (c :: chunk ++ d)] at hread
    obtain ⟨a, more, ha, -, rfl⟩ := exists_of_readPath_chunk (by simp) hchunk hopens rfl hread
    have hbracket : c ≠ '[' := by
      obtain ⟨-, -, bracket, -, -⟩ := id ha
      exact fun hc => bracket (by simp [hc])
    rw [List.mem_cons, not_or] at hsep
    obtain ⟨a', more', ha', heq⟩ := exists_of_readPath_cons (Ne.symm hsep.1) hbracket hread'
    obtain ⟨rfl, -⟩ := List.cons.inj heq
    rw [List.append_eq, before_append_of_not_mem hsep.2] at ha'
    exact h.behind (c :: chunk) a ha ha'

theorem readPath_ne_of_diverge (hd : Diverge template d d') : ∀ (p : Text) (parts : List Part),
    readPath template (p ++ d) = .ok parts → readPath template (p ++ d') ≠ .ok parts
  | [], parts => hd.alone parts
  | c :: p, parts => by
    intro h h'
    by_cases hslash : c = '/'
    · rw [hslash, List.cons_append, readPath_slash] at h h'
      exact readPath_ne_of_diverge hd p parts h h'
    by_cases hblock : ['[', '?'] <+: c :: p
    · obtain ⟨opened, heq⟩ := hblock
      have cut : ∀ tail, c :: p ++ tail = '[' :: '?' :: (opened ++ tail) := by simp [← heq]
      rw [cut] at h h'
      obtain ⟨start, rest, more, hopened, hrest, hrest'⟩ := exists_of_readPath_blocks (hd.not_mem (by decide)) h h'
      have shorter : rest.length < (c :: p).length := by
        rw [← heq, hopened]
        simp only [List.length_append, List.length_cons]
        omega
      exact readPath_ne_of_diverge hd rest more hrest hrest'
    by_cases hmem : '/' ∈ p
    · -- The first chunk ends at a slash, in both texts.
      obtain ⟨q, r, hp, hq⟩ := List.eq_append_cons_of_mem hmem
      have hchunk : '/' ∉ c :: q := by simp [Ne.symm hslash, hq]
      have hopens : ¬['[', '?'] <+: c :: q := fun hm => hblock (hm.trans ⟨'/' :: r, by rw [hp]; rfl⟩)
      have cut : ∀ tail, c :: p ++ tail = (c :: q) ++ '/' :: (r ++ tail) := by simp [hp]
      rw [cut] at h h'
      obtain ⟨a, more, ha, hmore, rfl⟩ := exists_of_readPath_chunk (by simp) hchunk hopens rfl h
      obtain ⟨a', more', ha', hmore', heq⟩ := exists_of_readPath_chunk (by simp) hchunk hopens rfl h'
      obtain ⟨-, rfl⟩ := List.cons.inj heq
      have shorter : r.length < p.length := by
        rw [hp, List.length_append, List.length_cons]
        omega
      rw [readPath_slash] at hmore hmore'
      exact readPath_ne_of_diverge hd r more hmore hmore'
    · exact hd.readPath_chunk_ne (by simp [Ne.symm hslash, hmem]) hblock h h'
termination_by p => p.length
decreasing_by all_goals (simp only [List.length_cons] at *; omega)

end

/-! ## A mark behind a path -/

theorem IsAtom.eq_literal {chunk : Text} {atom : Atom} (h : IsAtom chunk atom) (hmark : '?' ∈ chunk) :
    atom = .literal chunk := by
  cases h with
  | @braced name valid =>
    have hname : '?' ∉ name := valid.not_mem (by decide)
    simp [hname] at hmark
  | reserved hword =>
    have marks : ∀ word ∈ reservedWords, '?' ∉ word := by decide
    exact absurd hmark (marks _ hword)
  | literal _ _ => rfl

theorem not_isSegmentItem_append_mark {chunk more : Text} {part : Part} (h : IsSegmentItem chunk part) :
    ¬IsSegmentItem (chunk ++ '?' :: more) part := by
  intro hlong
  generalize hwhole : chunk ++ '?' :: more = whole at hlong
  obtain ⟨-, -, -, -, hatom⟩ := hlong
  obtain ⟨-, -, -, -, hatom'⟩ := h
  rw [hatom.eq_literal (by simp [← hwhole])] at hatom'
  cases hatom' with
  | literal _ _ => simp at hwhole

theorem diverge_mark (x : Text) : Diverge template [] ('?' :: x) where
  outside := by simp
  alone := by
    intro parts h h'
    obtain ⟨a, more, -, rfl⟩ := exists_of_readPath_cons (by decide) (by decide) h'
    rw [readPath, readRegion_nil] at h
    cases h
  behind := by
    intro chunk part h
    rw [List.append_nil] at h
    rw [before_cons (by decide)]
    exact not_isSegmentItem_append_mark h

/-- A path has other parts when it goes on with `?`. -/
theorem readPath_append_mark_ne {p x : Text} (h : readPath template p = .ok parts) :
    readPath template (p ++ '?' :: x) ≠ .ok parts := by
  rw [← List.append_nil p] at h
  exact readPath_ne_of_diverge (diverge_mark x) p parts h

/-! ## Braces where a block could be -/

theorem guards_of_isSegmentItem {chunk : Text} {part : Part} (h : IsSegmentItem chunk part) : part.guards = [] := by
  obtain ⟨-, -, -, -, -⟩ := h
  rfl

theorem exists_of_readPath_name {name t : Text} (hname : IsName name) (h : readPath template (name ++ t) = .ok parts) :
    ∃ a more, parts = a :: more := by
  obtain ⟨c, tail, rfl⟩ := List.exists_cons_of_ne_nil hname.1
  have hc : ∀ {d}, d ∈ marks → c ≠ d := by
    intro d hd heq
    rw [heq] at hname
    exact hname.not_mem hd List.mem_cons_self
  obtain ⟨a, more, -, hparts⟩ := exists_of_readPath_cons (hc (by decide)) (hc (by decide)) h
  exact ⟨a, more, hparts⟩

theorem diverge_block {name : Text} (hname : IsName name) (z : Text) :
    Diverge template ['{', '{'] ('[' :: '?' :: (name ++ ':' :: (name ++ z))) where
  outside := by simp
  alone := by
    intro parts h h'
    rw [← List.append_nil ['{', '{']] at h
    obtain ⟨a, more, ha, -, rfl⟩ := exists_of_readPath_chunk (by decide) (by decide) (by decide) rfl h
    obtain ⟨⟨key, body, after⟩, inner, rest, hblock, hbody, -, hparts⟩ := exists_of_readRegion_block h'
    obtain ⟨hopened, -, hcolon, -, -⟩ := readBlock_eq_ok_iff.mp hblock
    rw [List.append_assoc, List.cons_append] at hopened
    obtain ⟨-, hbodies⟩ := append_cons_inj (hname.not_mem (by decide)) hcolon hopened
    -- The body begins with the name, so it has a part, and that part has a key.
    obtain ⟨t, rfl⟩ : name <+: body := prefix_of_not_mem (hname.not_mem (by decide)) ⟨z, hbodies⟩
    obtain ⟨x, inside, rfl⟩ := exists_of_readPath_name hname hbody
    have hguards := guards_of_isSegmentItem ha
    rw [(List.cons.inj hparts).1] at hguards
    cases hguards
  behind := by
    intro chunk part _ h
    obtain ⟨-, -, bracket, -, -⟩ := h
    rw [before_cons (by decide)] at bracket
    simp at bracket

/-- Braces at the end of a path are not read as the block of a shorthand would be. -/
theorem readPath_append_block_ne {p name z : Text} (hname : IsName name)
    (h : readPath template (p ++ ['{', '{']) = .ok parts) :
    readPath template (p ++ '[' :: '?' :: (name ++ ':' :: (name ++ z))) ≠ .ok parts :=
  readPath_ne_of_diverge (diverge_block hname z) p parts h

end Template

end RouteTemplate
