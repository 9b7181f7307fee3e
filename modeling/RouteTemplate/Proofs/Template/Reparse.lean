import RouteTemplate.Proofs.Template.Divergence

/- When a display is read back.

   The display of an endpoint that was read is grammatical, but the text it is put into need not fall apart again
   where it was put together. A block of several parts becomes several blocks, and brackets that matched over the
   whole block may match in none of them; a `?` of the path may stand in brackets or braces of another part. Where
   the path is split elsewhere it has other parts (`Grammatical.splitQuery_of_parse`), and a block of the query
   that does not end at its own bracket cannot be read at all (`closes_of_readQuery`), so nothing but `Separable`
   makes a display readable (`parse_display_iff`). -/
namespace RouteTemplate

open Text Shorthand

namespace Template

/-! ## Blocks of the query -/

section
variable {template : Text} {inner : Text} {entry : Entry} {items : List Entry}

theorem readQuery_ampersand (rest : Text) : readQuery template ('&' :: rest) = readQuery template rest :=
  readRegion_sep (by decide) rest

theorem exists_of_readQuery_block {opened : Text} (h : readQuery template ('[' :: '?' :: opened) = .ok items) :
    ∃ key body after, opened = key ++ ':' :: (body ++ ']' :: after) ∧ ':' ∉ key ∧ Balanced (key ++ ':' :: body) ∧
      endsItem '&' after = true ∧ (∃ inside, readQuery template body = .ok inside) ∧
      ∃ more, readQuery template after = .ok more := by
  obtain ⟨⟨key, body, after⟩, inside, more, hblock, hbody, hafter, -⟩ := exists_of_readRegion_block h
  obtain ⟨rfl, -, hkey, balanced, ends⟩ := readBlock_eq_ok_iff.mp hblock
  exact ⟨key, body, after, by simp, hkey, balanced, ends, ⟨inside, hbody⟩, more, hafter⟩

/-- Nothing that ends inside a key of the blocks is a query: its last block has no colon. -/
theorem not_readQuery_of_inBlocks : ∀ {guards : List Text} {x y : Text}, (∀ key ∈ guards, ':' ∉ key) → '&' ∉ inner →
    inBlocks guards inner = x ++ ']' :: y → '&' ∈ y → ∀ items, readQuery template x ≠ .ok items
  | [], x, y, _, hinner, heq, hy, items => by
    have whole : inner = x ++ ']' :: y := heq
    exact absurd (by simp [whole, hy]) hinner
  | key :: guards, x, y, hkeys, hinner, heq, hy, items => by
    intro hread
    have whole : '[' :: '?' :: (key ++ ':' :: (inBlocks guards inner ++ [']'])) = x ++ ']' :: y := by
      rw [← heq, inBlocks_cons]
      simp
    obtain ⟨x, rfl, hmark⟩ := exists_of_cons_eq_append_cons (by decide) whole
    obtain ⟨opened, rfl, hopened⟩ := exists_of_cons_eq_append_cons (by decide) hmark
    obtain ⟨other, body, after, rfl, hcolon, -, -, ⟨inside, hbody⟩, -⟩ := exists_of_readQuery_block hread
    rw [List.append_assoc, List.cons_append, List.append_assoc] at hopened
    obtain ⟨-, hbodies⟩ := append_cons_inj (hkeys key List.mem_cons_self) hcolon hopened
    -- The body ends before the last bracket, still inside a key of the inner blocks.
    rcases append_cons_cases hbodies with ⟨-, h⟩ | ⟨m, hm, hrest⟩ | ⟨m, -, h⟩
    · simp at h
    · have hmem : '&' ∈ m ++ [']'] := by
        rw [← hrest]
        simp [hy]
      have colons : ∀ k ∈ guards, ':' ∉ k := fun k hk => hkeys k (List.mem_cons_of_mem _ hk)
      exact not_readQuery_of_inBlocks colons hinner hm (by simpa using hmem) inside hbody
    · simp at h

theorem mem_of_endsItem {sep : Char} {m t : Text} (h : endsItem sep (m ++ ']' :: t) = true) (hsep : sep ≠ ']') :
    sep ∈ m := by
  cases m with
  | nil => exact absurd (eq_of_beq h).symm hsep
  | cons c m =>
    have hc : c = sep := eq_of_beq h
    simp [hc]

/-- The block is read up to its own bracket, or its body goes on behind that bracket. -/
theorem readQuery_block_cases {key after : Text} {guards : List Text}
    (h : GrammaticalItem IsEntryItem (key :: guards) inner entry)
    (hread : readQuery template (inBlocks (key :: guards) inner ++ after) = .ok items) :
    (Balanced (key ++ ':' :: inBlocks guards inner) ∧ endsItem '&' after = true ∧
      (∃ inside, readQuery template (inBlocks guards inner) = .ok inside) ∧
      ∃ more, readQuery template after = .ok more) ∨
    ∃ m inside, readQuery template (inBlocks guards inner ++ ']' :: m) = .ok inside := by
  have whole : inBlocks (key :: guards) inner ++ after =
      '[' :: '?' :: (key ++ ':' :: (inBlocks guards inner ++ ']' :: after)) := by
    simp [inBlocks_cons]
  rw [whole] at hread
  obtain ⟨other, body, rest, hopened, hcolon, balanced, ends, ⟨inside, hbody⟩, hrest⟩ := exists_of_readQuery_block hread
  obtain ⟨rfl, hbodies⟩ := append_cons_inj (h.key_colon key List.mem_cons_self) hcolon hopened
  rcases append_cons_cases hbodies with ⟨rfl, rfl⟩ | ⟨m, hm, rfl⟩ | ⟨m, rfl, -⟩
  · exact .inl ⟨balanced, ends, ⟨inside, hbody⟩, hrest⟩
  · -- A separator follows the bracket found, and there is none outside of keys.
    have colons : ∀ k ∈ guards, ':' ∉ k := fun k hk => h.key_colon k (List.mem_cons_of_mem _ hk)
    have ampersand : '&' ∈ m := mem_of_endsItem ends (by decide)
    exact absurd hbody (not_readQuery_of_inBlocks colons (separates_entryItem.not_mem h.plain) hm ampersand inside)
  · exact .inr ⟨m, inside, hbody⟩

theorem not_isEntryItem_append {text more : Text} {other : Entry} (h : IsEntryItem text entry) :
    ¬IsEntryItem (text ++ ']' :: more) other := by
  intro hlong
  generalize hwhole : text ++ ']' :: more = whole at hlong
  obtain ⟨-, equals, -, -, -, -, -⟩ := h
  obtain ⟨-, equals', -, -, -, closeBracket, -⟩ := hlong
  rw [List.append_assoc, List.cons_append] at hwhole
  obtain ⟨-, rfl⟩ := append_cons_inj equals equals' hwhole
  exact closeBracket (by simp)

theorem not_readQuery_of_closeBracket : ∀ {guards : List Text} {y : Text},
    GrammaticalItem IsEntryItem guards inner entry → ∀ items,
      readQuery template (inBlocks guards inner ++ ']' :: y) ≠ .ok items
  | [], y, h, items => by
    intro hread
    have whole : inner ++ ']' :: y = (inner ++ ']' :: before '&' y) ++ y.dropWhile (· ≠ '&') := by
      simp [before, List.takeWhile_append_dropWhile]
    have hsep : '&' ∉ inner ++ ']' :: before '&' y := by
      simp [separates_entryItem.not_mem h.plain, not_mem_before]
    have hopens : ¬['[', '?'] <+: inner ++ ']' :: before '&' y :=
      fun hm => h.opens (prefix_of_not_mem (by decide) hm)
    rw [inBlocks, List.foldr_nil, whole] at hread
    obtain ⟨a, -, ha, -⟩ :=
      exists_of_readRegion_plain (by decide) (by simp) hsep hopens endsItem_dropWhile hread
    exact not_isEntryItem_append h.plain ((readEntry_eq_ok_iff hsep).mp ha)
  | key :: guards, y, h, items => by
    intro hread
    rcases readQuery_block_cases h hread with ⟨-, ends, -⟩ | ⟨m, inside, hinside⟩
    · cases ends
    · exact not_readQuery_of_closeBracket h.tail inside hinside

theorem closes_of_readQuery : ∀ {guards : List Text} {after : Text} {items : List Entry},
    GrammaticalItem IsEntryItem guards inner entry → endsItem '&' after = true →
      readQuery template (inBlocks guards inner ++ after) = .ok items →
        Closes inner guards ∧ ∃ more, readQuery template after = .ok more
  | [], after, items, h, ends, hread => by
    obtain ⟨-, more, -, hafter, -⟩ := exists_of_readRegion_plain (by decide) (separates_entryItem.nonempty h.plain)
      (separates_entryItem.not_mem h.plain) h.opens ends hread
    exact ⟨trivial, more, hafter⟩
  | key :: guards, after, items, h, ends, hread => by
    rcases readQuery_block_cases h hread with ⟨balanced, -, ⟨inside, hbody⟩, hafter⟩ | ⟨m, inside, hinside⟩
    · rw [← List.append_nil (inBlocks guards inner)] at hbody
      exact ⟨⟨balanced, (closes_of_readQuery h.tail rfl hbody).1⟩, hafter⟩
    · exact absurd hinside (not_readQuery_of_closeBracket h.tail inside)

theorem closes_of_readQuery_join : ∀ {entries : List Entry} {items : List Entry},
    (∀ entry ∈ entries, GrammaticalItem IsEntryItem entry.part.guards entry.text ⟨entry.name, [], entry.part.atom⟩) →
      readQuery template (join ['&'] (entries.map (·.display))) = .ok items →
        ∀ entry ∈ entries, Closes entry.text entry.part.guards
  | [], _, _, _, _, hentry => absurd hentry List.not_mem_nil
  | [first], items, h, hread, entry, hentry => by
    rw [List.mem_singleton.mp hentry]
    rw [List.map_cons, List.map_nil, join, ← List.append_nil first.display] at hread
    exact (closes_of_readQuery (h first (by simp)) rfl hread).1
  | first :: next :: more, items, h, hread, entry, hentry => by
    have cut : join ['&'] ((first :: next :: more).map (·.display)) =
        first.display ++ '&' :: join ['&'] ((next :: more).map (·.display)) := by
      simp [join]
    rw [cut] at hread
    obtain ⟨closes, rest, hrest⟩ := closes_of_readQuery (h first (by simp)) rfl hread
    rcases List.mem_cons.mp hentry with rfl | hentry
    · exact closes
    · rw [readQuery_ampersand] at hrest
      exact closes_of_readQuery_join (fun e he => h e (List.mem_cons_of_mem _ he)) hrest entry hentry

end

end Template

open Template

namespace Endpoint

variable {e e' : Endpoint} {template : Text}

theorem Grammatical.readPath_pathText (h : e.Grammatical) : readPath template e.pathText = .ok e.path :=
  (readPath_eq_ok_iff template).mpr h.isPath

theorem Grammatical.readPath_shorter_ne (h : e.Grammatical) {p y : Text} (hp : e.pathText = p ++ '?' :: y) :
    readPath template (expand .path p) ≠ .ok e.path := by
  have free : NoShorthand p := h.noShorthand_path.of_infix ⟨[], '?' :: y, by rw [hp]; simp⟩
  rw [expand_of_noShorthand _ free]
  intro hread
  have longer := readPath_append_mark_ne (x := y) hread
  rw [← hp] at longer
  exact longer h.readPath_pathText

/-- A path that goes on behind the written one has other parts, even when the `?` between them makes a shorthand. -/
theorem Grammatical.readPath_longer_ne (h : e.Grammatical) {y : Text} (hy : NoShorthand y) :
    readPath template (expand .path (e.pathText ++ '?' :: y)) ≠ .ok e.path := by
  by_cases free : NoShorthand (e.pathText ++ '?' :: y)
  · rw [expand_of_noShorthand _ free]
    exact readPath_append_mark_ne h.readPath_pathText
  · obtain ⟨p, name, rest, hname, hp, rfl⟩ := exists_of_not_noShorthand h.noShorthand_path hy free
    have path : readPath template e.pathText = .ok e.path := h.readPath_pathText
    have start := h.noShorthand_path
    rw [hp] at path start
    have whole : e.pathText ++ '?' :: (name ++ '}' :: '}' :: rest) = p ++ short ['{', '{', '?'] name ++ rest := by
      rw [hp]
      simp [short]
    have after : NoShorthand rest := hy.of_infix ⟨name ++ ['}', '}'], [], by simp⟩
    rw [whole, expand_append_short .path hname start after, long_eq, List.append_assoc]
    exact readPath_append_block_ne hname path

theorem Grammatical.splitQuery_of_parse (h : e.Grammatical) (hparse : Endpoint.parse e.display = .ok e')
    (hpath : e'.path = e.path) :
    splitQuery 0 e.display = (e.pathText, if e.query = [] then none else some e.queryText) := by
  obtain ⟨hread, -, -⟩ := read_of_parse hparse
  rw [hpath] at hread
  generalize hsplit : splitQuery 0 e.display = cut at hread ⊢
  obtain ⟨p, query⟩ := cut
  have hcut := splitQuery_eq_iff.mp hsplit
  rw [display_eq] at hcut
  by_cases hnil : e.query = []
  · rw [if_pos hnil] at hcut ⊢
    cases query with
    | none =>
      obtain ⟨heq, -⟩ := hcut
      rw [heq]
    | some q =>
      obtain ⟨heq, -, -⟩ := hcut
      exact absurd hread (h.readPath_shorter_ne heq)
  · rw [if_neg hnil] at hcut ⊢
    cases query with
    | none =>
      obtain ⟨heq, -⟩ := hcut
      rw [← heq] at hread
      exact absurd hread (h.readPath_longer_ne h.noShorthand_query)
    | some q =>
      obtain ⟨heq, -, -⟩ := hcut
      rcases append_cons_cases heq with ⟨hp, hq⟩ | ⟨m, hp, -⟩ | ⟨m, hp, hq⟩
      · rw [hp, hq]
      · exact absurd hread (h.readPath_shorter_ne hp)
      · have free : NoShorthand m := h.noShorthand_query.of_infix ⟨[], '?' :: q, by rw [hq]; simp⟩
        rw [hp] at hread
        exact absurd hread (h.readPath_longer_ne free)

theorem Grammatical.separable_of_parse (h : e.Grammatical) (hparse : Endpoint.parse e.display = .ok e')
    (hpath : e'.path = e.path) : e.Separable := by
  have cut := h.splitQuery_of_parse hparse hpath
  obtain ⟨-, hquery, -⟩ := read_of_parse hparse
  rw [cut] at hquery
  rw [splitQuery_eq_iff] at cut
  by_cases hnil : e.query = []
  · rw [if_pos hnil] at cut
    refine ⟨cut.2, fun hne => absurd hnil hne, fun entry hentry => ?_⟩
    rw [hnil] at hentry
    exact absurd hentry List.not_mem_nil
  · rw [if_neg hnil] at cut hquery
    refine ⟨cut.2.1, fun _ => cut.2.2, ?_⟩
    rw [Option.getD_some, expand_of_noShorthand _ h.noShorthand_query] at hquery
    exact closes_of_readQuery_join h.query hquery

theorem alike_self (e : Endpoint) : e.alike e = true := by simp [alike]

/-- **An endpoint that was read is read back from its display exactly when the display is separable**, and then it is
    the very same endpoint. -/
theorem parse_display_iff (h : Endpoint.parse template = .ok e) :
    ((∃ e', Endpoint.parse e.display = .ok e' ∧ e'.alike e = true) ↔ e.Separable) ∧
      (e.Separable → Endpoint.parse e.display = .ok e) := by
  have grammatical := grammatical_of_parse h
  refine ⟨⟨?_, ?_⟩, parse_display grammatical⟩
  · intro hback
    obtain ⟨e', hparse, alike⟩ := hback
    simp only [Endpoint.alike, Bool.and_eq_true, decide_eq_true_eq] at alike
    exact grammatical.separable_of_parse hparse alike.1
  · intro hs
    exact ⟨e, parse_display grammatical hs, alike_self e⟩

/-- Keys and names with brackets that match, and blocks of two parts, which the display writes as two blocks. -/
def indexed : Endpoint where
  path := [⟨[], .literal "items".toList⟩, ⟨["k[0]".toList], .literal "at".toList⟩, ⟨["k[0]".toList], .param "id".toList⟩]
  query := [⟨"x".toList, ["f".toList], .literal "1".toList⟩, ⟨"y[]".toList, ["f".toList], .param "$name".toList⟩]

theorem parse_display_indexed :
    Endpoint.parse "/items//[?k[0]:at/\x7bid\x7d]?[?f:x=1&y[]=$name]".toList = .ok indexed ∧
      indexed.display = "items/[?k[0]:at]/[?k[0]:\x7bid\x7d]?[?f:x=1]&[?f:y[]=\x7b$name\x7d]".toList ∧
      Endpoint.parse indexed.display = .ok indexed := by
  have read : Endpoint.parse "/items//[?k[0]:at/\x7bid\x7d]?[?f:x=1&y[]=$name]".toList = .ok indexed := by
    decide +kernel
  have separable : indexed.Separable := by decide
  exact ⟨read, by decide, (parse_display_iff read).2 separable⟩

/-- Two names that share a pair of brackets, within one block. -/
def torn : Endpoint where
  path := []
  query := [⟨"a[".toList, ["f".toList], .literal "1".toList⟩, ⟨"b]".toList, ["f".toList], .literal "2".toList⟩]

/-- The display has a block for each name. The first one ends only at the last bracket and takes the second in, so that
    the value of `a[` in it is `1]`, and a value holds no bracket. -/
theorem parse_display_torn :
    Endpoint.parse "?[?f:a[=1&b]=2]".toList = .ok torn ∧ torn.display = "?[?f:a[=1]&[?f:b]=2]".toList ∧
      Endpoint.parse torn.display = .error (.unbalancedOptional torn.display) := by
  decide +kernel

end Endpoint

end RouteTemplate
