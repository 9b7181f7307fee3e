import RouteTemplate.Proofs.Template.Depth
import RouteTemplate.Proofs.Template.Expansion
import RouteTemplate.Proofs.Template.Reading

/- Templates written out.

   A template is split first, and its regions are expanded after that. Shorthand and its long forms hide every `?` of
   their own and leave open what was open before them (`Shorthand.neutral_optional`, `Shorthand.neutral_guarded` and
   their kin). So at every other place the expanded text has as many brackets and braces open as the text before, and as
   many `?` outside of them (`Template.sameDepths_expand`). Hence the template written out is split at the same `?`
   (`Template.splitQuery_writtenOut`), and since expansion settles at once its regions are those that were read before.
   All that can differ is the template that a fault quotes (`Endpoint.parse_requote`). -/
namespace RouteTemplate

open Text Shorthand

namespace Template

/-! ## Shorthand leaves the depth alone -/

/-- How many `?` of the text stand outside of brackets and braces, when `depth` are open before it. -/
def exposed : Nat → Text → Nat
  | _, [] => 0
  | depth, c :: rest => (if c = '?' ∧ depth = 0 then 1 else 0) + exposed (depthStep depth c) rest

theorem exposed_append : ∀ (depth : Nat) (a b : Text),
    exposed depth (a ++ b) = exposed depth a + exposed (depthAfter depth a) b
  | depth, [], b => by simp [exposed, depthAfter]
  | depth, c :: a, b => by
    rw [List.cons_append, exposed, exposed_append, exposed, Nat.add_assoc]
    rfl

theorem hides_iff_exposed : ∀ {depth : Nat} {t : Text}, Hides depth t ↔ exposed depth t = 0
  | _, [] => by simp [Hides, exposed]
  | depth, c :: rest => by
    rw [Hides, exposed, hides_iff_exposed, Nat.add_eq_zero_iff]
    simp

/-- A text that hides its `?` and leaves open what was open before adds nothing to what follows it. -/
theorem Neutral.exposed_append {depth : Nat} {a : Text} (h : Neutral depth a) (b : Text) :
    exposed depth (a ++ b) = exposed depth b := by
  rw [Template.exposed_append, hides_iff_exposed.mp h.hides, h.leaves, Nat.zero_add]

theorem Neutral.depthAfter_append {depth : Nat} {a : Text} (h : Neutral depth a) (b : Text) :
    depthAfter depth (a ++ b) = depthAfter depth b := by
  rw [Template.depthAfter_append, h.leaves]

end Template

open Template

namespace Shorthand

variable {name : Text}

theorem IsName.markless (h : IsName name) : Markless name :=
  ⟨h.not_mem (by decide), h.not_mem (by decide), h.not_mem (by decide), h.not_mem (by decide)⟩

theorem IsName.neutral (h : IsName name) (depth : Nat) : Neutral depth name :=
  h.markless.neutral (.inr (h.not_mem (by decide)))

theorem IsName.neutral_braced (h : IsName name) (depth : Nat) : Neutral depth ('{' :: name ++ ['}']) :=
  (h.neutral (depth + 1)).enclosed (.inl rfl) (.inl rfl)

theorem neutral_plain (h : IsName name) (depth : Nat) : Neutral depth (short ['{', '{'] name) := by
  have twice : Neutral depth ('{' :: ('{' :: name ++ ['}']) ++ ['}']) :=
    (h.neutral_braced (depth + 1)).enclosed (.inl rfl) (.inl rfl)
  simpa [short] using twice

theorem neutral_optional (h : IsName name) (depth : Nat) : Neutral depth (short ['{', '{', '?'] name) := by
  have mark : Neutral (depth + 2) ['?'] := Markless.neutral (by decide) (.inl (Nat.succ_ne_zero _))
  have once : Neutral (depth + 1) ('{' :: (['?'] ++ name) ++ ['}']) :=
    (mark.append (h.neutral (depth + 2))).enclosed (.inl rfl) (.inl rfl)
  have twice : Neutral depth ('{' :: ('{' :: (['?'] ++ name) ++ ['}']) ++ ['}']) :=
    once.enclosed (.inl rfl) (.inl rfl)
  simpa [short] using twice

theorem neutral_long (region : Region) (h : IsName name) (depth : Nat) : Neutral depth (long region name) := by
  have between : Neutral depth [between region] := by
    cases region <;> exact Markless.neutral (by decide) (.inr (by decide))
  have whole := (h.neutral depth).append (between.append (h.neutral_braced depth))
  simpa [long_eq] using whole

theorem neutral_guarded (h : IsName name) (depth : Nat) : Neutral depth (guarded name) := by
  have mark : Neutral (depth + 1) ['?'] := Markless.neutral (by decide) (.inl (Nat.succ_ne_zero _))
  have colon : Neutral (depth + 1) [':'] := Markless.neutral (by decide) (.inr (by decide))
  have keyed := mark.append ((h.neutral (depth + 1)).append (colon.append (neutral_plain h (depth + 1))))
  have block : Neutral depth ('[' :: (['?'] ++ (name ++ ([':'] ++ short ['{', '{'] name))) ++ [']']) :=
    keyed.enclosed (.inr rfl) (.inr rfl)
  simpa [guarded, short] using block

end Shorthand

namespace Template

/-- Read from any depth, the texts leave as much open, and show as many `?` outside of brackets and braces. -/
def SameDepths (s t : Text) : Prop :=
  ∀ depth, depthAfter depth s = depthAfter depth t ∧ exposed depth s = exposed depth t

/-- Replacing shorthand that leaves the depth alone by long forms that do so changes no depth. -/
theorem sameDepths_replace {opener : Text} {long : Text → Text}
    (hshort : ∀ name, IsName name → ∀ depth, Neutral depth (short opener name))
    (hlong : ∀ name, IsName name → ∀ depth, Neutral depth (long name)) (t : Text) :
    SameDepths (replace opener long t) t := by
  intro depth
  fun_induction replace opener long t generalizing depth with
  | case1 => exact ⟨rfl, rfl⟩
  | case2 c rest name after hread ih =>
    obtain ⟨hname, heq⟩ := read?_eq_some_iff.mp hread
    rw [heq, (hlong name hname depth).depthAfter_append, (hlong name hname depth).exposed_append,
      (hshort name hname depth).depthAfter_append, (hshort name hname depth).exposed_append]
    exact ih depth
  | case3 c rest _ ih =>
    obtain ⟨hdepth, hexposed⟩ := ih (depthStep depth c)
    rw [exposed, exposed, hexposed]
    exact ⟨hdepth, rfl⟩

theorem sameDepths_expand (region : Region) (t : Text) : SameDepths (expand region t) t := by
  intro depth
  obtain ⟨hdepth, hexposed⟩ := sameDepths_replace (fun _ => neutral_optional) (fun _ => neutral_guarded) t depth
  rw [← hdepth, ← hexposed]
  exact sameDepths_replace (fun _ => neutral_plain) (fun _ => neutral_long region) _ depth

/-! ## The split of a template written out -/

/-- The template with its regions expanded. -/
def writtenOut (t : Text) : Text :=
  match splitQuery 0 t with
  | (path, none) => expand .path path
  | (path, some query) => expand .path path ++ '?' :: expand .query query

theorem splitQuery_writtenOut (t : Text) : splitQuery 0 (writtenOut t) =
    (expand .path (splitQuery 0 t).1, (splitQuery 0 t).2.map (expand .query)) := by
  rw [writtenOut]
  rcases hsplit : splitQuery 0 t with ⟨path, query⟩
  have cut := splitQuery_eq_iff.mp hsplit
  obtain ⟨hdepth, hexposed⟩ := sameDepths_expand .path path 0
  have hides : Hides 0 (expand .path path) ↔ Hides 0 path := by
    rw [hides_iff_exposed, hides_iff_exposed, hexposed]
  cases query with
  | none => exact splitQuery_eq_iff.mpr ⟨rfl, hides.mpr cut.2⟩
  | some query => exact splitQuery_eq_iff.mpr ⟨rfl, hides.mpr cut.2.1, hdepth.trans cut.2.2⟩

/-- The `?` that ends the path stands before or behind a text that leaves the depth alone, and not in it. -/
theorem mark_outside {t path query a s b : Text} (hsplit : splitQuery 0 t = (path, some query)) (whole : t = a ++ s ++ b)
    (hs : ∀ depth, Neutral depth s) : path ++ ['?'] <+: a ∨ a ++ s <+: path := by
  obtain ⟨heq, -, hzero⟩ := splitQuery_eq_iff.mp hsplit
  rw [whole, List.append_assoc] at heq
  by_cases before : a <+: path
  · obtain ⟨m, rfl⟩ := before
    rw [List.append_assoc, List.append_cancel_left_eq] at heq
    rcases List.append_eq_append_iff.mp heq with ⟨n, rfl, -⟩ | ⟨n, rfl, hn⟩
    · exact .inr ⟨n, by simp⟩
    · cases n with
      | nil => exact .inr ⟨[], by simp⟩
      | cons c n =>
        -- The mark would stand in the text, with nothing open before it.
        obtain ⟨rfl, -⟩ := List.cons.inj hn
        obtain ⟨-, hides⟩ := hides_append.mp (hs (depthAfter 0 a)).hides
        rw [depthAfter_append] at hzero
        exact absurd ⟨rfl, hzero⟩ hides.1
  · rcases List.append_eq_append_iff.mp heq with ⟨m, rfl, -⟩ | ⟨m, rfl, hm⟩
    · exact absurd (List.prefix_append a m) before
    · cases m with
      | nil => exact absurd (by simp) before
      | cons c m =>
        obtain ⟨rfl, -⟩ := List.cons.inj hm
        exact .inl ⟨m, by simp⟩

/-! ## What a fault quotes -/

end Template

/-- The fault, quoting another template where it quotes one. -/
def EndpointError.quoting (template : Text) : EndpointError → EndpointError
  | .unbalancedOptional _ => .unbalancedOptional template
  | fault => fault

namespace Template

theorem readBlock_requote (template other : Text) (sep : Char) (opened : Text) :
    readBlock other sep opened = (readBlock template sep opened).mapError (·.quoting other) := by
  unfold readBlock
  split
  · rfl
  · split
    · rfl
    · split <;> rfl

theorem readAtom_requote (template other chunk : Text) :
    readAtom other chunk = (readAtom template chunk).mapError (·.quoting other) := by
  unfold readAtom
  split
  · rfl
  · split <;> rfl

theorem readSegment_requote (template other chunk : Text) :
    readSegment other chunk = (readSegment template chunk).mapError (·.quoting other) := by
  rw [readSegment, readSegment, readAtom_requote template other]
  cases readAtom template chunk <;> rfl

theorem readEntry_requote (template other text : Text) :
    readEntry other text = (readEntry template text).mapError (·.quoting other) := by
  unfold readEntry
  split
  · rfl
  · split
    · rfl
    · rw [readAtom_requote template other]
      cases readAtom template _ <;> rfl

theorem readRegion_requote {α : Type} {sep : Char} {plain plain' : Text → Except EndpointError α}
    {guard : Text → α → α} (template other : Text) (hsep : sep ≠ '[')
    (hplain : ∀ text, plain' text = (plain text).mapError (·.quoting other)) (text : Text) :
    readRegion other sep plain' guard text = (readRegion template sep plain guard text).mapError (·.quoting other) := by
  fun_induction readRegion template sep plain guard text with
  | case1 => rw [readRegion_nil]; rfl
  | case2 opened fault hblock =>
    simp only [readRegion_opened, readBlock_requote template other, hblock, Except.mapError]
  | case3 opened b hblock _ fault hbody body =>
    simp only [readRegion_opened, readBlock_requote template other, hblock, body, hbody, Except.mapError]
  | case4 opened b hblock _ inner hbody fault hafter body after =>
    simp only [readRegion_opened, readBlock_requote template other, hblock, body, hbody, after, hafter, Except.mapError]
  | case5 opened b hblock _ inner hbody more hafter body after =>
    simp only [readRegion_opened, readBlock_requote template other, hblock, body, hbody, after, hafter, Except.mapError]
  | case6 rest _ ih => rw [readRegion_sep hsep, ih]
  | case7 c rest hopens hc fault hfault =>
    simp only [readRegion_item hopens hc, hplain, hfault, Except.mapError]
  | case8 c rest hopens hc item hitem _ fault hmore after =>
    simp only [readRegion_item hopens hc, hplain, hitem, after, hmore, Except.mapError]
  | case9 c rest hopens hc item hitem _ more hmore after =>
    simp only [readRegion_item hopens hc, hplain, hitem, after, hmore, Except.mapError]

theorem readPath_requote (template other text : Text) :
    readPath other text = (readPath template text).mapError (·.quoting other) :=
  readRegion_requote template other (by decide) (readSegment_requote template other) text

theorem readQuery_requote (template other text : Text) :
    readQuery other text = (readQuery template text).mapError (·.quoting other) :=
  readRegion_requote template other (by decide) (readEntry_requote template other) text

end Template

namespace Endpoint

/-- Templates whose regions are alike once they are expanded are read alike, but for the template a fault quotes. -/
theorem parse_requote {template other : Text}
    (hpath : expand .path (splitQuery 0 other).1 = expand .path (splitQuery 0 template).1)
    (hquery : expand .query ((splitQuery 0 other).2.getD []) = expand .query ((splitQuery 0 template).2.getD [])) :
    Endpoint.parse other = (Endpoint.parse template).mapError (·.quoting other) := by
  simp only [Endpoint.parse, hpath, hquery, readPath_requote template other, readQuery_requote template other]
  cases readPath template (expand .path (splitQuery 0 template).1) with
  | error fault => rfl
  | ok path =>
    cases readQuery template (expand .query ((splitQuery 0 template).2.getD [])) with
    | error fault => rfl
    | ok query =>
      simp only [Except.mapError]
      split <;> rfl

theorem quoting_of_parse {template : Text} {fault : EndpointError} (h : Endpoint.parse template = .error fault) :
    fault.quoting template = fault := by
  have same : Endpoint.parse template = (Endpoint.parse template).mapError (·.quoting template) :=
    parse_requote rfl rfl
  rw [h] at same
  exact (Except.error.inj same).symm

/-- **To split before expanding loses nothing.** Take a template, and the template written out: its path expanded, and,
    when there is a query, `?` and the query expanded. It is split into just these. It is parsed as the template is, to
    the same parts and entries in the same order, or to the same fault with the same block, entry or name; only an
    unbalanced block is blamed on the template written out, as it was on the template. The `?` that ends the path of the
    template stands in no shorthand, plain or optional. And expansion of any text leaves as many `?` outside of brackets
    and braces as there were. -/
theorem parse_writtenOut (t : Text) :
    splitQuery 0 (writtenOut t) = (expand .path (splitQuery 0 t).1, (splitQuery 0 t).2.map (expand .query)) ∧
    (∀ e, Endpoint.parse t = .ok e → Endpoint.parse (writtenOut t) = .ok e) ∧
    (∀ fault, Endpoint.parse t = .error fault → fault.quoting t = fault ∧
      Endpoint.parse (writtenOut t) = .error (fault.quoting (writtenOut t))) ∧
    (∀ path query, splitQuery 0 t = (path, some query) → ∀ opener ∈ [['{', '{'], ['{', '{', '?']],
      ∀ name, IsName name → ∀ a b, t = a ++ short opener name ++ b →
        path ++ ['?'] <+: a ∨ a ++ short opener name <+: path) ∧
    ∀ region x depth, exposed depth (expand region x) = exposed depth x := by
  have split := splitQuery_writtenOut t
  have settled : ∀ region x, expand region (expand region x) = expand region x := fun region x =>
    expand_of_noShorthand region (noShorthand_expand region x)
  have parsed : Endpoint.parse (writtenOut t) = (Endpoint.parse t).mapError (·.quoting (writtenOut t)) := by
    refine parse_requote ?_ ?_
    · rw [split, settled]
    · rw [split]
      cases (splitQuery 0 t).2 with
      | none => rfl
      | some query => exact settled .query query
  refine ⟨split, fun e h => ?_, fun fault h => ⟨quoting_of_parse h, ?_⟩, ?_, fun region x depth => ?_⟩
  · rw [parsed, h]
    rfl
  · rw [parsed, h]
    rfl
  · intro path query hsplit opener ho name hname a b whole
    refine mark_outside hsplit whole fun depth => ?_
    simp only [List.mem_cons, List.not_mem_nil, or_false] at ho
    rcases ho with rfl | rfl
    · exact neutral_plain hname depth
    · exact neutral_optional hname depth
  · exact (sameDepths_expand region x depth).2

/-- Shorthand on both sides of the `?`, and an optional one whose own `?` comes first. -/
def sketch : Text := "a/\x7b\x7b?x\x7d\x7d?\x7b\x7by\x7d\x7d&z=?".toList

/-- A bracket that is closed and not opened, before a query with shorthand. -/
def unopened : Text := "]?\x7b\x7by\x7d\x7d".toList

theorem parse_writtenOut_sketch :
    (writtenOut sketch = "a/[?x:x/\x7bx\x7d]?y=\x7by\x7d&z=?".toList ∧
      Endpoint.parse (writtenOut sketch) = .ok
        ⟨[⟨[], .literal "a".toList⟩, ⟨["x".toList], .literal "x".toList⟩, ⟨["x".toList], .param "x".toList⟩],
          [⟨"y".toList, [], .param "y".toList⟩, ⟨"z".toList, [], .literal "?".toList⟩]⟩ ∧
      ("a/\x7b\x7b?x\x7d\x7d?".toList <+: "a/".toList ∨
        "a/\x7b\x7b?x\x7d\x7d".toList <+: "a/\x7b\x7b?x\x7d\x7d".toList)) ∧
    writtenOut unopened = "]?y=\x7by\x7d".toList ∧
    Endpoint.parse unopened = .error (.unbalancedOptional unopened) ∧
    Endpoint.parse (writtenOut unopened) = .error (.unbalancedOptional (writtenOut unopened)) := by
  obtain ⟨-, same, -, outside, -⟩ := parse_writtenOut sketch
  obtain ⟨-, -, refused, -, -⟩ := parse_writtenOut unopened
  have fault : Endpoint.parse unopened = .error (.unbalancedOptional unopened) := by decide +kernel
  have name : IsName ['x'] := ⟨by decide, List.forall_mem_singleton.mpr (by decide)⟩
  have cut : splitQuery 0 sketch = ("a/\x7b\x7b?x\x7d\x7d".toList, some "\x7b\x7by\x7d\x7d&z=?".toList) := by decide
  refine ⟨⟨by decide +kernel, same _ (by decide +kernel), ?_⟩, by decide +kernel, fault, (refused _ fault).2⟩
  exact outside _ _ cut ['{', '{', '?'] (by decide) _ name "a/".toList "?\x7b\x7by\x7d\x7d&z=?".toList (by decide)

end Endpoint

end RouteTemplate
