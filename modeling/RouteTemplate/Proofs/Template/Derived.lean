import RouteTemplate.Proofs.Template.Display

/- What a template can be read as.

   Each item of a region is a plain item under the keys of the blocks around it, and the texts of both stand in the
   region (`IsRegion.stands`). A region that was expanded holds no shorthand, so neither do its keys and items; in a
   path the brackets match as a whole, hence also those of every key (`IsPath.balanced`). An endpoint that was read
   is therefore grammatical (`Endpoint.grammatical_of_parse`). -/
namespace RouteTemplate

open Text Shorthand

namespace Template

/-! ## Items and the blocks around them -/

section
variable {α : Type} (sep : Char) (Plain : Text → α → Prop) (guard : Text → α → α)

/-- A key that some block of the text has. -/
structure IsKeyOf (whole key : Text) : Prop where
  nonempty : key ≠ []
  colon : ':' ∉ key
  within : key <:+: whole
  block : ∃ body items, IsRegion sep Plain guard body items ∧ Balanced (key ++ ':' :: body)

/-- The item is a plain one of the text, under keys of the text. -/
def Stands (whole : Text) (x : α) : Prop :=
  ∃ (guards : List Text) (text : Text) (a : α), x = guards.foldr guard a ∧ Plain text a ∧ ¬['[', '?'] <+: text ∧
    text <:+: whole ∧ ∀ key ∈ guards, IsKeyOf sep Plain guard whole key

end

section
variable {α : Type} {sep : Char} {Plain : Text → α → Prop} {guard : Text → α → α} {whole : Text}

mutual

theorem IsItem.stands : ∀ {text : Text} {items : List α}, IsItem sep Plain guard text items → text <:+: whole →
    ∀ x ∈ items, Stands sep Plain guard whole x
  | text, _, .plain h hblock, hw, x, hx =>
    ⟨[], text, x, rfl, List.mem_singleton.mp hx ▸ h, hblock, hw, fun _ hk => absurd hk List.not_mem_nil⟩
  | _, _, .block key body hne hkey balanced hbody, hw, x, hx => by
    obtain ⟨y, hy, rfl⟩ := List.mem_map.mp hx
    have inside : body <:+: whole := List.IsInfix.trans ⟨['[', '?'] ++ key ++ [':'], [']'], by simp⟩ hw
    obtain ⟨guards, text, a, rfl, plain, opens, within, keys⟩ := hbody.stands inside y hy
    refine ⟨key :: guards, text, a, rfl, plain, opens, within, ?_⟩
    intro k hk
    rcases List.mem_cons.mp hk with rfl | hk
    · exact ⟨hne, hkey, List.IsInfix.trans ⟨['[', '?'], ':' :: body ++ [']'], by simp⟩ hw, body, _, hbody, balanced⟩
    · exact keys k hk

theorem AreItems.stands : ∀ {text : Text} {items : List α}, AreItems sep Plain guard text items → text <:+: whole →
    ∀ x ∈ items, Stands sep Plain guard whole x
  | _, _, .one h, hw, x, hx => h.stands hw x hx
  | _, _, @AreItems.cons _ _ _ _ text rest _ _ n first more, hw, x, hx => by
    rcases List.mem_append.mp hx with hx | hx
    · exact first.stands (List.IsInfix.trans ⟨[], List.replicate (n + 1) sep ++ rest, by simp⟩ hw) x hx
    · exact more.stands (List.IsInfix.trans ⟨text ++ List.replicate (n + 1) sep, [], by simp⟩ hw) x hx

theorem IsRegion.stands : ∀ {text : Text} {items : List α}, IsRegion sep Plain guard text items → text <:+: whole →
    ∀ x ∈ items, Stands sep Plain guard whole x
  | _, _, .empty _ _, _, _, hx => absurd hx List.not_mem_nil
  | _, _, .items m n h, hw, x, hx =>
    h.stands (List.IsInfix.trans ⟨List.replicate m sep, List.replicate n sep, rfl⟩ hw) x hx

end

end

/-! ## Brackets in a path -/

theorem balanced_slashes (n : Nat) : Balanced (List.replicate n '/') :=
  balanced_of_not_mem (by simp) (by simp)

mutual

theorem balanced_of_isItem : ∀ {text : Text} {parts : List Part}, IsItem '/' IsSegmentItem Part.guard text parts →
    Balanced text
  | _, _, .plain ⟨_, _, bracket, closeBracket, _⟩ _ => balanced_of_not_mem bracket closeBracket
  | _, _, .block key body _ _ balanced _ => by
    simpa using (balanced.cons (c := '?') (by decide) (by decide)).bracketed

theorem balanced_of_areItems : ∀ {text : Text} {parts : List Part},
    AreItems '/' IsSegmentItem Part.guard text parts → Balanced text
  | _, _, .one h => balanced_of_isItem h
  | _, _, .cons n first rest =>
    ((balanced_of_isItem first).append (balanced_slashes (n + 1))).append (balanced_of_areItems rest)

end

/-- All brackets of a path are those of its blocks. -/
theorem IsPath.balanced {text : Text} {parts : List Part} (h : IsPath text parts) : Balanced text := by
  cases h with
  | empty m n => exact (balanced_slashes m).append (balanced_slashes n)
  | items m n h => exact ((balanced_slashes m).append (balanced_of_areItems h)).append (balanced_slashes n)

theorem IsKeyOf.balanced {whole key : Text} (h : IsKeyOf '/' IsSegmentItem Part.guard whole key) : Balanced key := by
  obtain ⟨body, parts, hbody, balanced⟩ := h.block
  exact balanced.of_append_right ((IsPath.balanced hbody).cons (by decide) (by decide))

/-! ## Plain items, written out again -/

theorem isParameterName_of_reserved : ∀ word ∈ reservedWords, IsParameterName word := by decide

/-- An atom is written as it was read, unless it was a reserved word: that one gets its braces. -/
theorem IsAtom.display_eq_or {chunk : Text} {atom : Atom} (h : IsAtom chunk atom) :
    atom.display = chunk ∨ ∃ name, IsParameterName name ∧ atom = .param name := by
  cases h with
  | braced valid => exact .inl rfl
  | reserved hword => exact .inr ⟨_, isParameterName_of_reserved _ hword, rfl⟩
  | literal _ _ => exact .inl rfl

theorem IsAtom.noShorthand {chunk : Text} {atom : Atom} (h : IsAtom chunk atom) (free : NoShorthand chunk) :
    NoShorthand atom.display := by
  rcases h.display_eq_or with heq | ⟨name, hname, rfl⟩
  · rw [heq]
    exact free
  · exact hname.noShorthand

theorem IsSegmentItem.display {chunk : Text} {part : Part} (h : IsSegmentItem chunk part) :
    IsSegmentItem part.atom.display part := by
  obtain ⟨hne, slash, bracket, closeBracket, hatom⟩ := h
  rcases hatom.display_eq_or with heq | ⟨name, hname, rfl⟩
  · rw [heq]
    exact ⟨hne, slash, bracket, closeBracket, hatom⟩
  · exact Atom.StandsInPath.isSegmentItem hname

theorem IsEntryItem.display {text : Text} {entry : Entry} (h : IsEntryItem text entry) :
    IsEntryItem entry.text entry := by
  obtain ⟨hne, equals, ampersand, hvalue, bracket, closeBracket, hatom⟩ := h
  rw [Entry.text]
  rcases hatom.display_eq_or with heq | ⟨other, hother, rfl⟩
  · rw [heq]
    exact ⟨hne, equals, ampersand, hvalue, bracket, closeBracket, hatom⟩
  · have stands : (Atom.param other).StandsInQuery := hother
    exact stands.isEntryItem hne equals ampersand

theorem IsEntryItem.opens {text : Text} {entry : Entry} (h : IsEntryItem text entry) (hopens : ¬['[', '?'] <+: text) :
    ¬['[', '?'] <+: entry.text := by
  cases h with
  | @mk name value atom =>
    intro hm
    have within : ['[', '?'] <+: name := prefix_of_not_mem (by decide) hm
    exact hopens (within.trans (List.prefix_append _ _))

theorem IsEntryItem.noShorthand {text : Text} {entry : Entry} (h : IsEntryItem text entry) (free : NoShorthand text) :
    NoShorthand entry.text := by
  cases h with
  | @mk name value atom _ _ _ _ _ _ hatom =>
    have before : NoShorthand name := free.of_infix (List.prefix_append _ _).isInfix
    have after : NoShorthand value := free.of_infix ⟨name ++ ['='], [], by simp⟩
    exact before.append (by decide) (hatom.noShorthand after)

theorem GrammaticalItem.of_keys {α : Type} {sep : Char} {Plain : Text → α → Prop} {guard : Text → α → α}
    {whole inner : Text} {guards : List Text} {a : α} (free : NoShorthand whole)
    (keys : ∀ key ∈ guards, IsKeyOf sep Plain guard whole key) (plain : Plain inner a)
    (opens : ¬['[', '?'] <+: inner) (hinner : NoShorthand inner) : GrammaticalItem Plain guards inner a where
  key_nonempty key hkey := (keys key hkey).nonempty
  key_colon key hkey := (keys key hkey).colon
  key_free key hkey := free.of_infix (keys key hkey).within
  plain := plain
  opens := opens
  free := hinner

theorem IsPath.grammaticalItem {text : Text} {parts : List Part} (h : IsPath text parts) (free : NoShorthand text)
    {part : Part} (hpart : part ∈ parts) :
    GrammaticalItem IsSegmentItem part.guards part.atom.display ⟨[], part.atom⟩ ∧
      Closes part.atom.display part.guards := by
  obtain ⟨guards, chunk, a, rfl, plain, -, within, keys⟩ := IsRegion.stands h List.infix_rfl part hpart
  have item := plain.display
  obtain ⟨-, -, -, -, hatom⟩ := plain
  rw [Part.foldr_guard, List.append_nil]
  obtain ⟨-, -, bracket, closeBracket, -⟩ := id item
  refine ⟨.of_keys free keys item ?_ (hatom.noShorthand (free.of_infix within)), ?_⟩
  · exact fun hopens => bracket (hopens.subset List.mem_cons_self)
  · exact closes_of_balanced (balanced_of_not_mem bracket closeBracket) fun key hkey => (keys key hkey).balanced

theorem IsQuery.grammaticalItem {text : Text} {entries : List Entry} (h : IsQuery text entries)
    (free : NoShorthand text) {entry : Entry} (hentry : entry ∈ entries) :
    GrammaticalItem IsEntryItem entry.part.guards entry.text ⟨entry.name, [], entry.part.atom⟩ := by
  obtain ⟨guards, chunk, a, rfl, plain, opens, within, keys⟩ := IsRegion.stands h List.infix_rfl entry hentry
  have item := plain.display
  have hopens := plain.opens opens
  have hfree := plain.noShorthand (free.of_infix within)
  obtain ⟨-, -, -, -, -, -, -⟩ := plain
  rw [Entry.foldr_guard, List.append_nil]
  exact .of_keys free keys item hopens hfree

end Template

open Template

namespace Endpoint

variable {e : Endpoint} {template : Text}

theorem read_of_parse (h : Endpoint.parse template = .ok e) :
    readPath template (expand .path (splitQuery 0 template).1) = .ok e.path ∧
      readQuery template (expand .query ((splitQuery 0 template).2.getD [])) = .ok e.query ∧
      (e.query.map (·.name)).Nodup := by
  unfold Endpoint.parse at h
  simp only at h
  split at h
  · cases h
  · next path hpath =>
    split at h
    · cases h
    · next query hquery =>
      split at h
      · cases h
      · next hnone =>
        cases h
        exact ⟨hpath, hquery, (firstRepeated?_eq_none_iff.mp hnone).1⟩

/-- **What is read is grammatical**: expansion has left no shorthand in the regions. -/
theorem grammatical_of_parse (h : Endpoint.parse template = .ok e) : e.Grammatical := by
  obtain ⟨hpath, hquery, hnames⟩ := read_of_parse h
  have path := (readPath_eq_ok_iff template).mp hpath
  have query := (readQuery_eq_ok_iff template).mp hquery
  have free := fun region t => noShorthand_expand region t
  exact {
    path := fun part hpart => (path.grammaticalItem (free _ _) hpart).1
    closes := fun part hpart => (path.grammaticalItem (free _ _) hpart).2
    query := fun entry hentry => query.grammaticalItem (free _ _) hentry
    names := hnames }

end Endpoint

end RouteTemplate
