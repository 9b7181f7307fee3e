import RouteTemplate.Endpoint.Display
import RouteTemplate.Proofs.Template.Depth
import RouteTemplate.Proofs.Template.Expansion
import RouteTemplate.Proofs.Template.Reading

/- Written endpoints are templates.

   Each part is written inside blocks of its own, and is an item of the grammar when every block ends at its own
   bracket (`Closes`, `GrammaticalItem.isItem`). Between separators the items are a region, which expansion leaves
   alone, since keys and atoms are free of shorthand. What is left is where the path ends: an endpoint is read
   back from its display when the written path hides its `?` and, before a query, leaves nothing open
   (`Endpoint.parse_display`). All of this holds when no text of the endpoint has brackets or braces
   (`Endpoint.parse_display_of_wellFormed`). -/
namespace RouteTemplate

open Text Shorthand

namespace Template

/-! ## Matching brackets -/

instance (t : Text) : Decidable (Balanced t) :=
  decidable_of_iff ((∀ start ∈ t.inits, start.count ']' ≤ start.count '[') ∧ t.count ']' = t.count '[')
    (by simp only [List.mem_inits, Balanced])

theorem Balanced.append {a b : Text} (ha : Balanced a) (hb : Balanced b) : Balanced (a ++ b) := by
  refine ⟨?_, ?_⟩
  · intro start hstart
    rcases List.prefix_or_prefix_of_prefix hstart (List.prefix_append a b) with h | h
    · exact ha.1 start h
    · obtain ⟨more, rfl⟩ := h
      have hmore := hb.1 more ((List.prefix_append_right_inj a).mp hstart)
      have hcount := ha.2
      rw [List.count_append, List.count_append]
      omega
  · rw [List.count_append, List.count_append, ha.2, hb.2]

theorem Balanced.of_append_right {a b : Text} (h : Balanced (a ++ b)) (hb : Balanced b) : Balanced a := by
  refine ⟨fun start hstart => h.1 start (hstart.trans (List.prefix_append a b)), ?_⟩
  have whole := h.2
  have right := hb.2
  rw [List.count_append, List.count_append] at whole
  omega

theorem balanced_of_not_mem {t : Text} (ho : '[' ∉ t) (hc : ']' ∉ t) : Balanced t := by
  refine ⟨?_, by rw [List.count_eq_zero.mpr ho, List.count_eq_zero.mpr hc]⟩
  intro start hstart
  rw [List.count_eq_zero.mpr fun hm => hc (hstart.subset hm)]
  exact Nat.zero_le _

theorem Balanced.cons {c : Char} {t : Text} (ho : c ≠ '[') (hc : c ≠ ']') (h : Balanced t) : Balanced (c :: t) :=
  balanced_of_not_mem (t := [c]) (by simp [Ne.symm ho]) (by simp [Ne.symm hc]) |>.append h

theorem Balanced.bracketed {t : Text} (h : Balanced t) : Balanced ('[' :: t ++ [']']) := by
  rw [← balancedFrom_zero, List.cons_append, balancedFrom_open]
  refine ⟨?_, ?_⟩
  · intro start hstart
    rcases List.prefix_concat_iff.mp hstart with rfl | hstart
    · have hcount := h.2
      simp
      omega
    · have := h.1 start hstart
      omega
  · have hcount := h.2
    simp
    omega

/-! ## Blocks around an item -/

/-- Every block around the text ends at its own bracket. -/
def Closes (inner : Text) : List Text → Prop
  | [] => True
  | key :: guards => Balanced (key ++ ':' :: inBlocks guards inner) ∧ Closes inner guards

instance decidableCloses (inner : Text) : (guards : List Text) → Decidable (Closes inner guards)
  | [] => isTrue trivial
  | key :: guards => @instDecidableAnd (Balanced (key ++ ':' :: inBlocks guards inner)) _ _ (decidableCloses inner guards)

theorem inBlocks_cons (key : Text) (guards : List Text) (inner : Text) :
    inBlocks (key :: guards) inner = ['[', '?'] ++ key ++ ':' :: inBlocks guards inner ++ [']'] := rfl

theorem balanced_inBlocks {inner : Text} (hinner : Balanced inner) : ∀ {guards : List Text},
    (∀ key ∈ guards, Balanced key) → Balanced (inBlocks guards inner)
  | [], _ => hinner
  | key :: guards, h => by
    have inside := balanced_inBlocks hinner fun k hk => h k (List.mem_cons_of_mem _ hk)
    have body : Balanced ('?' :: (key ++ ':' :: inBlocks guards inner)) :=
      ((h key List.mem_cons_self).append (inside.cons (by decide) (by decide))).cons (by decide) (by decide)
    rw [inBlocks_cons]
    simpa using body.bracketed

/-- Blocks end at their own brackets when the brackets of every key match. -/
theorem closes_of_balanced {inner : Text} (hinner : Balanced inner) : ∀ {guards : List Text},
    (∀ key ∈ guards, Balanced key) → Closes inner guards
  | [], _ => trivial
  | key :: guards, h => by
    have rest : ∀ k ∈ guards, Balanced k := fun k hk => h k (List.mem_cons_of_mem _ hk)
    have inside := (balanced_inBlocks hinner rest).cons (c := ':') (by decide) (by decide)
    exact ⟨(h key List.mem_cons_self).append inside, closes_of_balanced hinner rest⟩

section
variable {α : Type} {sep : Char} {Plain : Text → α → Prop} {guard : Text → α → α}

/-- A plain item and its keys, as the grammar has them and free of shorthand. -/
structure GrammaticalItem (Plain : Text → α → Prop) (guards : List Text) (inner : Text) (a : α) : Prop where
  key_nonempty : ∀ key ∈ guards, key ≠ []
  key_colon : ∀ key ∈ guards, ':' ∉ key
  key_free : ∀ key ∈ guards, NoShorthand key
  plain : Plain inner a
  opens : ¬['[', '?'] <+: inner
  free : NoShorthand inner

variable {guards : List Text} {inner : Text} {a : α}

theorem GrammaticalItem.tail {key : Text} (h : GrammaticalItem Plain (key :: guards) inner a) :
    GrammaticalItem Plain guards inner a where
  key_nonempty k hk := h.key_nonempty k (List.mem_cons_of_mem _ hk)
  key_colon k hk := h.key_colon k (List.mem_cons_of_mem _ hk)
  key_free k hk := h.key_free k (List.mem_cons_of_mem _ hk)
  plain := h.plain
  opens := h.opens
  free := h.free

theorem GrammaticalItem.isItem : ∀ {guards : List Text}, GrammaticalItem Plain guards inner a → Closes inner guards →
    IsItem sep Plain guard (inBlocks guards inner) [guards.foldr guard a]
  | [], h, _ => .plain h.plain h.opens
  | key :: guards, h, hcloses => by
    have item : IsItem sep Plain guard (inBlocks guards inner) [guards.foldr guard a] := h.tail.isItem hcloses.2
    have body : IsRegion sep Plain guard (inBlocks guards inner) [guards.foldr guard a] := by
      simpa using IsRegion.items 0 0 (AreItems.one item)
    exact .block key _ (h.key_nonempty key List.mem_cons_self) (h.key_colon key List.mem_cons_self) hcloses.1 body

theorem GrammaticalItem.noShorthand : ∀ {guards : List Text}, GrammaticalItem Plain guards inner a →
    NoShorthand (inBlocks guards inner)
  | [], h => h.free
  | key :: guards, h => by
    have inside := NoShorthand.append (c := ']') (by decide) h.tail.noShorthand noShorthand_nil
    have keyed := NoShorthand.append (c := ':') (by decide) (h.key_free key List.mem_cons_self) inside
    have opened := NoShorthand.append (c := '[') (by decide) noShorthand_nil (keyed.cons (c := '?') (by decide))
    simpa [inBlocks_cons] using opened

theorem areItems_join : ∀ {items : List α} {text : α → Text}, items ≠ [] →
    (∀ x ∈ items, IsItem sep Plain guard (text x) [x]) → AreItems sep Plain guard (join [sep] (items.map text)) items
  | [x], _, _, h => .one (h x (by simp))
  | x :: next :: more, text, _, h => by
    have rest : AreItems sep Plain guard (join [sep] ((next :: more).map text)) (next :: more) :=
      areItems_join (by simp) fun y hy => h y (List.mem_cons_of_mem _ hy)
    exact .cons 0 (h x (by simp)) rest

/-- Items with a separator between them are a region. -/
theorem isRegion_join {items : List α} {text : α → Text} (h : ∀ x ∈ items, IsItem sep Plain guard (text x) [x]) :
    IsRegion sep Plain guard (join [sep] (items.map text)) items := by
  by_cases hne : items = []
  · rw [hne]
    exact .empty 0 0
  · simpa using IsRegion.items 0 0 (areItems_join hne h)

end

theorem noShorthand_join {sep : Char} (hsep : sep ∈ outside) {texts : List Text} (h : ∀ t ∈ texts, NoShorthand t) :
    NoShorthand (join [sep] texts) := by
  refine join_induction noShorthand_nil (fun ha hb => ?_) h
  simpa using NoShorthand.append hsep ha hb

theorem neutral_join {depth : Nat} {texts : List Text} (h : ∀ t ∈ texts, Neutral depth t) :
    Neutral depth (join ['/'] texts) := by
  have slash : Neutral depth ['/'] := Markless.neutral (by decide) (.inr (by decide))
  exact join_induction neutral_nil (fun ha hb => (ha.append slash).append hb) h

end Template

open Template

theorem Part.foldr_guard (guards : List Text) (p : Part) : guards.foldr Part.guard p = ⟨guards ++ p.guards, p.atom⟩ := by
  induction guards with
  | nil => rfl
  | cons key guards ih => rw [List.foldr_cons, ih]; rfl

theorem Entry.foldr_guard (guards : List Text) (e : Entry) :
    guards.foldr Entry.guard e = ⟨e.name, guards ++ e.part.guards, e.part.atom⟩ := by
  induction guards with
  | nil => rfl
  | cons key guards ih => rw [List.foldr_cons, ih]; rfl

/-- An entry without its blocks, as a template writes it. -/
def Entry.text (e : Entry) : Text := e.name ++ '=' :: e.part.atom.display

namespace Endpoint

variable {e : Endpoint} {template : Text}

/-! ## The display as a template -/

/-- The path as a template writes it. -/
def pathText (e : Endpoint) : Text := join ['/'] (e.path.map (·.display))

/-- The query as a template writes it. -/
def queryText (e : Endpoint) : Text := join ['&'] (e.query.map (·.display))

theorem display_eq (e : Endpoint) :
    e.display = if e.query = [] then e.pathText else e.pathText ++ '?' :: e.queryText := by
  by_cases h : e.query = []
  · simp [display, target, pathText, h]
  · simp [display, target, pathText, queryText, h]

/-- Every part and entry of the endpoint is grammatical, the blocks of the path close, and the names differ. -/
structure Grammatical (e : Endpoint) : Prop where
  path : ∀ part ∈ e.path, GrammaticalItem IsSegmentItem part.guards part.atom.display ⟨[], part.atom⟩
  closes : ∀ part ∈ e.path, Closes part.atom.display part.guards
  query : ∀ entry ∈ e.query, GrammaticalItem IsEntryItem entry.part.guards entry.text ⟨entry.name, [], entry.part.atom⟩
  names : (e.query.map (·.name)).Nodup

/-- The display falls apart where it was put together: its path ends at the `?` before the query, and the blocks of
    the query end at their own brackets. -/
structure Separable (e : Endpoint) : Prop where
  hides : Hides 0 e.pathText
  ends : e.query ≠ [] → depthAfter 0 e.pathText = 0
  closes : ∀ entry ∈ e.query, Closes entry.text entry.part.guards

instance (e : Endpoint) : Decidable e.Separable :=
  decidable_of_iff
    (Hides 0 e.pathText ∧ (e.query ≠ [] → depthAfter 0 e.pathText = 0) ∧
      ∀ entry ∈ e.query, Closes entry.text entry.part.guards)
    ⟨fun ⟨a, b, c⟩ => ⟨a, b, c⟩, fun ⟨a, b, c⟩ => ⟨a, b, c⟩⟩

theorem Grammatical.isPath (h : e.Grammatical) : IsPath e.pathText e.path := by
  apply isRegion_join
  intro part hpart
  have item : IsItem '/' IsSegmentItem Part.guard part.display [part.guards.foldr Part.guard ⟨[], part.atom⟩] :=
    (h.path part hpart).isItem (h.closes part hpart)
  rw [Part.foldr_guard, List.append_nil] at item
  exact item

theorem Grammatical.isQuery (h : e.Grammatical) (hcloses : ∀ entry ∈ e.query, Closes entry.text entry.part.guards) :
    IsQuery e.queryText e.query := by
  apply isRegion_join
  intro entry hentry
  have item : IsItem '&' IsEntryItem Entry.guard entry.display
      [entry.part.guards.foldr Entry.guard ⟨entry.name, [], entry.part.atom⟩] :=
    (h.query entry hentry).isItem (hcloses entry hentry)
  rw [Entry.foldr_guard, List.append_nil] at item
  exact item

theorem Grammatical.noShorthand_path (h : e.Grammatical) : NoShorthand e.pathText := by
  apply noShorthand_join (by decide)
  intro t ht
  obtain ⟨part, hpart, rfl⟩ := List.mem_map.mp ht
  exact (h.path part hpart).noShorthand

theorem Grammatical.noShorthand_query (h : e.Grammatical) : NoShorthand e.queryText := by
  apply noShorthand_join (by decide)
  intro t ht
  obtain ⟨entry, hentry, rfl⟩ := List.mem_map.mp ht
  exact (h.query entry hentry).noShorthand

theorem parse_of_read {path : Text} {query : Option Text} (hsplit : splitQuery 0 template = (path, query))
    (hpath : readPath template (expand .path path) = .ok e.path)
    (hquery : readQuery template (expand .query (query.getD [])) = .ok e.query)
    (hnames : (e.query.map (·.name)).Nodup) : Endpoint.parse template = .ok e := by
  have hnone : firstRepeated? [] (e.query.map (·.name)) = none :=
    firstRepeated?_eq_none_iff.mpr ⟨hnames, fun _ _ => List.not_mem_nil⟩
  simp only [Endpoint.parse, hsplit, hpath, hquery, hnone]

/-- A grammatical and separable endpoint is read back from its display. -/
theorem parse_display (h : e.Grammatical) (hs : e.Separable) : Endpoint.parse e.display = .ok e := by
  have path : readPath e.display (expand .path e.pathText) = .ok e.path := by
    rw [expand_of_noShorthand _ h.noShorthand_path]
    exact (readPath_eq_ok_iff _).mpr h.isPath
  by_cases hnil : e.query = []
  · have split : splitQuery 0 e.display = (e.pathText, none) := by
      rw [display_eq, if_pos hnil]
      exact splitQuery_eq_iff.mpr ⟨rfl, hs.hides⟩
    exact parse_of_read split path ((readQuery_getD_eq_ok_iff _).mpr hnil) h.names
  · have split : splitQuery 0 e.display = (e.pathText, some e.queryText) := by
      rw [display_eq, if_neg hnil]
      exact splitQuery_eq_iff.mpr ⟨rfl, hs.hides, hs.ends hnil⟩
    have query : IsQuery (expand .query e.queryText) e.query := by
      rw [expand_of_noShorthand _ h.noShorthand_query]
      exact h.isQuery hs.closes
    exact parse_of_read split path ((readQuery_getD_eq_ok_iff _).mpr query) h.names

end Endpoint

/-! ## Endpoints without brackets and braces -/

theorem Template.IsParameterName.not_mem {name : Text} (h : IsParameterName name) {c : Char}
    (hc : c ∈ closedToNames) : c ∉ name :=
  fun hm => h.2 c hm hc

theorem Template.IsParameterName.markless {name : Text} (h : IsParameterName name) : Markless name :=
  ⟨h.not_mem (by decide), h.not_mem (by decide), h.not_mem (by decide), h.not_mem (by decide)⟩

theorem Template.Markless.noShorthand {t : Text} (h : Markless t) : NoShorthand t :=
  noShorthand_of_not_infix fun hm => h.brace (hm.subset List.mem_cons_self)

theorem Template.IsParameterName.noShorthand {name : Text} (h : IsParameterName name) :
    NoShorthand ('{' :: name ++ ['}']) := by
  have brace : '{' ∉ name ++ ['}'] := by simp [h.markless.brace]
  apply noShorthand_of_not_infix
  intro hm
  rcases List.infix_cons_iff.mp hm with hm | hm
  · exact brace ((List.cons_prefix_cons.mp hm).2.subset List.mem_cons_self)
  · exact brace (hm.subset List.mem_cons_self)

theorem Template.Markless.isAtom {text : Text} (h : Markless text) (hword : text ∉ reservedWords) :
    IsAtom text (.literal text) := by
  refine .literal (fun name heq => ?_) hword
  subst heq
  exact absurd List.mem_cons_self h.brace

/-- A key without brackets and braces. -/
def Template.IsPlainKey (key : Text) : Prop := key ≠ [] ∧ ':' ∉ key ∧ Markless key

theorem Template.GrammaticalItem.of_markless {α : Type} {Plain : Text → α → Prop} {guards : List Text} {inner : Text}
    {a : α} (hkeys : ∀ key ∈ guards, IsPlainKey key) (hplain : Plain inner a) (hbracket : '[' ∉ inner)
    (hfree : NoShorthand inner) : GrammaticalItem Plain guards inner a where
  key_nonempty key hkey := (hkeys key hkey).1
  key_colon key hkey := (hkeys key hkey).2.1
  key_free key hkey := (hkeys key hkey).2.2.noShorthand
  plain := hplain
  opens hopens := hbracket (hopens.subset List.mem_cons_self)
  free := hfree

theorem Template.closes_of_markless {guards : List Text} {inner : Text} (hkeys : ∀ key ∈ guards, IsPlainKey key)
    (hinner : '[' ∉ inner ∧ ']' ∉ inner) : Closes inner guards :=
  closes_of_balanced (balanced_of_not_mem hinner.1 hinner.2) fun key hkey =>
    balanced_of_not_mem (hkeys key hkey).2.2.bracket (hkeys key hkey).2.2.closeBracket

theorem Template.neutral_inBlocks {inner : Text} (hinner : ∀ depth, Neutral depth inner) : ∀ {guards : List Text},
    (∀ key ∈ guards, IsPlainKey key) → ∀ depth, Neutral depth (inBlocks guards inner)
  | [], _, depth => hinner depth
  | key :: guards, hkeys, depth => by
    obtain ⟨-, -, markless⟩ := hkeys key List.mem_cons_self
    have inside := neutral_inBlocks hinner (fun k hk => hkeys k (List.mem_cons_of_mem _ hk)) (depth + 1)
    have mark : Neutral (depth + 1) ['?'] := Markless.neutral (by decide) (.inl (Nat.succ_ne_zero depth))
    have colon : Neutral (depth + 1) [':'] := Markless.neutral (by decide) (.inr (by decide))
    have keyed := markless.neutral (.inl (Nat.succ_ne_zero depth))
    have body := mark.append (keyed.append (colon.append inside))
    have block : Neutral depth ('[' :: (['?'] ++ (key ++ ([':'] ++ inBlocks guards inner))) ++ [']']) :=
      body.enclosed (.inr rfl) (.inr rfl)
    simpa [inBlocks_cons] using block

namespace Atom

/-- A parameter with a proper name, or literal text that can stand between the slashes of a path. -/
def StandsInPath : Atom → Prop
  | .literal text => text ≠ [] ∧ '/' ∉ text ∧ '?' ∉ text ∧ Markless text ∧ text ∉ reservedWords
  | .param name => IsParameterName name

/-- A parameter with a proper name, or literal text that can stand after the `=` of an entry. -/
def StandsInQuery : Atom → Prop
  | .literal text => '&' ∉ text ∧ Markless text ∧ text ∉ reservedWords
  | .param name => IsParameterName name

instance (name : Text) : Decidable (IsParameterName name) :=
  decidable_of_iff (name ≠ [] ∧ name.all (!closedToNames.contains ·) = true) (by simp [IsParameterName])

instance : (atom : Atom) → Decidable atom.StandsInPath
  | .literal _ => inferInstanceAs (Decidable (_ ∧ _))
  | .param name => inferInstanceAs (Decidable (IsParameterName name))

instance : (atom : Atom) → Decidable atom.StandsInQuery
  | .literal _ => inferInstanceAs (Decidable (_ ∧ _))
  | .param name => inferInstanceAs (Decidable (IsParameterName name))

theorem brackets_param {name : Text} (h : IsParameterName name) :
    '[' ∉ (Atom.param name).display ∧ ']' ∉ (Atom.param name).display := by
  simp [display, h.markless.bracket, h.markless.closeBracket]

variable {atom : Atom}

theorem StandsInPath.brackets (h : atom.StandsInPath) : '[' ∉ atom.display ∧ ']' ∉ atom.display := by
  cases atom with
  | literal text => exact ⟨h.2.2.2.1.bracket, h.2.2.2.1.closeBracket⟩
  | param name => exact brackets_param h

theorem StandsInQuery.brackets (h : atom.StandsInQuery) : '[' ∉ atom.display ∧ ']' ∉ atom.display := by
  cases atom with
  | literal text => exact ⟨h.2.1.bracket, h.2.1.closeBracket⟩
  | param name => exact brackets_param h

theorem StandsInPath.isSegmentItem (h : atom.StandsInPath) : IsSegmentItem atom.display ⟨[], atom⟩ := by
  obtain ⟨bracket, closeBracket⟩ := h.brackets
  cases atom with
  | literal text =>
    obtain ⟨hne, slash, -, markless, hword⟩ := h
    exact ⟨hne, slash, bracket, closeBracket, markless.isAtom hword⟩
  | param name =>
    have hname : IsParameterName name := h
    have slash : '/' ∉ name := hname.not_mem (by decide)
    exact ⟨by simp [display], by simp [display, slash], bracket, closeBracket, .braced hname⟩

theorem StandsInPath.noShorthand (h : atom.StandsInPath) : NoShorthand atom.display := by
  cases atom with
  | literal text => exact h.2.2.2.1.noShorthand
  | param name => exact IsParameterName.noShorthand h

theorem StandsInPath.neutral (h : atom.StandsInPath) (depth : Nat) : Neutral depth atom.display := by
  cases atom with
  | literal text => exact h.2.2.2.1.neutral (.inr h.2.2.1)
  | param name =>
    have hname : IsParameterName name := h
    exact (hname.markless.neutral (.inl (Nat.succ_ne_zero depth))).enclosed (.inl rfl) (.inl rfl)

theorem StandsInQuery.isEntryItem (h : atom.StandsInQuery) {name : Text} (hne : name ≠ []) (equals : '=' ∉ name)
    (ampersand : '&' ∉ name) : IsEntryItem (name ++ '=' :: atom.display) ⟨name, [], atom⟩ := by
  obtain ⟨bracket, closeBracket⟩ := h.brackets
  cases atom with
  | literal text =>
    obtain ⟨amp, markless, hword⟩ := h
    exact ⟨hne, equals, ampersand, amp, bracket, closeBracket, markless.isAtom hword⟩
  | param other =>
    have hother : IsParameterName other := h
    have amp : '&' ∉ other := hother.not_mem (by decide)
    exact ⟨hne, equals, ampersand, by simp [display, amp], bracket, closeBracket, .braced hother⟩

theorem StandsInQuery.noShorthand (h : atom.StandsInQuery) : NoShorthand atom.display := by
  cases atom with
  | literal text => exact h.2.1.noShorthand
  | param name => exact IsParameterName.noShorthand h

end Atom

namespace Endpoint

variable {e : Endpoint}

/-- Literal texts, keys and query names without brackets and braces, each of a kind that a template can hold where
    it stands, and no query name twice. -/
structure WellFormed (e : Endpoint) : Prop where
  path : ∀ part ∈ e.path, part.atom.StandsInPath
  query : ∀ entry ∈ e.query, entry.part.atom.StandsInQuery
  keys : ∀ part ∈ e.parts, ∀ key ∈ part.guards, IsPlainKey key
  entries : ∀ entry ∈ e.query, entry.name ≠ [] ∧ '=' ∉ entry.name ∧ '&' ∉ entry.name ∧ Markless entry.name
  names : (e.query.map (·.name)).Nodup

instance (key : Text) : Decidable (IsPlainKey key) := inferInstanceAs (Decidable (_ ∧ _))

instance (e : Endpoint) : Decidable e.WellFormed :=
  decidable_of_iff
    ((∀ part ∈ e.path, part.atom.StandsInPath) ∧ (∀ entry ∈ e.query, entry.part.atom.StandsInQuery) ∧
      (∀ part ∈ e.parts, ∀ key ∈ part.guards, IsPlainKey key) ∧
      (∀ entry ∈ e.query, entry.name ≠ [] ∧ '=' ∉ entry.name ∧ '&' ∉ entry.name ∧ Markless entry.name) ∧
      (e.query.map (·.name)).Nodup)
    ⟨fun ⟨a, b, c, d, f⟩ => ⟨a, b, c, d, f⟩, fun ⟨a, b, c, d, f⟩ => ⟨a, b, c, d, f⟩⟩

theorem WellFormed.keys_of_path (h : e.WellFormed) {part : Part} (hpart : part ∈ e.path) :
    ∀ key ∈ part.guards, IsPlainKey key :=
  h.keys part (List.mem_append_left _ hpart)

theorem WellFormed.keys_of_query (h : e.WellFormed) {entry : Entry} (hentry : entry ∈ e.query) :
    ∀ key ∈ entry.part.guards, IsPlainKey key :=
  h.keys entry.part (List.mem_append_right _ (List.mem_map_of_mem hentry))

theorem WellFormed.entry_brackets (h : e.WellFormed) {entry : Entry} (hentry : entry ∈ e.query) :
    '[' ∉ entry.text ∧ ']' ∉ entry.text := by
  have name := (h.entries entry hentry).2.2.2
  have atom := (h.query entry hentry).brackets
  simp [Entry.text, name.bracket, name.closeBracket, atom]

theorem WellFormed.grammatical (h : e.WellFormed) : e.Grammatical where
  path part hpart := by
    have atom := h.path part hpart
    exact .of_markless (h.keys_of_path hpart) atom.isSegmentItem atom.brackets.1 atom.noShorthand
  closes part hpart := closes_of_markless (h.keys_of_path hpart) (h.path part hpart).brackets
  query entry hentry := by
    obtain ⟨hne, equals, ampersand, name⟩ := h.entries entry hentry
    have atom := h.query entry hentry
    have free : NoShorthand entry.text := name.noShorthand.append (by decide) atom.noShorthand
    exact .of_markless (h.keys_of_query hentry) (atom.isEntryItem hne equals ampersand) (h.entry_brackets hentry).1 free
  names := h.names

/-- Every block of the path closes what it opens, and there is no `?` outside of blocks. -/
theorem WellFormed.neutral (h : e.WellFormed) : Neutral 0 e.pathText := by
  apply neutral_join
  intro t ht
  obtain ⟨part, hpart, rfl⟩ := List.mem_map.mp ht
  exact neutral_inBlocks (h.path part hpart).neutral (h.keys_of_path hpart) 0

theorem WellFormed.separable (h : e.WellFormed) : e.Separable where
  hides := h.neutral.hides
  ends _ := h.neutral.leaves
  closes _ hentry := closes_of_markless (h.keys_of_query hentry) (h.entry_brackets hentry)

/-- **Every well-formed endpoint is the reading of its own display.** Reading gives the very same parts, and the very
    same entries in the same order, however deep its blocks are nested. -/
theorem parse_display_of_wellFormed (h : e.WellFormed) : Endpoint.parse e.display = .ok e :=
  parse_display h.grammatical h.separable

/-- Keys with separators and marks in them, blocks in blocks, and a value that is empty. -/
def report : Endpoint where
  path := [⟨[], .literal "v=1:a".toList⟩, ⟨["by/day?".toList, "a&b=c".toList], .param "day".toList⟩,
    ⟨["by/day?".toList], .literal "full".toList⟩]
  query := [⟨"day/of?".toList, [], .param "day".toList⟩, ⟨"q".toList, ["a&b=c".toList, "?".toList], .literal []⟩]

theorem parse_display_report :
    report.WellFormed ∧
      report.display = "v=1:a/[?by/day?:[?a&b=c:\x7bday\x7d]]/[?by/day?:full]?day/of?=\x7bday\x7d&[?a&b=c:[??:q=]]".toList ∧
      Endpoint.parse report.display = .ok report :=
  have wellFormed : report.WellFormed := by decide
  ⟨wellFormed, by decide, parse_display_of_wellFormed wellFormed⟩

end Endpoint

end RouteTemplate
