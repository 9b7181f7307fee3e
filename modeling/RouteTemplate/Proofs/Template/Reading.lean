import RouteTemplate.Proofs.Cutting
import RouteTemplate.Proofs.Template.Grammar

/- Templates are read by their grammar.

   Each piece of the reader accepts what the grammar derives and nothing else: the bracket that closes a block
   (`closeBracket_eq_some_iff`), the block (`readBlock_eq_ok_iff`), the atom, the plain items. A region is read
   one item at a time (`readRegion_sep`, `readRegion_block`, `readRegion_plain`). From these, whatever is read is
   derived, along the reader's own recursion (`isRegion_of_readRegion`), and whatever is derived is read, along
   the derivation and with any text that may follow an item after it (`readRegion_of_isItem`). -/
namespace RouteTemplate

open Text

namespace Template

/-! ## Blocks -/

section
variable {depth : Nat} {c : Char} {rest : Text}

theorem balancedFrom_cons {t : Text} : BalancedFrom depth (c :: t) ↔
    (∀ start, start <+: t → (c :: start).count ']' ≤ depth + (c :: start).count '[') ∧
      (c :: t).count ']' = depth + (c :: t).count '[' := by
  apply and_congr_left
  intro _
  refine ⟨?_, ?_⟩
  · exact fun h start hs => h (c :: start) (by simpa using hs)
  · intro h start hs
    rcases List.prefix_cons_iff.mp hs with rfl | ⟨more, rfl, hmore⟩
    · simp
    · exact h more hmore

theorem balancedFrom_open : BalancedFrom depth ('[' :: rest) ↔ BalancedFrom (depth + 1) rest := by
  rw [balancedFrom_cons]
  simp [BalancedFrom, Nat.add_assoc, Nat.add_comm 1]

theorem balancedFrom_close : BalancedFrom (depth + 1) (']' :: rest) ↔ BalancedFrom depth rest := by
  rw [balancedFrom_cons]
  simp [BalancedFrom, Nat.add_right_comm]

theorem not_balancedFrom_close : ¬BalancedFrom 0 (']' :: rest) := by
  rw [balancedFrom_cons]
  intro h
  have := h.1 [] List.nil_prefix
  simp at this

theorem balancedFrom_other (ho : c ≠ '[') (hc : c ≠ ']') :
    BalancedFrom depth (c :: rest) ↔ BalancedFrom depth rest := by
  rw [balancedFrom_cons]
  simp [BalancedFrom, ho, hc]

/-- One character further, unless that character is the bracket sought. -/
theorem closeBracket_step {found : Option (Text × Text)} {depth' : Nat} {inner after : Text}
    (ih : ∀ {inner}, found = some (inner, after) ↔ rest = inner ++ ']' :: after ∧ BalancedFrom depth' inner)
    (shift : ∀ {t}, BalancedFrom depth (c :: t) ↔ BalancedFrom depth' t) (skip : c = ']' → depth ≠ 0) :
    found.map (fun (inner, after) => (c :: inner, after)) = some (inner, after) ↔
      c :: rest = inner ++ ']' :: after ∧ BalancedFrom depth inner := by
  rw [Option.map_eq_some_iff]
  refine ⟨?_, ?_⟩
  · intro h
    obtain ⟨⟨x, y⟩, hfound, heq⟩ := h
    cases heq
    obtain ⟨rfl, balanced⟩ := ih.mp hfound
    exact ⟨rfl, shift.mpr balanced⟩
  · intro h
    obtain ⟨heq, balanced⟩ := h
    cases inner with
    | nil => exact absurd (balancedFrom_nil.mp balanced) (skip (List.cons.inj heq).1)
    | cons d inner =>
      obtain ⟨rfl, hrest⟩ := List.cons.inj heq
      exact ⟨(inner, after), ih.mpr ⟨hrest, shift.mp balanced⟩, rfl⟩

end

/-- A block ends at the first bracket that its own brackets leave to be closed. -/
theorem closeBracket_eq_some_iff {depth : Nat} {t inner after : Text} :
    closeBracket depth t = some (inner, after) ↔ t = inner ++ ']' :: after ∧ BalancedFrom depth inner := by
  fun_induction closeBracket depth t generalizing inner with
  | case1 => simp
  | case2 depth rest ih => exact closeBracket_step ih balancedFrom_open (by simp)
  | case3 rest =>
    refine ⟨?_, ?_⟩
    · intro h
      cases h
      exact ⟨rfl, balancedFrom_nil.mpr rfl⟩
    · intro h
      obtain ⟨heq, balanced⟩ := h
      cases inner with
      | nil => rw [(List.cons.inj heq).2]
      | cons d inner =>
        rw [← (List.cons.inj heq).1] at balanced
        exact absurd balanced not_balancedFrom_close
  | case4 depth rest ih => exact closeBracket_step ih balancedFrom_close (by simp)
  | case5 depth c rest ho hc hc' ih =>
    -- The earlier cases leave no closing bracket, at depth zero and at any other.
    have closing : c ≠ ']' := by
      intro heq
      subst heq
      cases depth with
      | zero => exact hc rfl rfl
      | succ depth => exact hc' depth rfl rfl
    exact closeBracket_step ih (balancedFrom_other ho closing) fun h => absurd h closing

theorem readBlock_eq_ok_iff {template opened : Text} {sep : Char} {b : Block} :
    readBlock template sep opened = .ok b ↔ opened = b.key ++ ':' :: b.body ++ ']' :: b.after ∧ b.key ≠ [] ∧
      ':' ∉ b.key ∧ Balanced (b.key ++ ':' :: b.body) ∧ endsItem sep b.after = true := by
  refine ⟨?_, ?_⟩
  · intro h
    unfold readBlock at h
    split at h
    · cases h
    · next inner after hclose =>
      obtain ⟨rfl, balanced⟩ := closeBracket_eq_some_iff.mp hclose
      split at h
      · cases h
      · next key body hsplit =>
        obtain ⟨rfl, hkey⟩ := splitOnce_eq_some_iff.mp hsplit
        split at h
        · cases h
        · next hends =>
          cases h
          simp only [Bool.or_eq_true, Bool.not_eq_true', not_or, List.isEmpty_iff, Bool.not_eq_false] at hends
          exact ⟨rfl, hends.1, hkey, balancedFrom_zero.mp balanced, hends.2⟩
  · intro h
    obtain ⟨rfl, hne, hkey, balanced, hends⟩ := h
    have close : closeBracket 0 (b.key ++ ':' :: b.body ++ ']' :: b.after) =
        some (b.key ++ ':' :: b.body, b.after) :=
      closeBracket_eq_some_iff.mpr ⟨rfl, balancedFrom_zero.mpr balanced⟩
    rw [readBlock, close]
    simp [splitOnce_append hkey, hne, hends]

/-! ## Plain items -/

theorem bracedName?_eq_some_iff {chunk name : Text} :
    bracedName? chunk = some name ↔ chunk = '{' :: name ++ ['}'] ∧ IsParameterName name := by
  refine ⟨?_, ?_⟩
  · intro h
    unfold bracedName? at h
    split at h
    · next rest =>
      split at h
      · next hname =>
        cases h
        obtain ⟨hlast, hne, hall⟩ := hname
        obtain ⟨ys, rfl⟩ := List.getLast?_eq_some_iff.mp hlast
        simp only [List.dropLast_concat] at hne hall ⊢
        exact ⟨rfl, hne, by simpa using hall⟩
      · cases h
    · cases h
  · intro h
    obtain ⟨rfl, hne, hall⟩ := h
    simp [bracedName?, hne]
    exact hall

theorem bracedName?_of_reserved : ∀ word ∈ reservedWords, bracedName? word = none := by decide

theorem ofChunk_eq_iff {chunk : Text} {atom : Atom} : Atom.ofChunk chunk = atom ↔ IsAtom chunk atom := by
  refine ⟨?_, ?_⟩
  · intro heq
    subst heq
    unfold Atom.ofChunk
    split
    · next name hname =>
      obtain ⟨rfl, valid⟩ := bracedName?_eq_some_iff.mp hname
      exact .braced valid
    · next hnone =>
      split
      · next hword => exact .reserved (by simpa using hword)
      · next hword =>
        refine .literal (fun name heq valid => ?_) (by simpa using hword)
        rw [bracedName?_eq_some_iff.mpr ⟨heq, valid⟩] at hnone
        cases hnone
  · intro h
    cases h with
    | braced valid => rw [Atom.ofChunk, bracedName?_eq_some_iff.mpr ⟨rfl, valid⟩]
    | reserved hword => simp [Atom.ofChunk, bracedName?_of_reserved _ hword, hword]
    | literal unbraced hword =>
      have hnone : bracedName? chunk = none := by
        apply Option.eq_none_iff_forall_ne_some.mpr
        intro name hname
        obtain ⟨heq, valid⟩ := bracedName?_eq_some_iff.mp hname
        exact unbraced name heq valid
      simp [Atom.ofChunk, hnone, hword]

theorem mem_of_opensBlock : ∀ {t : Text}, opensBlock t = true → '[' ∈ t
  | [], h => by cases h
  | c :: rest, h => by
    unfold opensBlock at h
    split at h
    · next heq => simp [heq]
    · next heq =>
      cases heq
      exact List.mem_cons_of_mem _ (mem_of_opensBlock h)
    · next heq => cases heq

theorem readAtom_eq_ok_iff {template chunk : Text} {atom : Atom} :
    readAtom template chunk = .ok atom ↔ '[' ∉ chunk ∧ ']' ∉ chunk ∧ IsAtom chunk atom := by
  unfold readAtom
  split
  · next hopens => simp [mem_of_opensBlock hopens]
  · split
    · next hbracket =>
      rcases hbracket with h | h <;> simp [h]
    · next hbracket =>
      rw [not_or] at hbracket
      simp [hbracket, ofChunk_eq_iff]

theorem except_map_eq_ok_iff {ε α β : Type} {f : α → β} {x : Except ε α} {b : β} :
    x.map f = .ok b ↔ ∃ a, x = .ok a ∧ f a = b := by
  cases x <;> simp [Except.map]

theorem readSegment_eq_ok_iff {template chunk : Text} {part : Part} (hne : chunk ≠ []) (hsep : '/' ∉ chunk) :
    readSegment template chunk = .ok part ↔ IsSegmentItem chunk part := by
  simp only [readSegment, except_map_eq_ok_iff, readAtom_eq_ok_iff]
  refine ⟨?_, ?_⟩
  · intro h
    obtain ⟨atom, ⟨ho, hc, hatom⟩, rfl⟩ := h
    exact ⟨hne, hsep, ho, hc, hatom⟩
  · intro h
    obtain ⟨-, -, ho, hc, hatom⟩ := h
    exact ⟨_, ⟨ho, hc, hatom⟩, rfl⟩

theorem readEntry_eq_ok_iff {template text : Text} {entry : Entry} (hsep : '&' ∉ text) :
    readEntry template text = .ok entry ↔ IsEntryItem text entry := by
  refine ⟨?_, ?_⟩
  · intro h
    unfold readEntry at h
    split at h
    · cases h
    · next name value hsplit =>
      obtain ⟨rfl, hname⟩ := splitOnce_eq_some_iff.mp hsplit
      split at h
      · cases h
      · next hne =>
        obtain ⟨atom, hatom, rfl⟩ := except_map_eq_ok_iff.mp h
        obtain ⟨ho, hc, hatom⟩ := readAtom_eq_ok_iff.mp hatom
        simp only [List.mem_append, List.mem_cons, not_or] at hsep
        exact ⟨by simpa using hne, hname, hsep.1, hsep.2.2, ho, hc, hatom⟩
  · intro h
    obtain ⟨hne, hname, -, -, ho, hc, hatom⟩ := h
    rw [readEntry, splitOnce_append hname]
    simp only [List.isEmpty_iff, hne, if_false]
    exact except_map_eq_ok_iff.mpr ⟨_, readAtom_eq_ok_iff.mpr ⟨ho, hc, hatom⟩, rfl⟩

/-! ## Regions -/

section
variable {α : Type} {template : Text} {sep : Char} {Plain : Text → α → Prop}
variable {plain : Text → Except EndpointError α} {guard : Text → α → α}

theorem readRegion_nil : readRegion template sep plain guard [] = .ok [] := by
  rw [readRegion]

theorem readRegion_sep (hsep : sep ≠ '[') (rest : Text) :
    readRegion template sep plain guard (sep :: rest) = readRegion template sep plain guard rest := by
  rw [readRegion, if_pos rfl]
  exact fun _ heq _ => hsep heq

theorem readRegion_replicate (hsep : sep ≠ '[') (rest : Text) : ∀ n : Nat,
    readRegion template sep plain guard (List.replicate n sep ++ rest) = readRegion template sep plain guard rest
  | 0 => rfl
  | n + 1 => by
    rw [List.replicate_succ, List.cons_append, readRegion_sep hsep]
    exact readRegion_replicate hsep rest n

theorem readRegion_separators (hsep : sep ≠ '[') (n : Nat) :
    readRegion template sep plain guard (List.replicate n sep) = .ok [] := by
  rw [← List.append_nil (List.replicate n sep), readRegion_replicate hsep, readRegion_nil]

theorem endsItem_replicate : ∀ n : Nat, endsItem sep (List.replicate n sep) = true
  | 0 => rfl
  | n + 1 => by simp [List.replicate_succ, endsItem]

theorem readRegion_opened (opened : Text) : readRegion template sep plain guard ('[' :: '?' :: opened) =
    match readBlock template sep opened with
    | .error fault => .error fault
    | .ok block =>
      match readRegion template sep plain guard block.body with
      | .error fault => .error fault
      | .ok inner =>
        match readRegion template sep plain guard block.after with
        | .error fault => .error fault
        | .ok more => .ok (inner.map (guard block.key) ++ more) := by
  cases hblock : readBlock template sep opened with
  | error fault =>
    rw [readRegion]
    split
    · next found =>
      cases hblock.symm.trans found
      rfl
    · next found => cases hblock.symm.trans found
  | ok block =>
    rw [readRegion]
    split
    · next found => cases hblock.symm.trans found
    · next found =>
      cases hblock.symm.trans found
      rfl

theorem readRegion_item {c : Char} {rest : Text} (hopens : ∀ opened, c = '[' → rest = '?' :: opened → False)
    (hc : c ≠ sep) : readRegion template sep plain guard (c :: rest) =
      match plain (c :: before sep rest) with
      | .error fault => .error fault
      | .ok a =>
        match readRegion template sep plain guard (rest.dropWhile (· ≠ sep)) with
        | .error fault => .error fault
        | .ok more => .ok (a :: more) := by
  rw [readRegion]
  · exact if_neg hc
  · exact hopens

theorem readRegion_block {opened : Text} {b : Block} {inner more : List α}
    (hblock : readBlock template sep opened = .ok b)
    (hbody : readRegion template sep plain guard b.body = .ok inner)
    (hafter : readRegion template sep plain guard b.after = .ok more) :
    readRegion template sep plain guard ('[' :: '?' :: opened) = .ok (inner.map (guard b.key) ++ more) := by
  simp only [readRegion_opened, hblock, hbody, hafter]

theorem exists_of_readRegion_block {opened : Text} {items : List α}
    (h : readRegion template sep plain guard ('[' :: '?' :: opened) = .ok items) :
    ∃ b inner more, readBlock template sep opened = .ok b ∧ readRegion template sep plain guard b.body = .ok inner ∧
      readRegion template sep plain guard b.after = .ok more ∧ items = inner.map (guard b.key) ++ more := by
  rw [readRegion_opened] at h
  split at h
  · cases h
  · next b hblock =>
    split at h
    · cases h
    · next inner hbody =>
      split at h
      · cases h
      · next more hafter =>
        cases h
        exact ⟨b, inner, more, hblock, hbody, hafter, rfl⟩

theorem endsItem_dropWhile {t : Text} : endsItem sep (t.dropWhile (· ≠ sep)) = true := by
  cases hd : t.dropWhile (· ≠ sep) with
  | nil => rfl
  | cons c rest =>
    have stop := List.head?_dropWhile_not (· ≠ sep) t
    rw [hd] at stop
    simpa [endsItem] using stop

/-- What is read up to the separator, and what is left. -/
theorem span_append {text after : Text} (hsep : sep ∉ text) (ends : endsItem sep after = true) :
    before sep (text ++ after) = text ∧ (text ++ after).dropWhile (· ≠ sep) = after := by
  have all : ∀ c ∈ text, decide (c ≠ sep) = true := fun c hc => decide_eq_true fun heq => hsep (heq ▸ hc)
  rw [before, List.takeWhile_append_of_pos all, List.dropWhile_append_of_pos all]
  cases after with
  | nil => simp
  | cons c rest =>
    have hc : c = sep := eq_of_beq ends
    simp [hc]

/-- An item is what stands before the separator that follows it, or before the end. -/
theorem readRegion_append {text after : Text} (hmark : sep ≠ '?') (hne : text ≠ []) (hsep : sep ∉ text)
    (hblock : ¬['[', '?'] <+: text) (ends : endsItem sep after = true) :
    readRegion template sep plain guard (text ++ after) =
      match plain text with
      | .error fault => .error fault
      | .ok a =>
        match readRegion template sep plain guard after with
        | .error fault => .error fault
        | .ok more => .ok (a :: more) := by
  obtain ⟨c, tail, rfl⟩ := List.exists_cons_of_ne_nil hne
  rw [List.mem_cons, not_or] at hsep
  obtain ⟨hc, htail⟩ := hsep
  obtain ⟨hbefore, hrest⟩ := span_append htail ends
  have hopens : ∀ opened, c = '[' → tail ++ after = '?' :: opened → False := by
    -- A mark after the bracket would stand in the item, or begin what follows it.
    intro opened hc heq
    subst hc
    cases tail with
    | nil =>
      rw [List.nil_append] at heq
      rw [heq] at ends
      exact hmark (eq_of_beq ends).symm
    | cons d tail =>
      rw [(List.cons.inj heq).1] at hblock
      exact hblock ⟨tail, rfl⟩
  rw [List.cons_append, readRegion_item hopens (Ne.symm hc), hbefore, hrest]

theorem readRegion_plain {text after : Text} {a : α} {more : List α} (hmark : sep ≠ '?') (hne : text ≠ [])
    (hsep : sep ∉ text) (hblock : ¬['[', '?'] <+: text) (ends : endsItem sep after = true)
    (hplain : plain text = .ok a) (hafter : readRegion template sep plain guard after = .ok more) :
    readRegion template sep plain guard (text ++ after) = .ok (a :: more) := by
  rw [readRegion_append hmark hne hsep hblock ends, hplain, hafter]

theorem exists_of_readRegion_plain {text after : Text} {items : List α} (hmark : sep ≠ '?') (hne : text ≠ [])
    (hsep : sep ∉ text) (hblock : ¬['[', '?'] <+: text) (ends : endsItem sep after = true)
    (h : readRegion template sep plain guard (text ++ after) = .ok items) :
    ∃ a more, plain text = .ok a ∧ readRegion template sep plain guard after = .ok more ∧ items = a :: more := by
  rw [readRegion_append hmark hne hsep hblock ends] at h
  split at h
  · cases h
  · next a hplain =>
    split at h
    · cases h
    · next more hafter =>
      cases h
      exact ⟨a, more, hplain, hafter, rfl⟩

/-- Among texts that stand between separators, the reader accepts the plain items of the grammar. -/
def ReadsPlain (sep : Char) (plain : Text → Except EndpointError α) (Plain : Text → α → Prop) : Prop :=
  ∀ {text a}, text ≠ [] → sep ∉ text → (plain text = .ok a ↔ Plain text a)

theorem isRegion_of_readRegion (hs : Separates sep Plain) (hp : ReadsPlain sep plain Plain) {text : Text}
    {items : List α} (h : readRegion template sep plain guard text = .ok items) :
    IsRegion sep Plain guard text items := by
  fun_induction readRegion template sep plain guard text generalizing items with
  | case1 =>
    cases h
    exact .empty 0 0
  | case5 opened b hblock _ inner hbody more hafter body after =>
    -- A block: its body and what follows it are shorter, and derived.
    cases h
    obtain ⟨rfl, hne, hkey, balanced, ends⟩ := readBlock_eq_ok_iff.mp hblock
    have item := IsItem.block b.key b.body hne hkey balanced (body hbody)
    simpa using IsRegion.cons_item hs item (after hafter) ends
  | case6 rest _ ih => exact (ih h).cons_sep
  | case9 c rest hopens hc a hplain _ more hmore after =>
    -- A plain item: it is the text up to the separator, and what is left starts with one.
    cases h
    have whole : c :: rest = c :: before sep rest ++ rest.dropWhile (· ≠ sep) := by
      rw [before, List.cons_append, List.takeWhile_append_dropWhile]
    have hsep : sep ∉ c :: before sep rest := by
      rw [List.mem_cons, not_or]
      exact ⟨Ne.symm hc, not_mem_before⟩
    have hblock : ¬['[', '?'] <+: c :: before sep rest := by
      intro h
      obtain ⟨opened, heq⟩ := h
      rw [← heq] at whole
      obtain ⟨hc, hrest⟩ := List.cons.inj whole
      exact hopens _ hc hrest
    have item : IsItem sep Plain guard (c :: before sep rest) [a] :=
      .plain ((hp (List.cons_ne_nil _ _) hsep).mp hplain) hblock
    rw [whole]
    exact IsRegion.cons_item hs item (after hmore) endsItem_dropWhile
  -- In the other cases there was a fault.
  | case2 | case3 | case4 | case7 | case8 => cases h

/-! ## Derived texts are read

The induction is on the derivation. An item is read together with any text after it that starts with a
separator, since that is what the reader has before it; only a whole region stands alone. -/

mutual

theorem readRegion_of_isItem (hs : Separates sep Plain) (hp : ReadsPlain sep plain Plain) :
    ∀ {text : Text} {items : List α}, IsItem sep Plain guard text items → ∀ {after : Text} {more : List α},
      endsItem sep after = true → readRegion template sep plain guard after = .ok more →
        readRegion template sep plain guard (text ++ after) = .ok (items ++ more)
  | text, _, .plain h hblock, after, more, ends, hafter => by
    have hne := hs.nonempty h
    have hsep := hs.not_mem h
    exact readRegion_plain hs.ne_mark hne hsep hblock ends ((hp hne hsep).mpr h) hafter
  | _, _, .block key body hne hkey balanced hbody, after, more, ends, hafter => by
    have block : readBlock template sep (key ++ ':' :: body ++ ']' :: after) = .ok ⟨key, body, after⟩ :=
      readBlock_eq_ok_iff.mpr ⟨rfl, hne, hkey, balanced, ends⟩
    simpa using readRegion_block block (readRegion_of_isRegion hs hp hbody) hafter

theorem readRegion_of_areItems (hs : Separates sep Plain) (hp : ReadsPlain sep plain Plain) :
    ∀ {text : Text} {items : List α}, AreItems sep Plain guard text items → ∀ {after : Text} {more : List α},
      endsItem sep after = true → readRegion template sep plain guard after = .ok more →
        readRegion template sep plain guard (text ++ after) = .ok (items ++ more)
  | _, _, .one h, _, _, ends, hafter => readRegion_of_isItem hs hp h ends hafter
  | _, _, .cons n first rest, after, more, ends, hafter => by
    -- The separators end the first item, and are passed over before the next.
    have tail := readRegion_of_areItems hs hp rest ends hafter
    rw [← readRegion_replicate hs.ne_bracket _ (n + 1)] at tail
    simpa using readRegion_of_isItem hs hp first (by simp [List.replicate_succ, endsItem]) tail

theorem readRegion_of_isRegion (hs : Separates sep Plain) (hp : ReadsPlain sep plain Plain) :
    ∀ {text : Text} {items : List α}, IsRegion sep Plain guard text items →
      readRegion template sep plain guard text = .ok items
  | _, _, .empty m n => by
    rw [List.replicate_append_replicate]
    exact readRegion_separators hs.ne_bracket (m + n)
  | _, _, .items m n h => by
    rw [List.append_assoc, readRegion_replicate hs.ne_bracket]
    simpa using readRegion_of_areItems hs hp h (endsItem_replicate n) (readRegion_separators hs.ne_bracket n)

end

/-- A region is read exactly as the grammar derives it. -/
theorem readRegion_eq_ok_iff (hs : Separates sep Plain) (hp : ReadsPlain sep plain Plain) {text : Text}
    {items : List α} :
    readRegion template sep plain guard text = .ok items ↔ IsRegion sep Plain guard text items :=
  ⟨isRegion_of_readRegion hs hp, readRegion_of_isRegion hs hp⟩

end

theorem readPath_eq_ok_iff (template : Text) {text : Text} {parts : List Part} :
    readPath template text = .ok parts ↔ IsPath text parts :=
  readRegion_eq_ok_iff separates_segmentItem readSegment_eq_ok_iff

theorem readQuery_eq_ok_iff (template : Text) {text : Text} {entries : List Entry} :
    readQuery template text = .ok entries ↔ IsQuery text entries :=
  readRegion_eq_ok_iff separates_entryItem fun _ => readEntry_eq_ok_iff

/-! ## Templates -/

theorem firstRepeated?_eq_none_iff : ∀ {names seen : List Text},
    firstRepeated? seen names = none ↔ names.Nodup ∧ ∀ name ∈ names, name ∉ seen
  | [], seen => by simp [firstRepeated?]
  | name :: rest, seen => by
    rw [firstRepeated?, List.nodup_cons]
    split
    · next h =>
      have hseen : name ∈ seen := by simpa using h
      exact iff_of_false (by simp) fun hn => hn.2 name List.mem_cons_self hseen
    · next h =>
      have hseen : name ∉ seen := by simpa using h
      rw [firstRepeated?_eq_none_iff]
      refine ⟨?_, ?_⟩
      · intro h
        obtain ⟨hnodup, hnew⟩ := h
        refine ⟨⟨fun hm => hnew name hm List.mem_cons_self, hnodup⟩, fun n hn hns => ?_⟩
        rcases List.mem_cons.mp hn with rfl | hn
        · exact hseen hns
        · exact hnew n hn (List.mem_cons_of_mem _ hns)
      · intro h
        obtain ⟨⟨hname, hnodup⟩, hnew⟩ := h
        refine ⟨hnodup, fun n hn hns => ?_⟩
        rcases List.mem_cons.mp hns with rfl | hns
        · exact hname hn
        · exact hnew n (List.mem_cons_of_mem _ hn) hns

theorem readQuery_getD_eq_ok_iff (template : Text) {query : Option Text} {entries : List Entry} :
    readQuery template (expand .query (query.getD [])) = .ok entries ↔
      match query with
      | none => entries = []
      | some query => IsQuery (expand .query query) entries := by
  cases query with
  | none =>
    have empty : expand .query [] = [] := by simp [expand, Shorthand.replace]
    simp [empty, readQuery, readRegion_nil, eq_comm]
  | some query => exact readQuery_eq_ok_iff template

/-- **A template is read exactly as its grammar derives it.** The endpoint read has the parts that the path
    region derives and the entries that the query region derives, if there is one, in order and under the keys
    of the blocks around them. Nothing else is read, and a template is refused only when a region is not
    derivable or two entries have one name, in whatever blocks they stand. -/
theorem parse_eq_ok_iff {template : Text} {e : Endpoint} : Endpoint.parse template = .ok e ↔
    IsPath (expand .path (splitQuery 0 template).1) e.path ∧
    (match (splitQuery 0 template).2 with
      | none => e.query = []
      | some query => IsQuery (expand .query query) e.query) ∧
    (e.query.map (·.name)).Nodup := by
  rw [← readPath_eq_ok_iff template, ← readQuery_getD_eq_ok_iff template, Endpoint.parse]
  simp only
  cases readPath template (expand .path (splitQuery 0 template).1) with
  | error fault => simp
  | ok path =>
    cases readQuery template (expand .query ((splitQuery 0 template).2.getD [])) with
    | error fault => simp
    | ok query =>
      simp only
      split
      · next name hrepeated =>
        apply iff_of_false (by simp)
        intro h
        obtain ⟨-, hquery, hnodup⟩ := h
        rw [Except.ok.inj hquery, firstRepeated?_eq_none_iff.mpr ⟨hnodup, by simp⟩] at hrepeated
        cases hrepeated
      · next hnone =>
        have hnodup := (firstRepeated?_eq_none_iff.mp hnone).1
        refine ⟨?_, ?_⟩
        · intro h
          cases h
          exact ⟨rfl, rfl, hnodup⟩
        · intro h
          obtain ⟨hpath, hquery, -⟩ := h
          rw [Except.ok.inj hpath, Except.ok.inj hquery]

end Template

end RouteTemplate
