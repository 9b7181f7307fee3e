import Mathlib.Data.List.TakeWhile
import RouteTemplate.Request

/- Cutting text, and joining it again.

   A text is cut at a separator into pieces that are free of it, and pieces free of a separator are what
   their join is cut into (`splitOn_join`); how many separators stand before, between and after them makes no
   difference (`Spaced.pieces`). A cut at the first separator gives a text free of it, the separator and the
   rest, and there is one way to do so (`splitOnce_eq_some_iff`). A target is therefore read from left to
   right: the path up to `?`, its segments, the query up to `#`, its items (`parseRelative_spaced`), and one that
   is written from segments and entries is read back (`parseRelative_written`). It never looks like an absolute
   one, since a scheme is followed by two slashes, and between segments stands one (`splitScheme?_written`). -/
namespace RouteTemplate

namespace Text

variable {sep : Char}

/-! ## At the first separator -/

theorem splitOnce_append : ∀ {a : Text}, sep ∉ a → ∀ b, splitOnce sep (a ++ sep :: b) = some (a, b)
  | [], _, b => by simp [splitOnce]
  | c :: a, h, b => by
    rw [List.mem_cons, not_or] at h
    simp [splitOnce, splitOnce_append h.2 b, Ne.symm h.1]

theorem splitOnce_eq_some_iff {t a b : Text} : splitOnce sep t = some (a, b) ↔ t = a ++ sep :: b ∧ sep ∉ a := by
  refine ⟨?_, ?_⟩
  · intro h
    induction t generalizing a with
    | nil => simp [splitOnce] at h
    | cons c rest ih =>
      unfold splitOnce at h
      split at h
      · next hc =>
        cases h
        simp [hc]
      · next hc =>
        obtain ⟨⟨x, y⟩, hx, hy⟩ := Option.map_eq_some_iff.mp h
        cases hy
        obtain ⟨rfl, hsep⟩ := ih hx
        refine ⟨rfl, fun hm => ?_⟩
        rcases List.mem_cons.mp hm with heq | hm
        · exact hc heq.symm
        · exact hsep hm
  · intro h
    obtain ⟨rfl, h⟩ := h
    exact splitOnce_append h b

theorem splitOnce_eq_none_iff : ∀ {t : Text}, splitOnce sep t = none ↔ sep ∉ t
  | [] => by simp [splitOnce]
  | c :: rest => by
    by_cases h : c = sep
    · simp [splitOnce, h]
    · simp [splitOnce, h, splitOnce_eq_none_iff, Ne.symm h]

theorem before_of_not_mem {t : Text} (h : sep ∉ t) : before sep t = t := by
  refine List.takeWhile_eq_self_iff.mpr fun c hc => decide_eq_true ?_
  intro heq
  subst heq
  exact h hc

theorem not_mem_before {t : Text} : sep ∉ before sep t := fun hm => by
  have := List.mem_takeWhile_imp hm
  simp at this

theorem mem_of_mem_before {c : Char} {t : Text} (h : c ∈ before sep t) : c ∈ t := (List.takeWhile_sublist _).subset h

theorem before_cons {c : Char} (hc : c ≠ sep) (t : Text) : before sep (c :: t) = c :: before sep t := by
  simp [before, hc]

theorem before_append_of_not_mem {a : Text} (h : sep ∉ a) (b : Text) : before sep (a ++ b) = a ++ before sep b := by
  have all : ∀ c ∈ a, decide (c ≠ sep) = true := by
    intro c hc
    refine decide_eq_true ?_
    intro heq
    subst heq
    exact h hc
  rw [before, List.takeWhile_append_of_pos all, before]

theorem before_append {a : Text} (h : sep ∉ a) (b : Text) : before sep (a ++ sep :: b) = a := by
  rw [before_append_of_not_mem h]
  simp [before]

/-! ## At every separator -/

theorem splitOn_of_not_mem : ∀ {t : Text}, sep ∉ t → splitOn sep t = [t]
  | [], _ => rfl
  | c :: t, h => by
    rw [List.mem_cons, not_or] at h
    simp [splitOn, splitOn_of_not_mem h.2, Ne.symm h.1]

theorem splitOn_append : ∀ a b : Text, splitOn sep (a ++ sep :: b) = splitOn sep a ++ splitOn sep b
  | [], b => by simp [splitOn]
  | c :: a, b => by
    by_cases h : c = sep
    · simp [splitOn, h, splitOn_append a b]
    · have hne := splitOn_ne_nil sep a
      simp only [List.cons_append, splitOn, h, if_false, splitOn_append a b]
      cases hs : splitOn sep a with
      | nil => exact absurd hs hne
      | cons piece more => simp

/-- Pieces free of the separator are what their join is cut into. -/
theorem splitOn_join : ∀ {l : List Text}, l ≠ [] → (∀ piece ∈ l, sep ∉ piece) → splitOn sep (join [sep] l) = l
  | [piece], _, h => splitOn_of_not_mem (h piece (by simp))
  | piece :: next :: more, _, h => by
    have ih := splitOn_join (l := next :: more) (by simp) fun p hp => h p (List.mem_cons_of_mem _ hp)
    rw [join, List.append_assoc, List.singleton_append, splitOn_append,
      splitOn_of_not_mem (h piece (by simp)), ih, List.singleton_append]
    exact List.cons_ne_nil _ _

theorem of_mem_splitOn : ∀ {t piece : Text}, piece ∈ splitOn sep t → sep ∉ piece ∧ ∀ c ∈ piece, c ∈ t
  | [], _, h => by
    rw [List.mem_singleton.mp h]
    simp
  | d :: rest, piece, h => by
    unfold splitOn at h
    split at h
    · rcases List.mem_cons.mp h with rfl | h
      · simp
      · obtain ⟨free, chars⟩ := of_mem_splitOn h
        exact ⟨free, fun c hc => List.mem_cons_of_mem _ (chars c hc)⟩
    · next hd =>
      split at h
      · next hs => exact absurd hs (splitOn_ne_nil sep rest)
      · next first more hs =>
        -- The first piece of the rest goes on from this character.
        rcases List.mem_cons.mp h with rfl | h
        · have hm : first ∈ splitOn sep rest := by simp [hs]
          obtain ⟨free, chars⟩ := of_mem_splitOn hm
          refine ⟨?_, fun c hc => ?_⟩
          · rw [List.mem_cons, not_or]
            exact ⟨Ne.symm hd, free⟩
          · rcases List.mem_cons.mp hc with rfl | hc
            · exact List.mem_cons_self
            · exact List.mem_cons_of_mem _ (chars c hc)
        · have hm : piece ∈ splitOn sep rest := by simp [hs, h]
          obtain ⟨free, chars⟩ := of_mem_splitOn hm
          exact ⟨free, fun c hc => List.mem_cons_of_mem _ (chars c hc)⟩

theorem of_mem_pieces {t piece : Text} (h : piece ∈ pieces sep t) : piece ≠ [] ∧ sep ∉ piece ∧ ∀ c ∈ piece, c ∈ t := by
  obtain ⟨hm, hne⟩ := List.mem_filter.mp h
  obtain ⟨free, chars⟩ := of_mem_splitOn hm
  exact ⟨by simpa using hne, free, chars⟩

theorem pieces_append_cons (a b : Text) : pieces sep (a ++ sep :: b) = pieces sep a ++ pieces sep b := by
  rw [pieces, splitOn_append, List.filter_append, pieces, pieces]

theorem pieces_of_not_mem {t : Text} (nonempty : t ≠ []) (free : sep ∉ t) : pieces sep t = [t] := by
  simp [pieces, splitOn_of_not_mem free, nonempty]

/-- The items in their order, with separators before, between and after them: between two items stands at least one. -/
inductive Spaced (sep : Char) : List Text → Text → Prop
  | nil : Spaced sep [] []
  | sep {items : List Text} {t : Text} : Spaced sep items t → Spaced sep items (sep :: t)
  | item {items : List Text} {t : Text} (item : Text) : Spaced sep items t → Spaced sep (item :: items) (item ++ sep :: t)
  | last (item : Text) : Spaced sep [item] item

namespace Spaced

variable {items : List Text} {t : Text}

theorem pieces (h : Spaced sep items t) (hi : ∀ item ∈ items, item ≠ [] ∧ sep ∉ item) : pieces sep t = items := by
  induction h with
  | nil => rfl
  | @sep items t _ ih =>
    have cut : Text.pieces sep (sep :: t) = Text.pieces sep t := pieces_append_cons [] t
    rw [cut, ih hi]
  | item item _ ih =>
    obtain ⟨⟨nonempty, free⟩, others⟩ := List.forall_mem_cons.mp hi
    rw [pieces_append_cons, pieces_of_not_mem nonempty free, ih others, List.singleton_append]
  | last item =>
    obtain ⟨nonempty, free⟩ := hi item (List.mem_singleton_self item)
    exact pieces_of_not_mem nonempty free

theorem not_mem {c : Char} (hc : c ≠ sep) (h : Spaced sep items t) (free : ∀ item ∈ items, c ∉ item) : c ∉ t := by
  induction h with
  | nil => simp
  | sep _ ih => simpa [hc] using ih free
  | item item _ ih =>
    obtain ⟨here, others⟩ := List.forall_mem_cons.mp free
    simp [here, hc, ih others]
  | last item => exact free item (List.mem_singleton_self item)

end Spaced

theorem spaced_pieces (t : Text) : Spaced sep (pieces sep t) t := by
  cases cut : splitOnce sep t with
  | none =>
    by_cases nonempty : t = []
    · rw [nonempty]
      exact .nil
    · rw [pieces_of_not_mem nonempty (splitOnce_eq_none_iff.mp cut)]
      exact .last t
  | some halves =>
    obtain ⟨first, rest⟩ := halves
    have shorter := length_of_splitOnce cut
    obtain ⟨rfl, free⟩ := splitOnce_eq_some_iff.mp cut
    have tail : Spaced sep (pieces sep rest) rest := spaced_pieces rest
    rw [pieces_append_cons]
    by_cases nonempty : first = []
    · rw [nonempty]
      exact tail.sep
    · rw [pieces_of_not_mem nonempty free]
      exact tail.item first
termination_by t.length
decreasing_by omega

theorem spaced_join : ∀ l : List Text, Spaced sep l (join [sep] l)
  | [] => .nil
  | [piece] => .last piece
  | piece :: next :: more => by
    have rest : Spaced sep (next :: more) (join [sep] (next :: more)) := spaced_join (next :: more)
    simpa [join] using rest.item piece

theorem pieces_join {l : List Text} (h : ∀ piece ∈ l, piece ≠ [] ∧ sep ∉ piece) : pieces sep (join [sep] l) = l :=
  (spaced_join l).pieces h

theorem join_append {between : Text} : ∀ {l m : List Text}, l ≠ [] → m ≠ [] →
    join between (l ++ m) = join between l ++ between ++ join between m
  | [piece], next :: more, _, _ => rfl
  | piece :: next :: rest, m, _, hm => by
    have ih : join between (next :: rest ++ m) = _ := join_append (List.cons_ne_nil next rest) hm
    show piece ++ between ++ join between (next :: rest ++ m) = _
    rw [ih]
    simp [join]

/-- What holds of the pieces, and goes over to two texts joined, holds of the join. -/
theorem join_induction {P : Text → Prop} {between : Text} (nil : P [])
    (append : ∀ {a b}, P a → P b → P (a ++ between ++ b)) :
    ∀ {l : List Text}, (∀ piece ∈ l, P piece) → P (join between l)
  | [], _ => nil
  | [piece], h => h piece (by simp)
  | piece :: next :: more, h => by
    have rest : P (join between (next :: more)) :=
      join_induction nil append fun p hp => h p (List.mem_cons_of_mem _ hp)
    exact append (h piece (by simp)) rest

/-! ## At a mark -/

theorem eq_of_splitAtMark {mark : Text} : ∀ {t a b : Text}, splitAtMark mark t = some (a, b) → t = a ++ mark ++ b
  | [], _, _, h => by simp [splitAtMark] at h
  | c :: rest, a, b, h => by
    unfold splitAtMark at h
    split at h
    · next after hafter =>
      cases h
      simpa using eq_append_of_after? hafter
    · obtain ⟨⟨x, y⟩, hx, hy⟩ := Option.map_eq_some_iff.mp h
      cases hy
      simp [eq_of_splitAtMark hx]

end Text

/-! ## What a target can be read back from -/

open Text

/-- A text that can stand between the slashes of a path. -/
structure IsSegment (t : Text) : Prop where
  nonempty : t ≠ []
  slash : '/' ∉ t
  mark : '?' ∉ t
  hash : '#' ∉ t

/-- A text that can stand before the `=` of a query entry. -/
structure IsQueryName (t : Text) : Prop where
  equals : '=' ∉ t
  ampersand : '&' ∉ t
  hash : '#' ∉ t

/-- A text that can stand after the `=` of a query entry. -/
structure IsQueryValue (t : Text) : Prop where
  ampersand : '&' ∉ t
  hash : '#' ∉ t

/-- A text that can stand between the `&` of a query. -/
structure IsQueryItem (t : Text) : Prop where
  nonempty : t ≠ []
  ampersand : '&' ∉ t
  hash : '#' ∉ t

/-- What stands behind the path for the items of a query. Without items the mark may be missing. -/
inductive SpacedQuery : List Text → Text → Prop
  | absent : SpacedQuery [] []
  | mk {items : List Text} {t : Text} : Spaced '&' items t → SpacedQuery items ('?' :: t)

/-- Nothing, or any text behind its mark. -/
inductive IsFragment : Text → Prop
  | absent : IsFragment []
  | mk (t : Text) : IsFragment ('#' :: t)

instance (t : Text) : Decidable (IsSegment t) :=
  decidable_of_iff (t ≠ [] ∧ '/' ∉ t ∧ '?' ∉ t ∧ '#' ∉ t)
    ⟨fun ⟨a, b, c, d⟩ => ⟨a, b, c, d⟩, fun ⟨a, b, c, d⟩ => ⟨a, b, c, d⟩⟩

instance (t : Text) : Decidable (IsQueryName t) :=
  decidable_of_iff ('=' ∉ t ∧ '&' ∉ t ∧ '#' ∉ t) ⟨fun ⟨a, b, c⟩ => ⟨a, b, c⟩, fun ⟨a, b, c⟩ => ⟨a, b, c⟩⟩

instance (t : Text) : Decidable (IsQueryValue t) :=
  decidable_of_iff ('&' ∉ t ∧ '#' ∉ t) ⟨fun ⟨a, b⟩ => ⟨a, b⟩, fun ⟨a, b⟩ => ⟨a, b⟩⟩

instance (t : Text) : Decidable (IsQueryItem t) :=
  decidable_of_iff (t ≠ [] ∧ '&' ∉ t ∧ '#' ∉ t) ⟨fun ⟨a, b, c⟩ => ⟨a, b, c⟩, fun ⟨a, b, c⟩ => ⟨a, b, c⟩⟩

theorem spacedQuery_join (items : List Text) :
    SpacedQuery items (if items.isEmpty then [] else '?' :: join ['&'] items) := by
  cases items with
  | nil => exact .absent
  | cons item items => exact .mk (spaced_join (item :: items))

namespace SpacedQuery

variable {items : List Text} {query : Text}

theorem hash (h : SpacedQuery items query) (hi : ∀ item ∈ items, IsQueryItem item) : '#' ∉ query := by
  cases h with
  | absent => simp
  | mk spaced => simpa using spaced.not_mem (by decide) fun item h => (hi item h).hash

theorem pieces (h : SpacedQuery items query) (hi : ∀ item ∈ items, IsQueryItem item) {path : Text}
    (mark : '?' ∉ path) : before '?' (path ++ query) = path ∧
      pieces '&' (((splitOnce '?' (path ++ query)).map Prod.snd).getD []) = items := by
  cases h with
  | absent =>
    rw [List.append_nil, before_of_not_mem mark, splitOnce_eq_none_iff.mpr mark]
    exact ⟨rfl, rfl⟩
  | mk spaced =>
    rw [before_append mark, splitOnce_append mark, Option.map_some, Option.getD_some]
    exact ⟨rfl, spaced.pieces fun item h => ⟨(hi item h).nonempty, (hi item h).ampersand⟩⟩

end SpacedQuery

theorem before_append_fragment {fragment t : Text} (h : IsFragment fragment) (hash : '#' ∉ t) :
    before '#' (t ++ fragment) = t := by
  cases h with
  | absent => rw [List.append_nil, before_of_not_mem hash]
  | mk rest => exact before_append hash rest

namespace Request

/-- A target made of the given segments and of entries with the given names and values. -/
def written (segments : List Text) (entries : List (Text × Text)) : Text :=
  target segments (entries.map fun e => entry e.1 e.2)

theorem readEntries_entries : ∀ {entries : List (Text × Text)}, (∀ e ∈ entries, '=' ∉ e.1) →
    readEntries (entries.map fun e => entry e.1 e.2) = .ok entries
  | [], _ => rfl
  | (name, value) :: rest, h => by
    have head : splitOnce '=' (entry name value) = some (name, value) :=
      splitOnce_append (h (name, value) (by simp)) value
    have tail := readEntries_entries fun e he => h e (List.mem_cons_of_mem _ he)
    rw [List.map_cons, readEntries, head, tail]

section
variable {segments : List Text} {entries : List (Text × Text)}

/-- Between segments stands one slash. -/
theorem join_ne_of_two_slashes (hs : ∀ s ∈ segments, IsSegment s) (a b : Text) :
    join ['/'] segments ≠ a ++ '/' :: '/' :: b := by
  intro h
  cases segments with
  | nil => simp [join] at h
  | cons s more =>
    have cut := splitOn_join (by simp) fun t ht => (hs t ht).slash
    rw [h, splitOn_append, splitOn, if_pos rfl] at cut
    exact (hs [] (by rw [← cut]; simp)).nonempty rfl

theorem not_mem_of_isScheme {c : Char} {t : Text} (first : c.isAlpha = false)
    (later : (c.isAlphanum || c == '+' || c == '-' || c == '.') = false) (h : isScheme t = true) : c ∉ t := by
  cases t with
  | nil => simp
  | cons letter rest =>
    simp only [isScheme, Bool.and_eq_true, List.all_eq_true] at h
    intro hm
    rcases List.mem_cons.mp hm with rfl | hm
    · exact absurd h.1 (by simp [first])
    · exact absurd (h.2 c hm) (by simp [later])

/-- There is no scheme: two slashes would follow it, and they stand neither between segments nor before the
    mark that ends the path. -/
theorem splitScheme?_written (hs : ∀ s ∈ segments, IsSegment s) (entries : List (Text × Text)) :
    splitScheme? (written segments entries) = none := by
  unfold splitScheme?
  split
  · next scheme rest hmark =>
    apply if_neg
    intro valid
    have whole := eq_of_splitAtMark hmark
    rw [written, target] at whole
    -- The slashes end within the path, or the scheme would hold the `?` that ends it.
    rcases List.append_eq_append_iff.mp whole with ⟨as, hlong, hrest⟩ | ⟨bs, hpath, hrest⟩
    · cases as with
      | nil =>
        rw [List.append_nil] at hlong
        exact join_ne_of_two_slashes hs (scheme ++ [':']) [] (by rw [← hlong]; simp)
      | cons c as =>
        have hc : c = '?' := by
          split at hrest
          · cases hrest
          · exact (List.cons.inj hrest).1.symm
        have hm : '?' ∈ scheme ++ [':', '/', '/'] := by rw [hlong, hc]; simp
        have free : '?' ∉ scheme := not_mem_of_isScheme (by decide) (by decide) valid
        simp [free] at hm
    · exact join_ne_of_two_slashes hs (scheme ++ [':']) bs (by rw [hpath]; simp)
  · rfl

/-- A target is read as its segments and the items of its query, with separators to spare and behind them a fragment. -/
theorem parseRelative_spaced {items : List Text} {path query fragment : Text} (hs : ∀ s ∈ segments, IsSegment s)
    (hi : ∀ item ∈ items, IsQueryItem item) (hp : Spaced '/' segments path) (hq : SpacedQuery items query)
    (hf : IsFragment fragment) : parseRelative (path ++ query ++ fragment) =
      (readEntries items).map fun entries => ⟨segments, Dict.ofList entries⟩ := by
  have mark : '?' ∉ path := hp.not_mem (by decide) fun s h => (hs s h).mark
  have hash : '#' ∉ path ++ query := by
    rw [List.mem_append, not_or]
    exact ⟨hp.not_mem (by decide) fun s h => (hs s h).hash, hq.hash hi⟩
  have cut : pieces '/' path = segments := hp.pieces fun s h => ⟨(hs s h).nonempty, (hs s h).slash⟩
  obtain ⟨hpath, hquery⟩ := hq.pieces hi mark
  rw [parseRelative, before_append_fragment hf hash]
  simp only [hpath, hquery, cut]
  cases readEntries items <;> rfl

theorem parseRelative_written (hs : ∀ s ∈ segments, IsSegment s)
    (he : ∀ e ∈ entries, IsQueryName e.1 ∧ IsQueryValue e.2) :
    parseRelative (written segments entries) = .ok ⟨segments, Dict.ofList entries⟩ := by
  have items : ∀ item ∈ entries.map (fun e => entry e.1 e.2), IsQueryItem item := by
    intro item hm
    obtain ⟨e, hmem, rfl⟩ := List.mem_map.mp hm
    obtain ⟨hname, hvalue⟩ := he e hmem
    exact ⟨by simp [entry], by simp [entry, hname.ampersand, hvalue.ampersand],
      by simp [entry, hname.hash, hvalue.hash]⟩
  have read := parseRelative_spaced hs items (spaced_join segments) (spacedQuery_join _) .absent
  rw [List.append_nil, readEntries_entries fun e h => (he e h).1.equals] at read
  exact read

theorem parseJudged_written (fault? : Text → Option AuthorityFault) (hs : ∀ s ∈ segments, IsSegment s)
    (he : ∀ e ∈ entries, IsQueryName e.1 ∧ IsQueryValue e.2) :
    parseJudged fault? (written segments entries) = .ok ⟨segments, Dict.ofList entries⟩ := by
  rw [parseJudged, splitScheme?_written hs entries]
  exact parseRelative_written hs he

end

end Request

end RouteTemplate
