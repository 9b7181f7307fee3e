/- Text and the ways it is cut.

   Text is a list of characters, compared by code point. Templates, request targets and settings are
   all read by cutting text at separators: into the pieces between them (`splitOn`, `pieces`), at the
   first one (`splitOnce`), or where a class of characters begins (`breakAt`). -/
namespace RouteTemplate

/-- A run of characters. Its order, `compare`, is by code point. -/
abbrev Text := List Char

/-- The list after `start`, when the list begins so. -/
def after? {α : Type} [DecidableEq α] : (start l : List α) → Option (List α)
  | [], l => some l
  | _ :: _, [] => none
  | s :: start, a :: l => if s = a then after? start l else none

theorem after?_append {α : Type} [DecidableEq α] : ∀ start rest : List α, after? start (start ++ rest) = some rest
  | [], _ => rfl
  | s :: start, rest => by rw [List.cons_append, after?, if_pos rfl, after?_append start rest]

theorem eq_append_of_after? {α : Type} [DecidableEq α] {start l rest : List α}
    (h : after? start l = some rest) : l = start ++ rest := by
  induction start generalizing l with
  | nil => cases h; rfl
  | cons s start ih =>
    cases l with
    | nil => cases h
    | cons a l =>
      simp only [after?] at h
      split at h
      · next hs => rw [hs, ih h]; rfl
      · cases h

namespace Text

/-- The text between separators, empty pieces included: one more piece than there are separators. -/
def splitOn (sep : Char) : Text → List Text
  | [] => [[]]
  | c :: rest =>
    if c = sep then [] :: splitOn sep rest
    else match splitOn sep rest with
      | [] => [[c]]
      | piece :: more => (c :: piece) :: more

/-- The non-empty pieces between separators. -/
def pieces (sep : Char) (t : Text) : List Text :=
  (splitOn sep t).filter fun piece => !piece.isEmpty

/-- The text before and after the first separator. -/
def splitOnce (sep : Char) : Text → Option (Text × Text)
  | [] => none
  | c :: rest =>
    if c = sep then some ([], rest)
    else (splitOnce sep rest).map fun (before, after) => (c :: before, after)

/-- The text before and after the first place where `mark` stands. -/
def splitAtMark (mark : Text) : Text → Option (Text × Text)
  | [] => none
  | c :: rest =>
    match after? mark (c :: rest) with
    | some after => some ([], after)
    | none => (splitAtMark mark rest).map fun (before, after) => (c :: before, after)

/-- The text before the first separator, or all of it. -/
def before (sep : Char) (t : Text) : Text := t.takeWhile (· ≠ sep)

/-- The text before the first character of the class, and the text from that character on. -/
def breakAt (p : Char → Bool) (t : Text) : Text × Text :=
  (t.takeWhile fun c => !p c, t.dropWhile fun c => !p c)

/-- The pieces with the separator text between them. -/
def join (sep : Text) : List Text → Text
  | [] => []
  | [piece] => piece
  | piece :: more => piece ++ sep ++ join sep more

/-- A target written out: segments between slashes, then the entries, if any, after `?` and between `&`. -/
def target (segments entries : List Text) : Text :=
  join ['/'] segments ++ if entries.isEmpty then [] else '?' :: join ['&'] entries

/-- A query entry written out. -/
def entry (name value : Text) : Text := name ++ '=' :: value

/-- The text inside single quotes, as messages cite it. -/
def quoted (t : Text) : Text := '\'' :: t ++ ['\'']

/-- Digits of the given base, `a` to `f` standing for ten to fifteen. -/
def digitValue? (base : Nat) (c : Char) : Option Nat :=
  let v :=
    if c.isDigit then c.toNat - '0'.toNat
    else if 'a' ≤ c ∧ c ≤ 'f' then c.toNat - 'a'.toNat + 10
    else if 'A' ≤ c ∧ c ≤ 'F' then c.toNat - 'A'.toNat + 10
    else base
  if v < base then some v else none

/-- The number written in the given base; `none` when some character is no digit of it. Empty text is zero. -/
def numeral? (base : Nat) (t : Text) : Option Nat :=
  t.foldlM (fun n c => (digitValue? base c).map (n * base + ·)) 0

theorem splitOn_ne_nil (sep : Char) (t : Text) : splitOn sep t ≠ [] := by
  cases t with
  | nil => simp [splitOn]
  | cons c rest =>
    unfold splitOn
    split
    · simp
    · split <;> simp

/-- Both sides of a split are shorter than the text. -/
theorem length_of_splitOnce {sep : Char} {t a b : Text} (h : splitOnce sep t = some (a, b)) :
    a.length + b.length + 1 = t.length := by
  induction t generalizing a with
  | nil => simp [splitOnce] at h
  | cons c rest ih =>
    unfold splitOnce at h
    split at h
    · cases h; simp
    · obtain ⟨⟨x, y⟩, hx, hy⟩ := Option.map_eq_some_iff.1 h
      cases hy
      have := ih hx
      simp; omega

end Text

end RouteTemplate
