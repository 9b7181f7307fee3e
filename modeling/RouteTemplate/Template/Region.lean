import RouteTemplate.Endpoint
import RouteTemplate.Error
import RouteTemplate.Template.Shorthand

/- Reading a region of a template.

   A region is a sequence of items between separators: `/` in the path, `&` in the query. Separators may
   be repeated and may stand at either end. An item is a plain chunk, or a block `[?key:body]` whose body
   is again a region of the same kind; the parts of the body are guarded by the key. A block ends at the
   bracket that closes it, and must be followed by a separator or the end. Items are read from left to
   right, and the first fault is the answer. -/
namespace RouteTemplate

open Text

/-- The text up to the bracket that closes `depth` further brackets and one more, and the text after it. -/
def closeBracket : (depth : Nat) → Text → Option (Text × Text)
  | _, [] => none
  | depth, '[' :: rest => (closeBracket (depth + 1) rest).map fun (inner, after) => ('[' :: inner, after)
  | 0, ']' :: rest => some ([], rest)
  | depth + 1, ']' :: rest => (closeBracket depth rest).map fun (inner, after) => (']' :: inner, after)
  | depth, c :: rest => (closeBracket depth rest).map fun (inner, after) => (c :: inner, after)

theorem length_of_closeBracket {depth : Nat} {t inner after : Text}
    (h : closeBracket depth t = some (inner, after)) : inner.length + after.length + 1 = t.length := by
  fun_induction closeBracket depth t generalizing inner with
  | case1 => cases h
  | case3 rest => cases h; simp
  | case2 _ _ ih | case4 _ _ ih | case5 _ _ _ _ _ _ ih =>
    obtain ⟨⟨x, y⟩, hx, hy⟩ := Option.map_eq_some_iff.1 h
    cases hy
    have := ih hx
    simp only [List.length_cons]
    omega

/-- A block at the head of a region: its key, its body, and the text after it. -/
structure Block where
  key : Text
  body : Text
  after : Text

/-- Does the text end here, or go on with a separator? -/
def endsItem (sep : Char) : Text → Bool
  | [] => true
  | c :: _ => c == sep

/-- The block whose text goes on with `opened` after its `[?`. -/
def readBlock (template : Text) (sep : Char) (opened : Text) : Except EndpointError Block :=
  match closeBracket 0 opened with
  | none => .error (.unbalancedOptional template)
  | some (inner, after) =>
    match splitOnce ':' inner with
    | none => .error (.malformedOptional ('[' :: '?' :: inner ++ [']']))
    | some (key, body) =>
      if key.isEmpty || !endsItem sep after then
        .error (.malformedOptional ('[' :: '?' :: inner ++ [']']))
      else .ok ⟨key, body, after⟩

/-- The body of a block and the text after it are shorter than the text they are read from. -/
theorem length_of_readBlock {template opened : Text} {sep : Char} {b : Block}
    (h : readBlock template sep opened = .ok b) :
    b.body.length < opened.length ∧ b.after.length < opened.length := by
  unfold readBlock at h
  split at h
  · cases h
  · next inner after hclose =>
    have hlen := length_of_closeBracket hclose
    split at h
    · cases h
    · next key body hsplit =>
      have := length_of_splitOnce hsplit
      split at h
      · cases h
      · cases h; constructor <;> simp <;> omega

/-- The items of a region, each plain item read by `plain`, and each item of a block guarded by its key. -/
def readRegion {α : Type} (template : Text) (sep : Char) (plain : Text → Except EndpointError α)
    (guard : Text → α → α) : Text → Except EndpointError (List α)
  | [] => .ok []
  | '[' :: '?' :: opened =>
    match found : readBlock template sep opened with
    | .error e => .error e
    | .ok block =>
      have := length_of_readBlock found
      match readRegion template sep plain guard block.body with
      | .error e => .error e
      | .ok inner =>
        match readRegion template sep plain guard block.after with
        | .error e => .error e
        | .ok more => .ok (inner.map (guard block.key) ++ more)
  | c :: rest =>
    if c = sep then readRegion template sep plain guard rest
    else
      match plain (c :: before sep rest) with
      | .error e => .error e
      | .ok item =>
        have := (List.dropWhile_sublist (· ≠ sep) (l := rest)).length_le
        match readRegion template sep plain guard (rest.dropWhile (· ≠ sep)) with
        | .error e => .error e
        | .ok more => .ok (item :: more)
termination_by t => t.length
decreasing_by all_goals (simp only [List.length_cons]; omega)

/-- Does a block open somewhere in the text? -/
def opensBlock : Text → Bool
  | '[' :: '?' :: _ => true
  | _ :: rest => opensBlock rest
  | [] => false

/-- The characters that cannot stand in a parameter's name between braces. -/
def closedToNames : List Char := ['{', '}', '/', '[', ']', '?', '&', '=']

/-- The name between the braces, when the whole text is a name in braces. -/
def bracedName? : Text → Option Text
  | '{' :: rest =>
    if rest.getLast? = some '}' ∧ rest.dropLast ≠ [] ∧ rest.dropLast.all (!closedToNames.contains ·) then
      some rest.dropLast
    else none
  | _ => none

/-- A chunk without brackets: a parameter in braces or a reserved word, and literal text otherwise. -/
def Atom.ofChunk (chunk : Text) : Atom :=
  match bracedName? chunk with
  | some name => .param name
  | none => if reservedWords.contains chunk then .param chunk else .literal chunk

/-- The atom of a path segment or a query value, which may hold no bracket. -/
def readAtom (template chunk : Text) : Except EndpointError Atom :=
  if opensBlock chunk then .error (.malformedOptional chunk)
  else if '[' ∈ chunk ∨ ']' ∈ chunk then .error (.unbalancedOptional template)
  else .ok (Atom.ofChunk chunk)

/-- A plain path item. -/
def readSegment (template chunk : Text) : Except EndpointError Part :=
  (readAtom template chunk).map fun atom => ⟨[], atom⟩

/-- A plain query item: a name, `=` and a value. -/
def readEntry (template entry : Text) : Except EndpointError Entry :=
  match splitOnce '=' entry with
  | none => .error (.malformedQueryEntry entry)
  | some (name, value) =>
    if name.isEmpty then .error (.malformedQueryEntry entry)
    else (readAtom template value).map fun atom => ⟨name, [], atom⟩

/-- The parts of a path region without shorthand. -/
def readPath (template : Text) : Text → Except EndpointError (List Part) :=
  readRegion template Region.path.separator (readSegment template) Part.guard

/-- The entries of a query region without shorthand. -/
def readQuery (template : Text) : Text → Except EndpointError (List Entry) :=
  readRegion template Region.query.separator (readEntry template) Entry.guard

end RouteTemplate
