import RouteTemplate.Yaml.Token

/- YAML documents.

   Tokens are read one by one, with the collections that are open kept on a stack, innermost first. A node
   that is complete takes the place that the innermost collection has for it, and a token that leaves a
   place empty puts an empty scalar there. A text holds at most one document; without one it stands for an
   empty scalar. -/
namespace RouteTemplate.Yaml

inductive Node where
  | scalar (plain : Bool) (text : Text)
  | list (items : List Node)
  | record (fields : List (Node × Node))

namespace Node

/-- What stands where nothing is written. -/
def blank : Node := .scalar true []

end Node

/-- How far a pair of a key and a value has been read. -/
inductive Pair where
  | none
  | awaitsKey
  | hasKey (key : Node)
  | awaitsValue (key : Node)

/-- The pair with what is not written left blank; nothing if no pair has begun. -/
def Pair.complete : Pair → List (Node × Node)
  | .none => []
  | .awaitsKey => [(.blank, .blank)]
  | .hasKey key | .awaitsValue key => [(key, .blank)]

/-- What may come next in a flow collection between its items. -/
inductive Turn where
  | first
  | afterItem
  | afterComma
  deriving DecidableEq

/-- A collection that is open. Its items are kept newest first. -/
inductive Frame where
  /-- A block list, closed by the indentation, or by the next key where it is not indented. -/
  | blockList (indented : Bool) (items : List Node) (awaits : Bool)
  | blockMap (fields : List (Node × Node)) (pair : Pair)
  | flowList (items : List Node) (turn : Turn)
  | flowMap (fields : List (Node × Node)) (turn : Turn) (pair : Pair)
  /-- A single pair as an item of a flow list. -/
  | flowPair (pair : Pair)

/-- How far the document has been read. -/
inductive Progress where
  | before
  | opened
  | done (root : Node)
  | ended (root : Node)

structure Reading where
  frames : List Frame
  progress : Progress

namespace Reading

/-- A complete node in the place that waits for it. -/
def place (progress : Progress) (n : Node) : List Frame → Option Reading
  | [] =>
    match progress with
    | .before | .opened => some ⟨[], .done n⟩
    | .done _ | .ended _ => none
  | .blockList indented items true :: outer =>
    some ⟨.blockList indented (n :: items) false :: outer, progress⟩
  | .blockMap fields .awaitsKey :: outer => some ⟨.blockMap fields (.hasKey n) :: outer, progress⟩
  | .blockMap fields (.awaitsValue k) :: outer =>
    some ⟨.blockMap ((k, n) :: fields) .none :: outer, progress⟩
  | .flowList items turn :: outer =>
    if turn = .afterItem then none else some ⟨.flowList (n :: items) .afterItem :: outer, progress⟩
  | .flowMap fields turn .awaitsKey :: outer =>
    some ⟨.flowMap fields turn (.hasKey n) :: outer, progress⟩
  | .flowMap fields _ (.awaitsValue k) :: outer =>
    some ⟨.flowMap ((k, n) :: fields) .afterItem .none :: outer, progress⟩
  | .flowMap fields turn .none :: outer =>
    if turn = .afterItem then none
    else some ⟨.flowMap ((n, .blank) :: fields) .afterItem .none :: outer, progress⟩
  | .flowPair .awaitsKey :: outer => some ⟨.flowPair (.hasKey n) :: outer, progress⟩
  | .flowPair (.awaitsValue k) :: outer => place progress (.record [(k, n)]) outer
  | .blockList _ _ false :: _ | .blockMap _ .none :: _ | .blockMap _ (.hasKey _) :: _
  | .flowMap _ _ (.hasKey _) :: _ | .flowPair .none :: _ | .flowPair (.hasKey _) :: _ => none

/-- The items of a block list, with a blank for an entry that has no node. -/
def entries (items : List Node) (awaits : Bool) : List Node := if awaits then .blank :: items else items

/-- Closes a block list that is not indented, and a single pair in a flow list, if one is innermost. -/
def settle (r : Reading) : Option Reading :=
  match r.frames with
  | .blockList false items awaits :: outer => place r.progress (.list (entries items awaits).reverse) outer
  | .flowPair pair :: outer => place r.progress (.record pair.complete) outer
  | _ => some r

def openFrame (r : Reading) (f : Frame) : Reading := { r with frames := f :: r.frames }

def readEntry (r : Reading) : Option Reading :=
  match r.frames with
  | .blockList indented items awaits :: outer =>
    some { r with frames := .blockList indented (entries items awaits) true :: outer }
  | .blockMap _ .awaitsKey :: _ | .blockMap _ (.awaitsValue _) :: _ =>
    some (r.openFrame (.blockList false [] true))
  | _ => none

def readKey (r : Reading) : Option Reading :=
  match r.frames with
  | .blockMap fields pair :: outer =>
    some { r with frames := .blockMap (pair.complete ++ fields) .awaitsKey :: outer }
  | .flowMap fields turn .none :: outer =>
    if turn = .afterItem then none else some { r with frames := .flowMap fields turn .awaitsKey :: outer }
  | .flowList _ turn :: _ => if turn = .afterItem then none else some (r.openFrame (.flowPair .awaitsKey))
  | _ => none

def readValue (r : Reading) : Option Reading :=
  match r.frames with
  | .blockMap fields .awaitsKey :: outer =>
    some { r with frames := .blockMap fields (.awaitsValue .blank) :: outer }
  | .blockMap fields (.hasKey k) :: outer =>
    some { r with frames := .blockMap fields (.awaitsValue k) :: outer }
  | .flowMap fields turn .awaitsKey :: outer =>
    some { r with frames := .flowMap fields turn (.awaitsValue .blank) :: outer }
  | .flowMap fields turn (.hasKey k) :: outer =>
    some { r with frames := .flowMap fields turn (.awaitsValue k) :: outer }
  | .flowPair (.hasKey k) :: outer => some { r with frames := .flowPair (.awaitsValue k) :: outer }
  | _ => none

def readComma (r : Reading) : Option Reading :=
  match r.frames with
  | .flowList items .afterItem :: outer => some { r with frames := .flowList items .afterComma :: outer }
  | .flowMap fields .afterItem .none :: outer =>
    some { r with frames := .flowMap fields .afterComma .none :: outer }
  | .flowMap _ _ .none :: _ => none
  | .flowMap fields _ pair :: outer =>
    some { r with frames := .flowMap (pair.complete ++ fields) .afterComma .none :: outer }
  | _ => none

/-- The end of the innermost collection, of the kind that the token ends. -/
def close (r : Reading) (t : Token) : Option Reading :=
  match t, r.frames with
  | .blockEnd, .blockList true items awaits :: outer =>
    place r.progress (.list (entries items awaits).reverse) outer
  | .blockEnd, .blockMap fields pair :: outer =>
    place r.progress (.record (pair.complete ++ fields).reverse) outer
  | .flowListEnd, .flowList items _ :: outer => place r.progress (.list items.reverse) outer
  | .flowMapEnd, .flowMap fields _ pair :: outer =>
    place r.progress (.record (pair.complete ++ fields).reverse) outer
  | _, _ => none

/-- The mark that follows a `?` in a flow list, where a key should: it ends the key, which is blank, and
    has no other effect. -/
def endBlankKey? (r : Reading) : Option Reading :=
  match r.frames with
  | .flowPair .awaitsKey :: outer => some { r with frames := .flowPair (.hasKey .blank) :: outer }
  | _ => none

/-- Reads a token that is no mark after a `?`. -/
def readToken (r : Reading) (t : Token) : Option Reading :=
  match t with
  | .scalar plain text => place r.progress (.scalar plain text) r.frames
  | .blockListStart => some (r.openFrame (.blockList true [] false))
  | .blockMapStart => some (r.openFrame (.blockMap [] .none))
  | .flowListStart => some (r.openFrame (.flowList [] .first))
  | .flowMapStart => some (r.openFrame (.flowMap [] .first .none))
  | .entry => r.readEntry
  | .key => r.settle.bind readKey
  | .value =>
    match r.frames with
    | .flowPair _ :: _ => r.readValue
    | _ => r.settle.bind readValue
  | .comma => r.settle.bind readComma
  | .blockEnd | .flowListEnd | .flowMapEnd => r.settle.bind (close · t)
  | .documentStart =>
    match r.frames, r.progress with
    | [], .before => some ⟨[], .opened⟩
    | _, _ => none
  | .documentEnd =>
    match r.frames, r.progress with
    | [], .opened => some ⟨[], .ended .blank⟩
    | [], .done root | [], .ended root => some ⟨[], .ended root⟩
    | _, _ => none

def step (r : Reading) (t : Token) : Option Reading :=
  match t with
  | .value | .comma | .flowListEnd =>
    match r.endBlankKey? with
    | some r => some r
    | none => r.readToken t
  | _ => r.readToken t

/-- The document, once all collections are closed. -/
def root? (r : Reading) : Option Node :=
  match r.frames, r.progress with
  | [], .before | [], .opened => some .blank
  | [], .done root | [], .ended root => some root
  | _, _ => none

end Reading

/-- The document that tokens describe. -/
def Node.ofTokens? (tokens : List Token) : Option Node :=
  (tokens.foldlM Reading.step ⟨[], .before⟩).bind Reading.root?

/-- The document that a text describes. -/
def Node.ofText? (t : Text) : Option Node := (tokens? t).bind Node.ofTokens?

end RouteTemplate.Yaml
