import RouteTemplate.Text

/- Tokens of YAML text.

   The text is read one character at a time. Between tokens the reader keeps the indentation of the block
   collections that are open, innermost first, and, for each level of flow collections, the spot where a
   token began that may turn out to be a key. A collection in block style has no brackets of its own: it
   opens where an entry or a key stands further to the right than the one around it, and ends where text
   stands further to the left. That a scalar is a key shows only at the colon after it; the tokens that
   should stand before it are then put in at its spot.

   Block and flow collections, plain and quoted scalars, comments and document markers are read; anything
   else is refused. -/
namespace RouteTemplate.Yaml

inductive Token where
  | blockListStart
  | blockMapStart
  | blockEnd
  /-- The `-` of an entry. -/
  | entry
  | key
  | value
  | flowListStart
  | flowListEnd
  | flowMapStart
  | flowMapEnd
  | comma
  | scalar (plain : Bool) (text : Text)
  | documentStart
  | documentEnd
  deriving DecidableEq

def isBlank (c : Char) : Bool := c == ' ' || c == '\t'

/-- The ends of lines, once carriage returns and next-line characters are line feeds. -/
def isBreak (c : Char) : Bool := c == '\n' || c == '\u2028' || c == '\u2029'

/-- Does a blank, the end of the line or the end of the text come next? -/
def endsWord : Text → Bool
  | [] => true
  | c :: _ => isBlank c || isBreak c

/-- The characters that may stand in the text at all. -/
def isPrintable (c : Char) : Bool :=
  let n := c.toNat
  n == 0x9 || n == 0xA || n == 0xD || (0x20 ≤ n && n ≤ 0x7E) || n == 0x85 ||
    (0xA0 ≤ n && n ≤ 0xD7FF) || (0xE000 ≤ n && n ≤ 0xFFFD) || 0x10000 ≤ n

/-- A mark that may stand at the start of a line, where it is no text but takes up a column. -/
def byteOrderMark : Char := '\ufeff'

/-- The text with every line end that is not a separator character written as a line feed. -/
def unifyBreaks : Text → Text
  | [] => []
  | '\r' :: '\n' :: rest => '\n' :: unifyBreaks rest
  | c :: rest => (if c == '\r' || c == '\u0085' then '\n' else c) :: unifyBreaks rest

/-! Scalars over several lines. -/

/-- The text of a scalar, newest character first, and the blanks and line ends after it. -/
structure Folding where
  text : Text
  blanks : Text
  /-- A line ended after the text. -/
  broken : Bool
  firstBreak : Option Char
  moreBreaks : Text

namespace Folding

def start (text : Text) : Folding := ⟨text, [], false, none, []⟩

def blank (f : Folding) (c : Char) : Folding := if f.broken then f else { f with blanks := c :: f.blanks }

def lineBreak (f : Folding) (c : Char) : Folding :=
  if f.broken then { f with moreBreaks := c :: f.moreBreaks }
  else { f with blanks := [], broken := true, firstBreak := some c }

/-- A line end that does not count, nor do the blanks after it. -/
def hiddenBreak (f : Folding) : Folding := { f with broken := true }

/-- The text with the blanks or line ends after it: a single line feed becomes a space, and of several
    the first does not count. -/
def joined (f : Folding) : Text :=
  if !f.broken then f.blanks ++ f.text
  else match f.firstBreak, f.moreBreaks with
    | some '\n', [] => ' ' :: f.text
    | some '\n', more => more ++ f.text
    | first, more => more ++ first.toList ++ f.text

def push (f : Folding) (c : Char) : Folding := start (c :: f.joined)

end Folding

/-- What a backslash in double quotes is waiting for. -/
inductive Escape where
  | none
  /-- The character after the backslash. -/
  | code
  /-- That many more hexadecimal digits, and their value so far. -/
  | digits (left value : Nat)

inductive Mode where
  | gap
  | comment
  | plain (f : Folding)
  /-- In single quotes; `paired` says that the next character is the second of two quotes. -/
  | single (f : Folding) (paired : Bool)
  | double (f : Folding) (escape : Escape)
  /-- That many more characters belong to a token already read. -/
  | skip (count : Nat)

/-- Where a token begins that may be a key. -/
structure KeySpot where
  /-- Nothing but a key may stand there. -/
  required : Bool
  tokensBefore : Nat
  line : Nat
  column : Nat
  index : Nat

structure Scanner where
  mode : Mode
  line : Nat
  column : Nat
  /-- Bytes of the text so far. -/
  index : Nat
  /-- Columns of the open block collections, innermost first. -/
  indents : List Nat
  /-- The spot of a possible key in the innermost flow collection, or in the block context. -/
  spot : Option KeySpot
  /-- The spots of the contexts around, one for each open flow collection. -/
  outerSpots : List (Option KeySpot)
  /-- May a key begin here? -/
  keyAllowed : Bool
  /-- Newest first. -/
  tokens : List Token

namespace Scanner

def start : Scanner := ⟨.gap, 0, 0, 0, [], none, [], true, []⟩

def inFlow (s : Scanner) : Bool := !s.outerSpots.isEmpty

def emit (s : Scanner) (t : Token) : Scanner := { s with tokens := t :: s.tokens }

/-- The least column of text that belongs to the innermost block collection's values. -/
def margin (s : Scanner) : Nat :=
  match s.indents with
  | [] => 0
  | i :: _ => i + 1

/-- Moves past a character. -/
def advance (s : Scanner) (c : Char) : Scanner :=
  if isBreak c then { s with line := s.line + 1, column := 0, index := s.index + c.utf8Size }
  else { s with column := s.column + 1, index := s.index + c.utf8Size }

/-- A spot is out of reach on a later line, or after many bytes. -/
def isStale (s : Scanner) (k : KeySpot) : Bool := k.line < s.line || k.index + 1024 < s.index

/-- Forgets a spot that is out of reach; one that had to be a key may not get there. -/
def forgetStale (s : Scanner) : Option KeySpot → Option (Option KeySpot)
  | none => some none
  | some k => if !isStale s k then some (some k) else if k.required then none else some none

def dropStaleSpots (s : Scanner) : Option Scanner := do
  let spot ← s.forgetStale s.spot
  let outerSpots ← s.outerSpots.mapM s.forgetStale
  return { s with spot, outerSpots }

/-- Gives up the spot of a possible key. -/
def dropSpot (s : Scanner) : Option Scanner :=
  if s.spot.any (·.required) then none else some { s with spot := none }

/-- Remembers that a key may begin here. -/
def saveSpot (s : Scanner) : Option Scanner :=
  if !s.keyAllowed then some s
  else do
    let required := !s.inFlow && s.indents.head? == some s.column
    let s ← s.dropSpot
    return { s with spot := some ⟨required, s.tokens.length, s.line, s.column, s.index⟩ }

/-- Ends the block collections further to the right than the column. -/
def closeIndents (column : Nat) : List Nat → List Token → List Nat × List Token
  | [], tokens => ([], tokens)
  | i :: rest, tokens =>
    if column < i then closeIndents column rest (.blockEnd :: tokens) else (i :: rest, tokens)

def unindent (s : Scanner) : Scanner :=
  if s.inFlow then s
  else
    let (indents, tokens) := closeIndents s.column s.indents s.tokens
    { s with indents, tokens }

/-- Ends all block collections. -/
def unindentAll (s : Scanner) : Scanner :=
  if s.inFlow then s
  else { s with indents := [], tokens := List.replicate s.indents.length .blockEnd ++ s.tokens }

/-- Opens a block collection if the column is further to the right than the innermost one. -/
def indent (s : Scanner) (t : Token) : Scanner :=
  if !s.inFlow && s.margin ≤ s.column then { s with indents := s.column :: s.indents }.emit t else s

/-- A `-` before an entry. -/
def readEntry (s : Scanner) : Option Scanner :=
  if !s.inFlow && !s.keyAllowed then none
  else do
    let s ← (s.indent .blockListStart).dropSpot
    return { s with keyAllowed := true }.emit .entry

/-- A `?` before a key. -/
def readKey (s : Scanner) : Option Scanner :=
  if !s.inFlow && !s.keyAllowed then none
  else do
    let s ← (s.indent .blockMapStart).dropSpot
    return { s with keyAllowed := !s.inFlow }.emit .key

/-- A `:` before a value. Where a key may have begun, it has. -/
def readValue (s : Scanner) : Option Scanner :=
  match s.spot with
  | some k =>
    let opens := !s.inFlow && s.margin ≤ k.column
    let since := s.tokens.length - k.tokensBefore
    some { s with
      spot := none
      keyAllowed := false
      indents := if opens then k.column :: s.indents else s.indents
      tokens := .value :: s.tokens.take since ++ .key :: (if opens then [.blockMapStart] else []) ++
        s.tokens.drop since }
  | none =>
    if !s.inFlow && !s.keyAllowed then none
    else some ({ s.indent .blockMapStart with keyAllowed := !s.inFlow }.emit .value)

/-- The bracket that opens a flow collection. -/
def openFlow (s : Scanner) (t : Token) : Option Scanner := do
  let s ← s.saveSpot
  return { s with outerSpots := s.spot :: s.outerSpots, spot := none, keyAllowed := true }.emit t

/-- The bracket that closes a flow collection. -/
def closeFlow (s : Scanner) (t : Token) : Option Scanner := do
  let s ← s.dropSpot
  let s := match s.outerSpots with
    | [] => s
    | spot :: outer => { s with spot, outerSpots := outer }
  return { s with keyAllowed := false }.emit t

/-- Begins a scalar. -/
def openScalar (s : Scanner) (mode : Mode) : Option Scanner := do
  let s ← s.saveSpot
  return { s with keyAllowed := false, mode }

/-- A marker of three characters at the start of a line. -/
def readMarker (s : Scanner) (t : Token) : Option Scanner := do
  let s ← s.unindentAll.dropSpot
  return { s with keyAllowed := false, mode := .skip 2 }.emit t

/-- Does a document marker stand here? -/
def isMarker (s : Scanner) (c : Char) (rest : Text) : Bool :=
  s.column == 0 && (c == '-' || c == '.') && rest.head? == some c && (rest.drop 1).head? == some c &&
    endsWord (rest.drop 2)

/-- The characters that begin something other than a plain scalar. -/
def indicators : List Char :=
  ['-', '?', ':', ',', '[', ']', '{', '}', '#', '&', '*', '!', '|', '>', '\'', '"', '%', '@', '\x60']

/-- Reads the first character of a token. -/
def readToken (s : Scanner) (c : Char) (rest : Text) : Option Scanner := do
  let s ← s.dropStaleSpots
  let s := s.unindent
  if s.isMarker c rest then s.readMarker (if c == '-' then .documentStart else .documentEnd)
  else if c == '[' then s.openFlow .flowListStart
  else if c == '{' then s.openFlow .flowMapStart
  else if c == ']' then s.closeFlow .flowListEnd
  else if c == '}' then s.closeFlow .flowMapEnd
  else if c == ',' then
    let s ← s.dropSpot
    return { s with keyAllowed := true }.emit .comma
  else if c == '-' && endsWord rest then s.readEntry
  else if c == '?' && (s.inFlow || endsWord rest) then s.readKey
  else if c == ':' && (s.inFlow || endsWord rest) then s.readValue
  else if c == '\'' then s.openScalar (.single (.start []) false)
  else if c == '"' then s.openScalar (.double (.start []) .none)
  else if isBlank c || (indicators.contains c && c != '-' && c != '?' && c != ':') then none
  else s.openScalar (.plain (.start [c]))

/-- Reads a character between tokens. -/
def readGap (s : Scanner) (c : Char) (rest : Text) : Option Scanner :=
  if c == ' ' || (c == '\t' && (s.inFlow || !s.keyAllowed)) then some s
  else if c == byteOrderMark && s.column == 0 then some s
  else if c == '#' then some { s with mode := .comment }
  else if isBreak c then some { s with mode := .gap, keyAllowed := s.keyAllowed || !s.inFlow }
  else s.readToken c rest

/-- Ends a scalar. A key may follow a plain one on a later line. -/
def closeScalar (s : Scanner) (plain : Bool) (text : Text) : Scanner :=
  { s with mode := .gap }.emit (.scalar plain text.reverse)

def closePlain (s : Scanner) (f : Folding) : Scanner :=
  { s with keyAllowed := s.keyAllowed || f.broken }.closeScalar true f.text

/-- The characters that end a plain scalar inside a flow collection. -/
def flowIndicators : List Char := [',', '[', ']', '{', '}']

/-- Reads a character in or after a plain scalar. -/
def readPlain (s : Scanner) (f : Folding) (c : Char) (rest : Text) : Option Scanner :=
  if isBlank c then
    if f.broken && c == '\t' && s.column < s.margin then none
    else some { s with mode := .plain (f.blank c) }
  else if isBreak c then some { s with mode := .plain (f.lineBreak c) }
  else
    -- only after a blank can a comment, a marker or the next collection begin
    let afterBlank := f.broken || !f.blanks.isEmpty
    if afterBlank && ((!s.inFlow && s.column < s.margin) || s.isMarker c rest || c == '#') then
      (s.closePlain f).readGap c rest
    else if s.inFlow && c == ':' && rest.head?.any fun d => d == '?' || flowIndicators.contains d then none
    else if (c == ':' && endsWord rest) || (s.inFlow && flowIndicators.contains c) then
      (s.closePlain f).readGap c rest
    else some { s with mode := .plain (f.push c) }

/-- Reads a character in single quotes. Two quotes stand for one. -/
def readSingle (s : Scanner) (f : Folding) (paired : Bool) (c : Char) (rest : Text) : Option Scanner :=
  if paired then some { s with mode := .single f false }
  else if isBlank c then some { s with mode := .single (f.blank c) false }
  else if isBreak c then some { s with mode := .single (f.lineBreak c) false }
  else if s.isMarker c rest then none
  else if c != '\'' then some { s with mode := .single (f.push c) false }
  else if rest.head? == some '\'' then some { s with mode := .single (f.push '\'') true }
  else some (s.closeScalar false f.joined)

/-- The characters that a backslash and one character stand for. -/
def escapes : List (Char × Char) :=
  [('0', '\x00'), ('a', '\x07'), ('b', '\x08'), ('t', '\t'), ('\t', '\t'), ('n', '\n'), ('v', '\x0b'),
    ('f', '\x0c'), ('r', '\r'), ('e', '\x1b'), (' ', ' '), ('"', '"'), ('/', '/'),
    ('\\', '\\'), ('N', '\u0085'), ('_', '\u00a0'), ('L', '\u2028'), ('P', '\u2029')]

/-- How many hexadecimal digits follow a backslash and the character. -/
def escapeDigits (c : Char) : Option Nat :=
  if c == 'x' then some 2 else if c == 'u' then some 4 else if c == 'U' then some 8 else none

/-- Reads a character in double quotes. -/
def readDouble (s : Scanner) (f : Folding) (escape : Escape) (c : Char) (rest : Text) : Option Scanner :=
  match escape with
  | .code =>
    if isBreak c then some { s with mode := .double f.hiddenBreak .none }
    else match escapes.lookup c, escapeDigits c with
      | some d, _ => some { s with mode := .double (f.push d) .none }
      | none, some n => some { s with mode := .double f (.digits n 0) }
      | none, none => none
  | .digits left value =>
    match Text.digitValue? 16 c with
    | none => none
    | some d =>
      let value := 16 * value + d
      if 1 < left then some { s with mode := .double f (.digits (left - 1) value) }
      else if h : value.isValidChar then
        some { s with mode := .double (f.push (Char.ofNatAux value h)) .none }
      else none
  | .none =>
    if isBlank c then some { s with mode := .double (f.blank c) .none }
    else if isBreak c then some { s with mode := .double (f.lineBreak c) .none }
    else if s.isMarker c rest then none
    else if c == '"' then some (s.closeScalar false f.joined)
    else if c == '\\' then some { s with mode := .double (.start f.joined) .code }
    else some { s with mode := .double (f.push c) .none }

/-- Reads one character; `rest` is the text after it. -/
def step (s : Scanner) (c : Char) (rest : Text) : Option Scanner :=
  match s.mode with
  | .gap => s.readGap c rest
  | .comment => if isBreak c then s.readGap c rest else some s
  | .plain f => s.readPlain f c rest
  | .single f paired => s.readSingle f paired c rest
  | .double f escape => s.readDouble f escape c rest
  | .skip count => some { s with mode := if count ≤ 1 then .gap else .skip (count - 1) }

/-- The end of the text. -/
def finish (s : Scanner) : Option (List Token) := do
  let s ← match s.mode with
    | .gap | .comment | .skip _ => some s
    | .plain f => some (s.closePlain f)
    | .single .. | .double .. => none
  let s ← s.dropStaleSpots
  let s ← s.unindentAll.dropSpot
  return s.tokens.reverse

/-- Reads the rest of the text. -/
def run (s : Scanner) : Text → Option (List Token)
  | [] => s.finish
  | c :: rest =>
    match s.step c rest with
    | none => none
    | some s => (s.advance c).run rest

end Scanner

/-- The tokens of a text, if it can be read. -/
def tokens? (t : Text) : Option (List Token) :=
  if t.all isPrintable then Scanner.start.run (unifyBreaks t) else none

end RouteTemplate.Yaml
