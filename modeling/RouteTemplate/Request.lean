import RouteTemplate.Dict
import RouteTemplate.Error

/- Requests: incoming targets taken apart for matching.

   A target is relative (`/a/b?x=1`) or absolute (`https://host/a/b?x=1#part`). Of an absolute target the
   scheme and the authority are cut off, once the target as a whole has been found valid; from there on
   both are read alike. The fragment is dropped, the path gives its non-empty segments, and the query
   gives a table in which the last value of a name counts. Text is kept as it was received: nothing is
   decoded here. -/
namespace RouteTemplate

open Text

/-- The segments and the query of a target. -/
structure Request where
  segments : List Text
  query : Dict Text
  deriving DecidableEq

namespace Request

/-- A request from segments, of which the empty ones do not count, and a query. -/
def ofSegments (segments : List Text) (query : Dict Text) : Request :=
  ⟨segments.filter fun s => !s.isEmpty, query⟩

/-- A scheme is a letter, then letters, digits, `+`, `-` and `.`, all of them ASCII. -/
def isScheme : Text → Bool
  | [] => false
  | c :: rest => c.isAlpha && rest.all fun c => c.isAlphanum || c == '+' || c == '-' || c == '.'

/-- The scheme of an absolute target, and the text after its `://`. -/
def splitScheme? (target : Text) : Option (Text × Text) :=
  match splitAtMark [':', '/', '/'] target with
  | some (scheme, rest) => if isScheme scheme then some (scheme, rest) else none
  | none => none

/-- The characters that end an authority. -/
def endsAuthority (c : Char) : Bool := c == '/' || c == '?' || c == '#'

/-- The entries of a query, or the first piece without `=`. -/
def readEntries : List Text → Except RequestError (List (Text × Text))
  | [] => .ok []
  | piece :: rest =>
    match splitOnce '=' piece with
    | none => .error (.malformedQuery piece)
    | some entry =>
      match readEntries rest with
      | .error e => .error e
      | .ok more => .ok (entry :: more)

/-- The request that a target without scheme and authority describes. -/
def parseRelative (target : Text) : Except RequestError Request :=
  let withoutFragment := before '#' target
  let query := ((splitOnce '?' withoutFragment).map Prod.snd).getD []
  match readEntries (pieces '&' query) with
  | .error e => .error e
  | .ok entries => .ok ⟨pieces '/' (before '?' withoutFragment), Dict.ofList entries⟩

/-- The request that a target describes, where `fault?` judges absolute targets as a whole. -/
def parseJudged (fault? : Text → Option AuthorityFault) (target : Text) : Except RequestError Request :=
  match splitScheme? target with
  | none => parseRelative target
  | some (_, rest) =>
    match fault? target with
    | some fault => .error (.invalidTarget target fault)
    | none => parseRelative (breakAt endsAuthority rest).2

/-- The request without the leading segments of `root`, if it begins with them. -/
def trim? (root : Text) (r : Request) : Option Request :=
  (after? (pieces '/' root) r.segments).map fun segments => { r with segments }

/-- The request as a relative target, its query in the order of the names. -/
def display (r : Request) : Text :=
  target r.segments (r.query.entries.map fun (name, value) => entry name value)

end Request

end RouteTemplate
