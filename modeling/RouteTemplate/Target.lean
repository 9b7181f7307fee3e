import RouteTemplate.Request
import RouteTemplate.Target.DomainName
import RouteTemplate.Target.Ipv4
import RouteTemplate.Target.Ipv6
import RouteTemplate.Text.Percent

/- Absolute targets: is the authority valid?

   After `scheme://` stand, in turn, user information up to the last `@`, a host, and a port after `:`.
   The schemes of the web have a host that is a domain name or an address, and take a backslash for a
   slash; a file may have a host and has no port; any other scheme has a host of its own kind. Control
   characters and blanks around a target do not count, and neither do tabs and line ends within it.
   `Target.fault?` names the first thing that is wrong with the authority. What follows the authority is
   never wrong. -/
namespace RouteTemplate

open Text

namespace Target

/-- How the authority of a scheme is read. -/
inductive SchemeKind where
  | web
  | file
  | other
  deriving DecidableEq

def SchemeKind.ofScheme (scheme : Text) : SchemeKind :=
  let scheme := scheme.map Char.toLower
  if ["http".toList, "https".toList, "ws".toList, "wss".toList, "ftp".toList].contains scheme then .web
  else if scheme = "file".toList then .file
  else .other

/-- The characters that end the authority of a scheme. -/
def SchemeKind.endsAuthority (kind : SchemeKind) (c : Char) : Bool :=
  c == '/' || c == '?' || c == '#' || (c == '\\' && kind ≠ .other)

/-- The text without control characters and blanks at the end, and without tabs and line ends. -/
def clean (t : Text) : Text :=
  (t.reverse.dropWhile (·.toNat ≤ 0x20)).reverse.filter fun c => c ≠ '\t' ∧ c ≠ '\n' ∧ c ≠ '\r'

/-- The text before and after the last `@`. -/
def splitUser (t : Text) : Option Text × Text :=
  match splitOnce '@' t.reverse with
  | none => (none, t)
  | some (host, user) => (some user.reverse, host.reverse)

/-- The text before the first colon that stands outside brackets, and the text from there on. -/
def splitPort (inBrackets : Bool) : Text → Text × Text
  | [] => ([], [])
  | c :: rest =>
    if c = ':' ∧ ¬inBrackets then ([], c :: rest)
    else
      let (host, port) := splitPort (c = '[' ∨ (inBrackets ∧ c ≠ ']')) rest
      (c :: host, port)

/-- What is wrong with an address in brackets; the text goes on after the opening one. -/
def bracketedFault? (opened : Text) : Option AuthorityFault :=
  if opened.getLast? = some ']' ∧ Ipv6.isValid opened.dropLast then none else some .invalidIpv6

/-- What is wrong with a host that is a domain name or an address. -/
def domainFault? : Text → Option AuthorityFault
  | '[' :: opened => bracketedFault? opened
  | host =>
    match (Percent.decode? host).bind DomainName.folded? with
    | none => some .invalidInternationalName
    | some [] => some .emptyHost
    | some name => if Ipv4.endsInNumber name ∧ ¬Ipv4.isValid name then some .invalidIpv4 else none

/-- The characters that the host of a scheme of no known kind may not hold. -/
def isForbiddenInHost (c : Char) : Bool := "\x00\t\n\r #/:<>?@[\\]^|".toList.contains c

/-- What is wrong with the host of a scheme of no known kind. -/
def opaqueFault? : Text → Option AuthorityFault
  | '[' :: opened => bracketedFault? opened
  | host => if host.any isForbiddenInHost then some .invalidDomainCharacter else none

/-- What is wrong with a port, which starts with a colon if there is one. A backslash ends it. -/
def portFault? (port : Text) : Option AuthorityFault :=
  let (digits, rest) := breakAt (!·.isDigit) (port.drop 1)
  if (numeral? 10 digits).all (· ≤ 65535) ∧ (rest.isEmpty ∨ rest.head? = some '\\') then none
  else some .invalidPort

/-- What is wrong with host and port. `hasUser` says that user information stands before them. -/
def hostFault? (kind : SchemeKind) (hasUser : Bool) (t : Text) : Option AuthorityFault :=
  let (host, port) := splitPort false t
  if host.isEmpty then
    -- a port or a user needs a host
    if kind = .web ∨ !port.isEmpty ∨ hasUser then some .emptyHost else none
  else
    (if kind = .other then opaqueFault? host else domainFault? host).or (portFault? port)

/-- What is wrong with the authority that the text begins with. -/
def authorityFault? (kind : SchemeKind) (t : Text) : Option AuthorityFault :=
  let (authority, rest) := breakAt kind.endsAuthority t
  match splitUser authority with
  | (none, host) => hostFault? kind false host
  | (some [], host) => if host.isEmpty ∧ !rest.isEmpty then some .emptyHost else hostFault? kind false host
  | (some user, host) => hostFault? kind (user ≠ [':']) host

/-- A drive letter is no host. -/
def isDriveLetter : Text → Bool
  | [letter, mark] => letter.isAlpha && (mark == ':' || mark == '|')
  | _ => false

/-- What is wrong with the host of a file. -/
def fileFault? (t : Text) : Option AuthorityFault :=
  let (host, _) := breakAt SchemeKind.file.endsAuthority t
  if host.isEmpty ∨ isDriveLetter host then none else domainFault? host

/-- What is wrong with an absolute target. A web scheme may be followed by any number of slashes. -/
def fault? (target : Text) : Option AuthorityFault :=
  match Request.splitScheme? target with
  | none => none
  | some (scheme, rest) =>
    let rest := clean rest
    match SchemeKind.ofScheme scheme with
    | .web => authorityFault? .web (rest.dropWhile fun c => c == '/' || c == '\\')
    | .file => fileFault? rest
    | .other => authorityFault? .other rest

end Target

/-- The request that a target describes. -/
def Request.parse (target : Text) : Except RequestError Request := parseJudged Target.fault? target

end RouteTemplate
