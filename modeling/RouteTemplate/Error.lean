import RouteTemplate.Text

/- What goes wrong with endpoints and requests.

   An `EndpointError` points at a mistake in a declaration or a call: a template that cannot be read, a
   parameter nobody declared, a value that is missing. A `RequestError` concerns one incoming target
   only. Each names its cause; `message` is the one place where a cause is put into words. -/
namespace RouteTemplate

open Text

/-- Why an endpoint could not be read, registered or filled. -/
inductive EndpointError where
  /-- A block is opened and not closed, or closed and not opened. -/
  | unbalancedOptional (template : Text)
  /-- A block has no key, or does not cover whole segments or entries. -/
  | malformedOptional (block : Text)
  /-- A query entry of a template has no name or no `=`. -/
  | malformedQueryEntry (entry : Text)
  | duplicateQueryParameter (name : Text)
  /-- The template refers to a parameter that the method does not declare. -/
  | unknownParameter (method name : Text)
  /-- A kept parameter has no value. -/
  | missingArgument (name : Text)
  | duplicateMethod (name : Text)
  deriving DecidableEq

/-- What makes the authority of an absolute target invalid. -/
inductive AuthorityFault where
  | emptyHost
  | invalidPort
  | invalidIpv4
  | invalidIpv6
  | invalidDomainCharacter
  | invalidInternationalName
  deriving DecidableEq

/-- Why the target of a request could not be decomposed. -/
inductive RequestError where
  /-- A query entry has no `=`. -/
  | malformedQuery (entry : Text)
  /-- An absolute target has no valid authority. -/
  | invalidTarget (target : Text) (fault : AuthorityFault)
  deriving DecidableEq

/-- The complaint about a query entry without `=`, alike for templates and requests. -/
def malformedEntryMessage (entry : Text) : Text :=
  "Malformed query entry ".toList ++ quoted entry ++ ": expected 'key=value'".toList

def EndpointError.message : EndpointError → Text
  | .unbalancedOptional template => "Unbalanced optional block in template ".toList ++ quoted template
  | .malformedOptional block => "Malformed optional block ".toList ++ quoted block
  | .malformedQueryEntry entry => malformedEntryMessage entry
  | .duplicateQueryParameter name => "Duplicate query parameter ".toList ++ quoted name
  | .unknownParameter method name =>
    "Unknown endpoint parameter ".toList ++ quoted name ++ " for method ".toList ++ quoted method
  | .missingArgument name => "Missing value for endpoint parameter ".toList ++ quoted name
  | .duplicateMethod name => "Method ".toList ++ quoted name ++ " is already registered".toList

def AuthorityFault.message : AuthorityFault → Text
  | .emptyHost => "empty host".toList
  | .invalidPort => "invalid port number".toList
  | .invalidIpv4 => "invalid IPv4 address".toList
  | .invalidIpv6 => "invalid IPv6 address".toList
  | .invalidDomainCharacter => "invalid domain character".toList
  | .invalidInternationalName => "invalid international domain name".toList

def RequestError.message : RequestError → Text
  | .malformedQuery entry => malformedEntryMessage entry
  | .invalidTarget target fault =>
    "Invalid request target ".toList ++ quoted target ++ ": ".toList ++ fault.message

end RouteTemplate
