import RouteTemplate.Command
import RouteTemplate.CommandLine
import RouteTemplate.Session.Load

/- The program: from a command line and the file it names to what is printed.

   The program reads its command line, loads the file that declares the methods, and runs the command on
   the session. What the file holds is an argument here, so that a run is a function. -/
namespace RouteTemplate

/-- Why a run prints nothing. -/
inductive Failure where
  | usage (cause : UsageError)
  /-- The file that declares the methods cannot be read. -/
  | unreadable (path : Text)
  | load (cause : LoadError)
  | command (cause : CommandError)
  /-- No method matches the target. -/
  | unmatched (target : Text)
  deriving DecidableEq

def Failure.message : Failure → Text
  | .usage cause => cause.message
  | .unreadable path => "Could not read methods file ".toList ++ Text.quoted path
  | .load cause => cause.message
  | .command cause => cause.message
  | .unmatched target => "No method matches ".toList ++ Text.quoted target

/-- What a command prints, and the session after it. -/
def Command.run (s : Session) : Command → Except Failure Text × Session
  | .fill method assignments raw => ((s.fill method assignments raw).mapError .command, s)
  | .resolve target raw =>
    match s.identify target raw with
    | (.error e, s) => (.error (.command e), s)
    | (.ok none, s) => (.error (.unmatched target), s)
    | (.ok (some found), s) => (.ok found.display, s)
  | .shapes method =>
    match s.shapes method with
    | (.error e, s) => (.error (.command e), s)
    | (.ok lines, s) => (.ok (Text.join ['\n'] lines), s)

namespace CommandLine

/-- The file that declares the methods. -/
def path (line : CommandLine) : Text := line.config.getD "methods.yml".toList

/-- What is printed when the file at `path` holds `contents`, and what is reported. -/
def run (line : CommandLine) (contents : Option Text) : Except Failure Text × List Event :=
  match contents with
  | none => (.error (.unreadable line.path), [])
  | some contents =>
    match Session.loadYaml contents with
    | (.error e, log) => (.error (.load e), log)
    | (.ok s, _) =>
      let s := s.report [.methodsLoaded line.path s.registry.methods.length]
      let (output, s) := line.command.run s
      (output, s.log)

end CommandLine

end RouteTemplate
