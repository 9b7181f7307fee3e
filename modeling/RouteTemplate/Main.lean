import RouteTemplate.Program

/- The command line tool: reads the file that its command line names, prints the output on standard output
   and a complaint on standard error. -/
namespace RouteTemplate

/-- The text of a file, if it can be read. -/
def readText? (path : Text) : IO (Option Text) := do
  try
    let contents ← IO.FS.readFile (String.ofList path)
    return some contents.toList
  catch _ => return none

/-- Complains about a failure; help is no failure. -/
def complain (failure : Failure) : IO UInt32 := do
  IO.eprintln (String.ofList failure.message)
  return match failure with
    | .usage .help => 0
    | .usage _ => 2
    | _ => 1

end RouteTemplate

open RouteTemplate in
def main (arguments : List String) : IO UInt32 := do
  match CommandLine.read (arguments.map (·.toList)) with
  | .error e => complain (.usage e)
  | .ok line =>
    match (line.run (← readText? line.path)).1 with
    | .error e => complain e
    | .ok output =>
      IO.println (String.ofList output)
      return 0
