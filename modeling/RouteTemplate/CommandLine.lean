import RouteTemplate.Text

/- Command lines: the arguments of the program.

   A command line is a command with its operands; options may stand anywhere. `--config FILE` or `-c FILE`
   says where the methods are declared, before the command or after it, and the one after it counts.
   `--raw` takes values as they are. `--help` or `-h` asks for help, as the command `help` does. After `--`
   every argument is an operand. `CommandLine.read` reads arguments from left to right and stops at the
   first mistake. An option is entered when the next one begins, which is where a value that is missing or
   given twice shows. Options may stand between assignments. -/
namespace RouteTemplate

/-- What is wrong with a command line. -/
inductive UsageError where
  /-- Help was asked for. -/
  | help
  | missingCommand
  | unknownCommand (name : Text)
  /-- The command lacks the method or the target that it is about. -/
  | missingOperand
  | unknownArgument (argument : Text)
  /-- An option that takes a value has none. -/
  | missingValue
  /-- An option that takes no value has one. -/
  | unwantedValue (option : Text)
  /-- An option is given a second time. -/
  | repeated
  deriving DecidableEq

def UsageError.message : UsageError → Text
  | .help => "fill METHOD [NAME=VALUE]... [--raw] | resolve TARGET [--raw] | shapes METHOD".toList
  | .missingCommand => "no command given".toList
  | .unknownCommand name => "unknown command ".toList ++ Text.quoted name
  | .missingOperand => "the command needs an operand".toList
  | .unknownArgument argument => "unexpected argument ".toList ++ Text.quoted argument
  | .missingValue => "an option lacks its value".toList
  | .unwantedValue option => "no value is expected for ".toList ++ Text.quoted option
  | .repeated => "an argument is given twice".toList

/-- What is asked for. -/
inductive Command where
  | fill (method : Text) (assignments : List Text) (raw : Bool)
  | resolve (target : Text) (raw : Bool)
  | shapes (method : Text)
  deriving DecidableEq

structure CommandLine where
  /-- The file that declares the methods, if one is named. -/
  config : Option Text
  command : Command
  deriving DecidableEq

/-- A command by its name. -/
inductive Verb where
  | fill
  | resolve
  | shapes
  deriving DecidableEq

namespace Verb

def ofName? (name : Text) : Option Verb :=
  if name = "fill".toList then some fill
  else if name = "resolve".toList then some resolve
  else if name = "shapes".toList then some shapes
  else none

/-- Can values be taken raw? -/
def takesRaw : Verb → Bool
  | fill | resolve => true
  | shapes => false

/-- May assignments follow the operand? -/
def takesAssignments : Verb → Bool
  | fill => true
  | resolve | shapes => false

end Verb

/-- The command that asks for help. -/
def helpName : Text := "help".toList

/-- An argument by its form. -/
inductive ArgumentForm where
  /-- Exactly `--`. -/
  | closing
  /-- `--name` or `--name=value`. -/
  | long (name : Text) (value : Option Text)
  /-- `-x`, and what is attached to it. -/
  | short (letter : Char) (attached : Text)
  | plain

def ArgumentForm.ofText : Text → ArgumentForm
  | ['-', '-'] => .closing
  | '-' :: '-' :: rest =>
    match Text.splitOnce '=' rest with
    | some (name, value) => .long name (some value)
    | none => .long rest none
  | '-' :: letter :: attached => .short letter attached
  | _ => .plain

/-- An option with the value attached to it. -/
inductive CommandOption where
  | config (value : Option Text)
  | raw (value : Option Text)
  | help (value : Option Text)

/-- The option that an argument is, if the command has it: `none` for a plain argument. -/
def CommandOption.ofText? (takesRaw : Bool) (argument : Text) :
    Except UsageError (Option CommandOption) :=
  match ArgumentForm.ofText argument with
  | .closing | .plain => .ok none
  | .long name value =>
    if name = "config".toList then .ok (some (.config value))
    else if name = helpName then .ok (some (.help value))
    else if takesRaw ∧ name = "raw".toList then .ok (some (.raw value))
    else .error (.unknownArgument argument)
  | .short letter attached =>
    if letter = 'h' then .ok (some (.help none))
    else if letter = 'c' then
      match attached with
      | [] => .ok (some (.config none))
      | '=' :: value => .ok (some (.config (some value)))
      | value => .ok (some (.config (some value)))
    else .error (.unknownArgument argument)

/-- What has begun and is not entered yet. -/
inductive Pending where
  | nothing
  /-- The option `--config`, and its value once that is read. -/
  | config (value : Option Text)

/-- What was read of the options and operands of one command, or of what stands before it. -/
structure Reading where
  config : Option Text
  raw : Bool
  operand : Option Text
  assignments : List Text
  pending : Pending
  /-- `--` was read: no more options. -/
  closed : Bool

namespace Reading

def start : Reading := ⟨none, false, none, [], .nothing, false⟩

/-- Enters what is pending. -/
def commit (r : Reading) : Except UsageError Reading :=
  match r.pending with
  | .nothing => .ok r
  | .config none => .error .missingValue
  | .config (some value) =>
    if r.config.isSome then .error .repeated
    else .ok { r with config := some value, pending := .nothing }

/-- Is the value of `--config` to come next? -/
def awaitsValue (r : Reading) : Bool :=
  match r.pending with
  | .config none => !r.closed
  | _ => false

/-- Reads an option. -/
def option (r : Reading) : CommandOption → Except UsageError Reading
  | .config none => do
    let r ← r.commit
    return { r with pending := .config none }
  | .config (some value) => do
    let r ← r.commit
    commit { r with pending := .config (some value) }
  | .raw none => do
    let r ← r.commit
    if r.raw then .error .repeated else return { r with raw := true }
  | .help none => do
    let _ ← r.commit
    .error .help
  | .raw (some _) => .error (.unwantedValue "--raw".toList)
  | .help (some _) => .error (.unwantedValue "--help".toList)

/-- Reads an operand of a command: the one it is about, and then assignments. -/
def operandOf (verb : Verb) (argument : Text) (r : Reading) : Except UsageError Reading :=
  if r.operand.isNone then do
    let r ← r.commit
    return { r with operand := some argument }
  else if verb.takesAssignments then do
    let r ← r.commit
    return { r with assignments := r.assignments ++ [argument] }
  else .error (.unknownArgument argument)

/-- Reads an argument that may be an option, the value of one, or else what `other` makes of it. -/
def argument (takesRaw : Bool) (other : Text → Reading → Except UsageError Reading)
    (r : Reading) (argument : Text) : Except UsageError Reading :=
  if r.closed then other argument r
  else if argument = ['-', '-'] then .ok { r with closed := true }
  else do
    match ← CommandOption.ofText? takesRaw argument with
    | some option => r.option option
    | none =>
      if r.awaitsValue then return { r with pending := .config (some argument) }
      else other argument r

/-- Reads what follows the name of a command. -/
def ofCommand (verb : Verb) (arguments : List Text) : Except UsageError Reading := do
  let r ← arguments.foldlM (argument verb.takesRaw (operandOf verb)) start
  r.commit

end Reading

/-- The command with what was read for it. -/
def Command.ofReading (verb : Verb) (r : Reading) : Except UsageError Command :=
  match r.operand with
  | none => .error .missingOperand
  | some operand => .ok <|
    match verb with
    | .fill => .fill operand r.assignments r.raw
    | .resolve => .resolve operand r.raw
    | .shapes => .shapes operand

/-- What is wrong with an argument that should be the name of a command. After `--`, a name is no command. -/
def notACommand (argument : Text) (r : Reading) : UsageError :=
  if r.closed ∧ ((Verb.ofName? argument).isSome ∨ argument = helpName) then .unknownArgument argument
  else .unknownCommand argument

/-- What is said to a request for help about commands: at most one can be named. -/
def helpAbout : List Text → UsageError
  | [] => .help
  | name :: rest =>
    if (Verb.ofName? name).isNone ∧ name ≠ helpName then .unknownCommand name
    else match rest with
      | [] => .help
      | next :: _ => .unknownCommand next

namespace CommandLine

/-- Reads arguments after those already read, up to the end of the command. -/
def readFrom (r : Reading) : List Text → Except UsageError CommandLine
  | [] => do
    let _ ← r.commit
    .error .missingCommand
  | argument :: rest =>
    -- where the value of an option is to come, a name of a command is that value
    let verb := if r.closed || r.awaitsValue then none else Verb.ofName? argument
    match verb with
    | some verb => do
      let reading ← Reading.ofCommand verb rest
      let command ← Command.ofReading verb reading
      let r ← r.commit
      return ⟨reading.config.or r.config, command⟩
    | none =>
      if argument = helpName ∧ !r.closed ∧ !r.awaitsValue then .error (helpAbout rest)
      else do
        let r ← r.argument false (fun argument r => .error (notACommand argument r)) argument
        readFrom r rest

/-- The command line that the arguments of the program are. -/
def read (arguments : List Text) : Except UsageError CommandLine := readFrom .start arguments

end CommandLine

end RouteTemplate
