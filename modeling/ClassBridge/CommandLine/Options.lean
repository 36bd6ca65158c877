/-!
# Options on a command line

A command line is read from left to right.  An argument is a long option, a cluster of short ones,
the value of the option before it, or a word.  Reading stops at the first mistake, or at an option
that asks for nothing but a text about the program.
-/

namespace ClassBridge.CommandLine

/-- What an option does. -/
inductive OptionRole where
  /-- Takes a value; may be given once. -/
  | value
  /-- Is there or not; may be given once. -/
  | flag
  /-- May be given any number of times. -/
  | counter
  /-- Asks for the help text. -/
  | help
  /-- Asks for the version. -/
  | version
  deriving DecidableEq, Repr

/-- An option that a command knows. -/
structure OptionSpec where
  long : String
  short : Option Char := none
  role : OptionRole
  deriving DecidableEq, Repr

/-- What is wrong with a command line. -/
inductive UsageError where
  | unexpected (argument : String)
  | unneededValue (option : String)
  | missingValue (option : String)
  | emptyValue (option : String)
  | repeated (option : String)
  | missingCommand
  | unknownCommand (name : String)
  deriving DecidableEq, Repr

/-- The text of a mistake. -/
def UsageError.message : UsageError → String
  | .unexpected argument => "unexpected argument '" ++ argument ++ "' found"
  | .unneededValue option =>
    "unexpected value for '--" ++ option ++ "' found; no more were expected"
  | .missingValue option | .emptyValue option =>
    "a value is required for '--" ++ option ++ "' but none was supplied"
  | .repeated option => "the argument '--" ++ option ++ "' cannot be used multiple times"
  | .missingCommand => "a command is required but one was not provided"
  | .unknownCommand name => "unrecognized command '" ++ name ++ "'"

/-- Why reading a command line stops early. -/
inductive Stop where
  | mistake (error : UsageError)
  | help
  | version
  deriving DecidableEq, Repr

/-- The options that were read, each with its value; a flag has an empty one. -/
abbrev Uses : Type := List (String × String)

/-- What was read so far, and the option that waits for its value. -/
structure Reading where
  uses : Uses := []
  waiting : Option OptionSpec := none
  deriving DecidableEq, Repr

namespace Reading

/-- Takes note of an option that takes no value. -/
def useFlag (r : Reading) (spec : OptionSpec) : Except Stop Reading :=
  match spec.role with
  | .help => .error .help
  | .version => .error .version
  | .counter => .ok { r with uses := r.uses ++ [(spec.long, "")] }
  | _ =>
    if (r.uses.lookup spec.long).isSome then .error (.mistake (.repeated spec.long))
    else .ok { r with uses := r.uses ++ [(spec.long, "")] }

/-- Takes note of the value of an option. -/
def useValue (r : Reading) (spec : OptionSpec) (value : String) : Except Stop Reading :=
  if (r.uses.lookup spec.long).isSome then .error (.mistake (.repeated spec.long))
  else if value = "" then .error (.mistake (.emptyValue spec.long))
  else .ok { uses := r.uses ++ [(spec.long, value)], waiting := none }

/-- Refuses to go on while an option waits for its value. -/
def settled (r : Reading) : Except Stop Unit :=
  match r.waiting with
  | some spec => .error (.mistake (.missingValue spec.long))
  | none => .ok ()

/-- Reads a long option, with the value that may be attached to it. -/
def readLong (specs : List OptionSpec) (r : Reading) (name : String) (value : Option String) :
    Except Stop Reading :=
  match specs.find? fun spec => spec.long == name with
  | none => .error (.mistake (.unexpected ("--" ++ name)))
  | some spec =>
    if spec.role = .value then
      match value with
      | some value => r.useValue spec value
      | none => .ok { r with waiting := some spec }
    else match value with
      | some _ => .error (.mistake (.unneededValue spec.long))
      | none => r.useFlag spec

/-- Reads a cluster of short options; an option with a value takes the rest of the cluster. -/
def readShort (specs : List OptionSpec) (r : Reading) : List Char → Except Stop Reading
  | [] => .ok r
  | c :: cs =>
    match specs.find? fun spec => spec.short == some c with
    | none => .error (.mistake (.unexpected (String.ofList ['-', c])))
    | some spec =>
      if spec.role = .value then
        match cs with
        | [] => .ok { r with waiting := some spec }
        | '=' :: value => r.useValue spec (String.ofList value)
        | value => r.useValue spec (String.ofList value)
      else do readShort specs (← r.useFlag spec) cs

end Reading

/-- What an argument looks like. -/
inductive Shape where
  /-- Two dashes: only words follow. -/
  | dashes
  | long (name : String) (value : Option String)
  | short (letters : List Char)
  | word
  deriving DecidableEq, Repr

/-- What an argument looks like; a lone dash is a word. -/
def Shape.of (argument : String) : Shape :=
  match argument.toList with
  | ['-', '-'] => .dashes
  | '-' :: '-' :: rest =>
    .long (String.ofList (rest.takeWhile (· != '=')))
      (match rest.dropWhile (· != '=') with
        | _ :: value => some (String.ofList value)
        | [] => none)
  | '-' :: c :: cs => .short (c :: cs)
  | _ => .word

/-- Reads arguments up to the first word that is no value: the options before it, the word, and
the arguments after it. -/
def readOptions (specs : List OptionSpec) (r : Reading) :
    List String → Except Stop (Uses × Option (String × List String))
  | [] => do
    r.settled
    return (r.uses, none)
  | argument :: rest =>
    match Shape.of argument with
    | .dashes => do
      r.settled
      match rest with
      | [] => return (r.uses, none)
      | word :: _ => .error (.mistake (.unexpected word))
    | .long name value => do
      r.settled
      readOptions specs (← r.readLong specs name value) rest
    | .short letters => do
      r.settled
      readOptions specs (← r.readShort specs letters) rest
    | .word =>
      match r.waiting with
      | some spec => do readOptions specs (← r.useValue spec argument) rest
      | none => .ok (r.uses, some (argument, rest))

end ClassBridge.CommandLine
