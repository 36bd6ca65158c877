import ClassBridge.Translator.Basic

/-!
# Command-line tools as translators

The tool gets the header and a fixed set of options, and what it prints are the raw bindings.  How
a command is carried out is left to the caller, as a function from commands to their outcome.
-/

namespace ClassBridge

/-- A command line. -/
structure Command where
  program : String
  args : List String
  deriving DecidableEq, Repr

/-- What a command that was started left behind. -/
structure Completion where
  output : ByteArray
  stderr : ByteArray := ByteArray.empty
  /-- None if a signal ended the command. -/
  code : Option Int

/-- A way to carry out commands. -/
abbrev Runner : Type := Command → Except FileError Completion

/-- The command that translates a header. -/
def toolCommand (tool header : String) (flags : TranslatorFlags) : Command where
  program := tool
  args := [header, "--no-layout-tests", "--no-derive-debug", "--no-derive-copy",
    "--size_t-is-usize", "--rust-target=" ++ flags.foreignTarget, "--"] ++ flags.headerArgs

/-- Whether a text can be handed to the system, for which a NUL byte ends a text. -/
def isCommandText (text : String) : Bool := !text.toList.contains '\x00'

/-- Whether a command line can be handed to the system. -/
def Command.isClean (command : Command) : Bool :=
  (command.program :: command.args).all isCommandText

/-- A command line as it is shown: what cannot be handed to the system is only mentioned. -/
def Command.shown (command : Command) : Command :=
  let shown (text : String) : String :=
    if isCommandText text then text else "<string-with-nul>"
  { program := shown command.program, args := command.args.map shown }

/-- Starts a command. -/
def Command.start (command : Command) (run : Runner) : Except StartFault Completion :=
  if command.isClean then (run command).mapError .refused else .error .nulByte

/-- The raw bindings that a tool makes of a header. -/
def translateByTool (run : Runner) (tool header : String) (flags : TranslatorFlags) :
    Except TranslateError String :=
  match (toolCommand tool header flags).start run with
  | .error fault => .error (.notStarted tool fault)
  | .ok completion =>
    if completion.code != some 0 then
      .error (.failed tool header completion.code (Utf8.lossy completion.stderr.toList))
    else match String.fromUTF8? completion.output with
      | some text => .ok text
      | none =>
        .error (.invalidOutput tool ((Utf8.fault? completion.output.toList).getD ⟨0, none⟩))

/-- The translator that uses a tool. -/
def Translator.ofTool {σ : Type} (run : Runner) (tool : String) : Translator σ where
  name := tool
  translate _ header flags journal := (translateByTool run tool header flags, journal)

end ClassBridge
