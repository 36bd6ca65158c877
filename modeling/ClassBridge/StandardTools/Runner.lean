import ClassBridge.StandardTools.Echo
import ClassBridge.StandardTools.Printf
import ClassBridge.Translator.Tool

/-!
# The standard tools as translators

Four small tools that every system has, as functions.  They let a header be translated where no
other program can be started; every other tool is missing.  A tool may be called by its name or by
its usual path.
-/

namespace ClassBridge.StandardTools

/-- What a tool leaves behind that prints, and complains if it has to. -/
def completion (tool : String) (print : Print) (complaints : List Complaint) : Completion :=
  let line (words : List UInt8) : List UInt8 :=
    Quotation.bytesOf (tool ++ ": ") ++ words ++ Quotation.bytesOf "\n"
  let said := complaints.map (·.words)
  let (said, fails) :=
    match print.halt with
    | some (.fault words) => (said ++ [words], true)
    | some .done => (said, false)
    | none => (said, complaints.any (·.fails))
  { output := ⟨print.bytes.toArray⟩
    stderr := ⟨(said.flatMap line).toArray⟩
    code := some (if fails then 1 else 0) }

/-- The names of the tools. -/
def names : List String := ["true", "false", "echo", "printf"]

/-- The tool that a program is called by. -/
def tool? (program : String) : Option String :=
  names.find? fun name => ["", "/bin/", "/usr/bin/"].any fun path => path ++ name == program

/-- Why a program that is none of the tools does not start.  A path is followed on its own; a name
is looked for among directories, where it may be too long, and where the names for the directories
themselves are no programs. -/
def refusal (program : String) : FileError :=
  if program.toList.contains '/' then
    match ({} : FileSystem).find program with
    | .ok _ => .denied
    | .error error => error
  else if program == "." || program == ".." then .denied
  else if FileSystem.nameLimit < program.utf8ByteSize then .nameTooLong
  else .notFound

/-- Carries out the commands of the standard tools. -/
def run : Runner := fun command =>
  match tool? command.program with
  | some "true" => .ok { output := ByteArray.empty, code := some 0 }
  | some "false" => .ok { output := ByteArray.empty, code := some 1 }
  | some "echo" => .ok { output := ⟨(echo command.args).bytes.toArray⟩, code := some 0 }
  | some "printf" =>
    let (print, complaints) := printf command.args
    .ok (completion command.program print complaints)
  | _ => .error (refusal command.program)

end ClassBridge.StandardTools
