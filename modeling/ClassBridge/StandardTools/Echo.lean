import ClassBridge.StandardTools.Escape

/-!
# The tool `echo`

It prints its arguments on one line.  Arguments at the start that are made of option letters are
options: `n` leaves the end of the line out, `e` reads escapes, `E` does not.
-/

namespace ClassBridge.StandardTools

/-- How `echo` prints. -/
structure EchoOptions where
  endsLine : Bool := true
  escapes : Bool := false
  deriving DecidableEq, Repr

namespace EchoOptions

/-- The escapes of `echo`. -/
def style : EscapeStyle :=
  { digitsAfterZero := 3, quotes := false, numbers := false, strict := false }

/-- The options after one more option letter. -/
def letter (options : EchoOptions) (c : Char) : EchoOptions :=
  if c = 'n' then { options with endsLine := false }
  else { options with escapes := c = 'e' }

/-- The option letters of an argument, if it is made of nothing else. -/
def letters? (argument : String) : Option (List Char) :=
  match argument.toList with
  | '-' :: c :: cs => if (c :: cs).all ['n', 'e', 'E'].contains then some (c :: cs) else none
  | _ => none

/-- The options at the start of arguments, and the arguments after them. -/
def read (options : EchoOptions) : List String → EchoOptions × List String
  | [] => (options, [])
  | argument :: rest =>
    match letters? argument with
    | some letters => read (letters.foldl letter options) rest
    | none => (options, argument :: rest)

end EchoOptions

/-- What `echo` prints. -/
def echo (arguments : List String) : Print :=
  let (options, texts) := EchoOptions.read {} arguments
  let line := (String.intercalate " " texts).toList
  let print := if options.escapes then printEscaped EchoOptions.style 0 line else Print.text line
  print.append (if options.endsLine then Print.text ['\n'] else {})

end ClassBridge.StandardTools
