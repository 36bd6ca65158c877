import ClassBridge.StandardTools.Printf.Format

/-!
# The tool `printf`

Its first argument is a format, which is gone through again and again until all other arguments
are used.  A missing argument counts as empty.  Arguments that the format never asks for are
ignored.
-/

namespace ClassBridge.StandardTools

/-- What `printf` has printed, the arguments it has not used, and its complaints. -/
structure PrintfState where
  print : Print := {}
  arguments : List String
  complaints : List Complaint := []
  deriving DecidableEq, Repr

namespace PrintfState

/-- The state after a print. -/
def write (s : PrintfState) (print : Print) : PrintfState :=
  { s with print := s.print.append print }

/-- The next argument, and the state without it. -/
def next (s : PrintfState) : String × PrintfState :=
  (s.arguments.headD "", { s with arguments := s.arguments.tail })

/-- The state after complaints. -/
def complain (s : PrintfState) (complaints : List Complaint) : PrintfState :=
  { s with complaints := s.complaints ++ complaints }

/-- The largest number that a width or a precision may be given by. -/
def amountLimit : Nat := Nat.pow 2 31 - 1

/-- The largest width and precision that can be laid out. -/
def layoutLimit : Nat := amountLimit - 32

/-- The failure over an argument that should say how much. -/
def refusal (words argument : String) : Print :=
  let words := Quotation.bytesOf words ++ Quotation.inMessage argument.toUTF8.toList
  { halt := some (.fault words) }

/-- A width, which is negative if the field is to be aligned to the left. -/
def width (amount : Amount) (s : PrintfState) : Int × PrintfState :=
  match amount with
  | .absent => (0, s)
  | .given n => (n, s)
  | .argument =>
    let (argument, s) := s.next
    let (n, complaints) := Numeral.signed argument
    let s := s.complain complaints
    if -(amountLimit : Int) - 1 ≤ n && n ≤ amountLimit then (n, s)
    else (0, s.write (refusal "invalid field width: " argument))

/-- A precision; a negative one counts as none. -/
def precision (amount : Amount) (s : PrintfState) : Option Nat × PrintfState :=
  match amount with
  | .absent => (none, s)
  | .given n => (some n, s)
  | .argument =>
    let (argument, s) := s.next
    let (n, complaints) := Numeral.signed argument
    let s := s.complain complaints
    if n < 0 then (none, s)
    else if n ≤ amountLimit then (some n.toNat, s)
    else (none, s.write (refusal "invalid precision: " argument))

/-- Bytes brought to a width. -/
def aligned (leftAligned : Bool) (width : Nat) (bytes : List UInt8) : List UInt8 :=
  let blanks := List.replicate (width - bytes.length) 32
  if leftAligned then bytes ++ blanks else blanks ++ bytes

/-- The bytes of an ASCII text, in capital letters on demand. -/
def numberBytes (upper : Bool) (cs : List Char) : List UInt8 :=
  Quotation.bytesOf (String.ofList (if upper then cs.map Char.toUpper else cs))

/-- What a directive makes of an argument, once its width and its precision are known. -/
def convert (directive : Directive) (flags : FieldFlags) (width : Nat) (precision : Option Nat)
    (argument : String) : Reading (List UInt8) :=
  let bytes := argument.toUTF8.toList
  match directive.conversion with
  | .text =>
    (aligned flags.leftAligned width (bytes.take (precision.getD bytes.length)), [])
  | .character => (aligned flags.leftAligned width [bytes.headD 0], [])
  | .signed =>
    let (n, complaints) := Numeral.signed argument
    (numberBytes directive.upper (flags.signed width precision n), complaints)
  | .unsigned base =>
    let (n, complaints) := Numeral.unsigned argument
    (numberBytes directive.upper (flags.unsigned width precision base n), complaints)
  | .real style =>
    let (number, complaints) := Numeral.real argument
    (numberBytes directive.upper (flags.real width precision style number), complaints)

/-- A width and a precision, if neither is refused. -/
def layout (widthAmount precisionAmount : Amount) (s : PrintfState) :
    (Int × Option Nat) × PrintfState :=
  let (width, s) := s.width widthAmount
  if s.print.halt.isSome then ((width, none), s)
  else
    let (precision, s) := s.precision precisionAmount
    ((width, precision), s)

/-- The state after a directive. -/
def direct (directive : Directive) (s : PrintfState) : PrintfState :=
  let ((width, precision), s) := s.layout directive.width directive.precision
  let (argument, s) := s.next
  if s.print.halt.isSome then s
  else if layoutLimit ≤ width.natAbs || layoutLimit ≤ precision.getD 0 then
    s.write (Print.fault "write error")
  else
    let flags := { directive.flags with
      leftAligned := directive.flags.leftAligned || width < 0 }
    let (bytes, complaints) := convert directive flags width.natAbs precision argument
    (s.complain complaints).write { bytes }

/-- The state after a part of the format. -/
def step (s : PrintfState) (part : FormatPart) : PrintfState :=
  if s.print.halt.isSome then s
  else match part with
    | .fixed print => s.write print
    | .escaped =>
      let (argument, s) := s.next
      s.write (printEscaped FormatPart.argumentStyle 0 argument.toList)
    | .quoted =>
      if s.arguments.isEmpty then s
      else
        let (argument, s) := s.next
        s.write { bytes := Quotation.asWord argument.toUTF8.toList }
    | .directive directive => s.direct directive
    | .invalid width precision words =>
      (s.layout width precision).2.write { halt := some (.fault words) }

/-- Goes through the format up to `rounds` times more, while it uses arguments and there are
some. -/
def rounds (parts : List FormatPart) : (rounds : Nat) → PrintfState → PrintfState
  | 0, s => s
  | n + 1, s =>
    let next := parts.foldl step s
    if next.print.halt.isSome || next.arguments.isEmpty
      || next.arguments.length == s.arguments.length then next
    else rounds parts n next

end PrintfState

/-- What `printf` prints, and its complaints. -/
def printf (arguments : List String) : Print × List Complaint :=
  let arguments := if arguments.head? = some "--" then arguments.tail else arguments
  match arguments with
  | [] => (Print.fault "missing operand", [])
  | format :: rest =>
    let final := PrintfState.rounds (FormatPart.ofFormat 0 format.toList) (rest.length + 1)
      { arguments := rest }
    (final.print, final.complaints)

end ClassBridge.StandardTools
