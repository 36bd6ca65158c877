import ClassBridge.StandardTools.Printf.Field

/-!
# Formats of `printf`

A format is a text with escapes and directives.  A directive begins with a percent sign; flags, a
width, a precision and letters for a size, which have no effect, may precede the letter that says
how to write the next argument.
-/

namespace ClassBridge.StandardTools

/-- What a directive makes of an argument. -/
inductive Conversion where
  /-- The text, or its first bytes. -/
  | text
  /-- The first byte. -/
  | character
  | signed
  | unsigned (base : Nat)
  | real (style : FieldFlags.RealStyle)
  deriving DecidableEq, Repr

/-- A width or a precision. -/
inductive Amount where
  | absent
  | given (n : Nat)
  /-- The next argument says how much. -/
  | argument
  deriving DecidableEq, Repr

/-- How a directive writes an argument. -/
structure Directive where
  flags : FieldFlags
  width : Amount
  precision : Amount
  conversion : Conversion
  /-- Whether letters are capital. -/
  upper : Bool
  deriving DecidableEq, Repr

/-- A part of a format. -/
inductive FormatPart where
  | fixed (print : Print)
  /-- The next argument with its escapes. -/
  | escaped
  /-- The next argument as a word of a shell. -/
  | quoted
  | directive (directive : Directive)
  /-- A directive that there is none like, with what is said about it. -/
  | invalid (width precision : Amount) (words : List UInt8)
  deriving DecidableEq, Repr

namespace FormatPart

/-- The escapes of a format. -/
def formatStyle : EscapeStyle :=
  { digitsAfterZero := 2, quotes := true, numbers := true, strict := true }

/-- The escapes of an argument. -/
def argumentStyle : EscapeStyle :=
  { digitsAfterZero := 3, quotes := true, numbers := true, strict := true }

/-- The conversion of a letter. -/
def conversion? (c : Char) : Option Conversion :=
  match c with
  | 's' => some .text
  | 'c' => some .character
  | 'd' | 'i' => some .signed
  | 'u' => some (.unsigned 10)
  | 'o' => some (.unsigned 8)
  | 'x' | 'X' => some (.unsigned 16)
  | 'f' | 'F' => some (.real .fixed)
  | 'e' | 'E' => some (.real .scientific)
  | 'g' | 'G' => some (.real .general)
  | 'a' | 'A' => some (.real .hexadecimal)
  | _ => none

/-- The conversions that a flag forbids. -/
def forbiddenBy (flag : Char) : String :=
  match flag with
  | '\'' | 'I' => "aAceEosxX"
  | '#' => "cdisu"
  | '0' => "cs"
  | '.' => "c"
  | _ => ""

/-- The flags of a field. -/
def fieldFlags (flags : List Char) : FieldFlags where
  leftAligned := flags.contains '-'
  plus := flags.contains '+'
  blank := flags.contains ' '
  alternate := flags.contains '#'
  zeroPadded := flags.contains '0'

/-- A width or a precision at the front of a text. -/
def splitAmount (cs : List Char) : Amount × List Char :=
  match cs with
  | '*' :: rest => (.argument, rest)
  | cs =>
    match cs.takeWhile Char.isDigit with
    | [] => (.absent, cs)
    | digits => (.given (Numeral.valueOf 10 digits), cs.dropWhile Char.isDigit)

/-- The precision at the front of a text; after a point without digits it is zero. -/
def splitPrecision (cs : List Char) : Amount × List Char :=
  match cs with
  | '.' :: rest =>
    match splitAmount rest with
    | (.absent, rest) => (.given 0, rest)
    | precision => precision
  | cs => (.absent, cs)

/-- What is said about a directive that there is none like, given what is written up to its last
byte. -/
def invalidWords (written : List Char) (last : Option Char) : List UInt8 :=
  Quotation.bytesOf (String.ofList ('%' :: written))
    ++ (Quotation.bytesOf (String.ofList last.toList)).take 1
    ++ Quotation.bytesOf ": invalid conversion specification"

/-- Whether flags, among them a point for a precision, go with the letter of a conversion. -/
def isAllowed (flags : List Char) (letter : Char) : Bool :=
  flags.all fun flag => !(forbiddenBy flag).toList.contains letter

/-- The part that the text after a percent sign asks for, and what follows it. -/
def splitDirective (cs : List Char) : FormatPart × List Char :=
  match cs with
  | '%' :: rest => (.fixed (Print.text ['%']), rest)
  | 'b' :: rest => (.escaped, rest)
  | 'q' :: rest => (.quoted, rest)
  | cs =>
    let flags := cs.takeWhile "-+ #0'I".toList.contains
    let (width, rest) := splitAmount (cs.drop flags.length)
    let (precision, rest) := splitPrecision rest
    let rest := rest.dropWhile "lLhjtz".toList.contains
    let marks := if precision = .absent then flags else '.' :: flags
    let letter := rest.head?
    match letter.bind conversion?, letter.any (isAllowed marks) with
    | some conversion, true =>
      let upper := letter.any Char.isUpper
      (.directive ⟨fieldFlags flags, width, precision, conversion, upper⟩, rest.drop 1)
    | _, _ =>
      let words := invalidWords (cs.take (cs.length - rest.length)) letter
      (.invalid width precision words, rest.drop 1)

/-- The parts of a format; `skip` characters at its start belong to a part before it. -/
def ofFormat : (skip : Nat) → List Char → List FormatPart
  | _, [] => []
  | skip + 1, _ :: cs => ofFormat skip cs
  | 0, c :: cs =>
    if c = '%' then
      let (part, rest) := splitDirective cs
      part :: ofFormat (cs.length - rest.length) cs
    else if c = '\\' then
      let (print, used) := escape formatStyle cs
      .fixed print :: ofFormat used cs
    else .fixed (Print.text [c]) :: ofFormat 0 cs

end FormatPart

end ClassBridge.StandardTools
