import ClassBridge.Text.Digits

/-!
# Backslash escapes

Two of the standard tools print texts with backslash escapes, and they differ in few of them.  An
escape prints bytes, which need not be text; it may also end all printing.
-/

namespace ClassBridge.StandardTools

/-- What ends the printing of a tool early. -/
inductive Halt where
  /-- The tool is done. -/
  | done
  /-- The tool fails, with words of its own. -/
  | fault (words : List UInt8)
  deriving DecidableEq, Repr

/-- Bytes that were printed, and what ended the printing early. -/
structure Print where
  bytes : List UInt8 := []
  halt : Option Halt := none
  deriving DecidableEq, Repr

/-- One print after the other; nothing is printed after the end. -/
def Print.append (first second : Print) : Print :=
  match first.halt with
  | some _ => first
  | none => { second with bytes := first.bytes ++ second.bytes }

/-- A text that is printed as it is. -/
def Print.text (cs : List Char) : Print := { bytes := (String.ofList cs).toUTF8.toList }

/-- A failure instead of a print. -/
def Print.fault (words : String) : Print := { halt := some (.fault words.toUTF8.toList) }

/-- What a tool makes of escapes. -/
structure EscapeStyle where
  /-- How many octal digits are read after a zero. -/
  digitsAfterZero : Nat
  /-- Whether a quotation mark may be escaped. -/
  quotes : Bool
  /-- Whether characters may be given by number. -/
  numbers : Bool
  /-- Whether an escape without the base sixteen digits that it asks for is a fault. -/
  strict : Bool
  deriving DecidableEq, Repr

/-- The values of the first digits of a text, up to `limit` of them. -/
def leadingDigits (base : Nat) : (limit : Nat) → List Char → List Nat
  | 0, _ => []
  | _, [] => []
  | limit + 1, c :: cs =>
    match Text.digit? base c with
    | some d => d :: leadingDigits base limit cs
    | none => []

/-- The byte that digits denote; only its low bits count. -/
def byteOf (base : Nat) (digits : List Nat) : UInt8 :=
  (Text.ofDigits base digits).toUInt8

/-- The byte of an escape of one letter. -/
def letterByte? (c : Char) : Option UInt8 :=
  [('a', 7), ('b', 8), ('e', 27), ('f', 12), ('n', 10), ('r', 13), ('t', 9), ('v', 11),
    ('\\', 92)].lookup c

/-- A number in base sixteen with leading zeros up to a width. -/
def hexText (width n : Nat) : List Char :=
  let digits := Nat.toDigits 16 n
  List.replicate (width - digits.length) '0' ++ digits

/-- What the number of a character prints.  Only ASCII has characters here; any other is shown by
its number. -/
def printNumbered (letter : Char) (width n : Nat) : Print :=
  if 0xd800 ≤ n && n ≤ 0xdfff then
    Print.fault ("invalid universal character name \\" ++ String.ofList (letter :: hexText width n))
  else if n < 0x80 then { bytes := [n.toUInt8] }
  else
    let (letter, width) := if n < 0x10000 then ('u', 4) else ('U', 8)
    Print.text ('\\' :: letter :: (hexText width n).map Char.toUpper)

/-- How many digits the number of a character has, by the letter of its escape. -/
def numberWidth? (style : EscapeStyle) (c : Char) : Option Nat :=
  if style.numbers then [('u', 4), ('U', 8)].lookup c else none

/-- What the text after a backslash prints, and how many of its characters belong to the escape.
What is no escape is printed with its backslash. -/
def escape (style : EscapeStyle) (cs : List Char) : Print × Nat :=
  match cs with
  | [] => ({ bytes := [92] }, 0)
  | c :: rest =>
    if c = 'c' then ({ halt := some .done }, 1)
    else if c = '"' && style.quotes then ({ bytes := [34] }, 1)
    else if c = 'x' then
      match leadingDigits 16 2 rest with
      | [] =>
        if style.strict then
          (Print.fault "missing hexadecimal number in escape", 1)
        else ({ bytes := [92, 120] }, 1)
      | digits => ({ bytes := [byteOf 16 digits] }, 1 + digits.length)
    else match letterByte? c, numberWidth? style c with
      | some byte, _ => ({ bytes := [byte] }, 1)
      | none, some width =>
        let digits := leadingDigits 16 width rest
        if digits.length = width then
          (printNumbered c width (Text.ofDigits 16 digits), 1 + width)
        else (Print.fault "missing hexadecimal number in escape", 1)
      | none, none =>
        let limit := if c = '0' then 1 + style.digitsAfterZero else 3
        let digits := leadingDigits 8 limit cs
        if digits.isEmpty then (Print.text ['\\', c], 1)
        else ({ bytes := [byteOf 8 digits] }, digits.length)

/-- A text with its escapes; `skip` characters at its start belong to an escape before it. -/
def printEscaped (style : EscapeStyle) : (skip : Nat) → List Char → Print
  | _, [] => {}
  | skip + 1, _ :: cs => printEscaped style skip cs
  | 0, c :: cs =>
    if c = '\\' then
      let (print, used) := escape style cs
      print.append (printEscaped style used cs)
    else (Print.text [c]).append (printEscaped style 0 cs)

end ClassBridge.StandardTools
