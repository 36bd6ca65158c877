/-!
# Quotation

The standard tools quote a text in two ways: in their messages, and as a word of a shell.  Both
work on bytes, and no byte beyond the printable ASCII characters is shown as it is.

**Messages.**  The text stands between single quotes, with backslash escapes.

**Shell words.**  A text is quoted only if a shell would take it for something else.  Then it
stands between single quotes, with bytes that need an escape moved into a `$` quotation; if its
only special characters are single quotes and blanks, it stands between double quotes.
-/

namespace ClassBridge.StandardTools

namespace Quotation

/-- The bytes of an ASCII text. -/
def bytesOf (text : String) : List UInt8 := text.toUTF8.toList

/-- Whether a byte is among the characters of a text. -/
def isAmong (text : String) (byte : UInt8) : Bool := (bytesOf text).contains byte

/-- The letter of the short escape of a control character. -/
def escapeLetter? (byte : UInt8) : Option Char :=
  [(7, 'a'), (8, 'b'), (9, 't'), (10, 'n'), (11, 'v'), (12, 'f'), (13, 'r')].lookup byte

/-- The escape of a byte that does not show. -/
def escape? (byte : UInt8) : Option (List UInt8) :=
  match escapeLetter? byte with
  | some letter => some (bytesOf (String.ofList ['\\', letter]))
  | none =>
    if 0x20 ≤ byte && byte < 0x7f then none
    else some [92, 48 + byte / 64, 48 + byte / 8 % 8, 48 + byte % 8]

/-- A text as messages quote it. -/
def inMessage (bytes : List UInt8) : List UInt8 :=
  let shown (byte : UInt8) : List UInt8 :=
    (escape? byte).getD (if isAmong "'\\" byte then [92, byte] else [byte])
  [39] ++ bytes.flatMap shown ++ [39]

/-- Whether a byte is special for a shell wherever it stands. -/
def isSpecial (byte : UInt8) : Bool :=
  (escape? byte).isSome || isAmong " !\"$&'()*;<=>?[\\^`|" byte

/-- Whether a shell would not take a text for one plain word. -/
def needsQuotes : List UInt8 → Bool
  | [] => true
  | [byte] => isSpecial byte || isAmong "#~\x7b\x7d" byte
  | byte :: rest => isSpecial byte || isAmong "#~" byte || rest.any isSpecial

/-- Whether a byte that begins no text means the same between double quotes. -/
def isTame (byte : UInt8) : Bool :=
  0x30 ≤ byte && byte ≤ 0x3a || 0x40 ≤ byte && byte ≤ 0x5a || 0x61 ≤ byte && byte ≤ 0x7a
    || isAmong " '%+,-./]_" byte

/-- Whether a text has single quotes and means the same between double quotes. -/
def prefersDoubleQuotes : List UInt8 → Bool
  | [] => false
  | byte :: rest =>
    (byte :: rest).contains 39 && (isTame byte || isAmong "#~" byte) && rest.all isTame

/-- What stands between single quotes for a text; the flag tells whether the `$` quotation of an
escape is still open. -/
def singleQuoted : (isOpen : Bool) → List UInt8 → List UInt8
  | _, [] => []
  | isOpen, byte :: rest =>
    match escape? byte with
    | some bytes => (if isOpen then [] else bytesOf "'$'") ++ bytes ++ singleQuoted true rest
    | none =>
      if byte == 39 then bytesOf "'\\''" ++ singleQuoted false rest
      else (if isOpen then bytesOf "''" else []) ++ byte :: singleQuoted false rest

/-- Whether the `$` quotation counts as open at the start of a text: so it does if the text has
single quotes and its last byte needs an escape. -/
def startsOpen (bytes : List UInt8) : Bool :=
  bytes.contains 39 && bytes.getLast?.any fun byte => (escape? byte).isSome

/-- A text as a word of a shell. -/
def asWord (bytes : List UInt8) : List UInt8 :=
  if !needsQuotes bytes then bytes
  else if prefersDoubleQuotes bytes then [34] ++ bytes ++ [34]
  else [39] ++ singleQuoted (startsOpen bytes) bytes ++ [39]

end Quotation

end ClassBridge.StandardTools
