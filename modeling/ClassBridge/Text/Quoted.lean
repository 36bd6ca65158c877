import ClassBridge.Text.Hidden

/-!
# Quoted text in messages

A message shows a text between double quotes.  Quotes, backslashes and the usual controls take
their short escapes, every other hidden character its number in base sixteen, and all else stands
for itself.
-/

namespace ClassBridge.Text

/-- The number of a character in base sixteen, as an escape. -/
def numericEscape (c : Char) : List Char :=
  "\\u\x7b".toList ++ Nat.toDigits 16 c.toNat ++ ['\x7d']

/-- What a character of a quoted text is written as. -/
def quotedChar (c : Char) : List Char :=
  match c with
  | '\x00' => ['\\', '0']
  | '\t' => ['\\', 't']
  | '\n' => ['\\', 'n']
  | '\r' => ['\\', 'r']
  | '"' => ['\\', '"']
  | '\\' => ['\\', '\\']
  | c => if isHidden c then numericEscape c else [c]

/-- A text between double quotes. -/
def quoted (s : String) : String :=
  String.ofList ('"' :: s.toList.flatMap quotedChar ++ ['"'])

end ClassBridge.Text
