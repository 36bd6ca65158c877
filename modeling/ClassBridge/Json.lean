/-!
# Dumped values

Values as they are dumped for inspection, and their text: two blanks a level, one member a line,
empty arrays and objects without a line of their own.  The members of an object keep their order.
-/

namespace ClassBridge

/-- A value to dump. -/
inductive Json where
  | null
  | bool (value : Bool)
  | string (text : String)
  | array (items : List Json)
  | object (members : List (String × Json))
  deriving Repr

namespace Json

/-- A digit of base sixteen. -/
def hexDigit (n : Nat) : Char := Nat.digitChar n

/-- What a character of a string is written as. -/
def stringChar (c : Char) : List Char :=
  match c with
  | '"' => ['\\', '"']
  | '\\' => ['\\', '\\']
  | '\x08' => ['\\', 'b']
  | '\x0c' => ['\\', 'f']
  | '\n' => ['\\', 'n']
  | '\r' => ['\\', 'r']
  | '\t' => ['\\', 't']
  | c =>
    if c.toNat < 0x20 then
      ['\\', 'u', '0', '0', hexDigit (c.toNat / 16), hexDigit (c.toNat % 16)]
    else [c]

/-- A string between quotes. -/
def quote (text : String) : String :=
  String.ofList ('"' :: text.toList.flatMap stringChar ++ ['"'])

/-- A new line at a depth. -/
def newLine (depth : Nat) : String := "\n" ++ String.join (List.replicate depth "  ")

mutual

/-- The text of a value that stands at a depth. -/
def prettyAt (depth : Nat) : Json → String
  | .null => "null"
  | .bool true => "true"
  | .bool false => "false"
  | .string text => quote text
  | .array [] => "[]"
  | .array (item :: items) =>
    "[" ++ newLine (depth + 1) ++ prettyAt (depth + 1) item ++ prettyItems (depth + 1) items
      ++ newLine depth ++ "]"
  | .object [] => "\x7b\x7d"
  | .object ((key, value) :: members) =>
    "\x7b" ++ newLine (depth + 1) ++ quote key ++ ": " ++ prettyAt (depth + 1) value
      ++ prettyMembers (depth + 1) members ++ newLine depth ++ "\x7d"

/-- The texts of the items after the first one. -/
def prettyItems (depth : Nat) : List Json → String
  | [] => ""
  | item :: items => "," ++ newLine depth ++ prettyAt depth item ++ prettyItems depth items

/-- The texts of the members after the first one. -/
def prettyMembers (depth : Nat) : List (String × Json) → String
  | [] => ""
  | (key, value) :: members =>
    "," ++ newLine depth ++ quote key ++ ": " ++ prettyAt depth value ++ prettyMembers depth members

end

/-- The text of a value. -/
def pretty (value : Json) : String := prettyAt 0 value

/-- A list of strings. -/
def strings (texts : List String) : Json := .array (texts.map .string)

/-- A string that may be missing. -/
def optional : Option String → Json
  | some text => .string text
  | none => .null

end Json

end ClassBridge
