import ClassBridge.Text.Digits

/-!
# Lexemes of a schema document

**Space.**  `skipBlanks` passes spaces and tabs, `skipTrivia` also line ends and comments, and
`endOfLine?` wants a line to be over.  A line ends with a line feed, which one carriage return may
precede; a carriage return anywhere else is an error.

**Strings.**  The four kinds of string are read by two scanners, one with escapes and one without.
Each walks over the characters one by one and yields the text together with what follows the
closing quotes.
-/

namespace ClassBridge.Toml

/-- A reader takes what it needs from the front of a text, or refuses the text. -/
abbrev Reader (α : Type) := List Char → Option (α × List Char)

/-- The blanks of a line. -/
def isInlineBlank (c : Char) : Bool := c == ' ' || c == '\t'

/-- The text after its leading spaces and tabs. -/
def skipBlanks (cs : List Char) : List Char := cs.dropWhile isInlineBlank

/-- A character that may stand in a comment or a string; the tab is the only control character. -/
def isPrintable (c : Char) : Bool := c == '\t' || (0x20 ≤ c.toNat && c.toNat != 0x7f)

/-- The text after spaces, tabs, line ends and comments, starting inside a comment or outside. -/
def skipTriviaFrom : (inComment : Bool) → List Char → Option (List Char)
  | _, [] => some []
  | _, '\n' :: cs => skipTriviaFrom false cs
  | _, '\r' :: '\n' :: cs => skipTriviaFrom false cs
  | true, c :: cs => if isPrintable c then skipTriviaFrom true cs else none
  | false, '#' :: cs => skipTriviaFrom true cs
  | false, c :: cs => if isInlineBlank c then skipTriviaFrom false cs else some (c :: cs)

/-- The text after spaces, tabs, line ends and comments. -/
def skipTrivia : List Char → Option (List Char) := skipTriviaFrom false

/-- The text after the rest of a comment and the line end that closes it. -/
def skipComment : List Char → Option (List Char)
  | [] => some []
  | '\n' :: cs => some cs
  | '\r' :: '\n' :: cs => some cs
  | c :: cs => if isPrintable c then skipComment cs else none

/-- The text after the end of a line, which a comment may fill up. -/
def endOfLine? (cs : List Char) : Option (List Char) :=
  match skipBlanks cs with
  | [] => some []
  | '\n' :: rest => some rest
  | '\r' :: '\n' :: rest => some rest
  | '#' :: rest => skipComment rest
  | _ => none

/-- The character of a scalar value; surrogates and numbers beyond Unicode have none. -/
def scalar? (n : Nat) : Option Char :=
  if h : n.isValidChar then some (Char.ofNatAux n h) else none

/-- The character that a short escape stands for. -/
def shortEscape? : Char → Option Char
  | 'b' => some '\x08'
  | 't' => some '\t'
  | 'n' => some '\n'
  | 'f' => some '\x0c'
  | 'r' => some '\r'
  | 'e' => some '\x1b'
  | '"' => some '"'
  | '\\' => some '\\'
  | _ => none

/-- The number of digits of a numeric escape. -/
def escapeWidth? : Char → Option Nat
  | 'x' => some 2
  | 'u' => some 4
  | 'U' => some 8
  | _ => none

/-- Where the scanner of a string with escapes stands. -/
inductive StringState where
  /-- Between characters. -/
  | plain
  /-- After a backslash. -/
  | escape
  /-- Inside a numeric escape: digits still to come after the next one, and the value so far. -/
  | code (more : Nat) (value : Nat)
  /-- Inside a line continuation, before its line end or after it. -/
  | gap (afterLineEnd : Bool)
  deriving DecidableEq, Repr

/-- Puts a character in front of a text that was read. -/
def consText (c : Char) : Option (List Char × List Char) → Option (List Char × List Char) :=
  Option.map fun (text, rest) => (c :: text, rest)

/-- The closing quotes of a multi-line string, when three stand at the front: up to two more of
the same quote before them belong to the text. -/
def closingQuotes (quote : Char) : List Char → List Char × List Char
  | a :: b :: rest =>
    if a = quote then
      if b = quote then ([quote, quote], rest) else ([quote], b :: rest)
    else ([], a :: b :: rest)
  | [a] => if a = quote then ([quote], []) else ([], [a])
  | [] => ([], [])

/-- The text of a string of one line with escapes, up to its closing quote. -/
def basicText : StringState → Reader (List Char)
  | _, [] => none
  | .plain, '"' :: cs => some ([], cs)
  | .plain, '\\' :: cs => basicText .escape cs
  | .plain, c :: cs => if isPrintable c then consText c (basicText .plain cs) else none
  | .escape, c :: cs =>
    match shortEscape? c with
    | some d => consText d (basicText .plain cs)
    | none =>
      match escapeWidth? c with
      | some width => basicText (.code (width - 1) 0) cs
      | none => none
  | .code more value, c :: cs =>
    match Text.hexDigit? c with
    | none => none
    | some digit =>
      match more with
      | more + 1 => basicText (.code more (value * 16 + digit)) cs
      | 0 =>
        match scalar? (value * 16 + digit) with
        | some d => consText d (basicText .plain cs)
        | none => none
  | .gap _, _ => none

/-- The text of a multi-line string with escapes, up to its closing quotes. -/
def multilineBasicText : StringState → Reader (List Char)
  | _, [] => none
  | .escape, '\n' :: cs => multilineBasicText (.gap true) cs
  | .escape, '\r' :: '\n' :: cs => multilineBasicText (.gap true) cs
  | .escape, c :: cs =>
    if isInlineBlank c then multilineBasicText (.gap false) cs
    else
      match shortEscape? c with
      | some d => consText d (multilineBasicText .plain cs)
      | none =>
        match escapeWidth? c with
        | some width => multilineBasicText (.code (width - 1) 0) cs
        | none => none
  | .code more value, c :: cs =>
    match Text.hexDigit? c with
    | none => none
    | some digit =>
      match more with
      | more + 1 => multilineBasicText (.code more (value * 16 + digit)) cs
      | 0 =>
        match scalar? (value * 16 + digit) with
        | some d => consText d (multilineBasicText .plain cs)
        | none => none
  | .gap _, '\n' :: cs => multilineBasicText (.gap true) cs
  | .gap _, '\r' :: '\n' :: cs => multilineBasicText (.gap true) cs
  | .gap false, c :: cs => if isInlineBlank c then multilineBasicText (.gap false) cs else none
  | .gap true, ' ' :: cs => multilineBasicText (.gap true) cs
  | .gap true, '\t' :: cs => multilineBasicText (.gap true) cs
  | _, '"' :: '"' :: '"' :: cs => some (closingQuotes '"' cs)
  | _, '\\' :: cs => multilineBasicText .escape cs
  | _, '\n' :: cs => consText '\n' (multilineBasicText .plain cs)
  | _, '\r' :: '\n' :: cs => (consText '\r' ∘ consText '\n') (multilineBasicText .plain cs)
  | _, c :: cs => if isPrintable c then consText c (multilineBasicText .plain cs) else none

/-- The text of a string of one line without escapes, up to its closing quote. -/
def literalText : Reader (List Char)
  | [] => none
  | '\'' :: cs => some ([], cs)
  | c :: cs => if isPrintable c then consText c (literalText cs) else none

/-- The text of a multi-line string without escapes, up to its closing quotes. -/
def multilineLiteralText : Reader (List Char)
  | [] => none
  | '\'' :: '\'' :: '\'' :: cs => some (closingQuotes '\'' cs)
  | '\n' :: cs => consText '\n' (multilineLiteralText cs)
  | '\r' :: '\n' :: cs => (consText '\r' ∘ consText '\n') (multilineLiteralText cs)
  | c :: cs => if isPrintable c then consText c (multilineLiteralText cs) else none

/-- The text after the line end that may follow the opening quotes of a multi-line string. -/
def skipFirstLineEnd : List Char → List Char
  | '\n' :: cs => cs
  | '\r' :: '\n' :: cs => cs
  | cs => cs

/-- A string of any kind, from its opening quote on. -/
def string? : Reader String := fun cs =>
  (match cs with
    | '"' :: '"' :: '"' :: rest => multilineBasicText .plain (skipFirstLineEnd rest)
    | '"' :: rest => basicText .plain rest
    | '\'' :: '\'' :: '\'' :: rest => multilineLiteralText (skipFirstLineEnd rest)
    | '\'' :: rest => literalText rest
    | _ => none).map fun (text, rest) => (String.ofList text, rest)

/-- A character of a bare key. -/
def isBareKeyCharacter (c : Char) : Bool := c.isAlphanum || c == '_' || c == '-'

/-- One part of a key: bare, or quoted on one line. -/
def keyPart? : Reader String := fun cs =>
  match cs with
  | '"' :: rest => (basicText .plain rest).map fun (text, rest) => (String.ofList text, rest)
  | '\'' :: rest => (literalText rest).map fun (text, rest) => (String.ofList text, rest)
  | _ =>
    match cs.takeWhile isBareKeyCharacter with
    | [] => none
    | part => some (String.ofList part, cs.dropWhile isBareKeyCharacter)

/-- How many parts a key may have. -/
def keyPartLimit : Nat := 80

/-- The parts of a key, separated by points that blanks may surround, with a limit to their
number. -/
def keyParts? : (limit : Nat) → Reader (List String)
  | 0, _ => none
  | limit + 1, cs =>
    match keyPart? cs with
    | none => none
    | some (part, rest) =>
      match skipBlanks rest with
      | '.' :: rest =>
        (keyParts? limit (skipBlanks rest)).map fun (parts, rest) => (part :: parts, rest)
      | rest => some ([part], rest)

/-- A key, and what follows it and the blanks after it. -/
def key? : Reader (List String) := keyParts? keyPartLimit

end ClassBridge.Toml
