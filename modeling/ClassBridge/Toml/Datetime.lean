import ClassBridge.Toml.Lexeme

/-!
# Points in time of a schema document

A date, a time of day, or both with an optional offset.  `datetime?` reads a whole word and gives
the normal spelling: `T` between date and time, seconds even if there are none, the fraction of a
second cut to nine digits and written without trailing zeros, `Z` for the offset zero by name, and
a plus sign for the offset zero by numbers.
-/

namespace ClassBridge.Toml

/-- The number of a run of decimal digits. -/
def decimal? (cs : List Char) : Option Nat :=
  if cs.isEmpty then none else (cs.mapM (Text.digit? 10)).map (Text.ofDigits 10)

/-- A number of two digits within bounds, at the front of a text. -/
def twoDigits? (low high : Nat) : Reader Nat
  | a :: b :: rest =>
    match decimal? [a, b] with
    | some n => if low ≤ n ∧ n ≤ high then some (n, rest) else none
    | none => none
  | _ => none

/-- Leap years of the Gregorian calendar. -/
def isLeapYear (year : Nat) : Bool :=
  year % 4 == 0 && (year % 100 != 0 || year % 400 == 0)

/-- The number of days of a month. -/
def daysInMonth (year month : Nat) : Nat :=
  if month == 2 then (if isLeapYear year then 29 else 28)
  else if [4, 6, 9, 11].contains month then 30
  else 31

/-- A number with leading zeros up to a width. -/
def zeroPadded (width n : Nat) : String :=
  let text := toString n
  String.ofList (List.replicate (width - text.length) '0') ++ text

/-- A full date at the front of a text, by its normal spelling. -/
def date? : Reader String
  | a :: b :: c :: d :: '-' :: rest => do
    let year ← decimal? [a, b, c, d]
    let (month, rest) ← twoDigits? 1 12 rest
    match rest with
    | '-' :: rest =>
      let (day, rest) ← twoDigits? 1 (daysInMonth year month) rest
      return (s!"{zeroPadded 4 year}-{zeroPadded 2 month}-{zeroPadded 2 day}", rest)
    | _ => none
  | _ => none

/-- The fraction of a second, by its normal spelling; one of zero is left out. -/
def fractionText (digits : List Char) : String :=
  match ((digits.take 9).reverse.dropWhile (· == '0')).reverse with
  | [] => ""
  | kept => "." ++ String.ofList kept

/-- A time of day at the front of a text, by its normal spelling; the seconds may be left out. -/
def time? : Reader String := fun cs => do
  let (hour, rest) ← twoDigits? 0 23 cs
  match rest with
  | ':' :: rest =>
    let (minute, rest) ← twoDigits? 0 59 rest
    let start := s!"{zeroPadded 2 hour}:{zeroPadded 2 minute}"
    match rest with
    | ':' :: rest =>
      let (second, rest) ← twoDigits? 0 60 rest
      let start := s!"{start}:{zeroPadded 2 second}"
      match rest with
      | '.' :: rest =>
        match rest.takeWhile Char.isDigit with
        | [] => none
        | digits => some (start ++ fractionText digits, rest.dropWhile Char.isDigit)
      | _ => some (start, rest)
    | _ => some (start ++ ":00", rest)
  | _ => none

/-- An offset that makes up the whole rest of a word, by its normal spelling. -/
def offset? : List Char → Option String
  | [] => some ""
  | ['Z'] => some "Z"
  | ['z'] => some "Z"
  | '+' :: rest => offsetHours? "+" rest
  | '-' :: rest => offsetHours? "-" rest
  | _ => none
where
  /-- Hours and minutes after a sign. -/
  offsetHours? (sign : String) (cs : List Char) : Option String := do
    let (hours, rest) ← twoDigits? 0 23 cs
    match rest with
    | ':' :: rest =>
      let (minutes, rest) ← twoDigits? 0 59 rest
      let sign := if hours == 0 && minutes == 0 then "+" else sign
      if rest.isEmpty then some s!"{sign}{zeroPadded 2 hours}:{zeroPadded 2 minutes}" else none
    | _ => none

/-- A word that is a date, a time of day, or both, by its normal spelling. -/
def datetime? (cs : List Char) : Option String :=
  match date? cs with
  | some (date, []) => some date
  | some (date, mark :: rest) =>
    if mark == 'T' || mark == 't' || mark == ' ' then do
      let (time, rest) ← time? rest
      let offset ← offset? rest
      return date ++ "T" ++ time ++ offset
    else none
  | none =>
    match time? cs with
    | some (time, []) => some time
    | _ => none

end ClassBridge.Toml
