/-!
# Values of a schema document

A schema is written in TOML.  A document is a table: an ordered list of keys with their values.
Numbers keep the form in which they were read, since whether one fits a machine word or rounds to
an infinity is decided only where the number is used.
-/

namespace ClassBridge.Toml

/-- An integer as it was written. -/
inductive IntegerLiteral where
  | whole (value : Int)
  /-- A word that begins as integers do and goes on as none does; it is a fault only where the
  number is used. -/
  | garbled
  deriving DecidableEq, Repr

/-- A floating point number as it was written. -/
inductive FloatLiteral where
  /-- The decimal `digits * 10 ^ exponent`, with a sign. -/
  | finite (negative : Bool) (digits : Nat) (exponent : Int)
  | infinite (negative : Bool)
  | notANumber
  deriving DecidableEq, Repr

/-- A value of a document. -/
inductive Value where
  | string (text : String)
  | integer (literal : IntegerLiteral)
  | float (literal : FloatLiteral)
  | boolean (value : Bool)
  /-- A point in time, by its normal spelling. -/
  | datetime (text : String)
  | array (items : List Value)
  | table (entries : List (String × Value))
  deriving Repr

end ClassBridge.Toml
