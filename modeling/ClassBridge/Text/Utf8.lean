/-!
# Faults of UTF-8

`Utf8.fault?` finds the first place where a sequence of bytes is not UTF-8.  The bytes that are
wrong together are as many as could still begin a character; a character that the end cuts off is
told apart from a wrong one.  `Utf8.lossy` reads bytes as text with every fault replaced.
-/

namespace ClassBridge

/-- Where bytes stop being UTF-8. -/
structure Utf8Fault where
  index : Nat
  /-- How many bytes are wrong; none if the bytes end inside a character. -/
  length : Option Nat
  deriving DecidableEq, Repr

/-- The wording of a fault. -/
def Utf8Fault.message (fault : Utf8Fault) : String :=
  match fault.length with
  | some n => s!"invalid utf-8 sequence of {n} bytes from index {fault.index}"
  | none => s!"incomplete utf-8 byte sequence from index {fault.index}"

namespace Utf8

/-- The bounds of the byte after a first byte, and how many bytes follow that one; none for a byte
that begins no character of several bytes. -/
def second? (first : UInt8) : Option (UInt8 × UInt8 × Nat) :=
  if 0xc2 ≤ first && first ≤ 0xdf then some (0x80, 0xbf, 0)
  else if first == 0xe0 then some (0xa0, 0xbf, 1)
  else if first == 0xed then some (0x80, 0x9f, 1)
  else if 0xe1 ≤ first && first ≤ 0xef then some (0x80, 0xbf, 1)
  else if first == 0xf0 then some (0x90, 0xbf, 2)
  else if 0xf1 ≤ first && first ≤ 0xf3 then some (0x80, 0xbf, 2)
  else if first == 0xf4 then some (0x80, 0x8f, 2)
  else none

/-- What the reader of a character expects next. -/
inductive State where
  /-- The first byte of a character. -/
  | start
  /-- A byte within bounds, then `more` continuations; `read` bytes were read. -/
  | inside (low high : UInt8) (more read : Nat)
  deriving DecidableEq, Repr

/-- The first fault of bytes, the current character beginning at `index`. -/
def faultFrom? : State → (index : Nat) → List UInt8 → Option Utf8Fault
  | .start, _, [] => none
  | .inside _ _ _ _, index, [] => some ⟨index, none⟩
  | .start, index, b :: bs =>
    if b < 0x80 then faultFrom? .start (index + 1) bs
    else match second? b with
      | some (low, high, more) => faultFrom? (.inside low high more 1) index bs
      | none => some ⟨index, some 1⟩
  | .inside low high more read, index, b :: bs =>
    if low ≤ b && b ≤ high then
      match more with
      | 0 => faultFrom? .start (index + read + 1) bs
      | more + 1 => faultFrom? (.inside 0x80 0xbf more (read + 1)) index bs
    else some ⟨index, some read⟩

/-- The first fault of bytes. -/
def fault? (bytes : List UInt8) : Option Utf8Fault := faultFrom? .start 0 bytes

/-- The text of bytes without a fault. -/
def exact (bytes : List UInt8) : String := (String.fromUTF8? ⟨bytes.toArray⟩).getD ""

/-- The text of bytes, the wrong ones of a fault replaced by one mark, up to so many faults. -/
def lossyUpTo : (faults : Nat) → List UInt8 → String
  | 0, _ => ""
  | faults + 1, bytes =>
    match fault? bytes with
    | none => exact bytes
    | some ⟨index, length⟩ =>
      let rest := length.elim [] fun n => bytes.drop (index + n)
      exact (bytes.take index) ++ "\ufffd" ++ lossyUpTo faults rest

/-- The text of bytes, the wrong ones of every fault replaced by one mark. -/
def lossy (bytes : List UInt8) : String := lossyUpTo (bytes.length + 1) bytes

end Utf8

end ClassBridge
