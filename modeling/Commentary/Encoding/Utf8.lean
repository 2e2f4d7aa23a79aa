import Commentary.Text.Basic

/-!
# UTF-8

Characters as bytes and back. A decoder reads byte by byte: between characters it waits for a first
byte, and behind one it owes continuation bytes, of which the first may be bound to a narrower range.
It stops at the first byte that no character can have at that place.
-/

namespace Commentary

/-- The content of a file. -/
abbrev Bytes := List UInt8

namespace Utf8

/-- Why bytes are not UTF-8. -/
inductive Reason where
  | invalidStart
  | invalidContinuation
  | unexpectedEnd
  deriving DecidableEq, Repr

/-- The bytes that are at fault, by their indices, and why. -/
structure Fault where
  /-- The index of the first byte of the broken character. -/
  first : Nat
  /-- The index of the last byte that still fits it. -/
  last : Nat
  /-- The first byte of the broken character. -/
  byte : UInt8
  /-- Why the character is broken. -/
  reason : Reason
  deriving DecidableEq, Repr

/-- A byte from a number below 256. -/
def byte (n : Nat) : UInt8 := UInt8.ofNat n

/-- The bytes of a character. -/
def encodeChar (c : Char) : Bytes :=
  let n := c.toNat
  if n < 0x80 then [byte n]
  else if n < 0x800 then [byte (0xC0 + n / 64), byte (0x80 + n % 64)]
  else if n < 0x10000 then
    [byte (0xE0 + n / 4096), byte (0x80 + n / 64 % 64), byte (0x80 + n % 64)]
  else
    [byte (0xF0 + n / 262144), byte (0x80 + n / 4096 % 64), byte (0x80 + n / 64 % 64),
      byte (0x80 + n % 64)]

/-- The bytes of a text. -/
def encode (t : Text) : Bytes := t.flatMap encodeChar

/-- A character whose first bytes have been read. -/
structure Pending where
  /-- The index of its first byte. -/
  first : Nat
  /-- Its first byte. -/
  byte : UInt8
  /-- How many bytes are owed after the next one. -/
  owed : Nat
  /-- The least byte that may come next. -/
  low : Nat
  /-- The greatest byte that may come next. -/
  high : Nat
  /-- The number that the bytes so far stand for. -/
  code : Nat
  deriving DecidableEq, Repr

/-- What the first byte of a longer character at index `i` leaves open: the bytes owed after the next
one, the range of the next one, and the bits that the first byte gives. -/
def start? (i : Nat) (b : UInt8) : Option Pending :=
  let n := b.toNat
  if 0xC2 ≤ n ∧ n ≤ 0xDF then some ⟨i, b, 0, 0x80, 0xBF, n - 0xC0⟩
  else if n = 0xE0 then some ⟨i, b, 1, 0xA0, 0xBF, n - 0xE0⟩
  else if n = 0xED then some ⟨i, b, 1, 0x80, 0x9F, n - 0xE0⟩
  else if 0xE1 ≤ n ∧ n ≤ 0xEF then some ⟨i, b, 1, 0x80, 0xBF, n - 0xE0⟩
  else if n = 0xF0 then some ⟨i, b, 2, 0x90, 0xBF, n - 0xF0⟩
  else if 0xF1 ≤ n ∧ n ≤ 0xF3 then some ⟨i, b, 2, 0x80, 0xBF, n - 0xF0⟩
  else if n = 0xF4 then some ⟨i, b, 2, 0x80, 0x8F, n - 0xF0⟩
  else none

/-- Decode bytes from index `i` on, inside the character that is `pending`. -/
def decodeFrom (i : Nat) (pending : Option Pending) : Bytes → Except Fault Text
  | [] =>
    match pending with
    | none => .ok []
    | some p => .error ⟨p.first, i - 1, p.byte, .unexpectedEnd⟩
  | b :: bytes =>
    match pending with
    | none =>
      if b.toNat < 0x80 then (decodeFrom (i + 1) none bytes).map (Char.ofNat b.toNat :: ·)
      else match start? i b with
        | none => .error ⟨i, i, b, .invalidStart⟩
        | some p => decodeFrom (i + 1) (some p) bytes
    | some p =>
      if p.low ≤ b.toNat ∧ b.toNat ≤ p.high then
        let code := p.code * 64 + (b.toNat - 0x80)
        match p.owed with
        | 0 => (decodeFrom (i + 1) none bytes).map (Char.ofNat code :: ·)
        | owed + 1 => decodeFrom (i + 1) (some ⟨p.first, p.byte, owed, 0x80, 0xBF, code⟩) bytes
      else .error ⟨p.first, i - 1, p.byte, .invalidContinuation⟩

/-- Decode bytes. -/
def decode (bytes : Bytes) : Except Fault Text := decodeFrom 0 none bytes

end Utf8

end Commentary
