import Mathlib.Data.List.Basic

/-! Reading text from bytes that may not be text.

What is not a character is read as U+FFFD: in UTF-8 one replacement stands for the longest
beginning of a sequence that could still have become a character, in UTF-16 for one unpaired
surrogate. Both readers keep what the next unit has to continue. -/
namespace Gateway.Data.Unicode

def replacement : Char := Char.ofNat 0xFFFD

/-! ### UTF-8 -/

/-- A sequence begun: its bits so far, the range of its next byte, and the bytes after that. -/
structure Sequence where
  bits : Nat
  low : Nat
  high : Nat
  more : Nat

/-- The sequence a byte begins. Overlong forms, surrogates and values past U+10FFFF are excluded
by the range of the second byte. -/
def Sequence.begun (byte : Nat) : Option Sequence :=
  if 0xC2 ≤ byte ∧ byte ≤ 0xDF then some ⟨byte - 0xC0, 0x80, 0xBF, 0⟩
  else if byte = 0xE0 then some ⟨0x0, 0xA0, 0xBF, 1⟩
  else if byte = 0xED then some ⟨0xD, 0x80, 0x9F, 1⟩
  else if 0xE1 ≤ byte ∧ byte ≤ 0xEF then some ⟨byte - 0xE0, 0x80, 0xBF, 1⟩
  else if byte = 0xF0 then some ⟨0x0, 0x90, 0xBF, 2⟩
  else if 0xF1 ≤ byte ∧ byte ≤ 0xF3 then some ⟨byte - 0xF0, 0x80, 0xBF, 2⟩
  else if byte = 0xF4 then some ⟨0x4, 0x80, 0x8F, 2⟩
  else none

/-- A byte outside any sequence: the characters it gives and the sequence it begins. -/
def fresh (byte : Nat) : List Char × Option Sequence :=
  if byte < 0x80 then ([Char.ofNat byte], none)
  else match Sequence.begun byte with
    | none => ([replacement], none)
    | some s => ([], some s)

/-- A byte after the beginning of a sequence, if there is one. -/
def utf8Step : Option Sequence → Nat → List Char × Option Sequence
  | none, byte => fresh byte
  | some s, byte =>
    if s.low ≤ byte ∧ byte ≤ s.high then
      let bits := s.bits * 64 + (byte - 0x80)
      match s.more with
      | 0 => ([Char.ofNat bits], none)
      | more + 1 => ([], some ⟨bits, 0x80, 0xBF, more⟩)
    else (replacement :: (fresh byte).1, (fresh byte).2)

def utf8Lossy : Option Sequence → List UInt8 → List Char
  | none, [] => []
  | some _, [] => [replacement]
  | s, byte :: rest => (utf8Step s byte.toNat).1 ++ utf8Lossy (utf8Step s byte.toNat).2 rest

def fromUtf8Lossy (bytes : List UInt8) : String :=
  String.ofList (utf8Lossy none bytes)

/-- A unit outside any pair: the characters it gives and the high surrogate it is. -/
def freshUnit (unit : Nat) : List Char × Option Nat :=
  if 0xD800 ≤ unit ∧ unit ≤ 0xDBFF then ([], some unit)
  else if 0xDC00 ≤ unit ∧ unit ≤ 0xDFFF then ([replacement], none)
  else ([Char.ofNat unit], none)

def utf16Step : Option Nat → Nat → List Char × Option Nat
  | none, unit => freshUnit unit
  | some high, unit =>
    if 0xDC00 ≤ unit ∧ unit ≤ 0xDFFF then
      ([Char.ofNat (0x10000 + (high - 0xD800) * 0x400 + (unit - 0xDC00))], none)
    else (replacement :: (freshUnit unit).1, (freshUnit unit).2)

def utf16Lossy : Option Nat → List Nat → List Char
  | none, [] => []
  | some _, [] => [replacement]
  | high, unit :: rest => (utf16Step high unit).1 ++ utf16Lossy (utf16Step high unit).2 rest

def fromUtf16Lossy (units : List Nat) : String :=
  String.ofList (utf16Lossy none units)

example : fromUtf8Lossy [0x68, 0xC3, 0xA9, 0xE2, 0x82, 0x41, 0xF0, 0x9F, 0x98, 0x80, 0xFF] =
    "hé�A😀�" := by decide

example : fromUtf16Lossy [0x68, 0xD83D, 0xDE00, 0xDC00, 0xD83D] = "h😀��" := by decide

end Gateway.Data.Unicode
