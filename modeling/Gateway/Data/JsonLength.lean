import Mathlib.Algebra.BigOperators.Group.List.Basic
import Mathlib.Algebra.Order.Ring.Nat

/-! The length in bytes of compact JSON.

Bounds on durable records are bounds on the bytes a compact JSON writer would
produce, so a value is represented here by that number alone: each function gives
the length of one syntactic form from the lengths of its parts. -/
namespace Gateway.Data.Json

/-- One character inside a string: escaped, or its own UTF-8 bytes. -/
def charLength (c : Char) : Nat :=
  if c = '"' ∨ c = '\\' then 2
  else if c.toNat = 8 ∨ c.toNat = 9 ∨ c.toNat = 10 ∨ c.toNat = 12 ∨ c.toNat = 13 then 2
  else if c.toNat < 32 then 6
  else c.utf8Size

/-- A string with its quotes. -/
def stringLength (s : String) : Nat :=
  2 + (s.toList.map charLength).sum

def natLength (n : Nat) : Nat :=
  (Nat.toDigits 10 n).length

def intLength : Int → Nat
  | .ofNat n => natLength n
  | .negSucc n => 1 + natLength (n + 1)

def boolLength (b : Bool) : Nat :=
  if b then 4 else 5

/-- A value or `null`. -/
def optionLength {α : Type} (length : α → Nat) : Option α → Nat
  | none => 4
  | some a => length a

/-- Parts between two brackets, separated by commas. -/
def bracketed (parts : List Nat) : Nat :=
  2 + (parts.length - 1) + parts.sum

/-- One member of an object: its name, a colon and its value. -/
def member (name : String) (length : Nat) : Nat :=
  stringLength name + 1 + length

/-- A member left out when it is absent. -/
def optionalMember {α : Type} (name : String) (length : α → Nat) : Option α → List Nat
  | none => []
  | some a => [member name (length a)]

end Gateway.Data.Json
