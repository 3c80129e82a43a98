import Mathlib.Data.List.Sort

/-! Text as the ledger reads it: blank strings, UTF-8 bytes, fixed beginnings and
order by a string key.

`isBlank` is "empty after trimming", where trimming removes the characters of
Unicode `White_Space`. Sorting is by a string key; strings compare by code point,
which for UTF-8 is the order of their bytes. -/
namespace Gateway.Data

/-- Unicode `White_Space`. -/
def isWhitespace (c : Char) : Bool :=
  let n := c.toNat
  (0x0009 ≤ n && n ≤ 0x000D) || n == 0x0020 || n == 0x0085 || n == 0x00A0 || n == 0x1680 ||
    (0x2000 ≤ n && n ≤ 0x200A) || n == 0x2028 || n == 0x2029 || n == 0x202F || n == 0x205F ||
    n == 0x3000

/-- Nothing is left after trimming. -/
def isBlank (s : String) : Bool :=
  s.toList.all isWhitespace

def isControl (c : Char) : Bool :=
  c.toNat < 0x20 || (0x7F ≤ c.toNat && c.toNat ≤ 0x9F)

/-- The UTF-8 bytes of a string. -/
def toUtf8 (s : String) : List UInt8 :=
  s.toByteArray.data.toList

/-- The string these bytes are the UTF-8 form of, if any. -/
def fromUtf8 (bytes : List UInt8) : Option String :=
  (ByteArray.utf8Decode? ⟨bytes.toArray⟩).map fun chars => String.ofList chars.toList

theorem fromUtf8_toUtf8 (s : String) : fromUtf8 (toUtf8 s) = some s := by
  have decoded : s.toByteArray.utf8Decode? = some s.toList.toArray := by
    rw [← String.ofList_toList (s := s), String.toByteArray_ofList, List.utf8Decode?_utf8Encode]
    simp
  simp only [fromUtf8, toUtf8, decoded, Option.map_some, String.ofList_toList]

/-- What follows a fixed beginning. -/
def stripPrefix (lead s : String) : Option String :=
  if lead.toList.isPrefixOf s.toList then some (String.ofList (s.toList.drop lead.toList.length))
  else none

theorem stripPrefix_append (lead s : String) : stripPrefix lead (lead ++ s) = some s := by
  simp [stripPrefix]

/-! ### Sorting by a string key -/

/-- Sort by a string key; equal keys keep their order. -/
def sortBy {α : Type} (key : α → String) (items : List α) : List α :=
  items.insertionSort fun a b => key a ≤ key b

variable {α : Type}

theorem sortBy_perm (key : α → String) (items : List α) : (sortBy key items).Perm items :=
  List.perm_insertionSort _ _

@[simp]
theorem mem_sortBy {key : α → String} {items : List α} {a : α} : a ∈ sortBy key items ↔ a ∈ items :=
  (sortBy_perm key items).mem_iff

/-! ### The oldest of a list -/

/-- The least item by time and then by name; the first of several equals. -/
def leastBy {α : Type} (time : α → Nat) (name : α → String) : List α → Option α
  | [] => none
  | a :: rest =>
    match leastBy time name rest with
    | none => some a
    | some b => if time b < time a ∨ time b = time a ∧ name b < name a then some b else some a

theorem mem_of_leastBy {time : α → Nat} {name : α → String} {items : List α} {a : α}
    (h : leastBy time name items = some a) : a ∈ items := by
  induction items generalizing a with
  | nil => cases h
  | cons b rest ih =>
    rw [leastBy] at h
    split at h
    · cases h
      exact List.mem_cons_self
    · next c least =>
      split at h
      · cases h
        exact List.mem_cons_of_mem _ (ih least)
      · cases h
        exact List.mem_cons_self

theorem leastBy_isSome {time : α → Nat} {name : α → String} {items : List α} (h : items ≠ []) :
    ∃ a, leastBy time name items = some a := by
  cases items with
  | nil => exact absurd rfl h
  | cons b rest =>
    rw [leastBy]
    split
    · exact ⟨_, rfl⟩
    · split <;> exact ⟨_, rfl⟩

end Gateway.Data
