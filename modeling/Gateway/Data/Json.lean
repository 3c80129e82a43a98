import Mathlib.Algebra.BigOperators.Ring.List
import Mathlib.Algebra.Order.BigOperators.Group.List
import Mathlib.Data.String.Basic
import Gateway.Data.JsonLength
import Gateway.Data.Text

/-! JSON values as a compact writer writes them, and the number of bytes that takes.

The text is what goes over the wire; its length in bytes is computed from the value alone, one
syntactic form from the lengths of its parts. -/
namespace Gateway.Data

inductive Json where
  | null
  | bool (b : Bool)
  | number (n : Int)
  | text (s : String)
  | array (items : List Json)
  | object (members : List (String × Json))

namespace Json

def ofNat (n : Nat) : Json :=
  .number n

/-- A vector of bytes is written as an array of numbers. -/
def ofBytes (bytes : List UInt8) : Json :=
  .array (bytes.map fun b => ofNat b.toNat)

def ofOption {α : Type} (json : α → Json) : Option α → Json
  | none => .null
  | some a => json a

/-- A member that is left out when it is absent. -/
def optional {α : Type} (name : String) (json : α → Json) : Option α → List (String × Json)
  | none => []
  | some a => [(name, json a)]

/-- A variant with its tag among its members. -/
def tagged (tag variant : String) (members : List (String × Json)) : Json :=
  .object ((tag, .text variant) :: members)

/-! ### The text -/

/-- One character inside a string. -/
def escape (c : Char) : List Char :=
  if c = '"' then ['\\', '"']
  else if c = '\\' then ['\\', '\\']
  else if c.toNat = 8 then ['\\', 'b']
  else if c.toNat = 9 then ['\\', 't']
  else if c.toNat = 10 then ['\\', 'n']
  else if c.toNat = 12 then ['\\', 'f']
  else if c.toNat = 13 then ['\\', 'r']
  else if c.toNat < 32 then
    ['\\', 'u', '0', '0', Nat.digitChar (c.toNat / 16), Nat.digitChar (c.toNat % 16)]
  else [c]

def quoted (s : String) : List Char :=
  '"' :: s.toList.flatMap escape ++ ['"']

def digits : Int → List Char
  | .ofNat n => Nat.toDigits 10 n
  | .negSucc n => '-' :: Nat.toDigits 10 (n + 1)

/-- Parts between two brackets, separated by commas. -/
def enclosed (first last : Char) (parts : List (List Char)) : List Char :=
  first :: [','].intercalate parts ++ [last]

mutual

def render : Json → List Char
  | .null => ['n', 'u', 'l', 'l']
  | .bool true => ['t', 'r', 'u', 'e']
  | .bool false => ['f', 'a', 'l', 's', 'e']
  | .number n => digits n
  | .text s => quoted s
  | .array items => enclosed '[' ']' (renderItems items)
  | .object members => enclosed '\x7b' '\x7d' (renderMembers members)

def renderItems : List Json → List (List Char)
  | [] => []
  | item :: rest => render item :: renderItems rest

def renderMembers : List (String × Json) → List (List Char)
  | [] => []
  | (name, value) :: rest => (quoted name ++ ':' :: render value) :: renderMembers rest

end

/-- The text in UTF-8. -/
def encode (json : Json) : List UInt8 :=
  toUtf8 (String.ofList json.render)

/-! ### Its length -/

/-- The bytes of a text in UTF-8. -/
def bytes (text : List Char) : Nat :=
  (text.map Char.utf8Size).sum

mutual

def size : Json → Nat
  | .null => 4
  | .bool b => boolLength b
  | .number n => intLength n
  | .text s => stringLength s
  | .array items => bracketed (itemSizes items)
  | .object members => bracketed (memberSizes members)

def itemSizes : List Json → List Nat
  | [] => []
  | item :: rest => size item :: itemSizes rest

def memberSizes : List (String × Json) → List Nat
  | [] => []
  | (name, value) :: rest => member name (size value) :: memberSizes rest

end

theorem bytes_append (a b : List Char) : bytes (a ++ b) = bytes a + bytes b := by
  rw [bytes, List.map_append, List.sum_append]
  rfl

theorem bytes_cons (c : Char) (text : List Char) : bytes (c :: text) = c.utf8Size + bytes text :=
  List.sum_cons

theorem utf8Size_digitChar {n : Nat} (small : n < 16) : (Nat.digitChar n).utf8Size = 1 := by
  have each : ∀ n < 16, (Nat.digitChar n).utf8Size = 1 := by decide
  exact each n small

theorem bytes_escape (c : Char) : bytes (escape c) = charLength c := by
  unfold escape charLength
  split
  · next quote => rw [if_pos (.inl quote)]; rfl
  · next quote =>
    split
    · next slash => rw [if_pos (.inr slash)]; rfl
    · next slash =>
      rw [if_neg (not_or.mpr ⟨quote, slash⟩)]
      split
      · next short => rw [if_pos (.inl short)]; rfl
      split
      · next short => rw [if_pos (.inr (.inl short))]; rfl
      split
      · next short => rw [if_pos (.inr (.inr (.inl short)))]; rfl
      split
      · next short => rw [if_pos (.inr (.inr (.inr (.inl short))))]; rfl
      split
      · next short => rw [if_pos (.inr (.inr (.inr (.inr short))))]; rfl
      next a b d e f =>
      have long : ¬(c.toNat = 8 ∨ c.toNat = 9 ∨ c.toNat = 10 ∨ c.toNat = 12 ∨ c.toNat = 13) := by
        omega
      split
      · next control =>
        have high := utf8Size_digitChar (n := c.toNat / 16) (by omega)
        have low := utf8Size_digitChar (n := c.toNat % 16) (by omega)
        simp only [bytes_cons, high, low]
        rfl
      · exact Nat.add_zero _

theorem bytes_quoted (s : String) : bytes (quoted s) = stringLength s := by
  have inner : ∀ chars : List Char, bytes (chars.flatMap escape) = (chars.map charLength).sum := by
    intro chars
    induction chars with
    | nil => rfl
    | cons c rest ih =>
      rw [List.flatMap_cons, bytes_append, bytes_escape, ih, List.map_cons, List.sum_cons]
  rw [quoted, List.cons_append, bytes_cons, bytes_append, inner, stringLength]
  show 1 + (_ + 1) = _
  omega

theorem bytes_of_plain {text : List Char} (plain : ∀ c ∈ text, c.utf8Size = 1) :
    bytes text = text.length := by
  induction text with
  | nil => rfl
  | cons c rest ih =>
    rw [List.forall_mem_cons] at plain
    rw [bytes_cons, plain.1, ih plain.2, List.length_cons, Nat.add_comm]

theorem bytes_toDigits (n : Nat) : bytes (Nat.toDigits 10 n) = natLength n := by
  refine bytes_of_plain fun c mem => Char.utf8Size_eq_one_iff.mpr ?_
  have digit := Nat.isDigit_of_mem_toDigits (by decide) (by decide) mem
  rw [Char.isDigit, Bool.and_eq_true, decide_eq_true_iff, decide_eq_true_iff] at digit
  exact UInt32.le_trans digit.2 (by decide)

theorem bytes_digits (n : Int) : bytes (digits n) = intLength n := by
  cases n with
  | ofNat n => exact bytes_toDigits n
  | negSucc n =>
    rw [digits, bytes_cons, bytes_toDigits]
    rfl

theorem bytes_intercalate (parts : List (List Char)) :
    bytes ([','].intercalate parts) = (parts.length - 1) + (parts.map bytes).sum := by
  induction parts with
  | nil => rfl
  | cons part rest ih =>
    cases rest with
    | nil => simp [List.intercalate]
    | cons next rest =>
      have step : [','].intercalate (part :: next :: rest) =
          part ++ ',' :: [','].intercalate (next :: rest) := by
        simp
      rw [step, bytes_append, bytes_cons, ih]
      simp only [List.map_cons, List.sum_cons, List.length_cons]
      show _ + (1 + _) = _
      omega

theorem bytes_enclosed {first last : Char} (opens : first.utf8Size = 1) (closes : last.utf8Size = 1)
    (parts : List (List Char)) :
    bytes (enclosed first last parts) = bracketed (parts.map bytes) := by
  rw [enclosed, List.cons_append, bytes_cons, bytes_append, bytes_intercalate, bytes_cons, opens,
    closes, bracketed, List.length_map]
  show 1 + (_ + (1 + 0)) = _
  omega

mutual

/-- The text of a value has as many bytes as its size says. -/
theorem bytes_render : ∀ json : Json, bytes (render json) = size json
  | .null => rfl
  | .bool true => rfl
  | .bool false => rfl
  | .number n => by rw [render, size, bytes_digits]
  | .text s => by rw [render, size, bytes_quoted]
  | .array items => by
    rw [render, size, bytes_enclosed rfl rfl, bytes_renderItems]
  | .object members => by
    rw [render, size, bytes_enclosed rfl rfl, bytes_renderMembers]

theorem bytes_renderItems : ∀ items : List Json, (renderItems items).map bytes = itemSizes items
  | [] => rfl
  | item :: rest => by
    rw [renderItems, itemSizes, List.map_cons, bytes_render, bytes_renderItems]

theorem bytes_renderMembers : ∀ members : List (String × Json),
    (renderMembers members).map bytes = memberSizes members
  | [] => rfl
  | (name, value) :: rest => by
    rw [renderMembers, memberSizes, List.map_cons, bytes_append, bytes_quoted, bytes_cons,
      bytes_render, bytes_renderMembers, member, Nat.add_assoc]
    rfl

end

/-! ### Bounds -/

@[simp] theorem size_ofNat (n : Nat) : size (ofNat n) = natLength n := rfl

@[simp] theorem size_null : size .null = 4 := by rw [size]

@[simp] theorem size_bool (b : Bool) : size (.bool b) = boolLength b := by rw [size]

@[simp] theorem size_number (n : Int) : size (.number n) = intLength n := by rw [size]

theorem itemSizes_eq (items : List Json) : itemSizes items = items.map size := by
  induction items with
  | nil => rfl
  | cons item rest ih => rw [itemSizes, ih, List.map_cons]

theorem charLength_le (c : Char) : charLength c ≤ 6 * c.utf8Size := by
  have one : 1 ≤ c.utf8Size := c.utf8Size_pos
  unfold charLength
  split_ifs <;> omega

theorem utf8ByteSize_eq (s : String) : s.utf8ByteSize = (s.toList.map Char.utf8Size).sum := by
  conv_lhs => rw [← String.ofList_toList (s := s), String.utf8ByteSize_ofList]
  induction s.toList with
  | nil => rfl
  | cons c rest ih => rw [String.utf8Len_cons, ih, List.map_cons, List.sum_cons, Nat.add_comm]

/-- The characters written as a backslash and one more character. -/
def shortEscaped (c : Char) : Bool :=
  (c = '"' ∨ c = '\\') ∨
    (c.toNat = 8 ∨ c.toNat = 9 ∨ c.toNat = 10 ∨ c.toNat = 12 ∨ c.toNat = 13)

/-- The other control characters, which take six. -/
def longEscaped (c : Char) : Bool :=
  c.toNat < 32 ∧ shortEscaped c = false

/-- What a text takes between its quotation marks. -/
def textBytes (s : String) : Nat :=
  s.utf8ByteSize + s.toList.countP shortEscaped + 5 * s.toList.countP longEscaped

theorem utf8Size_of_ascii {c : Char} (ascii : c.toNat < 128) : c.utf8Size = 1 :=
  Char.utf8Size_eq_one_iff.mpr (UInt32.le_iff_toNat_le.mpr (Nat.le_of_lt_succ ascii))

theorem shortEscaped_ascii {c : Char} (short : shortEscaped c = true) : c.toNat < 128 := by
  rcases decide_eq_true_iff.mp short with (rfl | rfl) | codes
  · decide
  · decide
  · omega

theorem charLength_eq (c : Char) : charLength c =
    c.utf8Size + (shortEscaped c).toNat + 5 * (longEscaped c).toNat := by
  cases short : shortEscaped c
  · obtain ⟨plain, uncoded⟩ := not_or.mp (decide_eq_false_iff_not.mp short)
    rw [charLength, if_neg plain, if_neg uncoded]
    by_cases control : c.toNat < 32
    · rw [if_pos control, longEscaped, decide_eq_true ⟨control, short⟩,
        utf8Size_of_ascii (by omega)]
      rfl
    · rw [if_neg control, longEscaped, decide_eq_false fun both => control both.1]
      rfl
  · have long : longEscaped c = false := by simp [longEscaped, short]
    rw [long, utf8Size_of_ascii (shortEscaped_ascii short), charLength]
    rcases decide_eq_true_iff.mp short with marked | coded
    · rw [if_pos marked]
      rfl
    · rw [if_pos coded, ite_self]
      rfl

theorem stringLength_eq (s : String) : stringLength s = 2 + textBytes s := by
  rw [stringLength, textBytes, utf8ByteSize_eq]
  induction s.toList with
  | nil => rfl
  | cons c rest ih =>
    simp only [List.map_cons, List.sum_cons, List.countP_cons, charLength_eq c]
    cases shortEscaped c <;> cases longEscaped c <;> simp <;> omega

/-- Nothing in the text is escaped. -/
def plain (s : String) : Bool :=
  s.toList.all fun c => c.utf8Size = 1 ∧ shortEscaped c = false ∧ longEscaped c = false

@[simp] theorem stringLength_of_plain {s : String} (isPlain : plain s = true) :
    stringLength s = 2 + s.toList.length := by
  have each : s.toList.map charLength = s.toList.map fun _ => 1 := by
    refine List.map_congr_left fun c among => ?_
    obtain ⟨one, short, long⟩ := of_decide_eq_true (List.all_eq_true.mp isPlain c among)
    rw [charLength_eq, one, short, long]
    rfl
  rw [stringLength, each, List.map_const', List.sum_replicate_nat, Nat.mul_one]

@[simp] theorem textBytes_of_plain {s : String} (isPlain : plain s = true) :
    textBytes s = s.toList.length :=
  Nat.add_left_cancel ((stringLength_eq s).symm.trans (stringLength_of_plain isPlain))

/-- A byte of a text takes at most six. -/
theorem stringLength_le (s : String) : stringLength s ≤ 2 + 6 * s.utf8ByteSize := by
  have each : (s.toList.map charLength).sum ≤ (s.toList.map fun c => 6 * c.utf8Size).sum :=
    List.sum_le_sum fun c _ => charLength_le c
  rw [List.sum_map_mul_left] at each
  rw [stringLength, utf8ByteSize_eq]
  omega

theorem memberSizes_eq (members : List (String × Json)) :
    memberSizes members = members.map fun m => member m.1 (size m.2) := by
  induction members with
  | nil => rfl
  | cons m rest ih => rw [memberSizes, ih, List.map_cons]

/-- The members of an object, each after a bracket or a comma. -/
@[simp] def membersBytes : List (String × Json) → Nat
  | [] => 0
  | (name, value) :: rest => 2 + stringLength name + value.size + membersBytes rest

theorem sum_memberSizes (members : List (String × Json)) :
    members.length + (memberSizes members).sum = membersBytes members := by
  induction members with
  | nil => rfl
  | cons m rest ih =>
    rw [memberSizes, membersBytes, List.length_cons, List.sum_cons, member, ← ih]
    omega

@[simp] theorem size_object (name : String) (value : Json) (rest : List (String × Json)) :
    size (.object ((name, value) :: rest)) = 1 + membersBytes ((name, value) :: rest) := by
  rw [← sum_memberSizes, size, bracketed, memberSizes, List.length_cons, List.length_cons]
  have same : (memberSizes rest).length = rest.length := by rw [memberSizes_eq, List.length_map]
  omega

@[simp] theorem size_tagged (tag variant : String) (members : List (String × Json)) :
    size (tagged tag variant members) =
      3 + stringLength tag + stringLength variant + membersBytes members := by
  rw [tagged, size_object, membersBytes, size]
  omega

@[simp] theorem size_text (s : String) : size (.text s) = 2 + textBytes s :=
  stringLength_eq s

end Json

end Gateway.Data
