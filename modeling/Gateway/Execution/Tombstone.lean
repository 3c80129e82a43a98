import Gateway.Data.Base64
import Gateway.Data.Result
import Gateway.Execution.Operation

/-! Replay-deny tombstones: the compact, lossless form in which a retired
operation id is kept for good.

A canonical id, `op_` and 32 lower-case hexadecimal digits, is kept as its 16
bytes; any other id is kept as its UTF-8 bytes. Both are base64url text under a
two-character tag. `operationId_fromOperationId` is what makes the form safe to
restart from: every id that can be retired is read back exactly. -/
namespace Gateway.Execution
open Data Base64

def maxRetiredOperationTombstones : Nat := 4096
def maxRetiredOperationIdBytes : Nat := 128

structure ReplayDenyTombstone where
  encodedId : String

namespace ReplayDenyTombstone

def canonicalTag : String := "c:"
def rawTag : String := "r:"

/-- A decimal digit or `a` to `f`. -/
def isHexDigit (c : Char) : Bool :=
  (48 ≤ c.toNat && c.toNat ≤ 57) || (97 ≤ c.toNat && c.toNat ≤ 102)

def hexValue (c : Char) : Nat :=
  if c.toNat ≤ 57 then c.toNat - 48 else c.toNat - 87

def hexDigit (n : Nat) : Char :=
  if n < 10 then Char.ofNat (48 + n) else Char.ofNat (87 + n)

/-- The bytes written by pairs of hexadecimal digits. -/
def hexBytes : List Char → List UInt8
  | high :: low :: rest => UInt8.ofNat (hexValue high * 16 + hexValue low) :: hexBytes rest
  | _ => []

/-- Each byte as two hexadecimal digits. -/
def hexText : List UInt8 → List Char
  | [] => []
  | b :: rest => hexDigit (b.toNat / 16) :: hexDigit (b.toNat % 16) :: hexText rest

/-- The 32 digits of a canonical id. -/
def canonicalSuffix (operationId : String) : Option (List Char) :=
  match stripPrefix "op_" operationId with
  | some suffix =>
    -- Hexadecimal digits are single bytes, so counting characters counts bytes.
    if suffix.toList.length = 32 ∧ suffix.toList.all isHexDigit then some suffix.toList else none
  | none => none

/-- An id that may be retired. -/
def isRetirableId (operationId : String) : Bool :=
  !isBlank operationId && operationId.utf8ByteSize ≤ maxRetiredOperationIdBytes

def fromOperationId (operationId : String) : Except ExecutionError ReplayDenyTombstone :=
  if isBlank operationId ∨ operationId.utf8ByteSize > maxRetiredOperationIdBytes then
    .error .invalidOperation
  else match canonicalSuffix operationId with
    | some digits => .ok ⟨canonicalTag ++ encode (hexBytes digits)⟩
    | none => .ok ⟨rawTag ++ encode (toUtf8 operationId)⟩

def operationId (tombstone : ReplayDenyTombstone) : Except ExecutionError String :=
  match stripPrefix canonicalTag tombstone.encodedId with
  | some payload =>
    match decode payload with
    | none => .error .invalidSnapshot
    | some bytes =>
      if bytes.length ≠ 16 then .error .invalidSnapshot
      else .ok (String.ofList ("op_".toList ++ hexText bytes))
  | none =>
    match stripPrefix rawTag tombstone.encodedId with
    | some payload =>
      match (decode payload).bind fromUtf8 with
      | none => .error .invalidSnapshot
      | some operationId =>
        if isBlank operationId ∨ operationId.utf8ByteSize > maxRetiredOperationIdBytes then
          .error .invalidSnapshot
        else .ok operationId
    | none => .error .invalidSnapshot

/-! ### Reading a tombstone back -/

theorem hexDigit_hexValue {c : Char} (h : isHexDigit c = true) : hexDigit (hexValue c) = c := by
  simp only [isHexDigit, Bool.or_eq_true, Bool.and_eq_true, decide_eq_true_eq] at h
  have decimal : c.toNat ≤ 57 → 48 + (c.toNat - 48) = c.toNat := by omega
  have letter : ¬c.toNat ≤ 57 → 87 + (c.toNat - 87) = c.toNat := by omega
  by_cases small : c.toNat ≤ 57
  · rw [hexValue, if_pos small, hexDigit, if_pos (by omega), decimal small, Char.ofNat_toNat]
  · rw [hexValue, if_neg small, hexDigit, if_neg (by omega), letter small, Char.ofNat_toNat]

theorem hexValue_lt {c : Char} (h : isHexDigit c = true) : hexValue c < 16 := by
  simp only [isHexDigit, Bool.or_eq_true, Bool.and_eq_true, decide_eq_true_eq] at h
  unfold hexValue
  split <;> omega

theorem hexText_hexBytes (digits : List Char) (n : Nat) (even : digits.length = 2 * n)
    (hex : ∀ c ∈ digits, isHexDigit c = true) : hexText (hexBytes digits) = digits := by
  induction digits using hexBytes.induct generalizing n with
  | case1 high low rest ih =>
    have hhigh := hexValue_lt (hex high (by simp))
    have hlow := hexValue_lt (hex low (by simp))
    have byte : (UInt8.ofNat (hexValue high * 16 + hexValue low)).toNat =
        hexValue high * 16 + hexValue low := by
      rw [UInt8.toNat_ofNat']
      omega
    have divided : (hexValue high * 16 + hexValue low) / 16 = hexValue high := by omega
    have rest_eq := ih (n - 1) (by simp only [List.length_cons] at even; omega)
      fun c hc => hex c (by simp [hc])
    have rem : (hexValue high * 16 + hexValue low) % 16 = hexValue low := by omega
    rw [hexBytes, hexText, byte, divided, rem, hexDigit_hexValue (hex high (by simp)),
      hexDigit_hexValue (hex low (by simp)), rest_eq]
  | case2 digits short =>
    match digits, even with
    | [], _ => rfl
    | [c], even => simp only [List.length_cons, List.length_nil] at even; omega
    | high :: low :: rest, _ => exact absurd rfl (short high low rest)

theorem length_hexBytes (digits : List Char) : (hexBytes digits).length = digits.length / 2 := by
  induction digits using hexBytes.induct with
  | case1 high low rest ih => simp only [hexBytes, List.length_cons]; omega
  | case2 digits short =>
    match digits with
    | [] => rfl
    | [c] => simp [hexBytes]
    | high :: low :: rest => exact absurd rfl (short high low rest)

/-- A canonical id is its prefix and its digits. -/
theorem eq_of_canonicalSuffix {operationId : String} {digits : List Char}
    (h : canonicalSuffix operationId = some digits) :
    operationId = String.ofList ("op_".toList ++ digits) ∧ digits.length = 32 ∧
      ∀ c ∈ digits, isHexDigit c = true := by
  unfold canonicalSuffix stripPrefix at h
  split at h
  · next suffix stripped =>
    split at stripped
    · next lead =>
      split at h
      · next shape =>
        obtain ⟨rest, hrest⟩ := List.isPrefixOf_iff_prefix.mp lead
        cases h
        cases stripped
        rw [← hrest] at shape ⊢
        simp only [List.drop_left, String.toList_ofList, List.all_eq_true] at shape ⊢
        exact ⟨by rw [hrest, String.ofList_toList], shape⟩
      · cases h
    · cases stripped
  · cases h

variable {id : String} {tombstone : ReplayDenyTombstone}

/-- A tombstone is read back as the id it was made from. -/
theorem operationId_fromOperationId (h : fromOperationId id = .ok tombstone) :
    tombstone.operationId = .ok id := by
  unfold fromOperationId at h
  split at h
  · cases h
  · next retirable =>
    split at h
    · next digits canonical =>
      obtain ⟨rfl, length, hex⟩ := eq_of_canonicalSuffix canonical
      cases h
      have sixteen : (hexBytes digits).length = 16 := by rw [length_hexBytes, length]
      simp only [operationId, stripPrefix_append, decode_encode, sixteen, ne_eq,
        not_true_eq_false, if_false, hexText_hexBytes digits 16 length hex]
    · cases h
      have other : stripPrefix canonicalTag (rawTag ++ encode (toUtf8 id)) = none := by
        simp [stripPrefix, canonicalTag, rawTag]
      simp only [operationId, other, stripPrefix_append, decode_encode, Option.bind_some,
        fromUtf8_toUtf8, if_neg retirable]

/-- Exactly the nonblank ids of at most 128 bytes have a tombstone. -/
theorem exists_fromOperationId (h : isRetirableId id = true) :
    ∃ tombstone, fromOperationId id = .ok tombstone := by
  simp only [isRetirableId, Bool.and_eq_true, Bool.not_eq_true', decide_eq_true_eq] at h
  unfold fromOperationId
  rw [if_neg (by simp [h.1]; omega)]
  split
  · exact ⟨_, rfl⟩
  · exact ⟨_, rfl⟩

/-- An id with a tombstone may be retired. -/
theorem isRetirableId_of_fromOperationId (h : fromOperationId id = .ok tombstone) :
    isRetirableId id = true := by
  obtain ⟨retirable, -⟩ := Result.guard_eq_ok.mp h
  obtain ⟨named, short⟩ := not_or.mp retirable
  simp only [isRetirableId, named, Bool.not_false, Bool.true_and, decide_eq_true_eq]
  exact Nat.not_lt.mp short

theorem hexDigit_plain {n : Nat} (h : n < 16) : (hexDigit n).utf8Size = 1 := by
  interval_cases n <;> rfl

/-- Each byte is two characters of one byte each. -/
theorem utf8ByteSize_hexText (bytes : List UInt8) :
    (String.ofList (hexText bytes)).utf8ByteSize = 2 * bytes.length := by
  induction bytes with
  | nil => rfl
  | cons b rest ih =>
    have high : b.toNat / 16 < 16 := by have := b.toNat_lt; omega
    have low : b.toNat % 16 < 16 := Nat.mod_lt _ (by decide)
    rw [hexText, String.ofList_cons]
    simp [hexDigit_plain high, hexDigit_plain low]
    omega

/-- Every id a tombstone is read back as may be retired. -/
theorem isRetirableId_operationId (h : tombstone.operationId = .ok id) :
    isRetirableId id = true := by
  unfold operationId at h
  split at h
  · split at h
    · cases h
    · next bytes _ =>
      split at h
      · cases h
      · next sixteen =>
        cases h
        have size := utf8ByteSize_hexText bytes
        rw [not_not.mp sixteen] at size
        have lead : (String.ofList ("op_".toList ++ hexText bytes)).utf8ByteSize = 3 + 2 * 16 := by
          rw [String.ofList_append, String.utf8ByteSize_append, size]
          rfl
        have named : isBlank (String.ofList ("op_".toList ++ hexText bytes)) = false := by
          rw [isBlank, String.toList_ofList]
          rfl
        simp only [isRetirableId, lead, named]
        decide
  · split at h
    · split at h
      · cases h
      · split at h
        · cases h
        · next retirable =>
          cases h
          obtain ⟨named, short⟩ := not_or.mp retirable
          simp only [isRetirableId, named, Bool.not_false, Bool.true_and, decide_eq_true_eq]
          exact Nat.not_lt.mp short
    · cases h

theorem exists_fromOperationId_iff (id : String) :
    (∃ tombstone, fromOperationId id = .ok tombstone) ↔
      isBlank id = false ∧ id.utf8ByteSize ≤ maxRetiredOperationIdBytes := by
  have retirable : isRetirableId id = true ↔
      isBlank id = false ∧ id.utf8ByteSize ≤ maxRetiredOperationIdBytes := by
    simp [isRetirableId]
  rw [← retirable]
  constructor
  · rintro ⟨tombstone, made⟩
    exact isRetirableId_of_fromOperationId made
  · exact exists_fromOperationId

theorem fromOperationId_injective {id' : String} (made : fromOperationId id = .ok tombstone)
    (made' : fromOperationId id' = .ok tombstone) : id = id' := by
  have read := operationId_fromOperationId made
  rw [operationId_fromOperationId made', Except.ok.injEq] at read
  exact read.symm

/-- A tombstone that cannot be read makes the snapshot invalid. -/
theorem eq_invalidSnapshot_of_error {e : ExecutionError} (h : tombstone.operationId = .error e) :
    e = .invalidSnapshot := by
  unfold operationId at h
  repeat' split at h
  all_goals cases h
  all_goals rfl

end ReplayDenyTombstone

end Gateway.Execution
