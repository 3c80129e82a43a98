import Gateway.Data.Reader
import Mathlib.Algebra.Group.Nat.Defs
import Mathlib.Data.List.Perm.Subperm

/-! The public key of a recovery authenticator.

The key stands in the attestation as a CBOR map of five entries. Its reader takes them in any
order, and of an entry that comes twice the later one; that there are to be five, and that all
five labels are needed, leaves no room for a second. -/
namespace Gateway.Maintenance
open Data

inductive RecoveryError where
  | invalidWebAuthnProof
  | invalidPublicKey

/-! ### Reading CBOR

The cursor stays within the bytes and a value below `2 ^ 32`, so the sums and conversions that
the code checks are plain ones. -/

def fromBeBytes (bytes : List UInt8) : Nat := bytes.foldl (fun n byte => 256 * n + byte.toNat) 0

section
variable (bytes : List UInt8)

def cborTake (n : Nat) : Reader RecoveryError (Bytes n) := Reader.take bytes .invalidWebAuthnProof n

def cborReadValue (additional : Nat) : Reader RecoveryError Nat :=
  if additional ≤ 23 then pure additional
  else match additional with
    | 24 => (fromBeBytes ·.val) <$> cborTake bytes 1
    | 25 => (fromBeBytes ·.val) <$> cborTake bytes 2
    | 26 => (fromBeBytes ·.val) <$> cborTake bytes 4
    | _ => throw .invalidWebAuthnProof

/-- The major type and the value; the first byte is a take of one. -/
def cborReadHead : Reader RecoveryError (Nat × Nat) := do
  let first := fromBeBytes (← cborTake bytes 1).val
  Prod.mk (first >>> 5) <$> cborReadValue bytes (first &&& 0x1f)

def cborReadLen (expectedMajor : Nat) : Reader RecoveryError Nat := do
  let (major, value) ← cborReadHead bytes
  if major ≠ expectedMajor then throw .invalidWebAuthnProof else pure value

def cborReadInt : Reader RecoveryError Int := do
  let (major, value) ← cborReadHead bytes
  match major with
  | 0 => pure value
  | 1 => pure (-(value + 1))
  | _ => throw .invalidWebAuthnProof

def cborReadFixedBytes (n : Nat) : Reader RecoveryError (Bytes n) := do
  let length ← cborReadLen bytes 2
  if length ≠ n then throw .invalidWebAuthnProof else cborTake bytes n

/-! ### Reading the key -/

structure CoseFields where
  kty : Option Int := none
  alg : Option Int := none
  curve : Option Int := none
  x : Option (Bytes 32) := none
  y : Option (Bytes 32) := none

/-- One turn of the loop. -/
def CoseFields.readEntry (fields : CoseFields) : Reader RecoveryError CoseFields := do
  match ← cborReadInt bytes with
  | 1 => (fun v => { fields with kty := some v }) <$> cborReadInt bytes
  | 3 => (fun v => { fields with alg := some v }) <$> cborReadInt bytes
  | -1 => (fun v => { fields with curve := some v }) <$> cborReadInt bytes
  | -2 => (fun v => { fields with x := some v }) <$> cborReadFixedBytes bytes 32
  | -3 => (fun v => { fields with y := some v }) <$> cborReadFixedBytes bytes 32
  | _ => throw .invalidWebAuthnProof

def readFields : Reader RecoveryError CoseFields := do
  let entries ← cborReadLen bytes 5
  if entries ≠ 5 then throw .invalidWebAuthnProof
  else (List.range entries).foldlM (fun fields _ => fields.readEntry bytes) {}

/-- The uncompressed point. -/
def publicKey (x y : Bytes 32) : Bytes 65 :=
  ⟨0x04 :: (x.val ++ y.val), by rw [List.length_cons, List.length_append, x.2, y.2]⟩

/-- What follows the loop. `accepts` is the check of the point. -/
def CoseFields.finish (accepts : Bytes 65 → Bool) (cursor : Nat) (fields : CoseFields) :
    Except RecoveryError (Bytes 65) :=
  if cursor ≠ bytes.length ∨ fields.kty ≠ some 2 ∨ fields.alg ≠ some (-7) ∨
      fields.curve ≠ some 1 then .error .invalidWebAuthnProof
  else match fields.x, fields.y with
    | some x, some y =>
      if accepts (publicKey x y) then .ok (publicKey x y) else .error .invalidPublicKey
    | _, _ => .error .invalidWebAuthnProof

/-- The outcome, and where the cursor was left. -/
def parseEs256CoseKey (accepts : Bytes 65 → Bool) : Except RecoveryError (Bytes 65) × Nat :=
  match (readFields bytes).run.run 0 with
  | (.ok fields, cursor) => (fields.finish bytes accepts cursor, cursor)
  | (.error e, cursor) => (.error e, cursor)

end

/-! ### What is written

The eight bytes that CBOR allows for a value as well are not read. -/

/-- A value is in the head's first byte, or in the one, two or four that follow it, which need
not be the fewest. -/
def Argument (additional value : Nat) (code : List UInt8) : Prop :=
  additional < 24 ∧ value = additional ∧ code = [] ∨
    ∃ k < 3, additional = 24 + k ∧ code.length = 2 ^ k ∧ value = fromBeBytes code

def Head (major value : Nat) (code : List UInt8) : Prop :=
  ∃ first back, code = first :: back ∧ first.toNat / 32 = major ∧
    Argument (first.toNat % 32) value back

def IsInt (value : Int) (code : List UInt8) : Prop :=
  ∃ n : Nat, value = n ∧ Head 0 n code ∨ value = -(n + 1) ∧ Head 1 n code

def IsBytes {n : Nat} (content : Bytes n) (code : List UInt8) : Prop :=
  ∃ head, code = head ++ content.val ∧ Head 2 n head

inductive CoseEntry where
  | kty (v : Int)
  | alg (v : Int)
  | curve (v : Int)
  | x (v : Bytes 32)
  | y (v : Bytes 32)

namespace CoseEntry

def label : CoseEntry → Int
  | kty _ => 1
  | alg _ => 3
  | curve _ => -1
  | x _ => -2
  | y _ => -3

def HasValue : CoseEntry → List UInt8 → Prop
  | kty v | alg v | curve v => IsInt v
  | x v | y v => IsBytes v

/-- An entry is its label and then its value. -/
def Is (entry : CoseEntry) (code : List UInt8) : Prop :=
  ∃ front back, code = front ++ back ∧ IsInt entry.label front ∧ entry.HasValue back

/-- Each label once, with the values of an ES256 key. -/
def es256 (x y : Bytes 32) : List CoseEntry := [.kty 2, .alg (-7), .curve 1, .x x, .y y]

theorem exists_entry {p : CoseEntry → Prop} : (∃ entry, p entry) ↔ (∃ v, p (.kty v)) ∨
    (∃ v, p (.alg v)) ∨ (∃ v, p (.curve v)) ∨ (∃ v, p (.x v)) ∨ ∃ v, p (.y v) := by
  constructor
  · rintro ⟨entry, h⟩
    cases entry <;> grind
  · grind

end CoseEntry

/-- A map of the five entries, in whatever order, and nothing after it. -/
def IsEs256CoseKey (x y : Bytes 32) (bytes : List UInt8) : Prop :=
  ∃ entries head body, entries.Perm (CoseEntry.es256 x y) ∧ bytes = head ++ body ∧
    Head 5 5 head ∧ Each CoseEntry.Is entries body

/-! ### What is read -/

def CoseFields.put (fields : CoseFields) : CoseEntry → CoseFields
  | .kty v => { fields with kty := some v }
  | .alg v => { fields with alg := some v }
  | .curve v => { fields with curve := some v }
  | .x v => { fields with x := some v }
  | .y v => { fields with y := some v }

section
variable {bytes : List UInt8}

theorem cborTake_parses {k : Nat} (small : k < 3) :
    Parses bytes ((fromBeBytes ·.val) <$> cborTake bytes (2 ^ k)) (Argument (24 + k)) := by
  refine ((Parses.take _ _).map _).congr fun value code => ?_
  constructor
  · rintro ⟨found, rfl, rfl⟩
    exact .inr ⟨k, small, rfl, found.2, rfl⟩
  · rintro (⟨_, _⟩ | ⟨_, _, same, length, rfl⟩)
    · omega
    · cases Nat.add_left_cancel same
      exact ⟨⟨code, length⟩, rfl, rfl⟩

theorem cborReadValue_parses (additional : Nat) :
    Parses bytes (cborReadValue bytes additional) (Argument additional) := by
  unfold cborReadValue
  split
  · refine (Parses.pure _).congr fun value code => ?_
    constructor
    · rintro ⟨rfl, rfl⟩
      exact .inl ⟨by omega, rfl, rfl⟩
    · rintro (⟨_, is⟩ | ⟨k, _, rfl, _⟩)
      · exact is
      · omega
  -- The longer forms differ in how many bytes follow.
  · split
    · exact cborTake_parses (k := 0) (by decide)
    · exact cborTake_parses (k := 1) (by decide)
    · exact cborTake_parses (k := 2) (by decide)
    · refine (Parses.throw _).congr fun value code => ?_
      constructor
      · exact False.elim
      · rintro (⟨_, _⟩ | ⟨k, _, rfl, _⟩) <;> grind

theorem cborReadHead_parses : Parses bytes (cborReadHead bytes) fun head => Head head.1 head.2 := by
  have first (n : Nat) : n >>> 5 = n / 32 ∧ n &&& 0x1f = n % 32 :=
    ⟨Nat.shiftRight_eq_div_pow n 5, Nat.and_two_pow_sub_one_eq_mod n 5⟩
  have single (b : UInt8) : fromBeBytes [b] = b.toNat := by simp [fromBeBytes]
  refine ((Parses.take _ 1).bind fun found => (cborReadValue_parses _).map _).congr
    fun head code => ?_
  constructor
  · rintro ⟨⟨_, length⟩, _, back, rfl, rfl, value, argument, rfl⟩
    obtain ⟨b, rfl⟩ := List.length_eq_one_iff.mp length
    rw [single, (first _).2] at argument
    exact ⟨b, back, rfl, by rw [single, (first _).1], argument⟩
  · rintro ⟨b, back, rfl, major, argument⟩
    refine ⟨⟨[b], rfl⟩, [b], back, rfl, rfl, head.2, ?_, ?_⟩
    · rwa [single, (first _).2]
    · rw [single, (first _).1, major]

theorem cborReadLen_parses (major : Nat) : Parses bytes (cborReadLen bytes major) (Head major) := by
  refine (cborReadHead_parses.bind fun head => (Parses.pure head.2).guard).congr fun _ _ => ?_
  simp [Prod.exists]

theorem cborReadInt_parses : Parses bytes (cborReadInt bytes) IsInt := by
  refine (cborReadHead_parses.bind (H := fun head value code => code = [] ∧
    (head.1 = 0 ∧ value = head.2 ∨ head.1 = 1 ∧ value = -((head.2 : Int) + 1)))
    fun head => ?_).congr fun value code => ?_
  · obtain ⟨major, n⟩ := head
    dsimp only
    split
    · exact (Parses.pure _).congr fun _ _ => by simp [*, and_comm]
    · exact (Parses.pure _).congr fun _ _ => by simp [*, and_comm]
    · exact (Parses.throw _).congr fun _ _ => by grind
  constructor
  · rintro ⟨⟨_, n⟩, front, _, rfl, head, rfl, ⟨rfl, is⟩ | ⟨rfl, is⟩⟩
    · exact ⟨n, .inl ⟨is, by rwa [List.append_nil]⟩⟩
    · exact ⟨n, .inr ⟨is, by rwa [List.append_nil]⟩⟩
  · rintro ⟨n, ⟨is, head⟩ | ⟨is, head⟩⟩
    · exact ⟨(0, n), code, [], (List.append_nil _).symm, head, rfl, .inl ⟨rfl, is⟩⟩
    · exact ⟨(1, n), code, [], (List.append_nil _).symm, head, rfl, .inr ⟨rfl, is⟩⟩

theorem cborReadFixedBytes_parses (n : Nat) :
    Parses bytes (cborReadFixedBytes bytes n) IsBytes := by
  refine ((cborReadLen_parses 2).bind fun _ => (Parses.take _ n).guard).congr fun _ _ => ?_
  constructor
  · rintro ⟨_, front, _, rfl, head, is, rfl⟩
    cases of_not_not is
    exact ⟨front, rfl, head⟩
  · rintro ⟨front, rfl, head⟩
    exact ⟨n, front, _, rfl, head, not_not_intro rfl, rfl⟩

theorem readEntry_parses (fields : CoseFields) : Parses bytes (fields.readEntry bytes)
    fun fields' code => ∃ entry : CoseEntry, entry.Is code ∧ fields' = fields.put entry := by
  refine (cborReadInt_parses.bind (H := fun key fields' code => ∃ entry : CoseEntry,
    entry.label = key ∧ entry.HasValue code ∧ fields' = fields.put entry) fun key => ?_).congr
    fun fields' code => ?_
  · simp only [CoseEntry.exists_entry, CoseEntry.label, CoseEntry.HasValue, CoseFields.put]
    split
    · exact (cborReadInt_parses.map _).congr fun _ _ => by simp
    · exact (cborReadInt_parses.map _).congr fun _ _ => by simp
    · exact (cborReadInt_parses.map _).congr fun _ _ => by simp
    · exact ((cborReadFixedBytes_parses 32).map _).congr fun _ _ => by simp
    · exact ((cborReadFixedBytes_parses 32).map _).congr fun _ _ => by simp
    · exact (Parses.throw _).congr fun _ _ => by grind
  constructor
  · rintro ⟨_, front, back, rfl, label, entry, rfl, held, rfl⟩
    exact ⟨entry, ⟨front, back, rfl, label, held⟩, rfl⟩
  · rintro ⟨entry, ⟨front, back, rfl, label, held⟩, rfl⟩
    exact ⟨_, front, back, rfl, label, entry, rfl, held, rfl⟩

theorem readFields_parses : Parses bytes (readFields bytes) fun fields code =>
    ∃ entries head body, entries.length = 5 ∧ fields = entries.foldl CoseFields.put {} ∧
      code = head ++ body ∧ Head 5 5 head ∧ Each CoseEntry.Is entries body := by
  refine ((cborReadLen_parses 5).bind fun entries =>
    (Parses.foldlM (fun fields _ => readEntry_parses fields) _).guard).congr fun fields code => ?_
  constructor
  · rintro ⟨_, head, body, rfl, isHead, five, entries, length, rfl, each⟩
    cases of_not_not five
    exact ⟨entries, head, body, length, rfl, rfl, isHead, each⟩
  · rintro ⟨entries, head, body, length, rfl, rfl, isHead, each⟩
    exact ⟨5, head, body, rfl, isHead, not_not_intro rfl, entries, length, rfl, each⟩

end

namespace CoseFields

/-- An entry is what is kept for its label. -/
def Holds (fields : CoseFields) : CoseEntry → Prop
  | .kty v => fields.kty = some v
  | .alg v => fields.alg = some v
  | .curve v => fields.curve = some v
  | .x v => fields.x = some v
  | .y v => fields.y = some v

theorem mem_of_holds {entry : CoseEntry} {entries : List CoseEntry} {fields : CoseFields}
    (h : (entries.foldl put fields).Holds entry) : fields.Holds entry ∨ entry ∈ entries := by
  induction entries generalizing fields with
  | nil => exact .inl h
  | cons first rest ih =>
    rcases ih h with held | mem
    · cases first <;> cases entry <;> simp_all [put, Holds]
    · exact .inr (List.mem_cons_of_mem _ mem)

/-- Five entries leave the fields of a key just when they are those of the key. -/
theorem foldl_put_iff {entries : List CoseEntry} {x y : Bytes 32} :
    entries.length = 5 ∧ entries.foldl put {} = ⟨some 2, some (-7), some 1, some x, some y⟩ ↔
      entries.Perm (CoseEntry.es256 x y) := by
  constructor
  · rintro ⟨five, left⟩
    have needed : CoseEntry.es256 x y ⊆ entries := by
      intro entry mem
      have held : (entries.foldl put {}).Holds entry := by
        rw [left]
        simp [CoseEntry.es256] at mem
        rcases mem with rfl | rfl | rfl | rfl | rfl <;> rfl
      rcases mem_of_holds held with none | mem
      · cases entry <;> cases none
      · exact mem
    -- Five different entries were read, so no other was.
    have distinct : (CoseEntry.es256 x y).Nodup := by simp [CoseEntry.es256]
    exact ((distinct.subperm needed).perm_of_length_le (Nat.le_of_eq five)).symm
  · intro order
    refine ⟨order.length_eq, order.symm.foldl_eq' ?_ _ ▸ rfl⟩
    simp [CoseEntry.es256, put]

theorem finish_eq_ok {bytes : List UInt8} {accepts : Bytes 65 → Bool} {cursor : Nat}
    {fields : CoseFields} {key : Bytes 65} : fields.finish bytes accepts cursor = .ok key ↔
      cursor = bytes.length ∧ ∃ x y, fields = ⟨some 2, some (-7), some 1, some x, some y⟩ ∧
        key = publicKey x y ∧ accepts key := by
  obtain ⟨kty, alg, curve, x, y⟩ := fields
  cases x <;> cases y <;> grind [finish]

end CoseFields

/-- The cursor, which moves over what is read, ends inside the bytes, and these are accepted just
when they are a key whose point is, with the uncompressed point as the result. -/
theorem parseEs256CoseKey_exact (bytes : List UInt8) (accepts : Bytes 65 → Bool) :
    (parseEs256CoseKey bytes accepts).2 ≤ bytes.length ∧
    ∀ key, (parseEs256CoseKey bytes accepts).1 = .ok key ↔
      ∃ x y, IsEs256CoseKey x y bytes ∧ key.val = 0x04 :: (x.val ++ y.val) ∧ accepts key := by
  constructor
  · have inside := (@readFields_parses bytes).inside 0 (Nat.zero_le _)
    unfold parseEs256CoseKey
    split <;> simp_all [Fallible.Ends]
  intro key
  have point (x y : Bytes 32) : key.val = 0x04 :: (x.val ++ y.val) ↔ key = publicKey x y :=
    ⟨fun same => Subtype.ext same, fun same => same ▸ rfl⟩
  simp only [point]
  have run : (parseEs256CoseKey bytes accepts).1 = .ok key ↔ ∃ fields cursor,
      (readFields bytes).run.run 0 = (.ok fields, cursor) ∧
        fields.finish bytes accepts cursor = .ok key := by
    unfold parseEs256CoseKey
    split <;> grind
  rw [run]
  constructor
  · rintro ⟨fields, _, reached, done⟩
    obtain ⟨_, after, is, ⟨entries, head, body, five, rfl, rfl, isHead, each⟩, rfl⟩ :=
      (readFields_parses.accepts [] bytes rfl _ _).mp reached
    obtain ⟨atEnd, x, y, left, rfl, fine⟩ := CoseFields.finish_eq_ok.mp done
    have none : after = [] := by simp_all
    rw [none, List.append_nil] at is
    have order := CoseFields.foldl_put_iff.mp ⟨five, left⟩
    exact ⟨x, y, ⟨entries, head, body, order, is, isHead, each⟩, rfl, fine⟩
  · rintro ⟨x, y, ⟨entries, head, body, order, is, isHead, each⟩, rfl, fine⟩
    obtain ⟨five, left⟩ := CoseFields.foldl_put_iff.mpr order
    have reached := (readFields_parses.accepts [] bytes rfl _ _).mpr
      ⟨bytes, [], (List.append_nil _).symm, ⟨entries, head, body, five, rfl, is, isHead, each⟩, rfl⟩
    exact ⟨_, _, reached, CoseFields.finish_eq_ok.mpr ⟨rfl, x, y, left, rfl, fine⟩⟩

end Gateway.Maintenance
