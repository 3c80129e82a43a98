import Gateway.Control.Message
import Gateway.Control.Registry
import Mathlib.Data.UInt

/-! One-shot grants.

A grant is a signed permission for one use within its lifetime. The ledger remembers what
was used until it expires, and drops it from then on: clock readings that never go back make
the two checks meet. What is told of a grant here is what the answers of a run show. -/
namespace Gateway.Control
open Data Device Result Table VerifyingKey DeviceRegistry

variable {scheme : SignatureScheme}

def grantLedgerSnapshotSchemaVersion : Nat := 7

def maxGrantLifetimeMs : Nat := 5 * 60 * 1000

structure GrantPayload where
  schemaVersion : Nat
  issuerKeyId : String
  grantId : String
  deviceId : String
  capability : CapabilityClass
  deviceCapability : Option DeviceCapability
  issuedAtMs : Nat
  expiresAtMs : Nat
  deriving DecidableEq

structure GrantToken where
  payload : GrantPayload
  signature : List UInt8

structure ConsumedGrantSnapshot where
  grantId : String
  expiresAtMs : Nat

structure GrantLedgerSnapshot where
  schemaVersion : Nat
  verifierKeys : List KeyBytes
  consumedGrants : List ConsumedGrantSnapshot
  revokedGrantIds : List String

structure GrantLedger (scheme : SignatureScheme) where
  verifiers : Table (VerifyingKey scheme)
  consumed : Table Nat
  revoked : Names

namespace GrantLedger

def new (verifier : VerifyingKey scheme) : GrantLedger scheme :=
  ⟨(∅ : Table (VerifyingKey scheme)).insert (verifyingKeyId verifier) verifier, ∅, ∅⟩

variable (ledger : GrantLedger scheme)

/-- Keys are sorted by their bytes, which is the order of their names. -/
def snapshot : GrantLedgerSnapshot where
  schemaVersion := grantLedgerSnapshotSchemaVersion
  verifierKeys := (sortBy verifyingKeyId ledger.verifiers.values).map bytes
  consumedGrants := sortBy ConsumedGrantSnapshot.grantId
    (ledger.consumed.toList.map fun entry => ⟨entry.1, entry.2⟩)
  revokedGrantIds := sortBy id ledger.revoked.toList

def readVerifiers (scheme : SignatureScheme) : List KeyBytes → Table (VerifyingKey scheme) →
    Except TrustError (Table (VerifyingKey scheme))
  | [], verifiers => .ok verifiers
  | bytes :: rest, verifiers =>
    match fromBytes scheme bytes with
    | none => .error .invalidGrantLedgerSnapshot
    | some verifier => readVerifiers scheme rest (verifiers.insert (verifyingKeyId verifier) verifier)

def readConsumed : List ConsumedGrantSnapshot → Table Nat → Except TrustError (Table Nat)
  | [], consumed => .ok consumed
  | entry :: rest, consumed =>
    if isBlank entry.grantId ∨ entry.expiresAtMs = 0 ∨ entry.grantId ∈ consumed then
      .error .invalidGrantLedgerSnapshot
    else readConsumed rest (consumed.insert entry.grantId entry.expiresAtMs)

def fromSnapshot (scheme : SignatureScheme) (snapshot : GrantLedgerSnapshot) :
    Except TrustError (GrantLedger scheme) :=
  if snapshot.schemaVersion ≠ grantLedgerSnapshotSchemaVersion then
    .error (.unsupportedControlSchema snapshot.schemaVersion)
  else if snapshot.verifierKeys.isEmpty then .error .invalidGrantLedgerSnapshot
  else do
    let verifiers ← readVerifiers scheme snapshot.verifierKeys ∅
    let consumed ← readConsumed snapshot.consumedGrants ∅
    return ⟨verifiers, consumed, Std.ExtTreeSet.ofList snapshot.revokedGrantIds⟩

def fromPersistedSnapshot (scheme : SignatureScheme) (snapshot : GrantLedgerSnapshot) :
    Except TrustError (GrantLedger scheme) :=
  if snapshot.schemaVersion = grantLedgerSnapshotSchemaVersion then fromSnapshot scheme snapshot
  else if 2 ≤ snapshot.schemaVersion ∧ snapshot.schemaVersion ≤ 6 then
    fromSnapshot scheme {snapshot with schemaVersion := grantLedgerSnapshotSchemaVersion}
  else .error (.unsupportedControlSchema snapshot.schemaVersion)

def trustVerifier (verifier : VerifyingKey scheme) : String × GrantLedger scheme :=
  let keyId := verifyingKeyId verifier
  (keyId, {ledger with verifiers := ledger.verifiers.insert keyId verifier})

def retireVerifier (keyId : String) : Bool × GrantLedger scheme :=
  (decide (keyId ∈ ledger.verifiers), {ledger with verifiers := ledger.verifiers.erase keyId})

def revoke (grantId : String) : GrantLedger scheme :=
  {ledger with revoked := ledger.revoked.insert grantId}

/-! ### Authorization -/

/-- Drop what has expired. -/
def pruned (nowMs : Nat) : GrantLedger scheme :=
  {ledger with consumed := ledger.consumed.filter fun _ expiresAtMs => expiresAtMs > nowMs}

section Authorize
-- The bytes that are signed for a payload.
variable (canonicalGrantBytes : GrantPayload → List UInt8) (ledger : GrantLedger scheme)

def verifySignature (token : GrantToken) : Except TrustError Unit :=
  if token.signature.length ≠ 64 then .error .invalidGrantSignature
  else match ledger.verifiers[token.payload.issuerKeyId]? with
    | none => .error .unknownGrantSigningKey
    | some verifier =>
      if verifier.verify (canonicalGrantBytes token.payload) token.signature then .ok ()
      else .error .invalidGrantSignature

/-- Every check but those of the capability. Past the checks of the payload alone, expired
grants are dropped, whether or not this one is refused. -/
def validateUnconsumedGrant (token : GrantToken) (deviceId : String)
    (nowMs : Nat) : Except TrustError Unit × GrantLedger scheme :=
  let payload := token.payload
  match ledger.verifySignature canonicalGrantBytes token with
  | .error e => (.error e, ledger)
  | .ok () =>
    if payload.schemaVersion ≠ controlSchemaVersion then
      (.error (.unsupportedControlSchema payload.schemaVersion), ledger)
    else if payload.deviceId ≠ deviceId then (.error .grantDeviceMismatch, ledger)
    else if payload.expiresAtMs < payload.issuedAtMs then (.error .invalidGrantLifetime, ledger)
    else if payload.expiresAtMs - payload.issuedAtMs = 0 ∨
        payload.expiresAtMs - payload.issuedAtMs > maxGrantLifetimeMs then
      (.error .invalidGrantLifetime, ledger)
    else
      let ledger := ledger.pruned nowMs
      if nowMs < payload.issuedAtMs then (.error .grantNotYetValid, ledger)
      else if payload.expiresAtMs ≤ nowMs then (.error .grantExpired, ledger)
      else if payload.grantId ∈ ledger.revoked then (.error .grantRevoked, ledger)
      else if payload.grantId ∈ ledger.consumed then (.error .grantReplay, ledger)
      else (.ok (), ledger)

def consume (payload : GrantPayload) : GrantLedger scheme :=
  {ledger with consumed := ledger.consumed.insert payload.grantId payload.expiresAtMs}

def authorizeOnce (token : GrantToken) (deviceId : String)
    (required : CapabilityClass) (nowMs : Nat) : Except TrustError Unit × GrantLedger scheme :=
  match ledger.validateUnconsumedGrant canonicalGrantBytes token deviceId nowMs with
  | (.error e, ledger) => (.error e, ledger)
  | (.ok (), ledger) =>
    if token.payload.capability ≠ required then
      (.error (.capabilityDenied token.payload.capability required), ledger)
    else (.ok (), ledger.consume token.payload)

def authorizeDeviceCapabilityOnce (token : GrantToken)
    (deviceId : String) (required : DeviceCapability) (nowMs : Nat) :
    Except TrustError Unit × GrantLedger scheme :=
  match ledger.validateUnconsumedGrant canonicalGrantBytes token deviceId nowMs with
  | (.error e, ledger) => (.error e, ledger)
  | (.ok (), ledger) =>
    if token.payload.capability ≠ required.capabilityClass then
      (.error (.capabilityDenied token.payload.capability required.capabilityClass), ledger)
    else if token.payload.deviceCapability ≠ some required then
      (.error (.deviceCapabilityGrantMismatch token.payload.deviceCapability required), ledger)
    else (.ok (), ledger.consume token.payload)

end Authorize

/-- Snapshot the ledger and read it back. A ledger that cannot be read back stays. -/
def restart : GrantLedger scheme :=
  (fromPersistedSnapshot scheme ledger.snapshot).toOption.getD ledger

end GrantLedger

inductive GrantEvent (scheme : SignatureScheme) where
  | authorizeOnce (token : GrantToken) (deviceId : String) (required : CapabilityClass) (nowMs : Nat)
  | authorizeDeviceCapabilityOnce (token : GrantToken) (deviceId : String)
      (required : DeviceCapability) (nowMs : Nat)
  | revoke (grantId : String)
  | trustVerifier (verifier : VerifyingKey scheme)
  | retireVerifier (keyId : String)
  | restart

/-- A grant that was accepted: what was asked, and when. -/
structure Authorization where
  payload : GrantPayload
  deviceId : String
  required : CapabilityClass
  exact : Option DeviceCapability
  atMs : Nat
  deriving DecidableEq

namespace GrantEvent

def nowMs : GrantEvent scheme → Option Nat
  | .authorizeOnce _ _ _ nowMs | .authorizeDeviceCapabilityOnce _ _ _ nowMs => some nowMs
  | _ => none

/-- What an authorization asks for. -/
def asks : GrantEvent scheme → Option Authorization
  | .authorizeOnce token deviceId required nowMs =>
    some ⟨token.payload, deviceId, required, none, nowMs⟩
  | .authorizeDeviceCapabilityOnce token deviceId required nowMs =>
    some ⟨token.payload, deviceId, required.capabilityClass, some required, nowMs⟩
  | _ => none

end GrantEvent

/-- One entry of a run's history. -/
inductive GrantEntry where
  | authorized (authorization : Authorization)
  | revoked (grantId : String)
  deriving DecidableEq

/-! ### Runs of the ledger -/

/-- A ledger with what has been seen of it from outside, newest first. -/
structure GrantRun (scheme : SignatureScheme) where
  ledger : GrantLedger scheme
  latestMs : Nat
  history : List GrantEntry

section Run
variable (canonicalGrantBytes : GrantPayload → List UInt8)

def GrantLedger.step (ledger : GrantLedger scheme) :
    GrantEvent scheme → Except TrustError Unit × GrantLedger scheme
  | .authorizeOnce token deviceId required nowMs =>
    ledger.authorizeOnce canonicalGrantBytes token deviceId required nowMs
  | .authorizeDeviceCapabilityOnce token deviceId required nowMs =>
    ledger.authorizeDeviceCapabilityOnce canonicalGrantBytes token deviceId required nowMs
  | .revoke grantId => (.ok (), ledger.revoke grantId)
  | .trustVerifier verifier => (.ok (), (ledger.trustVerifier verifier).2)
  | .retireVerifier keyId => (.ok (), (ledger.retireVerifier keyId).2)
  | .restart => (.ok (), ledger.restart)

/-- What an answer adds to the history. -/
def GrantEvent.entries (event : GrantEvent scheme) (ok : Bool) : List GrantEntry :=
  match event with
  | .revoke grantId => [.revoked grantId]
  | event => if ok then (event.asks.map GrantEntry.authorized).toList else []

namespace GrantRun

def start (ledger : GrantLedger scheme) : GrantRun scheme :=
  ⟨ledger, 0, []⟩

def next (run : GrantRun scheme) (event : GrantEvent scheme) : GrantRun scheme :=
  let answer := run.ledger.step canonicalGrantBytes event
  { ledger := answer.2
    latestMs := event.nowMs.getD run.latestMs
    history := event.entries answer.1.isOk ++ run.history }

end GrantRun

end Run

/-- The clock does not go back. -/
def GrantRun.InTime (run : GrantRun scheme) (event : GrantEvent scheme) : Prop :=
  ∀ nowMs, event.nowMs = some nowMs → run.latestMs ≤ nowMs

instance (run : GrantRun scheme) (event : GrantEvent scheme) : Decidable (run.InTime event) :=
  decidable_of_iff (event.nowMs.all fun nowMs => decide (run.latestMs ≤ nowMs)) (by
    simp [GrantRun.InTime, Option.all_eq_true])

/-- A payload is not accepted twice, nor after its grant was revoked. -/
def GrantEntry.Follows : GrantEntry → GrantEntry → Prop
  | .authorized authorization, .authorized earlier => authorization.payload ≠ earlier.payload
  | .authorized authorization, .revoked grantId => authorization.payload.grantId ≠ grantId
  | _, _ => True

/-- A grant was accepted within its lifetime, for what it grants. -/
structure Authorization.Granted (authorization : Authorization) : Prop where
  issued : authorization.payload.issuedAtMs ≤ authorization.atMs
  unexpired : authorization.atMs < authorization.payload.expiresAtMs
  bounded : 0 < authorization.payload.expiresAtMs - authorization.payload.issuedAtMs ∧
    authorization.payload.expiresAtMs - authorization.payload.issuedAtMs ≤ maxGrantLifetimeMs
  device : authorization.payload.deviceId = authorization.deviceId
  capability : authorization.payload.capability = authorization.required
  exact : ∀ capability, authorization.exact = some capability →
    authorization.payload.deviceCapability = some capability

/-! ### What a call does to the ledger -/

namespace GrantLedger
variable (canonicalGrantBytes : GrantPayload → List UInt8)

theorem get_pruned (ledger : GrantLedger scheme) (nowMs : Nat) (grantId : String) :
    (ledger.pruned nowMs).consumed[grantId]? = ledger.consumed[grantId]?.filter (· > nowMs) := by
  rw [pruned, Std.ExtTreeMap.getElem?_filter']

/-- A token is refused as it stands, refused past the pruning, or passes. -/
theorem validate_cases (ledger : GrantLedger scheme) (token : GrantToken) (deviceId : String)
    (nowMs : Nat) :
    (∃ e, ledger.validateUnconsumedGrant canonicalGrantBytes token deviceId nowMs =
      (.error e, ledger)) ∨
    (∃ e, ledger.validateUnconsumedGrant canonicalGrantBytes token deviceId nowMs =
      (.error e, ledger.pruned nowMs)) ∨
    ledger.validateUnconsumedGrant canonicalGrantBytes token deviceId nowMs =
        (.ok (), ledger.pruned nowMs) ∧
      token.payload.issuedAtMs ≤ nowMs ∧ nowMs < token.payload.expiresAtMs ∧
      (0 < token.payload.expiresAtMs - token.payload.issuedAtMs ∧
        token.payload.expiresAtMs - token.payload.issuedAtMs ≤ maxGrantLifetimeMs) ∧
      token.payload.deviceId = deviceId ∧ token.payload.grantId ∉ ledger.revoked ∧
      token.payload.grantId ∉ (ledger.pruned nowMs).consumed := by
  unfold validateUnconsumedGrant
  dsimp only
  split
  · exact .inl ⟨_, rfl⟩
  split
  · exact .inl ⟨_, rfl⟩
  split
  · exact .inl ⟨_, rfl⟩
  · next device =>
    split
    · exact .inl ⟨_, rfl⟩
    split
    · exact .inl ⟨_, rfl⟩
    · next lifetime =>
      split
      · exact .inr (.inl ⟨_, rfl⟩)
      · next issued =>
        split
        · exact .inr (.inl ⟨_, rfl⟩)
        · next unexpired =>
          split
          · exact .inr (.inl ⟨_, rfl⟩)
          · next unrevoked =>
            split
            · exact .inr (.inl ⟨_, rfl⟩)
            · next unused =>
              exact .inr (.inr ⟨rfl, Nat.not_lt.mp issued, Nat.not_le.mp unexpired,
                ⟨Nat.pos_of_ne_zero (not_or.mp lifetime).1,
                  Nat.not_lt.mp (not_or.mp lifetime).2⟩, not_not.mp device, unrevoked, unused⟩)

/-- An authorization is refused as it stands, refused past the pruning, or consumes its grant. -/
theorem step_of_asks (ledger : GrantLedger scheme) {event : GrantEvent scheme} {a : Authorization}
    (asks : event.asks = some a) :
    (∃ e, ledger.step canonicalGrantBytes event = (.error e, ledger)) ∨
    (∃ e, ledger.step canonicalGrantBytes event = (.error e, ledger.pruned a.atMs)) ∨
    ledger.step canonicalGrantBytes event = (.ok (), (ledger.pruned a.atMs).consume a.payload) ∧
      a.Granted ∧ a.payload.grantId ∉ ledger.revoked ∧
      a.payload.grantId ∉ (ledger.pruned a.atMs).consumed := by
  cases event with
  | authorizeOnce token deviceId required nowMs =>
    cases asks
    simp only [step, authorizeOnce]
    rcases validate_cases canonicalGrantBytes ledger token deviceId nowMs with
      ⟨e, refused⟩ | ⟨e, refused⟩ | ⟨passed, issued, unexpired, bounded, device, unrevoked, unused⟩
    · rw [refused]
      exact .inl ⟨e, rfl⟩
    · rw [refused]
      exact .inr (.inl ⟨e, rfl⟩)
    · rw [passed]
      dsimp only
      split
      · exact .inr (.inl ⟨_, rfl⟩)
      · next capability =>
        refine .inr (.inr ⟨rfl, ⟨issued, unexpired, bounded, device,
          not_not.mp capability, fun c none => (by cases none)⟩, unrevoked, unused⟩)
  | authorizeDeviceCapabilityOnce token deviceId required nowMs =>
    cases asks
    simp only [step, authorizeDeviceCapabilityOnce]
    rcases validate_cases canonicalGrantBytes ledger token deviceId nowMs with
      ⟨e, refused⟩ | ⟨e, refused⟩ | ⟨passed, issued, unexpired, bounded, device, unrevoked, unused⟩
    · rw [refused]
      exact .inl ⟨e, rfl⟩
    · rw [refused]
      exact .inr (.inl ⟨e, rfl⟩)
    · rw [passed]
      dsimp only
      split
      · exact .inr (.inl ⟨_, rfl⟩)
      · next capability =>
        split
        · exact .inr (.inl ⟨_, rfl⟩)
        · next exact_ =>
          refine .inr (.inr ⟨rfl, ⟨issued, unexpired, bounded, device,
            not_not.mp capability, fun c same => ?_⟩, unrevoked, unused⟩)
          cases same
          exact not_not.mp exact_
  | _ => cases asks

variable {entries : List ConsumedGrantSnapshot} {t : Table Nat} {ledger : GrantLedger scheme}

theorem of_readConsumed {u : Table Nat} (read : readConsumed entries t = .ok u) :
    (∀ entry ∈ entries, entry.grantId ∉ t ∧ u[entry.grantId]? = some entry.expiresAtMs) ∧
      ∀ id, (∀ entry ∈ entries, entry.grantId ≠ id) → u[id]? = t[id]? := by
  induction entries generalizing t with
  | nil =>
    cases read
    exact ⟨by simp, fun _ _ => rfl⟩
  | cons entry rest ih =>
    obtain ⟨valid, read⟩ := guard_eq_ok.mp read
    have fresh := (not_or.mp (not_or.mp valid).2).2
    obtain ⟨listed, apart⟩ := ih read
    have others : ∀ e ∈ rest, e.grantId ∉ t ∧ e.grantId ≠ entry.grantId := by
      intro e mem
      have out := (listed e mem).1
      rw [Std.ExtTreeMap.mem_insert, Std.LawfulEqCmp.compare_eq_iff_eq, not_or] at out
      exact ⟨out.2, fun same => out.1 same.symm⟩
    rw [List.forall_mem_cons]
    refine ⟨⟨⟨fresh, ?_⟩, fun e mem => ⟨(others e mem).1, (listed e mem).2⟩⟩, fun id other => ?_⟩
    · rw [apart _ fun e mem => (others e mem).2, get_insert_self]
    · rw [List.forall_mem_cons] at other
      rw [apart id other.2, get_insert_of_ne other.1]

theorem restart_keeps (ledger : GrantLedger scheme) :
    ledger.restart.consumed = ledger.consumed ∧ ledger.restart.revoked = ledger.revoked := by
  unfold restart
  cases made : fromPersistedSnapshot scheme ledger.snapshot with
  | error e => exact ⟨rfl, rfl⟩
  | ok restored =>
    show restored.consumed = ledger.consumed ∧ restored.revoked = ledger.revoked
    have version : ledger.snapshot.schemaVersion = grantLedgerSnapshotSchemaVersion := rfl
    rw [fromPersistedSnapshot, if_pos version] at made
    obtain ⟨-, made⟩ := guard_eq_ok.mp made
    obtain ⟨-, made⟩ := guard_eq_ok.mp made
    obtain ⟨verifiers, -, made⟩ := bind_eq_ok.mp made
    obtain ⟨consumed, read, made⟩ := bind_eq_ok.mp made
    cases made
    obtain ⟨listed, apart⟩ := of_readConsumed read
    refine ⟨?_, ofList_names (sortBy_perm _ _)⟩
    apply ext_get
    intro id
    cases found : ledger.consumed[id]? with
    | some expires =>
      have mem : (⟨id, expires⟩ : ConsumedGrantSnapshot) ∈ ledger.snapshot.consumedGrants :=
        mem_sortBy.mpr (List.mem_map.mpr
          ⟨(id, expires), Std.ExtTreeMap.mem_toList_iff_getElem?_eq_some.mpr found, rfl⟩)
      exact (listed _ mem).2
    | none =>
      have other : ∀ entry ∈ ledger.snapshot.consumedGrants, entry.grantId ≠ id := by
        intro entry mem named
        obtain ⟨⟨a, expires⟩, present, rfl⟩ := List.mem_map.mp (mem_sortBy.mp mem)
        have there := Std.ExtTreeMap.mem_toList_iff_getElem?_eq_some.mp present
        rw [show a = id from named, found] at there
        cases there
      rw [apart id other, Std.ExtTreeMap.getElem?_empty]

/-- What the snapshot of a ledger can be read back for. -/
structure Legible (ledger : GrantLedger scheme) : Prop where
  verifiers : ledger.verifiers.values ≠ []
  consumed : ∀ grantId expiresAtMs, ledger.consumed[grantId]? = some expiresAtMs →
    isBlank grantId = false ∧ expiresAtMs ≠ 0

theorem readVerifiers_bytes (verifiers : List (VerifyingKey scheme))
    (t : Table (VerifyingKey scheme)) :
    ∃ read, readVerifiers scheme (verifiers.map bytes) t = .ok read := by
  induction verifiers generalizing t with
  | nil => exact ⟨t, rfl⟩
  | cons verifier rest ih =>
    rw [List.map_cons, readVerifiers, fromBytes, dif_pos verifier.valid]
    exact ih _

theorem readConsumed_distinct
    (valid : ∀ entry ∈ entries, isBlank entry.grantId = false ∧ entry.expiresAtMs ≠ 0)
    (distinct : (entries.map ConsumedGrantSnapshot.grantId).Nodup)
    (new : ∀ entry ∈ entries, entry.grantId ∉ t) : ∃ read, readConsumed entries t = .ok read := by
  induction entries generalizing t with
  | nil => exact ⟨t, rfl⟩
  | cons entry rest ih =>
    rw [List.forall_mem_cons] at valid new
    rw [List.map_cons, List.nodup_cons] at distinct
    rw [readConsumed, if_neg]
    · refine ih valid.2 distinct.2 fun other among => ?_
      rw [Std.ExtTreeMap.mem_insert, Std.LawfulEqCmp.compare_eq_iff_eq, not_or]
      exact ⟨fun same => distinct.1 (same ▸ List.mem_map_of_mem among), new.2 other among⟩
    · rintro (blank | zero | known)
      · rw [valid.1.1] at blank
        cases blank
      · exact valid.1.2 zero
      · exact new.1 known

theorem Legible.reads (legible : ledger.Legible) :
    ∃ restored, fromPersistedSnapshot scheme ledger.snapshot = .ok restored := by
  obtain ⟨verifiers, keys⟩ :=
    readVerifiers_bytes (sortBy verifyingKeyId ledger.verifiers.values) (∅ : Table _)
  have listed : ∀ entry ∈ ledger.snapshot.consumedGrants,
      isBlank entry.grantId = false ∧ entry.expiresAtMs ≠ 0 := by
    intro entry among
    obtain ⟨⟨grantId, expires⟩, there, rfl⟩ := List.mem_map.mp (mem_sortBy.mp among)
    exact legible.consumed _ _ (Std.ExtTreeMap.mem_toList_iff_getElem?_eq_some.mp there)
  have distinct : (ledger.snapshot.consumedGrants.map ConsumedGrantSnapshot.grantId).Nodup := by
    refine (((sortBy_perm _ _).map _).nodup_iff).mpr ?_
    rw [List.map_map]
    exact nodup_keys ledger.consumed
  obtain ⟨consumed, used⟩ := readConsumed_distinct (t := ∅) listed distinct
    fun _ _ => Std.ExtTreeMap.not_mem_empty
  refine ⟨⟨verifiers, consumed, Std.ExtTreeSet.ofList ledger.snapshot.revokedGrantIds⟩, ?_⟩
  have some : ledger.snapshot.verifierKeys.isEmpty = false := by
    rw [List.isEmpty_eq_false_iff]
    intro none
    have sorted := sortBy_perm verifyingKeyId ledger.verifiers.values
    rw [List.map_eq_nil_iff.mp none] at sorted
    exact legible.verifiers sorted.nil_eq.symm
  have version : ledger.snapshot.schemaVersion = grantLedgerSnapshotSchemaVersion := rfl
  rw [fromPersistedSnapshot, if_pos version, fromSnapshot, if_neg (not_not_intro version),
    if_neg (by rw [some]; exact Bool.false_ne_true)]
  exact bind_eq_ok.mpr ⟨verifiers, keys, bind_eq_ok.mpr ⟨consumed, used, rfl⟩⟩

theorem of_readVerifiers {keys : List KeyBytes} {t read : Table (VerifyingKey scheme)}
    (was : readVerifiers scheme keys t = .ok read) (some : keys ≠ [] ∨ t.values ≠ []) :
    read.values ≠ [] := by
  induction keys generalizing t with
  | nil =>
    cases was
    exact some.resolve_left fun none => none rfl
  | cons bytes rest ih =>
    rw [readVerifiers] at was
    split at was
    · cases was
    · exact ih was (.inr (values_insert_ne_nil _ _ _))

theorem valid_of_readConsumed {read : Table Nat} (was : readConsumed entries t = .ok read)
    (valid : ∀ grantId expiresAtMs, t[grantId]? = some expiresAtMs →
      isBlank grantId = false ∧ expiresAtMs ≠ 0) (grantId : String) (expiresAtMs : Nat)
    (found : read[grantId]? = some expiresAtMs) : isBlank grantId = false ∧ expiresAtMs ≠ 0 := by
  induction entries generalizing t with
  | nil =>
    cases was
    exact valid grantId expiresAtMs found
  | cons entry rest ih =>
    obtain ⟨good, was⟩ := guard_eq_ok.mp was
    rw [not_or, not_or, Bool.not_eq_true] at good
    refine ih was fun id expires held => ?_
    rw [get_insert] at held
    split at held
    · next same =>
      cases held
      exact same ▸ ⟨good.1, good.2.1⟩
    · exact valid id expires held

theorem legible_of_read {snapshot : GrantLedgerSnapshot}
    (was : fromPersistedSnapshot scheme snapshot = .ok ledger) : ledger.Legible := by
  have current : ∀ {snapshot : GrantLedgerSnapshot},
      fromSnapshot scheme snapshot = .ok ledger → ledger.Legible := by
    intro snapshot was
    obtain ⟨-, was⟩ := guard_eq_ok.mp was
    obtain ⟨some, was⟩ := guard_eq_ok.mp was
    obtain ⟨verifiers, keys, was⟩ := bind_eq_ok.mp was
    obtain ⟨consumed, used, is⟩ := bind_eq_ok.mp was
    cases is
    rw [List.isEmpty_iff] at some
    refine ⟨of_readVerifiers keys (.inl some), valid_of_readConsumed used fun id expires held => ?_⟩
    cases held
  unfold fromPersistedSnapshot at was
  split at was
  · exact current was
  · split at was
    · exact current was
    · cases was

theorem legible_new (verifier : VerifyingKey scheme) : (new verifier).Legible :=
  ⟨values_insert_ne_nil _ _ _, fun _ _ held => by
    rw [show (new verifier).consumed = ∅ from rfl, Std.ExtTreeMap.getElem?_empty] at held
    cases held⟩

end GrantLedger

/-! ### What a run keeps -/

namespace GrantRun
variable {canonicalGrantBytes : GrantPayload → List UInt8} {run : GrantRun scheme}
  {event : GrantEvent scheme}

/-- What was accepted has expired or is still known as consumed; what was revoked is known. -/
structure Remembers (ledger : GrantLedger scheme) (latestMs : Nat) (history : List GrantEntry) :
    Prop where
  consumed : ∀ a, .authorized a ∈ history → a.payload.expiresAtMs ≤ latestMs ∨
    ledger.consumed[a.payload.grantId]? = some a.payload.expiresAtMs
  revoked : ∀ grantId, .revoked grantId ∈ history → grantId ∈ ledger.revoked

variable {ledger : GrantLedger scheme} {latestMs : Nat} {history : List GrantEntry}
  {a : Authorization}

section
variable (h : Remembers ledger latestMs history)
include h

/-- Dropping what has expired forgets nothing that could still be used. -/
theorem Remembers.pruned {nowMs : Nat} (later : latestMs ≤ nowMs) :
    Remembers (ledger.pruned nowMs) nowMs history := by
  refine ⟨fun a mem => ?_, h.revoked⟩
  rcases h.consumed a mem with expired | known
  · exact .inl (expired.trans later)
  · by_cases expired : a.payload.expiresAtMs ≤ nowMs
    · exact .inl expired
    · right
      rw [GrantLedger.get_pruned, known, Option.filter_some,
        if_pos (decide_eq_true (Nat.not_le.mp expired))]

/-- The clock may go on. -/
theorem Remembers.later {nowMs : Nat} (later : latestMs ≤ nowMs) : Remembers ledger nowMs history :=
  ⟨fun a mem => (h.consumed a mem).imp_left fun expired => expired.trans later, h.revoked⟩

/-- What is not known as consumed or revoked was not accepted and not revoked, or is over. -/
theorem Remembers.follows (unexpired : latestMs < a.payload.expiresAtMs)
    (unrevoked : a.payload.grantId ∉ ledger.revoked) (unused : a.payload.grantId ∉ ledger.consumed) :
    ∀ entry ∈ history, GrantEntry.Follows (.authorized a) entry := by
  intro entry mem
  cases entry with
  | authorized earlier =>
    intro same
    rcases h.consumed earlier mem with expired | known
    · rw [← same] at expired
      exact absurd unexpired (Nat.not_lt.mpr expired)
    · rw [← same] at known
      exact unused (mem_iff_get.mpr ⟨_, known⟩)
  | revoked grantId =>
    intro same
    exact unrevoked (same ▸ h.revoked grantId mem)

theorem Remembers.consume (unused : a.payload.grantId ∉ ledger.consumed) :
    Remembers (ledger.consume a.payload) latestMs (.authorized a :: history) := by
  refine ⟨fun b mem => ?_, fun grantId mem => ?_⟩
  · rcases List.mem_cons.mp mem with same | mem
    · cases same
      exact .inr (get_insert_self _ _ _)
    · refine (h.consumed b mem).imp_right fun known => ?_
      have other : a.payload.grantId ≠ b.payload.grantId := by
        intro same
        exact unused (same ▸ mem_iff_get.mpr ⟨_, known⟩)
      exact (get_insert_of_ne other).trans known
  · rcases List.mem_cons.mp mem with same | mem
    · cases same
    · exact h.revoked grantId mem

end

/-- A run whose ledger remembers enough, and whose history is as it should be. -/
structure Sound (run : GrantRun scheme) : Prop where
  remembers : Remembers run.ledger run.latestMs run.history
  follows : run.history.Pairwise GrantEntry.Follows
  granted : ∀ a, .authorized a ∈ run.history → a.Granted

theorem sound_start (ledger : GrantLedger scheme) : (start ledger).Sound :=
  ⟨⟨fun _ mem => (by cases mem), fun _ mem => (by cases mem)⟩, List.Pairwise.nil,
    fun _ mem => (by cases mem)⟩

theorem Sound.authorize (h : run.Sound) (inTime : run.InTime event) (asks : event.asks = some a) :
    (run.next canonicalGrantBytes event).Sound := by
  have now : event.nowMs = some a.atMs := by
    cases event <;> cases asks <;> rfl
  have entries : ∀ ok, event.entries ok = if ok then [.authorized a] else [] := by
    intro ok
    cases event <;> cases asks <;> rfl
  have later := inTime _ now
  rcases GrantLedger.step_of_asks canonicalGrantBytes run.ledger asks with
    ⟨e, refused⟩ | ⟨e, refused⟩ | ⟨done, granted, unrevoked, unused⟩
  · simp only [GrantRun.next, refused, now, entries]
    exact ⟨h.remembers.later later, h.follows, h.granted⟩
  · simp only [GrantRun.next, refused, now, entries]
    exact ⟨h.remembers.pruned later, h.follows, h.granted⟩
  · simp only [GrantRun.next, done, now, entries]
    have remembers := h.remembers.pruned later
    refine ⟨remembers.consume unused, List.pairwise_cons.mpr
      ⟨remembers.follows granted.unexpired unrevoked unused, h.follows⟩, fun b mem => ?_⟩
    rcases List.mem_cons.mp mem with same | mem
    · cases same
      exact granted
    · exact h.granted b mem

theorem Sound.next (h : run.Sound) (inTime : run.InTime event) :
    (run.next canonicalGrantBytes event).Sound := by
  cases event with
  | authorizeOnce token deviceId required nowMs => exact h.authorize inTime rfl
  | authorizeDeviceCapabilityOnce token deviceId required nowMs => exact h.authorize inTime rfl
  | revoke grantId =>
    refine ⟨⟨fun a mem => ?_, fun id mem => ?_⟩, ?_, fun a mem => ?_⟩
    · exact h.remembers.consumed a (List.mem_of_ne_of_mem (by simp) mem)
    · show id ∈ run.ledger.revoked.insert grantId
      rw [Std.ExtTreeSet.mem_insert, Std.LawfulEqCmp.compare_eq_iff_eq]
      rcases List.mem_cons.mp mem with same | mem
      · cases same
        exact .inl rfl
      · exact .inr (h.remembers.revoked id mem)
    · exact List.pairwise_cons.mpr ⟨fun _ _ => trivial, h.follows⟩
    · exact h.granted a (List.mem_of_ne_of_mem (by simp) mem)
  | trustVerifier verifier =>
    exact ⟨⟨h.remembers.consumed, h.remembers.revoked⟩, h.follows, h.granted⟩
  | retireVerifier keyId =>
    exact ⟨⟨h.remembers.consumed, h.remembers.revoked⟩, h.follows, h.granted⟩
  | restart =>
    obtain ⟨consumed, revoked⟩ := run.ledger.restart_keeps
    refine ⟨⟨fun a mem => ?_, fun id mem => ?_⟩, h.follows, h.granted⟩
    · show _ ∨ run.ledger.restart.consumed[a.payload.grantId]? = _
      rw [consumed]
      exact h.remembers.consumed a mem
    · show id ∈ run.ledger.restart.revoked
      rw [revoked]
      exact h.remembers.revoked id mem

/-- As long as the clock does not go back, every payload is accepted once at most, never after
its grant was revoked, and only as it grants. -/
theorem grants_one_shot (canonicalGrantBytes : GrantPayload → List UInt8)
    (ledger : GrantLedger scheme) {events : List (GrantEvent scheme)}
    (inTime : Machine.Meets (GrantRun.next canonicalGrantBytes) InTime (start ledger) events) :
    (Machine.run (GrantRun.next canonicalGrantBytes) (start ledger) events).history.Pairwise
      GrantEntry.Follows ∧
    ∀ a, .authorized a ∈
      (Machine.run (GrantRun.next canonicalGrantBytes) (start ledger) events).history →
        a.Granted := by
  have step : ∀ (run : GrantRun scheme) (event : GrantEvent scheme), run.Sound → run.InTime event →
      (run.next canonicalGrantBytes event).Sound :=
    fun _ _ h inTime => h.next inTime
  have sound := Machine.run_invariant step (sound_start ledger) inTime
  exact ⟨sound.follows, sound.granted⟩

def zeroKey : VerifyingKey anyKey :=
  ⟨Vector.replicate 32 (.ofNat 0), rfl⟩

/-- A ledger that trusts one key. -/
def oneKey : GrantLedger anyKey :=
  .new zeroKey

/-- A grant of that key for one minute. -/
def oneMinute (grantId : String) : GrantToken where
  payload := {
    schemaVersion := controlSchemaVersion
    issuerKeyId := verifyingKeyId zeroKey
    grantId := grantId
    deviceId := "desk"
    capability := .observe
    deviceCapability := none
    issuedAtMs := 100
    expiresAtMs := 60100 }
  signature := List.replicate 64 0

/-- One grant is used, presented again before and after a restart and when it has expired;
another is revoked first. -/
def usedAgain : List (GrantEvent anyKey) :=
  [.authorizeOnce (oneMinute "a") "desk" .observe 200,
   .authorizeOnce (oneMinute "a") "desk" .observe 300, .restart,
   .authorizeOnce (oneMinute "a") "desk" .observe 400, .revoke "b",
   .authorizeOnce (oneMinute "b") "desk" .observe 500,
   .authorizeOnce (oneMinute "a") "desk" .observe 60100]

/-- It is used once. -/
theorem grants_one_shot_usedAgain :
    (Machine.run (GrantRun.next fun _ => []) (start oneKey) usedAgain).history =
      [.revoked "b", .authorized ⟨(oneMinute "a").payload, "desk", .observe, none, 200⟩] ∧
    (Machine.run (GrantRun.next fun _ => []) (start oneKey) usedAgain).history.Pairwise
      GrantEntry.Follows ∧
    ∀ a, .authorized a ∈
      (Machine.run (GrantRun.next fun _ => []) (start oneKey) usedAgain).history → a.Granted :=
  ⟨by decide +kernel, grants_one_shot (fun _ => []) oneKey (by decide +kernel)⟩

end GrantRun

end Gateway.Control
