import Gateway.Data.Program
import Mathlib.Algebra.Group.Nat.Defs

/-! The mutation authority.

Processes that share one backend share a directory with a lock file and a file that names the
owner. Every function is a task of calls to the file system. -/
namespace Gateway.Agent
open Data

inductive MutationAuthorityRole where
  | v1
  | v2
  deriving DecidableEq

structure MutationAuthorityStatus where
  schemaVersion : Nat
  owner : MutationAuthorityRole
  epoch : Nat
  deriving DecidableEq

inductive MutationAuthorityError where
  | notInitialized | alreadyInitialized | busy
  | wrongOwner (expected actual : MutationAuthorityRole)
  | unsafePath | unsafePermissions | invalidState | invalidRole | invalidTransition
  | transitionGuardFailed | io
  deriving DecidableEq

def authoritySchemaVersion : Nat := 1

/-! ### The directory -/

/-- What the owner file holds: a status, or bytes that are none. -/
inductive OwnerFile where
  | status (status : MutationAuthorityStatus)
  | unreadable

inductive AuthorityCall where
  | directory
  | ownerExists
  | openLock (create : Bool)
  | reserveProcess | tryLockExclusive | readOwner
  | permit (status : MutationAuthorityStatus)
  | guard
  | validateOwner
  | writeTemp (status : MutationAuthorityStatus)
  | rename (status : MutationAuthorityStatus)
  | syncDirectory
  | unlock

abbrev AuthorityCall.Reply : AuthorityCall → Type
  | .ownerExists | .guard => Bool
  | .readOwner => Except MutationAuthorityError OwnerFile
  | .permit _ | .unlock => Unit
  | _ => Except MutationAuthorityError Unit

/-- A call does what it is for, or fails. -/
inductive AuthorityFate where
  | goes
  | fails (error : MutationAuthorityError)
  deriving DecidableEq

/-- The directory. Beside it are the process that has the lock, the permit that is live, and
every status the owner file has held, newest first, with the process that wrote it. -/
structure AuthorityDirectory where
  lockFile : Bool
  owner : Option OwnerFile
  holder : Option Nat
  live : Option (Nat × MutationAuthorityStatus)
  history : List (Option Nat × MutationAuthorityStatus)

namespace AuthorityDirectory

/-- The status on disk. -/
def durable (d : AuthorityDirectory) : Option MutationAuthorityStatus :=
  match d.owner with
  | some (.status status) => some status
  | _ => none

/-- A directory as nobody is using it. -/
def start (lockFile : Bool) (owner : Option OwnerFile) : AuthorityDirectory :=
  let d : AuthorityDirectory := ⟨lockFile, owner, none, none, []⟩
  {d with history := d.durable.toList.map (none, ·)}

def fallible (d : AuthorityDirectory) :
    AuthorityFate → Except MutationAuthorityError Unit × AuthorityDirectory
  | .goes => (.ok (), d)
  | .fails e => (.error e, d)

def perform (d : AuthorityDirectory) (me : Nat) :
    (c : AuthorityCall) → AuthorityFate → c.Reply × AuthorityDirectory
  | .directory, fate => d.fallible fate
  -- A probe that fails answers like one that finds nothing.
  | .ownerExists, .goes => (d.owner.isSome, d)
  | .ownerExists, .fails _ => (false, d)
  | .openLock create, .goes =>
    if d.lockFile then (.ok (), d)
    else if create then (.ok (), {d with lockFile := true})
    else (.error .notInitialized, d)
  | .openLock _, .fails e => (.error e, d)
  | .reserveProcess, fate => d.fallible fate
  | .tryLockExclusive, .goes =>
    match d.holder with
    | none => (.ok (), {d with holder := some me})
    | some _ => (.error .busy, d)
  | .tryLockExclusive, .fails e => (.error e, d)
  | .readOwner, .goes =>
    match d.owner with
    | none => (.error .notInitialized, d)
    | some file => (.ok file, d)
  | .readOwner, .fails e => (.error e, d)
  | .permit status, _ => ((), {d with live := some (me, status)})
  | .guard, fate => (decide (fate = .goes), d)
  | .validateOwner, fate => d.fallible fate
  | .writeTemp _, fate => d.fallible fate
  | .rename status, .goes =>
    (.ok (), {d with owner := some (.status status), history := (some me, status) :: d.history})
  | .rename _, .fails e => (.error e, d)
  | .syncDirectory, fate => d.fallible fate
  -- A permit ends with its lock.
  | .unlock, _ =>
    ((), if d.holder = some me then {d with holder := none, live := none} else d)

end AuthorityDirectory

def authorityHost : Host AuthorityCall AuthorityCall.Reply AuthorityDirectory AuthorityFate where
  perform := AuthorityDirectory.perform
  ready _ _ _ := true

/-! ### The functions -/

abbrev AuthorityTask (α : Type) : Type :=
  ExceptT MutationAuthorityError (Program AuthorityCall AuthorityCall.Reply) α

namespace AuthorityTask

/-- A call, with its answer as it is. -/
def reply (c : AuthorityCall) : AuthorityTask c.Reply :=
  ExceptT.mk do
    let answer ← Program.ask c
    return .ok answer

/-- An answer whose failure ends the task. -/
def ofResult {α : Type} (result : Except MutationAuthorityError α) : AuthorityTask α :=
  ExceptT.mk (pure result)

/-- The end of a locked section: the lock goes first. -/
def unlockWith {α : Type} (result : Except MutationAuthorityError α) : AuthorityTask α := do
  reply .unlock
  ofResult result

end AuthorityTask

open AuthorityTask

/-- What the bytes of the owner file say. -/
def OwnerFile.validated : OwnerFile → Except MutationAuthorityError MutationAuthorityStatus
  | .unreadable => .error .invalidState
  | .status found =>
    if found.schemaVersion ≠ authoritySchemaVersion ∨ found.epoch = 0 then .error .invalidState
    else .ok found

def readStatusLocked : AuthorityTask (Except MutationAuthorityError MutationAuthorityStatus) := do
  return (← reply .readOwner) >>= OwnerFile.validated

/-- The temporary file has a name of its own, so writing it is one call. -/
def writeStatusAtomic (status : MutationAuthorityStatus) : AuthorityTask Unit := do
  if ← reply .ownerExists then ofResult (← reply .validateOwner)
  ofResult (← reply (.writeTemp status))
  ofResult (← reply (.rename status))
  ofResult (← reply .syncDirectory)

/-- The directory, the lock file, the process's own reservation and the lock. -/
def enterExisting : AuthorityTask Unit := do
  ofResult (← reply .directory)
  ofResult (← reply (.openLock false))
  ofResult (← reply .reserveProcess)
  ofResult (← reply .tryLockExclusive)

def tryAcquire (role : MutationAuthorityRole) : AuthorityTask MutationAuthorityStatus := do
  enterExisting
  match ← readStatusLocked with
  | .error e => unlockWith (.error e)
  | .ok status =>
    if status.owner ≠ role then unlockWith (.error (.wrongOwner role status.owner))
    else do
      reply (.permit status)
      return status

def initializeMutationAuthority (owner : MutationAuthorityRole) :
    AuthorityTask MutationAuthorityStatus := do
  ofResult (← reply .directory)
  if ← reply .ownerExists then throw .alreadyInitialized
  else do
    ofResult (← reply (.openLock true))
    ofResult (← reply .tryLockExclusive)
    if ← reply .ownerExists then unlockWith (.error .alreadyInitialized)
    else do
      let status := ⟨authoritySchemaVersion, owner, 1⟩
      let result ← ExceptT.mk (do return .ok (← (writeStatusAtomic status).run))
      unlockWith (result.map fun _ => status)

/-- An epoch that cannot be raised ends the task; the lock goes with the file that has it. -/
def switchMutationAuthorityGuarded (expectedOwner newOwner : MutationAuthorityRole) :
    AuthorityTask MutationAuthorityStatus := do
  if expectedOwner = newOwner then throw .invalidTransition
  else do
    enterExisting
    match ← readStatusLocked with
    | .error e => unlockWith (.error e)
    | .ok current =>
      if current.owner ≠ expectedOwner then
        unlockWith (.error (.wrongOwner expectedOwner current.owner))
      else do
        if ← reply .guard then
          if current.epoch + 1 < 2 ^ 64 then do
            let next := ⟨authoritySchemaVersion, newOwner, current.epoch + 1⟩
            let result ← ExceptT.mk (do return .ok (← (writeStatusAtomic next).run))
            unlockWith (result.map fun _ => next)
          else unlockWith (.error .invalidState)
        else unlockWith (.error .transitionGuardFailed)

/-! ### Processes -/

/-- What a process is at: a permit taken and then dropped, or one of the two changes. -/
inductive AuthorityJob where
  | hold (role : MutationAuthorityRole)
  | init (owner : MutationAuthorityRole)
  | switch (expectedOwner newOwner : MutationAuthorityRole)

/-- A change of the owner, as opposed to a permit. -/
def AuthorityJob.changes : AuthorityJob → Bool
  | .hold _ => false
  | _ => true

def AuthorityJob.task : AuthorityJob → AuthorityTask MutationAuthorityStatus
  | .hold role => do
    let status ← tryAcquire role
    reply .unlock
    return status
  | .init owner => initializeMutationAuthority owner
  | .switch expectedOwner newOwner => switchMutationAuthorityGuarded expectedOwner newOwner

abbrev AuthorityPool : Type :=
  Pool AuthorityCall AuthorityCall.Reply AuthorityDirectory AuthorityJob
    (Except MutationAuthorityError MutationAuthorityStatus)

abbrev AuthorityEvent : Type :=
  Pool.Event AuthorityJob AuthorityFate

def AuthorityPool.next : AuthorityPool → AuthorityEvent → AuthorityPool :=
  Pool.next authorityHost fun job => job.task.run

end Gateway.Agent
