import Gateway.Agent.Authority
import Gateway.Data.Discipline

/-! One owner at a time.

A process follows the lock: what it has read stays true until it lets go. Two failures break
this, a probe that misses the owner file and a directory that cannot be synced after the new
file is in place; where neither happens the processes are those of a host without them. -/
namespace Gateway.Agent
open Data Program AuthorityTask AuthorityCall AuthorityDirectory Machine Pool

/-! ### Stages -/

inductive AuthorityStage where
  | outside | locked | absent
  | seen (status : MutationAuthorityStatus)
  | wrote (status : MutationAuthorityStatus)
  | permitted (status : MutationAuthorityStatus)
  | ended (written : Option MutationAuthorityStatus)
  | unreachable
  deriving DecidableEq

namespace AuthorityStage

/-- A process in this stage has the lock. -/
def inside : AuthorityStage → Bool
  | .outside | .ended _ => false
  | _ => true

/-- A process in this stage has written nothing. -/
def silent : AuthorityStage → Bool
  | .wrote _ | .ended (some _) | .unreachable => false
  | _ => true

/-- A process in this stage has not let the lock go yet. -/
def running : AuthorityStage → Bool
  | .ended _ => false
  | _ => true

/-- What a process has found in the owner file. -/
def Sees (d : AuthorityDirectory) : AuthorityStage → Prop
  | .absent => d.owner = none
  | .seen status => d.owner = some (.status status)
  | _ => True

/-- Only a permit is held with a permit. -/
def Unshared (d : AuthorityDirectory) : AuthorityStage → Prop
  | .permitted _ => True
  | _ => d.live = none

structure Holds (me : Nat) (stage : AuthorityStage) (d : AuthorityDirectory) : Prop where
  reached : stage ≠ .unreachable
  lock : d.holder = some me ↔ stage.inside = true
  quiet : stage.silent = true → ∀ status, (some me, status) ∉ d.history
  sees : stage.inside = true → stage.Sees d
  unshared : stage.inside = true → stage.Unshared d

/-- The statuses that may be written from a stage. -/
def Precedes (next : MutationAuthorityStatus) : AuthorityStage → Prop
  | .absent => True
  | .seen current => current.epoch < next.epoch
  | _ => False

def after (stage : AuthorityStage) : (c : AuthorityCall) → c.Reply → AuthorityStage
  | .ownerExists, false => if stage = .locked then .absent else stage
  | .tryLockExclusive, .ok _ => .locked
  | .readOwner, .ok (.status status) => if stage = .locked then .seen status else stage
  | .permit status, _ => .permitted status
  | .rename status, .ok _ => .wrote status
  | .syncDirectory, .error _ => .unreachable
  | .unlock, _ =>
    match stage with
    | .wrote status => .ended (some status)
    | .unreachable => .unreachable
    | _ => .ended none
  | _, _ => stage

def Permits (stage : AuthorityStage) : AuthorityCall → Prop
  | .tryLockExclusive => stage = .outside
  | .permit status => stage = .seen status
  | .rename status => stage.Precedes status
  | .unlock => stage.inside = true
  | _ => stage.running = true

/-- A change that ends with a status has just written it. -/
theorem wrote_of_after {stage : AuthorityStage} {c : AuthorityCall} {reply : c.Reply}
    {status : MutationAuthorityStatus} (permitted : stage.Permits c)
    (ends : stage.after c reply = .ended (some status)) : stage = .wrote status := by
  have stays (runs : stage.running = true) : stage ≠ .ended (some status) := by
    rintro rfl
    cases runs
  cases c with
  | unlock => cases stage <;> cases ends; rfl
  | permit _ => cases ends
  | ownerExists =>
    cases reply with
    | true => exact absurd ends (stays permitted)
    | false =>
      replace ends : (if stage = .locked then AuthorityStage.absent else stage) = _ := ends
      split at ends
      · cases ends
      · exact absurd ends (stays permitted)
  | readOwner =>
    match reply with
    | .error _ | .ok .unreadable => exact absurd ends (stays permitted)
    | .ok (.status found) =>
      replace ends : (if stage = .locked then AuthorityStage.seen found else stage) = _ := ends
      split at ends
      · cases ends
      · exact absurd ends (stays permitted)
  | tryLockExclusive =>
    cases reply with
    | ok _ => cases ends
    | error _ =>
      have was : stage = .outside := permitted
      subst was
      cases ends
  | rename _ =>
    cases reply with
    | ok _ => cases ends
    | error _ =>
      have was : stage = .ended (some status) := ends
      subst was
      exact permitted.elim
  | syncDirectory =>
    cases reply with
    | ok _ => exact absurd ends (stays permitted)
    | error _ => cases ends
  | _ => exact absurd ends (stays permitted)

end AuthorityStage

/-- The file is the last status written, epochs grow, and a live permit has the lock and is what
the file says. -/
structure AuthorityDirectory.Inv (d : AuthorityDirectory) : Prop where
  durable : d.durable = d.history.head?.map Prod.snd
  growing : d.history.Pairwise fun newer older => older.2.epoch < newer.2.epoch
  live : ∀ i status, d.live = some (i, status) → d.holder = some i ∧ d.durable = some status

/-! ### The host without the two failures -/

def AuthorityCall.mended : AuthorityCall → AuthorityFate → AuthorityFate
  | .ownerExists, _ | .syncDirectory, _ => .goes
  | _, fate => fate

def mendedHost : Host AuthorityCall AuthorityCall.Reply AuthorityDirectory AuthorityFate where
  perform d me c fate := d.perform me c (c.mended fate)
  ready _ _ _ := true

section Steps
variable {d : AuthorityDirectory} {me other : Nat} {stage stage' : AuthorityStage}
  {status : MutationAuthorityStatus}

namespace AuthorityDirectory

theorem mem_history_of_durable (inv : d.Inv) (found : d.durable = some status) :
    ∃ writer rest, d.history = (writer, status) :: rest := by
  rw [inv.durable] at found
  cases past : d.history with
  | nil =>
    rw [past] at found
    cases found
  | cons entry rest =>
    obtain ⟨writer, last⟩ := entry
    rw [past] at found
    cases found
    exact ⟨writer, rest, rfl⟩

theorem history_of_absent (inv : d.Inv) (absent : d.owner = none) : d.history = [] := by
  have nothing : d.durable = none := by rw [durable, absent]
  rw [inv.durable] at nothing
  exact List.head?_eq_none_iff.mp (Option.map_eq_none_iff.mp nothing)

/-- Every status written before the next one has a smaller epoch. -/
theorem epoch_lt_of_precedes (inv : d.Inv) (holds : stage.Holds me d)
    (precedes : stage.Precedes status) :
    ∀ entry ∈ d.history, entry.2.epoch < status.epoch := by
  cases stage with
  | absent =>
    rw [history_of_absent inv (holds.sees rfl)]
    exact fun _ listed => (by cases listed)
  | seen current =>
    have found : d.durable = some current := by
      rw [durable, show d.owner = some (.status current) from holds.sees rfl]
    obtain ⟨writer, rest, past⟩ := mem_history_of_durable inv found
    have growing := inv.growing
    rw [past] at growing ⊢
    intro entry listed
    rcases List.mem_cons.mp listed with rfl | older
    · exact precedes
    · exact Nat.lt_trans ((List.pairwise_cons.mp growing).1 entry older) precedes
  | _ => exact precedes.elim

theorem inside_of_precedes (precedes : stage.Precedes status) : stage.inside = true := by
  cases stage with
  | absent | seen _ => rfl
  | _ => exact precedes.elim

theorem unshared_of_precedes (holds : stage.Holds me d) (precedes : stage.Precedes status) :
    d.live = none := by
  cases stage with
  | absent | seen _ => exact holds.unshared rfl
  | _ => exact precedes.elim

theorem live_of_free (inv : d.Inv) (free : d.holder = none) : d.live = none := by
  cases held : d.live with
  | none => rfl
  | some entry => cases free.symm.trans (inv.live _ _ held).1

/-! What each call that changes something does to the directory, to its caller and to the rest. -/

theorem lock_own (inv : d.Inv) (holds : AuthorityStage.outside.Holds me d)
    (free : d.holder = none) :
    Inv {d with holder := some me} ∧ AuthorityStage.locked.Holds me {d with holder := some me} := by
  have idle : d.live = none := live_of_free inv free
  refine ⟨⟨inv.durable, inv.growing, fun i status held => ?_⟩,
    ⟨nofun, by simp [AuthorityStage.inside], fun _ => holds.quiet rfl, fun _ => trivial,
      fun _ => idle⟩⟩
  cases idle.symm.trans held

theorem lock_others (free : d.holder = none) (distinct : other ≠ me)
    (known : stage'.Holds other d) : stage'.Holds other {d with holder := some me} := by
  have outside : ¬stage'.inside = true := fun within => (by
    cases free.symm.trans (known.lock.mpr within))
  refine ⟨known.reached, ⟨fun mine => ?_, fun within => absurd within outside⟩, known.quiet,
    fun within => absurd within outside, fun within => absurd within outside⟩
  exact absurd (Option.some.inj mine).symm distinct

theorem permit_own (inv : d.Inv) (holds : (AuthorityStage.seen status).Holds me d) :
    Inv {d with live := some (me, status)} ∧
      (AuthorityStage.permitted status).Holds me {d with live := some (me, status)} := by
  have found : d.durable = some status := by
    rw [durable, show d.owner = some (.status status) from holds.sees rfl]
  refine ⟨⟨inv.durable, inv.growing, fun i granted held => ?_⟩,
    ⟨nofun, holds.lock, fun _ => holds.quiet rfl, fun _ => trivial, fun _ => trivial⟩⟩
  cases held
  exact ⟨holds.lock.mpr rfl, found⟩

/-- While a process has the lock the others are outside. -/
theorem outside_of_held (held : d.holder = some me) (distinct : other ≠ me)
    (known : stage'.Holds other d) : ¬stage'.inside = true := by
  intro within
  exact distinct (Option.some.inj ((known.lock.mpr within).symm.trans held))

theorem permit_others (held : d.holder = some me) (distinct : other ≠ me)
    (known : stage'.Holds other d) : stage'.Holds other {d with live := some (me, status)} := by
  have outside := outside_of_held held distinct known
  exact ⟨known.reached, known.lock, known.quiet, fun within => absurd within outside,
    fun within => absurd within outside⟩

theorem rename_own (inv : d.Inv) (holds : stage.Holds me d) (precedes : stage.Precedes status) :
    Inv {d with owner := some (.status status), history := (some me, status) :: d.history} ∧
      (AuthorityStage.wrote status).Holds me
        {d with owner := some (.status status), history := (some me, status) :: d.history} := by
  have idle : d.live = none := unshared_of_precedes holds precedes
  have held : d.holder = some me := holds.lock.mpr (inside_of_precedes precedes)
  refine ⟨⟨rfl, List.pairwise_cons.mpr ⟨epoch_lt_of_precedes inv holds precedes, inv.growing⟩,
    fun i granted live => ?_⟩,
    ⟨nofun, ⟨fun _ => rfl, fun _ => held⟩, nofun, fun _ => trivial, fun _ => idle⟩⟩
  cases idle.symm.trans live

theorem rename_others (held : d.holder = some me) (distinct : other ≠ me)
    (known : stage'.Holds other d) : stage'.Holds other
      {d with owner := some (.status status), history := (some me, status) :: d.history} := by
  have outside := outside_of_held held distinct known
  refine ⟨known.reached, known.lock, fun quiet written listed => ?_,
    fun within => absurd within outside, fun within => absurd within outside⟩
  rcases List.mem_cons.mp listed with same | older
  · cases same
    exact distinct rfl
  · exact known.quiet quiet written older

theorem unlock_own (inv : d.Inv) (holds : stage.Holds me d) (within : stage.inside = true) :
    Inv {d with holder := none, live := none} ∧
      (stage.after .unlock ()).Holds me {d with holder := none, live := none} := by
  refine ⟨⟨inv.durable, inv.growing, nofun⟩, ?_⟩
  have quiet := holds.quiet
  cases stage with
  | outside | ended _ => cases within
  | unreachable => exact absurd rfl holds.reached
  | wrote _ => exact ⟨nofun, ⟨nofun, nofun⟩, nofun, nofun, nofun⟩
  | _ => exact ⟨nofun, ⟨nofun, nofun⟩, fun _ => quiet rfl, nofun, nofun⟩

theorem unlock_others (held : d.holder = some me) (distinct : other ≠ me)
    (known : stage'.Holds other d) : stage'.Holds other {d with holder := none, live := none} := by
  have outside := outside_of_held held distinct known
  exact ⟨known.reached, ⟨nofun, fun within => absurd within outside⟩, known.quiet,
    fun within => absurd within outside, fun within => absurd within outside⟩

end AuthorityDirectory

/-- What a process learns from the owner file is so. -/
theorem AuthorityStage.Holds.learn {stage'' : AuthorityStage} (holds : stage.Holds me d)
    (was : stage = .locked) (within : stage''.inside = true) (quiet : stage''.silent = true)
    (sees : stage''.Sees d) (reached : stage'' ≠ .unreachable) : stage''.Holds me d := by
  subst was
  refine ⟨reached, ⟨fun _ => within, fun _ => holds.lock.mpr rfl⟩, fun _ => holds.quiet rfl,
    fun _ => sees, fun _ => ?_⟩
  have idle : d.live = none := holds.unshared rfl
  cases stage'' <;> first | exact idle | trivial

open AuthorityDirectory in
theorem perform_own (c : AuthorityCall) (fate : AuthorityFate) (inv : d.Inv)
    (holds : stage.Holds me d) (permitted : stage.Permits c) :
    (mendedHost.perform d me c fate).2.Inv ∧
      (stage.after c (mendedHost.perform d me c fate).1).Holds me
        (mendedHost.perform d me c fate).2 := by
  cases c with
  | directory | reserveProcess | validateOwner | writeTemp _ =>
    cases fate <;> exact ⟨inv, holds⟩
  | guard => exact ⟨inv, holds⟩
  | syncDirectory => exact ⟨inv, holds⟩
  | ownerExists =>
    refine ⟨inv, ?_⟩
    show (stage.after .ownerExists d.owner.isSome).Holds me d
    cases file : d.owner with
    | some _ => exact holds
    | none =>
      show (if stage = .locked then AuthorityStage.absent else stage).Holds me d
      split
      · next was => exact holds.learn was rfl rfl file nofun
      · exact holds
  | openLock create =>
    cases fate with
    | fails e => exact ⟨inv, holds⟩
    | goes =>
      simp only [mendedHost, mended, perform]
      split
      · exact ⟨inv, holds⟩
      · split
        · exact ⟨⟨inv.durable, inv.growing, inv.live⟩, {holds with}⟩
        · exact ⟨inv, holds⟩
  | tryLockExclusive =>
    cases fate with
    | fails e => exact ⟨inv, holds⟩
    | goes =>
      simp only [mendedHost, mended, perform]
      cases held : d.holder with
      | some _ => exact ⟨inv, holds⟩
      | none =>
        have was : stage = .outside := permitted
        subst was
        exact lock_own inv holds held
  | readOwner =>
    cases fate with
    | fails e => exact ⟨inv, holds⟩
    | goes =>
      simp only [mendedHost, mended, perform]
      cases file : d.owner with
      | none => exact ⟨inv, holds⟩
      | some contents =>
        refine ⟨inv, ?_⟩
        cases contents with
        | unreadable => exact holds
        | status found =>
          show (if stage = .locked then AuthorityStage.seen found else stage).Holds me d
          split
          · next was => exact holds.learn was rfl rfl file nofun
          · exact holds
  | permit status =>
    have was : stage = .seen status := permitted
    subst was
    exact permit_own inv holds
  | rename status =>
    cases fate with
    | fails e => exact ⟨inv, holds⟩
    | goes => exact rename_own inv holds permitted
  | unlock =>
    have held : d.holder = some me := holds.lock.mpr permitted
    simp only [mendedHost, perform, if_pos held]
    exact unlock_own inv holds permitted

open AuthorityDirectory in
theorem perform_others (c : AuthorityCall) (fate : AuthorityFate) (holds : stage.Holds me d)
    (permitted : stage.Permits c) (distinct : other ≠ me) (known : stage'.Holds other d) :
    stage'.Holds other (mendedHost.perform d me c fate).2 := by
  cases c with
  | directory | reserveProcess | validateOwner | writeTemp _ => cases fate <;> exact known
  | guard | syncDirectory | ownerExists => exact known
  | openLock create =>
    cases fate with
    | fails e => exact known
    | goes =>
      simp only [mendedHost, mended, perform]
      split
      · exact known
      · split
        · exact {known with}
        · exact known
  | tryLockExclusive =>
    cases fate with
    | fails e => exact known
    | goes =>
      simp only [mendedHost, mended, perform]
      cases held : d.holder with
      | some _ => exact known
      | none => exact lock_others held distinct known
  | readOwner =>
    cases fate with
    | fails e => exact known
    | goes =>
      simp only [mendedHost, mended, perform]
      cases d.owner <;> exact known
  | permit status =>
    have was : stage = .seen status := permitted
    subst was
    exact permit_others (holds.lock.mpr rfl) distinct known
  | rename status =>
    cases fate with
    | fails e => exact known
    | goes => exact rename_others (holds.lock.mpr (inside_of_precedes permitted)) distinct known
  | unlock =>
    have held : d.holder = some me := holds.lock.mpr permitted
    simp only [mendedHost, perform, if_pos held]
    exact unlock_others held distinct known

end Steps

def lockDiscipline : Discipline mendedHost AuthorityJob AuthorityStage where
  Inv := AuthorityDirectory.Inv
  Knows me _ stage := stage.Holds me
  Permits _ stage c := stage.Permits c
  after := AuthorityStage.after
  own fate inv knows permitted _ := perform_own _ fate inv knows permitted
  others fate _ knows permitted _ distinct known :=
    perform_others _ fate knows permitted distinct known

/-! ### Every function follows the lock -/

section Obeys
variable {job : AuthorityJob} {stage : AuthorityStage} {status : MutationAuthorityStatus}

theorem unlockWith_obeys {α : Type} {result : Except MutationAuthorityError α}
    {accepts : AuthorityStage → Except MutationAuthorityError α → Prop}
    (within : stage.inside = true) (accepted : accepts (stage.after .unlock ()) result) :
    (unlockWith result).run.Obeys lockDiscipline job accepts stage :=
  obeys_reply within fun _ => accepted

/-- A process that is let in has the lock; one that is not stays outside. -/
def Enters (stage : AuthorityStage) : Except MutationAuthorityError Unit → Prop
  | .ok _ => stage = .locked
  | .error _ => stage = .outside

theorem enterExisting_obeys : enterExisting.run.Obeys lockDiscipline job Enters .outside := by
  refine obeys_reply rfl fun directory => ?_
  refine obeys_result (fun _ _ => ?_) fun _ _ => rfl
  refine obeys_reply rfl fun opened => ?_
  refine obeys_result (fun _ _ => ?_) fun _ _ => rfl
  refine obeys_reply rfl fun reserved => ?_
  refine obeys_result (fun _ _ => ?_) fun _ _ => rfl
  refine obeys_reply rfl fun locked => ?_
  cases locked with
  | ok _ => rfl
  | error _ => rfl

/-- A process that reads the status has seen it. -/
def Reads (stage : AuthorityStage) :
    Except MutationAuthorityError (Except MutationAuthorityError MutationAuthorityStatus) → Prop
  | .ok (.ok status) => stage = .seen status
  | .ok (.error _) => stage.inside = true ∧ stage.after .unlock () = .ended none
  | .error _ => False

theorem readStatusLocked_obeys : readStatusLocked.run.Obeys lockDiscipline job Reads .locked := by
  refine obeys_reply rfl fun read => ?_
  cases read with
  | error _ => exact ⟨rfl, rfl⟩
  | ok contents =>
    cases contents with
    | unreadable => exact ⟨rfl, rfl⟩
    | status found =>
      show Reads (.seen found) (.ok (OwnerFile.validated (.status found)))
      simp only [OwnerFile.validated]
      split
      · exact ⟨rfl, rfl⟩
      · rfl

/-- A status is in place, or nothing has been written. -/
def Writes (before : AuthorityStage) (status : MutationAuthorityStatus) (stage : AuthorityStage) :
    Except MutationAuthorityError Unit → Prop
  | .ok _ => stage = .wrote status
  | .error _ => stage = before ∨ stage = .unreachable

theorem running_of_precedes (precedes : stage.Precedes status) : stage.running = true := by
  cases stage with
  | absent | seen _ => rfl
  | _ => exact precedes.elim

theorem after_ownerExists (precedes : stage.Precedes status) (answer : Bool) :
    stage.after .ownerExists answer = stage := by
  cases answer with
  | true => rfl
  | false => exact if_neg (by rintro rfl; exact precedes)

theorem replaceOwner_obeys (precedes : stage.Precedes status) :
    (do ofResult (← reply (.writeTemp status))
        ofResult (← reply (.rename status))
        ofResult (← reply .syncDirectory) : AuthorityTask Unit).run.Obeys lockDiscipline job
      (Writes stage status) stage := by
  refine obeys_reply (running_of_precedes precedes) fun prepared => ?_
  refine obeys_result (fun _ _ => ?_) fun _ _ => Or.inl rfl
  refine obeys_reply precedes fun renamed => ?_
  cases renamed with
  | error _ => exact Or.inl rfl
  | ok _ =>
    refine obeys_reply rfl fun synced => ?_
    cases synced with
    | ok _ => rfl
    | error _ => exact Or.inr rfl

theorem writeStatusAtomic_obeys (precedes : stage.Precedes status) :
    (writeStatusAtomic status).run.Obeys lockDiscipline job (Writes stage status) stage := by
  refine obeys_reply (running_of_precedes precedes) fun answer => ?_
  have same : lockDiscipline.after stage .ownerExists answer = stage :=
    after_ownerExists precedes answer
  rw [same]
  cases answer with
  | false => exact replaceOwner_obeys precedes
  | true =>
    refine obeys_reply (running_of_precedes precedes) fun valid => ?_
    refine obeys_result (fun _ _ => ?_) fun _ _ => Or.inl rfl
    exact replaceOwner_obeys precedes

/-- What a job's end comes to: the status it wrote, or nothing written. -/
def Settles (job : AuthorityJob) (stage : AuthorityStage) :
    Except MutationAuthorityError MutationAuthorityStatus → Prop
  | .ok status => stage = .ended (if job.changes then some status else none)
  | .error _ => stage = .unreachable ∨ stage.silent = true

theorem writeAndUnlock_obeys (changes : job.changes = true) (precedes : stage.Precedes status) :
    (do let result ← ExceptT.mk (do return .ok (← (writeStatusAtomic status).run))
        unlockWith (result.map fun _ => status) :
        AuthorityTask MutationAuthorityStatus).run.Obeys lockDiscipline job (Settles job) stage := by
  refine obeys_bind_fallible (Obeys.bind ((writeStatusAtomic_obeys precedes).mono ?_))
  intro reached result written
  cases result with
  | ok _ =>
    cases written
    refine unlockWith_obeys rfl ?_
    show AuthorityStage.ended (some status) = .ended (if job.changes then some status else none)
    rw [if_pos changes]
  | error e =>
    rcases written with rfl | rfl
    · refine unlockWith_obeys (inside_of_precedes precedes) (Or.inr ?_)
      cases reached with
      | absent | seen _ => rfl
      | _ => exact precedes.elim
    · exact unlockWith_obeys rfl (Or.inl rfl)

theorem refuse_obeys {e : MutationAuthorityError} (within : stage.inside = true)
    (ends : stage.after .unlock () = .ended none) :
    (unlockWith (.error e)).run.Obeys lockDiscipline job (Settles job) stage := by
  refine unlockWith_obeys within (Or.inr ?_)
  rw [ends]
  rfl

theorem tryAcquire_obeys (role : MutationAuthorityRole) :
    (tryAcquire role).run.Obeys lockDiscipline job (fun stage answer =>
      match answer with
      | .ok status => stage = .permitted status
      | .error e => Settles job stage (.error e)) .outside := by
  refine obeys_bind_fallible (enterExisting_obeys.mono ?_)
  intro stage entered within
  cases entered with
  | error e =>
    cases within
    exact Or.inr rfl
  | ok _ =>
    cases within
    refine obeys_bind_fallible (readStatusLocked_obeys.mono ?_)
    intro stage read reads
    match read, reads with
    | .ok (.error e), ⟨within, ends⟩ =>
      refine unlockWith_obeys within (Or.inr ?_)
      rw [ends]
      rfl
    | .ok (.ok status), reads =>
      cases reads
      dsimp only
      split
      · exact unlockWith_obeys rfl (Or.inr rfl)
      · exact obeys_reply rfl fun _ => rfl

theorem initializeMutationAuthority_obeys (owner : MutationAuthorityRole)
    (changes : job.changes = true) :
    (initializeMutationAuthority owner).run.Obeys lockDiscipline job (Settles job) .outside := by
  refine obeys_reply rfl fun directory => ?_
  refine obeys_result (fun _ _ => ?_) fun _ _ => Or.inr rfl
  refine obeys_reply rfl fun present => ?_
  cases present with
  | true => exact Or.inr rfl
  | false =>
    refine obeys_reply rfl fun opened => ?_
    refine obeys_result (fun _ _ => ?_) fun _ _ => Or.inr rfl
    refine obeys_reply rfl fun locked => ?_
    cases locked with
    | error _ => exact Or.inr rfl
    | ok _ =>
      refine obeys_reply rfl fun present => ?_
      cases present with
      | true => exact refuse_obeys rfl rfl
      | false => exact writeAndUnlock_obeys changes trivial

theorem switchMutationAuthorityGuarded_obeys (expectedOwner newOwner : MutationAuthorityRole)
    (changes : job.changes = true) :
    (switchMutationAuthorityGuarded expectedOwner newOwner).run.Obeys lockDiscipline job
      (Settles job) .outside := by
  unfold switchMutationAuthorityGuarded
  split
  · exact Or.inr rfl
  refine obeys_bind_fallible (enterExisting_obeys.mono ?_)
  intro stage entered within
  cases entered with
  | error e =>
    cases within
    exact Or.inr rfl
  | ok _ =>
    cases within
    refine obeys_bind_fallible (readStatusLocked_obeys.mono ?_)
    intro stage read reads
    match read, reads with
    | .ok (.error e), ⟨within, ends⟩ => exact refuse_obeys within ends
    | .ok (.ok current), reads =>
      cases reads
      dsimp only
      split
      · exact refuse_obeys rfl rfl
      · refine obeys_reply rfl fun guarded => ?_
        cases guarded with
        | false => exact refuse_obeys rfl rfl
        | true =>
          rw [if_pos rfl]
          split
          · exact writeAndUnlock_obeys changes (Nat.lt_succ_self _)
          · exact refuse_obeys rfl rfl

theorem authorityTask_obeys (job : AuthorityJob) :
    job.task.run.Obeys lockDiscipline job (Settles job) .outside := by
  cases job with
  | init owner => exact initializeMutationAuthority_obeys owner rfl
  | switch expectedOwner newOwner =>
    exact switchMutationAuthorityGuarded_obeys expectedOwner newOwner rfl
  | hold role =>
    refine obeys_bind_fallible ((tryAcquire_obeys role).mono ?_)
    intro stage acquired settled
    cases acquired with
    | error e => exact settled
    | ok status =>
      cases settled
      exact obeys_reply rfl fun _ => rfl

end Obeys

/-! ### Runs -/

/-- A probe of the owner file does not fail while the file is there, and the directory can be
synced. -/
def faultless (pool : AuthorityPool) : AuthorityEvent → Bool
  | .start _ => true
  | .step task fate =>
    match pool.tasks[task]? with
    | some (_, .call .ownerExists _) => fate = .goes || pool.world.owner.isNone
    | some (_, .call .syncDirectory _) => fate = .goes
    | _ => true

/-- In this step a change of the owner returns a status. -/
def AuthorityPool.Returns (pool : AuthorityPool) (event : AuthorityEvent)
    (status : MutationAuthorityStatus) : Prop :=
  ∃ (i : Nat) (job : AuthorityJob), job.changes = true ∧
    pool.tasks[i]? ≠ some (job, .done (.ok status)) ∧
    (pool.next event).tasks[i]? = some (job, .done (.ok status))

theorem perform_mended {d : AuthorityDirectory} {me : Nat} {c : AuthorityCall}
    {fate : AuthorityFate} (probe : c = .ownerExists → fate = .goes ∨ d.owner = none)
    (sync : c = .syncDirectory → fate = .goes) :
    authorityHost.perform d me c fate = mendedHost.perform d me c fate := by
  cases c with
  | ownerExists =>
    rcases probe rfl with rfl | absent
    · rfl
    · cases fate with
      | goes => rfl
      | fails e =>
        show (false, d) = (d.owner.isSome, d)
        rw [absent]
        rfl
  | syncDirectory =>
    cases sync rfl
    rfl
  | _ => rfl

theorem next_mended {pool : AuthorityPool} {event : AuthorityEvent}
    (fault : faultless pool event = true) :
    pool.next event = Pool.next mendedHost (fun job : AuthorityJob => job.task.run) pool event := by
  refine next_congr fun task fate job c after is found => ⟨rfl, ?_⟩
  subst is
  unfold faultless at fault
  refine perform_mended ?_ ?_
  · rintro rfl
    simpa [found] using fault
  · rintro rfl
    simpa [found] using fault

theorem start_inv (lockFile : Bool) (owner : Option OwnerFile) :
    (start lockFile owner).Inv := by
  refine ⟨?_, ?_, nofun⟩
  · cases owner with
    | none => rfl
    | some contents => cases contents <;> rfl
  · cases owner with
    | none => exact .nil
    | some contents =>
      cases contents with
      | unreadable => exact .nil
      | status _ => exact List.pairwise_singleton _ _

theorem start_outside (lockFile : Bool) (owner : Option OwnerFile) (i : Nat) :
    AuthorityStage.outside.Holds i (start lockFile owner) := by
  refine ⟨nofun, ⟨nofun, nofun⟩, fun _ status listed => ?_, nofun, nofun⟩
  obtain ⟨_, _, is⟩ := List.mem_map.mp listed
  cases is

/-- The processes of a run without the two failures follow the lock. -/
theorem authority_orderly (lockFile : Bool) (owner : Option OwnerFile)
    (events : List AuthorityEvent)
    (meets : Machine.Meets AuthorityPool.next (fun pool event => faultless pool event = true)
      (start (.start lockFile owner)) events) :
    Pool.Orderly lockDiscipline .outside Settles
      (run AuthorityPool.next (start (.start lockFile owner)) events) := by
  rw [run_eq_of_meets (fun _ _ fault => next_mended fault) meets]
  refine Pool.Orderly.run (orderly_start (start_inv lockFile owner) ?_) authorityTask_obeys _
  exact fun i _ => start_outside lockFile owner i

/-- A change that returns a status lets the lock go in that step, so there is no permit before
it. -/
theorem live_of_returns {pool : AuthorityPool}
    (orderly : Pool.Orderly lockDiscipline .outside Settles pool) {event : AuthorityEvent}
    {status : MutationAuthorityStatus} (returns : pool.Returns event status) :
    pool.world.live = none := by
  obtain ⟨i, job, changes, before, now⟩ := returns
  rcases next_finishes before now with none | ⟨c, after, fate, found, done⟩
  · have obeys := authorityTask_obeys job
    rw [none] at obeys
    cases obeys
  · obtain ⟨stage, knows, permitted, rest⟩ := orderly.tasks i job _ found
    have settles := rest (authorityHost.perform pool.world i c fate).1
    rw [done] at settles
    have ends : stage.after c _ = .ended (some status) := settles.trans (by rw [if_pos changes])
    have wrote := AuthorityStage.wrote_of_after permitted ends
    subst wrote
    exact knows.unshared rfl

/-- What holds of a pool of processes: a live permit is what the file says and no change returns
beside it; the file is the last status written, and epochs grow; a change that failed wrote
nothing. -/
structure AuthorityPool.SingleOwner (pool : AuthorityPool) : Prop where
  permit : ∀ i status, pool.world.live = some (i, status) → pool.world.durable = some status ∧
    ∀ event returned, ¬pool.Returns event returned
  durable : pool.world.durable = pool.world.history.head?.map Prod.snd
  epochs : pool.world.history.Pairwise fun newer older => older.2.epoch < newer.2.epoch
  failed : ∀ i job e, job.changes = true → pool.tasks[i]? = some (job, .done (.error e)) →
    ∀ status, (some i, status) ∉ pool.world.history

/-- Where no probe misses the owner file and the directory can be synced, there is one owner. -/
theorem authority_single_owner (lockFile : Bool) (owner : Option OwnerFile)
    (events : List AuthorityEvent)
    (meets : Machine.Meets AuthorityPool.next (fun pool event => faultless pool event = true)
      (start (.start lockFile owner)) events) :
    (run AuthorityPool.next (start (.start lockFile owner)) events).SingleOwner := by
  have orderly := authority_orderly lockFile owner events meets
  refine ⟨fun i status held => ⟨(orderly.inv.live i status held).2, fun event returned returns => ?_⟩,
    orderly.inv.durable, orderly.inv.growing, fun i job e _ found => ?_⟩
  · cases (live_of_returns orderly returns).symm.trans held
  · obtain ⟨stage, knows, settled⟩ := orderly.finished found
    rcases settled with lost | silent
    · exact absurd lost knows.reached
    · exact knows.quiet silent

/-- A directory is set up, a permit taken, and a switch finds it busy. -/
def contended : List AuthorityEvent :=
  .start (.init .v1) :: List.replicate 10 (.step 0 .goes) ++
    .start (.hold .v1) :: List.replicate 6 (.step 1 .goes) ++
    .start (.switch .v1 .v2) :: List.replicate 4 (.step 2 .goes)

theorem authority_single_owner_contended :
    (run AuthorityPool.next (start (.start false none)) contended).world.live =
        some (1, ⟨1, .v1, 1⟩) ∧
      (run AuthorityPool.next (start (.start false none)) contended).SingleOwner :=
  ⟨by decide +kernel, authority_single_owner false none contended (by decide +kernel)⟩

/-- The new file is in place when the directory cannot be synced. -/
def unsynced : List AuthorityEvent :=
  .start (.switch .v1 .v2) :: List.replicate 10 (.step 0 .goes) ++
    [.step 0 (.fails .io), .step 0 .goes]

/-- Both probes for an owner file that is there fail. -/
def overlooked : List AuthorityEvent :=
  [.start (.init .v2), .step 0 .goes, .step 0 (.fails .io), .step 0 .goes, .step 0 .goes,
    .step 0 (.fails .io)] ++ List.replicate 6 (.step 0 .goes)

/-- A switch fails and has changed the owner; a directory is set up a second time and its epoch
falls. -/
theorem authority_not_single_owner :
    let owned (epoch : Nat) : AuthorityPool :=
      start (.start true (some (.status ⟨1, .v1, epoch⟩)))
    let failed := run AuthorityPool.next (owned 1) unsynced
    let renewed := run AuthorityPool.next (owned 5) overlooked
    (failed.tasks[0]? = some (.switch .v1 .v2, .done (.error .io)) ∧
      failed.world.durable = some ⟨1, .v2, 2⟩ ∧ ¬failed.SingleOwner) ∧
    (renewed.tasks[0]? = some (.init .v2, .done (.ok ⟨1, .v2, 1⟩)) ∧
      renewed.world.durable = some ⟨1, .v2, 1⟩ ∧ ¬renewed.SingleOwner) := by
  refine ⟨⟨rfl, rfl, fun one => ?_⟩, ⟨rfl, rfl, fun one => ?_⟩⟩
  · exact one.failed 0 (.switch .v1 .v2) .io rfl rfl ⟨1, .v2, 2⟩ (by decide +kernel)
  · exact absurd one.epochs (by decide +kernel)

end Gateway.Agent
