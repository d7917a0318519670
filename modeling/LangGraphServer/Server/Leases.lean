import LangGraphServer.Server.StoreRules

set_option autoImplicit false

namespace LangGraphServer

open Collections Coroutine

-- What a run is held to: that deletions are left alone until their worker has finished,
-- and that runs take the lease of threads that their assistant still owns.
structure Scope where
  workersFinish : Prop
  ownersKept : Prop

section Ownership

variable (persistent : Bool)

-- The checkpoints of a thread agree with its owner, and with each other while it has none.
structure Attributed (state : ServerState) : Prop where
  unsaved : persistent = false → ∀ threadId, state.items threadId = []
  rooted : ∀ threadId, state.ownerOf threadId = none → ∀ item ∈ state.items threadId, ∀ assistantId,
    checkpointAssistantId item = some assistantId → state.latestMarker persistent threadId = some assistantId
  uniform : ∀ threadId owner, state.ownerOf threadId = some owner → ∀ item ∈ state.items threadId, ∀ assistantId,
    checkpointAssistantId item = some assistantId → assistantId = owner

def Inherits (before after : ServerState) : Prop :=
  ∀ threadId, after.ownerOf threadId = none → after.items threadId = [] ∨
    (before.ownerOf threadId = none ∧ ∀ item ∈ after.items threadId, item ∈ before.items threadId)

def KeepsThread (threadId : String) (before after : ServerState) : Prop :=
  (∀ assistantId, before.ownerOf threadId = some assistantId → after.ownerOf threadId = some assistantId) ∧
    (before.items threadId = [] → after.items threadId = [])

theorem inherits_refl (state : ServerState) : Inherits state state :=
  fun _ unowned => Or.inr ⟨unowned, fun _ member => member⟩

theorem inherits_trans (first second third : ServerState) (left : Inherits first second)
    (right : Inherits second third) :
    Inherits first third := by
  intro threadId unowned
  rcases right threadId unowned with cleared | ⟨missing, members⟩
  · exact Or.inl cleared
  · rcases left threadId missing with cleared | ⟨absent, earlier⟩
    · apply Or.inl
      apply List.eq_nil_iff_forall_not_mem.mpr
      intro item member
      have inside := members item member
      rw [cleared] at inside
      cases inside
    · exact Or.inr ⟨absent, fun item member => earlier item (members item member)⟩

theorem items_same_saved (before after : ServerState) (saved : after.saved = before.saved) (threadId : String) :
    after.items threadId = before.items threadId := by
  rw [ServerState.items, ServerState.items, saved]

theorem latest_marker_of_items (before after : ServerState) (threadId : String)
    (same : after.items threadId = before.items threadId) :
    after.latestMarker persistent threadId = before.latestMarker persistent threadId := by
  rw [ServerState.latestMarker, ServerState.latestMarker, ServerState.agetTuple, ServerState.agetTuple]
  show (if persistent = true then Option.bind (newest ((after.items threadId).filter _)) _ else none) = _
  rw [same]
  rfl

theorem attributed_same (before after : ServerState) (owners : ∀ query, after.ownerOf query = before.ownerOf query)
    (saved : after.saved = before.saved) (attributed : Attributed persistent before) : Attributed persistent after := by
  have items := items_same_saved before after saved
  constructor
  · intro missing threadId
    rw [items]
    exact attributed.unsaved missing threadId
  · intro threadId
    rw [owners, items, latest_marker_of_items persistent before after threadId (items threadId)]
    exact attributed.rooted threadId
  · intro threadId
    rw [owners, items]
    exact attributed.uniform threadId

theorem inherits_same (before after : ServerState) (owners : ∀ query, after.ownerOf query = before.ownerOf query)
    (saved : after.saved = before.saved) : Inherits before after := by
  intro threadId unowned
  rw [owners] at unowned
  rw [items_same_saved before after saved]
  exact Or.inr ⟨unowned, fun _ member => member⟩

end Ownership

section Discipline

variable (platform : Platform) (config : ServerConfig) (scope : Scope)

structure LeaseInvariant (state : ServerState) : Prop where
  fresh : ∀ request progress, state.progress.get? request = some progress →
    progress.lease.token < state.coordinator.nextToken
  single : ∀ first second left right, state.progress.get? first = some left → state.progress.get? second = some right →
    left.lease.token = right.lease.token → first = second
  held : ∀ request progress, state.progress.get? request = some progress → progress.live = true →
    (progress.mutation = .deletion → scope.workersFinish) → state.holds progress.lease = true
  attributed : scope.ownersKept → Attributed config.checkpointer.isSome state
  running : scope.ownersKept → ∀ request progress assistantId, state.progress.get? request = some progress →
    progress.live = true → progress.mutation = .run assistantId →
      state.ownerOf progress.lease.threadId = some assistantId

-- What the main task of a request relies on. Its own helper may end the mutation of an
-- interrupted deletion; as long as it has not let go, nobody takes its lease away.
structure Undisturbed (request : Nat) (before after : ServerState) : Prop where
  absent : before.progress.get? request = none → after.progress.get? request = none
  kept : ∀ progress, before.progress.get? request = some progress →
    ∃ live, after.progress.get? request = some { progress with live := live } ∧
      (live = progress.live ∨ progress.mutation = .deletion ∧ live = false)
  held : ∀ progress, before.progress.get? request = some progress → progress.given = false →
    before.holds progress.lease = true → after.holds progress.lease = true ∧
      (scope.ownersKept → KeepsThread progress.lease.threadId before after)
  inherits : scope.ownersKept → Inherits before after

-- What a helper relies on: once the main task has let go, its mutation does not come back.
structure HelperUndisturbed (request : Nat) (before after : ServerState) : Prop where
  kept : ∀ progress, before.progress.get? request = some progress →
    ∃ live given, after.progress.get? request = some { progress with live := live, given := given } ∧
      (progress.given = true → given = true ∧ (progress.live = false → live = false))
  inherits : scope.ownersKept → Inherits before after

def leaseRely : TaskId → ServerState → ServerState → Prop
  | ⟨request, false⟩ => Undisturbed scope request
  | ⟨request, true⟩ => HelperUndisturbed scope request

def Distinct (first second : TaskId) : Prop :=
  first.helper = true ∨ second.helper = true ∨ first.request ≠ second.request

-- The main task has let go of the lease, and nothing of it is live; an interrupted
-- deletion may be, where workers are not waited for.
def Settled (progress : Progress) : Prop :=
  progress.live = true → progress.mutation = .deletion ∧ ¬ scope.workersFinish

def LetGo (request : Nat) (lease : RunLease) (state : ServerState) : Prop :=
  ∃ progress, state.progress.get? request = some progress ∧ progress.lease = lease ∧ progress.given = true ∧
    Settled scope progress

def leasePermits : TaskId → ServerOp → Option ServerError → ServerState → Prop
  | _, .deleteCheckpoints _, some _, _ => ¬ scope.workersFinish
  | _, .aput _ _, some _, _ => ¬ scope.ownersKept
  | _, .acquire threadId (.run assistantId), none, state => scope.ownersKept →
      (∃ lease, (state.coordinator.acquire threadId).2 = .ok lease) → state.ownerOf threadId = some assistantId
  | _, _, _, _ => True

def leaseLeaves (id : TaskId) : ServerOp → ServerState → Prop
  | .release lease, state => LetGo scope id.request lease state
  | .deleteCheckpoints _, state => ∃ progress, state.progress.get? id.request = some progress ∧
      progress.mutation = .deletion
  | .aput _ _, _ => ¬ scope.ownersKept
  | _, _ => True

def NothingLive (id : TaskId) (state : ServerState) : Prop :=
  ∀ progress, state.progress.get? id.request = some progress → progress.live = false

theorem undisturbed_refl (request : Nat) (state : ServerState) : Undisturbed scope request state state where
  absent := fun missing => missing
  kept := fun progress found => ⟨progress.live, found, Or.inl rfl⟩
  held := fun _ _ _ held => ⟨held, fun _ => ⟨fun _ owned => owned, fun empty => empty⟩⟩
  inherits := fun _ => inherits_refl state

theorem undisturbed_trans (request : Nat) (first second third : ServerState)
    (left : Undisturbed scope request first second)
    (right : Undisturbed scope request second third) : Undisturbed scope request first third := by
  constructor
  · intro missing
    exact right.absent (left.absent missing)
  · intro progress found
    obtain ⟨live, next, same⟩ := left.kept progress found
    obtain ⟨later, last, still⟩ := right.kept _ next
    apply Exists.intro later
    apply And.intro last
    rcases still with equal | ⟨deletion, ended⟩
    · rcases same with before | ⟨deletion, ended⟩
      · exact Or.inl (equal.trans before)
      · exact Or.inr ⟨deletion, equal.trans ended⟩
    · exact Or.inr ⟨deletion, ended⟩
  · intro progress found kept held
    obtain ⟨live, next, _⟩ := left.kept progress found
    obtain ⟨heldNext, keeps⟩ := left.held progress found kept held
    obtain ⟨heldLast, keepsLast⟩ := right.held { progress with live := live } next kept heldNext
    apply And.intro heldLast
    intro asked
    obtain ⟨owners, cleared⟩ := keeps asked
    obtain ⟨ownersLast, clearedLast⟩ := keepsLast asked
    exact ⟨fun assistantId owned => ownersLast assistantId (owners assistantId owned),
      fun empty => clearedLast (cleared empty)⟩
  · intro asked
    exact inherits_trans first second third (left.inherits asked) (right.inherits asked)

theorem helper_undisturbed_refl (request : Nat) (state : ServerState) :
    HelperUndisturbed scope request state state where
  kept := fun progress found => ⟨progress.live, progress.given, found, fun given => ⟨given, fun ended => ended⟩⟩
  inherits := fun _ => inherits_refl state

theorem helper_undisturbed_trans (request : Nat) (first second third : ServerState)
    (left : HelperUndisturbed scope request first second) (right : HelperUndisturbed scope request second third) :
    HelperUndisturbed scope request first third := by
  constructor
  · intro progress found
    obtain ⟨live, given, next, keeps⟩ := left.kept progress found
    obtain ⟨later, last, final, still⟩ := right.kept _ next
    apply Exists.intro later
    apply Exists.intro last
    apply And.intro final
    intro gave
    obtain ⟨gaveThen, endedThen⟩ := keeps gave
    obtain ⟨gaveLater, endedLater⟩ := still gaveThen
    exact ⟨gaveLater, fun ended => endedLater (endedThen ended)⟩
  · intro asked
    exact inherits_trans first second third (left.inherits asked) (right.inherits asked)

def leaseDiscipline : Discipline (serverMachine platform config.checkpointer.isSome) where
  inv := LeaseInvariant config scope
  rely := leaseRely scope
  guar := fun id before after => ∀ other, Distinct id other → leaseRely scope other before after
  permits := leasePermits scope
  abandons := NothingLive
  leaves := leaseLeaves scope
  rely_refl := fun id state => match id with
    | ⟨request, false⟩ => undisturbed_refl scope request state
    | ⟨request, true⟩ => helper_undisturbed_refl scope request state
  rely_trans := fun id first second third => match id with
    | ⟨request, false⟩ => undisturbed_trans scope request first second third
    | ⟨request, true⟩ => helper_undisturbed_trans scope request first second third

variable {config scope}

theorem holder_unique (state : ServerState) (first second : Nat) (left right : Progress)
    (inv : LeaseInvariant config scope state) (foundLeft : state.progress.get? first = some left)
    (foundRight : state.progress.get? second = some right) (same : left.lease.threadId = right.lease.threadId)
    (heldLeft : state.holds left.lease = true) (heldRight : state.holds right.lease = true) : first = second := by
  apply inv.single first second left right foundLeft foundRight
  have one := of_decide_eq_true heldLeft
  have two := of_decide_eq_true heldRight
  rw [same, two, Option.some.injEq] at one
  exact one.symm

def HoldsThread (id : TaskId) (threadId : String) (state : ServerState) (progress : Progress) : Prop :=
  id.helper = false ∧ state.progress.get? id.request = some progress ∧ progress.lease.threadId = threadId ∧
    state.holds progress.lease = true

-- A step on the threads. Only the holder of a thread's lease puts checkpoints on it, and
-- only a deletion that holds it takes its owner away.
structure ThreadStep (config : ServerConfig) (scope : Scope) (id : TaskId) (before after : ServerState) : Prop where
  progress : after.progress = before.progress
  coordinator : after.coordinator = before.coordinator
  attributed : scope.ownersKept → Attributed config.checkpointer.isSome after
  inherits : scope.ownersKept → Inherits before after
  owners : scope.ownersKept → ∀ threadId assistantId, before.ownerOf threadId = some assistantId →
    after.ownerOf threadId = some assistantId ∨
      ∃ progress, HoldsThread id threadId before progress ∧ progress.mutation = .deletion
  cleared : scope.ownersKept → ∀ threadId, before.items threadId = [] → after.items threadId = [] ∨
    ∃ progress, HoldsThread id threadId before progress

theorem thread_step_allowed (id : TaskId) (before after : ServerState) (inv : LeaseInvariant config scope before)
    (step : ThreadStep config scope id before after) : (leaseDiscipline platform config scope).Allows id
      before after := by
  have holds : ∀ lease, after.holds lease = before.holds lease := fun lease => by
    rw [ServerState.holds, ServerState.holds, step.coordinator]
  constructor
  · constructor
    · rw [step.progress, step.coordinator]
      exact inv.fresh
    · rw [step.progress]
      exact inv.single
    · intro request progress found live ends
      rw [step.progress] at found
      rw [holds]
      exact inv.held request progress found live ends
    · exact step.attributed
    · intro asked request progress assistantId found live runs
      rw [step.progress] at found
      have owned := inv.running asked request progress assistantId found live runs
      rcases step.owners asked _ _ owned with still | ⟨mine, ⟨_, foundMine, same, heldMine⟩, deletion⟩
      · exact still
      · have held := inv.held request progress found live (fun deletion => by cases runs.symm.trans deletion)
        cases holder_unique before _ _ mine progress inv foundMine found same heldMine held
        cases foundMine.symm.trans found
        cases runs.symm.trans deletion
  · intro other distinct
    obtain ⟨request, helper⟩ := other
    cases helper with
    | true =>
        constructor
        · intro progress found
          exact ⟨progress.live, progress.given, by
            rw [step.progress]; exact found, fun given => ⟨given, fun ended => ended⟩⟩
        · exact step.inherits
    | false =>
        have apart : ∀ mine progress, HoldsThread id progress.lease.threadId before mine →
            before.progress.get? request = some progress → before.holds progress.lease = true → False := by
          intro mine progress holder found held
          obtain ⟨main, foundMine, same, heldMine⟩ := holder
          have equal := holder_unique before _ _ mine progress inv foundMine found same heldMine held
          rcases distinct with helping | helping | different
          · cases main.symm.trans helping
          · cases helping
          · exact different equal
        constructor
        · intro missing
          rw [step.progress]
          exact missing
        · intro progress found
          exact ⟨progress.live, by rw [step.progress]; exact found, Or.inl rfl⟩
        · intro progress found _ held
          rw [holds]
          apply And.intro held
          intro asked
          constructor
          · intro assistantId owned
            rcases step.owners asked _ _ owned with still | ⟨mine, holder, _⟩
            · exact still
            · exact (apart mine progress holder found held).elim
          · intro empty
            rcases step.cleared asked _ empty with still | ⟨mine, holder⟩
            · exact still
            · exact (apart mine progress holder found held).elim
        · exact step.inherits

structure ProgressStep (scope : Scope) (id : TaskId) (before after : ServerState) (progress : Progress)
    (live given : Bool) : Prop where
  found : before.progress.get? id.request = some progress
  stored : ∀ request, after.progress.get? request =
    if request = id.request then some { progress with live := live, given := given } else before.progress.get? request
  store : after.store = before.store
  saved : after.saved = before.saved
  coordinator : after.coordinator = before.coordinator
  held : live = true → (progress.mutation = .deletion → scope.workersFinish) → before.holds progress.lease = true
  running : scope.ownersKept → live = true → ∀ assistantId, progress.mutation = .run assistantId →
    before.ownerOf progress.lease.threadId = some assistantId
  lasting : progress.given = true → given = true ∧ (progress.live = false → live = false)
  helping : id.helper = true → given = progress.given ∧
    (live = progress.live ∨ progress.mutation = .deletion ∧ live = false)

theorem progress_step_allowed (id : TaskId) (before after : ServerState) (progress : Progress) (live given : Bool)
    (inv : LeaseInvariant config scope before) (step : ProgressStep scope id before after progress live given) :
    (leaseDiscipline platform config scope).Allows id before after := by
  have holds : ∀ lease, after.holds lease = before.holds lease := fun lease => by
    rw [ServerState.holds, ServerState.holds, step.coordinator]
  have owners : ∀ threadId, after.ownerOf threadId = before.ownerOf threadId := fun threadId => by
    rw [ServerState.ownerOf, ServerState.ownerOf, step.store]
  have leases : ∀ request later, after.progress.get? request = some later →
      ∃ earlier, before.progress.get? request = some earlier ∧ later.lease = earlier.lease := by
    intro request later found
    rw [step.stored] at found
    by_cases own : request = id.request
    · rw [if_pos own, Option.some.injEq] at found
      exact ⟨progress, own ▸ step.found, by rw [← found]⟩
    · rw [if_neg own] at found
      exact ⟨later, found, rfl⟩
  constructor
  · constructor
    · intro request later found
      obtain ⟨earlier, was, same⟩ := leases request later found
      rw [step.coordinator, same]
      exact inv.fresh request earlier was
    · intro first second left right foundLeft foundRight tokens
      obtain ⟨one, wasLeft, sameLeft⟩ := leases first left foundLeft
      obtain ⟨two, wasRight, sameRight⟩ := leases second right foundRight
      rw [sameLeft, sameRight] at tokens
      exact inv.single first second one two wasLeft wasRight tokens
    · intro request later found alive ends
      rw [holds]
      rw [step.stored] at found
      by_cases own : request = id.request
      · rw [if_pos own, Option.some.injEq] at found
        subst found
        exact step.held alive ends
      · rw [if_neg own] at found
        exact inv.held request later found alive ends
    · intro asked
      exact attributed_same _ before after owners step.saved (inv.attributed asked)
    · intro asked request later assistantId found alive runs
      rw [owners]
      rw [step.stored] at found
      by_cases own : request = id.request
      · rw [if_pos own, Option.some.injEq] at found
        subst found
        exact step.running asked alive assistantId runs
      · rw [if_neg own] at found
        exact inv.running asked request later assistantId found alive runs
  · intro other distinct
    obtain ⟨request, helper⟩ := other
    have inherits := inherits_same before after owners step.saved
    have keeps : ∀ threadId, KeepsThread threadId before after := fun threadId =>
      ⟨fun assistantId owned => (owners threadId).trans owned,
        fun empty => (items_same_saved before after step.saved threadId).trans empty⟩
    by_cases own : request = id.request
    · subst own
      cases helper with
      | true =>
          constructor
          · intro earlier was
            cases was.symm.trans step.found
            exact ⟨live, given, by rw [step.stored, if_pos rfl], step.lasting⟩
          · exact fun _ => inherits
      | false =>
          have helping : id.helper = true := by
            rcases distinct with helping | helping | different
            · exact helping
            · cases helping
            · exact absurd rfl different
          obtain ⟨gives, lives⟩ := step.helping helping
          constructor
          · intro missing
            cases missing.symm.trans step.found
          · intro earlier was
            cases was.symm.trans step.found
            exact ⟨live, by rw [step.stored, if_pos rfl, gives], lives⟩
          · intro earlier was _ held
            rw [holds]
            exact ⟨held, fun _ => keeps _⟩
          · exact fun _ => inherits
    · have same : after.progress.get? request = before.progress.get? request := by
        rw [step.stored, if_neg own]
      cases helper with
      | true =>
          constructor
          · intro earlier was
            exact ⟨earlier.live, earlier.given, same.trans was, fun gave => ⟨gave, fun ended => ended⟩⟩
          · exact fun _ => inherits
      | false =>
          constructor
          · intro missing
            exact same.trans missing
          · intro earlier was
            exact ⟨earlier.live, same.trans was, Or.inl rfl⟩
          · intro earlier was _ held
            rw [holds]
            exact ⟨held, fun _ => keeps _⟩
          · exact fun _ => inherits

end Discipline

end LangGraphServer
