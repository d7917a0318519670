import LangGraphServer.Lib.Watch
import LangGraphServer.Server.ThreadEffects

set_option autoImplicit false

namespace LangGraphServer

open Collections Coroutine

-- What every request has seen of the thread.
def observeSights (persistent : Bool) (threadId : String) (id : TaskId) (op : ServerOp)
    (answer : Except ServerError op.Result) (sights : Nat → Sight) : Nat → Sight :=
  fun request => if request = id.request ∧ id.helper = false then (sights request).next persistent threadId op answer
    else sights request

def sightedServer (platform : Platform) (persistent : Bool) (threadId : String) :
    Machine Api (ServerState × (Nat → Sight)) TaskId :=
  (serverMachine platform persistent).watched (observeSights persistent threadId)

abbrev SightedPool := Pool Api (ServerState × (Nat → Sight)) TaskId

def roleOf (requests : List (RequestContext × Request)) (threadId : String) (request : Nat) : Role :=
  match requests[request]? with
  | some given => given.2.role threadId
  | none => .other

def threadOrder (platform : Platform) (persistent : Bool) (requests : List (RequestContext × Request))
    (threadId : String) :
    Order (sightedServer platform persistent threadId) ThreadPhase where
  protocol id := threadProtocol (roleOf requests threadId id.request) persistent threadId
  done id outcome phase := id.helper = false → ∀ given, requests[id.request]? = some given →
    Concludes threadId outcome phase given.2
  protocol_helper _ := rfl
  done_helper _ _ _ _ main := by cases main

section Conditions

variable (requests : List (RequestContext × Request)) (persistent : Bool) (threadId : String)

-- A GET or POST that has found the thread and is still to read or write its record.
def Restoring (pool : SightedPool) (request : Nat) : Prop :=
  roleOf requests threadId request = .restorer ∧ pool.shared.2 request = .found ∧
    ∃ program, pool.tasks[request]? = some (⟨request, false⟩, program) ∧ ¬ program.Ended

-- A checkpoint write of the thread that goes on without the update that began it.
def LeftWrite (pool : SightedPool) : Prop :=
  ∃ (position : Nat) (id : TaskId) (config : RunnableConfig) (item : CheckpointItem) (resume : Except ServerError
    Unit → Coro Api Unit),
    pool.tasks[position]? = some (id, .await (ServerOp.aput config item) resume) ∧ id.helper = true ∧
      roleOf requests threadId id.request = .restorer ∧ config.entry? "thread_id" = some (.str threadId)

-- The turn does not take the last of the thread away from a request that has found it.
def SparesFound (pool : SightedPool) (turn : Turn Api) : Prop :=
  ∀ id op resume, pool.tasks[turn.task]? = some (id, .await op resume) → turn.failure = none →
    TakesLast persistent threadId pool.shared.1 op → ∀ request, ¬ Restoring requests threadId pool request

-- A deletion does not remove the checkpoints while a write of one is left.
def AwaitsWrites (pool : SightedPool) (turn : Turn Api) : Prop :=
  ∀ id resume, pool.tasks[turn.task]? = some (id, .await (ServerOp.deleteCheckpoints threadId) resume) →
    id.helper = false → turn.failure = none → ¬ LeftWrite requests threadId pool

-- The requests that have found the thread and the writes that are left come first.
def LetsFinish (pool : SightedPool) (turn : Turn Api) : Prop :=
  SparesFound requests persistent threadId pool turn ∧ AwaitsWrites requests threadId pool turn

end Conditions

section Pool

variable (requests : List (RequestContext × Request)) (persistent : Bool) (threadId : String)

-- A lease of the thread is held by one task, and the coordinator knows it.
structure Leased (coordinator : RunCoordinator) (census : List (TaskId × ThreadPhase)) : Prop where
  fresh : ∀ (position : Nat) entry lease, census[position]? = some entry → entry.2.hold.lease? = some lease →
    lease.token < coordinator.nextToken
  sole : ∀ (first second : Nat) one two left right, first ≠ second → census[first]? = some one →
    census[second]? = some two → one.2.hold.Holds left → two.2.hold.lease? = some right → left.token ≠ right.token
  holds : ∀ (position : Nat) entry lease, census[position]? = some entry → entry.2.hold.Holds lease →
    roleOf requests threadId entry.1.request ≠ .maker ∧ lease.threadId = threadId ∧
      coordinator.active.get? threadId = some lease.token

structure Tended (platform : Platform) (pool : SightedPool) (census : List (TaskId × ThreadPhase)) : Prop where
  counts : (threadOrder platform persistent requests threadId).Counts census pool.tasks
  leased : Leased requests threadId pool.shared.1.coordinator census
  own : ∀ (position : Nat) entry, census[position]? = some entry → entry.1.helper = false →
    entry.1.request = position ∧ entry.2.hold ≠ .idle
  helped : ∀ (position : Nat) entry, census[position]? = some entry → entry.1.helper = true →
    roleOf requests threadId entry.1.request ≠ .maker →
      entry.2.sight = .settled ∧ entry.2.hold ≠ .waiting ∧ ∀ lease, ¬ entry.2.hold.Holds lease
  brief : ∀ (position : Nat) id program, pool.tasks[position]? = some (id, program) → id.helper = true →
    roleOf requests threadId id.request = .restorer → program = .ret () ∨ ∃ op, program = .await op (fun _ => .ret ())
  sights : ∀ (position : Nat) entry, census[position]? = some entry → entry.1.helper = false →
    roleOf requests threadId entry.1.request = .restorer →
      (entry.2.sight = .looking → pool.shared.2 position = .looking) ∧
        (entry.2.sight = .found → pool.shared.2 position = .found)
  found : ∀ (position : Nat) entry, census[position]? = some entry → entry.1.helper = false →
    roleOf requests threadId entry.1.request = .restorer → entry.2.sight = .found →
      (∃ program, pool.tasks[position]? = some (entry.1, program) ∧ ¬ program.Ended) →
        pool.shared.1.threadExists persistent threadId = true
  recorded : ∀ (position : Nat) entry lease, census[position]? = some entry →
    roleOf requests threadId entry.1.request = .restorer → entry.2.sight = .settled → entry.2.hold.Holds lease →
      (pool.shared.1.store.getThread threadId).isSome = true
  left : persistent = true → LeftWrite requests threadId pool → (pool.shared.1.store.getThread threadId).isSome = true ∧
    ∀ (position : Nat) entry lease, census[position]? = some entry → entry.2.hold ≠ .cleared lease

variable {requests persistent threadId} {coordinator after : RunCoordinator} {census : List (TaskId × ThreadPhase)}
    {position : Nat} {id : TaskId} {phase next : ThreadPhase}

theorem holder_alone (leased : Leased requests threadId coordinator census) (first second : Nat)
    (one two : TaskId × ThreadPhase)
    (left right : RunLease) (foundOne : census[first]? = some one) (foundTwo : census[second]? = some two)
    (holdsOne : one.2.hold.Holds left) (holdsTwo : two.2.hold.Holds right) : first = second := by
  by_contra apart
  refine leased.sole first second one two left right apart foundOne foundTwo holdsOne (holds_lease _ _ holdsTwo) ?_
  have known := (leased.holds first one left foundOne holdsOne).2.2
  rw [(leased.holds second two right foundTwo holdsTwo).2.2, Option.some.injEq] at known
  exact known.symm

-- A task lets go of what it holds or keeps it, and leaves helpers behind that hold nothing.
theorem leased_beside (leased : Leased requests threadId coordinator census)
    (entry : census[position]? = some (id, phase))
    (spawned : List (TaskId × ThreadPhase)) (lease : next.hold.lease? = phase.hold.lease?)
    (holding : ∀ lease, next.hold.Holds lease → phase.hold.Holds lease)
    (helpers : ∀ left ∈ spawned, (∀ lease, ¬ left.2.hold.Holds lease) ∧ ∀ lease, left.2.hold.lease? = some lease →
      phase.hold.lease? = some lease ∧ ∀ other, ¬ next.hold.Holds other) :
    Leased requests threadId coordinator (census.set position (id, next) ++ spawned) := by
  have before : ∀ (other : Nat) one held, (census.set position (id, next) ++ spawned)[other]? = some one →
    one.2.hold.Holds held → ∃ entry, census[other]? = some entry ∧ entry.1 = one.1 ∧ entry.2.hold.Holds held := by
    intro other one held found holds
    rcases replaced_entries _ _ _ _ _ _ found with ⟨rfl, rfl⟩ | ⟨_, old⟩ | ⟨_, new⟩
    · exact ⟨_, entry, rfl, holding held holds⟩
    · exact ⟨one, old, rfl, holds⟩
    · exact absurd holds ((helpers one new).1 held)
  constructor
  · intro other one held found has
    rcases replaced_entries _ _ _ _ _ _ found with ⟨rfl, rfl⟩ | ⟨_, old⟩ | ⟨_, new⟩
    · exact leased.fresh _ _ held entry (lease.symm.trans has)
    · exact leased.fresh other one held old has
    · exact leased.fresh _ _ held entry ((helpers one new).2 held has).1
  · intro first second one two left right apart foundOne foundTwo holds has
    obtain ⟨earlier, old, _, held⟩ := before first one left foundOne holds
    rcases replaced_entries _ _ _ _ _ _ foundTwo with ⟨rfl, rfl⟩ | ⟨_, other⟩ | ⟨_, new⟩
    · exact leased.sole first _ earlier _ left right apart old entry held (lease.symm.trans has)
    · exact leased.sole first second earlier two left right apart old other held has
    · obtain ⟨given, dropped⟩ := (helpers two new).2 right has
      refine leased.sole first position earlier _ left right ?_ old entry held given
      rintro rfl
      rcases replaced_entries _ _ _ _ _ _ foundOne with ⟨_, rfl⟩ | ⟨elsewhere, _⟩ | ⟨beyond, _⟩
      · exact dropped left holds
      · exact elsewhere rfl
      · exact absurd (List.getElem?_eq_some_iff.mp entry).1 (Nat.not_lt.mpr beyond)
  · intro other one held found holds
    obtain ⟨earlier, old, same, holdsOld⟩ := before other one held found holds
    rw [← same]
    exact leased.holds other earlier held old holdsOld

-- A task takes a lease that nobody has.
theorem leased_taken (leased : Leased requests threadId coordinator census)
    (entry : census[position]? = some (id, phase))
    (query : String) (free : query ∉ coordinator.active.keys)
    (takes : next.hold = if query = threadId ∧ roleOf requests threadId id.request ≠ .maker then .held
      ⟨query, coordinator.nextToken⟩ else .spent ⟨query, coordinator.nextToken⟩) :
    Leased requests threadId { coordinator with
      active := coordinator.active.set query coordinator.nextToken
      nextToken := coordinator.nextToken + 1 } (census.set position (id, next)) := by
  have own : ∀ held, next.hold.lease? = some held → held.token = coordinator.nextToken := by
    intro held has
    rw [takes] at has
    split at has <;> (cases has; rfl)
  have spared : ∀ (other : Nat) one held, census[other]? = some one → one.2.hold.Holds held → query ≠ threadId := by
    rintro other one held found holds rfl
    have known := (leased.holds other one held found holds).2.2
    exact free ((Dict.mem_keys _ _).mpr ⟨_, known⟩)
  constructor
  · intro other one held found has
    rcases set_entries _ _ _ _ _ found with ⟨rfl, rfl⟩ | ⟨_, old⟩
    · rw [own held has]
      exact Nat.lt_succ_self _
    · exact Nat.lt_succ_of_lt (leased.fresh other one held old has)
  · intro first second one two left right apart foundOne foundTwo holds has
    rcases set_entries _ _ _ _ _ foundOne with ⟨rfl, rfl⟩ | ⟨_, oldOne⟩
    · rcases set_entries _ _ _ _ _ foundTwo with ⟨rfl, rfl⟩ | ⟨_, oldTwo⟩
      · exact absurd rfl apart
      · rw [own left (holds_lease _ _ holds)]
        exact Nat.ne_of_gt (leased.fresh second two right oldTwo has)
    · rcases set_entries _ _ _ _ _ foundTwo with ⟨rfl, rfl⟩ | ⟨_, oldTwo⟩
      · rw [own right has]
        exact Nat.ne_of_lt (leased.fresh first one left oldOne (holds_lease _ _ holds))
      · exact leased.sole first second one two left right apart oldOne oldTwo holds has
  · intro other one held found holds
    rcases set_entries _ _ _ _ _ found with ⟨rfl, rfl⟩ | ⟨_, old⟩
    · have holds : next.hold.Holds held := holds
      rw [takes] at holds
      split at holds
      · rename_i both
        obtain ⟨rfl, acts⟩ := both
        rcases holds with same | same
        · cases same
          exact ⟨acts, rfl, (Dict.get_set _ _ _ _).trans (if_pos rfl)⟩
        · cases same
      · rcases holds with same | same <;> cases same
    · obtain ⟨acts, named, known⟩ := leased.holds other one held old holds
      refine ⟨acts, named, (Dict.get_set _ _ _ _).trans ?_⟩
      rw [if_neg (Ne.symm (spared other one held old holds))]
      exact known

-- A task gives its lease back.
theorem leased_given (leased : Leased requests threadId coordinator census)
    (entry : census[position]? = some (id, phase))
    (lease : RunLease) (own : phase.hold.lease? = some lease) (same : next.hold.lease? = phase.hold.lease?)
    (dropped : ∀ lease, ¬ next.hold.Holds lease) :
    Leased requests threadId (coordinator.release lease) (census.set position (id, next)) := by
  have kept : Leased requests threadId coordinator (census.set position (id, next) ++ []) :=
    leased_beside leased entry [] same (fun other holds => absurd holds (dropped other))
    (fun _ listed => by cases listed)
  rw [List.append_nil] at kept
  have bound := (CoordinationState.release_bounds coordinator lease).1
  refine ⟨fun other one held found has => ?_, kept.sole, fun other one held found holds => ?_⟩
  · rw [bound]
    exact kept.fresh other one held found has
  · obtain ⟨acts, named, known⟩ := kept.holds other one held found holds
    refine ⟨acts, named, CoordinationState.release_frame _ _ _ _ ?_ known⟩
    rcases set_entries _ _ _ _ _ found with ⟨rfl, rfl⟩ | ⟨apart, old⟩
    · exact absurd holds (dropped held)
    · rintro rfl
      exact leased.sole other position one _ held _ apart old entry holds own rfl

theorem leased_moved {before later : ServerState} (leased : Leased requests threadId before.coordinator census)
    (entry : census[position]? = some (id, phase))
    (move : LeaseMove (roleOf requests threadId id.request) threadId before later phase.hold next.hold) :
    Leased requests threadId later.coordinator (census.set position (id, next)) := by
  cases move with
  | kept same lease holding =>
      have kept := leased_beside leased entry [] lease holding (fun _ listed => by cases listed)
      rwa [List.append_nil, ← same] at kept
  | taken query waiting free coordinator takes =>
      rw [coordinator]
      exact leased_taken leased entry query free takes
  | given lease own coordinator same dropped =>
      rw [coordinator]
      exact leased_given leased entry lease own same dropped

section Turns

variable {platform : Platform} {pool : SightedPool} {turn : Turn Api}

-- What the turn of a task that is neither a create nor a run leaves of a missing thread.
theorem step_stays_missing (tended : Tended requests persistent threadId platform pool census) (op : ServerOp)
    (resume : Except ServerError op.Result → Coro Api Unit)
    (found : pool.tasks[turn.task]? = some (id, .await op resume)) (entry : census[turn.task]? = some (id, phase))
    (allowed : phase.allows (roleOf requests threadId id.request) persistent threadId op)
    (acts : roleOf requests threadId id.request ≠ .maker)
    (absent : pool.shared.1.threadExists persistent threadId = false) :
    (pool.shared.1.perform platform persistent id op).1.threadExists persistent threadId = false := by
  refine thread_stays_missing (thread_effect platform persistent id threadId op pool.shared.1) absent ?_ ?_
  · rintro saves config item rfl thread
    have recorded : (pool.shared.1.store.getThread threadId).isSome = true := by
      rcases allowed with maker | elsewhere | ⟨restores, settled, idle | ⟨lease, held⟩⟩
      · exact absurd maker acts
      · exact absurd thread elsewhere
      · cases helping : id.helper with
        | true => exact (tended.left saves ⟨_, id, config, item, resume, found, helping, restores, thread⟩).1
        | false => exact absurd idle (tended.own turn.task _ entry helping).2
      · exact tended.recorded turn.task _ lease entry restores settled (Or.inl held)
    rw [recorded_exists pool.shared.1 recorded] at absent
    cases absent
  · rintro thread rfl named
    cases role : roleOf requests threadId id.request with
    | maker => exact acts role
    | other =>
        rw [role] at allowed
        exact allowed named
    | restorer =>
        rw [role] at allowed
        have sighted : phase.sight = .found := allowed
        cases helping : id.helper with
        | true =>
            rw [(tended.helped turn.task _ entry helping acts).1] at sighted
            cases sighted
        | false =>
            have present := tended.found turn.task _ entry helping role sighted ⟨_, found, fun ended => ended.elim⟩
            rw [present] at absent
            cases absent

-- A task is answered what it awaits.
structure Performs (platform : Platform) (requests : List (RequestContext × Request)) (persistent : Bool)
    (threadId : String)
    (pool : SightedPool) (census : List (TaskId × ThreadPhase)) (turn : Turn Api) (after : SightedPool)
    (id : TaskId) (op : ServerOp)
    (resume : Except ServerError op.Result → Coro Api Unit) (phase next : ThreadPhase) : Prop where
  found : pool.tasks[turn.task]? = some (id, .await op resume)
  entry : census[turn.task]? = some (id, phase)
  calm : turn.failure = none
  allowed : phase.allows (roleOf requests threadId id.request) persistent threadId op
  moves : next = phase.next (roleOf requests threadId id.request) persistent threadId op
    (pool.shared.1.perform platform persistent id op).2
  state : after.shared.1 = (pool.shared.1.perform platform persistent id op).1
  sights : after.shared.2 = observeSights persistent threadId id op
    (pool.shared.1.perform platform persistent id op).2 pool.shared.2
  tasks : after.tasks = pool.tasks.set turn.task (id, resume (pool.shared.1.perform platform persistent id op).2)

variable {after : SightedPool} {op : ServerOp} {resume : Except ServerError op.Result → Coro Api Unit}

theorem performs_effect (performs : Performs platform requests persistent threadId pool census turn after id op
    resume phase next) :
    ThreadEffect threadId pool.shared.1 after.shared.1 op := by
  rw [performs.state]
  exact thread_effect platform persistent id threadId op pool.shared.1

theorem performs_move (performs : Performs platform requests persistent threadId pool census turn after id op
    resume phase next) :
    LeaseMove (roleOf requests threadId id.request) threadId pool.shared.1 after.shared.1 phase.hold next.hold := by
  rw [performs.state, performs.moves]
  exact lease_move _ pool.shared.1 phase op performs.allowed

theorem performs_own (tended : Tended requests persistent threadId platform pool census)
    (performs : Performs platform requests persistent threadId pool census turn after id op resume phase next)
    (position : Nat) (one : TaskId × ThreadPhase)
    (listed : (census.set turn.task (id, next))[position]? = some one) (main : one.1.helper = false) :
    one.1.request = position ∧ one.2.hold ≠ .idle := by
  rcases set_entries _ _ _ _ _ listed with ⟨rfl, rfl⟩ | ⟨_, old⟩
  · obtain ⟨own, active⟩ := tended.own _ _ performs.entry main
    refine ⟨own, fun idle => active ?_⟩
    rw [performs.moves] at idle
    exact (hold_empty _ phase.hold _ (congrArg Hold.lease? idle)).symm.trans idle
  · exact tended.own position one old main

theorem performs_helped (tended : Tended requests persistent threadId platform pool census)
    (performs : Performs platform requests persistent threadId pool census turn after id op resume phase next)
    (position : Nat) (one : TaskId × ThreadPhase)
    (listed : (census.set turn.task (id, next))[position]? = some one) (helping : one.1.helper = true)
    (acts : roleOf requests threadId one.1.request ≠ .maker) :
    one.2.sight = .settled ∧ one.2.hold ≠ .waiting ∧ ∀ lease, ¬ one.2.hold.Holds lease := by
  rcases set_entries _ _ _ _ _ listed with ⟨rfl, rfl⟩ | ⟨_, old⟩
  · obtain ⟨settled, begun, free⟩ := tended.helped _ _ performs.entry helping acts
    refine ⟨?_, fun waiting => begun ?_, fun lease holds => ?_⟩
    · show next.sight = .settled
      rw [performs.moves]
      show phase.sight.next persistent threadId op _ = .settled
      rw [show phase.sight = .settled from settled]
      rfl
    · have waits : next.hold = .waiting := waiting
      rw [performs.moves] at waits
      exact (hold_empty _ phase.hold _ (congrArg Hold.lease? waits)).symm.trans waits
    · rcases lease_move_holds (performs_move performs) lease holds with held | waiting
      · exact free lease held
      · exact begun waiting
  · exact tended.helped position one old helping acts

theorem performs_brief (tended : Tended requests persistent threadId platform pool census)
    (performs : Performs platform requests persistent threadId pool census turn after id op resume phase next)
    (position : Nat) (one : TaskId)
    (program : Coro Api Unit) (task : after.tasks[position]? = some (one, program)) (helping : one.helper = true)
    (role : roleOf requests threadId one.request = .restorer) :
    (program = .ret () ∨ ∃ op, program = .await op (fun _ => .ret ())) ∧
      (position = turn.task → program = .ret ()) := by
  rw [performs.tasks] at task
  rcases set_entries _ _ _ _ _ task with ⟨rfl, same⟩ | ⟨apart, old⟩
  · cases same
    rcases tended.brief _ _ _ performs.found helping role with other | ⟨other, same⟩
    · cases other
    · cases same
      exact ⟨Or.inl rfl, fun _ => rfl⟩
  · exact ⟨tended.brief position one program old helping role, fun same => absurd same apart⟩

-- The ghost sees what the phase says.
theorem sight_before (sight : Sight) (answer : Except ServerError op.Result)
    (seen : sight.next persistent threadId op answer = .looking ∨ sight.next persistent threadId op answer = .found) :
    sight = .looking ∨ sight = .found := by
  cases sight with
  | looking => exact Or.inl rfl
  | found => exact Or.inr rfl
  | settled => rcases seen with other | other <;> cases other
  | failed cause => rcases seen with other | other <;> cases other

theorem performs_sights (tended : Tended requests persistent threadId platform pool census)
    (performs : Performs platform requests persistent threadId pool census turn after id op resume phase next)
    (position : Nat) (one : TaskId × ThreadPhase)
    (listed : (census.set turn.task (id, next))[position]? = some one) (main : one.1.helper = false)
    (role : roleOf requests threadId one.1.request = .restorer) :
    (one.2.sight = .looking → after.shared.2 position = .looking) ∧
    (one.2.sight = .found → after.shared.2 position = .found) := by
  rcases set_entries _ _ _ _ _ listed with ⟨rfl, rfl⟩ | ⟨apart, old⟩
  · have own := (tended.own _ _ performs.entry main).1
    obtain ⟨looking, found⟩ := tended.sights _ _ performs.entry main role
    have same : next.sight = .looking ∨ next.sight = .found → after.shared.2 turn.task = next.sight := by
      intro seen
      rw [performs.moves] at seen ⊢
      have ghost : pool.shared.2 turn.task = phase.sight := by
        rcases sight_before phase.sight _ seen with looks | finds
        · exact (looking looks).trans looks.symm
        · exact (found finds).trans finds.symm
      rw [performs.sights, observeSights, if_pos ⟨own.symm, main⟩, ghost]
      rfl
    exact ⟨fun looks => (same (Or.inl looks)).trans looks, fun finds => (same (Or.inr finds)).trans finds⟩
  · have kept : after.shared.2 position = pool.shared.2 position := by
      rw [performs.sights, observeSights, if_neg]
      rintro ⟨rfl, working⟩
      exact apart (tended.own _ _ performs.entry working).1
    rw [kept]
    exact tended.sights position one old main role

theorem performs_spares (performs : Performs platform requests persistent threadId pool census turn after id op
    resume phase next) (spares : SparesFound requests persistent threadId pool turn) (request : Nat)
    (restoring : Restoring requests threadId pool request)
    (present : pool.shared.1.threadExists persistent threadId = true) :
      after.shared.1.threadExists persistent threadId = true :=
  thread_stays (performs_effect performs) present
    (fun last => spares id op resume performs.found performs.calm last request restoring)

theorem tended_restoring (tended : Tended requests persistent threadId platform pool census) (position : Nat)
    (one : TaskId × ThreadPhase) (listed : census[position]? = some one) (main : one.1.helper = false)
    (role : roleOf requests threadId one.1.request = .restorer)
    (found : one.2.sight = .found) (going : ∃ program, pool.tasks[position]? = some (one.1, program) ∧
      ¬ program.Ended) :
    Restoring requests threadId pool position := by
  obtain ⟨⟨request, helper⟩, seen⟩ := one
  cases show helper = false from main
  cases show request = position from (tended.own _ _ listed rfl).1
  exact ⟨role, (tended.sights _ _ listed rfl role).2 found, going⟩

theorem performs_found (tended : Tended requests persistent threadId platform pool census)
    (performs : Performs platform requests persistent threadId pool census turn after id op resume phase next)
    (spares : SparesFound requests persistent threadId pool turn) (position : Nat) (one : TaskId × ThreadPhase)
    (listed : (census.set turn.task (id, next))[position]? = some one) (main : one.1.helper = false)
    (role : roleOf requests threadId one.1.request = .restorer) (found : one.2.sight = .found)
    (going : ∃ program, after.tasks[position]? = some (one.1, program) ∧ ¬ program.Ended) :
    after.shared.1.threadExists persistent threadId = true := by
  rcases set_entries _ _ _ _ _ listed with ⟨rfl, rfl⟩ | ⟨apart, old⟩
  · have seen : next.sight = .found := found
    rw [performs.moves] at seen
    rcases sight_found phase.sight pool.shared.1 seen with earlier | ⟨same, present⟩
    · have waits : ∃ program, pool.tasks[turn.task]? = some (id, program) ∧ ¬ program.Ended :=
        ⟨_, performs.found, fun ended => ended.elim⟩
      exact performs_spares performs spares _ (tended_restoring tended _ _ performs.entry main role earlier waits)
        (tended.found _ _ performs.entry main role earlier waits)
    · rw [performs.state, same]
      exact present
  · rw [performs.tasks, List.getElem?_set_ne (Ne.symm apart)] at going
    exact performs_spares performs spares _ (tended_restoring tended position one old main role found going)
      (tended.found position one old main role found going)

-- Only a deletion that holds the lease removes the record.
theorem removes_holding (op : ServerOp) (removes : op = .deleteThread threadId)
    (allowed : phase.allows (roleOf requests threadId id.request) persistent threadId op) :
    roleOf requests threadId id.request = .other ∧ ∃ lease, phase.hold.Holds lease ∧
      (persistent = true → phase.hold = .cleared lease) := by
  subst removes
  obtain ⟨role, holding⟩ := allowed
  rcases holding rfl with ⟨lease, cleared⟩ | ⟨missing, lease, held⟩
  · exact ⟨role, lease, Or.inr cleared, fun _ => cleared⟩
  · refine ⟨role, lease, Or.inl held, fun saves => ?_⟩
    rw [missing] at saves
    cases saves

theorem performs_recorded (tended : Tended requests persistent threadId platform pool census)
    (performs : Performs platform requests persistent threadId pool census turn after id op resume phase next)
    (position : Nat)
    (one : TaskId × ThreadPhase) (lease : RunLease) (listed : (census.set turn.task (id, next))[position]? = some one)
    (role : roleOf requests threadId one.1.request = .restorer) (settled : one.2.sight = .settled)
    (holds : one.2.hold.Holds lease) :
    (after.shared.1.store.getThread threadId).isSome = true := by
  have allowed := performs.allowed
  rcases set_entries _ _ _ _ _ listed with ⟨rfl, rfl⟩ | ⟨apart, old⟩
  · have seen : next.sight = .settled := settled
    have holding : next.hold.Holds lease := holds
    rw [performs.moves] at seen
    rcases sight_settled phase.sight pool.shared.1 seen with earlier | ⟨_, present⟩
    · have held : phase.hold.Holds lease := by
        rcases lease_move_holds (performs_move performs) lease holding with held | waiting
        · exact held
        · rw [performs.moves] at holding
          obtain ⟨query, mutation, rfl⟩ := hold_taken _ phase.hold _ lease waiting holding
          have finding := allowed.2 role
          rw [earlier] at finding
          cases finding
      refine recorded_kept (performs_effect performs) (fun removes => ?_)
        (tended.recorded _ _ lease performs.entry role earlier held)
      rw [show roleOf requests threadId id.request = .restorer from role] at allowed
      rw [removes] at allowed
      cases allowed.1
    · rw [performs.state]
      exact present
  · refine recorded_kept (performs_effect performs) (fun removes => ?_)
      (tended.recorded position one lease old role settled holds)
    obtain ⟨_, other, held, _⟩ := removes_holding op removes allowed
    exact apart (holder_alone tended.leased _ _ _ _ _ _ old performs.entry holds held)

theorem performs_left (tended : Tended requests persistent threadId platform pool census)
    (performs : Performs platform requests persistent threadId pool census turn after id op resume phase next)
    (awaits : AwaitsWrites requests threadId pool turn) (saves : persistent = true)
    (left : LeftWrite requests threadId after) :
    (after.shared.1.store.getThread threadId).isSome = true ∧ ∀ (position : Nat) one lease,
      (census.set turn.task (id, next))[position]? = some one → one.2.hold ≠ .cleared lease := by
  have earlier : LeftWrite requests threadId pool := by
    obtain ⟨position, one, config, item, rest, task, helping, role, thread⟩ := left
    refine ⟨position, one, config, item, rest, ?_, helping, role, thread⟩
    by_cases here : position = turn.task
    · cases (performs_brief tended performs position one _ task helping role).2 here
    · rw [performs.tasks, List.getElem?_set_ne (Ne.symm here)] at task
      exact task
  obtain ⟨recorded, none⟩ := tended.left saves earlier
  have allowed := performs.allowed
  refine ⟨recorded_kept (performs_effect performs) (fun removes => ?_) recorded,
    fun position one lease listed cleared => ?_⟩
  · obtain ⟨_, lease, _, cleared⟩ := removes_holding op removes allowed
    exact none _ _ lease performs.entry (cleared saves)
  · rcases set_entries _ _ _ _ _ listed with ⟨rfl, rfl⟩ | ⟨_, old⟩
    · have emptied : next.hold = .cleared lease := cleared
      rw [performs.moves] at emptied
      rcases hold_cleared _ phase.hold _ lease emptied with before | ⟨held, rfl⟩
      · exact none _ _ lease performs.entry before
      · cases helping : id.helper with
        | true =>
            have acts : roleOf requests threadId id.request ≠ .maker := fun maker => by
              rw [maker] at allowed
              cases allowed.1
            exact (tended.helped _ _ performs.entry helping acts).2.2 lease (Or.inl held)
        | false => exact awaits id resume performs.found helping performs.calm earlier
    · exact none position one lease old cleared

theorem tended_performed (tended : Tended requests persistent threadId platform pool census)
    (performs : Performs platform requests persistent threadId pool census turn after id op resume phase next)
    (spares : SparesFound requests persistent threadId pool turn) (awaits : AwaitsWrites requests threadId pool turn)
    (counts : (threadOrder platform persistent requests threadId).Counts
      (census.set turn.task (id, next)) after.tasks) :
    Tended requests persistent threadId platform after (census.set turn.task (id, next)) where
  counts := counts
  leased := leased_moved tended.leased performs.entry (performs_move performs)
  own := performs_own tended performs
  helped := performs_helped tended performs
  brief position one program task helping role :=
    (performs_brief tended performs position one program task helping role).1
  sights := performs_sights tended performs
  found := performs_found tended performs spares
  recorded := performs_recorded tended performs
  left := performs_left tended performs awaits

-- A task is interrupted or lets a generator go. What it leaves behind holds nothing.
structure Sheds (requests : List (RequestContext × Request)) (persistent : Bool) (threadId : String)
    (pool : SightedPool) (census : List (TaskId × ThreadPhase)) (turn : Turn Api) (after : SightedPool) (id : TaskId)
    (program rest : Coro Api Unit)
    (phase next : ThreadPhase) (leftovers : List (Coro Api Unit)) (phases : List ThreadPhase) : Prop where
  found : pool.tasks[turn.task]? = some (id, program)
  going : ¬ program.Ended
  entry : census[turn.task]? = some (id, phase)
  allowed : ∀ op resume, program = .await op resume → phase.allows (roleOf requests threadId id.request)
    persistent threadId op
  store : after.shared.1.store = pool.shared.1.store
  saved : after.shared.1.saved = pool.shared.1.saved
  coordinator : after.shared.1.coordinator = pool.shared.1.coordinator
  ghost : after.shared.2 = pool.shared.2
  tasks : after.tasks = pool.tasks.set turn.task (id, rest) ++ leftovers.map (fun left => (⟨id.request, true⟩, left))
  sight : next.sight = phase.sight ∨ (phase.sight = .looking ∧ ∃ cause, next.sight = .failed cause ∧
    (roleOf requests threadId id.request ≠ .maker → cause.isCancelled = true))
  hold : next.hold = phase.hold ∨ ∃ lease, phase.hold.lease? = some lease ∧ next.hold = .spent lease
  settled : roleOf requests threadId id.request ≠ .maker → ∀ left ∈ phases, left.sight = .settled ∧ left.hold ≠ .waiting
  free : ∀ left ∈ phases, (∀ lease, ¬ left.hold.Holds lease) ∧ ∀ lease, left.hold.lease? = some lease →
    phase.hold.lease? = some lease ∧ ∀ other, ¬ next.hold.Holds other
  ends : id.helper = true → roleOf requests threadId id.request = .restorer → rest = .ret ()
  brief : roleOf requests threadId id.request = .restorer → ∀ left ∈ leftovers,
    ∃ op resume, program = .await op resume ∧ left = .await op (fun _ => .ret ())

section Shedding

variable {program rest : Coro Api Unit} {leftovers : List (Coro Api Unit)} {phases : List ThreadPhase}

theorem sheds_holding (sheds : Sheds requests persistent threadId pool census turn after id program rest phase next
    leftovers phases) (lease : RunLease) (holds : next.hold.Holds lease) : next.hold = phase.hold := by
  rcases sheds.hold with same | ⟨spent, _, given⟩
  · exact same
  · rw [given] at holds
    exact absurd holds (spent_holds_nothing spent lease)

theorem sheds_entries (position : Nat) (one : TaskId × ThreadPhase)
    (listed : (census.set turn.task (id, next) ++ phases.map
      (fun phase => ((⟨id.request, true⟩ : TaskId), phase)))[position]? = some one) :
    (position = turn.task ∧ one = (id, next)) ∨ (position ≠ turn.task ∧ census[position]? = some one) ∨
      (one.1 = ⟨id.request, true⟩ ∧ one.2 ∈ phases) := by
  rcases replaced_entries _ _ _ _ _ _ listed with moved | old | ⟨_, new⟩
  · exact Or.inl moved
  · exact Or.inr (Or.inl old)
  · obtain ⟨left, member, rfl⟩ := List.mem_map.mp new
    exact Or.inr (Or.inr ⟨rfl, member⟩)

theorem sheds_latest (sheds : Sheds requests persistent threadId pool census turn after id program rest phase next
    leftovers phases) :
    after.shared.1.latest persistent threadId = pool.shared.1.latest persistent threadId := by
  refine latest_same_items ?_
  rw [ServerState.items, sheds.saved]
  rfl

theorem sheds_exists (sheds : Sheds requests persistent threadId pool census turn after id program rest phase next
    leftovers phases) :
    after.shared.1.threadExists persistent threadId = pool.shared.1.threadExists persistent threadId := by
  rw [ServerState.threadExists, ServerState.threadExists, sheds.store, sheds_latest sheds]

theorem sheds_leased (tended : Tended requests persistent threadId platform pool census)
    (sheds : Sheds requests persistent threadId pool census turn after id program rest phase next leftovers phases) :
    Leased requests threadId after.shared.1.coordinator
      (census.set turn.task (id, next) ++ phases.map (fun phase => ((⟨id.request, true⟩ : TaskId), phase))) := by
  rw [sheds.coordinator]
  refine leased_beside tended.leased sheds.entry _ ?_ (fun lease holds => ?_) (fun left listed => ?_)
  · rcases sheds.hold with same | ⟨lease, own, spent⟩
    · rw [same]
    · rw [spent, own]
      rfl
  · rwa [← sheds_holding sheds lease holds]
  · obtain ⟨left, member, rfl⟩ := List.mem_map.mp listed
    exact sheds.free left member

theorem sheds_own (tended : Tended requests persistent threadId platform pool census)
    (sheds : Sheds requests persistent threadId pool census turn after id program rest phase next leftovers phases)
    (position : Nat) (one : TaskId × ThreadPhase)
    (listed : (census.set turn.task (id, next) ++ phases.map
      (fun phase => ((⟨id.request, true⟩ : TaskId), phase)))[position]? = some one)
    (main : one.1.helper = false) : one.1.request = position ∧ one.2.hold ≠ .idle := by
  rcases sheds_entries position one listed with ⟨rfl, rfl⟩ | ⟨_, old⟩ | ⟨helper, _⟩
  · obtain ⟨own, active⟩ := tended.own _ _ sheds.entry main
    refine ⟨own, fun idle => ?_⟩
    rcases sheds.hold with same | ⟨lease, _, spent⟩
    · exact active (same.symm.trans idle)
    · rw [show next.hold = .idle from idle] at spent
      cases spent
  · exact tended.own position one old main
  · rw [helper] at main
    cases main

theorem sheds_helped (tended : Tended requests persistent threadId platform pool census)
    (sheds : Sheds requests persistent threadId pool census turn after id program rest phase next leftovers phases)
    (position : Nat) (one : TaskId × ThreadPhase)
    (listed : (census.set turn.task (id, next) ++ phases.map
      (fun phase => ((⟨id.request, true⟩ : TaskId), phase)))[position]? = some one)
    (helping : one.1.helper = true) (acts : roleOf requests threadId one.1.request ≠ .maker) :
    one.2.sight = .settled ∧ one.2.hold ≠ .waiting ∧ ∀ lease, ¬ one.2.hold.Holds lease := by
  rcases sheds_entries position one listed with ⟨rfl, rfl⟩ | ⟨_, old⟩ | ⟨helper, member⟩
  · obtain ⟨settled, begun, free⟩ := tended.helped _ _ sheds.entry helping acts
    refine ⟨?_, fun waiting => ?_, fun lease holds => ?_⟩
    · rcases sheds.sight with same | ⟨looking, _⟩
      · exact same.trans settled
      · rw [show phase.sight = .settled from settled] at looking
        cases looking
    · rcases sheds.hold with same | ⟨lease, _, spent⟩
      · exact begun (same.symm.trans waiting)
      · rw [show next.hold = .waiting from waiting] at spent
        cases spent
    · have holding : next.hold.Holds lease := holds
      rw [sheds_holding sheds lease holding] at holding
      exact free lease holding
  · exact tended.helped position one old helping acts
  · rw [helper] at acts
    obtain ⟨settled, begun⟩ := sheds.settled acts one.2 member
    exact ⟨settled, begun, (sheds.free one.2 member).1⟩

theorem sheds_tasks (sheds : Sheds requests persistent threadId pool census turn after id program rest phase next
    leftovers phases) (position : Nat) (one : TaskId × Coro Api Unit) (task : after.tasks[position]? = some one) :
    (position = turn.task ∧ one = (id, rest)) ∨ (position ≠ turn.task ∧ pool.tasks[position]? = some one) ∨
      (one.1 = ⟨id.request, true⟩ ∧ one.2 ∈ leftovers) := by
  rw [sheds.tasks] at task
  rcases replaced_entries _ _ _ _ _ _ task with moved | old | ⟨_, new⟩
  · exact Or.inl moved
  · exact Or.inr (Or.inl old)
  · obtain ⟨left, member, rfl⟩ := List.mem_map.mp new
    exact Or.inr (Or.inr ⟨rfl, member⟩)

theorem sheds_brief (tended : Tended requests persistent threadId platform pool census)
    (sheds : Sheds requests persistent threadId pool census turn after id program rest phase next leftovers phases)
    (position : Nat) (one : TaskId) (last : Coro Api Unit) (task : after.tasks[position]? = some (one, last))
    (helping : one.helper = true) (role : roleOf requests threadId one.request = .restorer) :
    last = .ret () ∨ ∃ op, last = .await op (fun _ => .ret ()) := by
  rcases sheds_tasks sheds position _ task with ⟨rfl, same⟩ | ⟨_, old⟩ | ⟨same, member⟩
  · cases same
    exact Or.inl (sheds.ends helping role)
  · exact tended.brief position one last old helping role
  · cases show one = ⟨id.request, true⟩ from same
    obtain ⟨op, _, _, same⟩ := sheds.brief role last member
    exact Or.inr ⟨op, same⟩

theorem sheds_sights (tended : Tended requests persistent threadId platform pool census)
    (sheds : Sheds requests persistent threadId pool census turn after id program rest phase next leftovers phases)
    (position : Nat) (one : TaskId × ThreadPhase)
    (listed : (census.set turn.task (id, next) ++ phases.map
      (fun phase => ((⟨id.request, true⟩ : TaskId), phase)))[position]? = some one)
    (main : one.1.helper = false) (role : roleOf requests threadId one.1.request = .restorer) :
    (one.2.sight = .looking → after.shared.2 position = .looking) ∧
    (one.2.sight = .found → after.shared.2 position = .found) := by
  rw [sheds.ghost]
  rcases sheds_entries position one listed with ⟨rfl, rfl⟩ | ⟨_, old⟩ | ⟨helper, _⟩
  · obtain ⟨looking, found⟩ := tended.sights _ _ sheds.entry main role
    rcases sheds.sight with same | ⟨_, cause, failed, _⟩
    · exact ⟨fun looks => looking (same.symm.trans looks), fun finds => found (same.symm.trans finds)⟩
    · refine ⟨fun looks => ?_, fun finds => ?_⟩
      · rw [show next.sight = .looking from looks] at failed
        cases failed
      · rw [show next.sight = .found from finds] at failed
        cases failed
  · exact tended.sights position one old main role
  · rw [helper] at main
    cases main

theorem sheds_found (tended : Tended requests persistent threadId platform pool census)
    (sheds : Sheds requests persistent threadId pool census turn after id program rest phase next leftovers phases)
    (position : Nat) (one : TaskId × ThreadPhase)
    (listed : (census.set turn.task (id, next) ++ phases.map
      (fun phase => ((⟨id.request, true⟩ : TaskId), phase)))[position]? = some one)
    (main : one.1.helper = false) (role : roleOf requests threadId one.1.request = .restorer)
    (found : one.2.sight = .found)
    (going : ∃ last, after.tasks[position]? = some (one.1, last) ∧ ¬ last.Ended) :
    after.shared.1.threadExists persistent threadId = true := by
  rw [sheds_exists sheds]
  rcases sheds_entries position one listed with ⟨rfl, rfl⟩ | ⟨apart, old⟩ | ⟨helper, _⟩
  · rcases sheds.sight with same | ⟨_, cause, failed, _⟩
    · exact tended.found _ _ sheds.entry main role (same.symm.trans found) ⟨program, sheds.found, sheds.going⟩
    · rw [show next.sight = .found from found] at failed
      cases failed
  · obtain ⟨last, task, further⟩ := going
    refine tended.found position one old main role found ⟨last, ?_, further⟩
    rcases sheds_tasks sheds position _ task with ⟨same, _⟩ | ⟨_, kept⟩ | ⟨helper, _⟩
    · exact absurd same apart
    · exact kept
    · rw [show one.1 = _ from helper] at main
      cases main
  · rw [helper] at main
    cases main

theorem sheds_recorded (tended : Tended requests persistent threadId platform pool census)
    (sheds : Sheds requests persistent threadId pool census turn after id program rest phase next leftovers phases)
    (position : Nat) (one : TaskId × ThreadPhase) (lease : RunLease)
    (listed : (census.set turn.task (id, next) ++ phases.map
      (fun phase => ((⟨id.request, true⟩ : TaskId), phase)))[position]? = some one)
    (role : roleOf requests threadId one.1.request = .restorer) (settled : one.2.sight = .settled)
    (holds : one.2.hold.Holds lease) :
    (after.shared.1.store.getThread threadId).isSome = true := by
  rw [sheds.store]
  rcases sheds_entries position one listed with ⟨rfl, rfl⟩ | ⟨_, old⟩ | ⟨_, member⟩
  · have holding : next.hold.Holds lease := holds
    rw [sheds_holding sheds lease holding] at holding
    rcases sheds.sight with same | ⟨_, cause, failed, _⟩
    · exact tended.recorded _ _ lease sheds.entry role (same.symm.trans settled) holding
    · rw [show next.sight = .settled from settled] at failed
      cases failed
  · exact tended.recorded position one lease old role settled holds
  · exact absurd holds ((sheds.free one.2 member).1 lease)

-- A write that is left behind was begun under the lease.
theorem sheds_left (tended : Tended requests persistent threadId platform pool census)
    (sheds : Sheds requests persistent threadId pool census turn after id program rest phase next leftovers phases)
    (saves : persistent = true) (left : LeftWrite requests threadId after) :
    (after.shared.1.store.getThread threadId).isSome = true ∧ ∀ (position : Nat) one lease,
      (census.set turn.task (id, next) ++ phases.map (fun phase => ((⟨id.request, true⟩ : TaskId), phase)))[position]?
        = some one → one.2.hold ≠ .cleared lease := by
  have before : (pool.shared.1.store.getThread threadId).isSome = true ∧ ∀ (position : Nat) one lease,
      census[position]? = some one → one.2.hold ≠ .cleared lease := by
    obtain ⟨position, one, config, item, resume, task, helping, role, thread⟩ := left
    rcases sheds_tasks sheds position _ task with ⟨_, same⟩ | ⟨_, old⟩ | ⟨same, member⟩
    · cases same
      cases sheds.ends helping role
    · exact tended.left saves ⟨position, one, config, item, resume, old, helping, role, thread⟩
    · cases show one = ⟨id.request, true⟩ from same
      obtain ⟨op, rest, waits, same⟩ := sheds.brief role _ member
      cases same
      have found := sheds.found
      rw [waits] at found
      cases working : id.helper with
      | true => exact tended.left saves ⟨turn.task, id, config, item, rest, found, working, role, thread⟩
      | false =>
          rcases sheds.allowed _ rest waits with maker | elsewhere | ⟨_, settled, idle | ⟨lease, held⟩⟩
          · rw [show roleOf requests threadId id.request = .restorer from role] at maker
            cases maker
          · exact absurd thread elsewhere
          · exact absurd idle (tended.own _ _ sheds.entry working).2
          · refine ⟨tended.recorded _ _ lease sheds.entry role settled (Or.inl held),
              fun other one given listed cleared => ?_⟩
            have same := holder_alone tended.leased _ _ _ _ _ _ listed sheds.entry (Or.inr cleared) (Or.inl held)
            rw [same, sheds.entry, Option.some.injEq] at listed
            rw [← listed, show phase.hold = .held lease from held] at cleared
            cases cleared
  rw [sheds.store]
  refine ⟨before.1, fun position one lease listed cleared => ?_⟩
  rcases sheds_entries position one listed with ⟨rfl, rfl⟩ | ⟨_, old⟩ | ⟨_, member⟩
  · have emptied : next.hold = .cleared lease := cleared
    rw [sheds_holding sheds lease (Or.inr emptied)] at emptied
    exact before.2 _ _ lease sheds.entry emptied
  · exact before.2 position one lease old cleared
  · exact (sheds.free one.2 member).1 lease (Or.inr cleared)

theorem tended_shed (tended : Tended requests persistent threadId platform pool census)
    (sheds : Sheds requests persistent threadId pool census turn after id program rest phase next leftovers phases)
    (counts : (threadOrder platform persistent requests threadId).Counts
      (census.set turn.task (id, next) ++ phases.map (fun phase => ((⟨id.request, true⟩ : TaskId), phase)))
        after.tasks) :
    Tended requests persistent threadId platform after
      (census.set turn.task (id, next) ++ phases.map (fun phase => ((⟨id.request, true⟩ : TaskId), phase))) where
  counts := counts
  leased := sheds_leased tended sheds
  own := sheds_own tended sheds
  helped := sheds_helped tended sheds
  brief := sheds_brief tended sheds
  sights := sheds_sights tended sheds
  found := sheds_found tended sheds
  recorded := sheds_recorded tended sheds
  left := sheds_left tended sheds

end Shedding

-- The phases in which an interrupted task leaves its workers.
def leftPhases : ServerOp → List ThreadPhase
  | .deleteCheckpoints _ => [⟨.settled, .idle⟩]
  | .aput _ _ => [⟨.settled, .idle⟩]
  | .release lease => [⟨.settled, .spent lease⟩]
  | _ => []

theorem left_follows (role : Role) (phase : ThreadPhase) (op : ServerOp)
    (allowed : phase.allows role persistent threadId op) :
    List.Forall₂ (fun left phase => (threadProtocol role persistent threadId).Follows .anything left
      (fun _ => (threadProtocol role persistent threadId).ends)
      (fun _ => (threadProtocol role persistent threadId).ends) phase)
      (leftover op) (leftPhases op) := by
  cases op with
  | deleteCheckpoints query =>
      exact List.Forall₂.cons ⟨⟨allowed.1, fun same => by cases same⟩, fun _ => ⟨trivial, fun _ => trivial⟩⟩
        List.Forall₂.nil
  | aput config item =>
      refine List.Forall₂.cons ⟨?_, fun _ => trivial⟩ List.Forall₂.nil
      rcases allowed with maker | elsewhere | ⟨restores, _, _⟩
      · exact Or.inl maker
      · exact Or.inr (Or.inl elsewhere)
      · exact Or.inr (Or.inr ⟨restores, rfl, Or.inl rfl⟩)
  | release lease => exact List.Forall₂.cons ⟨rfl, fun _ => trivial⟩ List.Forall₂.nil
  | _ => exact List.Forall₂.nil

theorem release_drops (role : Role) (hold : Hold) (lease other : RunLease) (answer : Except ServerError Unit) :
    ¬ (hold.next role threadId (.release lease) answer).Holds other := by
  intro holds
  cases hold <;> rcases holds with same | same <;> cases same

theorem interruptible_cancelled (one : TaskId) (op : ServerOp) (error : ServerError)
    (possible : ServerState.interruptible one op error = true) (quiet : ∀ message, op ≠ .send message) :
      error.isCancelled = true := by
  cases op
  case send message => exact absurd rfl (quiet message)
  case begin graphOf => cases possible
  case finish => cases possible
  case note entry => cases possible
  case deleteCheckpoints query => exact (Bool.and_eq_true_iff.mp possible).2
  all_goals exact possible

theorem struck_sheds (tended : Tended requests persistent threadId platform pool census) (error : ServerError)
    (found : pool.tasks[turn.task]? = some (id, .await op resume)) (entry : census[turn.task]? = some (id, phase))
    (failing : turn.failure = some error) (possible : ServerState.interruptible id op error = true)
    (allowed : phase.allows (roleOf requests threadId id.request) persistent threadId op) :
    Sheds requests persistent threadId pool census turn ((sightedServer platform persistent threadId).step pool turn) id
      (.await op resume) (resume (.error error)) phase
      (phase.next (roleOf requests threadId id.request) persistent threadId op (.error error)) (leftover op)
      (leftPhases op) := by
  rw [Machine.step_struck _ pool turn id op resume error found failing possible]
  obtain ⟨store, saved, coordinator, -⟩ := struck_frame id op error pool.shared.1
  have own : ∀ op' resume', (.await op resume : Coro Api Unit) = .await op' resume' → op' = op := by
    rintro _ _ same
    cases same
    rfl
  have cancelled : roleOf requests threadId id.request ≠ .maker → error.isCancelled = true := fun acts =>
    interruptible_cancelled id op error possible (fun message same => by rw [same] at allowed; exact acts allowed)
  refine ⟨found, fun ended => ended.elim, entry, ?_, store, saved, coordinator, rfl, rfl,
    (sight_error phase.sight error).imp_right (fun failed => ⟨failed.1, error, failed.2, cancelled⟩),
    hold_error _ phase.hold error, fun _ left member => ?_, fun left member => ?_, fun helping role => ?_,
      fun role left member => ?_⟩
  · rintro op' resume' same
    rw [own op' resume' same]
    exact allowed
  · cases op
    case deleteCheckpoints query =>
      cases List.mem_singleton.mp member
      exact ⟨rfl, fun same => by cases same⟩
    case aput config item =>
      cases List.mem_singleton.mp member
      exact ⟨rfl, fun same => by cases same⟩
    case release lease =>
      cases List.mem_singleton.mp member
      exact ⟨rfl, fun same => by cases same⟩
    all_goals cases member
  · have idle : (∀ lease, ¬ Hold.idle.Holds lease) := fun lease holds => by rcases holds with same | same <;> cases same
    cases op
    case deleteCheckpoints query =>
      cases List.mem_singleton.mp member
      exact ⟨idle, fun lease has => by cases has⟩
    case aput config item =>
      cases List.mem_singleton.mp member
      exact ⟨idle, fun lease has => by cases has⟩
    case release lease =>
      cases List.mem_singleton.mp member
      refine ⟨spent_holds_nothing lease, fun other has => ?_⟩
      cases has
      exact ⟨allowed, fun other => release_drops _ phase.hold _ other _⟩
    all_goals cases member
  · rcases tended.brief _ _ _ found helping role with other | ⟨_, same⟩
    · cases other
    · cases same
      rfl
  · cases op
    case deleteCheckpoints query =>
      rw [role] at allowed
      cases allowed.1
    case aput config item =>
      cases List.mem_singleton.mp member
      exact ⟨ServerOp.aput config item, resume, rfl, rfl⟩
    case release lease =>
      cases List.mem_singleton.mp member
      exact ⟨ServerOp.release lease, resume, rfl, rfl⟩
    all_goals cases member

theorem abandoned_sheds (tended : Tended requests persistent threadId platform pool census) (left rest : Coro Api Unit)
    (found : pool.tasks[turn.task]? = some (id, .abandon left rest)) (entry : census[turn.task]? = some (id, phase))
    (maker : roleOf requests threadId id.request = .maker) :
    Sheds requests persistent threadId pool census turn ((sightedServer platform persistent threadId).step pool turn) id
      (.abandon left rest) rest phase phase [left] [phase] := by
  rw [Machine.step_abandon _ pool turn id left rest found]
  refine ⟨found, fun ended => ended.elim, entry, fun op resume same => (by cases same), rfl, rfl, rfl, rfl, rfl,
    Or.inl rfl, Or.inl rfl, fun acts => absurd maker acts, fun one member => ?_, fun _ role => ?_, fun role => ?_⟩
  · have free : ∀ lease, ¬ phase.hold.Holds lease := fun lease holds =>
      (tended.leased.holds _ _ lease entry holds).1 maker
    cases List.mem_singleton.mp member
    exact ⟨free, fun lease has => ⟨has, free⟩⟩
  · rw [maker] at role
    cases role
  · rw [maker] at role
    cases role

-- What a turn was, and the census after it.
inductive TendedTurn (platform : Platform) (requests : List (RequestContext × Request)) (persistent : Bool)
    (threadId : String)
    (pool : SightedPool) (census : List (TaskId × ThreadPhase)) (turn : Turn Api) (after : SightedPool) :
    List (TaskId × ThreadPhase) → Prop where
  | idle (same : after = pool) : TendedTurn platform requests persistent threadId pool census turn after census
  | performed (id : TaskId) (op : ServerOp) (resume : Except ServerError op.Result → Coro Api Unit)
    (phase next : ThreadPhase)
      (performs : Performs platform requests persistent threadId pool census turn after id op resume phase next) :
      TendedTurn platform requests persistent threadId pool census turn after (census.set turn.task (id, next))
  | shed (id : TaskId) (program rest : Coro Api Unit) (phase next : ThreadPhase) (leftovers : List (Coro Api Unit))
      (phases : List ThreadPhase)
      (sheds : Sheds requests persistent threadId pool census turn after id program rest phase next leftovers phases) :
      TendedTurn platform requests persistent threadId pool census turn after
        (census.set turn.task (id, next) ++ phases.map (fun phase => ((⟨id.request, true⟩ : TaskId), phase)))

theorem tended_turn (tended : Tended requests persistent threadId platform pool census)
    (spares : SparesFound requests persistent threadId pool turn) (awaits : AwaitsWrites requests threadId pool turn) :
    ∃ later, TendedTurn platform requests persistent threadId pool census turn
        ((sightedServer platform persistent threadId).step pool turn) later ∧
      Tended requests persistent threadId platform ((sightedServer platform persistent threadId).step pool turn)
        later := by
  have turned := (threadOrder platform persistent requests threadId).turned pool census tended.counts turn
  cases turned with
  | idle same stuck =>
      refine ⟨census, .idle same, ?_⟩
      rw [same]
      exact tended
  | performed id op resume phase found entry calm allowed shared counts =>
      have step := Machine.step_await (sightedServer platform persistent threadId) pool turn id op resume found calm
      have performs : Performs platform requests persistent threadId pool census turn
          ((sightedServer platform persistent threadId).step pool turn) id op resume phase
          (phase.next (roleOf requests threadId id.request) persistent threadId op
            (pool.shared.1.perform platform persistent id op).2) :=
        ⟨found, entry, calm, allowed, rfl, by rw [step]; rfl, by rw [step]; rfl, by rw [step]; rfl⟩
      exact ⟨_, .performed id op resume phase _ performs, tended_performed tended performs spares awaits counts⟩
  | struck id op resume phase error found entry failing possible allowed shared counts =>
      have sheds := struck_sheds tended error found entry failing possible allowed
      exact ⟨_, .shed id _ _ phase _ _ _ sheds, tended_shed tended sheds (counts _ (left_follows _ phase op allowed))⟩
  | abandoned id left rest phase found entry shared counts =>
      obtain ⟨theirs, mine, ⟨maker, rfl, rfl⟩, counted⟩ := counts trivial
      have sheds := abandoned_sheds tended left rest found entry maker
      exact ⟨_, .shed id _ _ _ _ _ _ sheds, tended_shed tended sheds counted⟩

theorem turn_elsewhere {later : List (TaskId × ThreadPhase)}
    (turned : TendedTurn platform requests persistent threadId pool census turn after later) (position : Nat)
    (one : TaskId × ThreadPhase)
    (apart : position ≠ turn.task) (listed : census[position]? = some one) : later[position]? = some one := by
  cases turned with
  | idle same => exact listed
  | performed id op resume phase next performs => rwa [List.getElem?_set_ne (Ne.symm apart)]
  | shed id program rest phase next leftovers phases sheds =>
      have within := (List.getElem?_eq_some_iff.mp listed).1
      rw [List.getElem?_append_left (by rwa [List.length_set]), List.getElem?_set_ne (Ne.symm apart)]
      exact listed

end Turns

end Pool

end LangGraphServer
