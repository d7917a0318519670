import LangGraphServer.Lib.Census
import LangGraphServer.Server.Alone
import LangGraphServer.Server.Footprint

set_option autoImplicit false

namespace LangGraphServer

open Collections Coroutine

-- What a request knows of a thread: that it exists, and then that it has a record. A
-- request that fails before it knows never will.
inductive Sight where
  | looking
  | found
  | settled
  | failed (cause : ServerError)

def Sight.next (persistent : Bool) (threadId : String) : Sight → (op : ServerOp) → Except ServerError op.Result → Sight
  | .looking, .getThread query, .ok (some _) => if query = threadId then .found else .looking
  | .looking, .agetTuple lookup, .ok (some _) =>
      if persistent = true ∧ lookup = checkpointConfig threadId none "" then .found else .looking
  | .looking, _, .error cause => .failed cause
  | .found, .getThread query, .ok (some _) => if query = threadId then .settled else .found
  | .found, .putThread thread, .ok _ => if thread.threadId = threadId then .settled else .found
  | sight, _, _ => sight

-- Requests that make threads, those that write back the record of one that they have
-- found, and all others.
inductive Role where
  | maker
  | restorer
  | other
deriving DecidableEq

-- What a request has of the thread's lease, and how far a deletion under it has come. A
-- spent lease is one of another thread, of a run, or one that was given back; a worker
-- that was left behind has none.
inductive Hold where
  | waiting
  | idle
  | held (lease : RunLease)
  | cleared (lease : RunLease)
  | gone (lease : RunLease)
  | spent (lease : RunLease)

namespace Hold

def lease? : Hold → Option RunLease
  | .waiting => none
  | .idle => none
  | .held lease => some lease
  | .cleared lease => some lease
  | .gone lease => some lease
  | .spent lease => some lease

def next (role : Role) (threadId : String) : Hold → (op : ServerOp) → Except ServerError op.Result → Hold
  | .waiting, .acquire query _, .ok lease => if query = threadId ∧ role ≠ .maker then .held lease else .spent lease
  | .held lease, .deleteCheckpoints query, .ok _ => if query = threadId then .cleared lease else .held lease
  | .held lease, .deleteThread query, .ok _ => if query = threadId then .gone lease else .held lease
  | .cleared lease, .deleteThread query, .ok _ => if query = threadId then .gone lease else .cleared lease
  | .held lease, .release _, _ => .spent lease
  | .cleared lease, .release _, _ => .spent lease
  | hold, _, _ => hold

end Hold

structure ThreadPhase where
  sight : Sight
  hold : Hold

namespace ThreadPhase

variable (role : Role) (persistent : Bool) (threadId : String)

def allows (phase : ThreadPhase) : ServerOp → Prop
  | .putThread thread => match role with
      | .maker => True
      | .restorer => phase.sight = .found
      | .other => thread.threadId ≠ threadId
  | .claimAssistant _ _ => role = .restorer → phase.sight = .settled
  | .deleteThread query => role = .other ∧ (query = threadId →
      (∃ lease, phase.hold = .cleared lease) ∨ (persistent = false ∧ ∃ lease, phase.hold = .held lease))
  | .deleteCheckpoints _ => role = .other ∧ phase.hold ≠ .waiting
  | .aput config _ => role = .maker ∨ config.entry? "thread_id" ≠ some (.str threadId) ∨
      (role = .restorer ∧ phase.sight = .settled ∧ (phase.hold = .idle ∨ ∃ lease, phase.hold = .held lease))
  | .acquire _ _ => phase.hold = .waiting ∧ (role = .restorer → phase.sight = .found)
  | .release lease => phase.hold.lease? = some lease
  | .send _ => role = .maker
  | _ => True

def next (phase : ThreadPhase) (op : ServerOp) (answer : Except ServerError op.Result) : ThreadPhase :=
  ⟨phase.sight.next persistent threadId op answer, phase.hold.next role threadId op answer⟩

end ThreadPhase

def threadProtocol (role : Role) (persistent : Bool) (threadId : String) : Protocol Api ThreadPhase where
  allows := ThreadPhase.allows role persistent threadId
  next := ThreadPhase.next role persistent threadId
  lets _ := True
  splits phase theirs mine := role = .maker ∧ theirs = phase ∧ mine = phase
  ends _ := True

inductive Resolving (threadId : String) : ServerOp → Prop where
  | reads (op : ServerOp) (reads : Reads op) : Resolving threadId op
  | putThread (thread : Thread) (named : thread.threadId = threadId) : Resolving threadId (.putThread thread)

section Phases

variable (role : Role) (persistent : Bool) (threadId : String)

theorem reads_allowed (phase : ThreadPhase) (op : ServerOp) (reads : Reads op) :
    phase.allows role persistent threadId op := by
  cases reads <;> trivial

theorem plain_next (phase : ThreadPhase) (op : ServerOp) (plain : Plain op) (answer : Except ServerError op.Result) :
    phase.next role persistent threadId op answer = ⟨phase.sight.next persistent threadId op answer, phase.hold⟩ := by
  obtain ⟨sight, hold⟩ := phase
  cases plain <;> cases hold <;> rfl

end Phases

section Programs

variable (platform : Platform) (config : ServerConfig) (context : RequestContext) {persistent : Bool}
    {threadId : String}

theorem get_or_create_thread_resolves (query : String) (metadata : Option Metadata) :
    (getOrCreateThread platform config context (some query) metadata).Uses (Resolving query) := by
  have puts : ∀ thread answered : Thread, thread.threadId = query →
      (do perform (.putThread thread); pure answered : Coro Api Thread).Uses (Resolving query) :=
        fun thread answered named =>
    Coro.uses_bind (I := Api) _ _ _ (Coro.uses_perform (I := Api) _ _ (.putThread thread named)) (fun _ => trivial)
  refine Coro.uses_bind (I := Api) _ _ _ (Coro.uses_perform (I := Api) _ _ (.reads _ (.getThread query)))
    (fun existing => ?_)
  cases (existing : Option Thread) with
  | some thread => trivial
  | none =>
      dsimp only [threadFromCheckpoint]
      cases config.checkpointer with
      | none => exact puts _ _ rfl
      | some saver =>
          refine ⟨.reads _ (.agetTuple _), fun answer => ?_⟩
          cases answer with
          | error error => trivial
          | ok item =>
              cases (item : Option CheckpointItem) with
              | none => exact puts _ _ rfl
              | some item => exact puts _ _ rfl

theorem reads_resolve {α : Type} (query : String) (program : Coro Api α) (uses : program.Uses Reads) :
    program.Uses (Resolving query) :=
  Coro.uses_mono (I := Api) Reads _ (fun op reads => .reads op reads) program uses

theorem get_thread_resolves (query : String) : (getThread platform config context query).Uses (Resolving query) := by
  refine Coro.uses_bind (I := Api) _ _ _ (reads_resolve query _ (thread_exists_reads platform config context query))
    (fun exists_ => ?_)
  split
  · refine Coro.uses_bind (I := Api) _ _ _ (get_or_create_thread_resolves platform config context query none)
      (fun thread => ?_)
    refine Coro.uses_bind (I := Api) _ _ _
      (reads_resolve query _ (thread_from_checkpoint_reads platform config context query)) (fun found => ?_)
    split <;> trivial
  · trivial

theorem get_state_checkpoint_resolves (query : String) (checkpoint : Option CheckpointReference) :
    (getStateCheckpoint platform config context query checkpoint).Uses (Resolving query) := by
  refine Coro.uses_bind (I := Api) _ _ _ (reads_resolve query _ (require_checkpointer_reads config)) (fun _ => ?_)
  refine Coro.uses_bind (I := Api) _ _ _ (reads_resolve query _ (check_route_reads _ _ _)) (fun _ => ?_)
  refine Coro.uses_bind (I := Api) _ _ _ (reads_resolve query _ (thread_exists_reads platform config context query))
    (fun exists_ => ?_)
  split
  · refine Coro.uses_bind (I := Api) _ _ _ (get_or_create_thread_resolves platform config context query none)
      (fun _ => ?_)
    refine reads_resolve query _
      (Coro.uses_try_catch (I := Api) Reads _ _ (get_thread_state_reads platform context query _ _)
      (fun error => ?_))
    rw [lookupNotFound.eq_def]
    split <;> trivial
  · trivial

def Sighted (outcome : Except ServerError Bool) (phase : ThreadPhase) : Prop :=
  match outcome with
  | .ok true => phase = ⟨.found, .waiting⟩
  | .ok false => phase = ⟨.looking, .waiting⟩
  | .error cause => phase = ⟨.failed cause, .waiting⟩

theorem exists_sighted (exit : Post Api ThreadPhase Bool) :
    (threadProtocol .restorer config.checkpointer.isSome threadId).Follows .anything
    (threadExists platform config context threadId) Sighted exit
      ⟨.looking, .waiting⟩ := by
  refine ⟨trivial, fun answer => ?_⟩
  cases answer with
  | error cause => exact (rfl : (⟨.failed cause, .waiting⟩ : ThreadPhase) = _)
  | ok existing =>
      cases (existing : Option Thread) with
      | some existing => exact congrArg (fun sight => (⟨sight, .waiting⟩ : ThreadPhase)) (if_pos rfl)
      | none =>
          dsimp only [threadFromCheckpoint]
          cases config.checkpointer with
          | none => exact (rfl : (⟨.looking, .waiting⟩ : ThreadPhase) = _)
          | some saver =>
              refine ⟨trivial, fun answer => ?_⟩
              cases answer with
              | error cause => exact (rfl : (⟨.failed cause, .waiting⟩ : ThreadPhase) = _)
              | ok item =>
                  cases (item : Option CheckpointItem) with
                  | none => exact (rfl : (⟨.looking, .waiting⟩ : ThreadPhase) = _)
                  | some item => exact congrArg (fun sight => (⟨sight, .waiting⟩ : ThreadPhase)) (if_pos ⟨rfl, rfl⟩)

def Restored (hold : Hold) (outcome : Except ServerError Thread) (phase : ThreadPhase) : Prop :=
  match outcome with
  | .ok _ => phase = ⟨.settled, hold⟩
  | .error _ => phase = ⟨.found, hold⟩

theorem put_restored (hold : Hold) (thread answered : Thread) (named : thread.threadId = threadId)
    (exit : Post Api ThreadPhase Thread) :
    (threadProtocol .restorer persistent threadId).Follows .anything
      (do perform (.putThread thread); pure answered : Coro Api Thread) (Restored hold) exit ⟨.found, hold⟩ := by
  refine ⟨rfl, fun answer => ?_⟩
  rw [show (threadProtocol .restorer persistent threadId).next = ThreadPhase.next .restorer persistent
    threadId from rfl, plain_next _ _ _ _ _ (.putThread thread)]
  cases answer with
  | error cause => exact (rfl : (⟨.found, hold⟩ : ThreadPhase) = _)
  | ok value => exact congrArg (fun sight => (⟨sight, hold⟩ : ThreadPhase)) (if_pos named)

theorem get_or_create_restored (hold : Hold) (exit : Post Api ThreadPhase Thread) :
    (threadProtocol .restorer persistent threadId).Follows .anything
      (getOrCreateThread platform config context (some threadId) none) (Restored hold) exit ⟨.found, hold⟩ := by
  refine ⟨trivial, fun answer => ?_⟩
  rw [show (threadProtocol .restorer persistent threadId).next = ThreadPhase.next .restorer persistent
    threadId from rfl, plain_next _ _ _ _ _ (.getThread _)]
  cases answer with
  | error cause => exact (rfl : (⟨.found, hold⟩ : ThreadPhase) = _)
  | ok existing =>
      cases (existing : Option Thread) with
      | some existing => exact congrArg (fun sight => (⟨sight, hold⟩ : ThreadPhase)) (if_pos rfl)
      | none =>
          dsimp only [threadFromCheckpoint]
          cases config.checkpointer with
          | none => exact put_restored hold _ _ (by rfl) exit
          | some saver =>
              refine ⟨trivial, fun answer => ?_⟩
              rw [show (threadProtocol .restorer persistent threadId).next = ThreadPhase.next .restorer persistent
                threadId from rfl, plain_next _ _ _ _ _ (.agetTuple _)]
              cases answer with
              | error cause => exact (rfl : (⟨.found, hold⟩ : ThreadPhase) = _)
              | ok item =>
                  cases (item : Option CheckpointItem) with
                  | none => exact put_restored hold _ _ (by rfl) exit
                  | some item => exact put_restored hold _ _ (by rfl) exit

-- What a request ends with that looks for the thread: without having seen it, it answers 404.
def Told {α : Type} (threadId : String) (outcome : Except ServerError α) (phase : ThreadPhase) : Prop :=
  match phase.sight with
  | .looking => outcome = .error (.http 404 ("Thread " ++ threadId ++ " not found"))
  | .failed cause => outcome = .error cause
  | _ => True

theorem resolves_follows {α : Type} (query : String) (apart : query ≠ threadId) (program : Coro Api α)
    (uses : program.Uses (Resolving query)) (phase : ThreadPhase) (post exit : Post Api ThreadPhase α)
    (posts : ∀ outcome reached, post outcome reached) :
    (threadProtocol .other persistent threadId).Follows .anything program post exit phase := by
  refine Protocol.follows_uses _ _ (Resolving query) (fun _ => True)
    (fun reached op _ resolves => ⟨?_, fun _ => trivial⟩) program phase
    trivial uses post exit (fun outcome reached _ => posts outcome reached)
  cases resolves with
  | reads op reads => exact reads_allowed .other persistent threadId reached op reads
  | putThread thread named =>
      intro same
      exact apart (named.symm.trans same)

theorem reads_follow {α : Type} (role : Role) (program : Coro Api α) (uses : program.Uses Reads) (phase : ThreadPhase)
    (post exit : Post Api ThreadPhase α) (kind : ThreadPhase → Prop)
    (stays : ∀ reached op answer, kind reached → Reads op → kind (reached.next role persistent threadId op answer))
    (held : kind phase)
    (posts : ∀ outcome reached, kind reached → post outcome reached) :
    (threadProtocol role persistent threadId).Follows .anything program post exit phase :=
  Protocol.follows_uses _ _ Reads kind (fun reached op held reads =>
    ⟨reads_allowed role persistent threadId reached op reads, fun answer => stays reached op answer held reads⟩)
    program phase held uses post exit posts

theorem settled_reads (reached : ThreadPhase) (op : ServerOp) (answer : Except ServerError op.Result) (hold : Hold)
    (settled : reached = ⟨.settled, hold⟩) (reads : Reads op) : reached.next .restorer persistent threadId op answer =
      ⟨.settled, hold⟩ := by
  rw [settled, plain_next _ _ _ _ op (reads_plain op reads)]
  cases reads <;> rfl

theorem get_thread_told (exit : Post Api ThreadPhase Thread) :
    (threadProtocol .restorer config.checkpointer.isSome threadId).Follows .anything
    (getThread platform config context threadId) (Told threadId)
      exit ⟨.looking, .waiting⟩ := by
  refine Protocol.follows_bind _ _ _ _ _ _ _ ?_
  refine Protocol.follows_mono _ _ _ _ _ _ _ _ (fun outcome phase sighted => ?_) (fun outcome phase gone => gone.elim)
    (exists_sighted platform config context (fun _ _ => False))
  cases outcome with
  | error cause =>
      rw [show phase = _ from sighted]
      rfl
  | ok exists_ =>
      cases exists_ with
      | false =>
          rw [show phase = _ from sighted]
          rfl
      | true =>
          rw [show phase = _ from sighted]
          refine Protocol.follows_bind _ _ _ _ _ _ _ ?_
          refine Protocol.follows_mono _ _ _ _ _ _ _ _ (fun outcome phase restored => ?_)
            (fun outcome phase gone => gone.elim)
            (get_or_create_restored platform config context .waiting (fun _ _ => False))
          cases outcome with
          | error cause =>
              rw [show phase = _ from restored]
              trivial
          | ok thread =>
              refine reads_follow .restorer _ ?_ phase _ _ (fun reached => reached = ⟨.settled, .waiting⟩)
                (fun reached op answer settled reads => settled_reads reached op answer .waiting settled reads)
                  restored ?_
              · refine Coro.uses_bind (I := Api) Reads _ _
                  (thread_from_checkpoint_reads platform config context threadId) (fun found => ?_)
                cases found <;> trivial
              · rintro outcome _ rfl
                trivial

theorem checks_follow {α : Type} (role : Role) (program : Coro Api α) (uses : program.Uses (fun _ => False))
    (phase : ThreadPhase) (post exit : Post Api ThreadPhase α) (posts : ∀ outcome, post outcome phase) :
    (threadProtocol role persistent threadId).Follows .anything program post exit phase := by
  refine Protocol.follows_uses _ _ _ (fun reached => reached = phase) (fun _ _ _ none => none.elim) program phase rfl
    uses post exit ?_
  rintro outcome _ rfl
  exact posts outcome

theorem require_checkpointer_checks : (requireCheckpointer config).Uses (fun _ => False) := by
  rw [requireCheckpointer]
  split <;> trivial

theorem check_route_checks (reference : Option CheckpointReference) (query detail : String) :
    (checkRoute reference query detail).Uses (fun _ => False) := by
  rw [checkRoute]
  split <;> trivial

theorem get_state_checkpoint_follows (checkpoint : Option CheckpointReference)
    (post exit : Post Api ThreadPhase ThreadState)
    (posts : ∀ outcome reached, post outcome reached) :
    (threadProtocol .restorer config.checkpointer.isSome threadId).Follows .anything
      (getStateCheckpoint platform config context threadId checkpoint) post exit ⟨.looking, .waiting⟩ := by
  refine Protocol.follows_bind _ _ _ _ _ _ _ (checks_follow .restorer _ (require_checkpointer_checks config) _ _ _
    (fun outcome => ?_))
  cases outcome with
  | error error => exact posts _ _
  | ok required =>
      refine Protocol.follows_bind _ _ _ _ _ _ _ (checks_follow .restorer _ (check_route_checks _ _ _) _ _ _
        (fun outcome => ?_))
      cases outcome with
      | error error => exact posts _ _
      | ok routed =>
          refine Protocol.follows_bind _ _ _ _ _ _ _ ?_
          refine Protocol.follows_mono _ _ _ _ _ _ _ _ (fun outcome phase sighted => ?_)
            (fun outcome phase gone => gone.elim) (exists_sighted platform config context (fun _ _ => False))
          cases outcome with
          | error cause => exact posts _ _
          | ok exists_ =>
              cases exists_ with
              | false => exact posts _ _
              | true =>
                  rw [show phase = _ from sighted]
                  refine Protocol.follows_bind _ _ _ _ _ _ _ ?_
                  refine Protocol.follows_mono _ _ _ _ _ _ _ _ (fun outcome phase restored => ?_)
                    (fun outcome phase gone => gone.elim)
                    (get_or_create_restored platform config context .waiting (fun _ _ => False))
                  cases outcome with
                  | error cause => exact posts _ _
                  | ok thread =>
                      refine reads_follow .restorer _ ?_ phase _ _ (fun _ => True) (fun _ _ _ _ _ => trivial) trivial
                        (fun outcome reached _ => posts outcome reached)
                      refine Coro.uses_try_catch (I := Api) Reads _ _
                        (get_thread_state_reads platform context threadId _ _)
                        (fun error => ?_)
                      rw [lookupNotFound.eq_def]
                      split <;> trivial

inductive UpdateSteps (threadId : String) : ServerOp → Prop where
  | owning (op : ServerOp) (owning : Owning op) : UpdateSteps threadId op
  | graph (op : ServerOp) (steps : GraphSteps threadId op) : UpdateSteps threadId op

theorem with_timeout_uses {α : Type} (allowed : ServerOp → Prop) (seconds : Option Rat) (program : Coro Api α)
    (uses : program.Uses allowed) : (withTimeout seconds program).Uses allowed := by
  cases seconds with
  | none => exact uses
  | some seconds =>
      refine Coro.uses_try_catch (I := Api) _ _ _ uses (fun error => ?_)
      split <;> trivial

-- A request for the thread restores its record, one for another thread does not.
def Suits (role : Role) (query threadId : String) : Prop :=
  (role = .restorer ∧ query = threadId) ∨ (role = .other ∧ query ≠ threadId)

def grasped (query threadId : String) (lease : RunLease) : Hold :=
    if query = threadId then .held lease else .spent lease

theorem grasped_lease (query threadId : String) (lease : RunLease) :
    (grasped query threadId lease).lease? = some lease := by
  rw [grasped]
  split <;> rfl

structure HasFound (role : Role) (hold : Hold) (phase : ThreadPhase) : Prop where
  hold : phase.hold = hold
  found : role = .restorer → phase.sight = .found

structure HasSettled (role : Role) (hold : Hold) (phase : ThreadPhase) : Prop where
  hold : phase.hold = hold
  settled : role = .restorer → phase.sight = .settled

theorem exists_looked (role : Role) (query : String) (suits : Suits role query threadId)
    (exit : Post Api ThreadPhase Bool) :
    (threadProtocol role config.checkpointer.isSome threadId).Follows .anything
    (threadExists platform config context query)
      (fun outcome reached => outcome = .ok true → HasFound role .waiting reached) exit ⟨.looking, .waiting⟩ := by
  rcases suits with ⟨rfl, rfl⟩ | ⟨rfl, apart⟩
  · refine Protocol.follows_mono _ _ _ _ _ _ _ _ (fun outcome phase sighted => ?_) (fun outcome phase gone => gone.elim)
      (exists_sighted platform config context (fun _ _ => False))
    rintro rfl
    rw [show phase = _ from sighted]
    exact ⟨rfl, fun _ => rfl⟩
  · refine reads_follow .other _ (thread_exists_reads platform config context query) _ _ _
      (fun reached => reached.hold = .waiting)
      (fun reached op answer held reads => ?_) rfl (fun outcome reached held _ => ⟨held, fun other => by cases other⟩)
    rw [plain_next _ _ _ _ op (reads_plain op reads)]
    exact held

theorem get_or_create_working (role : Role) (query : String) (suits : Suits role query threadId) (hold : Hold)
    (phase : ThreadPhase) (looked : HasFound role hold phase) (exit : Post Api ThreadPhase Thread) :
    (threadProtocol role persistent threadId).Follows .anything
      (getOrCreateThread platform config context (some query) none) (fun outcome reached => match outcome with
        | .ok _ => HasSettled role hold reached
        | .error _ => reached.hold = hold) exit phase := by
  obtain ⟨sight, given⟩ := phase
  obtain ⟨same, found⟩ := looked
  cases same
  rcases suits with ⟨rfl, rfl⟩ | ⟨rfl, apart⟩
  · rw [show sight = .found from found rfl]
    refine Protocol.follows_mono _ _ _ _ _ _ _ _ (fun outcome phase restored => ?_)
      (fun outcome phase gone => gone.elim) (get_or_create_restored platform config context given (fun _ _ => False))
    cases outcome with
    | error cause =>
        rw [show phase = _ from restored]
    | ok thread =>
        rw [show phase = _ from restored]
        exact ⟨rfl, fun _ => rfl⟩
  · refine Protocol.follows_uses _ _ (Resolving query) (fun reached => reached.hold = given)
      (fun reached op held resolves => ?_) _ _ rfl
      (get_or_create_thread_resolves platform config context query none) _ _ (fun outcome reached held => ?_)
    · cases resolves with
      | reads op reads =>
          refine ⟨reads_allowed .other persistent threadId reached op reads, fun answer => ?_⟩
          exact (congrArg ThreadPhase.hold (plain_next .other persistent threadId reached op (reads_plain op reads)
            answer)).trans held
      | putThread thread named =>
          refine ⟨fun same => apart (named.symm.trans same), fun answer => ?_⟩
          exact (congrArg ThreadPhase.hold (plain_next .other persistent threadId reached _ (.putThread thread)
            answer)).trans held
    · cases outcome with
      | error cause => exact held
      | ok thread => exact ⟨held, fun other => by cases other⟩

theorem update_steps_stay (role : Role) (query : String) (suits : Suits role query threadId) (lease : RunLease)
    (phase : ThreadPhase)
    (op : ServerOp) (working : HasSettled role (grasped query threadId lease) phase) (steps : UpdateSteps query op) :
    phase.allows role persistent threadId op ∧
      ∀ answer, HasSettled role (grasped query threadId lease) (phase.next role persistent threadId op answer) := by
  obtain ⟨sight, hold⟩ := phase
  obtain ⟨same, settled⟩ := working
  cases same
  have quiet : ∀ answer, (grasped query threadId lease).next role threadId op answer =
    grasped query threadId lease := by
    intro answer
    rw [grasped]
    split
    · cases steps with
      | owning owning => cases owning with
        | reads op reads => cases reads <;> rfl
        | claimAssistant threadId assistantId => rfl
      | graph steps => cases steps <;> rfl
    · cases steps with
      | owning owning => cases owning with
        | reads op reads => cases reads <;> rfl
        | claimAssistant threadId assistantId => rfl
      | graph steps => cases steps <;> rfl
  refine ⟨?_, fun answer => ⟨quiet answer, fun restores => ?_⟩⟩
  · cases steps with
    | owning owning => cases owning with
      | reads op reads => exact reads_allowed role persistent threadId _ op reads
      | claimAssistant query assistantId => exact settled
    | graph steps => cases steps with
      | begin graphOf => trivial
      | finish => trivial
      | suspend => trivial
      | aput runnableConfig item thread =>
          refine Or.inr ?_
          rcases suits with ⟨rfl, rfl⟩ | ⟨rfl, apart⟩
          · exact Or.inr ⟨rfl, settled rfl, Or.inr ⟨lease, if_pos rfl⟩⟩
          · refine Or.inl (fun here => apart ?_)
            rw [thread] at here
            cases here
            rfl
  · show sight.next persistent threadId op answer = .settled
    rw [show sight = .settled from settled restores]
    rfl

theorem update_under_lease_follows (role : Role) (query : String) (suits : Suits role query threadId) (lease : RunLease)
    (request : StateUpdate) (phase : ThreadPhase) (looked : HasFound role (grasped query threadId lease) phase)
    (exit : Post Api ThreadPhase PyObj) :
    (threadProtocol role persistent threadId).Follows .anything (updateUnderLease platform config context query request)
      (fun _ reached => reached.hold = grasped query threadId lease) exit phase := by
  refine Protocol.follows_bind _ _ _ _ _ _ _ ?_
  refine Protocol.follows_mono _ _ _ _ _ _ _ _ (fun outcome phase resolved => ?_) (fun outcome phase gone => gone.elim)
    (get_or_create_working platform config context role query suits _ phase looked (fun _ _ => False))
  cases outcome with
  | error cause => exact resolved
  | ok thread =>
      refine Protocol.follows_uses _ _ (UpdateSteps query) (HasSettled role (grasped query threadId lease))
        (fun reached op working steps => update_steps_stay role query suits lease reached op working steps) _
          phase resolved ?_ _ _
        (fun outcome reached working => working.hold)
      refine Coro.uses_bind (I := Api) _ _ _ (Coro.uses_mono (I := Api) Owning _ (fun op owning => .owning op owning) _
        (get_thread_assistant_id_owning config query)) (fun owner => ?_)
      split
      · trivial
      · rename_i assistantId
        split
        · trivial
        · refine Coro.uses_bind (I := Api) _ _ _ (Coro.uses_of_except (I := Api) _ _) (fun graph => ?_)
          split
          · trivial
          · refine Coro.uses_try_catch (I := Api) _ _ _ (with_timeout_uses _ _ _ ?_) (fun error => ?_)
            · refine Coro.uses_mono (I := Api) (GraphSteps query) _ (fun op steps => .graph op steps) _
                (mutating_uses _ _ (graph_steps_allowed _ _ ?_) _ (GraphCall.writes_any _))
              have marks := fun checkpointId => build_runnable_config_marks query assistantId none checkpointId
              cases request.checkpoint with
              | none => exact (marks _).thread
              | some checkpoint => exact (set_checkpoint_ns_marks _ _ query assistantId (marks _)).thread
            · split <;> trivial

theorem lease_finally_follows {α : Type} (role : Role) (program : Coro Api α) (lease : RunLease) (phase : ThreadPhase)
    (post exit : Post Api ThreadPhase α)
    (follows : (threadProtocol role persistent threadId).Follows .anything program
      (fun outcome reached => reached.hold.lease? = some lease ∧ ∀ answer,
        post outcome (reached.next role persistent threadId (.release lease) answer) ∧
          ∀ error, post (.error error) (reached.next role persistent threadId (.release lease) answer))
            (fun _ _ => False) phase) :
    (threadProtocol role persistent threadId).Follows .anything (program.tryFinally (perform (.release lease))) post
      exit phase := by
  refine Protocol.follows_handle _ _ _ _ _ _ _ ?_
  refine Protocol.follows_mono _ _ _ _ _ _ _ _ (fun outcome reached held => ?_)
    (fun outcome reached gone => gone.elim) follows
  refine ⟨held.1, fun answer => ?_⟩
  cases answer with
  | error error => exact (held.2 (.error error)).2 error
  | ok value => cases outcome <;> exact (held.2 (.ok value)).1

theorem acquire_follows (role : Role) (query : String) (mutation : Mutation) (phase : ThreadPhase)
    (looked : HasFound role .waiting phase) (other : role ≠ .maker) (post exit : Post Api ThreadPhase RunLease)
    (taken : ∀ lease reached, HasFound role (grasped query threadId lease) reached → post (.ok lease) reached)
    (refused : ∀ error reached, reached.hold = .waiting → post (.error error) reached) :
    (threadProtocol role persistent threadId).Follows .anything (acquireMutationLease query mutation) post
      exit phase := by
  obtain ⟨sight, hold⟩ := phase
  obtain ⟨same, found⟩ := looked
  cases same
  refine ⟨⟨rfl, found⟩, fun answer => ?_⟩
  cases answer with
  | error error => cases error <;> exact refused _ _ rfl
  | ok lease =>
      refine taken lease _ ⟨?_, fun restores => ?_⟩
      · show (if query = threadId ∧ role ≠ .maker then Hold.held lease else .spent lease) = _
        rw [grasped]
        by_cases same : query = threadId
        · rw [if_pos ⟨same, other⟩, if_pos same]
        · rw [if_neg (fun both => same both.1), if_neg same]
      · show sight.next persistent threadId (.acquire query mutation) (.ok lease) = .found
        rw [show sight = .found from found restores]
        rfl

theorem update_state_follows (role : Role) (query : String) (suits : Suits role query threadId) (request : StateUpdate)
    (post exit : Post Api ThreadPhase CheckpointReference) (posts : ∀ outcome reached, post outcome reached) :
    (threadProtocol role config.checkpointer.isSome threadId).Follows .anything
    (updateState platform config context query request) post exit
      ⟨.looking, .waiting⟩ := by
  have acts : role ≠ .maker := by
    rcases suits with ⟨rfl, _⟩ | ⟨rfl, _⟩
    · exact fun same => by cases same
    · exact fun same => by cases same
  rw [updateState]
  split
  · exact posts _ _
  · next saver present =>
      refine Protocol.follows_bind _ _ _ _ _ _ _ ?_
      refine Protocol.follows_mono _ _ _ _ _ _ _ _ (fun outcome phase looked => ?_)
        (fun outcome phase gone => gone.elim)
        (exists_looked platform config context role query suits (fun _ _ => False))
      cases outcome with
      | error cause => exact posts _ _
      | ok exists_ =>
          cases exists_ with
          | false => exact posts _ _
          | true =>
              refine Protocol.follows_bind _ _ _ _ _ _ _ (acquire_follows role query .update phase (looked rfl) acts _ _
                (fun lease reached begun => ?_) (fun error reached _ => posts _ _))
              refine Protocol.follows_bind _ _ _ _ _ _ _ (lease_finally_follows role _ lease reached _ _ ?_)
              refine Protocol.follows_mono _ _ _ _ _ _ _ _
                (fun outcome reached held => ⟨?_, fun answer => ⟨?_, fun error => ?_⟩⟩)
                (fun outcome phase gone => gone.elim)
                (update_under_lease_follows platform config context role query suits lease request reached begun
                  (fun _ _ => False))
              · rw [held]
                exact grasped_lease query threadId lease
              · cases outcome with
                | error error => exact posts _ _
                | ok result =>
                    exact checks_follow role _ (Coro.uses_of_except (I := Api) _ _) _ _ _ (fun _ => posts _ _)
              · exact posts _ _

inductive DeleteSteps (threadId : String) : ServerOp → Prop where
  | begin (graphOf : Option String) : DeleteSteps threadId (.begin graphOf)
  | deleteCheckpoints : DeleteSteps threadId (.deleteCheckpoints threadId)
  | finish : DeleteSteps threadId .finish
  | suspend : DeleteSteps threadId .suspend
  | deleteThread : DeleteSteps threadId (.deleteThread threadId)

theorem adelete_thread_uses (query : String) : (adeleteThread config query).Uses (DeleteSteps query) := by
  rw [adeleteThread]
  split
  · trivial
  · split
    · refine Coro.uses_bind (I := Api) _ _ _ (Coro.uses_perform (I := Api) _ _ (.begin none)) (fun _ => ?_)
      refine Coro.uses_bind (I := Api) _ _ _ (Coro.uses_perform (I := Api) _ _ .deleteCheckpoints) (fun _ => ?_)
      refine Coro.uses_bind (I := Api) _ _ _ (Coro.uses_perform (I := Api) _ _ .finish) (fun _ => ?_)
      exact Coro.uses_perform (I := Api) _ _ .suspend
    · trivial

theorem delete_under_lease_uses (query : String) : (deleteUnderLease config query).Uses (DeleteSteps query) := by
  refine Coro.uses_bind (I := Api) _ _ _
    (Coro.uses_try_catch (I := Api) _ _ _ (with_timeout_uses _ _ _ (adelete_thread_uses config query))
    (fun error => ?_)) (fun _ => Coro.uses_perform (I := Api) _ _ .deleteThread)
  split <;> trivial

-- How far the deletion is when its worker has answered, and when the handler is done with it.
def WorkerDone (persistent : Bool) (lease : RunLease) (outcome : Except ServerError Unit)
    (phase : ThreadPhase) : Prop :=
  match outcome with
  | .ok () => phase.hold = .cleared lease ∨ (persistent = false ∧ phase.hold = .held lease)
  | .error _ => phase.hold = .cleared lease ∨ phase.hold = .held lease

def HandlerDone (lease : RunLease) (outcome : Except ServerError Unit) (phase : ThreadPhase) : Prop :=
  match outcome with
  | .ok () => phase.hold = .gone lease
  | .error _ => phase.hold = .cleared lease ∨ phase.hold = .held lease

theorem adelete_thread_follows (lease : RunLease) (sight : Sight) (exit : Post Api ThreadPhase Unit) :
    (threadProtocol .other config.checkpointer.isSome threadId).Follows .anything (adeleteThread config threadId)
      (WorkerDone config.checkpointer.isSome lease) exit ⟨sight, .held lease⟩ := by
  rw [adeleteThread]
  cases config.checkpointer with
  | none => exact Or.inr ⟨rfl, rfl⟩
  | some saver =>
      dsimp only
      split
      · refine ⟨trivial, fun answer => ?_⟩
        cases answer with
        | error error => exact Or.inr rfl
        | ok begun =>
            refine ⟨⟨rfl, fun same => by cases same⟩, fun answer => ?_⟩
            cases answer with
            | error error => exact Or.inr rfl
            | ok cleared =>
                have emptied : Hold.next .other threadId (.held lease) (.deleteCheckpoints threadId)
                  (.ok ()) = .cleared lease :=
                  if_pos rfl
                refine ⟨trivial, fun answer => ?_⟩
                cases answer with
                | error error =>
                    exact Or.inl (congrArg (fun hold => Hold.next .other threadId hold .finish (.error error)) emptied)
                | ok finished =>
                    refine ⟨trivial, fun answer => ?_⟩
                    cases answer with
                    | error error => exact Or.inl (congrArg (fun hold => Hold.next .other threadId
                        (Hold.next .other threadId hold .finish (.ok ())) .suspend (.error error)) emptied)
                    | ok scheduled => exact Or.inl (congrArg (fun hold => Hold.next .other threadId
                        (Hold.next .other threadId hold .finish (.ok ())) .suspend (.ok ())) emptied)
      · exact Or.inr rfl

theorem delete_under_lease_follows (lease : RunLease) (sight : Sight) (exit : Post Api ThreadPhase Unit) :
    (threadProtocol .other config.checkpointer.isSome threadId).Follows .anything (deleteUnderLease config threadId)
      (HandlerDone lease) exit ⟨sight, .held lease⟩ := by
  have timed : ∀ exit, (threadProtocol .other config.checkpointer.isSome threadId).Follows .anything
      (withTimeout config.runTimeoutSeconds (adeleteThread config threadId))
        (WorkerDone config.checkpointer.isSome lease) exit
      ⟨sight, .held lease⟩ := by
    intro exit
    cases config.runTimeoutSeconds with
    | none => exact adelete_thread_follows config lease sight exit
    | some seconds =>
        refine Protocol.follows_handle _ _ _ _ _ _ _ ?_
        refine Protocol.follows_mono _ _ _ _ _ _ _ _ (fun outcome phase emptied => ?_)
          (fun outcome phase gone => gone.elim) (adelete_thread_follows config lease sight (fun _ _ => False))
        cases outcome with
        | ok value => exact emptied
        | error error =>
            dsimp only
            split
            · exact emptied
            · exact emptied
  refine Protocol.follows_bind _ _ _ _ _ _ _ (Protocol.follows_handle _ _ _ _ _ _ _ ?_)
  refine Protocol.follows_mono _ _ _ _ _ _ _ _ (fun outcome phase emptied => ?_) (fun outcome phase gone => gone.elim)
    (timed (fun _ _ => False))
  obtain ⟨seen, hold⟩ := phase
  cases outcome with
  | error error => cases error <;> exact emptied
  | ok value =>
      have deleted : ∀ answer, (threadProtocol .other config.checkpointer.isSome threadId).Follows .anything
          (Coro.ofExcept (I := Api) answer) (HandlerDone lease) exit
          (ThreadPhase.next .other config.checkpointer.isSome threadId ⟨seen, hold⟩
            (.deleteThread threadId) answer) := by
        intro answer
        rcases emptied with cleared | ⟨_, held⟩
        · cases show hold = .cleared lease from cleared
          cases answer with
          | error error => exact Or.inl rfl
          | ok value => exact if_pos rfl
        · cases show hold = .held lease from held
          cases answer with
          | error error => exact Or.inr rfl
          | ok value => exact if_pos rfl
      refine ⟨⟨rfl, fun _ => ?_⟩, deleted⟩
      rcases emptied with cleared | ⟨missing, held⟩
      · exact Or.inl ⟨lease, cleared⟩
      · exact Or.inr ⟨missing, lease, held⟩

theorem delete_thread_follows (query : String) (exit : Post Api ThreadPhase Unit) :
    (threadProtocol .other config.checkpointer.isSome threadId).Follows .anything (deleteThread config query)
      (fun outcome reached => query = threadId → outcome = .ok () → ∃ lease, reached.hold = .gone lease) exit
      ⟨.looking, .waiting⟩ := by
  refine Protocol.follows_bind _ _ _ _ _ _ _ (acquire_follows .other query .deletion _ ⟨rfl, fun same => by cases same⟩
    (fun same => by cases same) _ _ (fun lease reached begun => ?_) (fun error reached _ _ impossible => by
      cases impossible))
  obtain ⟨sight, hold⟩ := reached
  have same : hold = grasped query threadId lease := begun.hold
  rw [grasped] at same
  refine lease_finally_follows .other _ lease _ _ _ ?_
  by_cases here : query = threadId
  · rw [if_pos here] at same
    subst same here
    refine Protocol.follows_mono _ _ _ _ _ _ _ _ (fun outcome reached deleted => ?_)
      (fun outcome phase gone => gone.elim) (delete_under_lease_follows config lease sight (fun _ _ => False))
    obtain ⟨seen, hold⟩ := reached
    cases outcome with
    | ok value =>
        cases show hold = .gone lease from deleted
        exact ⟨rfl, fun answer => ⟨fun _ _ => ⟨lease, rfl⟩, fun error _ impossible => by cases impossible⟩⟩
    | error error =>
        refine ⟨?_, fun answer =>
          ⟨fun _ impossible => (by cases impossible), fun error _ impossible => (by cases impossible)⟩⟩
        rcases deleted with cleared | held
        · cases show hold = .cleared lease from cleared
          rfl
        · cases show hold = .held lease from held
          rfl
  · rw [if_neg here] at same
    subst same
    refine Protocol.follows_uses _ _ (DeleteSteps query) (fun reached => reached.hold = .spent lease)
      (fun reached op spent steps => ?_)
      _ _ rfl (delete_under_lease_uses config query) _ _ (fun outcome reached spent => ⟨?_, fun answer => ⟨?_, ?_⟩⟩)
    · obtain ⟨seen, hold⟩ := reached
      cases show hold = .spent lease from spent
      cases steps with
      | begin graphOf => exact ⟨trivial, fun _ => rfl⟩
      | deleteCheckpoints => exact ⟨⟨rfl, fun same => by cases same⟩, fun _ => rfl⟩
      | finish => exact ⟨trivial, fun _ => rfl⟩
      | suspend => exact ⟨trivial, fun _ => rfl⟩
      | deleteThread => exact ⟨⟨rfl, fun same => absurd same here⟩, fun _ => rfl⟩
    · rw [spent]
      rfl
    · exact fun same => absurd same here
    · exact fun _ same => absurd same here

inductive RunSteps (threadId : String) (lease : RunLease) : ServerOp → Prop where
  | stream (op : ServerOp) (steps : StreamSteps threadId op) : RunSteps threadId lease op
  | send (message : AsgiMessage) : RunSteps threadId lease (.send message)
  | release : RunSteps threadId lease (.release lease)

theorem claims_stay (phase : ThreadPhase) (op : ServerOp) (waiting : phase.hold = .waiting) (claims : Claims op) :
    phase.allows .maker persistent threadId op ∧
      ∀ answer, (phase.next .maker persistent threadId op answer).hold = .waiting := by
  obtain ⟨sight, hold⟩ := phase
  cases waiting
  cases claims with
  | plain op plain => cases plain <;> exact ⟨trivial, fun _ => rfl⟩
  | claimAssistant query assistantId => exact ⟨fun same => (by cases same), fun _ => rfl⟩

theorem run_steps_stay (query : String) (lease : RunLease) (phase : ThreadPhase) (op : ServerOp)
    (spent : phase.hold = .spent lease) (steps : RunSteps query lease op) :
    phase.allows .maker persistent threadId op ∧ ∀ answer, (phase.next .maker persistent threadId op answer).hold =
      .spent lease := by
  obtain ⟨sight, hold⟩ := phase
  cases spent
  cases steps with
  | stream op steps => cases steps with
    | graph steps => cases steps with
      | begin graphOf => exact ⟨trivial, fun _ => rfl⟩
      | finish => exact ⟨trivial, fun _ => rfl⟩
      | suspend => exact ⟨trivial, fun _ => rfl⟩
      | aput runnableConfig item thread => exact ⟨Or.inl rfl, fun _ => rfl⟩
    | plain plain => cases plain <;> exact ⟨trivial, fun _ => rfl⟩
  | send message => exact ⟨rfl, fun _ => rfl⟩
  | release => exact ⟨rfl, fun _ => rfl⟩

theorem claims_follow {α β : Type} (program : Coro Api α) (next : α → Coro Api β) (uses : program.Uses Claims)
    (phase : ThreadPhase) (waiting : phase.hold = .waiting) (post exit : Post Api ThreadPhase β)
    (posts : ∀ outcome reached, post outcome reached)
    (follows : ∀ value reached, reached.hold = .waiting →
      (threadProtocol .maker persistent threadId).Follows .anything (next value) post exit reached) :
    (threadProtocol .maker persistent threadId).Follows .anything (program >>= next) post exit phase := by
  refine Protocol.follows_bind _ _ _ _ _ _ _ (Protocol.follows_uses _ _ Claims (fun reached => reached.hold = .waiting)
    claims_stay program phase waiting uses _ _ (fun outcome reached kept => ?_))
  cases outcome with
  | ok value => exact follows value reached kept
  | error error => exact posts _ _

theorem leased_follows {α : Type} (query assistantId : String) (next : RunLease → Coro Api α)
    (awaits : ∀ lease, (next lease).Awaits (RunSteps query lease)) (phase : ThreadPhase)
    (waiting : phase.hold = .waiting)
    (post exit : Post Api ThreadPhase α) (posts : ∀ outcome reached, post outcome reached) :
    (threadProtocol .maker persistent threadId).Follows .anything (acquireRunLease query assistantId >>= next) post
      exit phase := by
  obtain ⟨sight, hold⟩ := phase
  cases waiting
  refine ⟨⟨rfl, fun same => by cases same⟩, fun answer => ?_⟩
  cases answer with
  | error error => cases error <;> exact posts _ _
  | ok lease =>
      have spent : Hold.next .maker threadId .waiting (.acquire query (.run assistantId)) (.ok lease) = .spent lease :=
        if_neg (fun both => both.2 rfl)
      exact Protocol.follows_awaits (threadProtocol .maker persistent threadId) (RunSteps query lease)
        (fun reached => reached.hold = .spent lease) (run_steps_stay query lease)
        (fun reached kept => ⟨reached, reached, ⟨rfl, rfl, rfl⟩, kept, kept⟩) (fun _ _ => trivial) (next lease) _
          spent (awaits lease)
        _ _ (fun outcome reached _ => posts outcome reached)

theorem stream_run_follows (query : String) (request : RunCreate) (post exit : Post Api ThreadPhase Unit)
    (posts : ∀ outcome reached, post outcome reached) :
    (threadProtocol .maker persistent threadId).Follows .anything
    (streamRunWithThread platform config context query request)
      post exit ⟨.looking, .waiting⟩ := by
  rw [streamRunWithThread]
  split
  · exact posts _ _
  · refine claims_follow _ _ (Coro.uses_of_except (I := Api) _ _) _ rfl _ _ posts (fun assistant phase waiting => ?_)
    refine claims_follow _ _ (claim_for_run_uses platform config context query request assistant) _ waiting _ _ posts
      (fun _ phase waiting => ?_)
    refine leased_follows query assistant.assistantId _ (fun lease => ?_) phase waiting _ _ posts
    refine Coro.awaits_bind _ _ (Coro.awaits_of_except _) (fun graph => ?_)
    refine respond_awaits platform _ _ .send (run_with_lease_awaits platform config _ lease .release ?_)
      (Coro.awaits_perform (I := Api) _ .release)
    exact Coro.awaits_mono (I := Api) (StreamSteps query) .stream _
      (stream_graph_response_steps platform context assistant _ graph _ _ _)

theorem create_run_follows (query : String) (request : RunCreate) (post exit : Post Api ThreadPhase RunResult)
    (posts : ∀ outcome reached, post outcome reached) :
    (threadProtocol .maker persistent threadId).Follows .anything (createRun platform config context query request)
      post exit ⟨.looking, .waiting⟩ := by
  rw [createRun]
  split
  · exact posts _ _
  · refine claims_follow _ _ (Coro.uses_of_except (I := Api) _ _) _ rfl _ _ posts (fun assistant phase waiting => ?_)
    refine claims_follow _ _ (claim_for_run_uses platform config context query request assistant) _ waiting _ _ posts
      (fun _ phase waiting => ?_)
    refine claims_follow _ _ (Coro.uses_of_except (I := Api) _ _) _ waiting _ _ posts (fun payload phase waiting => ?_)
    refine leased_follows query assistant.assistantId _ (fun lease => ?_) phase waiting _ _ posts
    have marks := build_runnable_config_marks query assistant.assistantId request.config request.checkpointId
    refine Coro.awaits_bind _ _ (Coro.awaits_finally _ _ ?_ (Coro.awaits_perform (I := Api) _ .release))
      (fun _ => trivial)
    refine Coro.awaits_catch _ _ (with_timeout_awaits _ _ ?_) (fun error => ?_)
    · refine Coro.awaits_bind _ _ (Coro.awaits_of_except _) (fun graph => Coro.awaits_bind _ _ ?_ (fun _ => trivial))
      refine Coro.awaits_bind _ _ ?_ (fun result => ?_)
      · exact Coro.awaits_uses (I := Api) (GraphSteps query) (fun op steps => .stream op (.graph op steps)) _
          (mutating_uses _ _ (graph_steps_allowed _ _ marks.thread) _ (GraphCall.writes_any _))
      · split <;> trivial
    · split <;> trivial

end Programs

section Requests

variable (platform : Platform) (config : ServerConfig) (context : RequestContext) (threadId : String)

def Request.role : Request → Role
  | .createThread _ => .maker
  | .createRun _ _ => .maker
  | .streamRun _ _ => .maker
  | .getThread query => if query = threadId then .restorer else .other
  | .getStateCheckpoint query _ => if query = threadId then .restorer else .other
  | .updateState query _ => if query = threadId then .restorer else .other
  | _ => .other

def Concludes (outcome : Except ServerError Unit) (phase : ThreadPhase) : Request → Prop
  | .getThread query => query = threadId → Told threadId outcome phase
  | .deleteThread query => query = threadId → outcome = .ok () → ∃ lease, phase.hold = .gone lease
  | _ => True

theorem suits_thread (query : String) : Suits (if query = threadId then .restorer else .other) query threadId := by
  by_cases same : query = threadId
  · rw [if_pos same]
    exact Or.inl ⟨rfl, same⟩
  · rw [if_neg same]
    exact Or.inr ⟨rfl, same⟩

theorem responding_follows {α : Type} (role : Role) (program : Coro Api α) (respond : α → Response)
    (phase : ThreadPhase) (post : Post Api ThreadPhase Unit)
    (follows : (threadProtocol role config.checkpointer.isSome threadId).Follows .anything program
      (fun outcome reached => post (outcome.map (fun _ => ())) reached) (fun _ _ => False) phase) :
    (threadProtocol role config.checkpointer.isSome threadId).Follows .anything
      (program >>= fun value => (pure (respond value) : Coro Api Response)).void post post phase := by
  refine Protocol.follows_handle _ _ _ _ _ _ _ (Protocol.follows_bind _ _ _ _ _ _ _ ?_)
  refine Protocol.follows_mono _ _ _ _ _ _ _ _ (fun outcome reached held => ?_)
    (fun outcome reached gone => gone.elim) follows
  cases outcome <;> exact held

theorem told_map {α : Type} (outcome : Except ServerError α) (phase : ThreadPhase)
    (told : Told threadId outcome phase) :
    Told threadId (outcome.map (fun _ => ())) phase := by
  rw [Told.eq_def] at told ⊢
  split
  · rename_i looking
    rw [looking] at told
    rw [show outcome = _ from told]
    rfl
  · rename_i cause failed
    rw [failed] at told
    rw [show outcome = _ from told]
    rfl
  · trivial

theorem serve_follows (request : Request) :
    (threadProtocol (request.role threadId) config.checkpointer.isSome threadId).Follows .anything
      (serve platform config context request).void (fun outcome reached => Concludes threadId outcome reached request)
      (fun outcome reached => Concludes threadId outcome reached request) ⟨.looking, .waiting⟩ := by
  cases request with
  | createThread body =>
      refine responding_follows config threadId .maker _ _ _ _ (Protocol.follows_uses _ _ Claims
        (fun reached => reached.hold = .waiting) claims_stay _ _ rfl (claims_of_plain _
          (create_thread_uses platform config context body)) _ _ (fun _ _ _ => trivial))
  | createRun query body =>
      exact responding_follows config threadId .maker _ _ _ _
        (create_run_follows platform config context query body _ _ (fun _ _ => trivial))
  | streamRun query body =>
      exact responding_follows config threadId .maker _ _ _ _
        (stream_run_follows platform config context query body _ _ (fun _ _ => trivial))
  | getState query =>
      exact responding_follows config threadId .other _ _ _ _
        (reads_follow .other _ (get_state_reads platform config context query)
        _ _ _ (fun _ => True) (fun _ _ _ _ _ => trivial) trivial (fun _ _ _ => trivial))
  | getHistory query body =>
      exact responding_follows config threadId .other _ _ _ _
        (reads_follow .other _ (get_history_reads platform config context query body)
        _ _ _ (fun _ => True) (fun _ _ _ _ _ => trivial) trivial (fun _ _ _ => trivial))
  | updateState query body =>
      exact responding_follows config threadId _ _ _ _ _ (update_state_follows platform config context _ query
        (suits_thread threadId query) body _ _ (fun _ _ => trivial))
  | deleteThread query =>
      refine responding_follows config threadId .other _ _ _ _ ?_
      refine Protocol.follows_mono _ _ _ _ _ _ _ _ (fun outcome reached gone => ?_)
        (fun outcome reached none => none.elim) (delete_thread_follows config query (fun _ _ => False))
      intro same ended
      refine gone same ?_
      cases outcome with
      | ok value => rfl
      | error error => cases ended
  | getThread query =>
      by_cases same : query = threadId
      · subst same
        rw [Request.role, if_pos rfl]
        refine responding_follows config query .restorer _ _ _ _ ?_
        refine Protocol.follows_mono _ _ _ _ _ _ _ _ (fun outcome reached told => ?_)
          (fun outcome reached none => none.elim) (get_thread_told platform config context (fun _ _ => False))
        exact fun _ => told_map query outcome reached told
      · rw [Request.role, if_neg same]
        exact responding_follows config threadId .other _ _ _ _ (resolves_follows query same _
          (get_thread_resolves platform config context query) _ _ _ (fun _ _ here => absurd here same))
  | getStateCheckpoint query checkpoint =>
      by_cases same : query = threadId
      · subst same
        rw [Request.role, if_pos rfl]
        exact responding_follows config query .restorer _ _ _ _
          (get_state_checkpoint_follows platform config context checkpoint _ _
          (fun _ _ => trivial))
      · rw [Request.role, if_neg same]
        exact responding_follows config threadId .other _ _ _ _ (resolves_follows query same _
          (get_state_checkpoint_resolves platform config context query checkpoint) _ _ _ (fun _ _ => trivial))

end Requests

end LangGraphServer
