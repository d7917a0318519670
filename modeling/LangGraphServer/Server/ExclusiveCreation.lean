import LangGraphServer.Lib.Census
import LangGraphServer.Lib.Watch
import LangGraphServer.Server.StoreRules

set_option autoImplicit false

namespace LangGraphServer

open Collections Coroutine

def newThread (context : RequestContext) (threadId : String) (metadata : Option Metadata) : Thread :=
  ⟨threadId, context.now .created, context.now .created, metadata.getD .empty, "idle", .empty⟩

-- How far an exclusive creation is: it has not looked yet, has found no record, has found
-- no checkpoint either, or is about to answer.
inductive CreationPhase where
  | fresh
  | unrecorded
  | absent
  | recovered
  | returned
  | refused
  | failed (cause : ServerError)

namespace CreationPhase

def allows (thread : Thread) : CreationPhase → ServerOp → Prop
  | .fresh, .getThread threadId => threadId = thread.threadId
  | .unrecorded, .agetTuple lookup => lookup = checkpointConfig thread.threadId none ""
  | .absent, .getThread threadId => threadId = thread.threadId
  | .absent, .agetTuple lookup => lookup = checkpointConfig thread.threadId none ""
  | .absent, .putThread given => given = thread
  | .recovered, .putThread _ => True
  | _, _ => False

def next : CreationPhase → (op : ServerOp) → Except ServerError op.Result → CreationPhase
  | .fresh, .getThread _, .ok none => .unrecorded
  | .fresh, .getThread _, .ok (some _) => .refused
  | .unrecorded, .agetTuple _, .ok none => .absent
  | .unrecorded, .agetTuple _, .ok (some _) => .refused
  | .absent, .getThread _, .ok (some _) => .returned
  | .absent, .agetTuple _, .ok (some _) => .recovered
  | .absent, .putThread _, .ok _ => .returned
  | .recovered, .putThread _, .ok _ => .returned
  | _, _, .error cause => .failed cause
  | phase, _, _ => phase

def Answers (outcome : Except ServerError Unit) : CreationPhase → Prop
  | .returned => outcome = .ok ()
  | .refused => ∃ detail, outcome = .error (.http 409 detail)
  | .failed cause => ∃ error, outcome = .error error ∧ (error = cause ∨ ∃ detail, error = .http 413 detail) ∧
      (cause.isCancelled = true → error = cause)
  | _ => False

end CreationPhase

def creationProtocol (thread : Thread) : Protocol Api CreationPhase where
  allows := CreationPhase.allows thread
  next := CreationPhase.next
  lets _ := True
  splits _ _ _ := False
  ends _ := False

section Creation

variable (platform : Platform) (config : ServerConfig) (context : RequestContext) (threadId : String)

def createExclusively (metadata : Option Metadata) : Coro Api Unit :=
  (serve platform config context (.createThread ⟨some threadId, metadata, some .raise⟩)).void

variable {platform config context threadId} {thread : Thread}

theorem checkpoint_follows (persists : config.checkpointer.isSome = true) (phase : CreationPhase)
    (post exit : Post Api CreationPhase (Option Thread))
    (allowed : CreationPhase.allows thread phase (.agetTuple (checkpointConfig threadId none "")))
    (missing : post (.ok none) (CreationPhase.next phase (.agetTuple (checkpointConfig threadId none "")) (.ok none)))
    (found : ∀ item, post (.ok (some (threadOfItem platform context threadId item)))
      (CreationPhase.next phase (.agetTuple (checkpointConfig threadId none "")) (.ok (some item))))
    (failed : ∀ cause, post (.error cause) (CreationPhase.next phase (.agetTuple (checkpointConfig threadId none ""))
      (.error cause))) :
    (creationProtocol thread).Follows .anything (threadFromCheckpoint platform config context threadId) post
      exit phase := by
  obtain ⟨saver, present⟩ := Option.isSome_iff_exists.mp persists
  rw [threadFromCheckpoint, present]
  refine ⟨allowed, fun answer => ?_⟩
  cases answer with
  | error cause => exact failed cause
  | ok item =>
      cases (item : Option CheckpointItem) with
      | none => exact missing
      | some item => exact found item

def Looked (outcome : Except ServerError Bool) (phase : CreationPhase) : Prop :=
  match outcome with
  | .ok true => phase = .refused
  | .ok false => phase = .absent
  | .error cause => phase = .failed cause

theorem exists_follows (thread : Thread) (named : thread.threadId = threadId)
    (persists : config.checkpointer.isSome = true) (exit : Post Api CreationPhase Bool) :
    (creationProtocol thread).Follows .anything (threadExists platform config context threadId) Looked exit .fresh := by
  refine ⟨named.symm, fun answer => ?_⟩
  cases answer with
  | error cause => exact (rfl : CreationPhase.failed cause = _)
  | ok existing =>
      cases (existing : Option Thread) with
      | some existing => exact (rfl : CreationPhase.refused = _)
      | none =>
          refine Protocol.follows_bind _ _ _ _ _ _ _ (checkpoint_follows persists .unrecorded _ _ ?_ ?_
            (fun item => ?_) (fun cause => ?_))
          · exact congrArg (fun query => checkpointConfig query none "") named.symm
          · exact (rfl : CreationPhase.absent = _)
          · exact (rfl : CreationPhase.refused = _)
          · exact (rfl : CreationPhase.failed cause = _)

def Created (outcome : Except ServerError Thread) (phase : CreationPhase) : Prop :=
  match outcome with
  | .ok _ => phase = .returned
  | .error cause => phase = .failed cause

theorem put_follows (phase : CreationPhase) (given answered : Thread) (exit : Post Api CreationPhase Thread)
    (allowed : CreationPhase.allows thread phase (.putThread given))
    (written : ∀ value, CreationPhase.next phase (.putThread given) (.ok value) = .returned)
    (failed : ∀ cause, CreationPhase.next phase (.putThread given) (.error cause) = .failed cause) :
    (creationProtocol thread).Follows .anything (do perform (.putThread given); pure answered : Coro Api Thread)
      Created exit phase := by
  refine ⟨allowed, fun answer => ?_⟩
  cases answer with
  | error cause => exact failed cause
  | ok value => exact written value

theorem create_follows (metadata : Option Metadata) (persists : config.checkpointer.isSome = true)
    (exit : Post Api CreationPhase Thread) :
    (creationProtocol (newThread context threadId metadata)).Follows .anything
      (getOrCreateThread platform config context (some threadId) metadata) Created exit .absent := by
  refine ⟨rfl, fun answer => ?_⟩
  cases answer with
  | error cause => exact (rfl : CreationPhase.failed cause = _)
  | ok existing =>
      cases (existing : Option Thread) with
      | some existing => exact (rfl : CreationPhase.returned = _)
      | none =>
          refine Protocol.follows_bind _ _ _ _ _ _ _ (checkpoint_follows persists .absent _ _ rfl ?_ (fun item => ?_)
            (fun cause => ?_))
          · exact put_follows .absent _ _ _ rfl (fun _ => rfl) (fun _ => rfl)
          · exact put_follows .recovered _ _ _ trivial (fun _ => rfl) (fun _ => rfl)
          · exact (rfl : CreationPhase.failed cause = _)

def Finished {α : Type} (outcome : Except ServerError α) : CreationPhase → Prop :=
    CreationPhase.Answers (outcome.map (fun _ => ()))

theorem create_thread_follows (metadata : Option Metadata) (persists : config.checkpointer.isSome = true)
    (exit : Post Api CreationPhase Thread) :
    (creationProtocol (newThread context threadId metadata)).Follows .anything
      (createThread platform config context ⟨some threadId, metadata, some .raise⟩) Finished exit .fresh := by
  refine Protocol.follows_bind _ _ _ _ _ _ _ ?_
  refine Protocol.follows_mono _ _ _ _ _ _ _ _ (fun outcome phase looked => ?_) (fun outcome phase gone => gone.elim)
    (exists_follows (newThread context threadId metadata) rfl persists (fun _ _ => False))
  cases outcome with
  | error cause =>
      rw [show phase = .failed cause from looked]
      exact ⟨cause, rfl, Or.inl rfl, fun _ => rfl⟩
  | ok found =>
      cases found with
      | true =>
          rw [show phase = .refused from looked]
          exact ⟨_, rfl⟩
      | false =>
          rw [show phase = .absent from looked]
          refine Protocol.follows_handle _ _ _ _ _ _ _ ?_
          refine Protocol.follows_mono _ _ _ _ _ _ _ _ (fun outcome phase made => ?_)
            (fun outcome phase gone => gone.elim) (create_follows metadata persists (fun _ _ => False))
          cases outcome with
          | ok made' =>
              rw [show phase = .returned from made]
              exact (rfl : (Except.ok () : Except ServerError Unit) = _)
          | error cause =>
              rw [show phase = .failed cause from made]
              cases cause
              case threadStoreCapacity message => exact ⟨_, rfl, Or.inr ⟨_, rfl⟩, fun cancelled => by cases cancelled⟩
              all_goals exact ⟨_, rfl, Or.inl rfl, fun _ => rfl⟩

theorem creation_follows (metadata : Option Metadata) (persists : config.checkpointer.isSome = true) :
    (creationProtocol (newThread context threadId metadata)).Follows .anything
      (createExclusively platform config context threadId metadata)
      CreationPhase.Answers CreationPhase.Answers .fresh := by
  refine Protocol.follows_handle _ _ _ _ _ _ _ (Protocol.follows_bind _ _ _ _ _ _ _ ?_)
  refine Protocol.follows_mono _ _ _ _ _ _ _ _ (fun outcome phase finished => ?_) (fun outcome phase gone => gone.elim)
    (create_thread_follows metadata persists (fun _ _ => False))
  cases outcome <;> exact finished

end Creation

-- The requests that looked for the thread's record and found none.
def observeLooks (threadId : String) (id : TaskId) : (op : ServerOp) → Except ServerError op.Result →
    List Nat → List Nat
  | .getThread query, .ok none, looked => if query = threadId then id.request :: looked else looked
  | _, _, looked => looked

def watchedServer (platform : Platform) (persistent : Bool) (threadId : String) :
    Machine Api (ServerState × List Nat) TaskId :=
  (serverMachine platform persistent).watched (observeLooks threadId)

def madeBy (creations : List (RequestContext × Option Metadata)) (threadId : String) (request : Nat) : Thread :=
  match creations[request]? with
  | some creation => newThread creation.1 threadId creation.2
  | none => ⟨threadId, 0, 0, .empty, "idle", .empty⟩

theorem made_by_named (creations : List (RequestContext × Option Metadata)) (threadId : String) (request : Nat) :
    (madeBy creations threadId request).threadId = threadId := by
  rw [madeBy]
  split
  · rfl
  · rfl

def creationOrder (platform : Platform) (persistent : Bool) (creations : List (RequestContext × Option Metadata))
    (threadId : String) : Order (watchedServer platform persistent threadId) CreationPhase where
  protocol id := creationProtocol (madeBy creations threadId id.request)
  done _ := CreationPhase.Answers
  protocol_helper _ := rfl
  done_helper _ _ _ ends := ends.elim

-- What the phase of a creation says about the server and about what was looked for.
def Knows (threadId : String) (shared : ServerState × List Nat) (request : Nat) : CreationPhase → Prop
  | .fresh => request ∉ shared.2
  | .unrecorded => request ∈ shared.2
  | .absent => request ∈ shared.2 ∧ shared.1.agetTuple (checkpointConfig threadId none "") = none
  | .recovered => False
  | .returned => (shared.1.store.getThread threadId).isSome = true
  | .refused => True
  | .failed cause => cause.isCancelled = true ∨ ∃ message, cause = .threadStoreCapacity message

section Pool

variable (platform : Platform) (persistent : Bool) (creations : List (RequestContext × Option Metadata))
    (threadId : String)

structure Creating (pool : Pool Api (ServerState × List Nat) TaskId)
    (census : List (TaskId × CreationPhase)) : Prop where
  counts : (creationOrder platform persistent creations threadId).Counts census pool.tasks
  plain : ∀ task ∈ pool.tasks, task.2.Uses Plain
  own : ∀ (request : Nat) entry, census[request]? = some entry → entry.1 = ⟨request, false⟩ ∧ request < creations.length
  knows : ∀ (request : Nat) entry, census[request]? = some entry → Knows threadId pool.shared request entry.2
  made : pool.shared.2 ≠ [] → (pool.shared.1.store.getThread threadId).isSome = true →
    ∃ request : Nat, ∃ entry, census[request]? = some entry ∧ entry.2 = .returned

structure Continues (request : Nat) (before after : ServerState × List Nat) : Prop where
  saved : after.1.saved = before.1.saved
  recorded : (before.1.store.getThread threadId).isSome = true → (after.1.store.getThread threadId).isSome = true
  looked : ∀ other, other ≠ request → (other ∈ after.2 ↔ other ∈ before.2)

variable {platform persistent creations threadId}

theorem knows_continues (request other : Nat) (before after : ServerState × List Nat) (apart : other ≠ request)
    (continues : Continues threadId request before after) (phase : CreationPhase)
    (knows : Knows threadId before other phase) :
    Knows threadId after other phase := by
  obtain ⟨saved, recorded, looked⟩ := continues
  cases phase with
  | fresh => exact fun member => knows ((looked other apart).mp member)
  | unrecorded => exact (looked other apart).mpr knows
  | absent =>
      refine ⟨(looked other apart).mpr knows.1, ?_⟩
      rw [ServerState.agetTuple, ServerState.items, saved]
      exact knows.2
  | recovered => exact knows
  | returned => exact recorded knows
  | refused => trivial
  | failed cause => exact knows

theorem put_thread_stored (store : InMemoryThreadStore) (thread : Thread)
    (fits : platform.threadJsonBytes thread ≤ store.maxThreadBytes) :
    store.putThread platform thread =
      ({ store with threads := store.threads.set thread.threadId ⟨thread, store.getAssistantId thread.threadId⟩ },
        .ok ()) := by
  rw [InMemoryThreadStore.putThread, if_neg (Nat.not_lt.mpr fits)]

theorem put_thread_reads (store : InMemoryThreadStore) (thread : Thread)
    (fits : platform.threadJsonBytes thread ≤ store.maxThreadBytes) :
    (store.putThread platform thread).1.getThread thread.threadId = some thread := by
  rw [put_thread_stored store thread fits, InMemoryThreadStore.getThread]
  simp only [Dict.get_set, if_true, Option.map_some]

inductive CreationMove (platform : Platform) (thread : Thread) (request : Nat) (before : ServerState × List Nat) :
    ServerOp → CreationPhase → ServerState × List Nat → CreationPhase → Prop where
  | missing (absent : before.1.store.getThread thread.threadId = none) :
      CreationMove platform thread request before (.getThread thread.threadId) .fresh
        (before.1, request :: before.2) .unrecorded
  | present : CreationMove platform thread request before (.getThread thread.threadId) .fresh before .refused
  | unseen (absent : before.1.agetTuple (checkpointConfig thread.threadId none "") = none) :
      CreationMove platform thread request before (.agetTuple (checkpointConfig thread.threadId none ""))
        .unrecorded before .absent
  | seen : CreationMove platform thread request before (.agetTuple (checkpointConfig thread.threadId none ""))
    .unrecorded before .refused
  | still (absent : before.1.store.getThread thread.threadId = none) :
      CreationMove platform thread request before (.getThread thread.threadId) .absent
        (before.1, request :: before.2) .absent
  | meanwhile (recorded : (before.1.store.getThread thread.threadId).isSome = true) :
      CreationMove platform thread request before (.getThread thread.threadId) .absent before .returned
  | unseenStill : CreationMove platform thread request before (.agetTuple (checkpointConfig thread.threadId none ""))
    .absent before .absent
  | oversized (message : String) (large : before.1.store.maxThreadBytes < platform.threadJsonBytes thread) :
      CreationMove platform thread request before (.putThread thread) .absent before
        (.failed (.threadStoreCapacity message))
  | wrote (fits : platform.threadJsonBytes thread ≤ before.1.store.maxThreadBytes) :
      CreationMove platform thread request before (.putThread thread) .absent
      ({ before.1 with store := (before.1.store.putThread platform thread).1 }, before.2) .returned

theorem creation_moves (platform : Platform) (persistent : Bool) (thread : Thread) (id : TaskId) (op : ServerOp)
    (phase : CreationPhase) (before : ServerState × List Nat)
    (allowed : CreationPhase.allows thread phase op) (knows : Knows thread.threadId before id.request phase) :
    CreationMove platform thread id.request before op phase
      ((watchedServer platform persistent thread.threadId).perform id op before).1
      (CreationPhase.next phase op ((watchedServer platform persistent thread.threadId).perform id op before).2) := by
  have looked : ∀ query, before.1.store.getThread query = none → query = thread.threadId →
      ((watchedServer platform persistent thread.threadId).perform id (.getThread query) before).1 =
        (before.1, id.request :: before.2) := by
    intro query missing same
    simp only [watchedServer, Machine.watched, serverMachine, ServerState.perform, missing, observeLooks, if_pos same]
  have found : ∀ query record, before.1.store.getThread query = some record →
      ((watchedServer platform persistent thread.threadId).perform id (.getThread query) before).1 = before := by
    intro query record present
    simp only [watchedServer, Machine.watched, serverMachine, ServerState.perform, present, observeLooks]
  have answered : ∀ query, ((watchedServer platform persistent thread.threadId).perform id
    (.getThread query) before).2 = .ok (before.1.store.getThread query) := fun _ => rfl
  cases phase with
  | fresh =>
      cases op
      case getThread query =>
        subst allowed
        rw [answered]
        cases recorded : before.1.store.getThread thread.threadId with
        | none =>
            rw [looked _ recorded rfl]
            exact .missing recorded
        | some record =>
            rw [found _ record recorded]
            exact .present
      all_goals cases allowed
  | unrecorded =>
      cases op
      case agetTuple lookup =>
        subst allowed
        have same : ((watchedServer platform persistent thread.threadId).perform id
          (.agetTuple (checkpointConfig thread.threadId none "")) before) =
            (before, .ok (before.1.agetTuple (checkpointConfig thread.threadId none ""))) := rfl
        rw [same]
        cases item : before.1.agetTuple (checkpointConfig thread.threadId none "") with
        | none => exact .unseen item
        | some item => exact .seen
      all_goals cases allowed
  | absent =>
      cases op
      case getThread query =>
        subst allowed
        rw [answered]
        cases recorded : before.1.store.getThread thread.threadId with
        | none =>
            rw [looked _ recorded rfl]
            exact .still recorded
        | some record =>
            rw [found _ record recorded]
            exact .meanwhile (by rw [recorded]; rfl)
      case agetTuple lookup =>
        subst allowed
        have same : ((watchedServer platform persistent thread.threadId).perform id
          (.agetTuple (checkpointConfig thread.threadId none "")) before) =
            (before, .ok (before.1.agetTuple (checkpointConfig thread.threadId none ""))) := rfl
        rw [same, knows.2]
        exact .unseenStill
      case putThread given =>
        subst allowed
        by_cases fits : platform.threadJsonBytes given ≤ before.1.store.maxThreadBytes
        · have same : ((watchedServer platform persistent given.threadId).perform id (.putThread given) before) =
              (({ before.1 with store := (before.1.store.putThread platform given).1 }, before.2), .ok ()) := by
            simp only [watchedServer, Machine.watched, serverMachine, ServerState.perform,
              put_thread_stored before.1.store given fits, observeLooks]
          rw [same]
          exact .wrote fits
        · have large : before.1.store.maxThreadBytes < platform.threadJsonBytes given := by omega
          have same : ((watchedServer platform persistent given.threadId).perform id (.putThread given) before) =
              (before, .error (.threadStoreCapacity "thread metadata exceeds max_thread_bytes")) := by
            simp only [watchedServer, Machine.watched, serverMachine, ServerState.perform,
              InMemoryThreadStore.putThread, if_pos large, observeLooks]
          rw [same]
          exact .oversized _ large
      all_goals cases allowed
  | recovered => exact knows.elim
  | returned => exact allowed.elim
  | refused => exact allowed.elim
  | failed cause => exact allowed.elim

theorem move_knows (thread : Thread) (request : Nat) (op : ServerOp) (phase next : CreationPhase)
    (before after : ServerState × List Nat) (move : CreationMove platform thread request before op phase after next)
    (knows : Knows thread.threadId before request phase) :
    Continues thread.threadId request before after ∧ Knows thread.threadId after request next := by
  have same : Continues thread.threadId request before before := ⟨rfl, fun recorded => recorded, fun _ _ => Iff.rfl⟩
  have noted : Continues thread.threadId request before (before.1, request :: before.2) := by
    refine ⟨rfl, fun recorded => recorded, fun other apart => ?_⟩
    rw [List.mem_cons]
    exact ⟨fun member => member.resolve_left apart, Or.inr⟩
  cases move with
  | missing absent => exact ⟨noted, List.mem_cons_self⟩
  | present => exact ⟨same, trivial⟩
  | unseen absent => exact ⟨same, knows, absent⟩
  | seen => exact ⟨same, trivial⟩
  | still absent => exact ⟨noted, List.mem_cons_self, knows.2⟩
  | meanwhile recorded => exact ⟨same, recorded⟩
  | unseenStill => exact ⟨same, knows⟩
  | oversized message large => exact ⟨same, Or.inr ⟨message, rfl⟩⟩
  | wrote fits =>
      have reads := put_thread_reads before.1.store thread fits
      have recorded : ((before.1.store.putThread platform thread).1.getThread thread.threadId).isSome = true := by
        rw [reads]
        rfl
      exact ⟨⟨rfl, fun _ => recorded, fun _ _ => Iff.rfl⟩, recorded⟩

inductive CreationTurn (platform : Platform) (persistent : Bool) (creations : List (RequestContext × Option Metadata))
    (threadId : String) (pool : Pool Api (ServerState × List Nat) TaskId) (census : List (TaskId × CreationPhase))
    (turn : Turn Api) (after : Pool Api (ServerState × List Nat) TaskId) : Prop where
  | idle (same : after = pool)
      (stuck : ∀ id op resume, pool.tasks[turn.task]? = some (id, .await op resume) → turn.failure ≠ none)
  | moved (op : ServerOp) (resume : Except ServerError op.Result → Coro Api Unit) (phase next : CreationPhase)
      (found : pool.tasks[turn.task]? = some (⟨turn.task, false⟩, .await op resume))
      (entry : census[turn.task]? = some (⟨turn.task, false⟩, phase)) (calm : turn.failure = none)
      (move : CreationMove platform (madeBy creations threadId turn.task) turn.task pool.shared op phase
        after.shared next)
      (creating : Creating platform persistent creations threadId after
        (census.set turn.task (⟨turn.task, false⟩, next)))
  | failed (phase : CreationPhase) (cause : ServerError) (entry : census[turn.task]? = some (⟨turn.task, false⟩, phase))
      (failing : turn.failure ≠ none) (cancelled : cause.isCancelled = true) (shared : after.shared = pool.shared)
      (creating : Creating platform persistent creations threadId after
        (census.set turn.task (⟨turn.task, false⟩, .failed cause)))

theorem next_failed (phase : CreationPhase) (op : ServerOp) (cause : ServerError) :
    CreationPhase.next phase op (.error cause) = .failed cause := by
  cases phase <;> cases op <;> rfl

theorem plain_cancelled (id : TaskId) (op : ServerOp) (plain : Plain op) (error : ServerError)
    (possible : ServerState.interruptible id op error = true) : error.isCancelled = true := by
  cases plain <;> exact possible

theorem returned_elsewhere (census : List (TaskId × CreationPhase)) (position : Nat)
    (phase next : CreationPhase) (id : TaskId)
    (entry : census[position]? = some (id, phase)) (waiting : phase ≠ .returned)
    (returned : ∃ request : Nat, ∃ entry, census[request]? = some entry ∧ entry.2 = .returned) :
    ∃ request : Nat, ∃ entry, (census.set position (id, next))[request]? = some entry ∧ entry.2 = .returned := by
  obtain ⟨request, other, found, done⟩ := returned
  refine ⟨request, other, ?_, done⟩
  rw [List.getElem?_set_ne (fun same => ?_)]
  · exact found
  · rw [← same, entry, Option.some.injEq] at found
    rw [← found] at done
    exact waiting done

theorem move_makes (thread : Thread) (request : Nat) (op : ServerOp) (phase next : CreationPhase)
    (before after : ServerState × List Nat) (move : CreationMove platform thread request before op phase after next)
    (census : List (TaskId × CreationPhase)) (id : TaskId) (entry : census[request]? = some (id, phase))
    (made : before.2 ≠ [] → (before.1.store.getThread thread.threadId).isSome = true →
      ∃ request : Nat, ∃ entry, census[request]? = some entry ∧ entry.2 = .returned)
    (looked : after.2 ≠ []) (recorded : (after.1.store.getThread thread.threadId).isSome = true) :
    ∃ other : Nat, ∃ entry, (census.set request (id, next))[other]? = some entry ∧ entry.2 = .returned := by
  have here : ∀ last, (census.set request (id, last))[request]? = some (id, last) :=
    fun last => List.getElem?_set_self (List.getElem?_eq_some_iff.mp entry).1
  cases move with
  | missing absent =>
      rw [absent] at recorded
      cases recorded
  | still absent =>
      rw [absent] at recorded
      cases recorded
  | meanwhile => exact ⟨request, _, here _, rfl⟩
  | wrote => exact ⟨request, _, here _, rfl⟩
  | oversized message => exact returned_elsewhere census request _ _ id entry (by simp) (made looked recorded)
  | present => exact returned_elsewhere census request _ _ id entry (by simp) (made looked recorded)
  | unseen => exact returned_elsewhere census request _ _ id entry (by simp) (made looked recorded)
  | seen => exact returned_elsewhere census request _ _ id entry (by simp) (made looked recorded)
  | unseenStill => exact returned_elsewhere census request _ _ id entry (by simp) (made looked recorded)

theorem plain_leaves_nothing (op : ServerOp) (plain : Plain op) : leftover op = [] := by
  cases plain <;> rfl

theorem creation_turn (pool : Pool Api (ServerState × List Nat) TaskId) (census : List (TaskId × CreationPhase))
    (creating : Creating platform persistent creations threadId pool census) (turn : Turn Api) :
    CreationTurn platform persistent creations threadId pool census turn
      ((watchedServer platform persistent threadId).step pool turn) := by
  have named := made_by_named creations threadId turn.task
  have plain := (watchedServer platform persistent threadId).uses_step Plain (fun _ => plain_leaves_nothing) pool
    creating.plain turn
  have order := (creationOrder platform persistent creations threadId).turned pool census creating.counts turn
  cases order with
  | idle same stuck => exact .idle same stuck
  | performed id op resume phase found entry calm allowed shared counts =>
      obtain ⟨same, within⟩ := creating.own turn.task _ entry
      subst same
      have knows := creating.knows turn.task _ entry
      have move := creation_moves platform persistent (madeBy creations threadId turn.task) ⟨turn.task, false⟩ op
        phase pool.shared allowed (by rw [named]; exact knows)
      rw [named] at move
      obtain ⟨continues, later⟩ := move_knows _ _ _ _ _ _ _ move (by rw [named]; exact knows)
      rw [named] at continues later
      rw [← shared] at continues later move
      refine .moved op resume phase _ found entry calm move ⟨counts, plain, fun request other member => ?_,
        fun request other member => ?_, fun looked recorded => ?_⟩
      · rcases set_entries _ _ _ _ _ member with ⟨rfl, rfl⟩ | ⟨_, old⟩
        · exact ⟨rfl, within⟩
        · exact creating.own request other old
      · rcases set_entries _ _ _ _ _ member with ⟨rfl, rfl⟩ | ⟨apart, old⟩
        · exact later
        · exact knows_continues turn.task request _ _ apart continues _ (creating.knows request other old)
      · exact move_makes _ _ _ _ _ _ _ move census ⟨turn.task, false⟩ entry (by rw [named]; exact creating.made) looked
          (by rw [named]; exact recorded)
  | struck id op resume phase error found entry failing possible allowed shared counts =>
      obtain ⟨same, within⟩ := creating.own turn.task _ entry
      subst same
      obtain ⟨may, _⟩ := creating.plain _ (List.mem_of_getElem? found)
      have nothing := plain_leaves_nothing op may
      have alone : (watchedServer platform persistent threadId).leftover ⟨turn.task, false⟩ op = [] := nothing
      have counted := counts [] (by rw [alone]; exact List.Forall₂.nil)
      have unchanged : ((watchedServer platform persistent threadId).step pool turn).shared = pool.shared := by
        rw [shared]
        exact congrArg (fun state => (state, pool.shared.2)) (plain_struck _ op may error pool.shared.1)
      have waiting : phase ≠ .returned := by
        intro done
        subst done
        exact allowed
      rw [List.map_nil, List.append_nil, show ((creationOrder platform persistent creations threadId).protocol _).next
        phase op (.error error) = .failed error from next_failed phase op error] at counted
      refine .failed phase error entry (by rw [failing]; simp) (plain_cancelled _ op may error possible) unchanged
        ⟨counted, plain, fun request other member => ?_, fun request other member => ?_, fun looked recorded => ?_⟩
      · rcases set_entries _ _ _ _ _ member with ⟨rfl, rfl⟩ | ⟨_, old⟩
        · exact ⟨rfl, within⟩
        · exact creating.own request other old
      · rw [unchanged]
        rcases set_entries _ _ _ _ _ member with ⟨rfl, rfl⟩ | ⟨_, old⟩
        · exact Or.inl (plain_cancelled _ op may error possible)
        · exact creating.knows request other old
      · rw [unchanged] at looked recorded
        exact returned_elsewhere census turn.task _ _ _ entry waiting (creating.made looked recorded)
  | abandoned id left rest phase found entry shared counts =>
      exact (creating.plain _ (List.mem_of_getElem? found)).elim

-- One creation at most has answered with the thread, the record holds its metadata, and
-- none was too large.
structure Exclusive (creations : List (RequestContext × Option Metadata)) (threadId : String)
    (shared : ServerState × List Nat) (census : List (TaskId × CreationPhase)) : Prop where
  one : ∀ (first second : Nat) entry other, census[first]? = some entry → census[second]? = some other →
    entry.2 = .returned → other.2 = .returned → first = second
  kept : ∀ (request : Nat) entry, census[request]? = some entry → entry.2 = .returned →
    ∃ thread, shared.1.store.getThread threadId = some thread ∧
      thread.metadata = (madeBy creations threadId request).metadata
  fitted : ∀ (request : Nat) id message, census[request]? ≠ some (id, .failed (.threadStoreCapacity message))

end Pool

def TouchesRecord (threadId : String) : ServerOp → Prop
  | .getThread query => query = threadId
  | .putThread thread => thread.threadId = threadId
  | _ => False

-- A creation that found no record still finds none when it looks again or writes.
def StillMissing (threadId : String) (pool : Pool Api (ServerState × List Nat) TaskId) (turn : Turn Api) : Prop :=
  ∀ id op resume, pool.tasks[turn.task]? = some (id, .await op resume) → turn.failure = none →
    id.request ∈ pool.shared.2 → TouchesRecord threadId op → pool.shared.1.store.getThread threadId = none

def RecordFits (platform : Platform) (pool : Pool Api (ServerState × List Nat) TaskId) (turn : Turn Api) : Prop :=
  ∀ id thread resume, pool.tasks[turn.task]? = some (id, .await (.putThread thread) resume) → turn.failure = none →
    platform.threadJsonBytes thread ≤ pool.shared.1.store.maxThreadBytes

structure CreatedOnce (creations : List (RequestContext × Option Metadata)) (threadId : String)
    (pool : Pool Api ServerState TaskId) : Prop where
  one : ∀ (first second : Nat) id other, pool.tasks[first]? = some (id, .ret ()) → pool.tasks[second]? =
    some (other, .ret ()) →
    first = second
  others : ∀ task ∈ pool.tasks, task.2.Ended → task.2 = .ret () ∨ (∃ detail, task.2 = .raise (.http 409 detail)) ∨
    ∃ cause, task.2 = .raise (.cancelled cause)
  kept : ∀ (request : Nat) id, pool.tasks[request]? = some (id, .ret ()) → ∃ creation thread,
    creations[request]? = some creation ∧
    pool.shared.store.getThread threadId = some thread ∧ thread.metadata = creation.2.getD .empty

section Exactness

variable {platform : Platform} {persistent : Bool} {creations : List (RequestContext × Option Metadata)}
    {threadId : String} {pool : Pool Api (ServerState × List Nat) TaskId} {census : List (TaskId × CreationPhase)}

theorem returned_iff (creating : Creating platform persistent creations threadId pool census)
    (request : Nat) (id : TaskId) (program : Coro Api Unit) (found : pool.tasks[request]? = some (id, program)) :
    ∃ phase, census[request]? = some (id, phase) ∧ (program = .ret () ↔ phase = .returned) := by
  obtain ⟨⟨owner, phase⟩, entry, same, follows⟩ := forall₂_getElem? _ _ _ creating.counts request _ found
  have plain := creating.plain _ (List.mem_of_getElem? found)
  rw [show owner = id from same] at entry
  refine ⟨phase, entry, ?_⟩
  cases program with
  | ret value =>
      have answers : CreationPhase.Answers (.ok value) phase := follows
      cases phase with
      | returned => exact ⟨fun _ => rfl, fun _ => rfl⟩
      | refused => obtain ⟨_, other⟩ := answers; cases other
      | failed cause => obtain ⟨_, other, _⟩ := answers; cases other
      | fresh => exact answers.elim
      | unrecorded => exact answers.elim
      | absent => exact answers.elim
      | recovered => exact answers.elim
  | raise error =>
      have answers : CreationPhase.Answers (.error error) phase := follows
      refine ⟨fun other => (by cases other), fun done => ?_⟩
      rw [done] at answers
      cases answers
  | await op resume =>
      refine ⟨fun other => (by cases other), fun done => ?_⟩
      rw [show phase = .returned from done] at follows
      exact follows.1.elim
  | yield item next closing => exact plain.elim
  | abandon left rest => exact plain.elim

theorem oversized_answers (creating : Creating platform persistent creations threadId pool census)
    (request : Nat) (id : TaskId)
    (message : String) (found : census[request]? = some (id, .failed (.threadStoreCapacity message))) :
    ∃ task ∈ pool.tasks, task.2.Ended ∧ task.2 ≠ .ret () ∧ (∀ detail, task.2 ≠ .raise (.http 409 detail)) ∧
      ∀ cause, task.2 ≠ .raise (.cancelled cause) := by
  obtain ⟨⟨owner, program⟩, task, _, follows⟩ := forall₂_getElem? _ _ _ creating.counts.flip request _ found
  have member := List.mem_of_getElem? task
  have plain := creating.plain _ member
  refine ⟨_, member, ?_⟩
  cases program with
  | ret value =>
      obtain ⟨_, other, _⟩ := (follows : CreationPhase.Answers (.ok value) (.failed (.threadStoreCapacity message)))
      cases other
  | raise error =>
      obtain ⟨_, raised, given, _⟩ :=
        (follows : CreationPhase.Answers (.error error) (.failed (.threadStoreCapacity message)))
      cases raised
      rcases given with rfl | ⟨detail, rfl⟩
      · exact ⟨trivial, by simp, by simp, by simp⟩
      · exact ⟨trivial, by simp, by simp, by simp⟩
  | await op resume => exact follows.1.elim
  | yield item next closing => exact plain.elim
  | abandon left rest => exact plain.elim

theorem created_once_iff (creating : Creating platform persistent creations threadId pool census) :
    CreatedOnce creations threadId pool.seen ↔ Exclusive creations threadId pool.shared census := by
  have located : ∀ (request : Nat) entry, census[request]? = some entry → entry.2 = .returned →
      ∃ id, pool.tasks[request]? = some (id, .ret ()) := by
    intro request entry found done
    obtain ⟨⟨id, program⟩, task, _⟩ := forall₂_getElem? _ _ _ creating.counts.flip request _ found
    obtain ⟨phase, read, returned⟩ := returned_iff creating request id program task
    rw [found, Option.some.injEq] at read
    subst read
    exact ⟨id, (returned.mpr done) ▸ task⟩
  have metadata : ∀ (request : Nat) creation, creations[request]? = some creation →
      (madeBy creations threadId request).metadata = creation.2.getD .empty := by
    intro request creation listed
    rw [madeBy, listed]
    rfl
  constructor
  · intro created
    refine ⟨fun first second entry other found read done finished => ?_, fun request entry found done => ?_,
      fun request id message found => ?_⟩
    · obtain ⟨id, task⟩ := located first entry found done
      obtain ⟨id', task'⟩ := located second other read finished
      exact created.one first second id id' task task'
    · obtain ⟨id, task⟩ := located request entry found done
      obtain ⟨creation, thread, listed, recorded, same⟩ := created.kept request id task
      exact ⟨thread, recorded, same.trans (metadata request creation listed).symm⟩
    · obtain ⟨task, member, ended, other⟩ := oversized_answers creating request id message found
      rcases created.others task member ended with done | ⟨detail, refused⟩ | ⟨cause, cancelled⟩
      · exact other.1 done
      · exact other.2.1 detail refused
      · exact other.2.2 cause cancelled
  · intro exclusive
    refine ⟨fun first second id other task task' => ?_, fun task member ended => ?_, fun request id task => ?_⟩
    · obtain ⟨phase, entry, returned⟩ := returned_iff creating first id _ task
      obtain ⟨phase', entry', returned'⟩ := returned_iff creating second other _ task'
      exact exclusive.one first second _ _ entry entry' (returned.mp rfl) (returned'.mp rfl)
    · obtain ⟨id, program⟩ := task
      obtain ⟨request, found⟩ := List.getElem?_of_mem member
      obtain ⟨⟨owner, phase⟩, entry, same, follows⟩ := forall₂_getElem? _ _ _ creating.counts request _ found
      have knows := creating.knows request _ entry
      cases program with
      | ret value => exact Or.inl rfl
      | raise error =>
          have answers : CreationPhase.Answers (.error error) phase := follows
          cases phase with
          | refused =>
              obtain ⟨detail, refused⟩ := answers
              cases refused
              exact Or.inr (Or.inl ⟨detail, rfl⟩)
          | failed cause =>
              obtain ⟨given, raised, _, kept⟩ := answers
              cases raised
              rcases knows with cancelled | ⟨message, oversized⟩
              · rw [kept cancelled]
                cases cause with
                | cancelled reason => exact Or.inr (Or.inr ⟨reason, rfl⟩)
                | _ => cases cancelled
              · rw [oversized] at entry
                exact absurd entry (exclusive.fitted request owner message)
          | returned => cases answers
          | fresh => exact answers.elim
          | unrecorded => exact answers.elim
          | absent => exact answers.elim
          | recovered => exact answers.elim
      | await op resume => exact ended.elim
      | yield item next closing => exact ended.elim
      | abandon left rest => exact ended.elim
    · obtain ⟨phase, entry, returned⟩ := returned_iff creating request id _ task
      obtain ⟨thread, recorded, same⟩ := exclusive.kept request _ entry (returned.mp rfl)
      have listed := List.getElem?_eq_getElem (creating.own request _ entry).2
      exact ⟨_, thread, listed, recorded, same.trans (metadata request _ listed)⟩

theorem exclusive_waiting (before after : ServerState × List Nat) (position : Nat) (id : TaskId) (next : CreationPhase)
    (waiting : next ≠ .returned) (fits : ∀ message, next ≠ .failed (.threadStoreCapacity message))
    (store : after.1.store = before.1.store) (exclusive : Exclusive creations threadId before census) :
    Exclusive creations threadId after (census.set position (id, next)) := by
  have earlier : ∀ (request : Nat) entry, (census.set position (id, next))[request]? = some entry →
    entry.2 = .returned → census[request]? = some entry := by
    intro request entry found done
    rcases set_entries _ _ _ _ _ found with ⟨_, rfl⟩ | ⟨_, old⟩
    · exact absurd done waiting
    · exact old
  refine ⟨fun first second entry other found read done finished => ?_, fun request entry found done => ?_,
    fun request owner message found => ?_⟩
  · exact exclusive.one first second entry other (earlier first entry found done)
      (earlier second other read finished) done finished
  · rw [store]
    exact exclusive.kept request entry (earlier request entry found done) done
  · rcases set_entries _ _ _ _ _ found with ⟨_, same⟩ | ⟨_, old⟩
    · exact fits message (congrArg Prod.snd same).symm
    · exact exclusive.fitted request owner message old

theorem answered_twice (after : ServerState × List Nat) (position : Nat) (id : TaskId) (phase : CreationPhase)
    (entry : census[position]? = some (id, phase)) (waiting : phase ≠ .returned)
    (returned : ∃ request : Nat, ∃ entry, census[request]? = some entry ∧ entry.2 = .returned) :
    ¬ Exclusive creations threadId after (census.set position (id, .returned)) := by
  intro exclusive
  obtain ⟨request, other, found, done⟩ := returned
  have apart : position ≠ request := by
    intro same
    rw [← same, entry, Option.some.injEq] at found
    rw [← found] at done
    exact waiting done
  refine apart (exclusive.one position request (id, .returned) other ?_ ?_ rfl done)
  · exact List.getElem?_set_self (List.getElem?_eq_some_iff.mp entry).1
  · rw [List.getElem?_set_ne apart]
    exact found

-- A move leaves the creations exclusive exactly when no record has appeared meanwhile and
-- none is too large.
theorem move_exclusive_iff (request : Nat) (op : ServerOp) (phase next : CreationPhase)
    (before after : ServerState × List Nat)
    (move : CreationMove platform (madeBy creations threadId request) request before op phase after next) (id : TaskId)
    (entry : census[request]? = some (id, phase)) (knows : ∀ (other : Nat) entry, census[other]? = some entry →
      Knows threadId before other entry.2)
    (made : before.2 ≠ [] → (before.1.store.getThread threadId).isSome = true →
      ∃ request : Nat, ∃ entry, census[request]? = some entry ∧ entry.2 = .returned)
    (exclusive : Exclusive creations threadId before census) :
    Exclusive creations threadId after (census.set request (id, next)) ↔
      (request ∈ before.2 → TouchesRecord threadId op → before.1.store.getThread threadId = none) ∧
        ∀ thread, op = .putThread thread → platform.threadJsonBytes thread ≤ before.1.store.maxThreadBytes := by
  have named := made_by_named creations threadId request
  have known := knows request _ entry
  have waits : ∀ last, next = last → last ≠ .returned → (∀ message, last ≠ .failed (.threadStoreCapacity message)) →
      after.1.store = before.1.store → Exclusive creations threadId after (census.set request (id, next)) := by
    intro last same waiting fits store
    rw [same]
    exact exclusive_waiting before after request id last waiting fits store exclusive
  cases move with
  | missing absent =>
      exact ⟨fun _ => ⟨fun looked => absurd looked known, by simp⟩, fun _ => waits _ rfl (by simp) (by simp) rfl⟩
  | present =>
      exact ⟨fun _ => ⟨fun looked => absurd looked known, by simp⟩, fun _ => waits _ rfl (by simp) (by simp) rfl⟩
  | unseen absent =>
      exact ⟨fun _ => ⟨fun _ touches => touches.elim, by simp⟩, fun _ => waits _ rfl (by simp) (by simp) rfl⟩
  | seen => exact ⟨fun _ => ⟨fun _ touches => touches.elim, by simp⟩, fun _ => waits _ rfl (by simp) (by simp) rfl⟩
  | unseenStill =>
      exact ⟨fun _ => ⟨fun _ touches => touches.elim, by simp⟩, fun _ => waits _ rfl (by simp) (by simp) rfl⟩
  | still absent =>
      rw [named] at absent
      exact ⟨fun _ => ⟨fun _ _ => absent, by simp⟩, fun _ => waits _ rfl (by simp) (by simp) rfl⟩
  | meanwhile recorded =>
      rw [named] at recorded
      have twice : ¬ Exclusive creations threadId before (census.set request (id, .returned)) :=
        answered_twice before request id _ entry (by simp) (made (List.ne_nil_of_mem known.1) recorded)
      refine ⟨fun after => absurd after twice, fun missing => ?_⟩
      rw [missing.1 known.1 named] at recorded
      cases recorded
  | oversized message large =>
      have here := List.getElem?_set_self (a := (id, CreationPhase.failed (.threadStoreCapacity message)))
        (List.getElem?_eq_some_iff.mp entry).1
      refine ⟨fun after => absurd here (after.fitted request id message), fun missing => ?_⟩
      exact absurd large (Nat.not_lt.mpr (missing.2 _ rfl))
  | wrote fits =>
      constructor
      · intro after
        refine ⟨fun _ _ => ?_, fun thread same => ?_⟩
        · cases recorded : before.1.store.getThread threadId with
          | none => rfl
          | some record =>
              refine absurd after (answered_twice _ request id _ entry (by simp) (made (List.ne_nil_of_mem known.1) ?_))
              rw [recorded]
              rfl
        · cases same
          exact fits
      · intro missing
        have absent := missing.1 known.1 named
        have alone : ∀ (other : Nat) entry, (census.set request (id, .returned))[other]? = some entry →
          entry.2 = .returned → other = request := by
          intro other entry found done
          rcases set_entries _ _ _ _ _ found with ⟨same, _⟩ | ⟨_, old⟩
          · exact same
          · have recorded := knows other entry old
            rw [done] at recorded
            have present : (before.1.store.getThread threadId).isSome = true := recorded
            rw [absent] at present
            cases present
        refine ⟨fun first second entry other found read done finished => ?_, fun other entry found done => ?_,
          fun other owner message found => ?_⟩
        · exact (alone first entry found done).trans (alone second other read finished).symm
        · rw [alone other entry found done]
          have reads := put_thread_reads before.1.store (madeBy creations threadId request) fits
          rw [named] at reads
          exact ⟨_, reads, rfl⟩
        · rcases set_entries _ _ _ _ _ found with ⟨_, same⟩ | ⟨_, old⟩
          · cases same
          · exact exclusive.fitted other owner message old

theorem creation_kept (pool : Pool Api (ServerState × List Nat) TaskId) (census : List (TaskId × CreationPhase))
    (creating : Creating platform persistent creations threadId pool census) (turn : Turn Api) :
    ∃ after, Creating platform persistent creations threadId
      ((watchedServer platform persistent threadId).step pool turn) after := by
  cases creation_turn pool census creating turn with
  | idle same stuck => exact ⟨census, by rw [same]; exact creating⟩
  | moved op resume phase next found entry calm move later => exact ⟨_, later⟩
  | failed phase cause entry failing cancelled shared later => exact ⟨_, later⟩

theorem creation_exact (pool : Pool Api (ServerState × List Nat) TaskId) (census : List (TaskId × CreationPhase))
    (creating : Creating platform persistent creations threadId pool census) (turn : Turn Api)
    (good : CreatedOnce creations threadId pool.seen) :
    CreatedOnce creations threadId ((watchedServer platform persistent threadId).step pool turn).seen ↔
      StillMissing threadId pool turn ∧ RecordFits platform pool turn := by
  have exclusive := (created_once_iff creating).mp good
  cases creation_turn pool census creating turn with
  | idle same stuck =>
      rw [same]
      refine ⟨fun _ => ⟨fun id op resume found calm => absurd calm (stuck id op resume found),
        fun id thread resume found calm => absurd calm (stuck id _ resume found)⟩, fun _ => good⟩
  | moved op resume phase next found entry calm move later =>
      refine (created_once_iff later).trans ((move_exclusive_iff turn.task op phase next _ _ move _ entry creating.knows
        creating.made exclusive).trans ⟨fun held => ⟨?_, ?_⟩, fun held => ⟨held.1 _ op resume found calm, ?_⟩⟩)
      · intro id given continued read _ looked touches
        rw [found, Option.some.injEq, Prod.mk.injEq] at read
        obtain ⟨rfl, same⟩ := read
        cases same
        exact held.1 looked touches
      · intro id thread continued read _
        rw [found, Option.some.injEq, Prod.mk.injEq] at read
        obtain ⟨rfl, same⟩ := read
        cases same
        exact held.2 thread rfl
      · intro thread same
        subst same
        exact held.2 _ thread resume found calm
  | failed phase cause entry failing cancelled shared later =>
      refine ⟨fun _ => ⟨fun id op resume _ calm => absurd calm failing, fun id thread resume _ calm =>
        absurd calm failing⟩, fun _ => (created_once_iff later).mpr ?_⟩
      refine exclusive_waiting _ _ turn.task _ _ (by simp) (fun message same => ?_)
        (congrArg (fun state => state.1.store) shared) exclusive
      cases same
      cases cancelled

end Exactness

def createAll (platform : Platform) (config : ServerConfig) (threadId : String)
    (creations : List (RequestContext × Option Metadata)) : List (TaskId × Coro Api Unit) :=
  serveAll platform config (creations.map (fun creation =>
    (creation.1, .createThread ⟨some threadId, creation.2, some .raise⟩)))

theorem creation_plain (platform : Platform) (config : ServerConfig) (context : RequestContext) (threadId : String)
    (metadata : Option Metadata) : (createExclusively platform config context threadId metadata).Uses Plain := by
  refine Coro.uses_handle _ _ _ (Coro.uses_bind _ _ _ (create_thread_uses platform config context _)
    (fun _ => trivial)) (fun outcome => ?_)
  cases outcome <;> trivial

theorem creations_start (platform : Platform) (config : ServerConfig)
    (creations : List (RequestContext × Option Metadata))
    (threadId : String) (persists : config.checkpointer.isSome = true) (start : ServerState) :
    ∃ census, Creating platform config.checkpointer.isSome creations threadId
        ⟨(start, []), createAll platform config threadId creations⟩ census ∧
      Exclusive creations threadId (start, []) census := by
  have listed : createAll platform config threadId creations = creations.zipIdx.map (fun creation =>
      ((⟨creation.2, false⟩ : TaskId), createExclusively platform config creation.1.1 threadId creation.1.2)) := by
    rw [createAll, serveAll, List.zipIdx_map, List.map_map]
    rfl
  have entries : ∀ (request : Nat) entry,
    (creations.zipIdx.map (fun creation => ((⟨creation.2, false⟩ : TaskId), CreationPhase.fresh)))[request]? =
      some entry → entry = (⟨request, false⟩, .fresh) ∧ request < creations.length := by
    intro request entry found
    rw [List.getElem?_map, List.getElem?_zipIdx] at found
    cases read : creations[request]? with
    | none =>
        rw [read] at found
        cases found
    | some creation =>
        rw [read] at found
        simp only [Option.map_some, Nat.zero_add, Option.some.injEq] at found
        exact ⟨found.symm, (List.getElem?_eq_some_iff.mp read).1⟩
  have counts : (creationOrder platform config.checkpointer.isSome creations threadId).Counts
      (creations.zipIdx.map (fun creation => ((⟨creation.2, false⟩ : TaskId), CreationPhase.fresh)))
      (createAll platform config threadId creations) := by
    rw [listed]
    refine List.forall₂_map_left_iff.mpr
      (List.forall₂_map_right_iff.mpr (List.forall₂_same.mpr (fun creation member => ⟨rfl, ?_⟩)))
    obtain ⟨given, request⟩ := creation
    have made : madeBy creations threadId request = newThread given.1 threadId given.2 := by
      rw [madeBy, List.mem_zipIdx_iff_getElem?.mp member]
    have follows : (creationProtocol (newThread given.1 threadId given.2)).Follows .anything
        (createExclusively platform config given.1 threadId given.2) CreationPhase.Answers
          CreationPhase.Answers .fresh :=
      creation_follows given.2 persists
    rw [← made] at follows
    exact follows
  have plain : ∀ task ∈ createAll platform config threadId creations, task.2.Uses Plain := by
    intro task member
    rw [listed] at member
    obtain ⟨creation, _, rfl⟩ := List.mem_map.mp member
    exact creation_plain platform config creation.1.1 threadId creation.1.2
  refine ⟨_, ⟨counts, plain, fun request entry found => ?_, fun request entry found => ?_,
    fun looked => absurd rfl looked⟩, ?_⟩
  · rw [(entries request entry found).1]
    exact ⟨rfl, (entries request entry found).2⟩
  · rw [(entries request entry found).1]
    exact List.not_mem_nil
  · refine ⟨fun first second entry other found read done finished => ?_, fun request entry found done => ?_,
      fun request id message found => ?_⟩
    · rw [(entries first entry found).1] at done
      cases done
    · rw [(entries request entry found).1] at done
      cases done
    · cases (entries request _ found).1

-- The creations of one thread answer as they should in every state of a run exactly when,
-- throughout the run, a creation that found no record still finds none and none is too large.
theorem exclusive_creation_iff (platform : Platform) (config : ServerConfig)
    (creations : List (RequestContext × Option Metadata)) (threadId : String) (start : ServerState)
    (persists : config.checkpointer.isSome = true) (turns : List (Turn Api)) :
    Transition.Always (serverMachine platform config.checkpointer.isSome).step (CreatedOnce creations threadId)
      ⟨start, createAll platform config threadId creations⟩ turns ↔
    Transition.Meets (watchedServer platform config.checkpointer.isSome threadId).step
      (fun pool turn => StillMissing threadId pool turn ∧ RecordFits platform pool turn)
      ⟨(start, []), createAll platform config threadId creations⟩ turns := by
  obtain ⟨census, creating, exclusive⟩ := creations_start platform config creations threadId persists start
  refine ((serverMachine platform config.checkpointer.isSome).always_watched (observeLooks threadId)
    (CreatedOnce creations threadId) ⟨(start, []), createAll platform config threadId creations⟩ turns).symm.trans ?_
  refine Transition.always_iff_meets _ _
    (fun pool => ∃ census, Creating platform config.checkpointer.isSome creations threadId pool census)
    _ (fun pool turn kept => ?_) (fun pool turn kept good => ?_) _ ⟨census, creating⟩
      ((created_once_iff creating).mpr exclusive) turns
  · obtain ⟨before, creating⟩ := kept
    exact creation_kept pool before creating turn
  · obtain ⟨before, creating⟩ := kept
    exact creation_exact pool before creating turn good

instance touches_record_decidable (threadId : String) (op : ServerOp) : Decidable (TouchesRecord threadId op) := by
  unfold TouchesRecord
  split <;> infer_instance

def undisturbed (platform : Platform) (threadId : String) (pool : Pool Api (ServerState × List Nat) TaskId)
    (turn : Turn Api) :
    Bool :=
  match pool.tasks[turn.task]? with
  | some (id, .await op _) =>
      (!decide (id.request ∈ pool.shared.2 ∧ TouchesRecord threadId op) ||
        (pool.shared.1.store.getThread threadId).isNone) &&
        (match op with
          | .putThread thread => decide (platform.threadJsonBytes thread ≤ pool.shared.1.store.maxThreadBytes)
          | _ => true)
  | _ => true

theorem undisturbed_meets (platform : Platform) (threadId : String) (pool : Pool Api (ServerState × List Nat) TaskId)
    (turn : Turn Api) (calm : undisturbed platform threadId pool turn = true) :
    StillMissing threadId pool turn ∧ RecordFits platform pool turn := by
  refine ⟨fun id op resume found _ looked touches => ?_, fun id thread resume found _ => ?_⟩
  · rw [undisturbed, found] at calm
    have missing := (Bool.and_eq_true_iff.mp calm).1
    rw [decide_eq_true ⟨looked, touches⟩] at missing
    exact Option.isNone_iff_eq_none.mp missing
  · rw [undisturbed, found] at calm
    exact of_decide_eq_true (Bool.and_eq_true_iff.mp calm).2

def smallCreations : List (RequestContext × Option Metadata) :=
  [(smallContext, some (Dict.empty.set "by" (.str "first"))),
    (smallContext, some (Dict.empty.set "by" (.str "second")))]

def smallCreators : List (TaskId × Coro Api Unit) :=
  createAll smallPlatform (smallServerConfig smallGraph (some ⟨true⟩) none) "t" smallCreations

def oneByOne : List (Turn Api) := List.replicate 5 ⟨0, none⟩ ++ [⟨1, none⟩]

theorem exclusive_creation_one_by_one :
    Transition.Always (serverMachine smallPlatform true).step (CreatedOnce smallCreations "t")
      ⟨smallState 2 (by decide), smallCreators⟩ oneByOne := by
  have calm : Transition.Meets (watchedServer smallPlatform true "t").step
      (fun pool turn => undisturbed smallPlatform "t" pool turn = true)
      ⟨(smallState 2 (by decide), []), smallCreators⟩ oneByOne := by decide +kernel
  have meets := Transition.meets_imp _ _ _ (undisturbed_meets smallPlatform "t") _ _ calm
  exact (exclusive_creation_iff smallPlatform (smallServerConfig smallGraph (some ⟨true⟩) none) smallCreations "t"
    (smallState 2 (by decide)) rfl oneByOne).mpr meets

def answersThread : Option (TaskId × Coro Api Unit) → Bool
  | some (_, .ret _) => true
  | _ => false

theorem answers_thread (task : Option (TaskId × Coro Api Unit)) (answered : answersThread task = true) :
    ∃ id, task = some (id, .ret ()) := by
  rw [answersThread.eq_def] at answered
  split at answered
  · exact ⟨_, rfl⟩
  · cases answered

-- Both creations look before either has written, and the second replaces the record of the
-- first after the first has answered with it.
def racingCreations : List (Turn Api) :=
  List.replicate 4 ⟨0, none⟩ ++ List.replicate 4 ⟨1, none⟩ ++ [⟨0, none⟩, ⟨1, none⟩]

theorem racing_creations_both_answered :
    ¬ Transition.Always (serverMachine smallPlatform true).step (CreatedOnce smallCreations "t")
      ⟨smallState 2 (by decide), smallCreators⟩ racingCreations := by
  intro always
  have last := Transition.always_last _ _ _ _ always
  have both : (answersThread (Transition.run (serverMachine smallPlatform true).step
        ⟨smallState 2 (by decide), smallCreators⟩ racingCreations).tasks[0]? &&
      answersThread (Transition.run (serverMachine smallPlatform true).step
        ⟨smallState 2 (by decide), smallCreators⟩ racingCreations).tasks[1]?) = true := by decide +kernel
  rw [Bool.and_eq_true] at both
  obtain ⟨first, one⟩ := answers_thread _ both.1
  obtain ⟨second, two⟩ := answers_thread _ both.2
  exact absurd (last.one 0 1 first second one two) (by decide)

end LangGraphServer
