import LangGraphServer.Server.Openings

set_option autoImplicit false

namespace LangGraphServer

open Collections Coroutine

section Discreet

variable {S : Type} (platform : Platform) (config : ServerConfig) (id : TaskId) (saver : CheckpointSaver S)

-- An operation that sends nothing and leaves the leases and the owners as they are.
def Discreet (op : ServerOp) : Prop :=
  op.sent = none ∧ ∀ state : ServerState × S,
    (served platform config id saver state op).1.1.coordinator = state.1.coordinator ∧
      ∀ query, (served platform config id saver state op).1.1.ownerOf query = state.1.ownerOf query

theorem stream_steps_discreet (threadId : String) (op : ServerOp) (steps : StreamSteps threadId op) :
    Discreet platform config id saver op :=
  ⟨stream_steps_silent threadId op steps,
    fun state => served_stream_steps platform config id saver state threadId op steps⟩

theorem discreet_keeps {α : Type} (program : Coro Api α) (discreet : program.Awaits (Discreet platform config id saver))
    (state : ServerState × S) :
    (Coro.converse (served platform config id saver) state program).state.1.coordinator = state.1.coordinator ∧
      ∀ query, (Coro.converse (served platform config id saver) state program).state.1.ownerOf query =
        state.1.ownerOf query :=
  Coro.converse_keeps (I := Api) (served platform config id saver) (Discreet platform config id saver)
    (fun after => after.1.coordinator = state.1.coordinator ∧ ∀ query, after.1.ownerOf query = state.1.ownerOf query)
    (fun now _ step before =>
      ⟨(step.2 now).1.trans before.1, fun query => ((step.2 now).2 query).trans (before.2 query)⟩)
    program discreet state ⟨rfl, fun _ => rfl⟩

theorem discreet_silent {α : Type} (program : Coro Api α)
    (discreet : program.Awaits (Discreet platform config id saver)) :
    program.Awaits (fun op : ServerOp => op.sent = none) :=
  Coro.awaits_mono (I := Api) (Discreet platform config id saver) (fun _ discreetly => discreetly.1) program discreet

end Discreet

-- Where a request stands when its graph operation begins: with which lease and in which state,
-- and the thread store it uses, as it is then and as it is at the end.
structure Taken (S : Type) where
  lease : RunLease
  state : ServerState × S
  before : InMemoryThreadStore
  after : InMemoryThreadStore

section Refusals

variable {S : Type} (platform : Platform) (config : ServerConfig) (context : RequestContext) (id : TaskId)
    (saver : CheckpointSaver S)

def servedToEnd (start : ServerState × S) (operation : Operation) : Coro.Dialogue Api (ServerState × S) Unit :=
  Coro.converse (served platform config id saver) start (answerCall platform config context operation.call)

def threadedParts (threadId : String) (request : RunCreate) (opened : OpenedStream) (state : ServerState × S) :
    Parts (ServerState × S) :=
  streamParts platform context opened.assistant (served platform config id saver) (request.input.getD .empty) threadId
    opened.graph (resolveStreamModes request.streamMode opened.assistant) request.config request.checkpointId state

-- A request comes to its graph operation, and the saver's refusal ends that.
inductive RefusalEnds (start : ServerState × S) : Operation → Taken S → Prop where
  | run (threadId : String) (request : RunCreate) (opened : OpenedRun) (state : ServerState × S) (graph : GraphRuntime)
      (opens : Answers platform config id saver start (openCreateRun platform config context threadId request) opened
        state)
      (runtime : config.getGraphRuntime opened.assistant.assistantId = .ok graph)
      (refused : (Coro.converse (served platform config id saver) state
        (opened.operation graph threadId request)).outcome = .error .checkpointCapacity) :
      RefusalEnds start (.run threadId request) ⟨opened.lease, state, state.1.store,
        (servedToEnd platform config context id saver start (.run threadId request)).state.1.store⟩
  | stream (threadId : String) (request : RunCreate) (opened : OpenedStream) (state : ServerState × S)
      (opens : Answers platform config id saver start (openStreamRun platform config context threadId request) opened
        state)
      (busy : (threadedParts platform config context id saver threadId request opened state).busy.outcome = .ok ())
      (refused : (threadedParts platform config context id saver threadId request opened state).graph.outcome =
        .error .checkpointCapacity) :
      RefusalEnds start (.stream threadId request) ⟨opened.lease, state, state.1.store,
        (servedToEnd platform config context id saver start (.stream threadId request)).state.1.store⟩
  | stateless (request : RunCreate) (opened : OpenedStream) (store : InMemoryThreadStore) (state : ServerState × S)
      (opens : Answers platform config id saver start (openStateless platform config context request)
        (opened, store) state)
      (busy : (statelessParts platform context opened.assistant (served platform config id saver)
        opened.graph request store state).busy.outcome = .ok ())
      (refused : (statelessParts platform context opened.assistant (served platform config id saver)
        opened.graph request store state).graph.outcome = .error .checkpointCapacity) :
      RefusalEnds start (.stateless request) ⟨opened.lease, state, store,
        (statelessParts platform context opened.assistant (served platform config id saver) opened.graph request store
          state).last.2⟩
  | update (threadId : String) (request : StateUpdate) (lease : RunLease) (ready : ReadyUpdate)
      (state after : ServerState × S)
      (opens : Answers platform config id saver start (openUpdate platform config context threadId) lease state)
      (readies : Answers platform config id saver state (readyUpdate platform config context threadId request) ready
        after)
      (refused : (Coro.converse (served platform config id saver) after ready.operation).outcome =
        .error .checkpointCapacity) :
      RefusalEnds start (.update threadId request) ⟨lease, after, after.1.store,
        (servedToEnd platform config context id saver start (.update threadId request)).state.1.store⟩

-- The client is told of the capacity and of nothing else, the thread is without a lease and
-- with the owners it had, and a stream has left it idle.
structure CapacityReported (start : ServerState × S) (operation : Operation) (taken : Taken S) : Prop where
  answer : operation.streams = false → (servedToEnd platform config context id saver start operation).outcome =
    .error (.http 507 "Checkpoint capacity exceeded")
  event : operation.streams = true → (servedToEnd platform config context id saver start operation).outcome = .ok () ∧
    ∃ (text : String) (before : List StreamItem),
      streamError platform "Checkpoint capacity exceeded" "CHECKPOINT_CAPACITY_EXCEEDED" = .ok text ∧
      received (served platform config id saver) start (answerCall platform config context operation.call) =
        .start :: (before.flatMap bodyOf ++ [.body text, .finish]) ∧ ∀ item ∈ before, eventName item ≠ "error"
  lease : (servedToEnd platform config context id saver start operation).state.1.coordinator.active.get?
    (operation.call.threadId context) = none
  owners : ∀ query, (servedToEnd platform config context id saver start operation).state.1.ownerOf query =
    taken.state.1.ownerOf query
  owner : ∀ query, taken.after.getAssistantId query = taken.before.getAssistantId query
  kept : ∀ query owner, start.1.ownerOf query = some owner →
    (servedToEnd platform config context id saver start operation).state.1.ownerOf query = some owner
  idle : operation.streams = true → ∀ thread, taken.after.getThread (operation.call.threadId context) = some thread →
    thread.status = "idle"

-- The request is no state update, and the record of the thread it streams for can be written
-- as that of an idle thread.
def Reportable (operation : Operation) (before : InMemoryThreadStore) : Prop :=
  match operation with
  | .run _ _ => True
  | .stream threadId _ => IdleFits platform context before threadId
  | .stateless _ => IdleFits platform context before context.freshThreadId
  | .update _ _ => False

theorem refused_invocation (threadId : String) (request : RunCreate) (opened : OpenedRun) (state : ServerState × S)
    (graph : GraphRuntime) (runtime : config.getGraphRuntime opened.assistant.assistantId = .ok graph)
    (refused : (Coro.converse (served platform config id saver) state
      (opened.operation graph threadId request)).outcome = .error .checkpointCapacity) :
    (Coro.converse (served platform config id saver) state (invokeUnderLease config opened.assistant opened.payload
      (buildRunnableConfig threadId opened.assistant.assistantId request.config request.checkpointId))).outcome =
        .error (.http 507 "Checkpoint capacity exceeded") ∧
      (Coro.converse (served platform config id saver) state (invokeUnderLease config opened.assistant opened.payload
        (buildRunnableConfig threadId opened.assistant.assistantId request.config request.checkpointId))).state =
        (Coro.converse (served platform config id saver) state (opened.operation graph threadId request)).state := by
  let oracle := served platform config id saver
  let runnableConfig := buildRunnableConfig threadId opened.assistant.assistantId request.config request.checkpointId
  let body : Coro Api Unit := attempt (config.getGraphRuntime opened.assistant.assistantId) >>= fun graph =>
    invokeGraph opened.assistant graph opened.payload runnableConfig >>= fun _ => pure ()
  have invokes : body = invokeGraph opened.assistant graph opened.payload runnableConfig >>= fun _ => pure () := by
    show attempt (config.getGraphRuntime opened.assistant.assistantId) >>= _ = _
    rw [runtime]
    rfl
  have invoked : Coro.converse oracle state (invokeGraph opened.assistant graph opened.payload runnableConfig) =
      ⟨_, .error .checkpointCapacity, _⟩ :=
    Coro.converse_bind_error (I := Api) oracle (opened.operation graph threadId request) _ state
      .checkpointCapacity refused
  have failed := Coro.converse_bind_error (I := Api) oracle
    (invokeGraph opened.assistant graph opened.payload runnableConfig) (fun _ => (pure () : Coro Api Unit)) state
    .checkpointCapacity (congrArg Coro.Dialogue.outcome invoked)
  rw [← invokes, invoked] at failed
  have timed := with_timeout_passes config oracle body state .checkpointCapacity (fun same => by cases same)
    (congrArg Coro.Dialogue.outcome failed)
  rw [failed] at timed
  have caught : Coro.converse oracle state (invokeUnderLease config opened.assistant opened.payload runnableConfig) =
    _ :=
    Coro.converse_catch_error (I := Api) oracle (withTimeout config.runTimeoutSeconds body) _ state .checkpointCapacity
      (congrArg Coro.Dialogue.outcome timed)
  rw [caught, timed]
  exact ⟨rfl, rfl⟩

theorem refused_update (ready : ReadyUpdate) (state : ServerState × S)
    (refused : (Coro.converse (served platform config id saver) state ready.operation).outcome =
      .error .checkpointCapacity) :
    (Coro.converse (served platform config id saver) state (ready.bounded config)).outcome = .error
      .checkpointCapacity ∧ (Coro.converse (served platform config id saver) state (ready.bounded config)).state =
        (Coro.converse (served platform config id saver) state ready.operation).state := by
  let oracle := served platform config id saver
  have timed := with_timeout_passes config oracle ready.operation state .checkpointCapacity
    (fun same => by cases same) refused
  have caught : Coro.converse oracle state (ready.bounded config) = _ :=
    Coro.converse_catch_error (I := Api) oracle (withTimeout config.runTimeoutSeconds ready.operation) _ state
      .checkpointCapacity ((congrArg Coro.Dialogue.outcome timed).trans refused)
  rw [caught, timed]
  exact ⟨rfl, rfl⟩

theorem released_after {α : Type} (program : Coro Api α) (lease : RunLease) (state : ServerState × S) :
    (Coro.converse (served platform config id saver) state (program.tryFinally (perform (.release lease)))).outcome =
        (Coro.converse (served platform config id saver) state program).outcome ∧
      (Coro.converse (served platform config id saver) state (program.tryFinally (perform (.release lease)))).state =
        (served platform config id saver (Coro.converse (served platform config id saver) state program).state
          (.release lease)).1 := by
  rw [Coro.converse_finally, converse_perform]
  exact ⟨rfl, rfl⟩

theorem refused_run_ends (threadId : String) (request : RunCreate) (opened : OpenedRun) (start state : ServerState × S)
    (graph : GraphRuntime)
    (opens : Answers platform config id saver start (openCreateRun platform config context threadId request) opened
      state)
    (runtime : config.getGraphRuntime opened.assistant.assistantId = .ok graph)
    (refused : (Coro.converse (served platform config id saver) state
      (opened.operation graph threadId request)).outcome = .error .checkpointCapacity) :
    (servedToEnd platform config context id saver start (.run threadId request)).outcome =
        .error (.http 507 "Checkpoint capacity exceeded") ∧
      (servedToEnd platform config context id saver start (.run threadId request)).state =
        (served platform config id saver (Coro.converse (served platform config id saver) state
          (opened.operation graph threadId request)).state (.release opened.lease)).1 := by
  obtain ⟨answered, after⟩ := refused_invocation platform config id saver threadId request opened state
    graph runtime refused
  obtain ⟨outcome, released⟩ := released_after platform config id saver
    (invokeUnderLease config opened.assistant opened.payload
      (buildRunnableConfig threadId opened.assistant.assistantId request.config request.checkpointId))
      opened.lease state
  rw [answered] at outcome
  rw [after] at released
  have whole : Coro.converse (served platform config id saver) state
    (finishRun config context threadId request opened) =
      ⟨_, _, _⟩ :=
    Coro.converse_bind_error (I := Api) (served platform config id saver) _ _ state _ outcome
  have opened_run := opened_then platform config id saver (openCreateRun platform config context threadId request)
    (finishRun config context threadId request) start state opened opens
  rw [← create_run_opening, whole] at opened_run
  obtain ⟨answer, last⟩ := answer_fails platform config id saver (createRun platform config context threadId request)
    (fun result => (pure (.run result) : Coro Api Response)) start _ (congrArg Coro.Dialogue.outcome opened_run)
  refine ⟨answer, last.trans ?_⟩
  rw [opened_run, released]

-- No clause of the update names the capacity error, so it leaves the handler as it is.
theorem refused_update_ends (threadId : String) (request : StateUpdate) (lease : RunLease) (ready : ReadyUpdate)
    (start state after : ServerState × S)
    (opens : Answers platform config id saver start (openUpdate platform config context threadId) lease state)
    (readies : Answers platform config id saver state (readyUpdate platform config context threadId request) ready
      after)
    (refused : (Coro.converse (served platform config id saver) after ready.operation).outcome =
      .error .checkpointCapacity) :
    (servedToEnd platform config context id saver start (.update threadId request)).outcome = .error
      .checkpointCapacity ∧ (servedToEnd platform config context id saver start (.update threadId request)).state =
        (served platform config id saver (Coro.converse (served platform config id saver) after ready.operation).state
          (.release lease)).1 := by
  let oracle := served platform config id saver
  have readied : Coro.converse oracle state (readyUpdate platform config context threadId request) =
    ⟨[], .ok ready, after⟩ := readies
  have updated := Coro.converse_bind_ok (I := Api) oracle (readyUpdate platform config context threadId request)
    (fun ready => ready.bounded config) state ready (congrArg Coro.Dialogue.outcome readied)
  rw [← update_under_lease_ready, readied] at updated
  obtain ⟨failed, operated⟩ := refused_update platform config id saver ready after refused
  obtain ⟨outcome, released⟩ := released_after platform config id saver
    (updateUnderLease platform config context threadId request) lease state
  rw [updated] at outcome released
  have whole : Coro.converse oracle state (finishUpdate platform config context threadId request lease) = ⟨_, _, _⟩ :=
    Coro.converse_bind_error (I := Api) oracle _ _ state _ (outcome.trans failed)
  have opened_update := opened_then platform config id saver (openUpdate platform config context threadId)
    (finishUpdate platform config context threadId request) start state lease opens
  rw [← update_state_opening, whole] at opened_update
  obtain ⟨answer, last⟩ := answer_fails platform config id saver (updateState platform config context threadId request)
    (fun checkpoint => (pure (.stateUpdate checkpoint) : Coro Api Response)) start _
    (congrArg Coro.Dialogue.outcome opened_update)
  refine ⟨answer, last.trans ?_⟩
  rw [opened_update, released]
  exact congrArg (fun now => (oracle now (.release lease)).1) operated

def streamed (generator : Coro Api Unit) (lease : RunLease) : Coro Api Unit :=
  respond platform (runWithLease platform config generator lease) (perform (.release lease))

theorem served_sends (state : ServerState × S) (message : AsgiMessage) :
    served platform config id saver state (.send message) = (state, .ok ()) := rfl

-- However its sending ends, the lease has been given back once or twice, and the rest is as the
-- generator has left it.
theorem streamed_state (generator : Coro Api Unit) (lease : RunLease) (state : ServerState × S) :
    let oracle := served platform config id saver
    let once := (oracle (Coro.converse oracle state generator).state (.release lease)).1
    (Coro.converse oracle state (streamed platform config generator lease)).state = once ∨
      (Coro.converse oracle state (streamed platform config generator lease)).state =
        (oracle once (.release lease)).1 := by
  intro oracle once
  have leased := run_with_lease_state platform config oracle generator lease state
  have background : ∀ now, (Coro.converse oracle now (perform (.release lease))).state =
    (oracle now (.release lease)).1 := by
    intro now
    rw [converse_perform]
  cases ended : (Coro.converse oracle state (runWithLease platform config generator lease)).outcome with
  | ok value =>
      have done := (respond_ends platform oracle (served_sends platform config id saver) _
        (perform (.release lease)) state ended).1
      rw [leased, background] at done
      exact Or.inr done
  | error error =>
      rcases respond_fails platform oracle (served_sends platform config id saver) _
        (perform (.release lease)) state error ended with kept | done
      · exact Or.inl (kept.trans leased)
      · rw [leased, background] at done
        exact Or.inr done

theorem streamed_ends (generator : Coro Api Unit) (lease : RunLease) (state : ServerState × S)
    (discreet : generator.Awaits (Discreet platform config id saver))
    (ended : (Coro.converse (served platform config id saver) state generator).outcome = .ok ()) :
    (Coro.converse (served platform config id saver) state (streamed platform config generator lease)).outcome =
    .ok () ∧ received (served platform config id saver) state (streamed platform config generator lease) =
        .start :: ((Coro.converse (served platform config id saver) state generator).items.flatMap bodyOf ++
          [.finish]) := by
  let oracle := served platform config id saver
  obtain ⟨outcome, items⟩ := run_with_lease_ends platform config oracle generator lease state ended (fun _ => rfl)
  have silent : (runWithLease platform config generator lease).Awaits (fun op : ServerOp => op.sent = none) :=
    run_with_lease_awaits platform config generator lease rfl
      (discreet_silent platform config id saver generator discreet)
  obtain ⟨_, after, heard⟩ := respond_ends platform oracle (served_sends platform config id saver) _
    (perform (.release lease)) state outcome
  have sent := sending_received oracle (served_sends platform config id saver) _ silent state outcome
  rw [items] at sent
  rw [sent, received_perform] at heard
  refine ⟨after.trans ?_, heard.trans (List.append_nil _)⟩
  rw [converse_perform]
  rfl

structure StreamedEnd (generator : Coro Api Unit) (threadId : String) (state last : ServerState × S) : Prop where
  store : last.1.store = (Coro.converse (served platform config id saver) state generator).state.1.store
  owners : ∀ query, last.1.ownerOf query = state.1.ownerOf query
  lease : last.1.coordinator.active.get? threadId = none

theorem streamed_end (generator : Coro Api Unit) (threadId : String) (lease : RunLease) (state : ServerState × S)
    (discreet : generator.Awaits (Discreet platform config id saver)) (holding : Holding state threadId lease) :
    StreamedEnd platform config id saver generator threadId state
      (Coro.converse (served platform config id saver) state (streamed platform config generator lease)).state := by
  obtain ⟨coordinator, owners⟩ := discreet_keeps platform config id saver generator discreet state
  obtain ⟨same, held⟩ := holding
  subst same
  have free : ((Coro.converse (served platform config id saver) state generator).state.1.coordinator.release
      lease).active.get? lease.threadId = none := by
    rw [coordinator]
    exact release_frees state.1.coordinator lease held
  rcases streamed_state platform config id saver generator lease state with once | twice
  · rw [once]
    exact ⟨rfl, owners, free⟩
  · rw [twice]
    exact ⟨rfl, owners, release_keeps_free _ lease _ free⟩

theorem told_of_capacity (generator : Coro Api Unit) (lease : RunLease) (state : ServerState × S)
    (discreet : generator.Awaits (Discreet platform config id saver))
    (ended : (Coro.converse (served platform config id saver) state generator).outcome = .ok ())
    (items : ∃ text before,
      streamError platform "Checkpoint capacity exceeded" "CHECKPOINT_CAPACITY_EXCEEDED" = .ok text ∧
        (Coro.converse (served platform config id saver) state generator).items = before ++ [.event text] ∧
        ∀ item ∈ before, eventName item ≠ "error") :
    (Coro.converse (served platform config id saver) state (streamed platform config generator lease)).outcome =
    .ok () ∧ ∃ (text : String) (before : List StreamItem),
        streamError platform "Checkpoint capacity exceeded" "CHECKPOINT_CAPACITY_EXCEEDED" = .ok text ∧
        received (served platform config id saver) state (streamed platform config generator lease) =
          .start :: (before.flatMap bodyOf ++ [.body text, .finish]) ∧ ∀ item ∈ before, eventName item ≠ "error" := by
  obtain ⟨text, before, written, shape, others⟩ := items
  obtain ⟨outcome, heard⟩ := streamed_ends platform config id saver generator lease state discreet ended
  refine ⟨outcome, text, before, written, ?_, others⟩
  rw [heard, shape, List.flatMap_append, List.append_assoc]
  rfl

theorem run_reported (start : ServerState × S) (threadId : String) (request : RunCreate) (opened_ : OpenedRun)
    (state : ServerState × S) (graph : GraphRuntime)
    (opens : Answers platform config id saver start (openCreateRun platform config context threadId request) opened_
      state)
    (runtime : config.getGraphRuntime opened_.assistant.assistantId = .ok graph)
    (refused : (Coro.converse (served platform config id saver) state
      (opened_.operation graph threadId request)).outcome = .error .checkpointCapacity) :
    CapacityReported platform config context id saver start (.run threadId request)
      ⟨opened_.lease, state, state.1.store,
        (servedToEnd platform config context id saver start (.run threadId request)).state.1.store⟩ := by
  have whole : Coro.converse (served platform config id saver) start
    (openCreateRun platform config context threadId request) =
      ⟨[], .ok opened_, state⟩ := opens
  have kept := (opened platform config id saver _ (open_create_run_opens platform config context threadId request)
    start).owners
  rw [whole] at kept
  obtain ⟨same, held⟩ := open_create_run_holding platform config context id saver threadId request opened_
    start state opens
  obtain ⟨answer, after⟩ := refused_run_ends platform config context id saver threadId request opened_ start
    state graph opens runtime refused
  have marks := build_runnable_config_marks threadId opened_.assistant.assistantId request.config request.checkpointId
  have discreet : (opened_.operation graph threadId request).Awaits (Discreet platform config id saver) :=
    Coro.awaits_mono (I := Api) (GraphSteps threadId)
      (fun op steps => stream_steps_discreet platform config id saver threadId op (.graph op steps)) _
      (mutating_awaits _ _ (graph_steps_allowed _ _ marks.thread) _ (GraphCall.writes_any _))
  obtain ⟨coordinator, owners⟩ := discreet_keeps platform config id saver _ discreet state
  have owners' : ∀ query, (servedToEnd platform config context id saver start (.run threadId request)).state.1.ownerOf
    query = state.1.ownerOf query := by
    rw [after]
    exact owners
  refine ⟨fun _ => answer, fun streams => (by cases streams), ?_, owners', owners', fun query owner owned =>
    (owners' query).trans (kept query owner owned), fun streams => (by cases streams)⟩
  rw [after]
  subst same
  show ((Coro.converse _ state _).state.1.coordinator.release opened_.lease).active.get? opened_.lease.threadId = none
  rw [coordinator]
  exact release_frees state.1.coordinator opened_.lease held

structure EndsStreaming (operation : Operation) (generator : Coro Api Unit) (lease : RunLease)
    (start state : ServerState × S) :
    Prop where
  outcome : (servedToEnd platform config context id saver start operation).outcome =
    (Coro.converse (served platform config id saver) state (streamed platform config generator lease)).outcome
  last : (servedToEnd platform config context id saver start operation).state =
    (Coro.converse (served platform config id saver) state (streamed platform config generator lease)).state
  heard : received (served platform config id saver) start (answerCall platform config context operation.call) =
    received (served platform config id saver) state (streamed platform config generator lease)
  kept : ∀ query owner, start.1.ownerOf query = some owner → state.1.ownerOf query = some owner
  holding : Holding state (operation.call.threadId context) lease
  discreet : generator.Awaits (Discreet platform config id saver)

theorem stream_reported (operation : Operation) (generator : Coro Api Unit) (lease : RunLease)
    (start state : ServerState × S)
    (before after : InMemoryThreadStore) (streams : operation.streams = true)
    (ends : EndsStreaming platform config context id saver operation generator lease start state)
    (ended : (Coro.converse (served platform config id saver) state generator).outcome = .ok ())
    (items : ∃ text before,
      streamError platform "Checkpoint capacity exceeded" "CHECKPOINT_CAPACITY_EXCEEDED" = .ok text ∧
        (Coro.converse (served platform config id saver) state generator).items = before ++ [.event text] ∧
        ∀ item ∈ before, eventName item ≠ "error")
    (owner : ∀ query, after.getAssistantId query = before.getAssistantId query)
    (idle : ∀ thread, after.getThread (operation.call.threadId context) = some thread → thread.status = "idle") :
    CapacityReported platform config context id saver start operation ⟨lease, state, before, after⟩ := by
  obtain ⟨outcome, told⟩ := told_of_capacity platform config id saver generator lease state ends.discreet ended items
  have last := streamed_end platform config id saver generator _ lease state ends.discreet ends.holding
  rw [← ends.last] at last
  rw [← ends.heard] at told
  exact ⟨fun other => (by cases streams.symm.trans other), fun _ => ⟨ends.outcome.trans outcome, told⟩,
    last.lease, last.owners, owner, fun query owner owned => (last.owners query).trans (ends.kept query owner owned),
      fun _ => idle⟩

theorem threaded_ends_streaming (threadId : String) (request : RunCreate) (opened_ : OpenedStream)
    (start state : ServerState × S)
    (opens : Answers platform config id saver start (openStreamRun platform config context threadId request)
      opened_ state) :
    EndsStreaming platform config context id saver (.stream threadId request) (streamGraphResponse platform context
      opened_.assistant (request.input.getD .empty) threadId opened_.graph
        (resolveStreamModes request.streamMode opened_.assistant)
      request.config request.checkpointId) opened_.lease start state := by
  have whole : Coro.converse (served platform config id saver) start
    (openStreamRun platform config context threadId request) =
      ⟨[], .ok opened_, state⟩ := opens
  have steps := open_stream_run_opens platform config context threadId request
  have kept := (opened platform config id saver _ steps start).owners
  rw [whole] at kept
  let rest := fun opened : OpenedStream =>
    streamResponse platform config context threadId request opened.assistant opened.graph opened.lease
  have reached := opened_then platform config id saver _ rest start state opened_ opens
  have heard := opened_receives platform config id saver _ rest start state opened_ opens steps
  rw [← stream_run_opening] at reached heard
  obtain ⟨outcome, last, told⟩ := answer_streamed platform config id saver
    (streamRunWithThread platform config context threadId request) start
  rw [reached] at outcome last
  rw [heard] at told
  exact ⟨outcome, last, told, kept,
    open_stream_run_holding platform config context id saver threadId request opened_ start state opens,
    Coro.awaits_mono (I := Api) (StreamSteps threadId) (stream_steps_discreet platform config id saver threadId) _
      (stream_graph_response_steps platform context opened_.assistant _ opened_.graph _ _ _)⟩

theorem stateless_ends_streaming (request : RunCreate) (opened_ : OpenedStream) (store : InMemoryThreadStore)
    (start state : ServerState × S)
    (opens : Answers platform config id saver start (openStateless platform config context request)
      (opened_, store) state) :
    EndsStreaming platform config context id saver (.stateless request)
      (statelessGenerator platform config context request opened_.assistant opened_.graph store) opened_.lease
        start state := by
  have whole : Coro.converse (served platform config id saver) start (openStateless platform config context request) =
      ⟨[], .ok (opened_, store), state⟩ := opens
  have steps := open_stateless_opens platform config context request
  have kept := (opened platform config id saver _ steps start).owners
  rw [whole] at kept
  have reached := opened_then platform config id saver _ (finishStateless platform config context request)
    start state _ opens
  have heard := opened_receives platform config id saver _ (finishStateless platform config context request)
    start state _ opens steps
  rw [← stateless_opening] at reached heard
  exact ⟨congrArg Coro.Dialogue.outcome reached, congrArg Coro.Dialogue.state reached, heard, kept,
    (open_stateless_holding platform config context id saver request (opened_, store) start state opens).1,
    stateless_generator_awaits platform config context request opened_.assistant opened_.graph store
      (stream_steps_discreet platform config id saver context.freshThreadId)
      ⟨rfl, fun _ => ⟨rfl, fun _ => rfl⟩⟩⟩

theorem threaded_reported_iff (dumps : DumpsPlain platform) (threadId : String) (request : RunCreate)
    (opened_ : OpenedStream) (start state : ServerState × S) (keyed : start.1.store.Keyed)
    (opens : Answers platform config id saver start (openStreamRun platform config context threadId request) opened_
      state)
    (busy : (threadedParts platform config context id saver threadId request opened_ state).busy.outcome = .ok ())
    (refused : (threadedParts platform config context id saver threadId request opened_ state).graph.outcome =
      .error .checkpointCapacity) :
    CapacityReported platform config context id saver start (.stream threadId request)
        ⟨opened_.lease, state, state.1.store,
          (servedToEnd platform config context id saver start (.stream threadId request)).state.1.store⟩ ↔
      IdleFits platform context state.1.store threadId := by
  have whole : Coro.converse (served platform config id saver) start
    (openStreamRun platform config context threadId request) =
      ⟨[], .ok opened_, state⟩ := opens
  have now := (opened platform config id saver _ (open_stream_run_opens platform config context threadId request)
    start).keyed keyed
  rw [whole] at now
  have stream := refused_stream platform context opened_.assistant (served platform config id saver)
    (fun state => state.1.store) (request.input.getD .empty) threadId opened_.graph
    (resolveStreamModes request.streamMode opened_.assistant) request.config request.checkpointId
    (served_keeps_store platform config id saver) dumps state now busy refused
  have ends := threaded_ends_streaming platform config context id saver threadId request opened_ start state opens
  have last := streamed_end platform config id saver _ _ opened_.lease state ends.discreet ends.holding
  rw [← ends.last] at last
  constructor
  · intro reported
    by_cases fits : IdleFits platform context state.1.store threadId
    · exact fits
    · obtain ⟨thread, found, status⟩ := stream.stuck fits
      rw [← last.store] at found
      exact absurd (status.symm.trans (reported.idle rfl thread found)) (by decide)
  · intro fits
    obtain ⟨ended, idle⟩ := stream.restored fits
    have owner := stream.owner
    rw [← last.store] at idle owner
    exact stream_reported platform config context id saver (.stream threadId request) _ opened_.lease start
      state _ _ rfl ends ended stream.items owner idle

theorem delete_generated_ends (threadId : String) (state : ServerState × S) :
    (Coro.converse (served platform config id saver) state (deleteGenerated config threadId)).outcome = .ok () := by
  rw [deleteGenerated]
  split
  · rfl
  · split
    · rfl
    · rfl

theorem stateless_reported_iff (dumps : DumpsPlain platform) (request : RunCreate) (opened_ : OpenedStream)
    (store : InMemoryThreadStore) (start state : ServerState × S)
    (opens : Answers platform config id saver start (openStateless platform config context request)
      (opened_, store) state)
    (busy : (statelessParts platform context opened_.assistant (served platform config id saver)
      opened_.graph request store state).busy.outcome = .ok ())
    (refused : (statelessParts platform context opened_.assistant (served platform config id saver)
      opened_.graph request store state).graph.outcome = .error .checkpointCapacity) :
    CapacityReported platform config context id saver start (.stateless request) ⟨opened_.lease, state, store,
        (statelessParts platform context opened_.assistant (served platform config id saver) opened_.graph request store
          state).last.2⟩ ↔ IdleFits platform context store context.freshThreadId := by
  let oracle := served platform config id saver
  let modes := resolveStreamModes request.streamMode opened_.assistant
  have stream := refused_stream platform context opened_.assistant (keptOracle platform oracle) Prod.snd
    (request.input.getD .empty) context.freshThreadId opened_.graph modes request.config request.checkpointId
    (kept_keeps_store platform config id saver) dumps (state, store)
    (open_stateless_holding platform config context id saver request (opened_, store) start state opens).2 busy refused
  have parts := (stream_graph_response_ends platform context opened_.assistant (keptOracle platform oracle)
    (request.input.getD .empty) context.freshThreadId opened_.graph modes request.config request.checkpointId dumps
    (state, store)).state
  obtain ⟨items, outcome⟩ := converse_stateless platform config oracle context request opened_.assistant
    opened_.graph store state
  have told := stream.items
  have owner := stream.owner
  have ends := stateless_ends_streaming platform config context id saver request opened_ store start state opens
  rw [← items] at told
  rw [parts] at owner
  constructor
  · intro reported
    by_cases fits : IdleFits platform context store context.freshThreadId
    · exact fits
    · obtain ⟨thread, found, status⟩ := stream.stuck fits
      rw [parts] at found
      exact absurd (status.symm.trans (reported.idle rfl thread found)) (by decide)
  · intro fits
    obtain ⟨ended, idle⟩ := stream.restored fits
    rw [parts] at idle
    have whole := delete_generated_ends platform config id saver context.freshThreadId
    rw [ended, whole] at outcome
    exact stream_reported platform config context id saver (.stateless request) _ opened_.lease start state _ _ rfl ends
      outcome told owner idle

theorem update_cleans_up (threadId : String) (request : StateUpdate) (lease : RunLease) (ready : ReadyUpdate)
    (start state after : ServerState × S)
    (opens : Answers platform config id saver start (openUpdate platform config context threadId) lease state)
    (readies : Answers platform config id saver state (readyUpdate platform config context threadId request) ready
      after)
    (refused : (Coro.converse (served platform config id saver) after ready.operation).outcome =
      .error .checkpointCapacity) :
    (servedToEnd platform config context id saver start (.update threadId request)).state.1.coordinator.active.get?
      threadId = none ∧
      ∀ query, (servedToEnd platform config context id saver start (.update threadId request)).state.1.ownerOf query =
        after.1.ownerOf query := by
  obtain ⟨same, held⟩ := open_update_holding platform config context id saver threadId lease start state opens
  have readied := ready_update_coordinator platform config context id saver threadId request ready state after readies
  have thread := ready_update_thread platform config context id saver threadId request ready state after readies
  have discreet : ready.operation.Awaits (Discreet platform config id saver) :=
    Coro.awaits_mono (I := Api) (GraphSteps threadId)
      (fun op steps => stream_steps_discreet platform config id saver threadId op (.graph op steps)) _
      (mutating_awaits _ _ (graph_steps_allowed _ _ thread) _ (GraphCall.writes_any _))
  obtain ⟨coordinator, owners⟩ := discreet_keeps platform config id saver _ discreet after
  rw [(refused_update_ends platform config context id saver threadId request lease ready start state after opens readies
    refused).2]
  subst same
  refine ⟨?_, owners⟩
  show ((Coro.converse _ after _).state.1.coordinator.release lease).active.get? lease.threadId = none
  rw [coordinator, readied]
  exact release_frees state.1.coordinator lease held

-- Whatever the client is told, the lease is given back and the owners are left as they are.
theorem refused_operation_cleans_up (start : ServerState × S) (operation : Operation) (taken : Taken S)
    (ends : RefusalEnds platform config context id saver start operation taken) :
    (servedToEnd platform config context id saver start operation).state.1.coordinator.active.get?
        (operation.call.threadId context) = none ∧
      ∀ query, (servedToEnd platform config context id saver start operation).state.1.ownerOf query =
        taken.state.1.ownerOf query := by
  cases ends with
  | run threadId request opened_ state graph opens runtime refused =>
      have reported := run_reported platform config context id saver start threadId request opened_ state
        graph opens runtime refused
      exact ⟨reported.lease, reported.owners⟩
  | stream threadId request opened_ state opens busy refused =>
      have streaming := threaded_ends_streaming platform config context id saver threadId request opened_
        start state opens
      have last := streamed_end platform config id saver _ _ opened_.lease state streaming.discreet streaming.holding
      rw [← streaming.last] at last
      exact ⟨last.lease, last.owners⟩
  | stateless request opened_ store state opens busy refused =>
      have streaming := stateless_ends_streaming platform config context id saver request opened_ store
        start state opens
      have last := streamed_end platform config id saver _ _ opened_.lease state streaming.discreet streaming.holding
      rw [← streaming.last] at last
      exact ⟨last.lease, last.owners⟩
  | update threadId request lease ready state after opens readies refused =>
      exact update_cleans_up platform config context id saver threadId request lease ready start state after
        opens readies refused

-- Where the saver's refusal ends the graph operation of a request, the capacity is reported and
-- everything cleaned up, but for a state update and for a stream that cannot write its thread idle.
theorem capacity_reported_iff (dumps : DumpsPlain platform) (start : ServerState × S) (keyed : start.1.store.Keyed)
    (operation : Operation) (taken : Taken S)
    (ends : RefusalEnds platform config context id saver start operation taken) :
    CapacityReported platform config context id saver start operation taken ↔
      Reportable platform context operation taken.before := by
  cases ends with
  | run threadId request opened_ state graph opens runtime refused =>
      exact ⟨fun _ => trivial, fun _ => run_reported platform config context id saver start threadId request
        opened_ state graph opens runtime refused⟩
  | stream threadId request opened_ state opens busy refused =>
      exact threaded_reported_iff platform config context id saver dumps threadId request opened_ start state
        keyed opens busy refused
  | stateless request opened_ store state opens busy refused =>
      exact stateless_reported_iff platform config context id saver dumps request opened_ store start state
        opens busy refused
  | update threadId request lease ready state after opens readies refused =>
      constructor
      · intro reported
        have answer := reported.answer rfl
        rw [(refused_update_ends platform config context id saver threadId request lease ready start state
          after opens readies refused).1] at answer
        cases answer
      · exact fun never => never.elim

end Refusals

def cappedSaver (maxCheckpointsPerThread : Nat) : CheckpointSaver Unit where
  aput kept saved given item := match given.entry? "thread_id" with
    | some (.str threadId) =>
        if maxCheckpointsPerThread ≤ ((saved.get? threadId).getD []).length
          then (kept, saved, .error .checkpointCapacity)
        else (kept, saved.set threadId (item :: (saved.get? threadId).getD []), .ok ())
    | _ => (kept, saved, .ok ())

def numbered (checkpointId : String) : CheckpointItem where
  checkpointNs := ""
  checkpointId := checkpointId
  id := none
  ts := none
  channelValues := .empty
  metadata := none
  parentConfig := none
  keyed _ given := by cases given

def writing (checkpointId : String) (next : GraphCall) : GraphCall :=
  .write (numbered checkpointId) (fun answer => match answer with
    | .ok () => next
    | .error error => .fail error)

-- A graph of one step: it writes a checkpoint of its input and one of its output.
def steppingGraph : GraphRuntime where
  ainvoke _ _ := writing "1" (writing "2" (.done (.dict [])))
  astream _ _ _ := .done
  aupdateState := some (fun _ _ _ => writing "3" (.done (.dict [])))

def steppingConfig : ServerConfig := smallServerConfig steppingGraph (some ⟨true⟩) none

def steppingRun : Operation := .run "t" (runBy "a")

def steppingOpened : OpenedRun := ⟨smallAssistant "a" a_named steppingGraph, .empty, ⟨"t", 0⟩⟩

def steppingStart : ServerState × Unit := (smallState 2 Nat.two_pos, ())

def steppingState : ServerState × Unit :=
    (Coro.converse (served smallPlatform steppingConfig ⟨0, false⟩ (cappedSaver 1))
  steppingStart (openCreateRun smallPlatform steppingConfig smallContext "t" (runBy "a"))).state

def steppingTaken : Taken Unit := ⟨⟨"t", 0⟩, steppingState, steppingState.1.store,
  (servedToEnd smallPlatform steppingConfig smallContext ⟨0, false⟩ (cappedSaver 1) steppingStart
    steppingRun).state.1.store⟩

theorem capacity_reported_iff_second_write : CapacityReported smallPlatform steppingConfig smallContext
    ⟨0, false⟩ (cappedSaver 1) steppingStart steppingRun steppingTaken := by
  have ends : RefusalEnds smallPlatform steppingConfig smallContext ⟨0, false⟩ (cappedSaver 1) steppingStart steppingRun
      steppingTaken := .run "t" (runBy "a") steppingOpened steppingState steppingGraph rfl rfl rfl
  exact (capacity_reported_iff smallPlatform steppingConfig smallContext ⟨0, false⟩ (cappedSaver 1)
    small_platform_dumps_plain steppingStart (InMemoryThreadStore.empty_keyed 1000) steppingRun steppingTaken
      ends).mpr trivial

def markedOne : CheckpointItem :=
  { numbered "1" with metadata := some (Dict.empty.set assistantIdMetadataKey (.str "a")) }

def ownedStart : ServerState × Unit :=
  ({ smallState 2 Nat.two_pos with
      store := ⟨1000, Dict.empty.set "t" ⟨⟨"t", 0, 0, .empty, "idle", .empty⟩, some "a"⟩⟩
      saved := Dict.empty.set "t" [markedOne] }, ())

def refusedUpdate : Operation := .update "t" ⟨.dict [], none, none, none⟩

theorem refused_update_is_internal_error :
    ∃ taken, RefusalEnds smallPlatform steppingConfig smallContext ⟨0, false⟩ (cappedSaver 1) ownedStart
      refusedUpdate taken ∧
      (servedToEnd smallPlatform steppingConfig smallContext ⟨0, false⟩ (cappedSaver 1) ownedStart
        refusedUpdate).outcome = .error .checkpointCapacity ∧
      ¬ CapacityReported smallPlatform steppingConfig smallContext ⟨0, false⟩ (cappedSaver 1) ownedStart
        refusedUpdate taken := by
  have outcome : (servedToEnd smallPlatform steppingConfig smallContext ⟨0, false⟩ (cappedSaver 1) ownedStart
    refusedUpdate).outcome = .error .checkpointCapacity := rfl
  refine ⟨_, .update "t" ⟨.dict [], none, none, none⟩ ⟨"t", 0⟩ ⟨"a", buildRunnableConfig "t" "a" none none,
    writing "3" (.done (.dict []))⟩ _ _ rfl rfl rfl, outcome, fun reported => ?_⟩
  cases outcome.symm.trans (reported.answer rfl)

end LangGraphServer
