import LangGraphServer.Server.SaverRefusals

set_option autoImplicit false

namespace LangGraphServer

open Collections Coroutine

-- The requests that run a graph operation which writes checkpoints.
inductive Operation where
  | run (threadId : String) (request : RunCreate)
  | stream (threadId : String) (request : RunCreate)
  | stateless (request : RunCreate)
  | update (threadId : String) (request : StateUpdate)

namespace Operation

def call : Operation → Call
  | .run threadId request => .threaded (.createRun threadId request)
  | .stream threadId request => .threaded (.streamRun threadId request)
  | .stateless request => .stateless request
  | .update threadId request => .threaded (.updateState threadId request)

def streams : Operation → Bool
  | .stream _ _ => true
  | .stateless _ => true
  | _ => false

end Operation

structure OpenedRun where
  assistant : AssistantConfig
  payload : Metadata
  lease : RunLease

structure OpenedStream where
  assistant : AssistantConfig
  lease : RunLease
  graph : GraphRuntime

structure ReadyUpdate where
  assistantId : String
  runnableConfig : RunnableConfig
  call : GraphCall

section Openings

variable (platform : Platform) (config : ServerConfig) (context : RequestContext)

def openCreateRun (threadId : String) (request : RunCreate) : Coro Api OpenedRun :=
  if (unsupportedOptions request).isEmpty = false then
    raise (.http 422 ("Unsupported options for non-streaming runs: " ++ ", ".intercalate (unsupportedOptions request)))
  else do
    let assistant ← attempt (getAssistantConfig config request.assistantId)
    claimForRun platform config context threadId request assistant
    let payload ← attempt (prepareInput assistant (request.input.getD .empty))
    let lease ← acquireRunLease threadId assistant.assistantId
    pure ⟨assistant, payload, lease⟩

def openStreamRun (threadId : String) (request : RunCreate) : Coro Api OpenedStream :=
  if request.onCompletion.isSome = true then
    raise (.http 422 "on_completion is supported only for stateless runs")
  else do
    let assistant ← attempt (getAssistantConfig config request.assistantId)
    claimForRun platform config context threadId request assistant
    let lease ← acquireRunLease threadId assistant.assistantId
    let graph ← attempt (config.getGraphRuntime assistant.assistantId)
    pure ⟨assistant, lease, graph⟩

def openStateless (request : RunCreate) : Coro Api (OpenedStream × InMemoryThreadStore) := do
  let assistant ← attempt (getAssistantConfig config request.assistantId)
  if request.ifNotExists = some .reject then
    raise (.http 422 "if_not_exists=reject is invalid for a stateless run")
  else
    let claimed ← keptIn platform
      (claimGenerated platform config context context.freshThreadId assistant.assistantId) ephemeralStore
    let lease ← acquireRunLease context.freshThreadId assistant.assistantId
    let graph ← attempt (config.getGraphRuntime assistant.assistantId)
    pure (⟨assistant, lease, graph⟩, claimed.2)

def openUpdate (threadId : String) : Coro Api RunLease :=
  match config.checkpointer with
  | none => raise (.http 501 "Checkpoint persistence is not configured")
  | some _ => do
      let exists_ ← threadExists platform config context threadId
      if exists_ = true then acquireMutationLease threadId .update
      else raise (.http 404 ("Thread " ++ threadId ++ " not found"))

-- Under the lease, the update still resolves the owner and checks the checkpoint it is given.
def readyUpdate (threadId : String) (request : StateUpdate) : Coro Api ReadyUpdate := do
  let _ ← getOrCreateThread platform config context (some threadId) none
  let owner ← getThreadAssistantId config threadId
  match owner with
  | none => raise (.http 409 "Thread has no assistant owner; run an assistant first")
  | some assistantId =>
      if request.checkpoint.any (fun checkpoint => decide (checkpoint.threadId ≠ threadId)) then
        raise (.http 422 "Checkpoint thread_id must match the route thread_id")
      else
        let checkpointId := match request.checkpoint with
          | some checkpoint => checkpoint.checkpointId
          | none => request.checkpointId
        let built := buildRunnableConfig threadId assistantId none checkpointId
        let runnableConfig := match request.checkpoint with
          | some checkpoint => setCheckpointNs built checkpoint.checkpointNs
          | none => built
        let graph ← attempt (config.getGraphRuntime assistantId)
        match graph.aupdateState with
        | none => raise (.http 501 "Configured graph does not support state updates")
        | some update => pure ⟨assistantId, runnableConfig, update runnableConfig request.values request.asNode⟩

def ReadyUpdate.operation (ready : ReadyUpdate) : Coro Api PyObj :=
  mutating (some ready.assistantId) (ready.call.awaited ready.runnableConfig)

def OpenedRun.operation (opened : OpenedRun) (graph : GraphRuntime) (threadId : String) (request : RunCreate) :
    Coro Api PyObj :=
  let runnableConfig := buildRunnableConfig threadId opened.assistant.assistantId request.config request.checkpointId
  mutating (some opened.assistant.assistantId) ((graph.ainvoke opened.payload runnableConfig).awaited runnableConfig)

def finishRun (threadId : String) (request : RunCreate) (opened : OpenedRun) : Coro Api RunResult := do
  (invokeUnderLease config opened.assistant opened.payload (buildRunnableConfig threadId opened.assistant.assistantId
    request.config request.checkpointId)).tryFinally (perform (.release opened.lease))
  pure ⟨context.freshRunId, threadId, opened.assistant.assistantId, context.now .completed,
    context.now .completed, "success", request.metadata.getD .empty⟩

def finishStateless (request : RunCreate) (opened : OpenedStream × InMemoryThreadStore) : Coro Api Unit :=
  respond platform (runWithLease platform config (statelessGenerator platform config context request opened.1.assistant
    opened.1.graph opened.2) opened.1.lease) (perform (.release opened.1.lease))

def finishUpdate (threadId : String) (request : StateUpdate) (lease : RunLease) : Coro Api CheckpointReference := do
  let result ← (updateUnderLease platform config context threadId request).tryFinally (perform (.release lease))
  attempt (updatedCheckpoint platform threadId result)

theorem create_run_opening (threadId : String) (request : RunCreate) :
    createRun platform config context threadId request =
      openCreateRun platform config context threadId request >>= finishRun config context threadId request := by
  rw [createRun, openCreateRun]
  split
  · rfl
  · simp only [bind_assoc, pure_bind]
    rfl

theorem stream_run_opening (threadId : String) (request : RunCreate) :
    streamRunWithThread platform config context threadId request =
      openStreamRun platform config context threadId request >>= fun opened =>
        streamResponse platform config context threadId request opened.assistant opened.graph opened.lease := by
  rw [streamRunWithThread, openStreamRun]
  split
  · rfl
  · simp only [bind_assoc, pure_bind]

theorem stateless_opening (request : RunCreate) :
    streamRunStateless platform config context request =
      openStateless platform config context request >>= finishStateless platform config context request := by
  rw [streamRunStateless, openStateless, bind_assoc]
  refine congrArg _ (funext fun assistant => ?_)
  split
  · rfl
  · simp only [bind_assoc, pure_bind]
    rfl

def ReadyUpdate.bounded (ready : ReadyUpdate) : Coro Api PyObj :=
  (withTimeout config.runTimeoutSeconds ready.operation).tryCatch (fun error => match error with
    | ServerError.timeout => raise (.http 504 "State update timed out")
    | ServerError.invalidUpdate message => raise (.http 422 message)
    | error => raise error)

theorem update_under_lease_ready (threadId : String) (request : StateUpdate) :
    updateUnderLease platform config context threadId request =
      readyUpdate platform config context threadId request >>= fun ready => ready.bounded config := by
  rw [updateUnderLease, readyUpdate, bind_assoc]
  refine congrArg _ (funext fun _ => ?_)
  rw [bind_assoc]
  refine congrArg _ (funext fun owner => ?_)
  cases owner with
  | none => rfl
  | some assistantId =>
      dsimp only
      split
      · rfl
      · rw [bind_assoc]
        refine congrArg _ (funext fun graph => ?_)
        cases graph.aupdateState with
        | none => rfl
        | some update => rfl

theorem update_state_opening (threadId : String) (request : StateUpdate) :
    updateState platform config context threadId request =
      openUpdate platform config context threadId >>= finishUpdate platform config context threadId request := by
  rw [updateState, openUpdate]
  cases config.checkpointer with
  | none => rfl
  | some saver =>
      dsimp only
      rw [bind_assoc]
      refine congrArg _ (funext fun exists_ => ?_)
      split
      · rfl
      · rfl

end Openings

-- What an opening awaits: a stateless one waits where it calls a store of its own.
inductive OpeningSteps : ServerOp → Prop where
  | claims (op : ServerOp) (claims : Claims op) : OpeningSteps op
  | acquire (threadId : String) (mutation : Mutation) : OpeningSteps (.acquire threadId mutation)
  | suspend : OpeningSteps .suspend

section OpeningSteps

variable (platform : Platform) (config : ServerConfig) (context : RequestContext)

theorem claims_open {α : Type} (program : Coro Api α) (uses : program.Uses Claims) : program.Awaits OpeningSteps :=
  Coro.awaits_uses (I := Api) Claims .claims program uses

theorem acquire_run_lease_opens (threadId assistantId : String) : (acquireRunLease threadId assistantId).Awaits
    OpeningSteps := by
  refine Coro.awaits_catch _ _ (Coro.awaits_perform (I := Api) _ (.acquire threadId _)) (fun error => ?_)
  cases error <;> trivial

theorem open_create_run_opens (threadId : String) (request : RunCreate) :
    (openCreateRun platform config context threadId request).Awaits OpeningSteps := by
  rw [openCreateRun]
  split
  · trivial
  · refine Coro.awaits_bind _ _ (Coro.awaits_of_except _) (fun assistant => ?_)
    refine Coro.awaits_bind _ _
      (claims_open _ (claim_for_run_uses platform config context threadId request assistant)) (fun _ => ?_)
    refine Coro.awaits_bind _ _ (Coro.awaits_of_except _) (fun payload => ?_)
    exact Coro.awaits_bind _ _ (acquire_run_lease_opens threadId assistant.assistantId) (fun _ => trivial)

theorem open_stream_run_opens (threadId : String) (request : RunCreate) :
    (openStreamRun platform config context threadId request).Awaits OpeningSteps := by
  rw [openStreamRun]
  split
  · trivial
  · refine Coro.awaits_bind _ _ (Coro.awaits_of_except _) (fun assistant => ?_)
    refine Coro.awaits_bind _ _
      (claims_open _ (claim_for_run_uses platform config context threadId request assistant)) (fun _ => ?_)
    refine Coro.awaits_bind _ _ (acquire_run_lease_opens threadId assistant.assistantId) (fun lease => ?_)
    exact Coro.awaits_bind _ _ (Coro.awaits_of_except _) (fun _ => trivial)

theorem claim_generated_uses (threadId assistantId : String) :
    (claimGenerated platform config context threadId assistantId).Uses Claims :=
  Coro.uses_bind (I := Api) Claims _ _ (claims_of_plain _ (get_or_create_thread_uses platform config context _ none))
    (fun _ => claim_thread_assistant_uses config threadId assistantId)

theorem open_stateless_opens (request : RunCreate) : (openStateless platform config context request).Awaits
    OpeningSteps := by
  refine Coro.awaits_bind _ _ (Coro.awaits_of_except _) (fun assistant => ?_)
  split
  · trivial
  · refine Coro.awaits_bind _ _ (kept_in_awaits platform .suspend _ ephemeralStore
      (claims_open _ (claim_generated_uses platform config context _ assistant.assistantId))) (fun claimed => ?_)
    refine Coro.awaits_bind _ _ (acquire_run_lease_opens _ assistant.assistantId) (fun lease => ?_)
    exact Coro.awaits_bind _ _ (Coro.awaits_of_except _) (fun _ => trivial)

theorem ready_update_uses (threadId : String) (request : StateUpdate) :
    (readyUpdate platform config context threadId request).Uses Claims := by
  refine Coro.uses_bind (I := Api) Claims _ _
    (claims_of_plain _ (get_or_create_thread_uses platform config context _ none))
    (fun _ => Coro.uses_bind (I := Api) Claims _ _ (get_thread_assistant_id_uses config threadId) (fun owner => ?_))
  split
  · trivial
  · split
    · trivial
    · refine Coro.uses_bind (I := Api) Claims _ _ (Coro.uses_of_except (I := Api) Claims _) (fun graph => ?_)
      split
      · trivial
      · trivial

end OpeningSteps

structure Opens {S : Type} (start after : ServerState × S) : Prop where
  owners : ∀ query owner, start.1.ownerOf query = some owner → after.1.ownerOf query = some owner
  keyed : start.1.store.Keyed → after.1.store.Keyed

def Holding {S : Type} (state : ServerState × S) (threadId : String) (lease : RunLease) : Prop :=
  lease.threadId = threadId ∧ state.1.coordinator.active.get? threadId = some lease.token

theorem release_frees (coordinator : RunCoordinator) (lease : RunLease)
    (held : coordinator.active.get? lease.threadId = some lease.token) :
    (coordinator.release lease).active.get? lease.threadId = none := by
  rw [Option.eq_none_iff_forall_not_mem]
  intro token member
  obtain ⟨found, other⟩ := (CoordinationState.release_removes coordinator lease lease.threadId token).mp member
  cases held.symm.trans found
  exact other rfl

theorem release_keeps_free (coordinator : RunCoordinator) (lease : RunLease) (threadId : String)
    (free : coordinator.active.get? threadId = none) : (coordinator.release lease).active.get? threadId = none := by
  rw [Option.eq_none_iff_forall_not_mem]
  intro token member
  obtain ⟨found, _⟩ := (CoordinationState.release_removes coordinator lease threadId token).mp member
  cases free.symm.trans found

section Taken

variable {S : Type} (platform : Platform) (config : ServerConfig) (context : RequestContext) (id : TaskId)
    (saver : CheckpointSaver S)

theorem claims_open_step (state : ServerState × S) (op : ServerOp) (claims : Claims op) :
    Opens state (served platform config id saver state op).1 ∧
      (served platform config id saver state op).1.1.coordinator = state.1.coordinator := by
  have keyed := perform_keyed platform config.checkpointer.isSome id op state.1
  cases claims with
  | plain op plain =>
      have untouched := served_plain platform config id saver state op plain
      refine ⟨⟨fun query owner owned => (untouched.owners query).trans owned, fun first => ?_⟩, untouched.coordinator⟩
      cases plain <;> exact keyed first
  | claimAssistant threadId assistantId =>
      exact ⟨⟨fun query owner owned => state.1.store.claim_assistant_keeps threadId assistantId query owner
        owned, keyed⟩, rfl⟩

theorem opening_step (state : ServerState × S) (op : ServerOp) (steps : OpeningSteps op) :
    Opens state (served platform config id saver state op).1 := by
  cases steps with
  | claims op claims => exact (claims_open_step platform config id saver state op claims).1
  | acquire threadId mutation =>
      have store : (served platform config id saver state (.acquire threadId mutation)).1.1.store = state.1.store := by
        simp only [served, ServerState.perform]
        split
        · rfl
        · rfl
      constructor
      · intro query owner owned
        rw [ServerState.ownerOf, store]
        exact owned
      · rw [store]
        exact fun keyed => keyed
  | suspend => exact ⟨fun _ _ owned => owned, fun keyed => keyed⟩

theorem opened {α : Type} (program : Coro Api α) (opens : program.Awaits OpeningSteps) (start : ServerState × S) :
    Opens start (Coro.converse (served platform config id saver) start program).state :=
  Coro.converse_keeps (I := Api) (served platform config id saver) OpeningSteps (Opens start)
    (fun state op steps before =>
      have after := opening_step platform config id saver state op steps
      ⟨fun query owner owned => after.owners query owner (before.owners query owner owned),
        fun keyed => after.keyed (before.keyed keyed)⟩)
    program opens start ⟨fun _ _ owned => owned, fun keyed => keyed⟩

theorem caught_answer {σ : Type} (oracle : Coro.Oracle Api σ) (op : ServerOp)
    (handler : ServerError → Coro Api op.Result)
    (raises : ∀ error, ∃ other, handler error = .raise other) (state : σ) (value : op.Result)
    (ended : (Coro.converse oracle state ((perform op).tryCatch handler)).outcome = .ok value) :
    (oracle state op).2 = .ok value ∧ (Coro.converse oracle state ((perform op).tryCatch handler)).state =
    (oracle state op).1 := by
  have called := converse_perform oracle op state
  cases answer : (oracle state op).2 with
  | ok given =>
      have caught := Coro.converse_catch_ok (I := Api) oracle (perform op) handler state given (by rw [called, answer])
      rw [caught] at ended ⊢
      cases ended
      exact ⟨rfl, by rw [called]⟩
  | error error =>
      obtain ⟨other, raised⟩ := raises error
      have caught := Coro.converse_catch_error (I := Api) oracle (perform op) handler state error
        (by rw [called, answer])
      rw [caught, raised] at ended
      cases ended

theorem acquired_holding (threadId : String) (mutation : Mutation) (handler : ServerError → Coro Api RunLease)
    (raises : ∀ error, ∃ other, handler error = .raise other) (state : ServerState × S) (lease : RunLease)
    (ended : (Coro.converse (served platform config id saver) state
      ((perform (.acquire threadId mutation)).tryCatch handler)).outcome = .ok lease) :
    Holding (Coro.converse (served platform config id saver) state
      ((perform (.acquire threadId mutation)).tryCatch handler)).state threadId lease := by
  obtain ⟨answer, after⟩ := caught_answer (served platform config id saver) (.acquire threadId mutation)
    handler raises state lease ended
  rw [after]
  simp only [served, ServerState.perform] at answer ⊢
  rcases CoordinationState.acquire_cases state.1.coordinator threadId with ⟨_, message, refused⟩ | ⟨_, _, message,
    refused⟩ | ⟨_, _, taken⟩
  · rw [refused] at answer
    cases answer
  · rw [refused] at answer
    cases answer
  · rw [taken] at answer ⊢
    cases answer
    exact ⟨rfl, (Dict.get_set _ _ _ _).trans (if_pos rfl)⟩

def Answers {α : Type} (start : ServerState × S) (program : Coro Api α) (value : α) (after : ServerState × S) : Prop :=
  Coro.converse (served platform config id saver) start program = ⟨[], .ok value, after⟩

theorem answers_bind {α β : Type} (program : Coro Api α) (next : α → Coro Api β)
    (start last : ServerState × S) (answer : β)
    (answers : Answers platform config id saver start (program >>= next) answer last) :
    ∃ value between, Answers platform config id saver start program value between ∧
      Answers platform config id saver between (next value) answer last := by
  let oracle := served platform config id saver
  have whole : Coro.converse oracle start (program >>= next) = ⟨[], .ok answer, last⟩ := answers
  cases ended : (Coro.converse oracle start program).outcome with
  | error error =>
      rw [Coro.converse_bind_error (I := Api) oracle program next start error ended] at whole
      cases congrArg Coro.Dialogue.outcome whole
  | ok value =>
      rw [Coro.converse_bind_ok (I := Api) oracle program next start value ended] at whole
      obtain ⟨first, rest⟩ := List.append_eq_nil_iff.mp (congrArg Coro.Dialogue.items whole)
      have outcome := congrArg Coro.Dialogue.outcome whole
      have after := congrArg Coro.Dialogue.state whole
      dsimp only at outcome after
      refine ⟨value, (Coro.converse oracle start program).state, ?_, ?_⟩
      · show Coro.converse oracle start program = _
        rw [← ended, ← first]
      · show Coro.converse oracle _ (next value) = _
        rw [← outcome, ← after, ← rest]

theorem answers_acquired (threadId : String) (mutation : Mutation) (handler : ServerError → Coro Api RunLease)
    (raises : ∀ error, ∃ other, handler error = .raise other) (start last : ServerState × S) (lease : RunLease)
    (answers : Answers platform config id saver start ((perform (.acquire threadId mutation)).tryCatch handler) lease
      last) :
    Holding last threadId lease := by
  have whole : Coro.converse (served platform config id saver) start
    ((perform (.acquire threadId mutation)).tryCatch handler) =
      ⟨[], .ok lease, last⟩ := answers
  have holding := acquired_holding platform config id saver threadId mutation handler raises start lease
    (congrArg Coro.Dialogue.outcome whole)
  rw [whole] at holding
  exact holding

theorem answers_run_lease (threadId assistantId : String) (start last : ServerState × S) (lease : RunLease)
    (answers : Answers platform config id saver start (acquireRunLease threadId assistantId) lease last) :
    Holding last threadId lease :=
  answers_acquired platform config id saver threadId (.run assistantId) _
    (fun error => by cases error <;> exact ⟨_, rfl⟩)
    start last lease answers

theorem open_create_run_holding (threadId : String) (request : RunCreate) (opened : OpenedRun)
    (start state : ServerState × S)
    (opens : Answers platform config id saver start (openCreateRun platform config context threadId request) opened
      state) :
    Holding state threadId opened.lease := by
  rw [openCreateRun] at opens
  split at opens
  · cases congrArg Coro.Dialogue.outcome opens
  · obtain ⟨assistant, _, _, claims⟩ := answers_bind platform config id saver _ _ _ _ _ opens
    obtain ⟨_, _, _, prepares⟩ := answers_bind platform config id saver _ _ _ _ _ claims
    obtain ⟨payload, _, _, takes⟩ := answers_bind platform config id saver _ _ _ _ _ prepares
    obtain ⟨lease, _, taken, last⟩ := answers_bind platform config id saver _ _ _ _ _ takes
    cases last
    exact answers_run_lease platform config id saver threadId assistant.assistantId _ _ lease taken

theorem open_update_holding (threadId : String) (lease : RunLease) (start state : ServerState × S)
    (opens : Answers platform config id saver start (openUpdate platform config context threadId) lease state) :
    Holding state threadId lease := by
  rw [openUpdate] at opens
  split at opens
  · cases congrArg Coro.Dialogue.outcome opens
  · obtain ⟨exists_, between, _, takes⟩ := answers_bind platform config id saver _ _ _ _ _ opens
    split at takes
    · exact answers_acquired platform config id saver threadId .update _
        (fun error => by cases error <;> exact ⟨_, rfl⟩)
        between state lease takes
    · cases congrArg Coro.Dialogue.outcome takes

theorem ready_update_coordinator (threadId : String) (request : StateUpdate) (ready : ReadyUpdate)
    (state after : ServerState × S)
    (readies : Answers platform config id saver state (readyUpdate platform config context threadId request) ready
      after) :
    after.1.coordinator = state.1.coordinator := by
  have whole : Coro.converse (served platform config id saver) state
    (readyUpdate platform config context threadId request) =
      ⟨[], .ok ready, after⟩ := readies
  have kept := Coro.converse_keeps (I := Api) (served platform config id saver) Claims
    (fun now => now.1.coordinator = state.1.coordinator)
    (fun now op claims same => (claims_open_step platform config id saver now op claims).2.trans same) _
    (Coro.awaits_uses (I := Api) Claims (fun _ claims => claims) _
      (ready_update_uses platform config context threadId request))
    state rfl
  rw [whole] at kept
  exact kept

theorem ready_update_thread (threadId : String) (request : StateUpdate) (ready : ReadyUpdate)
    (state after : ServerState × S)
    (readies : Answers platform config id saver state (readyUpdate platform config context threadId request) ready
      after) :
    ready.runnableConfig.entry? "thread_id" = some (.str threadId) := by
  obtain ⟨_, _, _, resolves⟩ := answers_bind platform config id saver _ _ _ _ _ readies
  obtain ⟨owner, _, _, checks⟩ := answers_bind platform config id saver _ _ _ _ _ resolves
  cases owner with
  | none => cases congrArg Coro.Dialogue.outcome checks
  | some assistantId =>
      dsimp only at checks
      split at checks
      · cases congrArg Coro.Dialogue.outcome checks
      · obtain ⟨graph, _, _, updates⟩ := answers_bind platform config id saver _ _ _ _ _ checks
        have marks := fun checkpointId => build_runnable_config_marks threadId assistantId none checkpointId
        cases updating : graph.aupdateState with
        | none =>
            rw [updating] at updates
            cases congrArg Coro.Dialogue.outcome updates
        | some update =>
            rw [updating] at updates
            cases updates
            cases request.checkpoint with
            | none => exact (marks _).thread
            | some checkpoint => exact (set_checkpoint_ns_marks _ _ threadId assistantId (marks _)).thread

theorem opened_stream_holding {α : Type} (threadId : String) (assistant : AssistantConfig)
    (made : RunLease → GraphRuntime → α) (start state : ServerState × S) (opened : α)
    (opens : Answers platform config id saver start (do
      let lease ← acquireRunLease threadId assistant.assistantId
      let graph ← attempt (config.getGraphRuntime assistant.assistantId)
      pure (made lease graph)) opened state) :
    ∃ lease graph, opened = made lease graph ∧ Holding state threadId lease := by
  obtain ⟨lease, between, taken, looks⟩ := answers_bind platform config id saver _ _ _ _ _ opens
  obtain ⟨graph, last, found, makes⟩ := answers_bind platform config id saver _ _ _ _ _ looks
  have still : last = between := by
    cases runtime : config.getGraphRuntime assistant.assistantId with
    | ok given =>
        rw [runtime] at found
        exact (congrArg Coro.Dialogue.state found).symm
    | error error =>
        rw [runtime] at found
        cases congrArg Coro.Dialogue.outcome found
  cases makes
  refine ⟨lease, graph, rfl, ?_⟩
  rw [still]
  exact answers_run_lease platform config id saver threadId assistant.assistantId _ _ lease taken

theorem open_stream_run_holding (threadId : String) (request : RunCreate) (opened : OpenedStream)
    (start state : ServerState × S)
    (opens : Answers platform config id saver start (openStreamRun platform config context threadId request) opened
      state) :
    Holding state threadId opened.lease := by
  rw [openStreamRun] at opens
  split at opens
  · cases congrArg Coro.Dialogue.outcome opens
  · obtain ⟨assistant, _, _, claims⟩ := answers_bind platform config id saver _ _ _ _ _ opens
    obtain ⟨_, _, _, takes⟩ := answers_bind platform config id saver _ _ _ _ _ claims
    obtain ⟨lease, graph, rfl, holding⟩ := opened_stream_holding platform config id saver threadId assistant
      (fun lease graph => ⟨assistant, lease, graph⟩) _ state opened takes
    exact holding

theorem claimed_keyed {α : Type} (program : Coro Api α) (uses : program.Uses Claims) (store : InMemoryThreadStore)
    (keyed : store.Keyed) (start last : ServerState × S) (answer : α × InMemoryThreadStore)
    (answers : Answers platform config id saver start (keptIn platform program store) answer last) :
      answer.2.Keyed := by
  let oracle := served platform config id saver
  have kept := Coro.converse_keeps (I := Api) (keptOracle platform oracle) Claims (fun state => state.2.Keyed)
    (fun state op claims keyed => by
      cases claims with
      | plain op plain =>
          cases plain with
          | putThread thread => exact state.2.put_thread_keyed platform thread keyed
          | getThread threadId => exact keyed
          | getAssistantId threadId => exact keyed
          | agetTuple lookup => exact keyed
          | alist lookup filter before limit => exact keyed
      | claimAssistant threadId assistantId => exact state.2.claim_assistant_keyed threadId assistantId keyed)
    program (Coro.awaits_uses (I := Api) Claims (fun _ claims => claims) program uses) (start, store) keyed
  have whole : Coro.converse oracle start (keptIn platform program store) = ⟨[], .ok answer, last⟩ := answers
  rw [converse_kept_in] at whole
  have outcome := congrArg Coro.Dialogue.outcome whole
  cases ended : (Coro.converse (keptOracle platform oracle) (start, store) program).outcome with
  | ok value =>
      rw [ended] at outcome
      cases outcome
      exact kept
  | error error =>
      rw [ended] at outcome
      cases outcome

theorem open_stateless_holding (request : RunCreate) (opened : OpenedStream × InMemoryThreadStore)
    (start state : ServerState × S)
    (opens : Answers platform config id saver start (openStateless platform config context request) opened state) :
    Holding state context.freshThreadId opened.1.lease ∧ opened.2.Keyed := by
  obtain ⟨assistant, _, _, claims⟩ := answers_bind platform config id saver _ _ _ _ _ opens
  split at claims
  · cases congrArg Coro.Dialogue.outcome claims
  · obtain ⟨claimed, between, kept, takes⟩ := answers_bind platform config id saver _ _ _ _ _ claims
    obtain ⟨lease, graph, rfl, holding⟩ := opened_stream_holding platform config id saver
      context.freshThreadId assistant
      (fun lease graph => (⟨assistant, lease, graph⟩, claimed.2)) between state opened takes
    exact ⟨holding, claimed_keyed platform config id saver _ (claim_generated_uses platform config context _ _)
      ephemeralStore (InMemoryThreadStore.empty_keyed 131072) _ _ claimed kept⟩

theorem opening_silent {α : Type} (program : Coro Api α) (opens : program.Awaits OpeningSteps)
    (state : ServerState × S) :
    received (served platform config id saver) state program = [] := by
  refine received_silent _ program (Coro.awaits_mono (I := Api) OpeningSteps (fun op steps => ?_) program opens) state
  cases steps with
  | claims op claims =>
      cases claims with
      | plain op plain => cases plain <;> rfl
      | claimAssistant threadId assistantId => rfl
  | acquire threadId mutation => rfl
  | suspend => rfl

theorem opened_then {α β : Type} (opening : Coro Api α) (rest : α → Coro Api β)
    (start state : ServerState × S) (value : α)
    (opens : Answers platform config id saver start opening value state) :
    Coro.converse (served platform config id saver) start (opening >>= rest) =
      Coro.converse (served platform config id saver) state (rest value) := by
  have opened : Coro.converse (served platform config id saver) start opening = ⟨[], .ok value, state⟩ := opens
  rw [Coro.converse_bind_ok (I := Api) _ opening rest start value (congrArg Coro.Dialogue.outcome opened), opened,
    List.nil_append]

theorem opened_receives {α β : Type} (opening : Coro Api α) (rest : α → Coro Api β)
    (start state : ServerState × S) (value : α)
    (opens : Answers platform config id saver start opening value state) (steps : opening.Awaits OpeningSteps) :
    received (served platform config id saver) start (opening >>= rest) =
      received (served platform config id saver) state (rest value) := by
  have opened : Coro.converse (served platform config id saver) start opening = ⟨[], .ok value, state⟩ := opens
  show received _ start (opening.handle _) = _
  rw [received_handle, opening_silent platform config id saver opening steps, opened, List.nil_append]

theorem answer_fails {α β : Type} (program : Coro Api α) (answer : α → Coro Api β) (start : ServerState × S)
    (error : ServerError)
    (fails : (Coro.converse (served platform config id saver) start program).outcome = .error error) :
    (Coro.converse (served platform config id saver) start (program >>= answer).void).outcome = .error error ∧
      (Coro.converse (served platform config id saver) start (program >>= answer).void).state =
        (Coro.converse (served platform config id saver) start program).state := by
  rw [Coro.converse_void, Coro.converse_bind_error (I := Api) _ program answer start error fails]
  exact ⟨rfl, rfl⟩

theorem answer_streamed (program : Coro Api Unit) (start : ServerState × S) :
    (Coro.converse (served platform config id saver) start
        (program >>= fun _ => (pure .streamed : Coro Api Response)).void).outcome =
      (Coro.converse (served platform config id saver) start program).outcome ∧
    (Coro.converse (served platform config id saver) start
        (program >>= fun _ => (pure .streamed : Coro Api Response)).void).state =
      (Coro.converse (served platform config id saver) start program).state ∧
    received (served platform config id saver) start
        (program >>= fun _ => (pure .streamed : Coro Api Response)).void =
      received (served platform config id saver) start program := by
  have heard : received (served platform config id saver) start
      (program >>= fun _ => (pure .streamed : Coro Api Response)).void = received (served platform config id saver)
        start program := by
    refine (received_last _ _ _ (fun outcome now => ?_) start).trans (received_last _ _ _ (fun outcome now => ?_) start)
    · cases outcome <;> rfl
    · cases outcome <;> rfl
  refine ⟨?_, ?_, heard⟩
  · rw [Coro.converse_void]
    cases ended : (Coro.converse (served platform config id saver) start program).outcome with
    | ok value =>
        rw [Coro.converse_bind_ok (I := Api) _ program _ start value ended]
        rfl
    | error error =>
        rw [Coro.converse_bind_error (I := Api) _ program _ start error ended]
        rfl
  · rw [Coro.converse_void]
    cases ended : (Coro.converse (served platform config id saver) start program).outcome with
    | ok value =>
        rw [Coro.converse_bind_ok (I := Api) _ program _ start value ended]
        rfl
    | error error =>
        rw [Coro.converse_bind_error (I := Api) _ program _ start error ended]

end Taken

end LangGraphServer
