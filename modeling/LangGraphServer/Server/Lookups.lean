import LangGraphServer.Lib.Agreement
import LangGraphServer.Server.Discovery
import LangGraphServer.Server.StoreRules

set_option autoImplicit false

namespace LangGraphServer

open Collections Coroutine

-- The handlers once more, with `get_graph_runtime` left open.
section Handlers

variable (platform : Platform) (config : ServerConfig) (context : RequestContext)
    (getGraphRuntime : String → Except ServerError GraphRuntime)

def updateUnderLeaseWith (threadId : String) (request : StateUpdate) : Coro Api PyObj := do
  let _ ← getOrCreateThread platform config context (some threadId) none
  let owner ← getThreadAssistantId config threadId
  match owner with
  | none => raise (.http 409 "Thread has no assistant owner; run an assistant first")
  | some assistantId =>
      if request.checkpoint.any (fun checkpoint => decide (checkpoint.threadId ≠ threadId)) then
        raise (.http 422 "Checkpoint thread_id must match the route thread_id")
      else
        let checkpointId := match request.checkpoint with
          | some checkpoint => checkpoint.checkpointId
          | none => request.checkpointId
        let built := buildRunnableConfig threadId assistantId none checkpointId
        let runnableConfig := match request.checkpoint with
          | some checkpoint => setCheckpointNs built checkpoint.checkpointNs
          | none => built
        let graph ← attempt (getGraphRuntime assistantId)
        match graph.aupdateState with
        | none => raise (.http 501 "Configured graph does not support state updates")
        | some update =>
            (withTimeout config.runTimeoutSeconds (mutating (some assistantId)
                ((update runnableConfig request.values request.asNode).awaited runnableConfig))).tryCatch
              (fun error => match error with
                | ServerError.timeout => raise (.http 504 "State update timed out")
                | ServerError.invalidUpdate message => raise (.http 422 message)
                | error => raise error)

def updateStateWith (threadId : String) (request : StateUpdate) : Coro Api CheckpointReference :=
  match config.checkpointer with
  | none => raise (.http 501 "Checkpoint persistence is not configured")
  | some _ => do
      let exists_ ← threadExists platform config context threadId
      if exists_ = true then
        let lease ← acquireMutationLease threadId .update
        let result ← (updateUnderLeaseWith platform config context getGraphRuntime threadId request).tryFinally
          (perform (.release lease))
        attempt (updatedCheckpoint platform threadId result)
      else raise (.http 404 ("Thread " ++ threadId ++ " not found"))

def streamRunWithThreadWith (threadId : String) (request : RunCreate) : Coro Api Unit :=
  if request.onCompletion.isSome = true then
    raise (.http 422 "on_completion is supported only for stateless runs")
  else do
    let assistant ← attempt (getAssistantConfig config request.assistantId)
    claimForRun platform config context threadId request assistant
    let lease ← acquireRunLease threadId assistant.assistantId
    let graph ← attempt (getGraphRuntime assistant.assistantId)
    streamResponse platform config context threadId request assistant graph lease

def invokeUnderLeaseWith (assistant : AssistantConfig) (payload : Metadata) (runnableConfig : RunnableConfig) :
    Coro Api Unit :=
  (withTimeout config.runTimeoutSeconds (do
      let graph ← attempt (getGraphRuntime assistant.assistantId)
      let _ ← invokeGraph assistant graph payload runnableConfig
      pure ())).tryCatch (fun error => match error with
    | ServerError.timeout => raise (.http 504 "Graph execution timed out")
    | ServerError.checkpointCapacity => raise (.http 507 "Checkpoint capacity exceeded")
    | error => raise error)

def createRunWith (threadId : String) (request : RunCreate) : Coro Api RunResult :=
  if (unsupportedOptions request).isEmpty = false then
    raise (.http 422 ("Unsupported options for non-streaming runs: " ++ ", ".intercalate (unsupportedOptions request)))
  else do
    let assistant ← attempt (getAssistantConfig config request.assistantId)
    claimForRun platform config context threadId request assistant
    let payload ← attempt (prepareInput assistant (request.input.getD .empty))
    let runnableConfig := buildRunnableConfig threadId assistant.assistantId request.config request.checkpointId
    let lease ← acquireRunLease threadId assistant.assistantId
    (invokeUnderLeaseWith config getGraphRuntime assistant payload runnableConfig).tryFinally (perform (.release lease))
    pure ⟨context.freshRunId, threadId, assistant.assistantId, context.now .completed,
      context.now .completed, "success", request.metadata.getD .empty⟩

def streamRunStatelessWith (request : RunCreate) : Coro Api Unit := do
  let assistant ← attempt (getAssistantConfig config request.assistantId)
  if request.ifNotExists = some .reject then
    raise (.http 422 "if_not_exists=reject is invalid for a stateless run")
  else
    let claimed ← keptIn platform
      (claimGenerated platform config context context.freshThreadId assistant.assistantId) ephemeralStore
    let lease ← acquireRunLease context.freshThreadId assistant.assistantId
    let graph ← attempt (getGraphRuntime assistant.assistantId)
    respond platform (runWithLease platform config (statelessGenerator platform config context request assistant graph
      claimed.2) lease) (perform (.release lease))

def handleRequestWith (describe : AssistantConfig → AssistantDescription) (inspect : GraphRuntime → GraphInspection) :
    Handled → Coro Api Unit
  | .call (.threaded (.updateState threadId body)) =>
      (do
        let checkpoint ← updateStateWith platform config context getGraphRuntime threadId body
        pure (Response.stateUpdate checkpoint) : Coro Api Response).void
  | .call (.threaded (.createRun threadId body)) =>
      (do
        let result ← createRunWith platform config context getGraphRuntime threadId body
        pure (Response.run result) : Coro Api Response).void
  | .call (.threaded (.streamRun threadId body)) =>
      (do
        streamRunWithThreadWith platform config context getGraphRuntime threadId body
        pure Response.streamed : Coro Api Response).void
  | .call (.stateless body) => streamRunStatelessWith platform config context getGraphRuntime body
  | .assistantGraph assistantId =>
      (attempt (getAssistantGraphWith describe inspect config getGraphRuntime assistantId)).void
  | .assistantSchemas assistantId =>
      (attempt (getAssistantSchemasWith describe inspect config getGraphRuntime assistantId)).void
  | request => handleRequest describe inspect platform config context request

-- With the server's own `get_graph_runtime` they are the handlers.
theorem handle_request_own (describe : AssistantConfig → AssistantDescription)
    (inspect : GraphRuntime → GraphInspection)
    (request : Handled) : handleRequestWith platform config context config.getGraphRuntime describe inspect request =
      handleRequest describe inspect platform config context request := by
  cases request with
  | assistantGraph assistantId => rfl
  | assistantSchemas assistantId => rfl
  | call call =>
      cases call with
      | stateless body => rfl
      | threaded request => cases request <;> rfl

end Handlers

def StandsIn (config : ServerConfig) (getGraphRuntime : String → Except ServerError GraphRuntime) : Prop :=
  ∀ assistantId graph, config.getGraphRuntime assistantId = .ok graph → getGraphRuntime assistantId = .ok graph

def ServerConfig.registers (config : ServerConfig) (assistantId : String) : Bool :=
    (config.getAssistant assistantId).isSome

def elsewhere (threadId : String) (body : StateUpdate) : Bool :=
  body.checkpoint.any (fun checkpoint => decide (checkpoint.threadId ≠ threadId))

-- The owner that is read or claimed is one of the registry.
def OwnerRegistered (config : ServerConfig) : (op : ServerOp) → Except ServerError op.Result → Prop
  | .getAssistantId _, answer => ∀ owner, answer = .ok (some owner) → config.registers owner = true
  | .claimAssistant _ owner, answer => answer = .ok () → config.registers owner = true
  | _, _ => True

def FineFor (config : ServerConfig) (request : Handled) (op : ServerOp)
    (answer : Except ServerError op.Result) : Prop :=
  match request with
  | .call (.threaded (.updateState threadId body)) => elsewhere threadId body = true ∨ OwnerRegistered config op answer
  | _ => True

section Handlers

variable (platform : Platform) (config : ServerConfig) (context : RequestContext)
    (getGraphRuntime : String → Except ServerError GraphRuntime)

theorem stands_in_registered (standsIn : StandsIn config getGraphRuntime) (assistantId : String)
    (known : config.registers assistantId = true) : getGraphRuntime assistantId =
      config.getGraphRuntime assistantId := by
  rw [ServerConfig.registers, ServerConfig.getAssistant] at known
  cases found : config.assistants.get? assistantId with
  | none => simp [found] at known
  | some assistant =>
      have own : config.getGraphRuntime assistantId = .ok assistant.graph := by rw [ServerConfig.getGraphRuntime, found]
      rw [own, standsIn assistantId assistant.graph own]

theorem stands_in_resolved (standsIn : StandsIn config getGraphRuntime) (assistantId : String)
    (assistant : AssistantConfig) (found : getAssistantConfig config assistantId = .ok assistant) :
    getGraphRuntime assistant.assistantId = config.getGraphRuntime assistant.assistantId := by
  have own := graph_of_assistant config assistantId assistant found
  rw [own, standsIn _ _ own]

theorem resolved_id (assistantId : String) (assistant : AssistantConfig)
    (found : getAssistantConfig config assistantId = .ok assistant) : assistant.assistantId = assistantId := by
  rw [getAssistantConfig] at found
  cases registered : config.getAssistant assistantId with
  | none =>
      rw [registered] at found
      cases found
  | some other =>
      rw [registered] at found
      cases found
      exact config.registered assistantId assistant registered

theorem attempt_ok {α β : Type} (value : α) (next : α → Coro Api β) : (attempt (.ok value) >>= next) = next value := rfl

theorem create_run_stands_in (standsIn : StandsIn config getGraphRuntime) (threadId : String) (request : RunCreate) :
    createRunWith platform config context getGraphRuntime threadId request =
      createRunWith platform config context config.getGraphRuntime threadId request := by
  rw [createRunWith, createRunWith]
  cases found : getAssistantConfig config request.assistantId with
  | error error => rfl
  | ok assistant =>
      have same := stands_in_resolved config getGraphRuntime standsIn _ assistant found
      simp only [attempt_ok, invokeUnderLeaseWith, same]

theorem stream_run_stands_in (standsIn : StandsIn config getGraphRuntime) (threadId : String) (request : RunCreate) :
    streamRunWithThreadWith platform config context getGraphRuntime threadId request =
      streamRunWithThreadWith platform config context config.getGraphRuntime threadId request := by
  rw [streamRunWithThreadWith, streamRunWithThreadWith]
  cases found : getAssistantConfig config request.assistantId with
  | error error => rfl
  | ok assistant =>
      have same := stands_in_resolved config getGraphRuntime standsIn _ assistant found
      simp only [attempt_ok, same]

theorem stream_stateless_stands_in (standsIn : StandsIn config getGraphRuntime) (request : RunCreate) :
    streamRunStatelessWith platform config context getGraphRuntime request =
      streamRunStatelessWith platform config context config.getGraphRuntime request := by
  rw [streamRunStatelessWith, streamRunStatelessWith]
  cases found : getAssistantConfig config request.assistantId with
  | error error => rfl
  | ok assistant =>
      have same := stands_in_resolved config getGraphRuntime standsIn _ assistant found
      simp only [attempt_ok, same]

theorem assistant_graph_stands_in (describe : AssistantConfig → AssistantDescription)
    (inspect : GraphRuntime → GraphInspection)
    (standsIn : StandsIn config getGraphRuntime) (assistantId : String) :
    getAssistantGraphWith describe inspect config getGraphRuntime assistantId =
      getAssistantGraphWith describe inspect config config.getGraphRuntime assistantId := by
  rw [getAssistantGraphWith, getAssistantGraphWith]
  cases found : getAssistantConfig config assistantId with
  | error error => rfl
  | ok assistant =>
      have same := stands_in_resolved config getGraphRuntime standsIn _ assistant found
      rw [resolved_id config assistantId assistant found] at same
      rw [same]

theorem assistant_schemas_stands_in (describe : AssistantConfig → AssistantDescription)
    (inspect : GraphRuntime → GraphInspection)
    (standsIn : StandsIn config getGraphRuntime) (assistantId : String) :
    getAssistantSchemasWith describe inspect config getGraphRuntime assistantId =
      getAssistantSchemasWith describe inspect config config.getGraphRuntime assistantId := by
  rw [getAssistantSchemasWith, getAssistantSchemasWith]
  cases found : getAssistantConfig config assistantId with
  | error error => rfl
  | ok assistant =>
      have same := stands_in_resolved config getGraphRuntime standsIn _ assistant found
      rw [resolved_id config assistantId assistant found] at same
      rw [same]

-- The owner that an update goes on with, when it looks for a graph at all.
def Usable (threadId : String) (body : StateUpdate) (owner : Option String) : Prop :=
  ∀ assistantId, owner = some assistantId → elsewhere threadId body = true ∨ config.registers assistantId = true

theorem thread_assistant_id_answered (threadId : String) (body : StateUpdate) :
    Coro.Answered (I := Api) (FineFor config (.call (.threaded (.updateState threadId body))))
      (fun outcome => ∀ owner, outcome = .ok owner → Usable config threadId body owner)
        (getThreadAssistantId config threadId) := by
  intro recorded fine
  cases recorded with
  | error error =>
      intro owner ended
      cases ended
  | ok recorded =>
      cases (recorded : Option String) with
      | some known =>
          intro owner ended
          cases ended
          intro assistantId same
          cases same
          exact fine.imp (fun given => given) (fun registered => registered _ rfl)
      | none =>
          cases config.checkpointer with
          | none =>
              intro owner ended
              cases ended
              intro assistantId missing
              cases missing
          | some saver =>
              intro found _
              cases found with
              | error error =>
                  intro owner ended
                  cases ended
              | ok found =>
                  cases (found : Option CheckpointItem) with
                  | none =>
                      intro owner ended
                      cases ended
                      intro assistantId missing
                      cases missing
                  | some item =>
                      show Coro.Answered (I := Api) _ _ (match checkpointAssistantId item with
                        | none => pure none
                        | some assistantId =>
                            perform (.claimAssistant threadId assistantId) >>= fun _ => pure (some assistantId))
                      cases checkpointAssistantId item with
                      | none =>
                          intro owner ended
                          cases ended
                          intro assistantId missing
                          cases missing
                      | some marker =>
                          intro claimed fineClaim
                          cases claimed with
                          | error error =>
                              intro owner ended
                              cases ended
                          | ok done =>
                              intro owner ended
                              cases ended
                              intro assistantId same
                              cases same
                              exact fineClaim.imp (fun given => given) (fun registered => registered rfl)

theorem update_under_lease_agrees (standsIn : StandsIn config getGraphRuntime) (threadId : String)
    (body : StateUpdate) :
    Coro.Agree (I := Api) (FineFor config (.call (.threaded (.updateState threadId body))))
      (updateUnderLeaseWith platform config context config.getGraphRuntime threadId body)
      (updateUnderLeaseWith platform config context getGraphRuntime threadId body) := by
  refine Coro.answered_bind (I := Api) _ _ _ _ (fun _ => True) ?_ (fun thread _ => ?_)
  · exact Coro.answered_of_uses (I := Api) _ Plain _ _ (get_or_create_thread_uses platform config context _ _)
      (fun _ _ _ => trivial)
  · refine Coro.answered_bind (I := Api) _ _ _ _ (Usable config threadId body)
      (thread_assistant_id_answered config threadId body) (fun owner usable => ?_)
    cases owner with
    | none => exact .same _
    | some assistantId =>
        rcases usable assistantId rfl with mismatch | known
        · have turnedDown : body.checkpoint.any (fun checkpoint => decide (checkpoint.threadId ≠ threadId)) = true :=
            mismatch
          simp only [if_pos turnedDown]
          exact .same _
        · simp only [stands_in_registered config getGraphRuntime standsIn assistantId known]
          exact .same _

theorem update_state_agrees (standsIn : StandsIn config getGraphRuntime) (threadId : String) (body : StateUpdate) :
    Coro.Agree (I := Api) (FineFor config (.call (.threaded (.updateState threadId body))))
      (updateStateWith platform config context config.getGraphRuntime threadId body)
      (updateStateWith platform config context getGraphRuntime threadId body) := by
  rw [updateStateWith, updateStateWith]
  cases config.checkpointer with
  | none => exact .same _
  | some saver =>
      refine Coro.answered_bind (I := Api) _ _ _ _ (fun _ => True) ?_ (fun exists_ _ => ?_)
      · exact Coro.answered_of_uses (I := Api) _ Plain _ _ (thread_exists_uses platform config context _)
          (fun _ _ _ => trivial)
      · split
        · refine Coro.answered_bind (I := Api) _ _ _ _ (fun _ => True) ?_ (fun lease _ => ?_)
          · refine Coro.answered_of_uses (I := Api) _ (fun _ => True) _ _ ?_ (fun _ _ _ => trivial)
            refine Coro.uses_try_catch (I := Api) _ _ _ (Coro.uses_perform (I := Api) _ _ trivial) (fun error => ?_)
            split <;> trivial
          · exact Coro.agree_bind (I := Api) _ _ _ _ (Coro.agree_finally (I := Api) _ _ _ _
              (update_under_lease_agrees platform config context getGraphRuntime standsIn threadId body))
        · exact .same _

theorem handle_request_agrees (describe : AssistantConfig → AssistantDescription)
    (inspect : GraphRuntime → GraphInspection)
    (standsIn : StandsIn config getGraphRuntime) (request : Handled) :
    Coro.Agree (I := Api) (FineFor config request)
      (handleRequestWith platform config context config.getGraphRuntime describe inspect request)
      (handleRequestWith platform config context getGraphRuntime describe inspect request) := by
  cases request with
  | assistantGraph assistantId =>
      rw [handleRequestWith, handleRequestWith, assistant_graph_stands_in config getGraphRuntime describe
        inspect standsIn]
      exact .same _
  | assistantSchemas assistantId =>
      rw [handleRequestWith, handleRequestWith, assistant_schemas_stands_in config getGraphRuntime describe
        inspect standsIn]
      exact .same _
  | call call =>
      cases call with
      | stateless body =>
          rw [handleRequestWith, handleRequestWith, stream_stateless_stands_in platform config context
            getGraphRuntime standsIn]
          exact .same _
      | threaded request =>
          cases request with
          | updateState threadId body =>
              exact Coro.agree_void (I := Api) _ _ _ (Coro.agree_bind (I := Api) _ _ _ _
                (update_state_agrees platform config context getGraphRuntime standsIn threadId body))
          | createRun threadId body =>
              rw [handleRequestWith, handleRequestWith, create_run_stands_in platform config context
                getGraphRuntime standsIn]
              exact .same _
          | streamRun threadId body =>
              rw [handleRequestWith, handleRequestWith, stream_run_stands_in platform config context
                getGraphRuntime standsIn]
              exact .same _
          | createThread body => exact .same _
          | getThread threadId => exact .same _
          | getState threadId => exact .same _
          | getStateCheckpoint threadId checkpoint => exact .same _
          | getHistory threadId body => exact .same _
          | deleteThread threadId => exact .same _

end Handlers

-- The owner that an update is handed: it reads one from the record, or claims the thread for
-- the one that the latest checkpoint names.
def ownerKnown (config : ServerConfig) (state : ServerState) : ServerOp → Bool
  | .getAssistantId asked => (state.ownerOf asked).all config.registers
  | .claimAssistant asked owner => config.registers owner || !(state.store.claimAssistant asked owner).2.isOk
  | _ => true

theorem owner_known_registered (platform : Platform) (persistent : Bool) (config : ServerConfig) (id : TaskId)
    (state : ServerState) (op : ServerOp) (known : ownerKnown config state op = true) :
    OwnerRegistered config op (state.perform platform persistent id op).2 := by
  cases op with
  | getAssistantId asked =>
      intro owner answered
      have recorded : state.ownerOf asked = some owner := Except.ok.inj answered
      rw [ownerKnown, recorded] at known
      exact known
  | claimAssistant asked owner =>
      intro answered
      have claimed : (state.store.claimAssistant asked owner).2 = .ok () := answered
      rw [ownerKnown, claimed] at known
      simpa [Except.isOk, Except.toBool] using known
  | _ => trivial

theorem failure_registered (config : ServerConfig) (op : ServerOp) (error : ServerError) :
    OwnerRegistered config op (.error error) := by
  cases op with
  | getAssistantId asked => exact fun owner answered => (by cases answered)
  | claimAssistant asked owner => exact fun answered => (by cases answered)
  | _ => trivial

-- One life of the server over the saver: its configuration, the thread store it starts
-- with, what it is asked, and how its event loop goes.
structure Deployment where
  config : ServerConfig
  store : InMemoryThreadStore
  capacity : { runs : Nat // 0 < runs }
  requests : List (RequestContext × Handled)
  turns : List (Turn Api)

section Deployments

variable (describe : AssistantConfig → AssistantDescription) (inspect : GraphRuntime → GraphInspection)
    (platform : Platform)

namespace Deployment

variable (deployment : Deployment)

def machine : Machine Api ServerState TaskId := serverMachine platform deployment.config.checkpointer.isSome

def fresh (saved : Dict String (List CheckpointItem)) : ServerState :=
  ⟨deployment.store, saved, .fresh deployment.capacity, .empty, []⟩

def tasksWith (getGraphRuntime : String → Except ServerError GraphRuntime) : List (TaskId × Coro Api Unit) :=
  deployment.requests.zipIdx.map (fun request => (⟨request.2, false⟩,
    handleRequestWith platform deployment.config request.1.1 getGraphRuntime describe inspect request.1.2))

def poolWith (getGraphRuntime : String → Except ServerError GraphRuntime) (saved : Dict String (List CheckpointItem)) :
    Pool Api ServerState TaskId :=
  ⟨deployment.fresh saved, deployment.tasksWith describe inspect platform getGraphRuntime⟩

def lastWith (getGraphRuntime : String → Except ServerError GraphRuntime) (saved : Dict String (List CheckpointItem)) :
    Pool Api ServerState TaskId :=
  Transition.run (deployment.machine platform).step
    (deployment.poolWith describe inspect platform getGraphRuntime saved)
    deployment.turns

def pool (saved : Dict String (List CheckpointItem)) : Pool Api ServerState TaskId :=
  ⟨deployment.fresh saved, deployment.requests.zipIdx.map (fun request =>
    (⟨request.2, false⟩, handleRequest describe inspect platform deployment.config request.1.1 request.1.2))⟩

def last (saved : Dict String (List CheckpointItem)) : Pool Api ServerState TaskId :=
  Transition.run (deployment.machine platform).step (deployment.pool describe inspect platform saved) deployment.turns

def carry (saved : Dict String (List CheckpointItem)) (deployment : Deployment) : Dict String (List CheckpointItem) :=
  (deployment.last describe inspect platform saved).shared.saved

def ownerRegistered (pool : Pool Api ServerState TaskId) (turn : Turn Api) : Bool :=
  match deployment.requests[turn.task]?, pool.tasks[turn.task]?, turn.failure with
  | some (_, .call (.threaded (.updateState threadId body))), some (_, .await op _), none =>
      elsewhere threadId body || ownerKnown deployment.config pool.shared op
  | _, _, _ => true

-- What `get_graph_runtime` would do for an assistant outside the registry makes no
-- difference to anything: it is not called for one.
def LookupsGuarded (saved : Dict String (List CheckpointItem)) : Prop :=
  ∀ getGraphRuntime, StandsIn deployment.config getGraphRuntime →
    (deployment.last describe inspect platform saved).shared =
        (deployment.lastWith describe inspect platform getGraphRuntime saved).shared ∧
      (deployment.last describe inspect platform saved).tasks.map (fun task => (task.1, task.2.outcome?)) =
        (deployment.lastWith describe inspect platform getGraphRuntime saved).tasks.map
          (fun task => (task.1, task.2.outcome?))

theorem pool_own (saved : Dict String (List CheckpointItem)) :
    deployment.pool describe inspect platform saved =
      deployment.poolWith describe inspect platform deployment.config.getGraphRuntime saved := by
  rw [pool, poolWith, tasksWith]
  simp only [handle_request_own]

def fineAt (position : Nat) (op : ServerOp) (answer : Except ServerError op.Result) : Prop :=
  match deployment.requests[position]? with
  | some (_, request) => FineFor deployment.config request op answer
  | none => True

theorem owner_registered_fine (pool : Pool Api ServerState TaskId) (turn : Turn Api)
    (registered : deployment.ownerRegistered pool turn = true) :
    (deployment.machine platform).Fine deployment.fineAt pool turn := by
  intro id op resume found
  rw [ownerRegistered, found] at registered
  cases failed : turn.failure with
  | some error =>
      dsimp only
      rw [fineAt]
      split
      · rw [FineFor.eq_def]
        split
        · exact Or.inr (failure_registered deployment.config op error)
        · trivial
      · trivial
  | none =>
      rw [failed] at registered
      dsimp only
      rw [fineAt]
      split
      · rename_i context request asked
        rw [asked] at registered
        rw [FineFor.eq_def]
        split
        · rw [Bool.or_eq_true] at registered
          exact registered.imp (fun given => given) (fun known => owner_known_registered platform _ deployment.config
            id pool.shared op known)
        · trivial
      · trivial

theorem pools_start_agreeing (getGraphRuntime : String → Except ServerError GraphRuntime)
    (standsIn : StandsIn deployment.config getGraphRuntime) (saved : Dict String (List CheckpointItem)) :
    PoolsAgree deployment.fineAt (deployment.pool describe inspect platform saved)
      (deployment.poolWith describe inspect platform getGraphRuntime saved) := by
  rw [pool_own]
  refine ⟨rfl, ?_, fun position id program found => ?_⟩
  · simp [poolWith, tasksWith]
  · simp only [poolWith, tasksWith, List.getElem?_map, List.getElem?_zipIdx, Option.map_map, Option.map_eq_some_iff]
      at found ⊢
    obtain ⟨request, asked, same⟩ := found
    simp only [Function.comp_apply, Prod.mk.injEq] at same
    obtain ⟨rfl, rfl⟩ := same
    refine ⟨_, ⟨request, asked, rfl⟩, ?_⟩
    have agree := handle_request_agrees platform deployment.config request.1 getGraphRuntime describe inspect
      standsIn request.2
    have here : deployment.fineAt position = FineFor deployment.config request.2 := by
      funext op answer
      rw [fineAt, asked]
    rw [here]
    exact agree

theorem deployment_lookups_guarded (saved : Dict String (List CheckpointItem))
    (met : Transition.Meets (deployment.machine platform).step
      (fun pool turn => deployment.ownerRegistered pool turn = true)
      (deployment.pool describe inspect platform saved) deployment.turns) :
    deployment.LookupsGuarded describe inspect platform saved := by
  intro getGraphRuntime standsIn
  have fine := Transition.meets_imp _ _ _ (fun pool turn => deployment.owner_registered_fine platform pool turn) _ _ met
  have agree := (deployment.machine platform).run_agrees deployment.fineAt _ _
    (deployment.pools_start_agreeing describe inspect platform getGraphRuntime standsIn saved) deployment.turns fine
  exact ⟨agree.shared, pools_agree_outcomes deployment.fineAt _ _ agree⟩

end Deployment

-- No handler asks for the graph of an assistant outside the registry: one that the request
-- names is turned down before, and over any lives of the server whose steps hand no unknown
-- owner to an update, nothing depends on what such a lookup would do.
theorem runtime_lookups_guarded (deployments : List Deployment) (saved : Dict String (List CheckpointItem))
    (met : Transition.Meets (Deployment.carry describe inspect platform)
      (fun saved deployment => Transition.Meets (deployment.machine platform).step
        (fun pool turn => deployment.ownerRegistered pool turn = true)
        (deployment.pool describe inspect platform saved) deployment.turns) saved deployments) :
    (∀ config context request assistantId, Handled.named request = some assistantId →
      ServerConfig.getAssistant config assistantId = none →
      ∃ statusCode detail, 400 ≤ statusCode ∧ statusCode < 500 ∧
        handleRequest describe inspect platform config context request = raise (.http statusCode detail)) ∧
    Transition.Meets (Deployment.carry describe inspect platform)
      (fun saved deployment => deployment.LookupsGuarded describe inspect platform saved) saved deployments :=
  ⟨fun config context request assistantId named unknown =>
      unknown_assistant_refused describe inspect platform config context request assistantId named unknown,
    Transition.meets_imp _ _ _ (fun saved deployment => deployment.deployment_lookups_guarded describe
      inspect platform saved) saved deployments met⟩

end Deployments

def plainDescription (_ : AssistantConfig) : AssistantDescription := ⟨"graph", none, none, none, none, none⟩

def plainInspection (_ : GraphRuntime) : GraphInspection := ⟨none, none, none⟩

def onlyB : ServerConfig where
  assistants := ⟨[("b", smallAssistant "b" b_named savingGraph)], by simp⟩
  checkpointer := some ⟨true⟩
  runTimeoutSeconds := none
  registered assistantId assistant found := by
    simp only [Dict.get?, Dict.lookup_row] at found
    split at found
    · rename_i same
      cases found
      exact same.symm
    · cases found

def ranByA : Deployment where
  config := smallServerConfig savingGraph (some ⟨true⟩) none
  store := ⟨1000, .empty⟩
  capacity := ⟨2, Nat.two_pos⟩
  requests := [(smallContext, .call (.threaded (.createRun "t" (runBy "a"))))]
  turns := List.replicate 11 ⟨0, none⟩

def updatedLater (config : ServerConfig) : Deployment where
  config := config
  store := ⟨1000, .empty⟩
  capacity := ⟨2, Nat.two_pos⟩
  requests := [(smallContext, .call (.threaded (.updateState "t" ⟨.dict [], none, none, none⟩)))]
  turns := List.replicate 10 ⟨0, none⟩

theorem runtime_lookups_guarded_same_registry :
    (∀ config context request assistantId, Handled.named request = some assistantId →
      ServerConfig.getAssistant config assistantId = none →
      ∃ statusCode detail, 400 ≤ statusCode ∧ statusCode < 500 ∧
        handleRequest plainDescription plainInspection smallPlatform config context request = raise
          (.http statusCode detail)) ∧
    Transition.Meets (Deployment.carry plainDescription plainInspection smallPlatform)
      (fun saved deployment => deployment.LookupsGuarded plainDescription plainInspection smallPlatform saved) .empty
      [ranByA, updatedLater (smallServerConfig savingGraph (some ⟨true⟩) none)] :=
  runtime_lookups_guarded plainDescription plainInspection smallPlatform
    [ranByA, updatedLater (smallServerConfig savingGraph (some ⟨true⟩) none)] .empty (by decide +kernel)

def savedByA : Dict String (List CheckpointItem) :=
  Deployment.carry plainDescription plainInspection smallPlatform .empty ranByA

def lenientRuntime (config : ServerConfig) (assistantId : String) : Except ServerError GraphRuntime :=
  match config.getGraphRuntime assistantId with
  | .ok graph => .ok graph
  | .error _ => .ok savingGraph

theorem update_after_redeploy_fails :
    ((updatedLater onlyB).last plainDescription plainInspection smallPlatform savedByA).tasks.map
    (fun task => (task.1, task.2.outcome?)) =
      [(⟨0, false⟩, some (.error (.lookup ("Assistant " ++ "a" ++ " is not configured"))))] := by rfl

-- The owner that a checkpoint names may have left the registry since.
theorem redeployed_owner_unguarded :
    ¬ Transition.Meets (Deployment.carry plainDescription plainInspection smallPlatform)
      (fun saved deployment => deployment.LookupsGuarded plainDescription plainInspection smallPlatform saved) .empty
      [ranByA, updatedLater onlyB] := by
  intro guarded
  have standsIn : StandsIn onlyB (lenientRuntime onlyB) := by
    intro assistantId graph found
    rw [lenientRuntime, found]
  have same := (guarded.2.1 (lenientRuntime onlyB) standsIn).2
  have answered : ((updatedLater onlyB).lastWith plainDescription plainInspection smallPlatform (lenientRuntime onlyB)
    savedByA).tasks.map (fun task => (task.1, task.2.outcome?)) =
        [(⟨0, false⟩, some (.error (.http 501 "Configured graph does not support state updates")))] := by rfl
  have differ := update_after_redeploy_fails.symm.trans (same.trans answered)
  cases differ

end LangGraphServer
