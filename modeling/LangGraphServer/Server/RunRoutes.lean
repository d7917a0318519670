import LangGraphServer.Server.State
import LangGraphServer.Server.Streaming

set_option autoImplicit false

namespace LangGraphServer

open Collections Coroutine

def runBy (assistantId : String) : RunCreate := ⟨assistantId, none, none, none, none, none, none, none, none⟩

structure RunResult where
  runId : String
  threadId : String
  assistantId : String
  createdAt : Timestamp
  updatedAt : Timestamp
  status : String
  metadata : Metadata

section Routes

variable (platform : Platform) (config : ServerConfig) (context : RequestContext)

def resolveStreamModes (requestedModes : Option (List StreamMode)) (assistant : AssistantConfig) : List String :=
  let requested := (requestedModes.getD []).map StreamMode.text
  let preferred := assistant.defaultStreamMode.getD []
  (if requested.isEmpty = false then requested
    else if preferred.isEmpty = false then preferred
    else ["values"]).eraseDups

-- Apply a run timeout and always release the process-local reservation.
def runWithLease (generator : Coro Api Unit) (lease : RunLease) : Coro Api Unit :=
  let iterate := passOn generator
  ((withTimeout config.runTimeoutSeconds (passOn iterate)).tryCatch (fun (error : ServerError) =>
    if error = .timeout then yieldFormatted (streamError platform "Graph execution timed out" "RUN_TIMEOUT")
    else raise error)).tryFinally (perform (.release lease))

def acquireRunLease (threadId assistantId : String) : Coro Api RunLease :=
  (perform (.acquire threadId (.run assistantId))).tryCatch (fun error => match error with
    | ServerError.threadRunConflict message => raise (.http 409 message)
    | ServerError.runCapacity message => raise (.http 429 message)
    | error => raise error)

def claimForRun (threadId : String) (request : RunCreate) (assistant : AssistantConfig) : Coro Api Unit := do
  let missing ← (if request.ifNotExists = some .reject then do
      let exists_ ← threadExists platform config context threadId
      pure (!exists_)
    else pure false : Coro Api Bool)
  if missing = true then raise (.http 404 ("Thread " ++ threadId ++ " not found"))
  else
    let _ ← getOrCreateThread platform config context (some threadId) none
    claimThreadAssistant config threadId assistant.assistantId

def streamResponse (threadId : String) (request : RunCreate) (assistant : AssistantConfig) (graph : GraphRuntime)
    (lease : RunLease) : Coro Api Unit :=
  let generator := streamGraphResponse platform context assistant (request.input.getD .empty) threadId graph
    (resolveStreamModes request.streamMode assistant) request.config request.checkpointId
  respond platform (runWithLease platform config generator lease) (perform (.release lease))

def streamRunWithThread (threadId : String) (request : RunCreate) : Coro Api Unit :=
  if request.onCompletion.isSome = true then
    raise (.http 422 "on_completion is supported only for stateless runs")
  else do
    let assistant ← attempt (getAssistantConfig config request.assistantId)
    claimForRun platform config context threadId request assistant
    let lease ← acquireRunLease threadId assistant.assistantId
    let graph ← attempt (config.getGraphRuntime assistant.assistantId)
    streamResponse platform config context threadId request assistant graph lease

def invokeGraph (assistant : AssistantConfig) (graph : GraphRuntime) (payload : Metadata)
    (runnableConfig : RunnableConfig) : Coro Api Metadata := do
  let result ← mutating (some assistant.assistantId) ((graph.ainvoke payload runnableConfig).awaited runnableConfig)
  match result with
  | .dict entries => pure (Dict.empty.setAll entries)
  | _ => raise (.raised "TypeError" "graph invocation must return a mapping")

def invokeUnderLease (assistant : AssistantConfig) (payload : Metadata) (runnableConfig : RunnableConfig) :
    Coro Api Unit :=
  (withTimeout config.runTimeoutSeconds (do
      let graph ← attempt (config.getGraphRuntime assistant.assistantId)
      let _ ← invokeGraph assistant graph payload runnableConfig
      pure ())).tryCatch (fun error => match error with
    | ServerError.timeout => raise (.http 504 "Graph execution timed out")
    | ServerError.checkpointCapacity => raise (.http 507 "Checkpoint capacity exceeded")
    | error => raise error)

def unsupportedOptions (request : RunCreate) : List String :=
  (if request.onDisconnect.isSome = true then ["on_disconnect"] else []) ++
    (if request.onCompletion.isSome = true then ["on_completion"] else [])

def createRun (threadId : String) (request : RunCreate) : Coro Api RunResult :=
  if (unsupportedOptions request).isEmpty = false then
    raise (.http 422 ("Unsupported options for non-streaming runs: " ++ ", ".intercalate (unsupportedOptions request)))
  else do
    let assistant ← attempt (getAssistantConfig config request.assistantId)
    claimForRun platform config context threadId request assistant
    let payload ← attempt (prepareInput assistant (request.input.getD .empty))
    let runnableConfig := buildRunnableConfig threadId assistant.assistantId request.config request.checkpointId
    let lease ← acquireRunLease threadId assistant.assistantId
    (invokeUnderLease config assistant payload runnableConfig).tryFinally (perform (.release lease))
    pure ⟨context.freshRunId, threadId, assistant.assistantId, context.now .completed,
      context.now .completed, "success", request.metadata.getD .empty⟩

end Routes

inductive Request where
  | createThread (body : ThreadCreate)
  | getThread (threadId : String)
  | getState (threadId : String)
  | getStateCheckpoint (threadId : String) (checkpoint : Option CheckpointReference)
  | getHistory (threadId : String) (body : HistoryRequest)
  | updateState (threadId : String) (body : StateUpdate)
  | deleteThread (threadId : String)
  | createRun (threadId : String) (body : RunCreate)
  | streamRun (threadId : String) (body : RunCreate)

inductive Response where
  | thread (thread : Thread)
  | state (state : ThreadState)
  | history (states : List ThreadState)
  | stateUpdate (checkpoint : CheckpointReference)
  | noContent
  | run (result : RunResult)
  | streamed

def serve (platform : Platform) (config : ServerConfig) (context : RequestContext) : Request → Coro Api Response
  | .createThread body => do
      let thread ← createThread platform config context body
      pure (.thread thread)
  | .getThread threadId => do
      let thread ← getThread platform config context threadId
      pure (.thread thread)
  | .getState threadId => do
      let state ← getState platform config context threadId
      pure (.state state)
  | .getStateCheckpoint threadId checkpoint => do
      let state ← getStateCheckpoint platform config context threadId checkpoint
      pure (.state state)
  | .getHistory threadId body => do
      let states ← getHistory platform config context threadId body
      pure (.history states)
  | .updateState threadId body => do
      let checkpoint ← updateState platform config context threadId body
      pure (.stateUpdate checkpoint)
  | .deleteThread threadId => do
      deleteThread config threadId
      pure .noContent
  | .createRun threadId body => do
      let result ← createRun platform config context threadId body
      pure (.run result)
  | .streamRun threadId body => do
      streamRunWithThread platform config context threadId body
      pure .streamed

def serveAll (platform : Platform) (config : ServerConfig) (requests : List (RequestContext × Request)) :
    List (TaskId × Coro Api Unit) :=
  requests.zipIdx.map (fun request =>
    (⟨request.2, false⟩, (serve platform config request.1.1 request.1.2).void))

end LangGraphServer
