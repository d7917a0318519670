import LangGraphServer.Server.Execution

set_option autoImplicit false

namespace LangGraphServer

open Collections Coroutine

-- The calls of `datetime.now` in a request, and what it draws at random.
inductive Moment where
  | parsed
  | created
  | busy
  | idle
  | completed
  | read

structure RequestContext where
  now : Moment → Timestamp
  freshThreadId : String
  freshRunId : String
  freshMessageId : PyObj → String
  freshCheckpointId : Option CheckpointItem → String

def smallContext : RequestContext := ⟨fun _ => 0, "fresh", "run", fun _ => "message", fun _ => "uuid"⟩

def perform (op : ServerOp) : Coro Api op.Result := Coro.perform (I := Api) op

def raise {α : Type} (error : ServerError) : Coro Api α := .raise error

def attempt {α : Type} (outcome : Except ServerError α) : Coro Api α := Coro.ofExcept (I := Api) outcome

-- `async with asyncio.timeout(...)`: its own cancellation leaves the block as a `TimeoutError`.
def withTimeout {α : Type} (seconds : Option Rat) (program : Coro Api α) : Coro Api α :=
  match seconds with
  | none => program
  | some _ => program.tryCatch (fun (error : ServerError) =>
      if error = .cancelled .timeout then raise .timeout else raise error)

section Routes

variable (platform : Platform) (config : ServerConfig) (context : RequestContext)

def parseTimestamp (value : PyObj) : Timestamp :=
  match value with
  | .str text => (platform.fromIsoformat (text.replace "Z" "+00:00")).getD (context.now .parsed)
  | _ => context.now .parsed

def threadOfItem (threadId : String) (item : CheckpointItem) : Thread where
  threadId := threadId
  createdAt := parseTimestamp platform context (item.ts.getD .none)
  updatedAt := parseTimestamp platform context (item.ts.getD .none)
  metadata := (item.metadata.getD .empty).pop assistantIdMetadataKey
  status := "idle"
  values := item.channelValues

def threadFromCheckpoint (threadId : String) : Coro Api (Option Thread) :=
  match config.checkpointer with
  | none => pure none
  | some _ => do
      let item ← perform (.agetTuple (checkpointConfig threadId none ""))
      pure (Option.map (threadOfItem platform context threadId) item)

def getOrCreateThread (threadId : Option String) (metadata : Option Metadata) : Coro Api Thread := do
  let resolvedId := threadId.getD context.freshThreadId
  let existing ← perform (.getThread resolvedId)
  match (existing : Option Thread) with
  | some existing => pure existing
  | none =>
      let checkpointThread ← threadFromCheckpoint platform config context resolvedId
      match checkpointThread with
      | some checkpointThread =>
          perform (.putThread { checkpointThread with values := .empty })
          pure checkpointThread
      | none =>
          let thread : Thread := ⟨resolvedId, context.now .created, context.now .created,
            metadata.getD .empty, "idle", .empty⟩
          perform (.putThread thread)
          pure thread

def threadExists (threadId : String) : Coro Api Bool := do
  let existing ← perform (.getThread threadId)
  match (existing : Option Thread) with
  | some _ => pure true
  | none =>
      let checkpointThread ← threadFromCheckpoint platform config context threadId
      pure checkpointThread.isSome

def getThreadAssistantId (threadId : String) : Coro Api (Option String) := do
  let recorded ← perform (.getAssistantId threadId)
  match (recorded : Option String), config.checkpointer with
  | some assistantId, _ => pure (some assistantId)
  | none, none => pure none
  | none, some _ =>
      let found ← perform (.agetTuple (checkpointConfig threadId none ""))
      match (found : Option CheckpointItem) with
      | none => pure none
      | some item =>
          match checkpointAssistantId item with
          | none => pure none
          | some assistantId =>
              perform (.claimAssistant threadId assistantId)
              pure (some assistantId)

def claimThreadAssistant (threadId assistantId : String) : Coro Api Unit := do
  let existing ← getThreadAssistantId config threadId
  if existing = none ∨ existing = some assistantId then
    (perform (.claimAssistant threadId assistantId)).tryCatch (fun error => match error with
      | ServerError.threadAssistantConflict message => raise (.http 409 message)
      | error => raise error)
  else raise (.http 409 ("Thread " ++ threadId ++ " belongs to assistant " ++ existing.getD ""))

def acquireMutationLease (threadId : String) (mutation : Mutation) : Coro Api RunLease :=
  (perform (.acquire threadId mutation)).tryCatch (fun error => match error with
    | ServerError.threadRunConflict message => raise (.http 409 message)
    | ServerError.runCapacity message => raise (.http 429 message)
    | error => raise error)

def createThread (request : ThreadCreate) : Coro Api Thread := do
  let threadId := request.threadId.getD context.freshThreadId
  let exists_ ← threadExists platform config context threadId
  if exists_ = true ∧ request.ifExists = some .raise then
    raise (.http 409 ("Thread " ++ threadId ++ " already exists"))
  else
    (getOrCreateThread platform config context (some threadId) request.metadata).tryCatch (fun error => match error with
      | ServerError.threadStoreCapacity _ => raise (.http 413 "Thread metadata is too large")
      | error => raise error)

def getThread (threadId : String) : Coro Api Thread := do
  let exists_ ← threadExists platform config context threadId
  if exists_ = true then
    let thread ← getOrCreateThread platform config context (some threadId) none
    let checkpointThread ← threadFromCheckpoint platform config context threadId
    match checkpointThread with
    | some checkpointThread =>
        pure { thread with values := checkpointThread.values, updatedAt := checkpointThread.updatedAt }
    | none => pure thread
  else raise (.http 404 ("Thread " ++ threadId ++ " not found"))

def updatedCheckpoint (threadId : String) (result : PyObj) : Except ServerError CheckpointReference :=
  let configurable := (result.entry? "configurable").getD (.dict [])
  let checkpointMap := match configurable.entry? "checkpoint_map" with
    | some (.dict entries) => some (.dict entries)
    | _ => none
  match configurable.entry? "thread_id", configurable.entry? "checkpoint_id",
      (configurable.entry? "checkpoint_ns").getD (.str "") with
  | some (.str resultThreadId), some (.str checkpointId), .str checkpointNs =>
      if resultThreadId = threadId then checkpointReference platform threadId checkpointNs checkpointId checkpointMap
      else .error (.raised "RuntimeError" "graph returned an invalid checkpoint config")
  | _, _, _ => .error (.raised "RuntimeError" "graph returned an invalid checkpoint config")

def updateUnderLease (threadId : String) (request : StateUpdate) : Coro Api PyObj := do
  let _ ← getOrCreateThread platform config context (some threadId) none
  let owner ← getThreadAssistantId config threadId
  match owner with
  | none => raise (.http 409 "Thread has no assistant owner; run an assistant first")
  | some assistantId =>
      if request.checkpoint.any (fun checkpoint => decide (checkpoint.threadId ≠ threadId)) then
        raise (.http 422 "Checkpoint thread_id must match the route thread_id")
      else
        let checkpointId := match request.checkpoint with
          | some checkpoint => checkpoint.checkpointId
          | none => request.checkpointId
        let built := buildRunnableConfig threadId assistantId none checkpointId
        let runnableConfig := match request.checkpoint with
          | some checkpoint => setCheckpointNs built checkpoint.checkpointNs
          | none => built
        let graph ← attempt (config.getGraphRuntime assistantId)
        match graph.aupdateState with
        | none => raise (.http 501 "Configured graph does not support state updates")
        | some update =>
            (withTimeout config.runTimeoutSeconds (mutating (some assistantId)
                ((update runnableConfig request.values request.asNode).awaited runnableConfig))).tryCatch
              (fun error => match error with
                | ServerError.timeout => raise (.http 504 "State update timed out")
                | ServerError.invalidUpdate message => raise (.http 422 message)
                | error => raise error)

def updateState (threadId : String) (request : StateUpdate) : Coro Api CheckpointReference :=
  match config.checkpointer with
  | none => raise (.http 501 "Checkpoint persistence is not configured")
  | some _ => do
      let exists_ ← threadExists platform config context threadId
      if exists_ = true then
        let lease ← acquireMutationLease threadId .update
        let result ← (updateUnderLease platform config context threadId request).tryFinally (perform (.release lease))
        attempt (updatedCheckpoint platform threadId result)
      else raise (.http 404 ("Thread " ++ threadId ++ " not found"))

-- `asyncio.to_thread` hands the deletion to a worker; the caller waits for it and is then
-- scheduled again. An exception thrown into the caller does not end the worker's mutation.
def adeleteThread (threadId : String) : Coro Api Unit :=
  match config.checkpointer with
  | none => pure ()
  | some saver =>
      if saver.deletesThreads = true then do
        perform (.begin none)
        perform (.deleteCheckpoints threadId)
        perform .finish
        perform .suspend
      else raise .notImplemented

def deleteUnderLease (threadId : String) : Coro Api Unit := do
  (withTimeout config.runTimeoutSeconds (adeleteThread config threadId)).tryCatch (fun error => match error with
    | ServerError.timeout => raise (.http 504 "Thread deletion timed out")
    | ServerError.notImplemented => raise (.http 501 "Configured checkpointer does not support thread deletion")
    | error => raise error)
  perform (.deleteThread threadId)

def deleteThread (threadId : String) : Coro Api Unit := do
  let lease ← acquireMutationLease threadId .deletion
  (deleteUnderLease config threadId).tryFinally (perform (.release lease))

end Routes

end LangGraphServer
