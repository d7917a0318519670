import LangGraphServer.Checkpoint.Inherited
import LangGraphServer.Server.ThreadRoutes

set_option autoImplicit false

namespace LangGraphServer

open Collections Coroutine

-- The config that the saver returns with an item.
def CheckpointItem.config (threadId : String) (item : CheckpointItem) : RunnableConfig :=
  checkpointLocation threadId item.checkpointNs item.checkpointId

def textEntry (config : Option RunnableConfig) (key : String) : Option String :=
  match config.bind (fun given => given.entry? key) with
  | some (.str text) => some text
  | _ => none

section Routes

variable (platform : Platform) (config : ServerConfig) (context : RequestContext)

def checkpointTupleToState (threadId : String) (item : CheckpointItem) : Except ServerError ThreadState := do
  let checkpointNs := (textEntry (some (item.config threadId)) "checkpoint_ns").getD ""
  let parentNs := (textEntry item.parentConfig "checkpoint_ns").getD checkpointNs
  let checkpointId := match item.id with
    | some (.str text) => text
    | _ => context.freshCheckpointId (some item)
  let checkpoint ← checkpointReference platform threadId checkpointNs checkpointId none
  let parentCheckpoint ← match textEntry item.parentConfig "checkpoint_id" with
    | some parentId => some <$> checkpointReference platform threadId parentNs parentId none
    | none => .ok none
  return {
    values := item.channelValues
    checkpoint := checkpoint
    metadata := (item.metadata.getD .empty).pop assistantIdMetadataKey
    createdAt := match item.ts with
      | some ts => platform.str ts
      | none => platform.isoformat (context.now .read)
    parentCheckpoint := parentCheckpoint }

def emptyState (threadId : String) : Except ServerError ThreadState := do
  let checkpoint ← checkpointReference platform threadId "" (context.freshCheckpointId none) none
  return ⟨.empty, checkpoint, .empty, platform.isoformat (context.now .read), none⟩

def getThreadState (threadId : String) (checkpointId : Option String) (checkpointNs : String) :
    Coro Api ThreadState := do
  let found ← perform (.agetTuple (checkpointConfig threadId checkpointId checkpointNs))
  match (found : Option CheckpointItem), checkpointId with
  | some item, _ => attempt (checkpointTupleToState platform context threadId item)
  | none, some checkpointId =>
      raise (.lookup ("Checkpoint " ++ checkpointId ++ " was not found for thread " ++ threadId))
  | none, none => attempt (emptyState platform context threadId)

def requireCheckpointer : Coro Api Unit :=
  match config.checkpointer with
  | none => raise (.http 501 "Checkpoint persistence is not configured")
  | some _ => pure ()

def getState (threadId : String) : Coro Api ThreadState := do
  requireCheckpointer config
  let exists_ ← threadExists platform config context threadId
  if exists_ = true then getThreadState platform context threadId none ""
  else raise (.http 404 ("Thread " ++ threadId ++ " not found"))

def checkRoute (reference : Option CheckpointReference) (threadId detail : String) : Coro Api Unit :=
  if reference.any (fun given => decide (given.threadId ≠ threadId)) = true then raise (.http 422 detail) else pure ()

def lookupNotFound {α : Type} (error : ServerError) : Coro Api α :=
  match error with
  | .lookup message => raise (.http 404 message)
  | error => raise error

def getStateCheckpoint (threadId : String) (checkpoint : Option CheckpointReference) : Coro Api ThreadState := do
  requireCheckpointer config
  checkRoute checkpoint threadId "Checkpoint thread_id must match the route thread_id"
  let exists_ ← threadExists platform config context threadId
  if exists_ = true then
    let _ ← getOrCreateThread platform config context (some threadId) none
    let checkpointId := checkpoint.bind CheckpointReference.checkpointId
    let checkpointNs := (checkpoint.map CheckpointReference.checkpointNs).getD ""
    (getThreadState platform context threadId checkpointId checkpointNs).tryCatch lookupNotFound
  else raise (.http 404 ("Thread " ++ threadId ++ " not found"))

def historyNamespace (request : HistoryRequest) : String :=
  (request.checkpoint.map CheckpointReference.checkpointNs).getD ""

def historyBefore (threadId : String) (request : HistoryRequest) : Option LookupConfig :=
  match request.before with
  | some (.checkpoint reference) => some (checkpointConfig threadId reference.checkpointId reference.checkpointNs)
  | some (.identifier checkpointId) => some (checkpointConfig threadId (some checkpointId) (historyNamespace request))
  | none => none

def beforeReference : Option HistoryBefore → Option CheckpointReference
  | some (.checkpoint reference) => some reference
  | _ => none

def getHistory (threadId : String) (request : HistoryRequest) : Coro Api (List ThreadState) := do
  requireCheckpointer config
  checkRoute request.checkpoint threadId "Checkpoint thread_id must match the route thread_id"
  checkRoute (beforeReference request.before) threadId "Before checkpoint thread_id must match the route thread_id"
  let items ← perform (.alist (checkpointConfig threadId none (historyNamespace request)) request.metadata
    (historyBefore threadId request) request.limit)
  attempt ((items : List CheckpointItem).mapM (checkpointTupleToState platform context threadId))

end Routes

end LangGraphServer
