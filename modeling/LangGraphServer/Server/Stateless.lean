import LangGraphServer.Server.RunRoutes

set_option autoImplicit false

namespace LangGraphServer

open Collections Coroutine

namespace InMemoryThreadStore

-- The calls that a thread store answers; any other operation is not its own.
def call (platform : Platform) (store : InMemoryThreadStore) :
    (op : ServerOp) → Option (InMemoryThreadStore × Except ServerError op.Result)
  | .getThread threadId => some (store, .ok (store.getThread threadId))
  | .putThread thread => some (store.putThread platform thread)
  | .getAssistantId threadId => some (store, .ok (store.getAssistantId threadId))
  | .claimAssistant threadId assistantId => some (store.claimAssistant threadId assistantId)
  | .deleteThread threadId => some (store.deleteThread threadId, .ok ())
  | _ => none

end InMemoryThreadStore

-- A coroutine that is given a store of its own instead of the shared one. Nobody else can
-- reach that store, so all that is left of a call is that the coroutine waits. A generator
-- that it lets go of takes the store along as it is then.
def keptIn (platform : Platform) {α : Type} : Coro Api α → InMemoryThreadStore → Coro Api (α × InMemoryThreadStore)
  | .ret value, store => .ret (value, store)
  | .raise error, _ => .raise error
  | .await op resume, store =>
      match store.call platform op with
      | some (after, answer) => .await ServerOp.suspend (fun waited => match waited with
          | .ok () => keptIn platform (resume answer) after
          | .error error => keptIn platform (resume (.error error)) store)
      | none => .await op (fun answer => keptIn platform (resume answer) store)
  | .yield item next exit, store => .yield item (keptIn platform next store) (keptIn platform exit store)
  | .abandon left rest, store => .abandon (keptIn platform left store).void (keptIn platform rest store)

section Routes

variable (platform : Platform) (config : ServerConfig) (context : RequestContext)

-- `asyncio.shield(checkpointer.adelete_thread(thread_id))`, with its failures logged.
def deleteGenerated (threadId : String) : Coro Api Unit :=
  match config.checkpointer with
  | none => pure ()
  | some saver =>
      (if saver.deletesThreads = true then do
        perform (.deleteCheckpoints threadId)
        perform .suspend
      else raise .notImplemented : Coro Api Unit).tryCatch (fun error =>
        if error.isException = true then pure () else raise error)

-- Delete request-scoped checkpoints after a generated-thread stream.
def deleteStatelessCheckpoints (generator : Coro Api Unit) (threadId : String) : Coro Api Unit :=
  (passOn generator).tryFinally (deleteGenerated config threadId)

def ephemeralStore : InMemoryThreadStore := ⟨131072, .empty⟩

def claimGenerated (threadId assistantId : String) : Coro Api Unit := do
  let _ ← getOrCreateThread platform config context (some threadId) none
  claimThreadAssistant config threadId assistantId

def statelessGenerator (request : RunCreate) (assistant : AssistantConfig) (graph : GraphRuntime)
    (store : InMemoryThreadStore) : Coro Api Unit :=
  deleteStatelessCheckpoints config
    (keptIn platform (streamGraphResponse platform context assistant (request.input.getD .empty)
      context.freshThreadId graph (resolveStreamModes request.streamMode assistant) request.config
        request.checkpointId) store).void
    context.freshThreadId

def streamRunStateless (request : RunCreate) : Coro Api Unit := do
  let assistant ← attempt (getAssistantConfig config request.assistantId)
  if request.ifNotExists = some .reject then
    raise (.http 422 "if_not_exists=reject is invalid for a stateless run")
  else
    let claimed ← keptIn platform
      (claimGenerated platform config context context.freshThreadId assistant.assistantId) ephemeralStore
    let lease ← acquireRunLease context.freshThreadId assistant.assistantId
    let graph ← attempt (config.getGraphRuntime assistant.assistantId)
    respond platform (runWithLease platform config (statelessGenerator platform config context request assistant graph
      claimed.2) lease) (perform (.release lease))

end Routes

inductive Call where
  | threaded (request : Request)
  | stateless (body : RunCreate)

def answerCall (platform : Platform) (config : ServerConfig) (context : RequestContext) : Call → Coro Api Unit
  | .threaded request => (serve platform config context request).void
  | .stateless body => streamRunStateless platform config context body

def serveCalls (platform : Platform) (config : ServerConfig) (calls : List (RequestContext × Call)) :
    List (TaskId × Coro Api Unit) :=
  calls.zipIdx.map (fun call => (⟨call.2, false⟩, answerCall platform config call.1.1 call.1.2))

end LangGraphServer
