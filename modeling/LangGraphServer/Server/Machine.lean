import LangGraphServer.Server.Storage

set_option autoImplicit false

namespace LangGraphServer

open Collections Coroutine

def assistantIdMetadataKey : String := "fastapi_langgraph_server_assistant_id"

def checkpointConfig (threadId : String) (checkpointId : Option String) (checkpointNs : String) : LookupConfig :=
  ⟨threadId, checkpointNs, checkpointId⟩

def checkpointAssistantId (item : CheckpointItem) : Option String :=
  match (item.metadata.getD .empty).get? assistantIdMetadataKey with
  | some (.str value) => if value = "" then none else some value
  | _ => none

-- The checkpoint with the greatest id; ids grow with time.
def newest : List CheckpointItem → Option CheckpointItem
  | [] => none
  | item :: rest => match newest rest with
      | none => some item
      | some best => if best.checkpointId < item.checkpointId then some item else some best

theorem newest_mem (items : List CheckpointItem) (item : CheckpointItem) (found : newest items = some item) :
    item ∈ items := by
  induction items generalizing item with
  | nil => cases found
  | cons head rest ih =>
      rw [newest] at found
      cases tail : newest rest with
      | none =>
          rw [tail, Option.some.injEq] at found
          rw [← found]
          exact List.mem_cons_self
      | some best =>
          rw [tail] at found
          dsimp only at found
          split at found
          · rw [Option.some.injEq] at found
            rw [← found]
            exact List.mem_cons_self
          · rw [Option.some.injEq] at found
            rw [← found]
            exact List.mem_cons_of_mem _ (ih best tail)

theorem newest_none (items : List CheckpointItem) (missing : newest items = none) : items = [] := by
  cases items with
  | nil => rfl
  | cons head rest =>
      rw [newest] at missing
      cases tail : newest rest with
      | none =>
          rw [tail] at missing
          cases missing
      | some best =>
          rw [tail] at missing
          dsimp only at missing
          split at missing
          · cases missing
          · cases missing

-- What a request has under way, for the proofs only: the lease it took and what for,
-- whether its mutation is live, and whether its main task has let go of the lease.
structure Progress where
  lease : RunLease
  mutation : Mutation
  live : Bool
  given : Bool
deriving DecidableEq

-- `progress` and `log` are ghosts.
structure ServerState where
  store : InMemoryThreadStore
  saved : Dict String (List CheckpointItem)
  coordinator : RunCoordinator
  progress : Dict Nat Progress
  log : List LogEntry

namespace ServerState

def ownerOf (state : ServerState) (threadId : String) : Option String := state.store.getAssistantId threadId

def items (state : ServerState) (threadId : String) : List CheckpointItem := (state.saved.get? threadId).getD []

def agetTuple (state : ServerState) (lookup : LookupConfig) : Option CheckpointItem :=
  newest ((state.items lookup.threadId).filter (fun item => decide (item.checkpointNs = lookup.checkpointNs ∧
    (lookup.checkpointId = none ∨ lookup.checkpointId = some item.checkpointId))))

def matchesFilter (platform : Platform) (filter metadata : Metadata) : Bool :=
  filter.entries.all (fun row => platform.equals row.2 ((metadata.get? row.1).getD .none))

def alist (platform : Platform) (state : ServerState) (lookup : LookupConfig) (filter : Option Metadata)
    (before : Option LookupConfig) (limit : Nat) : List CheckpointItem :=
  ((((state.items lookup.threadId).filter (fun item => decide (item.checkpointNs = lookup.checkpointNs) &&
      (filter.all (fun given => matchesFilter platform given (item.metadata.getD .empty)) &&
        (before.bind LookupConfig.checkpointId).all (fun bound => decide (item.checkpointId < bound))))).mergeSort
    (fun first second => decide (second.checkpointId ≤ first.checkpointId))).take limit)

-- The item comes with the metadata that LangGraph has made of its own and of the config's.
def aput (state : ServerState) (config : RunnableConfig) (item : CheckpointItem) : ServerState :=
  match config.entry? "thread_id" with
  | some (.str threadId) =>
      { state with saved := state.saved.set threadId (item :: (state.items threadId).filter (fun old =>
          decide (¬ (old.checkpointNs = item.checkpointNs ∧ old.checkpointId = item.checkpointId)))) }
  | _ => state

def deleteCheckpoints (state : ServerState) (threadId : String) : ServerState :=
  { state with saved := state.saved.pop threadId }

def holds (state : ServerState) (lease : RunLease) : Bool :=
  decide (state.coordinator.active.get? lease.threadId = some lease.token)

end ServerState

theorem items_aput (config : RunnableConfig) (threadId : String)
    (thread : config.entry? "thread_id" = some (.str threadId))
    (item : CheckpointItem) (state : ServerState) (query : String) :
    (state.aput config item).items query = if query = threadId then
      item :: (state.items threadId).filter (fun old =>
        decide (¬ (old.checkpointNs = item.checkpointNs ∧ old.checkpointId = item.checkpointId)))
    else state.items query := by
  rw [ServerState.aput, thread]
  simp only [ServerState.items, Dict.get_set]
  by_cases same : query = threadId
  · rw [if_pos same, if_pos same]
    rfl
  · rw [if_neg same, if_neg same]

theorem items_delete_checkpoints (state : ServerState) (threadId query : String) :
    (state.deleteCheckpoints threadId).items query = if query = threadId then [] else state.items query := by
  simp only [ServerState.deleteCheckpoints, ServerState.items, Dict.get_pop]
  by_cases same : query = threadId
  · rw [if_pos same, if_pos same]
    rfl
  · rw [if_neg same, if_neg same]

inductive ServerOp where
  | getThread (threadId : String)
  | putThread (thread : Thread)
  | getAssistantId (threadId : String)
  | claimAssistant (threadId assistantId : String)
  | deleteThread (threadId : String)
  | agetTuple (lookup : LookupConfig)
  | alist (lookup : LookupConfig) (filter : Option Metadata) (before : Option LookupConfig) (limit : Nat)
  | aput (config : RunnableConfig) (item : CheckpointItem)
  | deleteCheckpoints (threadId : String)
  | acquire (threadId : String) (mutation : Mutation)
  | release (lease : RunLease)
  | send (message : AsgiMessage)
  | suspend
  | begin (graphOf : Option String)
  | finish
  | note (entry : LogEntry)

abbrev ServerOp.Result : ServerOp → Type
  | .getThread _ => Option Thread
  | .getAssistantId _ => Option String
  | .agetTuple _ => Option CheckpointItem
  | .alist _ _ _ _ => List CheckpointItem
  | .acquire _ _ => RunLease
  | _ => Unit

abbrev Api : Interface := ⟨ServerOp, ServerOp.Result, ServerError, StreamItem⟩

-- Every request is a task; what it leaves behind runs as its helper.
structure TaskId where
  request : Nat
  helper : Bool
deriving DecidableEq

def RunError.toServerError : RunError → ServerError
  | .threadRunConflict message => .threadRunConflict message
  | .runCapacity message => .runCapacity message

namespace ServerState

def updateProgress (state : ServerState) (request : Nat) (change : Progress → Progress) : ServerState :=
  match state.progress.get? request with
  | some progress => { state with progress := state.progress.set request (change progress) }
  | none => state

def perform (platform : Platform) (persistent : Bool) (id : TaskId) : (op : ServerOp) → ServerState →
    ServerState × Except ServerError op.Result
  | .getThread threadId, state => (state, .ok (state.store.getThread threadId))
  | .putThread thread, state =>
      let (store, answer) := state.store.putThread platform thread
      ({ state with store := store }, answer)
  | .getAssistantId threadId, state => (state, .ok (state.ownerOf threadId))
  | .claimAssistant threadId assistantId, state =>
      let (store, answer) := state.store.claimAssistant threadId assistantId
      ({ state with store := store }, answer)
  | .deleteThread threadId, state => ({ state with store := state.store.deleteThread threadId }, .ok ())
  | .agetTuple lookup, state => (state, .ok (state.agetTuple lookup))
  | .alist lookup filter before limit, state => (state, .ok (state.alist platform lookup filter before limit))
  | .aput config item, state => (if persistent then state.aput config item else state, .ok ())
  | .deleteCheckpoints threadId, state => (state.deleteCheckpoints threadId, .ok ())
  | .acquire threadId mutation, state =>
      match state.coordinator.acquire threadId with
      | (coordinator, .ok lease) =>
          ({ state with
              coordinator := coordinator
              progress := state.progress.set id.request ⟨lease, mutation, false, false⟩ }, .ok lease)
      | (coordinator, .error error) => ({ state with coordinator := coordinator }, .error error.toServerError)
  | .release lease, state => ({ state with coordinator := state.coordinator.release lease }, .ok ())
  | .send _, state => (state, .ok ())
  | .suspend, state => (state, .ok ())
  | .begin graphOf, state =>
      match state.progress.get? id.request with
      | some progress =>
          ({ state with
              progress := state.progress.set id.request { progress with live := true }
              log := state.log ++ [.began progress.lease.threadId graphOf] }, .ok ())
      | none => (state, .ok ())
  | .finish, state => (state.updateProgress id.request (fun progress => { progress with live := false }), .ok ())
  | .note entry, state => ({ state with log := state.log ++ [entry] }, .ok ())

theorem update_progress_found (state : ServerState) (request : Nat) (change : Progress → Progress) (progress : Progress)
    (found : state.progress.get? request = some progress) : state.updateProgress request change =
      { state with progress := state.progress.set request (change progress) } := by
  rw [updateProgress, found]

theorem perform_begin_found (platform : Platform) (persistent : Bool) (id : TaskId) (graphOf : Option String)
    (state : ServerState) (progress : Progress) (found : state.progress.get? id.request = some progress) :
    (state.perform platform persistent id (.begin graphOf)).1 =
      { state with
        progress := state.progress.set id.request { progress with live := true }
        log := state.log ++ [.began progress.lease.threadId graphOf] } := by
  simp only [perform, found]

theorem perform_begin_answers (platform : Platform) (persistent : Bool) (id : TaskId) (graphOf : Option String)
    (state : ServerState) : (state.perform platform persistent id (.begin graphOf)).2 = .ok () := by
  simp only [perform]
  split
  · rfl
  · rfl

theorem aput_frame (platform : Platform) (persistent : Bool) (id : TaskId) (config : RunnableConfig)
    (item : CheckpointItem) (state : ServerState) :
    (state.perform platform persistent id (.aput config item)).1.store = state.store ∧
      (state.perform platform persistent id (.aput config item)).1.log = state.log ∧
      (state.perform platform persistent id (.aput config item)).1.coordinator = state.coordinator ∧
      (state.perform platform persistent id (.aput config item)).1.progress = state.progress := by
  simp only [perform, aput]
  split
  · split
    · exact ⟨rfl, rfl, rfl, rfl⟩
    · exact ⟨rfl, rfl, rfl, rfl⟩
  · exact ⟨rfl, rfl, rfl, rfl⟩

-- The ghost steps are no awaits, and a worker thread is not cancelled.
def interruptible (id : TaskId) : ServerOp → ServerError → Bool
  | .begin _, _ => false
  | .finish, _ => false
  | .note _, _ => false
  | .deleteCheckpoints _, error => !id.helper && error.isCancelled
  | .send _, error => error.isCancelled || decide (error = .osError)
  | _, error => error.isCancelled

def struck (id : TaskId) : ServerOp → ServerError → ServerState → ServerState
  | .send _, _, state => state.updateProgress id.request (fun progress => { progress with given := true })
  | .release _, _, state => state.updateProgress id.request (fun progress => { progress with given := true })
  | _, _, state => state

end ServerState

theorem struck_frame (id : TaskId) (op : ServerOp) (error : ServerError) (state : ServerState) :
    (state.struck id op error).store = state.store ∧ (state.struck id op error).saved = state.saved ∧
      (state.struck id op error).coordinator = state.coordinator ∧ (state.struck id op error).log = state.log := by
  rw [ServerState.struck.eq_def]
  have progress : ∀ change, (state.updateProgress id.request change).store = state.store ∧
      (state.updateProgress id.request change).saved = state.saved ∧
      (state.updateProgress id.request change).coordinator = state.coordinator ∧
      (state.updateProgress id.request change).log = state.log := by
    intro change
    rw [ServerState.updateProgress]
    split <;> exact ⟨rfl, rfl, rfl, rfl⟩
  split
  · exact progress _
  · exact progress _
  · exact ⟨rfl, rfl, rfl, rfl⟩

-- `asyncio.to_thread` does not stop its worker when the caller is cancelled, and
-- `asyncio.shield` lets the release go on.
def leftover : ServerOp → List (Coro Api Unit)
  | .deleteCheckpoints threadId =>
      [.await (ServerOp.deleteCheckpoints threadId) (fun _ => .await ServerOp.finish (fun _ => .ret ()))]
  | .aput config item => [.await (ServerOp.aput config item) (fun _ => .ret ())]
  | .release lease => [.await (ServerOp.release lease) (fun _ => .ret ())]
  | _ => []

def serverMachine (platform : Platform) (persistent : Bool) : Machine Api ServerState TaskId where
  perform := ServerState.perform platform persistent
  interruptible := ServerState.interruptible
  struck := ServerState.struck
  leftover := fun _ => leftover
  helper := fun id => ⟨id.request, true⟩
  helper_idem := fun _ => rfl

end LangGraphServer
