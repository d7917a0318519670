import LangGraphServer.Checkpoint.Config
import LangGraphServer.Checkpoint.Inherited

set_option autoImplicit false

namespace LangGraphServer

open Collections

-- The tagged tuples that key `_sizes`; the thread id is always the second component.
inductive SizeKey (Version : Type) where
  | checkpoint (key : CheckpointKey)
  | blob (key : BlobKey Version)
  | write (key : CheckpointKey) (index : WriteIndex)
deriving DecidableEq

def SizeKey.threadId {Version : Type} : SizeKey Version → String
  | .checkpoint key => key.1
  | .blob key => key.1
  | .write key _ => key.1

-- Ghost history: which threads were dropped and which writes were accepted, in order.
inductive SaverEvent (Value Version : Type) where
  | dropped (threadId : String)
  | cleared
  | stored (threadId : String) (config : RunnableConfig) (checkpoint : Checkpoint Value Version)
      (metadata : Metadata) (versions : ChannelVersions Version)
  | wrote (threadId : String) (config : RunnableConfig) (writes : List (String × Value)) (taskId taskPath : String)

structure SaverState (Value Version : Type) where
  dicts : SaverDicts Version
  lastAccess : Dict String Time
  sizes : Dict (SizeKey Version) Nat
  serializedBytes : Int
  history : List (SaverEvent Value Version)

structure InMemoryCheckpointStats where
  threads : Nat
  checkpoints : Nat
  pendingWrites : Nat
  serializedBytes : Int

-- The immutable part of the saver object. `isPrintable` is the character test of
-- `str.isprintable`, whose Unicode tables no result depends on.
structure BoundedInMemorySaver (Value Version : Type) where
  inherited : InheritedSaver Value Version
  config : InMemoryCheckpointConfig
  isPrintable : Char → Bool

namespace BoundedInMemorySaver

variable {Value Version : Type} [DecidableEq Version] (saver : BoundedInMemorySaver Value Version)

abbrev State (_ : BoundedInMemorySaver Value Version) : Type := SaverState Value Version

def initial : saver.State := ⟨.empty, .empty, .empty, 0, []⟩

def validatedIdentifier (value : PyObj) (name : String) (maxLength : Nat) (allowEmpty : Bool) :
    Except PyError String :=
  match value with
  | .str text =>
      if text = "" ∧ allowEmpty = false then .error (.valueError (name ++ " must not be empty"))
      else if text.length > maxLength then .error (.valueError (name ++ " exceeds its maximum length"))
      else if text ≠ "" ∧ text.toList.all saver.isPrintable = false then
        .error (.valueError (name ++ " must not contain control characters or other non-printable text"))
      else .ok text
  | _ => .error (.valueError (name ++ " must be a string"))

def validatedLocation (config : RunnableConfig) : Except PyError (String × String) :=
  match config.configurable with
  | .dict entries => do
      let threadId ← saver.validatedIdentifier ((entries.lookup "thread_id").getD .none) "thread_id"
        saver.config.maxThreadIdLength false
      let checkpointNs ← saver.validatedIdentifier ((entries.lookup "checkpoint_ns").getD (.str "")) "checkpoint_ns"
        saver.config.maxCheckpointNamespaceLength true
      let checkpointId := (entries.lookup "checkpoint_id").getD .none
      if checkpointId.isNone = false then
        let _ ← saver.validatedIdentifier checkpointId "checkpoint_id" saver.config.maxThreadIdLength false
      return (threadId, checkpointNs)
  | _ => .error (.valueError "checkpoint config requires configurable values")

def setSizeLocked (state : saver.State) (key : SizeKey Version) (size : Nat) : saver.State :=
  { state with
    sizes := state.sizes.set key size
    serializedBytes := state.serializedBytes + ((size : Int) - ((state.sizes.get? key).getD 0 : Nat)) }

def removeSizeLocked (state : saver.State) (key : SizeKey Version) : saver.State :=
  { state with
    sizes := state.sizes.pop key
    serializedBytes := state.serializedBytes - ((state.sizes.get? key).getD 0 : Nat) }

def deleteThreadLocked (state : saver.State) (threadId : String) : saver.State :=
  let stripped : saver.State :=
    { state with
      dicts := saver.inherited.deleteThread state.dicts threadId
      lastAccess := state.lastAccess.pop threadId
      history := state.history ++ [.dropped threadId] }
  (state.sizes.keys.filter (fun key => decide (key.threadId = threadId))).foldl saver.removeSizeLocked stripped

def expiredThreads (state : saver.State) (now : Time) : List String :=
  let cutoff := now - saver.config.idleTtlSeconds
  (state.lastAccess.entries.filter (fun row => decide (row.2 ≤ cutoff))).map Prod.fst

def purgeExpiredLocked (state : saver.State) (now : Time) : saver.State × Nat :=
  let expired := saver.expiredThreads state now
  (expired.foldl saver.deleteThreadLocked state, expired.length)

def touchLocked (state : saver.State) (threadId : String) (now : Time) : saver.State :=
  { state with lastAccess := (state.lastAccess.pop threadId).set threadId now }

-- `while full: delete the victim`; the flag is false when full and nothing can be evicted.
-- Every round removes a tracked thread, so the tracked threads bound the rounds.
def evictWhile (full : saver.State → Bool) (victim : saver.State → Option String) :
    Nat → saver.State → saver.State × Bool
  | 0, state => (state, !full state)
  | rounds + 1, state =>
      if full state then
        match victim state with
        | none => (state, false)
        | some threadId => evictWhile full victim rounds (saver.deleteThreadLocked state threadId)
      else (state, true)

def makeRoomForThreadLocked (state : saver.State) (threadId : String) : saver.State :=
  if threadId ∈ state.lastAccess.keys then state
  else (saver.evictWhile (fun current => decide (saver.config.maxThreads ≤ current.lastAccess.size))
    (fun current => current.lastAccess.keys.head?) state.lastAccess.size state).1

def makeRoomForBytesLocked (state : saver.State) (requiredBytes : Nat) (protectedThread : String) :
    saver.State × Except PyError Unit :=
  match saver.evictWhile
      (fun current => decide ((saver.config.maxTotalBytes : Int) < current.serializedBytes + requiredBytes))
      (fun current => current.lastAccess.keys.find? (fun threadId => decide (threadId ≠ protectedThread)))
      state.lastAccess.size state with
  | (after, true) => (after, .ok ())
  | (after, false) =>
      (after, .error (.capacityError "operation exceeds the in-memory checkpoint byte budget"))

def knownNamespacesLocked (state : saver.State) (threadId : String) : List String :=
  ((state.dicts.namespaces threadId).keys ++
    ((state.dicts.writes.keys.filter (fun key => decide (key.1 = threadId))).map (fun key => key.2.1))).dedup

def knownCheckpointsLocked (state : saver.State) (threadId : String) : List (String × String) :=
  ((state.dicts.namespaces threadId).entries.flatMap (fun row => row.2.keys.map (fun id => (row.1, id))) ++
    ((state.dicts.writes.keys.filter (fun key => decide (key.1 = threadId))).map (fun key => key.2))).dedup

-- The two limit checks that `put` and `put_writes` make before any eviction for bytes.
def checkLimitsLocked (state : saver.State) (threadId checkpointNs checkpointId : String) : Except PyError Unit :=
  let namespaces := saver.knownNamespacesLocked state threadId
  let checkpoints := saver.knownCheckpointsLocked state threadId
  if checkpointNs ∉ namespaces ∧ saver.config.maxNamespacesPerThread ≤ namespaces.length then
    .error (.capacityError "thread exceeds max_namespaces_per_thread")
  else if (checkpointNs, checkpointId) ∉ checkpoints ∧ saver.config.maxCheckpointsPerThread ≤ checkpoints.length then
    .error (.capacityError ("thread exceeds max_checkpoints_per_thread; delete the " ++
      "thread or use a persistent checkpointer"))
  else .ok ()

-- The locked section of `put` and `put_writes` up to the inherited call, which both
-- methods run with the bytes they computed beforehand.
def reserveLocked (state : saver.State) (now : Time) (threadId checkpointNs checkpointId : String)
    (requiredBytes : Nat) : saver.State × Except PyError Unit :=
  let purged := (saver.purgeExpiredLocked state now).1
  let roomy := saver.makeRoomForThreadLocked purged threadId
  match saver.checkLimitsLocked roomy threadId checkpointNs checkpointId with
  | .error error => (roomy, .error error)
  | .ok () => saver.makeRoomForBytesLocked roomy requiredBytes threadId

def valuesSize (values : Dict String Value) : List String → Except PyError Nat
  | [] => .ok 0
  | channel :: rest =>
      match values.get? channel with
      | none => valuesSize values rest
      | some value => do
          let bytes ← saver.inherited.dumpsTyped (.value value)
          let others ← valuesSize values rest
          return serializedSize bytes + others

def estimateCheckpointSize (config : RunnableConfig) (checkpoint : Checkpoint Value Version)
    (metadata : Metadata) (versions : ChannelVersions Version) : Except PyError Nat := do
  let values := checkpoint.channelValues.getD .empty
  let copyBytes ← saver.inherited.dumpsTyped (.checkpoint checkpoint.withoutValues)
  let metadataBytes ← saver.inherited.dumpsTyped (.metadata (saver.inherited.getCheckpointMetadata config metadata))
  let blobBytes ← saver.valuesSize values versions.keys
  return serializedSize copyBytes + serializedSize metadataBytes + blobBytes

def recordBlobSize (threadId checkpointNs : String) (state : saver.State) (row : String × Version) : saver.State :=
  let key := (threadId, checkpointNs, row.1, row.2)
  match state.dicts.blob? key with
  | some blob => saver.setSizeLocked state (.blob key) (serializedSize blob)
  | none => state

def recordCheckpointSizesLocked (state : saver.State) (key : CheckpointKey) (versions : ChannelVersions Version) :
    saver.State × Except PyError Unit :=
  match state.dicts.checkpoint? key with
  | none => (state, .error (.keyError key.2.2))
  | some stored =>
      let sized := saver.setSizeLocked state (.checkpoint key)
        (serializedSize stored.checkpoint + serializedSize stored.metadata)
      (versions.entries.foldl (saver.recordBlobSize key.1 key.2.1) sized, .ok ())

def writeSize (stored : StoredWrite) : Nat :=
  serializedSize stored.value + encodedLength stored.channel + encodedLength stored.taskPath

def recordWriteSizesLocked (state : saver.State) (key : CheckpointKey) : saver.State :=
  (state.dicts.writesAt key).entries.foldl
    (fun current row => saver.setSizeLocked current (.write key row.1) (writeSize row.2)) state

def prepareCheckpoint (config : RunnableConfig) (checkpoint : Checkpoint Value Version) (metadata : Metadata)
    (versions : ChannelVersions Version) : Except PyError (CheckpointKey × Nat) := do
  let (threadId, checkpointNs) ← saver.validatedLocation config
  let rawId ← match checkpoint.id with
    | some rawId => Except.ok rawId
    | none => Except.error (PyError.keyError "id")
  let checkpointId ← saver.validatedIdentifier rawId "checkpoint_id" saver.config.maxThreadIdLength false
  let estimatedSize ← saver.estimateCheckpointSize config checkpoint metadata versions
  if saver.config.maxCheckpointBytes < estimatedSize then
    throw (.capacityError "checkpoint exceeds max_checkpoint_bytes")
  return ((threadId, checkpointNs, checkpointId), estimatedSize)

-- `now` and `later` are the readings of the clock by the purge and by the final touch.
def put (state : saver.State) (now later : Time) (config : RunnableConfig) (checkpoint : Checkpoint Value Version)
    (metadata : Metadata) (versions : ChannelVersions Version) : saver.State × Except PyError RunnableConfig :=
  match saver.prepareCheckpoint config checkpoint metadata versions with
  | .error error => (state, .error error)
  | .ok (key, estimatedSize) =>
      match saver.reserveLocked state now key.1 key.2.1 key.2.2 estimatedSize with
      | (reserved, .error error) => (reserved, .error error)
      | (reserved, .ok ()) =>
          match saver.inherited.put reserved.dicts config checkpoint metadata versions with
          | (dicts, .error error) => ({ reserved with dicts := dicts }, .error error)
          | (dicts, .ok result) =>
              let stored : saver.State :=
                { reserved with
                  dicts := dicts
                  history := reserved.history ++ [.stored key.1 config checkpoint metadata versions] }
              match saver.recordCheckpointSizesLocked stored key versions with
              | (recorded, .error error) => (recorded, .error error)
              | (recorded, .ok ()) => (saver.touchLocked recorded key.1 later, .ok result)

def batchSize : List (String × Value) → Except PyError Nat
  | [] => .ok 0
  | (channel, value) :: rest => do
      let bytes ← saver.inherited.dumpsTyped (.value value)
      let others ← batchSize rest
      return serializedSize bytes + encodedLength channel + others

def prepareWrites (config : RunnableConfig) (writes : List (String × Value)) (taskId taskPath : String) :
    Except PyError (CheckpointKey × Nat) := do
  let (threadId, checkpointNs) ← saver.validatedLocation config
  let checkpointId ← saver.validatedIdentifier ((config.entry? "checkpoint_id").getD .none) "checkpoint_id"
    saver.config.maxThreadIdLength false
  let _ ← saver.validatedIdentifier (.str taskId) "task_id" saver.config.maxThreadIdLength false
  let batch ← saver.batchSize writes
  let requested := batch + encodedLength taskId + encodedLength taskPath
  if saver.config.maxPendingWriteBytes < requested then
    throw (.capacityError "pending writes exceed max_pending_write_bytes")
  return ((threadId, checkpointNs, checkpointId), requested)

def putWrites (state : saver.State) (now later : Time) (config : RunnableConfig) (writes : List (String × Value))
    (taskId taskPath : String) : saver.State × Except PyError Unit :=
  match saver.prepareWrites config writes taskId taskPath with
  | .error error => (state, .error error)
  | .ok (key, requested) =>
      match saver.reserveLocked state now key.1 key.2.1 key.2.2 requested with
      | (reserved, .error error) => (reserved, .error error)
      | (reserved, .ok ()) =>
          match saver.inherited.putWrites reserved.dicts config writes taskId taskPath with
          | (dicts, .error error) => ({ reserved with dicts := dicts }, .error error)
          | (dicts, .ok ()) =>
              let stored : saver.State :=
                { reserved with
                  dicts := dicts
                  history := reserved.history ++ [.wrote key.1 config writes taskId taskPath] }
              (saver.touchLocked (saver.recordWriteSizesLocked stored key) key.1 later, .ok ())

def getTuple (state : saver.State) (now later : Time) (config : RunnableConfig) :
    saver.State × Except PyError (Option (CheckpointTuple Value Version)) :=
  match saver.validatedLocation config with
  | .error error => (state, .error error)
  | .ok (threadId, _) =>
      let purged := (saver.purgeExpiredLocked state now).1
      if threadId ∈ purged.dicts.storage.keys then
        match saver.inherited.getTuple purged.dicts config with
        | (dicts, .error error) => ({ purged with dicts := dicts }, .error error)
        | (dicts, .ok none) => ({ purged with dicts := dicts }, .ok none)
        | (dicts, .ok (some item)) => (saver.touchLocked { purged with dicts := dicts } threadId later, .ok (some item))
      else (purged, .ok none)

def list (state : saver.State) (now later : Time) (config : Option RunnableConfig) (filter : Option Metadata)
    (before : Option RunnableConfig) (limit : Option Int) :
    saver.State × Except PyError (List (CheckpointTuple Value Version)) :=
  let located : Except PyError (Option String) := do
    let threadId ← match config with
      | none => Except.ok none
      | some given => (saver.validatedLocation given).map (fun location => some location.1)
    match before with
    | none => Except.ok threadId
    | some given => (saver.validatedLocation given).map (fun _ => threadId)
  match located with
  | .error error => (state, .error error)
  | .ok threadId =>
      let purged := (saver.purgeExpiredLocked state now).1
      if threadId.any (fun known => decide (known ∉ purged.dicts.storage.keys)) then (purged, .ok [])
      else
        match saver.inherited.list purged.dicts config filter before limit, threadId with
        | (dicts, .error error), _ => ({ purged with dicts := dicts }, .error error)
        | (dicts, .ok []), _ => ({ purged with dicts := dicts }, .ok [])
        | (dicts, .ok items), none => ({ purged with dicts := dicts }, .ok items)
        | (dicts, .ok items), some known => (saver.touchLocked { purged with dicts := dicts } known later, .ok items)

def getDeltaChannelHistory (state : saver.State) (now later : Time) (config : RunnableConfig)
    (channels : List String) : saver.State × Except PyError (Dict String PyObj) :=
  match saver.validatedLocation config with
  | .error error => (state, .error error)
  | .ok (threadId, _) =>
      let purged := (saver.purgeExpiredLocked state now).1
      match saver.inherited.getDeltaChannelHistory purged.dicts config channels with
      | (dicts, .error error) => ({ purged with dicts := dicts }, .error error)
      | (dicts, .ok result) =>
          if result.keys = [] then ({ purged with dicts := dicts }, .ok result)
          else (saver.touchLocked { purged with dicts := dicts } threadId later, .ok result)

def deleteThread (state : saver.State) (threadId : PyObj) : saver.State × Except PyError Unit :=
  match saver.validatedIdentifier threadId "thread_id" saver.config.maxThreadIdLength false with
  | .error error => (state, .error error)
  | .ok validated => (saver.deleteThreadLocked state validated, .ok ())

def clear (state : saver.State) : saver.State :=
  { dicts := .empty, lastAccess := .empty, sizes := .empty, serializedBytes := 0,
    history := state.history ++ [.cleared] }

def stats (state : saver.State) (now : Time) : saver.State × InMemoryCheckpointStats :=
  let purged := (saver.purgeExpiredLocked state now).1
  (purged,
    { threads := purged.lastAccess.size
      checkpoints := (purged.dicts.storage.entries.map (fun thread =>
        (thread.2.entries.map (fun namespaced => namespaced.2.size)).sum)).sum
      pendingWrites := (purged.dicts.writes.entries.map (fun row => row.2.size)).sum
      serializedBytes := purged.serializedBytes })

end BoundedInMemorySaver

inductive SaverCall (Value Version : Type) where
  | put (config : RunnableConfig) (checkpoint : Checkpoint Value Version) (metadata : Metadata)
      (versions : ChannelVersions Version)
  | putWrites (config : RunnableConfig) (writes : List (String × Value)) (taskId taskPath : String)
  | getTuple (config : RunnableConfig)
  | list (config : Option RunnableConfig) (filter : Option Metadata) (before : Option RunnableConfig)
      (limit : Option Int)
  | getDeltaChannelHistory (config : RunnableConfig) (channels : List String)
  | deleteThread (threadId : PyObj)
  | purgeExpired
  | clear
  | stats

structure TimedCall (Value Version : Type) where
  now : Time
  later : Time
  call : SaverCall Value Version

inductive SaverReply (Value Version : Type) where
  | config (result : RunnableConfig)
  | tuple (result : Option (CheckpointTuple Value Version))
  | tuples (result : List (CheckpointTuple Value Version))
  | history (result : Dict String PyObj)
  | count (result : Nat)
  | stats (result : InMemoryCheckpointStats)
  | done

namespace BoundedInMemorySaver

variable {Value Version : Type} [DecidableEq Version] (saver : BoundedInMemorySaver Value Version)

-- Each call holds the lock from its purge to its end, so calls are atomic.
def perform (state : saver.State) (timed : TimedCall Value Version) :
    saver.State × Except PyError (SaverReply Value Version) :=
  match timed.call with
  | .put config checkpoint metadata versions =>
      let (after, result) := saver.put state timed.now timed.later config checkpoint metadata versions
      (after, result.map .config)
  | .putWrites config writes taskId taskPath =>
      let (after, result) := saver.putWrites state timed.now timed.later config writes taskId taskPath
      (after, result.map (fun _ => .done))
  | .getTuple config =>
      let (after, result) := saver.getTuple state timed.now timed.later config
      (after, result.map .tuple)
  | .list config filter before limit =>
      let (after, result) := saver.list state timed.now timed.later config filter before limit
      (after, result.map .tuples)
  | .getDeltaChannelHistory config channels =>
      let (after, result) := saver.getDeltaChannelHistory state timed.now timed.later config channels
      (after, result.map .history)
  | .deleteThread threadId =>
      let (after, result) := saver.deleteThread state threadId
      (after, result.map (fun _ => .done))
  | .purgeExpired =>
      let (after, count) := saver.purgeExpiredLocked state timed.now
      (after, .ok (.count count))
  | .clear => (saver.clear state, .ok .done)
  | .stats =>
      let (after, result) := saver.stats state timed.now
      (after, .ok (.stats result))

def step (state : saver.State) (timed : TimedCall Value Version) : saver.State := (saver.perform state timed).1

end BoundedInMemorySaver

end LangGraphServer
