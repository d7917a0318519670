import LangGraphServer.Python

set_option autoImplicit false

namespace LangGraphServer

open Collections

abbrev SerializedValue := String × Bytes
abbrev ChannelVersions (Version : Type) := Dict String Version

def serializedSize (value : SerializedValue) : Nat := encodedLength value.1 + value.2.length

structure Checkpoint (Value Version : Type) where
  id : Option PyObj
  channelVersions : ChannelVersions Version
  channelValues : Option (Dict String Value)
  fields : PyObj

structure CheckpointCopy (Version : Type) where
  id : Option PyObj
  channelVersions : ChannelVersions Version
  fields : PyObj

-- `{key: value for key, value in checkpoint.items() if key != "channel_values"}`
def Checkpoint.withoutValues {Value Version : Type} (checkpoint : Checkpoint Value Version) :
    CheckpointCopy Version :=
  ⟨checkpoint.id, checkpoint.channelVersions, checkpoint.fields⟩

inductive Serializable (Value Version : Type) where
  | checkpoint (copy : CheckpointCopy Version)
  | metadata (metadata : Metadata)
  | value (value : Value)

structure CheckpointTuple (Value Version : Type) where
  config : RunnableConfig
  checkpoint : Checkpoint Value Version
  metadata : Metadata
  parentConfig : Option RunnableConfig
  pendingWrites : List (String × String × Value)

structure StoredCheckpoint where
  checkpoint : SerializedValue
  metadata : SerializedValue
  parentId : Option PyObj

structure StoredWrite where
  taskId : String
  channel : String
  value : SerializedValue
  taskPath : String

abbrev CheckpointKey := String × String × String
abbrev WriteIndex := String × Int
abbrev BlobKey (Version : Type) := String × String × String × Version

-- The three dictionaries that the saver inherits. `storage` and `writes` are defaultdicts:
-- indexing them with a new key leaves an empty inner dictionary behind.
structure SaverDicts (Version : Type) where
  storage : Dict String (Dict String (Dict String StoredCheckpoint))
  writes : Dict CheckpointKey (Dict WriteIndex StoredWrite)
  blobs : Dict (BlobKey Version) SerializedValue

namespace SaverDicts

variable {Version : Type} [DecidableEq Version]

def empty : SaverDicts Version := ⟨.empty, .empty, .empty⟩

def namespaces (dicts : SaverDicts Version) (threadId : String) : Dict String (Dict String StoredCheckpoint) :=
  (dicts.storage.get? threadId).getD .empty

def checkpoints (dicts : SaverDicts Version) (threadId checkpointNs : String) : Dict String StoredCheckpoint :=
  ((dicts.namespaces threadId).get? checkpointNs).getD .empty

def writesAt (dicts : SaverDicts Version) (key : CheckpointKey) : Dict WriteIndex StoredWrite :=
  (dicts.writes.get? key).getD .empty

def checkpoint? (dicts : SaverDicts Version) (key : CheckpointKey) : Option StoredCheckpoint :=
  (dicts.checkpoints key.1 key.2.1).get? key.2.2

def write? (dicts : SaverDicts Version) (key : CheckpointKey) (index : WriteIndex) : Option StoredWrite :=
  (dicts.writesAt key).get? index

def blob? (dicts : SaverDicts Version) (key : BlobKey Version) : Option SerializedValue :=
  dicts.blobs.get? key

def Occurs (dicts : SaverDicts Version) (threadId : String) : Prop :=
  threadId ∈ dicts.storage.keys ∨ (∃ key ∈ dicts.blobs.keys, key.1 = threadId) ∨
    ∃ key ∈ dicts.writes.keys, key.1 = threadId

def storeCheckpoint (dicts : SaverDicts Version) (key : CheckpointKey) (stored : StoredCheckpoint)
    (blobs : List (BlobKey Version × SerializedValue)) : SaverDicts Version :=
  { dicts with
    blobs := dicts.blobs.setAll blobs
    storage := dicts.storage.set key.1
      ((dicts.namespaces key.1).set key.2.1 ((dicts.checkpoints key.1 key.2.1).set key.2.2 stored)) }

-- An entry with a regular index is written once; the special indices are negative and
-- are overwritten.
def KeepsWrite (dicts : SaverDicts Version) (key : CheckpointKey) (index : WriteIndex) : Prop :=
  0 ≤ index.2 ∧ index ∈ (dicts.writesAt key).keys

instance (dicts : SaverDicts Version) (key : CheckpointKey) (index : WriteIndex) :
    Decidable (dicts.KeepsWrite key index) := inferInstanceAs (Decidable (_ ∧ _))

def storeWrite (dicts : SaverDicts Version) (key : CheckpointKey) (row : WriteIndex × StoredWrite) :
    SaverDicts Version :=
  if dicts.KeepsWrite key row.1 then dicts
  else { dicts with writes := dicts.writes.set key ((dicts.writesAt key).set row.1 row.2) }

def storeWrites (dicts : SaverDicts Version) (key : CheckpointKey) (rows : List (WriteIndex × StoredWrite)) :
    SaverDicts Version :=
  rows.foldl (fun current row => current.storeWrite key row) dicts

def dropThread (dicts : SaverDicts Version) (threadId : String) : SaverDicts Version :=
  { storage := dicts.storage.pop threadId
    writes := dicts.writes.restrict (fun key => decide (key.1 ≠ threadId))
    blobs := dicts.blobs.restrict (fun key => decide (key.1 ≠ threadId)) }

-- What a read may do: indexing a defaultdict can add empty inner dictionaries, but no
-- item appears, changes or disappears, and a thread is new only where `mayAdd` says so.
structure ReadFrame (dicts after : SaverDicts Version) (mayAdd : String → Prop) : Prop where
  checkpoints : ∀ key, after.checkpoint? key = dicts.checkpoint? key
  writes : ∀ key index, after.write? key index = dicts.write? key index
  blobs : ∀ key, after.blob? key = dicts.blob? key
  threads : ∀ threadId, after.Occurs threadId → dicts.Occurs threadId ∨ mayAdd threadId

theorem ReadFrame.refl (dicts : SaverDicts Version) (mayAdd : String → Prop) : dicts.ReadFrame dicts mayAdd :=
  ⟨fun _ => rfl, fun _ _ => rfl, fun _ => rfl, fun _ occurs => Or.inl occurs⟩

end SaverDicts

def checkpointLocation (threadId checkpointNs checkpointId : String) : RunnableConfig where
  configurable := .dict [("thread_id", .str threadId), ("checkpoint_ns", .str checkpointNs),
    ("checkpoint_id", .str checkpointId)]
  metadata := .empty
  tags := none
  recursionLimit := none

-- `langgraph.checkpoint.memory.InMemorySaver` is outside the repository. Its operations,
-- its serializer and `get_checkpoint_metadata` are parameters; `Lawful` is all that the
-- repository relies on.
structure SaverSerializer (Value Version : Type) where
  dumpsTyped : Serializable Value Version → Except PyError SerializedValue
  getCheckpointMetadata : RunnableConfig → Metadata → Metadata
  writesIdxMap : String → Option Int

structure InheritedSaver (Value Version : Type) extends SaverSerializer Value Version where
  put : SaverDicts Version → RunnableConfig → Checkpoint Value Version → Metadata → ChannelVersions Version →
    SaverDicts Version × Except PyError RunnableConfig
  putWrites : SaverDicts Version → RunnableConfig → List (String × Value) → String → String →
    SaverDicts Version × Except PyError Unit
  deleteThread : SaverDicts Version → String → SaverDicts Version
  getTuple : SaverDicts Version → RunnableConfig →
    SaverDicts Version × Except PyError (Option (CheckpointTuple Value Version))
  list : SaverDicts Version → Option RunnableConfig → Option Metadata → Option RunnableConfig → Option Int →
    SaverDicts Version × Except PyError (List (CheckpointTuple Value Version))
  getDeltaChannelHistory : SaverDicts Version → RunnableConfig → List String →
    SaverDicts Version × Except PyError (Dict String PyObj)

namespace SaverSerializer

variable {Value Version : Type} (saver : SaverSerializer Value Version)

-- A channel without a value is stored as an empty blob.
def blobFor (values : Dict String Value) (channel : String) : Except PyError SerializedValue :=
  match values.get? channel with
  | some value => saver.dumpsTyped (.value value)
  | none => .ok ("empty", [])

def blobRows (threadId checkpointNs : String) (values : Dict String Value) :
    List (String × Version) → Except PyError (List (BlobKey Version × SerializedValue))
  | [] => .ok []
  | (channel, version) :: rest =>
      match saver.blobFor values channel, blobRows threadId checkpointNs values rest with
      | .ok blob, .ok rows => .ok (((threadId, checkpointNs, channel, version), blob) :: rows)
      | .error error, _ => .error error
      | _, .error error => .error error

def writeRows (taskId taskPath : String) :
    Nat → List (String × Value) → Except PyError (List (WriteIndex × StoredWrite))
  | _, [] => .ok []
  | position, (channel, value) :: rest =>
      match saver.dumpsTyped (.value value), writeRows taskId taskPath (position + 1) rest with
      | .ok bytes, .ok rows =>
          .ok (((taskId, (saver.writesIdxMap channel).getD position), ⟨taskId, channel, bytes, taskPath⟩) :: rows)
      | .error error, _ => .error error
      | _, .error error => .error error

end SaverSerializer

namespace InheritedSaver

variable {Value Version : Type} [DecidableEq Version] (saver : InheritedSaver Value Version)

structure Lawful : Prop where
  put_stores : ∀ (dicts : SaverDicts Version) (config : RunnableConfig) checkpoint metadata versions
      threadId checkpointNs checkpointId values copyBytes metadataBytes blobs,
    config.entry? "thread_id" = some (.str threadId) → config.entry? "checkpoint_ns" = some (.str checkpointNs) →
    checkpoint.id = some (.str checkpointId) → checkpoint.channelValues = some values →
    saver.dumpsTyped (.checkpoint checkpoint.withoutValues) = .ok copyBytes →
    saver.dumpsTyped (.metadata (saver.getCheckpointMetadata config metadata)) = .ok metadataBytes →
    saver.blobRows threadId checkpointNs values versions.entries = .ok blobs →
    saver.put dicts config checkpoint metadata versions =
      (dicts.storeCheckpoint (threadId, checkpointNs, checkpointId)
        ⟨copyBytes, metadataBytes, config.entry? "checkpoint_id"⟩ blobs,
        .ok (checkpointLocation threadId checkpointNs checkpointId))
  put_requires : ∀ (dicts : SaverDicts Version) (config : RunnableConfig) checkpoint metadata versions,
    config.entry? "checkpoint_ns" = none ∨ checkpoint.channelValues = none →
    ∃ error, saver.put dicts config checkpoint metadata versions = (dicts, .error error)
  put_writes_stores : ∀ (dicts : SaverDicts Version) (config : RunnableConfig) writes taskId taskPath threadId
    checkpointNs checkpointId rows,
    config.entry? "thread_id" = some (.str threadId) → config.entry? "checkpoint_ns" = some (.str checkpointNs) →
    config.entry? "checkpoint_id" = some (.str checkpointId) →
    saver.writeRows taskId taskPath 0 writes = .ok rows →
    saver.putWrites dicts config writes taskId taskPath =
      (dicts.storeWrites (threadId, checkpointNs, checkpointId) rows, .ok ())
  put_writes_requires : ∀ (dicts : SaverDicts Version) (config : RunnableConfig) writes taskId taskPath,
    config.entry? "checkpoint_ns" = none →
    ∃ error, saver.putWrites dicts config writes taskId taskPath = (dicts, .error error)
  delete_thread_drops : ∀ (dicts : SaverDicts Version) threadId, saver.deleteThread dicts threadId =
    dicts.dropThread threadId
  get_tuple_reads : ∀ (dicts : SaverDicts Version) (config : RunnableConfig) threadId,
    config.entry? "thread_id" = some (.str threadId) →
    threadId ∈ dicts.storage.keys → dicts.ReadFrame (saver.getTuple dicts config).1 (fun _ => False)
  list_reads : ∀ (dicts : SaverDicts Version) (config : Option RunnableConfig) filter before limit,
    (∀ given : RunnableConfig, config = some given → ∃ threadId, given.entry? "thread_id" = some (.str threadId) ∧
      threadId ∈ dicts.storage.keys) →
    dicts.ReadFrame (saver.list dicts config filter before limit).1 (fun _ => False)
  delta_history_reads : ∀ (dicts : SaverDicts Version) (config : RunnableConfig) channels threadId,
    config.entry? "thread_id" = some (.str threadId) →
    dicts.ReadFrame (saver.getDeltaChannelHistory dicts config channels).1 (fun added => added = threadId ∧
      ∃ history, (saver.getDeltaChannelHistory dicts config channels).2 = .ok history ∧ history.keys ≠ [])
  delta_history_entries : ∀ (dicts : SaverDicts Version) (config : RunnableConfig) channels history,
    (saver.getDeltaChannelHistory dicts config channels).2 = .ok history →
    ∀ channel, channel ∈ history.keys ↔ channel ∈ channels
  delta_history_unknown : ∀ (dicts : SaverDicts Version) (config : RunnableConfig) channels threadId,
    config.entry? "thread_id" = some (.str threadId) →
    ¬ dicts.Occurs threadId →
    ∃ history, (saver.getDeltaChannelHistory dicts config channels).2 = .ok history

end InheritedSaver

end LangGraphServer
