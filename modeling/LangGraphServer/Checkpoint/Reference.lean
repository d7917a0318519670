import LangGraphServer.Checkpoint.Saver

set_option autoImplicit false

namespace LangGraphServer

open Collections

-- A saver that stores what its serializer accepts and raises otherwise. It shows that
-- `Lawful` can be met and runs the examples.
structure PlainSaver (Value Version : Type) where
  serializer : SaverSerializer Value Version
  loadsTuple : SaverDicts Version → CheckpointKey → StoredCheckpoint → Option (CheckpointTuple Value Version)

namespace PlainSaver

variable {Value Version : Type} [DecidableEq Version] (plain : PlainSaver Value Version)

def latestId (checkpoints : Dict String StoredCheckpoint) : Option String :=
  checkpoints.keys.foldl
    (fun latest id => if latest.any (fun other => decide (id < other)) then latest else some id) none

def found (dicts : SaverDicts Version) (config : RunnableConfig) : Option (CheckpointTuple Value Version) :=
  match config.entry? "thread_id", (config.entry? "checkpoint_ns").getD (.str "") with
  | some (.str threadId), .str checkpointNs =>
      let checkpointId := match config.entry? "checkpoint_id" with
        | some (.str given) => some given
        | _ => latestId (dicts.checkpoints threadId checkpointNs)
      checkpointId.bind (fun id => (dicts.checkpoint? (threadId, checkpointNs, id)).bind
        (plain.loadsTuple dicts (threadId, checkpointNs, id)))
  | _, _ => none

def put (dicts : SaverDicts Version) (config : RunnableConfig) (checkpoint : Checkpoint Value Version)
    (metadata : Metadata) (versions : ChannelVersions Version) : SaverDicts Version × Except PyError RunnableConfig :=
  match config.entry? "thread_id", config.entry? "checkpoint_ns", checkpoint.id, checkpoint.channelValues with
  | some (.str threadId), some (.str checkpointNs), some (.str checkpointId), some values =>
      match plain.serializer.dumpsTyped (.checkpoint checkpoint.withoutValues),
        plain.serializer.dumpsTyped (.metadata (plain.serializer.getCheckpointMetadata config metadata)),
        plain.serializer.blobRows threadId checkpointNs values versions.entries with
      | .ok copyBytes, .ok metadataBytes, .ok blobs =>
          (dicts.storeCheckpoint (threadId, checkpointNs, checkpointId)
              ⟨copyBytes, metadataBytes, config.entry? "checkpoint_id"⟩ blobs,
            .ok (checkpointLocation threadId checkpointNs checkpointId))
      | _, _, _ => (dicts, .error (.raised "TypeError"))
  | _, _, _, _ => (dicts, .error (.keyError "configurable"))

def putWrites (dicts : SaverDicts Version) (config : RunnableConfig) (writes : List (String × Value))
    (taskId taskPath : String) : SaverDicts Version × Except PyError Unit :=
  match config.entry? "thread_id", config.entry? "checkpoint_ns", config.entry? "checkpoint_id",
    plain.serializer.writeRows taskId taskPath 0 writes with
  | some (.str threadId), some (.str checkpointNs), some (.str checkpointId), .ok rows =>
      (dicts.storeWrites (threadId, checkpointNs, checkpointId) rows, .ok ())
  | _, _, _, _ => (dicts, .error (.keyError "configurable"))

def inherited : InheritedSaver Value Version where
  toSaverSerializer := plain.serializer
  put := plain.put
  putWrites := plain.putWrites
  deleteThread dicts threadId := dicts.dropThread threadId
  getTuple dicts config := (dicts, .ok (plain.found dicts config))
  list dicts _ _ _ _ := (dicts, .error (.raised "NotImplementedError"))
  getDeltaChannelHistory dicts _ channels :=
    (dicts, .ok (Dict.empty.setAll (channels.map (fun channel => (channel, .dict [("writes", .list [])])))))

theorem lawful : plain.inherited.Lawful where
  put_stores dicts config checkpoint metadata versions threadId checkpointNs checkpointId values copyBytes
      metadataBytes blobs thread namespaced identified given copied described built := by
    simp only [inherited] at copied described built ⊢
    simp [put, thread, namespaced, identified, given, copied, described, built]
  put_requires dicts config checkpoint metadata versions missing := by
    rcases missing with namespaced | values
    · refine ⟨.keyError "configurable", ?_⟩
      simp only [inherited, put, namespaced]
      split <;> first | rfl | contradiction
    · refine ⟨.keyError "configurable", ?_⟩
      simp only [inherited, put, values]
      split <;> first | rfl | contradiction
  put_writes_stores dicts config writes taskId taskPath threadId checkpointNs checkpointId rows thread namespaced
      identified built := by
    simp only [inherited] at built ⊢
    simp [putWrites, thread, namespaced, identified, built]
  put_writes_requires dicts config writes taskId taskPath namespaced := by
    refine ⟨.keyError "configurable", ?_⟩
    simp only [inherited, putWrites, namespaced]
    split <;> first | rfl | contradiction
  delete_thread_drops dicts threadId := rfl
  get_tuple_reads dicts config threadId _ _ := SaverDicts.ReadFrame.refl dicts _
  list_reads dicts config filter before limit _ := SaverDicts.ReadFrame.refl dicts _
  delta_history_reads dicts config channels threadId _ := SaverDicts.ReadFrame.refl dicts _
  delta_history_entries dicts config channels history answered channel := by
    simp only [inherited, Except.ok.injEq] at answered
    rw [← answered, Dict.mem_keys_set_all]
    simp
  delta_history_unknown dicts config channels threadId _ _ := ⟨_, rfl⟩

end PlainSaver

def encodeVersions : List (String × Nat) → Except PyError Bytes
  | [] => .ok []
  | (channel, version) :: rest =>
      match channel.toList, encodeVersions rest with
      | [letter], .ok bytes =>
          if letter.toNat < 256 ∧ version < 256 then
            .ok (UInt8.ofNat letter.toNat :: UInt8.ofNat version :: bytes)
          else .error (.raised "TypeError")
      | _, _ => .error (.raised "TypeError")

def decodeVersions : Bytes → Option (List (String × Nat))
  | [] => some []
  | letter :: version :: rest =>
      (decodeVersions rest).map (fun rows => (String.ofList [Char.ofNat letter.toNat], version.toNat) :: rows)
  | _ => none

theorem decode_encode (rows : List (String × Nat)) (bytes : Bytes) (encoded : encodeVersions rows = .ok bytes) :
    decodeVersions bytes = some rows := by
  induction rows generalizing bytes with
  | nil =>
      cases encoded
      rfl
  | cons row rest ih =>
      obtain ⟨channel, version⟩ := row
      rw [encodeVersions] at encoded
      split at encoded
      · rename_i letter tail spelled following
        split at encoded
        · rename_i small
          cases encoded
          have letterByte : (UInt8.ofNat letter.toNat).toNat = letter.toNat := UInt8.toNat_ofNat_of_lt' small.1
          have versionByte : (UInt8.ofNat version).toNat = version := UInt8.toNat_ofNat_of_lt' small.2
          have name : String.ofList [letter] = channel := by rw [← spelled, String.ofList_toList]
          rw [decodeVersions, ih tail following, Option.map_some, letterByte, versionByte, Char.ofNat_toNat, name]
        · cases encoded
      · cases encoded

def smallSerializer : SaverSerializer Bytes Nat where
  dumpsTyped
    | .value bytes => .ok ("bytes", bytes)
    | .metadata metadata => if metadata.keys = [] then .ok ("msgpack", []) else .error (.raised "TypeError")
    | .checkpoint copy => (encodeVersions copy.channelVersions.entries).map (fun bytes => ("msgpack", bytes))
  getCheckpointMetadata _ metadata := metadata
  writesIdxMap channel :=
    ["__error__", "__scheduled__", "__interrupt__", "__resume__"].idxOf? channel |>.map
      (fun index => -1 - (index : Int))

def loadsVersions (stored : SerializedValue) : Option (ChannelVersions Nat) :=
  (decodeVersions stored.2).bind (fun rows =>
    if unique : (rows.map Prod.fst).Nodup then some ⟨rows, unique⟩ else none)

theorem loads_versions_round_trip (copy : CheckpointCopy Nat) (stored : SerializedValue)
    (dumped : smallSerializer.dumpsTyped (.checkpoint copy) = .ok stored) :
    loadsVersions stored = some copy.channelVersions := by
  rw [smallSerializer] at dumped
  simp only at dumped
  cases encoded : encodeVersions copy.channelVersions.entries with
  | error error =>
      rw [encoded] at dumped
      cases dumped
  | ok bytes =>
      rw [encoded] at dumped
      cases dumped
      rw [loadsVersions, decode_encode _ bytes encoded, Option.bind_some, dif_pos copy.channelVersions.unique]

def smallSaver : PlainSaver Bytes Nat where
  serializer := smallSerializer
  loadsTuple dicts key stored := (loadsVersions stored.checkpoint).map (fun versions =>
    let values := versions.entries.filterMap (fun row =>
      match dicts.blob? (key.1, key.2.1, row.1, row.2) with
      | some ("bytes", bytes) => some (row.1, bytes)
      | _ => none)
    { config := checkpointLocation key.1 key.2.1 key.2.2
      checkpoint := ⟨some (.str key.2.2), versions, some (Dict.empty.setAll values), .none⟩
      metadata := .empty
      parentConfig := match stored.parentId with
        | some (.str parentId) => some (checkpointLocation key.1 key.2.1 parentId)
        | _ => none
      pendingWrites := (dicts.writesAt key).entries.map (fun row => (row.2.taskId, row.2.channel, row.2.value.2)) })

def smallConfig (maxThreads maxTotalBytes : Nat) : InMemoryCheckpointConfig where
  idleTtlSeconds := 10
  maxThreads := maxThreads + 1
  maxNamespacesPerThread := 4
  maxCheckpointsPerThread := 4
  maxCheckpointBytes := maxTotalBytes + 1
  maxPendingWriteBytes := maxTotalBytes + 1
  maxTotalBytes := maxTotalBytes + 1
  maxThreadIdLength := 8
  maxCheckpointNamespaceLength := 8
  ttlPositive := by decide
  threadsPositive := Nat.succ_pos _
  namespacesPositive := by decide
  checkpointsPositive := by decide
  checkpointBytesPositive := Nat.succ_pos _
  pendingWriteBytesPositive := Nat.succ_pos _
  totalBytesPositive := Nat.succ_pos _
  threadIdLengthPositive := by decide
  namespaceLengthPositive := by decide
  checkpointWithinTotal := Nat.le_refl _
  pendingWriteWithinTotal := Nat.le_refl _

def smallBoundedSaver (maxThreads maxTotalBytes : Nat) : BoundedInMemorySaver Bytes Nat where
  inherited := smallSaver.inherited
  config := smallConfig maxThreads maxTotalBytes
  isPrintable letter := decide (32 ≤ letter.toNat ∧ letter.toNat < 127)

def smallLocation (threadId : String) (checkpointId : Option String) : RunnableConfig where
  configurable := .dict ([("thread_id", .str threadId), ("checkpoint_ns", .str "")] ++
    checkpointId.toList.map (fun given => ("checkpoint_id", .str given)))
  metadata := .empty
  tags := none
  recursionLimit := none

def smallCheckpoint (checkpointId : String) (versions : List (String × Nat)) (values : List (String × Bytes)) :
    Checkpoint Bytes Nat :=
  ⟨some (.str checkpointId), Dict.empty.setAll versions, some (Dict.empty.setAll values), .none⟩

def smallPut (threadId : String) (parentId : Option String) (checkpointId : String) (versions : List (String × Nat))
    (values : List (String × Bytes)) (changed : List (String × Nat)) : SaverCall Bytes Nat :=
  .put (smallLocation threadId parentId) (smallCheckpoint checkpointId versions values) .empty
    (Dict.empty.setAll changed)

-- Two overwrites of a checkpoint id, pending writes with a special channel, a second
-- thread and its deletion.
def smallRun : List (TimedCall Bytes Nat) :=
  [⟨0, 0, smallPut "t" none "c1" [("x", 1)] [("x", [1, 2])] [("x", 1)]⟩,
    ⟨1, 1, .putWrites (smallLocation "t" (some "c1")) [("x", [7]), ("__error__", [1])] "task" ""⟩,
    ⟨2, 2, smallPut "t" (some "c1") "c1" [("x", 2)] [("x", [3])] [("x", 2)]⟩,
    ⟨3, 3, smallPut "u" none "c1" [("x", 1)] [("x", [4])] [("x", 1)]⟩,
    ⟨4, 4, .deleteThread (.str "u")⟩]

end LangGraphServer
