import LangGraphServer.Checkpoint.Saver

set_option autoImplicit false

namespace LangGraphServer.BoundedInMemorySaver

open Collections

variable {Value Version : Type} (saver : BoundedInMemorySaver Value Version)

theorem validated_identifier_text (value : PyObj) (name text : String) (maxLength : Nat) (allowEmpty : Bool)
    (valid : saver.validatedIdentifier value name maxLength allowEmpty = .ok text) : value = .str text := by
  cases value with
  | str given =>
      simp only [validatedIdentifier] at valid
      split at valid
      · cases valid
      · split at valid
        · cases valid
        · split at valid
          · cases valid
          · cases valid
            rfl
  | _ => simp [validatedIdentifier] at valid

theorem validated_location_thread (config : RunnableConfig) (threadId checkpointNs : String)
    (valid : saver.validatedLocation config = .ok (threadId, checkpointNs)) :
    config.entry? "thread_id" = some (.str threadId) ∧
      (config.entry? "checkpoint_ns").getD (.str "") = .str checkpointNs := by
  simp only [validatedLocation, RunnableConfig.entry?] at valid ⊢
  cases configurable : config.configurable with
  | dict entries =>
      simp only [configurable, bind, Except.bind] at valid
      cases threadChecked : saver.validatedIdentifier ((entries.lookup "thread_id").getD .none) "thread_id"
          saver.config.maxThreadIdLength false with
      | error error => simp [threadChecked] at valid
      | ok thread =>
          simp only [threadChecked] at valid
          cases nsChecked : saver.validatedIdentifier ((entries.lookup "checkpoint_ns").getD (.str ""))
              "checkpoint_ns" saver.config.maxCheckpointNamespaceLength true with
          | error error => simp [nsChecked] at valid
          | ok namespaced =>
              have located : thread = threadId ∧ namespaced = checkpointNs := by
                simp only [nsChecked] at valid
                split at valid
                · split at valid
                  · cases valid
                  · simpa [pure, Except.pure] using valid
                · simpa [pure, Except.pure] using valid
              have threadText := saver.validated_identifier_text _ _ _ _ _ threadChecked
              have nsText := saver.validated_identifier_text _ _ _ _ _ nsChecked
              rw [located.1] at threadText
              rw [located.2] at nsText
              refine ⟨?_, nsText⟩
              cases found : entries.lookup "thread_id" with
              | none => simp [found] at threadText
              | some value =>
                  rw [found, Option.getD_some] at threadText
                  rw [PyObj.entry?, found, threadText]
  | _ => simp [configurable] at valid

structure Prepared (config : RunnableConfig) (checkpoint : Checkpoint Value Version) (metadata : Metadata)
    (versions : ChannelVersions Version) (key : CheckpointKey) (estimatedSize : Nat) : Prop where
  threadId : config.entry? "thread_id" = some (.str key.1)
  checkpointNs : (config.entry? "checkpoint_ns").getD (.str "") = .str key.2.1
  checkpointId : checkpoint.id = some (.str key.2.2)
  estimate : saver.estimateCheckpointSize config checkpoint metadata versions = .ok estimatedSize
  bounded : estimatedSize ≤ saver.config.maxCheckpointBytes

theorem prepare_checkpoint_spec (config : RunnableConfig) (checkpoint : Checkpoint Value Version)
    (metadata : Metadata) (versions : ChannelVersions Version) (key : CheckpointKey) (estimatedSize : Nat)
    (prepared : saver.prepareCheckpoint config checkpoint metadata versions = .ok (key, estimatedSize)) :
    saver.Prepared config checkpoint metadata versions key estimatedSize := by
  simp only [prepareCheckpoint, bind, Except.bind] at prepared
  cases located : saver.validatedLocation config with
  | error error => simp [located] at prepared
  | ok location =>
      obtain ⟨threadId, checkpointNs⟩ := location
      cases rawId : checkpoint.id with
      | none => simp [located, rawId] at prepared
      | some value =>
          cases checked : saver.validatedIdentifier value "checkpoint_id" saver.config.maxThreadIdLength false with
          | error error => simp [located, rawId, checked] at prepared
          | ok checkpointId =>
              cases estimate : saver.estimateCheckpointSize config checkpoint metadata versions with
              | error error => simp [located, rawId, checked, estimate] at prepared
              | ok size =>
                  simp only [located, rawId, checked, estimate] at prepared
                  split at prepared
                  · simp [throw, throwThe, MonadExceptOf.throw] at prepared
                  · rename_i within
                    simp only [pure, Except.pure, Except.ok.injEq, Prod.mk.injEq] at prepared
                    obtain ⟨rfl, rfl⟩ := prepared
                    obtain ⟨thread, namespaced⟩ := saver.validated_location_thread config threadId checkpointNs located
                    have text := saver.validated_identifier_text _ _ _ _ _ checked
                    exact ⟨thread, namespaced, by rw [rawId, text], estimate, Nat.le_of_not_lt within⟩

def absentChannels (values : Dict String Value) (rows : List (String × Version)) : List (String × Version) :=
  rows.filter (fun row => (values.get? row.1).isNone)

-- The estimate covers the channels with a value; each channel without one is stored in
-- the five bytes of its type tag.
theorem values_blob_rows (threadId checkpointNs : String) (values : Dict String Value)
    (rows : List (String × Version)) (size : Nat)
    (sized : saver.valuesSize values (rows.map Prod.fst) = .ok size) :
    ∃ blobs, saver.inherited.blobRows threadId checkpointNs values rows = .ok blobs ∧
      blobs.map Prod.fst = rows.map (fun row => (threadId, checkpointNs, row.1, row.2)) ∧
      (blobs.map (fun row => serializedSize row.2)).sum = size + 5 * (absentChannels values rows).length := by
  induction rows generalizing size with
  | nil =>
      cases sized
      exact ⟨[], rfl, rfl, rfl⟩
  | cons row rest ih =>
      obtain ⟨channel, version⟩ := row
      rw [List.map_cons, valuesSize] at sized
      cases given : values.get? channel with
      | none =>
          simp only [given] at sized
          obtain ⟨blobs, built, keyed, total⟩ := ih size sized
          have absent : absentChannels values ((channel, version) :: rest) =
              (channel, version) :: absentChannels values rest := by
            simp [absentChannels, given]
          refine ⟨((threadId, checkpointNs, channel, version), ("empty", [])) :: blobs, ?_, ?_, ?_⟩
          · simp [SaverSerializer.blobRows, SaverSerializer.blobFor, given, built]
          · simp [keyed]
          · have tag : serializedSize ("empty", []) = 5 := rfl
            rw [List.map_cons, List.sum_cons, total, absent, List.length_cons, tag]
            omega
      | some value =>
          simp only [given, bind, Except.bind] at sized
          cases dumped : saver.inherited.dumpsTyped (.value value) with
          | error error => simp [dumped] at sized
          | ok bytes =>
              cases others : saver.valuesSize values (rest.map Prod.fst) with
              | error error => simp [dumped, others] at sized
              | ok remaining =>
                  simp only [dumped, others, pure, Except.pure, Except.ok.injEq] at sized
                  obtain ⟨blobs, built, keyed, total⟩ := ih remaining others
                  have present : absentChannels values ((channel, version) :: rest) = absentChannels values rest := by
                    simp [absentChannels, given]
                  refine ⟨((threadId, checkpointNs, channel, version), bytes) :: blobs, ?_, ?_, ?_⟩
                  · simp [SaverSerializer.blobRows, SaverSerializer.blobFor, given, built, dumped]
                  · simp [keyed]
                  · rw [List.map_cons, List.sum_cons, total, present, ← sized, Nat.add_assoc]

-- What a `put` that got past its checks stores, and what its estimate left out.
structure CheckpointCommit (config : RunnableConfig) (checkpoint : Checkpoint Value Version) (metadata : Metadata)
    (versions : ChannelVersions Version) (key : CheckpointKey) (estimatedSize : Nat) (stored : StoredCheckpoint)
    (values : Dict String Value) (blobs : List (BlobKey Version × SerializedValue)) : Prop where
  prepared : saver.Prepared config checkpoint metadata versions key estimatedSize
  checkpointNs : config.entry? "checkpoint_ns" = some (.str key.2.1)
  given : checkpoint.channelValues = some values
  copy : saver.inherited.dumpsTyped (.checkpoint checkpoint.withoutValues) = .ok stored.checkpoint
  metadata : saver.inherited.dumpsTyped (.metadata (saver.inherited.getCheckpointMetadata config metadata)) =
    .ok stored.metadata
  parentId : stored.parentId = config.entry? "checkpoint_id"
  built : saver.inherited.blobRows key.1 key.2.1 values versions.entries = .ok blobs
  keyed : blobs.map Prod.fst = versions.entries.map (fun row => (key.1, key.2.1, row.1, row.2))
  bytes : serializedSize stored.checkpoint + serializedSize stored.metadata +
    (blobs.map (fun row => serializedSize row.2)).sum =
      estimatedSize + 5 * (absentChannels values versions.entries).length

theorem CheckpointCommit.owned {config : RunnableConfig} {checkpoint : Checkpoint Value Version}
    {metadata : Metadata} {versions : ChannelVersions Version} {key : CheckpointKey} {estimatedSize : Nat}
    {stored : StoredCheckpoint} {values : Dict String Value} {blobs : List (BlobKey Version × SerializedValue)}
    (commit : saver.CheckpointCommit config checkpoint metadata versions key estimatedSize stored values blobs) :
    ∀ row ∈ blobs, row.1.1 = key.1 := by
  intro row member
  have listed : row.1 ∈ blobs.map Prod.fst := List.mem_map_of_mem member
  rw [commit.keyed] at listed
  obtain ⟨version, _, same⟩ := List.mem_map.mp listed
  rw [← same]

theorem estimate_spec (config : RunnableConfig) (checkpoint : Checkpoint Value Version) (metadata : Metadata)
    (versions : ChannelVersions Version) (size : Nat)
    (estimate : saver.estimateCheckpointSize config checkpoint metadata versions = .ok size) :
    ∃ copyBytes metadataBytes blobBytes,
      saver.inherited.dumpsTyped (.checkpoint checkpoint.withoutValues) = .ok copyBytes ∧
      saver.inherited.dumpsTyped (.metadata (saver.inherited.getCheckpointMetadata config metadata)) =
        .ok metadataBytes ∧
      saver.valuesSize (checkpoint.channelValues.getD .empty) versions.keys = .ok blobBytes ∧
      size = serializedSize copyBytes + serializedSize metadataBytes + blobBytes := by
  simp only [estimateCheckpointSize, bind, Except.bind, pure, Except.pure] at estimate
  cases copied : saver.inherited.dumpsTyped (.checkpoint checkpoint.withoutValues) with
  | error error => simp [copied] at estimate
  | ok copyBytes =>
      cases described : saver.inherited.dumpsTyped
          (.metadata (saver.inherited.getCheckpointMetadata config metadata)) with
      | error error => simp [copied, described] at estimate
      | ok metadataBytes =>
          cases sized : saver.valuesSize (checkpoint.channelValues.getD .empty) versions.keys with
          | error error => simp [copied, described, sized] at estimate
          | ok blobBytes =>
              simp only [copied, described, sized, Except.ok.injEq] at estimate
              exact ⟨copyBytes, metadataBytes, blobBytes, rfl, rfl, rfl, estimate.symm⟩

-- With its namespace and its values given, a checkpoint that passed the checks can be stored.
theorem checkpoint_commits (config : RunnableConfig) (checkpoint : Checkpoint Value Version) (metadata : Metadata)
    (versions : ChannelVersions Version) (key : CheckpointKey) (estimatedSize : Nat) (values : Dict String Value)
    (prepared : saver.Prepared config checkpoint metadata versions key estimatedSize)
    (namespaced : config.entry? "checkpoint_ns" ≠ none) (given : checkpoint.channelValues = some values) :
    ∃ stored blobs, saver.CheckpointCommit config checkpoint metadata versions key estimatedSize stored
      values blobs := by
  obtain ⟨copyBytes, metadataBytes, blobBytes, copied, described, sized, total⟩ :=
    saver.estimate_spec config checkpoint metadata versions estimatedSize prepared.estimate
  rw [given, Option.getD_some] at sized
  obtain ⟨blobs, built, keyed, bytes⟩ := saver.values_blob_rows key.1 key.2.1 values versions.entries blobBytes sized
  refine ⟨⟨copyBytes, metadataBytes, config.entry? "checkpoint_id"⟩, blobs, prepared, ?_, given, copied, described,
    rfl, built, keyed, ?_⟩
  · have text := prepared.checkpointNs
    cases found : config.entry? "checkpoint_ns" with
    | none => exact absurd found namespaced
    | some value => rw [found, Option.getD_some] at text; rw [text]
  · rw [bytes, total, ← Nat.add_assoc]

theorem batch_rows (taskId taskPath : String) (writes : List (String × Value)) (position size : Nat)
    (sized : saver.batchSize writes = .ok size) :
    ∃ rows, saver.inherited.writeRows taskId taskPath position writes = .ok rows ∧
      rows.length = writes.length ∧
      (rows.map (fun row => writeSize row.2)).sum = size + writes.length * encodedLength taskPath := by
  induction writes generalizing position size with
  | nil =>
      cases sized
      exact ⟨[], rfl, rfl, by simp⟩
  | cons write rest ih =>
      obtain ⟨channel, value⟩ := write
      simp only [batchSize, bind, Except.bind, pure, Except.pure] at sized
      cases dumped : saver.inherited.dumpsTyped (.value value) with
      | error error => simp [dumped] at sized
      | ok bytes =>
          cases others : saver.batchSize rest with
          | error error => simp [dumped, others] at sized
          | ok remaining =>
              simp only [dumped, others, Except.ok.injEq] at sized
              obtain ⟨rows, built, counted, total⟩ := ih (position + 1) remaining others
              refine ⟨((taskId, (saver.inherited.writesIdxMap channel).getD position),
                ⟨taskId, channel, bytes, taskPath⟩) :: rows, ?_, ?_, ?_⟩
              · simp [SaverSerializer.writeRows, dumped, built]
              · simp [counted]
              · rw [List.map_cons, List.sum_cons, total, ← sized, writeSize, List.length_cons, Nat.succ_mul]
                simp only
                omega

structure WritesCommit (config : RunnableConfig) (writes : List (String × Value)) (taskId taskPath : String)
    (key : CheckpointKey) (requested : Nat) (rows : List (WriteIndex × StoredWrite)) : Prop where
  threadId : config.entry? "thread_id" = some (.str key.1)
  checkpointNs : (config.entry? "checkpoint_ns").getD (.str "") = .str key.2.1
  checkpointId : config.entry? "checkpoint_id" = some (.str key.2.2)
  built : saver.inherited.writeRows taskId taskPath 0 writes = .ok rows
  bounded : requested ≤ saver.config.maxPendingWriteBytes
  bytes : (rows.map (fun row => writeSize row.2)).sum + encodedLength taskId + encodedLength taskPath =
    requested + writes.length * encodedLength taskPath

theorem prepare_writes_spec (config : RunnableConfig) (writes : List (String × Value)) (taskId taskPath : String)
    (key : CheckpointKey) (requested : Nat)
    (prepared : saver.prepareWrites config writes taskId taskPath = .ok (key, requested)) :
    ∃ rows, saver.WritesCommit config writes taskId taskPath key requested rows := by
  simp only [prepareWrites, bind, Except.bind] at prepared
  cases located : saver.validatedLocation config with
  | error error => simp [located] at prepared
  | ok location =>
      obtain ⟨threadId, checkpointNs⟩ := location
      cases checked : saver.validatedIdentifier ((config.entry? "checkpoint_id").getD .none) "checkpoint_id"
          saver.config.maxThreadIdLength false with
      | error error => simp [located, checked] at prepared
      | ok checkpointId =>
          cases task : saver.validatedIdentifier (.str taskId) "task_id" saver.config.maxThreadIdLength false with
          | error error => simp [located, checked, task] at prepared
          | ok taskText =>
              cases batch : saver.batchSize writes with
              | error error => simp [located, checked, task, batch] at prepared
              | ok size =>
                  simp only [located, checked, task, batch] at prepared
                  split at prepared
                  · simp [throw, throwThe, MonadExceptOf.throw] at prepared
                  · rename_i within
                    simp only [pure, Except.pure, Except.ok.injEq, Prod.mk.injEq] at prepared
                    obtain ⟨rfl, rfl⟩ := prepared
                    obtain ⟨thread, namespaced⟩ := saver.validated_location_thread config threadId checkpointNs located
                    have text := saver.validated_identifier_text _ _ _ _ _ checked
                    obtain ⟨rows, built, _, total⟩ := saver.batch_rows taskId taskPath writes 0 size batch
                    refine ⟨rows, thread, namespaced, ?_, built, Nat.le_of_not_lt within, by rw [total]; omega⟩
                    cases found : config.entry? "checkpoint_id" with
                    | none => simp [found] at text
                    | some value => rw [found, Option.getD_some] at text; rw [text]

end LangGraphServer.BoundedInMemorySaver
