import LangGraphServer.Checkpoint.Eviction
import LangGraphServer.Checkpoint.Prepare

set_option autoImplicit false

namespace LangGraphServer.BoundedInMemorySaver

open Collections

variable {Value Version : Type} [DecidableEq Version] (saver : BoundedInMemorySaver Value Version)

def recordItem (state : saver.State) (key : SizeKey Version) : saver.State :=
  match state.dicts.itemSize? key with
  | some size => saver.setSizeLocked state key size
  | none => state

def recordAll (state : saver.State) (keys : List (SizeKey Version)) : saver.State :=
  keys.foldl saver.recordItem state

structure SizesRecorded (state after : saver.State) (keys : List (SizeKey Version)) : Prop where
  dicts : after.dicts = state.dicts
  lastAccess : after.lastAccess = state.lastAccess
  history : after.history = state.history
  sizes : ∀ key, after.sizes.get? key =
    if key ∈ keys then (state.dicts.itemSize? key).or (state.sizes.get? key) else state.sizes.get? key
  balanced : saver.Balanced state → saver.Balanced after

theorem record_item_spec (state : saver.State) (key : SizeKey Version) :
    saver.SizesRecorded state (saver.recordItem state key) [key] := by
  rw [recordItem]
  cases sized : state.dicts.itemSize? key with
  | none =>
      refine ⟨rfl, rfl, rfl, fun query => ?_, fun balanced => balanced⟩
      by_cases same : query = key
      · simp [same, sized]
      · simp [same]
  | some size =>
      refine ⟨rfl, rfl, rfl, fun query => ?_, saver.set_size_balanced state key size⟩
      by_cases same : query = key
      · simp [setSizeLocked, Dict.get_set, same, sized]
      · simp [setSizeLocked, Dict.get_set, same]

theorem record_all_spec (keys : List (SizeKey Version)) (state : saver.State) :
    saver.SizesRecorded state (saver.recordAll state keys) keys := by
  induction keys generalizing state with
  | nil => exact ⟨rfl, rfl, rfl, fun key => by simp [recordAll], fun balanced => balanced⟩
  | cons first rest ih =>
      have head := saver.record_item_spec state first
      have tail := ih (saver.recordItem state first)
      refine ⟨tail.dicts.trans head.dicts, tail.lastAccess.trans head.lastAccess, tail.history.trans head.history,
        fun key => ?_, fun balanced => tail.balanced (head.balanced balanced)⟩
      have later := tail.sizes key
      rw [head.dicts, head.sizes key] at later
      refine later.trans ?_
      by_cases now : key = first <;> by_cases listed : key ∈ rest <;> simp [now, listed]
      · cases state.dicts.itemSize? first <;> simp
      · cases state.dicts.itemSize? first <;> simp_all

theorem record_blob_size_eq (threadId checkpointNs : String) (state : saver.State) (row : String × Version) :
    saver.recordBlobSize threadId checkpointNs state row =
      saver.recordItem state (.blob (threadId, checkpointNs, row.1, row.2)) := by
  simp only [recordBlobSize, recordItem, SaverDicts.itemSize?]
  cases state.dicts.blob? (threadId, checkpointNs, row.1, row.2) <;> rfl

def storeKeys (key : CheckpointKey) (versions : ChannelVersions Version) : List (SizeKey Version) :=
  .checkpoint key :: versions.entries.map (fun row => .blob (key.1, key.2.1, row.1, row.2))

theorem record_checkpoint_sizes_eq (state : saver.State) (key : CheckpointKey) (versions : ChannelVersions Version)
    (stored : StoredCheckpoint) (found : state.dicts.checkpoint? key = some stored) :
    saver.recordCheckpointSizesLocked state key versions =
      (saver.recordAll state (storeKeys key versions), .ok ()) := by
  have first : saver.recordItem state (.checkpoint key) = saver.setSizeLocked state (.checkpoint key)
      (serializedSize stored.checkpoint + serializedSize stored.metadata) := by
    simp [recordItem, SaverDicts.itemSize?, found]
  have rest : ∀ (rows : List (String × Version)) (current : saver.State),
      rows.foldl (saver.recordBlobSize key.1 key.2.1) current =
        (rows.map (fun row => SizeKey.blob (key.1, key.2.1, row.1, row.2))).foldl saver.recordItem current := by
    intro rows current
    rw [List.foldl_map]
    congr 1
    funext earlier row
    exact saver.record_blob_size_eq key.1 key.2.1 earlier row
  simp only [recordCheckpointSizesLocked, found, recordAll, storeKeys, List.foldl_cons, first, rest]

theorem record_write_rows_eq (key : CheckpointKey) (rows : List (WriteIndex × StoredWrite)) (state : saver.State)
    (present : ∀ row ∈ rows, state.dicts.write? key row.1 = some row.2) :
    rows.foldl (fun current row => saver.setSizeLocked current (.write key row.1) (writeSize row.2)) state =
      saver.recordAll state (rows.map (fun row => SizeKey.write key row.1)) := by
  induction rows generalizing state with
  | nil => rfl
  | cons row rest ih =>
      have found := present row (by simp)
      have first : saver.recordItem state (.write key row.1) =
          saver.setSizeLocked state (.write key row.1) (writeSize row.2) := by
        simp [recordItem, SaverDicts.itemSize?, found]
      rw [List.foldl_cons, ← first]
      refine ih (saver.recordItem state (.write key row.1)) (fun later member => ?_)
      rw [(saver.record_item_spec state (.write key row.1)).dicts]
      exact present later (by simp [member])

def wroteKeys (dicts : SaverDicts Version) (key : CheckpointKey) : List (SizeKey Version) :=
  (dicts.writesAt key).entries.map (fun row => SizeKey.write key row.1)

theorem record_write_sizes_eq (state : saver.State) (key : CheckpointKey) :
    saver.recordWriteSizesLocked state key = saver.recordAll state (wroteKeys state.dicts key) :=
  saver.record_write_rows_eq key (state.dicts.writesAt key).entries state
    (fun row member => (Dict.mem_entries _ row.1 row.2).mp member)

-- The state after a `put` that stored: some threads were dropped to make room, then the
-- item was stored, booked and its thread touched.
def storedState (state : saver.State) (gone : List String) (config : RunnableConfig)
    (checkpoint : Checkpoint Value Version) (metadata : Metadata) (versions : ChannelVersions Version)
    (key : CheckpointKey) (stored : StoredCheckpoint)
    (blobs : List (BlobKey Version × SerializedValue)) : saver.State :=
  { saver.dropAll state gone with
    dicts := (saver.dropAll state gone).dicts.storeCheckpoint key stored blobs
    history := (saver.dropAll state gone).history ++ [.stored key.1 config checkpoint metadata versions] }

structure Stores (state after : saver.State) (now later : Time) (config : RunnableConfig)
    (checkpoint : Checkpoint Value Version) (metadata : Metadata) (versions : ChannelVersions Version)
    (gone : List String) (key : CheckpointKey) (estimatedSize : Nat) (stored : StoredCheckpoint)
    (values : Dict String Value) (blobs : List (BlobKey Version × SerializedValue)) : Prop where
  commit : saver.CheckpointCommit config checkpoint metadata versions key estimatedSize stored values blobs
  reserved : saver.Reserved state (saver.dropAll state gone) now key.1 estimatedSize (.ok ()) gone
  booked : after = saver.touchLocked (saver.recordAll
    (saver.storedState state gone config checkpoint metadata versions key stored blobs)
    (storeKeys key versions)) key.1 later

theorem Stores.committed {state after : saver.State} {now later : Time} {config : RunnableConfig}
    {checkpoint : Checkpoint Value Version} {metadata : Metadata} {versions : ChannelVersions Version}
    {gone : List String} {key : CheckpointKey} {estimatedSize : Nat} {stored : StoredCheckpoint}
    {values : Dict String Value} {blobs : List (BlobKey Version × SerializedValue)}
    (stores : saver.Stores state after now later config checkpoint metadata versions gone key estimatedSize stored
      values blobs) :
    after.dicts = (saver.dropAll state gone).dicts.storeCheckpoint key stored blobs ∧
      after.history = (saver.dropAll state gone).history ++ [.stored key.1 config checkpoint metadata versions] := by
  have recorded := saver.record_all_spec (storeKeys key versions)
    (saver.storedState state gone config checkpoint metadata versions key stored blobs)
  rw [stores.booked]
  exact ⟨recorded.dicts, recorded.history⟩

theorem put_reserved (lawful : saver.inherited.Lawful) (state : saver.State) (now later : Time)
    (config : RunnableConfig) (checkpoint : Checkpoint Value Version) (metadata : Metadata)
    (versions : ChannelVersions Version) (gone : List String) (key : CheckpointKey) (estimatedSize : Nat)
    (values : Dict String Value) (checked : saver.prepareCheckpoint config checkpoint metadata versions =
      .ok (key, estimatedSize))
    (reserving : saver.reserveLocked state now key.1 key.2.1 key.2.2 estimatedSize = (saver.dropAll state gone, .ok ()))
    (reserved : saver.Reserved state (saver.dropAll state gone) now key.1 estimatedSize (.ok ()) gone)
    (namespaced : config.entry? "checkpoint_ns" ≠ none) (given : checkpoint.channelValues = some values) :
    ∃ after stored blobs,
      saver.Stores state after now later config checkpoint metadata versions gone key estimatedSize
        stored values blobs ∧
      saver.put state now later config checkpoint metadata versions =
        (after, .ok (checkpointLocation key.1 key.2.1 key.2.2)) := by
  have prepared := saver.prepare_checkpoint_spec config checkpoint metadata versions key estimatedSize checked
  obtain ⟨stored, blobs, commit⟩ := saver.checkpoint_commits config checkpoint metadata versions key
    estimatedSize values prepared namespaced given
  have puts := lawful.put_stores (saver.dropAll state gone).dicts config checkpoint metadata versions
    key.1 key.2.1 key.2.2 values stored.checkpoint stored.metadata blobs prepared.threadId
    commit.checkpointNs prepared.checkpointId given commit.copy commit.metadata commit.built
  rw [← commit.parentId] at puts
  have found : (saver.storedState state gone config checkpoint metadata versions key stored
      blobs).dicts.checkpoint? key = some stored := by
    rw [storedState, SaverDicts.checkpoint_store, if_pos rfl]
  have recorded := saver.record_checkpoint_sizes_eq _ key versions stored found
  rw [storedState] at recorded
  rw [put]
  simp only [checked, reserving, puts, recorded]
  exact ⟨_, stored, blobs, ⟨commit, reserved, rfl⟩, rfl⟩

theorem put_cases (lawful : saver.inherited.Lawful) (state : saver.State) (now later : Time)
    (config : RunnableConfig) (checkpoint : Checkpoint Value Version) (metadata : Metadata)
    (versions : ChannelVersions Version) :
    (∃ gone error, saver.put state now later config checkpoint metadata versions =
      (saver.dropAll state gone, .error error)) ∨
    (∃ after gone key estimatedSize stored values blobs,
      saver.Stores state after now later config checkpoint metadata versions gone key estimatedSize
        stored values blobs ∧
      saver.prepareCheckpoint config checkpoint metadata versions = .ok (key, estimatedSize) ∧
      saver.reserveLocked state now key.1 key.2.1 key.2.2 estimatedSize = (saver.dropAll state gone, .ok ()) ∧
      saver.put state now later config checkpoint metadata versions =
        (after, .ok (checkpointLocation key.1 key.2.1 key.2.2))) := by
  cases checked : saver.prepareCheckpoint config checkpoint metadata versions with
  | error error => exact Or.inl ⟨[], error, by rw [put, checked]; rfl⟩
  | ok result =>
      obtain ⟨key, estimatedSize⟩ := result
      obtain ⟨gone, reserved⟩ := saver.reserve_spec lawful state now key.1 key.2.1 key.2.2 estimatedSize
      cases reserving : saver.reserveLocked state now key.1 key.2.1 key.2.2 estimatedSize with
      | mk roomy outcome =>
          rw [reserving] at reserved
          obtain rfl : roomy = saver.dropAll state gone := reserved.dropped
          cases outcome with
          | error error => exact Or.inl ⟨gone, error, by rw [put, checked]; simp only [reserving]⟩
          | ok done =>
              by_cases required : config.entry? "checkpoint_ns" = none ∨ checkpoint.channelValues = none
              · obtain ⟨error, refused⟩ := lawful.put_requires (saver.dropAll state gone).dicts config checkpoint
                  metadata versions required
                exact Or.inl ⟨gone, error, by rw [put, checked]; simp only [reserving, refused]⟩
              · rw [not_or] at required
                obtain ⟨values, given⟩ := Option.ne_none_iff_exists'.mp required.2
                obtain ⟨after, stored, blobs, stores, accepted⟩ := saver.put_reserved lawful state now later config
                  checkpoint metadata versions gone key estimatedSize values checked reserving reserved required.1 given
                exact Or.inr ⟨after, gone, key, estimatedSize, stored, values, blobs, stores, rfl, reserving, accepted⟩

def wroteState (state : saver.State) (gone : List String) (config : RunnableConfig)
    (writes : List (String × Value)) (taskId taskPath : String) (key : CheckpointKey)
    (rows : List (WriteIndex × StoredWrite)) : saver.State :=
  { saver.dropAll state gone with
    dicts := (saver.dropAll state gone).dicts.storeWrites key rows
    history := (saver.dropAll state gone).history ++ [.wrote key.1 config writes taskId taskPath] }

structure Writes (state after : saver.State) (now later : Time) (config : RunnableConfig)
    (writes : List (String × Value)) (taskId taskPath : String) (gone : List String) (key : CheckpointKey)
    (requested : Nat) (rows : List (WriteIndex × StoredWrite)) : Prop where
  commit : saver.WritesCommit config writes taskId taskPath key requested rows
  checkpointNs : config.entry? "checkpoint_ns" = some (.str key.2.1)
  reserved : saver.Reserved state (saver.dropAll state gone) now key.1 requested (.ok ()) gone
  booked : after = saver.touchLocked (saver.recordAll
    (saver.wroteState state gone config writes taskId taskPath key rows)
    (wroteKeys (saver.wroteState state gone config writes taskId taskPath key rows).dicts key)) key.1 later

theorem Writes.committed {state after : saver.State} {now later : Time} {config : RunnableConfig}
    {writes : List (String × Value)} {taskId taskPath : String} {gone : List String} {key : CheckpointKey}
    {requested : Nat} {rows : List (WriteIndex × StoredWrite)}
    (batch : saver.Writes state after now later config writes taskId taskPath gone key requested rows) :
    after.dicts = (saver.dropAll state gone).dicts.storeWrites key rows ∧
      after.history = (saver.dropAll state gone).history ++ [.wrote key.1 config writes taskId taskPath] := by
  have recorded := saver.record_all_spec
    (wroteKeys (saver.wroteState state gone config writes taskId taskPath key rows).dicts key)
    (saver.wroteState state gone config writes taskId taskPath key rows)
  rw [batch.booked]
  exact ⟨recorded.dicts, recorded.history⟩

theorem put_writes_reserved (lawful : saver.inherited.Lawful) (state : saver.State) (now later : Time)
    (config : RunnableConfig) (writes : List (String × Value)) (taskId taskPath : String) (gone : List String)
    (key : CheckpointKey) (requested : Nat)
    (checked : saver.prepareWrites config writes taskId taskPath = .ok (key, requested))
    (reserving : saver.reserveLocked state now key.1 key.2.1 key.2.2 requested = (saver.dropAll state gone, .ok ()))
    (reserved : saver.Reserved state (saver.dropAll state gone) now key.1 requested (.ok ()) gone)
    (namespaced : config.entry? "checkpoint_ns" ≠ none) :
    ∃ after rows, saver.Writes state after now later config writes taskId taskPath gone key requested rows ∧
      saver.putWrites state now later config writes taskId taskPath = (after, .ok ()) := by
  obtain ⟨rows, commit⟩ := saver.prepare_writes_spec config writes taskId taskPath key requested checked
  obtain ⟨given, found⟩ := Option.ne_none_iff_exists'.mp namespaced
  have text := commit.checkpointNs
  rw [found, Option.getD_some] at text
  rw [text] at found
  have puts := lawful.put_writes_stores (saver.dropAll state gone).dicts config writes taskId taskPath
    key.1 key.2.1 key.2.2 rows commit.threadId found commit.checkpointId commit.built
  have recorded := saver.record_write_sizes_eq
    (saver.wroteState state gone config writes taskId taskPath key rows) key
  rw [putWrites]
  simp only [checked, reserving, puts]
  refine ⟨_, rows, ⟨commit, found, reserved, ?_⟩, rfl⟩
  rw [← recorded]
  rfl

theorem put_writes_cases (lawful : saver.inherited.Lawful) (state : saver.State) (now later : Time)
    (config : RunnableConfig) (writes : List (String × Value)) (taskId taskPath : String) :
    (∃ gone error, saver.putWrites state now later config writes taskId taskPath =
      (saver.dropAll state gone, .error error)) ∨
    (∃ after gone key requested rows,
      saver.Writes state after now later config writes taskId taskPath gone key requested rows ∧
      saver.prepareWrites config writes taskId taskPath = .ok (key, requested) ∧
      saver.reserveLocked state now key.1 key.2.1 key.2.2 requested = (saver.dropAll state gone, .ok ()) ∧
      saver.putWrites state now later config writes taskId taskPath = (after, .ok ())) := by
  cases checked : saver.prepareWrites config writes taskId taskPath with
  | error error => exact Or.inl ⟨[], error, by rw [putWrites, checked]; rfl⟩
  | ok result =>
      obtain ⟨key, requested⟩ := result
      obtain ⟨gone, reserved⟩ := saver.reserve_spec lawful state now key.1 key.2.1 key.2.2 requested
      cases reserving : saver.reserveLocked state now key.1 key.2.1 key.2.2 requested with
      | mk roomy outcome =>
          rw [reserving] at reserved
          obtain rfl : roomy = saver.dropAll state gone := reserved.dropped
          cases outcome with
          | error error => exact Or.inl ⟨gone, error, by rw [putWrites, checked]; simp only [reserving]⟩
          | ok done =>
              by_cases namespaced : config.entry? "checkpoint_ns" = none
              · obtain ⟨error, refused⟩ := lawful.put_writes_requires (saver.dropAll state gone).dicts config writes
                  taskId taskPath namespaced
                exact Or.inl ⟨gone, error, by rw [putWrites, checked]; simp only [reserving, refused]⟩
              · obtain ⟨after, rows, batch, accepted⟩ := saver.put_writes_reserved lawful state now later config writes
                  taskId taskPath gone key requested checked reserving reserved namespaced
                exact Or.inr ⟨after, gone, key, requested, rows, batch, rfl, reserving, accepted⟩

end LangGraphServer.BoundedInMemorySaver
