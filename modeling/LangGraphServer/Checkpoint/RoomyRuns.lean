import Mathlib.Data.List.Sort
import LangGraphServer.Checkpoint.Reads

set_option autoImplicit false

namespace LangGraphServer

open Collections

variable {Value Version : Type} [DecidableEq Version]

namespace SaverDicts

-- The same checkpoints and writes in the same order, and a blob read back as the same.
structure SameItems (first second : SaverDicts Version) : Prop where
  checkpoints : ∀ threadId checkpointNs, first.checkpoints threadId checkpointNs =
    second.checkpoints threadId checkpointNs
  writes : ∀ key, first.writesAt key = second.writesAt key
  blobs : ∀ key, first.blob? key = second.blob? key

theorem SameItems.refl (dicts : SaverDicts Version) : SameItems dicts dicts :=
    ⟨fun _ _ => rfl, fun _ => rfl, fun _ => rfl⟩

theorem SameItems.moved {first second firstAfter secondAfter : SaverDicts Version} (same : SameItems first second)
    (left : SameItems first firstAfter) (right : SameItems second secondAfter) : SameItems firstAfter secondAfter :=
  ⟨fun threadId checkpointNs =>
    ((left.checkpoints threadId checkpointNs).symm.trans (same.checkpoints threadId checkpointNs)).trans
      (right.checkpoints threadId checkpointNs),
    fun key => ((left.writes key).symm.trans (same.writes key)).trans (right.writes key),
    fun key => ((left.blobs key).symm.trans (same.blobs key)).trans (right.blobs key)⟩

theorem SameItems.unknown {first second : SaverDicts Version} (same : SameItems first second) (threadId : String)
    (unknown : threadId ∉ first.storage.keys) (checkpointNs : String) :
      second.checkpoints threadId checkpointNs = .empty := by
  rw [← same.checkpoints, SaverDicts.checkpoints, SaverDicts.namespaces, (Dict.get_none _ _).mpr unknown]
  rfl

theorem checkpoints_store (dicts : SaverDicts Version) (key : CheckpointKey) (stored : StoredCheckpoint)
    (blobs : List (BlobKey Version × SerializedValue)) (threadId checkpointNs : String) :
    (dicts.storeCheckpoint key stored blobs).checkpoints threadId checkpointNs =
      if threadId = key.1 ∧ checkpointNs = key.2.1 then (dicts.checkpoints key.1 key.2.1).set key.2.2 stored
      else dicts.checkpoints threadId checkpointNs := by
  simp only [checkpoints, namespaces, storeCheckpoint, Dict.get_set]
  by_cases own : threadId = key.1
  · by_cases namespaced : checkpointNs = key.2.1
    · simp [own, namespaced, Dict.get_set]
    · simp [own, namespaced, Dict.get_set]
  · simp [own]

theorem same_store_checkpoint (first second : SaverDicts Version) (key : CheckpointKey) (stored : StoredCheckpoint)
    (blobs : List (BlobKey Version × SerializedValue)) (same : SameItems first second) :
    SameItems (first.storeCheckpoint key stored blobs) (second.storeCheckpoint key stored blobs) where
  checkpoints threadId checkpointNs := by
    rw [checkpoints_store, checkpoints_store, same.checkpoints, same.checkpoints]
  writes := same.writes
  blobs query := Dict.get_set_all_congr blobs first.blobs second.blobs query (same.blobs query)

omit [DecidableEq Version] in
theorem writes_at_store (dicts : SaverDicts Version) (key query : CheckpointKey) (row : WriteIndex × StoredWrite) :
    (dicts.storeWrite key row).writesAt query =
      if query = key ∧ ¬ dicts.KeepsWrite key row.1 then (dicts.writesAt key).set row.1 row.2
        else dicts.writesAt query := by
  by_cases kept : dicts.KeepsWrite key row.1
  · simp [storeWrite, kept]
  · by_cases own : query = key
    · simp [storeWrite, kept, own, writesAt, Dict.get_set]
    · simp [storeWrite, kept, own, writesAt, Dict.get_set]

theorem same_store_writes (rows : List (WriteIndex × StoredWrite)) (first second : SaverDicts Version)
    (key : CheckpointKey)
    (same : SameItems first second) : SameItems (first.storeWrites key rows) (second.storeWrites key rows) := by
  induction rows generalizing first second with
  | nil => exact same
  | cons row rest ih =>
      refine ih (first.storeWrite key row) (second.storeWrite key row)
        ⟨fun threadId checkpointNs => ?_, fun query => ?_, fun query => ?_⟩
      · have storage (dicts : SaverDicts Version) : (dicts.storeWrite key row).checkpoints threadId checkpointNs =
            dicts.checkpoints threadId checkpointNs := by
          rw [storeWrite]
          split <;> rfl
        rw [storage, storage, same.checkpoints]
      · have kept : first.KeepsWrite key row.1 ↔ second.KeepsWrite key row.1 := by
          rw [KeepsWrite, KeepsWrite, same.writes]
        rw [writes_at_store, writes_at_store, same.writes, same.writes]
        exact if_congr (and_congr_right (fun _ => not_congr kept)) rfl rfl
      · rw [blob_store_write, blob_store_write, same.blobs]

theorem same_drop (first second : SaverDicts Version) (threadId : String) (same : SameItems first second) :
    SameItems (first.dropThread threadId) (second.dropThread threadId) where
  checkpoints query checkpointNs := by
    have kept := same.checkpoints query checkpointNs
    simp only [checkpoints, namespaces, dropThread, Dict.get_pop] at kept ⊢
    by_cases own : query = threadId
    · simp [own]
    · simpa [own] using kept
  writes key := by
    have kept := same.writes key
    simp only [writesAt, dropThread, Dict.get_restrict] at kept ⊢
    by_cases own : key.1 = threadId
    · simp [own]
    · simpa [own] using kept
  blobs key := by
    have kept := same.blobs key
    simp only [blob?, dropThread, Dict.get_restrict] at kept ⊢
    by_cases own : key.1 = threadId
    · simp [own]
    · simpa [own] using kept

end SaverDicts

-- How the inherited reads answer: by the items of what they are asked for, which they keep.
structure InheritedSaver.ReadsItems (saver : InheritedSaver Value Version) : Prop where
  get_tuple_keeps : ∀ (dicts : SaverDicts Version) (config : RunnableConfig) threadId,
    config.entry? "thread_id" = some (.str threadId) → dicts.SameItems (saver.getTuple dicts config).1
  get_tuple_same : ∀ (first second : SaverDicts Version) (config : RunnableConfig) threadId,
    config.entry? "thread_id" = some (.str threadId) → first.SameItems second →
    (saver.getTuple first config).2 = (saver.getTuple second config).2
  get_tuple_none : ∀ (dicts : SaverDicts Version) (config : RunnableConfig) threadId,
    config.entry? "thread_id" = some (.str threadId) →
      (∀ checkpointNs, dicts.checkpoints threadId checkpointNs = .empty) →
    (saver.getTuple dicts config).2 = .ok none
  list_keeps : ∀ (dicts : SaverDicts Version) (config : RunnableConfig) filter before limit threadId checkpointNs,
    config.entry? "thread_id" = some (.str threadId) → config.entry? "checkpoint_ns" = some (.str checkpointNs) →
    dicts.SameItems (saver.list dicts (some config) filter before limit).1
  list_same : ∀ (first second : SaverDicts Version) (config : RunnableConfig) filter before limit threadId checkpointNs,
    config.entry? "thread_id" = some (.str threadId) → config.entry? "checkpoint_ns" = some (.str checkpointNs) →
    first.SameItems second →
    (saver.list first (some config) filter before limit).2 = (saver.list second (some config) filter before limit).2
  list_none : ∀ (dicts : SaverDicts Version) (config : RunnableConfig) filter before limit threadId checkpointNs,
    config.entry? "thread_id" = some (.str threadId) → config.entry? "checkpoint_ns" = some (.str checkpointNs) →
    dicts.checkpoints threadId checkpointNs = .empty → (saver.list dicts (some config) filter before limit).2 = .ok []
  delta_history_keeps : ∀ (dicts : SaverDicts Version) (config : RunnableConfig) channels threadId,
    config.entry? "thread_id" = some (.str threadId) →
      dicts.SameItems (saver.getDeltaChannelHistory dicts config channels).1
  delta_history_same : ∀ (first second : SaverDicts Version) (config : RunnableConfig) channels threadId,
    config.entry? "thread_id" = some (.str threadId) → first.SameItems second →
    (saver.getDeltaChannelHistory first config channels).2 = (saver.getDeltaChannelHistory second config channels).2

-- What the inherited saver alone makes of a call. It stores nothing under a thread id that
-- is no text, and its dictionaries are all there is to clear.
def InheritedSaver.perform (saver : InheritedSaver Value Version) (dicts : SaverDicts Version)
    (timed : TimedCall Value Version) :
    SaverDicts Version × Except PyError (SaverReply Value Version) :=
  match timed.call with
  | .put config checkpoint metadata versions =>
      let answer := saver.put dicts config checkpoint metadata versions
      (answer.1, answer.2.map .config)
  | .putWrites config writes taskId taskPath =>
      let answer := saver.putWrites dicts config writes taskId taskPath
      (answer.1, answer.2.map (fun _ => .done))
  | .getTuple config =>
      let answer := saver.getTuple dicts config
      (answer.1, answer.2.map .tuple)
  | .list config filter before limit =>
      let answer := saver.list dicts config filter before limit
      (answer.1, answer.2.map .tuples)
  | .getDeltaChannelHistory config channels =>
      let answer := saver.getDeltaChannelHistory dicts config channels
      (answer.1, answer.2.map .history)
  | .deleteThread (.str threadId) => (saver.deleteThread dicts threadId, .ok .done)
  | .deleteThread _ => (dicts, .ok .done)
  | .clear => (.empty, .ok .done)
  | .purgeExpired => (dicts, .ok .done)
  | .stats => (dicts, .ok .done)

def SaverCall.IsOwn : SaverCall Value Version → Prop
  | .purgeExpired => True
  | .clear => True
  | .stats => True
  | _ => False

-- Two savers answer a call of the interface alike: with the same result, or both by raising.
def SameAnswer (timed : TimedCall Value Version) (first second : Except PyError (SaverReply Value Version)) : Prop :=
  timed.call.IsOwn ∨ first = second ∨ (∃ error, first = .error error) ∧ ∃ error, second = .error error

namespace BoundedInMemorySaver

variable (saver : BoundedInMemorySaver Value Version)

structure HasRoom (state : saver.State) (key : CheckpointKey) (requiredBytes : Nat) : Prop where
  limits : saver.checkLimitsLocked state key.1 key.2.1 key.2.2 = .ok ()
  threads : key.1 ∈ state.lastAccess.keys ∨ state.lastAccess.size < saver.config.maxThreads
  bytes : state.serializedBytes + requiredBytes ≤ saver.config.maxTotalBytes

-- A call whose arguments pass the checks, and which finds room if it writes.
inductive Fits (state : saver.State) : SaverCall Value Version → Prop where
  | put (config : RunnableConfig) (checkpoint : Checkpoint Value Version) (metadata : Metadata)
    (versions : ChannelVersions Version) (key : CheckpointKey) (estimatedSize : Nat)
      (prepared : saver.prepareCheckpoint config checkpoint metadata versions = .ok (key, estimatedSize))
      (room : saver.HasRoom state key estimatedSize) : Fits state (.put config checkpoint metadata versions)
  | putWrites (config : RunnableConfig) (writes : List (String × Value)) (taskId taskPath : String)
    (key : CheckpointKey)
      (requested : Nat) (prepared : saver.prepareWrites config writes taskId taskPath = .ok (key, requested))
      (room : saver.HasRoom state key requested) : Fits state (.putWrites config writes taskId taskPath)
  | getTuple (config : RunnableConfig) (location : String × String)
    (located : saver.validatedLocation config = .ok location) :
      Fits state (.getTuple config)
  | list (config : RunnableConfig) (filter : Option Metadata) (before : Option RunnableConfig) (limit : Option Int)
      (location : String × String) (located : saver.validatedLocation config = .ok location)
      (named : config.entry? "checkpoint_ns" = some (.str location.2))
      (bounded : ∀ given, before = some given → ∃ place, saver.validatedLocation given = .ok place) :
      Fits state (.list (some config) filter before limit)
  | getDeltaChannelHistory (config : RunnableConfig) (channels : List String) (location : String × String)
      (located : saver.validatedLocation config = .ok location) : Fits state (.getDeltaChannelHistory config channels)
  | deleteThread (threadId : PyObj) (text : String)
      (valid : saver.validatedIdentifier threadId "thread_id" saver.config.maxThreadIdLength false = .ok text) :
      Fits state (.deleteThread threadId)
  | own (call : SaverCall Value Version) (added : call.IsOwn) : Fits state call

structure Roomy (state : saver.State) (timed : TimedCall Value Version) : Prop where
  lasting : saver.expiredThreads state timed.now = []
  fits : saver.Fits state timed.call

theorem purge_nothing (state : saver.State) (now : Time) (lasting : saver.expiredThreads state now = []) :
    saver.purgeExpiredLocked state now = (state, 0) := by
  simp [purgeExpiredLocked, lasting]

theorem evict_nothing (full : saver.State → Bool) (victim : saver.State → Option String) (rounds : Nat)
    (state : saver.State)
    (roomy : full state = false) : saver.evictWhile full victim rounds state = (state, true) := by
  cases rounds with
  | zero => simp [evictWhile, roomy]
  | succ rounds => simp [evictWhile, roomy]

theorem reserve_roomy (state : saver.State) (now : Time) (key : CheckpointKey) (requiredBytes : Nat)
    (lasting : saver.expiredThreads state now = []) (room : saver.HasRoom state key requiredBytes) :
    saver.reserveLocked state now key.1 key.2.1 key.2.2 requiredBytes = (state, .ok ()) := by
  have threads : saver.makeRoomForThreadLocked state key.1 = state := by
    rw [makeRoomForThreadLocked]
    split
    · rfl
    · rename_i untracked
      have few := room.threads.resolve_left untracked
      rw [saver.evict_nothing _ _ _ state (by simpa using few)]
  have bytes : saver.makeRoomForBytesLocked state requiredBytes key.1 = (state, .ok ()) := by
    rw [makeRoomForBytesLocked, saver.evict_nothing _ _ _ state (by simpa using room.bytes)]
  simp [reserveLocked, saver.purge_nothing state now lasting, threads, room.limits, bytes]

theorem room_reserved (state : saver.State) (now : Time) (key : CheckpointKey) (requiredBytes : Nat)
    (room : saver.HasRoom state key requiredBytes) :
    saver.Reserved state (saver.dropAll state []) now key.1 requiredBytes (.ok ()) [] :=
  ⟨rfl, fun listed => (by cases listed), fun _ => room.threads, fun _ => room.bytes⟩

section Steps

variable (lawful : saver.inherited.Lawful) (reads : saver.inherited.ReadsItems) (state : saver.State)
    (dicts : SaverDicts Version) (same : state.dicts.SameItems dicts)

def Matches (timed : TimedCall Value Version) : Prop :=
  SameAnswer timed (saver.perform state timed).2 (saver.inherited.perform dicts timed).2 ∧
    (saver.perform state timed).1.dicts.SameItems (saver.inherited.perform dicts timed).1

include lawful same

theorem put_matches (now later : Time) (config : RunnableConfig) (checkpoint : Checkpoint Value Version)
    (metadata : Metadata) (versions : ChannelVersions Version) (key : CheckpointKey) (estimatedSize : Nat)
    (lasting : saver.expiredThreads state now = [])
    (prepared : saver.prepareCheckpoint config checkpoint metadata versions = .ok (key, estimatedSize))
    (room : saver.HasRoom state key estimatedSize) :
    saver.Matches state dicts ⟨now, later, .put config checkpoint metadata versions⟩ := by
  have reserving := saver.reserve_roomy state now key estimatedSize lasting room
  by_cases required : config.entry? "checkpoint_ns" = none ∨ checkpoint.channelValues = none
  · obtain ⟨error, refused⟩ := lawful.put_requires state.dicts config checkpoint metadata versions required
    obtain ⟨other, alone⟩ := lawful.put_requires dicts config checkpoint metadata versions required
    simp only [Matches, perform, InheritedSaver.perform, put, prepared, reserving, refused, alone]
    exact ⟨Or.inr (Or.inr ⟨⟨error, rfl⟩, other, rfl⟩), same⟩
  · rw [not_or] at required
    obtain ⟨values, given⟩ := Option.ne_none_iff_exists'.mp required.2
    obtain ⟨after, stored, blobs, stores, accepted⟩ := saver.put_reserved lawful state now later config
      checkpoint metadata
      versions [] key estimatedSize values prepared reserving (saver.room_reserved state now key estimatedSize room)
        required.1 given
    have commit := stores.commit
    have alone := lawful.put_stores dicts config checkpoint metadata versions key.1 key.2.1 key.2.2 values
      stored.checkpoint
      stored.metadata blobs commit.prepared.threadId commit.checkpointNs commit.prepared.checkpointId
        commit.given commit.copy
      commit.metadata commit.built
    rw [← commit.parentId] at alone
    simp only [Matches, perform, InheritedSaver.perform, accepted, alone, stores.committed.1]
    exact ⟨Or.inr (Or.inl rfl), SaverDicts.same_store_checkpoint state.dicts dicts key stored blobs same⟩

theorem put_writes_matches (now later : Time) (config : RunnableConfig) (writes : List (String × Value))
    (taskId taskPath : String) (key : CheckpointKey) (requested : Nat) (lasting : saver.expiredThreads state now = [])
    (prepared : saver.prepareWrites config writes taskId taskPath = .ok (key, requested))
    (room : saver.HasRoom state key requested) :
    saver.Matches state dicts ⟨now, later, .putWrites config writes taskId taskPath⟩ := by
  have reserving := saver.reserve_roomy state now key requested lasting room
  by_cases namespaced : config.entry? "checkpoint_ns" = none
  · obtain ⟨error, refused⟩ := lawful.put_writes_requires state.dicts config writes taskId taskPath namespaced
    obtain ⟨other, alone⟩ := lawful.put_writes_requires dicts config writes taskId taskPath namespaced
    simp only [Matches, perform, InheritedSaver.perform, putWrites, prepared, reserving, refused, alone]
    exact ⟨Or.inr (Or.inr ⟨⟨error, rfl⟩, other, rfl⟩), same⟩
  · obtain ⟨after, rows, batch, accepted⟩ := saver.put_writes_reserved lawful state now later config writes
      taskId taskPath [] key
      requested prepared reserving (saver.room_reserved state now key requested room) namespaced
    have commit := batch.commit
    have alone := lawful.put_writes_stores dicts config writes taskId taskPath key.1 key.2.1 key.2.2
      rows commit.threadId batch.checkpointNs commit.checkpointId commit.built
    simp only [Matches, perform, InheritedSaver.perform, accepted, alone, batch.committed.1]
    exact ⟨Or.inr (Or.inl rfl), SaverDicts.same_store_writes rows state.dicts dicts key same⟩

omit lawful in
include reads in
theorem get_tuple_matches (now later : Time) (config : RunnableConfig) (location : String × String)
    (lasting : saver.expiredThreads state now = []) (located : saver.validatedLocation config = .ok location) :
    saver.Matches state dicts ⟨now, later, .getTuple config⟩ := by
  obtain ⟨threadId, checkpointNs⟩ := location
  have thread := (saver.validated_location_thread config threadId checkpointNs located).1
  simp only [Matches, perform, InheritedSaver.perform, getTuple, located, saver.purge_nothing state now lasting]
  have right := reads.get_tuple_keeps dicts config threadId thread
  by_cases known : threadId ∈ state.dicts.storage.keys
  · have left := reads.get_tuple_keeps state.dicts config threadId thread
    have answer := reads.get_tuple_same state.dicts dicts config threadId thread same
    rw [if_pos known, ← answer]
    generalize saver.inherited.getTuple state.dicts config = found at left
    obtain ⟨after, reply⟩ := found
    have moved := same.moved left right
    cases reply with
    | error error => exact ⟨Or.inr (Or.inl rfl), moved⟩
    | ok item => cases item <;> exact ⟨Or.inr (Or.inl rfl), moved⟩
  · -- nothing is stored for the thread, so the inherited saver finds nothing either
    rw [if_neg known, reads.get_tuple_none dicts config threadId thread (same.unknown threadId known)]
    exact ⟨Or.inr (Or.inl rfl), same.moved (.refl _) right⟩

omit lawful in
include reads in
theorem list_matches (now later : Time) (config : RunnableConfig) (filter : Option Metadata)
    (before : Option RunnableConfig)
    (limit : Option Int) (location : String × String) (lasting : saver.expiredThreads state now = [])
    (located : saver.validatedLocation config = .ok location)
    (named : config.entry? "checkpoint_ns" = some (.str location.2))
    (bounded : ∀ given, before = some given → ∃ place, saver.validatedLocation given = .ok place) :
    saver.Matches state dicts ⟨now, later, .list (some config) filter before limit⟩ := by
  obtain ⟨threadId, checkpointNs⟩ := location
  have thread := (saver.validated_location_thread config threadId checkpointNs located).1
  have right := reads.list_keeps dicts config filter before limit threadId checkpointNs thread named
  simp only [Matches, perform, InheritedSaver.perform]
  rw [list]
  split
  · rename_i error refused
    cases before with
    | none => simp [located, bind, Except.bind, Except.map] at refused
    | some given =>
        obtain ⟨place, allowed⟩ := bounded given rfl
        simp [located, allowed, bind, Except.bind, Except.map] at refused
  · rename_i asked found
    obtain rfl : asked = some threadId := by
      cases before with
      | none => simpa [located, bind, Except.bind, Except.map, eq_comm] using found
      | some given =>
          obtain ⟨place, allowed⟩ := bounded given rfl
          simpa [located, allowed, bind, Except.bind, Except.map, eq_comm] using found
    simp only [saver.purge_nothing state now lasting, Option.any_some, decide_eq_true_iff]
    by_cases known : threadId ∈ state.dicts.storage.keys
    · have left := reads.list_keeps state.dicts config filter before limit threadId checkpointNs thread named
      have answer := reads.list_same state.dicts dicts config filter before limit threadId checkpointNs
        thread named same
      rw [if_neg (not_not.mpr known), ← answer]
      generalize saver.inherited.list state.dicts (some config) filter before limit = found at left
      obtain ⟨after, reply⟩ := found
      have moved := same.moved left right
      cases reply with
      | error error => exact ⟨Or.inr (Or.inl rfl), moved⟩
      | ok items => cases items <;> exact ⟨Or.inr (Or.inl rfl), moved⟩
    · rw [if_pos known, reads.list_none dicts config filter before limit threadId checkpointNs thread named
        (same.unknown threadId known checkpointNs)]
      exact ⟨Or.inr (Or.inl rfl), same.moved (.refl _) right⟩

omit lawful in
include reads in
theorem delta_history_matches (now later : Time) (config : RunnableConfig) (channels : List String)
    (location : String × String)
    (lasting : saver.expiredThreads state now = []) (located : saver.validatedLocation config = .ok location) :
    saver.Matches state dicts ⟨now, later, .getDeltaChannelHistory config channels⟩ := by
  obtain ⟨threadId, checkpointNs⟩ := location
  have thread := (saver.validated_location_thread config threadId checkpointNs located).1
  have left := reads.delta_history_keeps state.dicts config channels threadId thread
  have right := reads.delta_history_keeps dicts config channels threadId thread
  have answer := reads.delta_history_same state.dicts dicts config channels threadId thread same
  simp only [Matches, perform, InheritedSaver.perform, getDeltaChannelHistory, located,
    saver.purge_nothing state now lasting]
  rw [← answer]
  generalize saver.inherited.getDeltaChannelHistory state.dicts config channels = found at left
  obtain ⟨after, reply⟩ := found
  have moved := same.moved left right
  cases reply with
  | error error => exact ⟨Or.inr (Or.inl rfl), moved⟩
  | ok history =>
      by_cases nothing : history.keys = []
      · simp only [if_pos nothing]
        exact ⟨Or.inr (Or.inl rfl), moved⟩
      · simp only [if_neg nothing]
        exact ⟨Or.inr (Or.inl rfl), moved⟩

theorem delete_thread_matches (now later : Time) (threadId : PyObj) (text : String)
    (valid : saver.validatedIdentifier threadId "thread_id" saver.config.maxThreadIdLength false = .ok text) :
    saver.Matches state dicts ⟨now, later, .deleteThread threadId⟩ := by
  obtain rfl := saver.validated_identifier_text _ _ _ _ _ valid
  have dropped := (saver.delete_thread_drops lawful state text).dicts
  simp only [Matches, perform, InheritedSaver.perform, deleteThread, valid, dropped, lawful.delete_thread_drops]
  exact ⟨Or.inr (Or.inl rfl), SaverDicts.same_drop state.dicts dicts text same⟩

omit lawful in
theorem own_matches (timed : TimedCall Value Version) (lasting : saver.expiredThreads state timed.now = [])
    (added : timed.call.IsOwn) : saver.Matches state dicts timed := by
  refine ⟨Or.inl added, ?_⟩
  have kept := saver.purge_nothing state timed.now lasting
  cases called : timed.call with
  | purgeExpired =>
      simp only [perform, InheritedSaver.perform, called, kept]
      exact same
  | clear =>
      simp only [perform, InheritedSaver.perform, called]
      exact .refl _
  | stats =>
      simp only [perform, InheritedSaver.perform, called, stats, kept]
      exact same
  | _ =>
      rw [called] at added
      cases added

include reads in
theorem perform_matches (timed : TimedCall Value Version) (roomy : saver.Roomy state timed) :
    saver.Matches state dicts timed := by
  obtain ⟨lasting, fits⟩ := roomy
  obtain ⟨now, later, call⟩ := timed
  cases fits with
  | put config checkpoint metadata versions key estimatedSize prepared room =>
      exact saver.put_matches lawful state dicts same now later config checkpoint metadata versions key estimatedSize
        lasting prepared room
  | putWrites config writes taskId taskPath key requested prepared room =>
      exact saver.put_writes_matches lawful state dicts same now later config writes taskId taskPath key requested
        lasting prepared room
  | getTuple config location located =>
      exact saver.get_tuple_matches reads state dicts same now later config location lasting located
  | list config filter before limit location located named bounded =>
      exact saver.list_matches reads state dicts same now later config filter before limit location lasting
        located named bounded
  | getDeltaChannelHistory config channels location located =>
      exact saver.delta_history_matches reads state dicts same now later config channels location lasting located
  | deleteThread threadId text valid =>
      exact saver.delete_thread_matches lawful state dicts same now later threadId text valid
  | own _ added => exact saver.own_matches state dicts same _ lasting added

end Steps

-- As long as nothing expires and every write finds room, the saver is not told from the one
-- it inherits from, and holds what that one would hold.
theorem roomy_runs_answer_as_inherited (lawful : saver.inherited.Lawful) (reads : saver.inherited.ReadsItems)
    (calls : List (TimedCall Value Version)) (roomy : Transition.Meets saver.step saver.Roomy saver.initial calls) :
    Transition.AnsweredAlike saver.perform saver.inherited.perform SameAnswer saver.initial .empty calls ∧
      (Transition.run saver.step saver.initial calls).dicts.SameItems
        (Transition.run (fun dicts timed => (saver.inherited.perform dicts timed).1) .empty calls) :=
  Transition.answered_of_simulation saver.perform saver.inherited.perform SameAnswer saver.Roomy
    (fun state dicts => state.dicts.SameItems dicts)
    (fun state dicts timed same fits => saver.perform_matches lawful reads state dicts same timed fits)
      saver.initial .empty
    (.refl _) calls roomy

end BoundedInMemorySaver

-- The plain saver with the lookups of the defaultdicts, which also lists a namespace, newest
-- first, when it is asked for no more than a number of checkpoints.
namespace PlainSaver

variable (plain : PlainSaver Value Version)

def listed (dicts : SaverDicts Version) (config : RunnableConfig) (limit : Option Int) :
    List (CheckpointTuple Value Version) :=
  match config.entry? "thread_id", config.entry? "checkpoint_ns" with
  | some (.str threadId), some (.str checkpointNs) =>
      let stored := dicts.checkpoints threadId checkpointNs
      let items := (List.insertionSort (fun first second => second ≤ first) stored.keys).filterMap (fun id =>
        (stored.get? id).bind (plain.loadsTuple dicts (threadId, checkpointNs, id)))
      items.take ((limit.map Int.toNat).getD items.length)
  | _, _ => []

def listing : InheritedSaver Value Version :=
  { plain.indexing with
    list := fun dicts config _ _ limit =>
      (dicts, .ok ((config.map (fun given => plain.listed dicts given limit)).getD [])) }

theorem listing_lawful : plain.listing.Lawful :=
  { plain.indexing_lawful with list_reads := fun dicts _ _ _ _ _ => .refl dicts _ }

theorem same_items_indexed (dicts : SaverDicts Version) (config : RunnableConfig) :
    dicts.SameItems (indexed dicts config) := by
  rw [indexed]
  split
  · rename_i threadId checkpointNs _ _
    refine ⟨fun query namespaced => ?_, fun key => ?_, fun key => rfl⟩
    · simp only [SaverDicts.checkpoints, SaverDicts.namespaces, SaverDicts.indexStorage, Dict.get_set]
      by_cases own : query = threadId
      · by_cases spaced : namespaced = checkpointNs
        · simp [own, spaced, Dict.get_set]
        · simp [own, spaced, Dict.get_set]
      · simp [own]
    · simp only [SaverDicts.writesAt]
      split
      · rw [index_writes_get, SaverDicts.writesAt]
      · rfl
  · exact .refl dicts

def LoadsItems : Prop := ∀ (first second : SaverDicts Version) key stored, first.SameItems second →
  plain.loadsTuple first key stored = plain.loadsTuple second key stored

theorem loaded_same (loads : plain.LoadsItems) (first second : SaverDicts Version) (same : first.SameItems second) :
    plain.loadsTuple first = plain.loadsTuple second := by
  funext key stored
  exact loads first second key stored same

theorem found_same (loads : plain.LoadsItems) (first second : SaverDicts Version) (config : RunnableConfig)
    (same : first.SameItems second) : plain.found first config = plain.found second config := by
  have stored (key : CheckpointKey) : first.checkpoint? key = second.checkpoint? key := by
    rw [SaverDicts.checkpoint?, SaverDicts.checkpoint?, same.checkpoints]
  simp only [found, same.checkpoints, stored, plain.loaded_same loads first second same]

theorem listed_same (loads : plain.LoadsItems) (first second : SaverDicts Version) (config : RunnableConfig)
    (limit : Option Int)
    (same : first.SameItems second) : plain.listed first config limit = plain.listed second config limit := by
  simp only [listed, same.checkpoints, plain.loaded_same loads first second same]

theorem listing_reads (loads : plain.LoadsItems) : plain.listing.ReadsItems where
  get_tuple_keeps dicts config _ _ := same_items_indexed dicts config
  get_tuple_same first second config _ _ same := congrArg Except.ok (plain.found_same loads first second config same)
  get_tuple_none dicts config threadId thread nowhere := by
    refine congrArg Except.ok ?_
    have missing (checkpointNs checkpointId : String) :
      dicts.checkpoint? (threadId, checkpointNs, checkpointId) = none := by
      rw [SaverDicts.checkpoint?, nowhere]
      rfl
    rw [found, thread]
    split
    · rename_i given checkpointNs named _
      cases named
      simp only [missing, Option.bind_none, Option.bind_fun_none]
    · rfl
  list_keeps dicts _ _ _ _ _ _ _ _ := .refl dicts
  list_same first second config _ _ limit _ _ _ _ same :=
    congrArg Except.ok (plain.listed_same loads first second config limit same)
  list_none dicts config _ _ limit threadId checkpointNs thread named nowhere := by
    refine congrArg Except.ok ?_
    simp [listed, thread, named, nowhere]
  delta_history_keeps dicts _ _ _ _ := .refl dicts
  delta_history_same _ _ _ _ _ _ _ := rfl

end PlainSaver

theorem small_saver_loads_items : smallSaver.LoadsItems := by
  intro first second key stored same
  simp only [smallSaver, same.blobs, same.writes]

namespace BoundedInMemorySaver

def listingBoundedSaver : BoundedInMemorySaver Bytes Nat :=
  { smallBoundedSaver 0 99 with inherited := smallSaver.listing }

-- A read before anything is stored leaves an empty thread in the inherited saver.
def roomyRun : List (TimedCall Bytes Nat) :=
  [⟨0, 0, readNamespace ""⟩,
    ⟨1, 1, smallPut "t" none "c1" [("x", 1)] [("x", [1, 2])] [("x", 1)]⟩,
    ⟨2, 2, .putWrites (smallLocation "t" (some "c1")) [("x", [7])] "task" ""⟩,
    ⟨3, 3, readNamespace ""⟩,
    ⟨4, 4, .list (some (smallLocation "t" none)) none none (some 1)⟩,
    ⟨5, 5, .deleteThread (.str "t")⟩]

theorem roomy_run_fits : Transition.Meets listingBoundedSaver.step listingBoundedSaver.Roomy
    listingBoundedSaver.initial roomyRun :=
  ⟨⟨by decide +kernel, .getTuple _ ("t", "") rfl⟩,
    ⟨by decide +kernel, .put _ _ _ _ ("t", "", "c1") 23 (by decide +kernel)
      ⟨by decide +kernel, by decide +kernel, by decide +kernel⟩⟩,
    ⟨by decide +kernel, .putWrites _ _ _ _ ("t", "", "c1") 11 (by decide +kernel)
      ⟨by decide +kernel, by decide +kernel, by decide +kernel⟩⟩,
    ⟨by decide +kernel, .getTuple _ ("t", "") rfl⟩,
    ⟨by decide +kernel, .list _ _ _ _ ("t", "") rfl rfl (fun _ missing => by cases missing)⟩,
    ⟨by decide +kernel, .deleteThread _ "t" rfl⟩, trivial⟩

theorem roomy_runs_answer_as_inherited_small_run :
    Transition.AnsweredAlike listingBoundedSaver.perform listingBoundedSaver.inherited.perform SameAnswer
      listingBoundedSaver.initial .empty roomyRun ∧
      (Transition.run listingBoundedSaver.step listingBoundedSaver.initial roomyRun).dicts.SameItems
        (Transition.run (fun dicts timed => (listingBoundedSaver.inherited.perform dicts timed).1) .empty roomyRun) :=
  listingBoundedSaver.roomy_runs_answer_as_inherited smallSaver.listing_lawful
    (smallSaver.listing_reads small_saver_loads_items) roomyRun roomy_run_fits

end BoundedInMemorySaver

end LangGraphServer
