import LangGraphServer.Checkpoint.Bookings
import LangGraphServer.Checkpoint.Capacity
import LangGraphServer.Checkpoint.Failures
import LangGraphServer.Checkpoint.Reads

set_option autoImplicit false

namespace LangGraphServer

open Collections

namespace SaverDicts

variable {Version : Type}

theorem store_checkpoint_again [DecidableEq Version] (dicts : SaverDicts Version) (key : CheckpointKey)
    (stored : StoredCheckpoint) (blobs : List (BlobKey Version × SerializedValue))
    (unique : (blobs.map Prod.fst).Nodup) :
    (dicts.storeCheckpoint key stored blobs).storeCheckpoint key stored blobs = dicts.storeCheckpoint key
      stored blobs := by
  have named : ((dicts.storeCheckpoint key stored blobs).namespaces key.1) =
      (dicts.namespaces key.1).set key.2.1 ((dicts.checkpoints key.1 key.2.1).set key.2.2 stored) := by
    rw [namespaces, storeCheckpoint, Dict.get_set, if_pos rfl, Option.getD_some]
  have inner : (dicts.storeCheckpoint key stored blobs).checkpoints key.1 key.2.1 =
      (dicts.checkpoints key.1 key.2.1).set key.2.2 stored := by
    rw [checkpoints, named, Dict.get_set, if_pos rfl, Option.getD_some]
  have blobbed : (dicts.blobs.setAll blobs).setAll blobs = dicts.blobs.setAll blobs :=
    Dict.set_all_same blobs _ (fun row member => Dict.get_set_all blobs dicts.blobs row.1 row.2 unique member)
  have checkpointed : ((dicts.checkpoints key.1 key.2.1).set key.2.2 stored).set key.2.2 stored =
      (dicts.checkpoints key.1 key.2.1).set key.2.2 stored := by
    apply Dict.set_same
    rw [Dict.get_set, if_pos rfl]
  rw [storeCheckpoint, inner, named, checkpointed, Dict.set_same _ key.2.1 _ (by rw [Dict.get_set, if_pos rfl])]
  simp only [storeCheckpoint]
  rw [blobbed, Dict.set_same _ key.1 _ (by rw [Dict.get_set, if_pos rfl])]

-- What a batch changes when it has entries at all its indices.
structure SamePlaces (dicts after : SaverDicts Version) (key : CheckpointKey) : Prop where
  storage : after.storage = dicts.storage
  blobs : after.blobs = dicts.blobs
  keys : after.writes.keys = dicts.writes.keys
  indices : (after.writesAt key).keys = (dicts.writesAt key).keys
  elsewhere : ∀ query, query ≠ key → after.writes.get? query = dicts.writes.get? query

theorem store_write_places (dicts : SaverDicts Version) (key : CheckpointKey) (row : WriteIndex × StoredWrite)
    (present : row.1 ∈ (dicts.writesAt key).keys) : SamePlaces dicts (dicts.storeWrite key row) key := by
  rw [storeWrite]
  by_cases kept : dicts.KeepsWrite key row.1
  · rw [if_pos kept]
    exact ⟨rfl, rfl, rfl, rfl, fun _ _ => rfl⟩
  · rw [if_neg kept]
    have known : key ∈ dicts.writes.keys := by
      rw [Dict.mem_keys]
      cases indexed : dicts.writes.get? key with
      | none => simp [writesAt, indexed] at present
      | some inner => exact ⟨inner, rfl⟩
    refine ⟨rfl, rfl, ?_, ?_, fun query different => ?_⟩
    · rw [Dict.keys_set, if_pos known]
    · rw [writesAt, Dict.get_set, if_pos rfl, Option.getD_some, Dict.keys_set, if_pos present]
    · rw [Dict.get_set, if_neg different]

theorem store_writes_places (rows : List (WriteIndex × StoredWrite)) (dicts : SaverDicts Version) (key : CheckpointKey)
    (present : ∀ row ∈ rows, row.1 ∈ (dicts.writesAt key).keys) :
    SamePlaces dicts (dicts.storeWrites key rows) key := by
  induction rows generalizing dicts with
  | nil => exact ⟨rfl, rfl, rfl, rfl, fun _ _ => rfl⟩
  | cons row rest ih =>
      have head := store_write_places dicts key row (present row List.mem_cons_self)
      have tail := ih (dicts.storeWrite key row) (fun later member => by
        rw [head.indices]
        exact present later (List.mem_cons_of_mem row member))
      exact ⟨tail.storage.trans head.storage, tail.blobs.trans head.blobs, tail.keys.trans head.keys,
        tail.indices.trans head.indices, fun query different => (tail.elsewhere query different).trans
          (head.elsewhere query different)⟩

-- The last write of a special index decides, whatever was there.
theorem write_store_writes_special (rows : List (WriteIndex × StoredWrite)) (first second : SaverDicts Version)
    (key : CheckpointKey) (index : WriteIndex) (special : ¬ 0 ≤ index.2) (given : index ∈ rows.map Prod.fst) :
    (first.storeWrites key rows).write? key index = (second.storeWrites key rows).write? key index := by
  induction rows generalizing first second with
  | nil => cases given
  | cons row rest ih =>
      by_cases later : index ∈ rest.map Prod.fst
      · exact ih (first.storeWrite key row) (second.storeWrite key row) later
      · rw [List.map_cons, List.mem_cons] at given
        have here := given.resolve_right later
        have written : ∀ dicts : SaverDicts Version, (dicts.storeWrites key (row :: rest)).write? key index =
          some row.2 := by
          intro dicts
          refine (write_store_writes_absent rest (dicts.storeWrite key row) key index later).trans ?_
          rw [write_store_write, if_pos ⟨rfl, here, fun kept => special (here ▸ kept.1)⟩]
        rw [written, written]

theorem store_writes_indices (rows : List (WriteIndex × StoredWrite)) (dicts : SaverDicts Version)
    (key : CheckpointKey) :
    ∀ row ∈ rows, row.1 ∈ ((dicts.storeWrites key rows).writesAt key).keys := by
  induction rows generalizing dicts with
  | nil => exact fun row member => (by cases member)
  | cons row rest ih =>
      intro later member
      rcases List.mem_cons.mp member with rfl | member
      · rw [Dict.mem_keys]
        by_contra absent
        have missing : (dicts.storeWrites key (later :: rest)).write? key later.1 = none := by
          cases found : (dicts.storeWrites key (later :: rest)).write? key later.1 with
          | none => rfl
          | some stored => exact absurd ⟨stored, found⟩ absent
        have before := write_store_writes_grows rest (dicts.storeWrite key later) key key later.1 missing
        rw [write_store_write] at before
        by_cases kept : dicts.KeepsWrite key later.1
        · rw [if_neg (fun fresh => fresh.2.2 kept)] at before
          obtain ⟨stored, found⟩ := (Dict.mem_keys _ _).mp kept.2
          rw [write?, found] at before
          cases before
        · rw [if_pos ⟨rfl, rfl, kept⟩] at before
          cases before
      · exact ih (dicts.storeWrite key row) later member

theorem store_writes_again (rows : List (WriteIndex × StoredWrite)) (dicts : SaverDicts Version) (key : CheckpointKey) :
    (dicts.storeWrites key rows).storeWrites key rows = dicts.storeWrites key rows := by
  have present := store_writes_indices rows dicts key
  generalize reached : dicts.storeWrites key rows = stored at present ⊢
  have places := store_writes_places rows stored key present
  have written : ∀ index, (stored.storeWrites key rows).write? key index = stored.write? key index := by
    intro index
    by_cases given : index ∈ rows.map Prod.fst
    · by_cases regular : 0 ≤ index.2
      · obtain ⟨row, member, rfl⟩ := List.mem_map.mp given
        exact write_store_writes_kept rows stored key row.1 ⟨regular, present row member⟩
      · rw [← reached]
        exact write_store_writes_special rows _ dicts key index regular given
    · exact write_store_writes_absent rows stored key index given
  have inner : (stored.storeWrites key rows).writesAt key = stored.writesAt key :=
    Dict.ext_get _ _ places.indices written
  have outer : (stored.storeWrites key rows).writes = stored.writes := by
    refine Dict.ext_get _ _ places.keys (fun query => ?_)
    by_cases same : query = key
    · subst same
      have known := congrArg (fun keys => query ∈ keys) places.keys
      simp only [Dict.mem_keys, eq_iff_iff] at known
      rw [writesAt, writesAt] at inner
      cases before : stored.writes.get? query with
      | none =>
          cases afterwards : (stored.storeWrites query rows).writes.get? query with
          | none => rfl
          | some value =>
              obtain ⟨found, indexed⟩ := known.mp ⟨value, afterwards⟩
              rw [before] at indexed
              cases indexed
      | some value =>
          obtain ⟨found, indexed⟩ := known.mpr ⟨value, before⟩
          rw [indexed, before, Option.getD_some, Option.getD_some] at inner
          rw [indexed, inner]
    · exact places.elsewhere query same
  have storage := places.storage
  have blobs := places.blobs
  cases result : stored.storeWrites key rows with
  | mk newStorage newWrites newBlobs =>
      rw [result] at outer storage blobs
      subst outer storage blobs
      rfl

end SaverDicts

namespace BoundedInMemorySaver

variable {Value Version : Type} [DecidableEq Version] (saver : BoundedInMemorySaver Value Version)

theorem record_item_settled (state : saver.State) (key : SizeKey Version)
    (settled : ∀ size, state.dicts.itemSize? key = some size → state.sizes.get? key = some size) :
    saver.recordItem state key = state := by
  rw [recordItem]
  cases sized : state.dicts.itemSize? key with
  | none => rfl
  | some size =>
      have booked := settled size sized
      simp only [setSizeLocked, booked, Option.getD_some, Dict.set_same _ _ _ booked, Int.sub_self, Int.add_zero]

theorem record_all_settled (keys : List (SizeKey Version)) (state : saver.State)
    (settled : ∀ key ∈ keys, ∀ size, state.dicts.itemSize? key = some size → state.sizes.get? key = some size) :
    saver.recordAll state keys = state := by
  induction keys with
  | nil => rfl
  | cons first rest ih =>
      rw [recordAll, List.foldl_cons, saver.record_item_settled state first (settled first List.mem_cons_self)]
      exact ih (fun key member => settled key (List.mem_cons_of_mem first member))

omit [DecidableEq Version] in
theorem check_limits_passed_iff (state : saver.State) (threadId checkpointNs checkpointId : String) :
    saver.checkLimitsLocked state threadId checkpointNs checkpointId = .ok () ↔
      (checkpointNs ∈ saver.knownNamespacesLocked state threadId ∨
        (saver.knownNamespacesLocked state threadId).length < saver.config.maxNamespacesPerThread) ∧
      ((checkpointNs, checkpointId) ∈ saver.knownCheckpointsLocked state threadId ∨
        (saver.knownCheckpointsLocked state threadId).length < saver.config.maxCheckpointsPerThread) := by
  rw [checkLimitsLocked]
  by_cases manyNamespaces : checkpointNs ∉ saver.knownNamespacesLocked state threadId ∧
      saver.config.maxNamespacesPerThread ≤ (saver.knownNamespacesLocked state threadId).length
  · rw [if_pos manyNamespaces]
    refine ⟨fun passed => (by cases passed), fun within => ?_⟩
    rcases within.1 with known | few
    · exact absurd known manyNamespaces.1
    · omega
  · rw [if_neg manyNamespaces]
    by_cases manyCheckpoints : (checkpointNs, checkpointId) ∉ saver.knownCheckpointsLocked state threadId ∧
        saver.config.maxCheckpointsPerThread ≤ (saver.knownCheckpointsLocked state threadId).length
    · rw [if_pos manyCheckpoints]
      refine ⟨fun passed => (by cases passed), fun within => ?_⟩
      rcases within.2 with known | few
      · exact absurd known manyCheckpoints.1
      · omega
    · rw [if_neg manyCheckpoints]
      rw [not_and_or, not_not, Nat.not_le] at manyNamespaces manyCheckpoints
      exact ⟨fun _ => ⟨manyNamespaces, manyCheckpoints⟩, fun _ => rfl⟩

theorem reserve_limits_passed (lawful : saver.inherited.Lawful) (state reached : saver.State) (now : Time)
    (threadId checkpointNs checkpointId : String) (requiredBytes : Nat)
    (accepted : saver.reserveLocked state now threadId checkpointNs checkpointId requiredBytes = (reached, .ok ())) :
    saver.checkLimitsLocked reached threadId checkpointNs checkpointId = .ok () := by
  simp only [reserveLocked] at accepted
  generalize saver.makeRoomForThreadLocked (saver.purgeExpiredLocked state now).1 threadId = roomy at accepted
  cases checked : saver.checkLimitsLocked roomy threadId checkpointNs checkpointId with
  | error error =>
      rw [checked] at accepted
      cases accepted
  | ok passed =>
      rw [checked] at accepted
      simp only at accepted
      obtain ⟨gone, evicted, front, _⟩ := saver.byte_victims lawful roomy requiredBytes threadId
      rw [accepted] at evicted
      have evicted : reached = saver.dropAll roomy gone := evicted
      have spared : threadId ∉ gone := fun listed => of_decide_eq_true (List.mem_filter.mp (front.subset listed)).2 rfl
      obtain ⟨namespaces, checkpoints⟩ := saver.known_drop_others lawful gone roomy threadId spared
      rw [check_limits_passed_iff] at checked ⊢
      rw [evicted, namespaces, checkpoints]
      exact checked

theorem evict_while_idle (full : saver.State → Bool) (victim : saver.State → Option String) (rounds : Nat)
    (state : saver.State) (roomy : full state = false) : saver.evictWhile full victim rounds state = (state, true) := by
  cases rounds with
  | zero => rw [evictWhile, roomy, Bool.not_false]
  | succ rounds => rw [evictWhile, roomy, if_neg Bool.false_ne_true]

theorem reserve_idle (state : saver.State) (now : Time) (threadId checkpointNs checkpointId : String)
    (requiredBytes : Nat)
    (unexpired : saver.expiredThreads state now = []) (tracked : threadId ∈ state.lastAccess.keys)
    (passed : saver.checkLimitsLocked state threadId checkpointNs checkpointId = .ok ())
    (fits : state.serializedBytes + requiredBytes ≤ saver.config.maxTotalBytes) :
    saver.reserveLocked state now threadId checkpointNs checkpointId requiredBytes = (state, .ok ()) := by
  have purged : (saver.purgeExpiredLocked state now).1 = state := by
    rw [purgeExpiredLocked, unexpired]
    rfl
  have placed : saver.makeRoomForThreadLocked state threadId = state := by
    rw [makeRoomForThreadLocked, if_pos tracked]
  simp only [reserveLocked, purged, placed, passed, makeRoomForBytesLocked]
  rw [saver.evict_while_idle _ _ _ state (decide_eq_false (Int.not_lt.mpr fits))]

theorem reserve_found_room (lawful : saver.inherited.Lawful) (state reached : saver.State) (now : Time)
    (threadId checkpointNs checkpointId : String) (requiredBytes : Nat)
    (unexpired : saver.expiredThreads state now = [])
    (accepted : saver.reserveLocked state now threadId checkpointNs checkpointId requiredBytes = (reached, .ok ()))
    (kept : ∀ other ∈ state.lastAccess.keys, other ≠ threadId → other ∈ reached.lastAccess.keys) :
    state.serializedBytes + requiredBytes ≤ saver.config.maxTotalBytes := by
  have purged : (saver.purgeExpiredLocked state now).1 = state := by
    rw [purgeExpiredLocked, unexpired]
    rfl
  obtain ⟨gone, reserved⟩ := saver.reserve_spec lawful state now threadId checkpointNs checkpointId requiredBytes
  obtain ⟨victims, dropped, front, _⟩ := saver.reserve_victims lawful state now threadId checkpointNs
    checkpointId requiredBytes
  rw [accepted] at reserved dropped
  rw [purged] at dropped front
  have dropped : reached = saver.dropAll state victims := dropped
  have nobody : victims = [] := by
    refine List.eq_nil_iff_forall_not_mem.mpr (fun victim listed => ?_)
    have other := List.mem_filter.mp (front.subset listed)
    have still := kept victim other.1 (of_decide_eq_true other.2)
    rw [dropped, saver.drop_all_tracked lawful] at still
    exact still.2 listed
  rw [nobody] at dropped
  have same : reached = state := dropped
  have bytes := reserved.bytes rfl
  rw [same] at bytes
  exact bytes

theorem booked_tracked (state : saver.State) (keys : List (SizeKey Version)) (threadId : String) (later : Time)
    (other : String) (different : other ≠ threadId)
    (tracked : other ∈ (saver.touchLocked (saver.recordAll state keys) threadId later).lastAccess.keys) :
    other ∈ state.lastAccess.keys := by
  rw [touchLocked, Dict.mem_keys_set, Dict.mem_keys_pop, (saver.record_all_spec keys state).lastAccess] at tracked
  exact (tracked.resolve_left different).1

structure Repeats (before after : saver.State) (threadId : String) (later : Time) : Prop where
  dicts : after.dicts = before.dicts
  sizes : after.sizes = before.sizes
  bytes : after.serializedBytes = before.serializedBytes
  lastAccess : after.lastAccess = (before.lastAccess.pop threadId).set threadId later

theorem put_repeats (lawful : saver.inherited.Lawful) (state before : saver.State) (now later again latest : Time)
    (config : RunnableConfig) (checkpoint : Checkpoint Value Version) (metadata : Metadata)
    (versions : ChannelVersions Version) (gone : List String) (key : CheckpointKey) (estimatedSize : Nat)
    (stored : StoredCheckpoint) (values : Dict String Value) (blobs : List (BlobKey Version × SerializedValue))
    (stores : saver.Stores state before now later config checkpoint metadata versions gone key estimatedSize stored
      values blobs)
    (prepared : saver.prepareCheckpoint config checkpoint metadata versions = .ok (key, estimatedSize))
    (unexpired : saver.expiredThreads before again = [])
    (fits : before.serializedBytes + estimatedSize ≤ saver.config.maxTotalBytes) :
    ∃ after, saver.put before again latest config checkpoint metadata versions =
        (after, .ok (checkpointLocation key.1 key.2.1 key.2.2)) ∧ saver.Repeats before after key.1 latest := by
  have recorded := saver.record_all_spec (storeKeys key versions)
    (saver.storedState state gone config checkpoint metadata versions key stored blobs)
  have dicts : before.dicts = (saver.dropAll state gone).dicts.storeCheckpoint key stored blobs := stores.committed.1
  have sizes : before.sizes =
    (saver.recordAll (saver.storedState state gone config checkpoint metadata versions key stored
      blobs) (storeKeys key versions)).sizes := by
    rw [stores.booked]
    rfl
  have tracked : key.1 ∈ before.lastAccess.keys := by
    rw [stores.booked]
    exact (Dict.mem_keys_set _ _ _ _).mpr (Or.inl rfl)
  have passed : saver.checkLimitsLocked before key.1 key.2.1 key.2.2 = .ok () := by
    rw [check_limits_passed_iff, mem_known_namespaces, mem_known_checkpoints, dicts, SaverDicts.knows_namespace_store,
      SaverDicts.knows_checkpoint_store]
    exact ⟨Or.inl (Or.inl ⟨rfl, rfl⟩), Or.inl (Or.inl rfl)⟩
  have reserving := saver.reserve_idle before again key.1 key.2.1 key.2.2 estimatedSize unexpired tracked passed fits
  have namespaced : config.entry? "checkpoint_ns" ≠ none := by
    rw [stores.commit.checkpointNs]
    exact Option.some_ne_none _
  obtain ⟨after, same, sameBlobs, repeated, accepted⟩ := saver.put_reserved lawful before again latest config checkpoint
    metadata versions [] key estimatedSize values prepared reserving
    ⟨rfl, fun listed => (by cases listed), fun _ => Or.inl tracked, fun _ => fits⟩ namespaced stores.commit.given
  have one : same = stored := by
    have copies := repeated.commit.copy.symm.trans stores.commit.copy
    have described := repeated.commit.metadata.symm.trans stores.commit.metadata
    have parents := repeated.commit.parentId.trans stores.commit.parentId.symm
    rw [Except.ok.injEq] at copies described
    cases same
    cases stored
    simp only at copies described parents
    rw [copies, described, parents]
  have blobbed := repeated.commit.built.symm.trans stores.commit.built
  rw [Except.ok.injEq] at blobbed
  subst one blobbed
  have settled : (saver.storedState before [] config checkpoint metadata versions key same sameBlobs).dicts =
    before.dicts := by
    show before.dicts.storeCheckpoint key same sameBlobs = before.dicts
    rw [dicts, SaverDicts.store_checkpoint_again _ key same sameBlobs stores.commit.blobs_unique]
  have idle : saver.recordAll (saver.storedState before [] config checkpoint metadata versions key same sameBlobs)
      (storeKeys key versions) =
        saver.storedState before [] config checkpoint metadata versions key same sameBlobs := by
    refine saver.record_all_settled _ _ (fun item listed size sized => ?_)
    show before.sizes.get? item = some size
    rw [settled, dicts] at sized
    rw [sizes, recorded.sizes, if_pos listed]
    show ((((saver.dropAll state gone).dicts.storeCheckpoint key same sameBlobs).itemSize? item).or _) = some size
    rw [sized]
    rfl
  refine ⟨after, accepted, ?_⟩
  rw [repeated.booked, idle]
  exact ⟨settled, rfl, rfl, rfl⟩

theorem put_writes_repeats (lawful : saver.inherited.Lawful) (state before : saver.State)
    (now later again latest : Time)
    (config : RunnableConfig) (writes : List (String × Value)) (taskId taskPath : String) (gone : List String)
    (key : CheckpointKey) (requested : Nat) (rows : List (WriteIndex × StoredWrite))
    (batch : saver.Writes state before now later config writes taskId taskPath gone key requested rows)
    (prepared : saver.prepareWrites config writes taskId taskPath = .ok (key, requested))
    (reserved : saver.reserveLocked state now key.1 key.2.1 key.2.2 requested = (saver.dropAll state gone, .ok ()))
    (unexpired : saver.expiredThreads before again = [])
    (fits : before.serializedBytes + requested ≤ saver.config.maxTotalBytes) :
    ∃ after, saver.putWrites before again latest config writes taskId taskPath = (after, .ok ()) ∧
      saver.Repeats before after key.1 latest := by
  have recorded := saver.record_all_spec
    (wroteKeys (saver.wroteState state gone config writes taskId taskPath key rows).dicts key)
    (saver.wroteState state gone config writes taskId taskPath key rows)
  have dicts : before.dicts = (saver.dropAll state gone).dicts.storeWrites key rows := batch.committed.1
  have sizes : before.sizes = (saver.recordAll (saver.wroteState state gone config writes taskId taskPath key rows)
      (wroteKeys (saver.wroteState state gone config writes taskId taskPath key rows).dicts key)).sizes := by
    rw [batch.booked]
    rfl
  have tracked : key.1 ∈ before.lastAccess.keys := by
    rw [batch.booked]
    exact (Dict.mem_keys_set _ _ _ _).mpr (Or.inl rfl)
  have passed : saver.checkLimitsLocked before key.1 key.2.1 key.2.2 = .ok () := by
    cases rows with
    | nil =>
        -- nothing was stored, and the limits are what they were
        have limits := saver.reserve_limits_passed lawful _ _ _ _ _ _ _ reserved
        rw [checkLimitsLocked, knownNamespacesLocked, knownCheckpointsLocked] at limits ⊢
        rw [dicts]
        exact limits
    | cons row rest =>
        rw [check_limits_passed_iff, mem_known_namespaces, mem_known_checkpoints, dicts,
          SaverDicts.knows_namespace_writes, SaverDicts.knows_checkpoint_writes]
        exact ⟨Or.inl (Or.inl ⟨List.cons_ne_nil _ _, rfl, rfl⟩), Or.inl (Or.inl ⟨List.cons_ne_nil _ _, rfl⟩)⟩
  have reserving := saver.reserve_idle before again key.1 key.2.1 key.2.2 requested unexpired tracked passed fits
  have namespaced : config.entry? "checkpoint_ns" ≠ none := by
    rw [batch.checkpointNs]
    exact Option.some_ne_none _
  obtain ⟨after, same, repeated, accepted⟩ := saver.put_writes_reserved lawful before again latest config writes taskId
    taskPath [] key requested prepared reserving
    ⟨rfl, fun listed => (by cases listed), fun _ => Or.inl tracked, fun _ => fits⟩ namespaced
  have one := repeated.commit.built.symm.trans batch.commit.built
  rw [Except.ok.injEq] at one
  subst one
  have settled : (saver.wroteState before [] config writes taskId taskPath key same).dicts = before.dicts := by
    show before.dicts.storeWrites key same = before.dicts
    rw [dicts, SaverDicts.store_writes_again]
  have idle : saver.recordAll (saver.wroteState before [] config writes taskId taskPath key same)
      (wroteKeys (saver.wroteState before [] config writes taskId taskPath key same).dicts key) =
        saver.wroteState before [] config writes taskId taskPath key same := by
    refine saver.record_all_settled _ _ (fun item listed size sized => ?_)
    show before.sizes.get? item = some size
    rw [settled, dicts] at sized listed
    rw [sizes, recorded.sizes]
    show (if item ∈ wroteKeys ((saver.dropAll state gone).dicts.storeWrites key same) key then _ else _) = some size
    rw [if_pos listed]
    show ((((saver.dropAll state gone).dicts.storeWrites key same).itemSize? item).or _) = some size
    rw [sized]
    rfl
  refine ⟨after, accepted, ?_⟩
  rw [repeated.booked, idle]
  exact ⟨settled, rfl, rfl, rfl⟩

structure RetryHarmless (before : saver.State) (timed : TimedCall Value Version)
    (reply : SaverReply Value Version) : Prop where
  answered : (saver.perform before timed).2 = .ok reply
  tracked : ∀ threadId ∈ before.lastAccess.keys, threadId ∈ (saver.step before timed).lastAccess.keys
  dicts : (saver.step before timed).dicts = before.dicts
  sizes : (saver.step before timed).sizes = before.sizes
  bytes : (saver.step before timed).serializedBytes = before.serializedBytes

-- The budget has room for all that a write asks for, stored already or not.
def RoomForAll (state : saver.State) (call : SaverCall Value Version) : Prop :=
  match call with
  | .put config checkpoint metadata versions => ∀ key estimatedSize,
      saver.prepareCheckpoint config checkpoint metadata versions = .ok (key, estimatedSize) →
      state.serializedBytes + estimatedSize ≤ saver.config.maxTotalBytes
  | .putWrites config writes taskId taskPath => ∀ key requested,
      saver.prepareWrites config writes taskId taskPath = .ok (key, requested) →
      state.serializedBytes + requested ≤ saver.config.maxTotalBytes
  | _ => True

omit [DecidableEq Version] in
theorem Repeats.tracked {saver : BoundedInMemorySaver Value Version} {before after : saver.State} {threadId : String}
    {later : Time} (repeats : saver.Repeats before after threadId later) :
    ∀ other ∈ before.lastAccess.keys, other ∈ after.lastAccess.keys := by
  intro other member
  rw [repeats.lastAccess, Dict.mem_keys_set, Dict.mem_keys_pop]
  by_cases own : other = threadId
  · exact Or.inl own
  · exact Or.inr ⟨member, own⟩

-- A write that was just accepted may be repeated without harm exactly when the budget has
-- room for a second copy of what it stored.
theorem retry_harmless_iff (lawful : saver.inherited.Lawful) (state : saver.State)
    (first second : TimedCall Value Version)
    (reply : SaverReply Value Version) (write : first.call.IsWrite) (same : second.call = first.call)
    (answered : (saver.perform state first).2 = .ok reply)
    (unexpired : saver.expiredThreads (saver.step state first) second.now = []) :
    saver.RetryHarmless (saver.step state first) second reply ↔ saver.RoomForAll (saver.step state first)
      first.call := by
  obtain ⟨now, later, call⟩ := first
  obtain ⟨again, latest, repeated⟩ := second
  obtain rfl : repeated = call := same
  cases repeated with
  | put config checkpoint metadata versions =>
      rcases saver.put_cases lawful state now later config checkpoint metadata versions with
        ⟨gone, error, refused⟩ | ⟨before, gone, key, estimatedSize, stored, values, blobs, stores,
          prepared, _, accepted⟩
      · simp only [perform, refused] at answered
        cases answered
      · have reached : saver.step state ⟨now, later, .put config checkpoint metadata versions⟩ = before := by
          simp only [step, perform, accepted]
        simp only [perform, accepted] at answered
        cases answered
        rw [reached] at unexpired ⊢
        constructor
        · intro harmless other size checked
          rw [prepared] at checked
          cases checked
          rcases saver.put_cases lawful before again latest config checkpoint metadata versions with
            ⟨evicted, error, refused⟩ | ⟨after, evicted, _, _, _, _, _, second, reprepared, reserving, reaccepted⟩
          · have failed := harmless.answered
            simp only [perform, refused] at failed
            cases failed
          · rw [prepared] at reprepared
            cases reprepared
            refine saver.reserve_found_room lawful before _ again _ _ _ _ unexpired reserving
              (fun other tracked different => ?_)
            have still := harmless.tracked other tracked
            simp only [step, perform, reaccepted] at still
            rw [second.booked] at still
            have kept := saver.booked_tracked _ _ _ _ other different still
            exact kept
        · intro room
          obtain ⟨after, reaccepted, repeats⟩ := saver.put_repeats lawful state before now later again latest
            config checkpoint metadata versions gone key estimatedSize stored values blobs stores prepared unexpired
              (room key estimatedSize prepared)
          have final : saver.step before ⟨again, latest, .put config checkpoint metadata versions⟩ = after := by
            simp only [step, perform, reaccepted]
          refine ⟨?_, ?_, ?_, ?_, ?_⟩
          · simp only [perform, reaccepted]
            rfl
          · rw [final]
            exact repeats.tracked
          · rw [final]
            exact repeats.dicts
          · rw [final]
            exact repeats.sizes
          · rw [final]
            exact repeats.bytes
  | putWrites config writes taskId taskPath =>
      rcases saver.put_writes_cases lawful state now later config writes taskId taskPath with
        ⟨gone, error, refused⟩ | ⟨before, gone, key, requested, rows, batch, prepared, reserved, accepted⟩
      · simp only [perform, refused] at answered
        cases answered
      · have reached : saver.step state ⟨now, later, .putWrites config writes taskId taskPath⟩ = before := by
          simp only [step, perform, accepted]
        simp only [perform, accepted] at answered
        cases answered
        rw [reached] at unexpired ⊢
        constructor
        · intro harmless other size checked
          rw [prepared] at checked
          cases checked
          rcases saver.put_writes_cases lawful before again latest config writes taskId taskPath with
            ⟨evicted, error, refused⟩ | ⟨after, evicted, _, _, _, second, reprepared, reserving, reaccepted⟩
          · have failed := harmless.answered
            simp only [perform, refused] at failed
            cases failed
          · rw [prepared] at reprepared
            cases reprepared
            refine saver.reserve_found_room lawful before _ again _ _ _ _ unexpired reserving
              (fun other tracked different => ?_)
            have still := harmless.tracked other tracked
            simp only [step, perform, reaccepted] at still
            rw [second.booked] at still
            have kept := saver.booked_tracked _ _ _ _ other different still
            exact kept
        · intro room
          obtain ⟨after, reaccepted, repeats⟩ := saver.put_writes_repeats lawful state before now later again
            latest config writes
            taskId taskPath gone key requested rows batch prepared reserved unexpired (room key requested prepared)
          have final : saver.step before ⟨again, latest, .putWrites config writes taskId taskPath⟩ = after := by
            simp only [step, perform, reaccepted]
          refine ⟨?_, ?_, ?_, ?_, ?_⟩
          · simp only [perform, reaccepted]
            rfl
          · rw [final]
            exact repeats.tracked
          · rw [final]
            exact repeats.dicts
          · rw [final]
            exact repeats.sizes
          · rw [final]
            exact repeats.bytes
  | getTuple config => exact write.elim
  | list config filter before limit => exact write.elim
  | getDeltaChannelHistory config channels => exact write.elim
  | deleteThread threadId => exact write.elim
  | purgeExpired => exact write.elim
  | clear => exact write.elim
  | stats => exact write.elim

def otherPut : SaverCall Bytes Nat := smallPut "u" none "c1" [("x", 1)] [("x", [4])] [("x", 1)]

def oneThread (maxTotalBytes : Nat) : (smallBoundedSaver 2 maxTotalBytes).State :=
  Transition.run (smallBoundedSaver 2 maxTotalBytes).step (smallBoundedSaver 2 maxTotalBytes).initial
    [⟨0, 0, smallPut "t" none "c1" [("x", 1)] [("x", [1, 2])] [("x", 1)]⟩]

theorem other_put_answered (maxTotalBytes : Nat)
    (passed : ((smallBoundedSaver 2 maxTotalBytes).perform (oneThread maxTotalBytes) ⟨1, 1, otherPut⟩).2.toBool =
      true) :
    ∃ reply, ((smallBoundedSaver 2 maxTotalBytes).perform (oneThread maxTotalBytes) ⟨1, 1, otherPut⟩).2 =
      .ok reply := by
  cases answered : ((smallBoundedSaver 2 maxTotalBytes).perform (oneThread maxTotalBytes) ⟨1, 1, otherPut⟩).2 with
  | ok reply => exact ⟨reply, rfl⟩
  | error error =>
      rw [answered] at passed
      cases passed

theorem retry_harmless_iff_other_put :
    ∃ reply, (smallBoundedSaver 2 99).RetryHarmless ((smallBoundedSaver 2 99).step (oneThread 99) ⟨1, 1, otherPut⟩)
        ⟨2, 2, otherPut⟩ reply ↔
      (smallBoundedSaver 2 99).RoomForAll ((smallBoundedSaver 2 99).step (oneThread 99) ⟨1, 1, otherPut⟩) otherPut := by
  obtain ⟨reply, answered⟩ := other_put_answered 99 (by decide +kernel)
  exact ⟨reply, (smallBoundedSaver 2 99).retry_harmless_iff smallSaver.lawful (oneThread 99) ⟨1, 1, otherPut⟩
    ⟨2, 2, otherPut⟩ reply trivial rfl answered (by decide +kernel)⟩

-- 45 of 50 bytes are used, and the repeated put of 22 bytes evicts the other thread.
theorem retry_evicts_another :
    ((smallBoundedSaver 2 49).perform (oneThread 49) ⟨1, 1, otherPut⟩).2.toBool = true ∧
      (smallBoundedSaver 2 49).expiredThreads ((smallBoundedSaver 2 49).step (oneThread 49) ⟨1, 1, otherPut⟩) 2 = [] ∧
      ∀ reply, ¬ (smallBoundedSaver 2 49).RetryHarmless ((smallBoundedSaver 2 49).step (oneThread 49) ⟨1, 1, otherPut⟩)
        ⟨2, 2, otherPut⟩ reply := by
  refine ⟨by decide +kernel, by decide +kernel, fun reply harmless => ?_⟩
  have present : "t" ∈ ((smallBoundedSaver 2 49).step (oneThread 49) ⟨1, 1, otherPut⟩).lastAccess.keys :=
    by decide +kernel
  have absent : "t" ∉ ((smallBoundedSaver 2 49).step ((smallBoundedSaver 2 49).step (oneThread 49) ⟨1, 1, otherPut⟩)
      ⟨2, 2, otherPut⟩).lastAccess.keys := by decide +kernel
  exact absent (harmless.tracked "t" present)

end BoundedInMemorySaver

end LangGraphServer
