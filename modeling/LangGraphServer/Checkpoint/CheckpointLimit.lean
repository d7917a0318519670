import Mathlib.Algebra.Order.BigOperators.Group.List
import Mathlib.Algebra.Order.Group.Nat
import LangGraphServer.Checkpoint.Reads
import LangGraphServer.Checkpoint.Removals

set_option autoImplicit false

namespace LangGraphServer.BoundedInMemorySaver

open Collections

variable {Value Version : Type} [DecidableEq Version] (saver : BoundedInMemorySaver Value Version)

omit [DecidableEq Version] in
theorem grown_within {α : Type} [DecidableEq α] (before after : List α) (given : α) (limit : Nat)
    (distinct : after.Nodup) (grown : ∀ item ∈ after, item = given ∨ item ∈ before) (within : before.length ≤ limit)
    (room : given ∈ before ∨ before.length < limit) : after.length ≤ limit := by
  by_cases known : given ∈ before
  · have inside : after ⊆ before := by
      intro item member
      rcases grown item member with rfl | earlier
      · exact known
      · exact earlier
    exact Nat.le_trans (List.subperm_of_subset distinct inside).length_le within
  · have inside : after ⊆ given :: before := fun item member => List.mem_cons.mpr (grown item member)
    exact Nat.le_trans (List.subperm_of_subset distinct inside).length_le (room.resolve_left known)

structure CheckpointsCounted (state : saver.State) : Prop where
  written : ∀ threadId checkpoint, checkpoint ∈ saver.knownCheckpointsLocked state threadId ↔
    (saver.replay threadId state.history).KnowsCheckpoint threadId checkpoint
  within : ∀ threadId, (saver.knownCheckpointsLocked state threadId).length ≤ saver.config.maxCheckpointsPerThread

omit [DecidableEq Version] in
theorem fewer_counted (state after : saver.State) (threadId : String)
    (kept : ∀ checkpoint ∈ saver.knownCheckpointsLocked after threadId, checkpoint ∈ saver.knownCheckpointsLocked
      state threadId) :
    (saver.knownCheckpointsLocked after threadId).length ≤ (saver.knownCheckpointsLocked state threadId).length :=
  (List.subperm_of_subset (List.nodup_dedup _) kept).length_le

theorem delete_thread_counted (lawful : saver.inherited.Lawful) (state : saver.State) (gone : String)
    (counted : saver.CheckpointsCounted state) : saver.CheckpointsCounted (saver.deleteThreadLocked state gone) := by
  have dropped := saver.delete_thread_drops lawful state gone
  constructor
  · intro threadId checkpoint
    rw [mem_known_checkpoints, dropped.dicts, dropped.history, replay_append, replayEvent,
      SaverDicts.knows_checkpoint_drop]
    by_cases own : gone = threadId
    · simp [own, SaverDicts.KnowsCheckpoint, SaverDicts.checkpoint?, SaverDicts.checkpoints, SaverDicts.namespaces,
        SaverDicts.empty]
    · rw [if_neg own, ← counted.written, mem_known_checkpoints]
      simp [Ne.symm own]
  · intro threadId
    refine Nat.le_trans (saver.fewer_counted state _ threadId (fun checkpoint member => ?_)) (counted.within threadId)
    rw [mem_known_checkpoints, dropped.dicts, SaverDicts.knows_checkpoint_drop] at member
    rw [mem_known_checkpoints]
    exact member.2

theorem drop_all_counted (lawful : saver.inherited.Lawful) (state : saver.State) (gone : List String)
    (counted : saver.CheckpointsCounted state) : saver.CheckpointsCounted (saver.dropAll state gone) :=
  saver.drop_all_keeps saver.CheckpointsCounted (saver.delete_thread_counted lawful) state counted gone

theorem reserve_counted (lawful : saver.inherited.Lawful) (state reached : saver.State) (now : Time)
    (threadId checkpointNs checkpointId : String) (requiredBytes : Nat)
    (reserving : saver.reserveLocked state now threadId checkpointNs checkpointId requiredBytes = (reached, .ok ())) :
    (checkpointNs, checkpointId) ∈ saver.knownCheckpointsLocked reached threadId ∨
      (saver.knownCheckpointsLocked reached threadId).length < saver.config.maxCheckpointsPerThread := by
  rw [reserveLocked] at reserving
  generalize saver.makeRoomForThreadLocked (saver.purgeExpiredLocked state now).1 threadId = roomy at reserving
  cases checked : saver.checkLimitsLocked roomy threadId checkpointNs checkpointId with
  | error error => simp [checked] at reserving
  | ok fine =>
      simp only [checked] at reserving
      obtain ⟨gone, room⟩ := saver.make_room_for_bytes_spec lawful roomy requiredBytes threadId
      have dropped : reached = saver.dropAll roomy gone := by rw [← room.dropped, reserving]
      rw [dropped, (saver.known_drop_others lawful gone roomy threadId room.spared).2]
      by_contra beyond
      rw [not_or, Nat.not_lt] at beyond
      rw [checkLimitsLocked] at checked
      by_cases crowded : checkpointNs ∉ saver.knownNamespacesLocked roomy threadId ∧
          saver.config.maxNamespacesPerThread ≤ (saver.knownNamespacesLocked roomy threadId).length
      · simp [crowded] at checked
      · simp [crowded, beyond] at checked

omit [DecidableEq Version] in
theorem adds_counted (state after : saver.State) (key : CheckpointKey) (adds : Prop)
    (counted : saver.CheckpointsCounted state)
    (room : key.2 ∈ saver.knownCheckpointsLocked state key.1 ∨
      (saver.knownCheckpointsLocked state key.1).length < saver.config.maxCheckpointsPerThread)
    (grown : state.dicts.Adds after.dicts key adds)
    (replayed : (saver.replay key.1 state.history).Adds (saver.replay key.1 after.history) key adds)
    (others : ∀ threadId, threadId ≠ key.1 → saver.replay threadId after.history = saver.replay threadId
      state.history) :
    saver.CheckpointsCounted after := by
  have checkpoints (threadId : String) (checkpoint : String × String) :
      checkpoint ∈ saver.knownCheckpointsLocked after threadId ↔
        (adds ∧ (threadId, checkpoint) = key) ∨ checkpoint ∈ saver.knownCheckpointsLocked state threadId := by
    rw [mem_known_checkpoints, grown.checkpoints, mem_known_checkpoints]
  constructor
  · intro threadId checkpoint
    rw [checkpoints, counted.written]
    by_cases own : threadId = key.1
    · rw [own, replayed.checkpoints]
    · rw [others threadId own]
      refine or_iff_right (fun given => own ?_)
      rw [← given.2]
  · intro threadId
    by_cases own : threadId = key.1
    · subst own
      refine grown_within _ _ key.2 _ (List.nodup_dedup _) (fun checkpoint member => ?_) (counted.within key.1) room
      refine ((checkpoints key.1 checkpoint).mp member).imp_left (fun given => ?_)
      rw [← given.2]
    · refine Nat.le_trans (saver.fewer_counted state after threadId (fun checkpoint member => ?_))
        (counted.within threadId)
      refine ((checkpoints threadId checkpoint).mp member).resolve_left (fun given => own ?_)
      rw [← given.2]

theorem put_counted (lawful : saver.inherited.Lawful) (state : saver.State) (now later : Time)
    (config : RunnableConfig) (checkpoint : Checkpoint Value Version) (metadata : Metadata)
    (versions : ChannelVersions Version) (counted : saver.CheckpointsCounted state) :
    saver.CheckpointsCounted (saver.put state now later config checkpoint metadata versions).1 := by
  rcases saver.put_cases lawful state now later config checkpoint metadata versions with
    ⟨gone, error, refused⟩ | ⟨after, gone, key, size, stored, values, blobs, stores, _, reserving, accepted⟩
  · rw [refused]
    exact saver.drop_all_counted lawful state gone counted
  · simp only [accepted]
    have base := saver.drop_all_counted lawful state gone counted
    have commit := stores.commit
    have puts := lawful.put_stores (saver.replay key.1 (saver.dropAll state gone).history) config checkpoint
      metadata versions key.1 key.2.1 key.2.2 values stored.checkpoint stored.metadata blobs
      commit.prepared.threadId commit.checkpointNs commit.prepared.checkpointId commit.given commit.copy
      commit.metadata commit.built
    rw [← commit.parentId] at puts
    refine saver.adds_counted _ after key True base
      (saver.reserve_counted lawful state _ now key.1 key.2.1 key.2.2 size reserving) ?_ ?_
        (fun threadId different => ?_)
    · rw [stores.committed.1]
      exact SaverDicts.adds_store _ key stored blobs
    · rw [stores.committed.2, replay_append, replayEvent, if_pos rfl, puts]
      exact SaverDicts.adds_store _ key stored blobs
    · rw [stores.committed.2, replay_append, replayEvent, if_neg (Ne.symm different)]

theorem put_writes_counted (lawful : saver.inherited.Lawful) (state : saver.State) (now later : Time)
    (config : RunnableConfig) (writes : List (String × Value)) (taskId taskPath : String)
    (counted : saver.CheckpointsCounted state) :
    saver.CheckpointsCounted (saver.putWrites state now later config writes taskId taskPath).1 := by
  rcases saver.put_writes_cases lawful state now later config writes taskId taskPath with
    ⟨gone, error, refused⟩ | ⟨after, gone, key, requested, rows, batch, _, reserving, accepted⟩
  · rw [refused]
    exact saver.drop_all_counted lawful state gone counted
  · simp only [accepted]
    have base := saver.drop_all_counted lawful state gone counted
    have commit := batch.commit
    have puts := lawful.put_writes_stores (saver.replay key.1 (saver.dropAll state gone).history) config writes
      taskId taskPath key.1 key.2.1 key.2.2 rows commit.threadId batch.checkpointNs commit.checkpointId
      commit.built
    refine saver.adds_counted _ after key (rows ≠ []) base
      (saver.reserve_counted lawful state _ now key.1 key.2.1 key.2.2 requested reserving) ?_ ?_
        (fun threadId different => ?_)
    · rw [batch.committed.1]
      exact SaverDicts.adds_writes rows _ key
    · rw [batch.committed.2, replay_append, replayEvent, if_pos rfl, puts]
      exact SaverDicts.adds_writes rows _ key
    · rw [batch.committed.2, replay_append, replayEvent, if_neg (Ne.symm different)]

omit [DecidableEq Version] in
theorem nothing_counted (history : List (SaverEvent Value Version)) (state : saver.State)
    (cleared : state.dicts = .empty)
    (recorded : state.history = history) (fresh : ∀ threadId, saver.replay threadId history = .empty) :
    saver.CheckpointsCounted state := by
  have nothing (threadId : String) (checkpoint : String × String) :
    checkpoint ∉ saver.knownCheckpointsLocked state threadId := by
    rw [mem_known_checkpoints, cleared]
    simp [SaverDicts.KnowsCheckpoint, SaverDicts.checkpoint?, SaverDicts.checkpoints, SaverDicts.namespaces,
      SaverDicts.empty, Dict.empty, Dict.keys, Dict.get?]
  constructor
  · intro threadId checkpoint
    rw [mem_known_checkpoints, cleared, recorded, fresh]
  · intro threadId
    rw [List.eq_nil_iff_forall_not_mem.mpr (nothing threadId)]
    exact Nat.zero_le _

omit [DecidableEq Version] in
theorem clear_counted (state : saver.State) : saver.CheckpointsCounted (saver.clear state) := by
  refine saver.nothing_counted (state.history ++ [.cleared]) (saver.clear state) rfl rfl (fun threadId => ?_)
  rw [replay_append]
  rfl

theorem read_counted (lawful : saver.inherited.Lawful) (deltaIndexes : Bool)
    (reads : saver.inherited.ReadsByIndexing deltaIndexes) (state : saver.State) (timed : TimedCall Value Version)
    (isRead : timed.call.IsRead) (counted : saver.CheckpointsCounted state) :
    saver.CheckpointsCounted (saver.step state timed) := by
  obtain ⟨gone, looks⟩ := saver.read_looks_up deltaIndexes reads state timed isRead
  have base := saver.drop_all_counted lawful state gone counted
  have same (threadId : String) (checkpoint : String × String) :
      checkpoint ∈ saver.knownCheckpointsLocked (saver.step state timed) threadId ↔
        checkpoint ∈ saver.knownCheckpointsLocked (saver.dropAll state gone) threadId := by
    rw [mem_known_checkpoints, mem_known_checkpoints]
    exact SaverDicts.knows_checkpoint_indexed (saver.dropAll state gone).dicts _ _ looks.dicts threadId checkpoint
  constructor
  · intro threadId checkpoint
    rw [same, base.written, looks.history]
  · intro threadId
    exact Nat.le_trans (saver.fewer_counted _ _ threadId (fun checkpoint => (same threadId checkpoint).mp))
      (base.within threadId)

theorem step_counted (lawful : saver.inherited.Lawful) (deltaIndexes : Bool)
    (reads : saver.inherited.ReadsByIndexing deltaIndexes) (state : saver.State) (timed : TimedCall Value Version)
    (counted : saver.CheckpointsCounted state) : saver.CheckpointsCounted (saver.step state timed) := by
  by_cases isRead : timed.call.IsRead
  · exact saver.read_counted lawful deltaIndexes reads state timed isRead counted
  rw [step, perform]
  cases called : timed.call with
  | put config checkpoint metadata versions =>
      exact saver.put_counted lawful state timed.now timed.later config checkpoint metadata versions counted
  | putWrites config writes taskId taskPath =>
      exact saver.put_writes_counted lawful state timed.now timed.later config writes taskId taskPath counted
  | deleteThread threadId =>
      simp only [deleteThread]
      cases saver.validatedIdentifier threadId "thread_id" saver.config.maxThreadIdLength false with
      | error error => exact counted
      | ok validated => exact saver.delete_thread_counted lawful state validated counted
  | purgeExpired => exact saver.drop_all_counted lawful state (saver.expiredThreads state timed.now) counted
  | clear => exact saver.clear_counted state
  | stats => exact saver.drop_all_counted lawful state (saver.expiredThreads state timed.now) counted
  | _ =>
      rw [called] at isRead
      exact (isRead trivial).elim

def storedCheckpoints (namespaces : Dict String (Dict String StoredCheckpoint)) : List (String × String) :=
  namespaces.entries.flatMap (fun row => row.2.keys.map (fun id => (row.1, id)))

omit [DecidableEq Version] in
theorem stored_checkpoints_length (namespaces : Dict String (Dict String StoredCheckpoint)) :
    (storedCheckpoints namespaces).length = (namespaces.entries.map (fun namespaced => namespaced.2.size)).sum := by
  rw [storedCheckpoints, List.length_flatMap]
  simp [Dict.keys_length]

omit [DecidableEq Version] in
theorem stored_checkpoints_nodup (namespaces : Dict String (Dict String StoredCheckpoint)) :
    (storedCheckpoints namespaces).Nodup := by
  rw [storedCheckpoints, List.nodup_flatMap]
  constructor
  · intro row _
    exact (Dict.keys_nodup row.2).map (fun first second same => (Prod.mk.inj same).2)
  · refine (List.pairwise_map.mp namespaces.unique).imp (fun {first second} differ => ?_)
    intro checkpoint inFirst inSecond
    obtain ⟨_, _, rfl⟩ := List.mem_map.mp inFirst
    obtain ⟨_, _, same⟩ := List.mem_map.mp inSecond
    exact differ (Prod.mk.inj same).1.symm

theorem stats_within (lawful : saver.inherited.Lawful) (state : saver.State) (now : Time)
    (accounted : saver.Accounted state) (counted : saver.CheckpointsCounted state) :
    (saver.stats state now).2.checkpoints ≤
    (saver.stats state now).2.threads * saver.config.maxCheckpointsPerThread := by
  have accounted := saver.drop_all_accounted lawful state (saver.expiredThreads state now) accounted
  have counted := saver.drop_all_counted lawful state (saver.expiredThreads state now) counted
  simp only [stats, purge_drops]
  generalize saver.dropAll state (saver.expiredThreads state now) = purged at accounted counted ⊢
  have each : ∀ count ∈ purged.dicts.storage.entries.map (fun thread =>
    (thread.2.entries.map (fun namespaced => namespaced.2.size)).sum),
      count ≤ saver.config.maxCheckpointsPerThread := by
    intro count listed
    obtain ⟨⟨threadId, namespaces⟩, member, rfl⟩ := List.mem_map.mp listed
    have own : purged.dicts.namespaces threadId = namespaces := by
      rw [SaverDicts.namespaces, (Dict.mem_entries _ _ _).mp member, Option.getD_some]
    have inside : storedCheckpoints namespaces ⊆ saver.knownCheckpointsLocked purged threadId := by
      intro checkpoint stored
      rw [knownCheckpointsLocked, own, List.mem_dedup]
      exact List.mem_append_left _ stored
    rw [← stored_checkpoints_length]
    exact Nat.le_trans (List.subperm_of_subset (stored_checkpoints_nodup namespaces) inside).length_le
      (counted.within threadId)
  have tracked : purged.dicts.storage.keys ⊆ purged.lastAccess.keys :=
    fun threadId stored => accounted.tracked threadId (Or.inl stored)
  have threads : purged.dicts.storage.entries.length ≤ purged.lastAccess.size := by
    have fewer := (List.subperm_of_subset (Dict.keys_nodup purged.dicts.storage) tracked).length_le
    rwa [Dict.keys_length, Dict.keys_length] at fewer
  calc
    _ ≤ (purged.dicts.storage.entries.map
      (fun thread => (thread.2.entries.map (fun namespaced => namespaced.2.size)).sum)).length *
          saver.config.maxCheckpointsPerThread := List.sum_le_card_nsmul _ _ each
    _ = purged.dicts.storage.entries.length * saver.config.maxCheckpointsPerThread := by rw [List.length_map]
    _ ≤ purged.lastAccess.size * saver.config.maxCheckpointsPerThread := Nat.mul_le_mul_right _ threads

-- The limit of a thread holds, nothing but accepted writes counts towards it, and `stats`
-- reports no more. What was accepted and what removed is what the calls log.
structure CheckpointsBounded (state : saver.State) : Prop where
  counted : saver.CheckpointsCounted state
  logged : ∀ timed, saver.Logs state timed (saver.step state timed) (saver.perform state timed).2
  reported : ∀ now, (saver.stats state now).2.checkpoints ≤
    (saver.stats state now).2.threads * saver.config.maxCheckpointsPerThread

theorem checkpoints_bounded (lawful : saver.inherited.Lawful) (deltaIndexes : Bool)
    (reads : saver.inherited.ReadsByIndexing deltaIndexes) (calls : List (TimedCall Value Version)) :
    Transition.Always saver.step saver.CheckpointsBounded saver.initial calls := by
  have both := Transition.always_of_invariant saver.step (fun state => saver.Accounted state ∧
    saver.CheckpointsCounted state) (fun state timed kept => ⟨saver.step_accounted lawful state timed kept.1,
      saver.step_counted lawful deltaIndexes reads state timed kept.2⟩)
    saver.initial ⟨saver.initial_accounted, saver.nothing_counted [] saver.initial rfl rfl (fun _ => rfl)⟩ calls
  exact Transition.always_imp _ _ _
    (fun state kept => ⟨kept.2, fun timed => saver.perform_logs lawful state timed kept.1,
      fun now => saver.stats_within lawful state now kept.1 kept.2⟩) _ _ both

theorem checkpoints_bounded_small_run :
    Transition.Always indexingBoundedSaver.step indexingBoundedSaver.CheckpointsBounded
      indexingBoundedSaver.initial storedRun :=
  indexingBoundedSaver.checkpoints_bounded smallSaver.indexing_lawful false smallSaver.indexing_reads storedRun

end LangGraphServer.BoundedInMemorySaver
