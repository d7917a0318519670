import LangGraphServer.Checkpoint.Capacity
import LangGraphServer.Checkpoint.Known
import LangGraphServer.Checkpoint.Refinement

set_option autoImplicit false

namespace LangGraphServer

open Collections

-- How the inherited reads look things up. `get_tuple` indexes `storage` with the thread and
-- the namespace it is asked for; `list` walks over what is there; whether the delta history
-- indexes like `get_tuple` is left open.
structure InheritedSaver.ReadsByIndexing {Value Version : Type} [DecidableEq Version]
    (saver : InheritedSaver Value Version) (deltaIndexes : Bool) : Prop where
  get_tuple : ∀ (dicts : SaverDicts Version) (config : RunnableConfig) threadId checkpointNs,
    config.entry? "thread_id" = some (.str threadId) → (config.entry? "checkpoint_ns").getD
      (.str "") = .str checkpointNs →
    dicts.Indexes (saver.getTuple dicts config).1 (some (threadId, checkpointNs))
  list : ∀ (dicts : SaverDicts Version) (config : Option RunnableConfig) filter before limit,
    (∀ given : RunnableConfig, config = some given → ∃ threadId, given.entry? "thread_id" = some (.str threadId) ∧
      threadId ∈ dicts.storage.keys) →
    dicts.Indexes (saver.list dicts config filter before limit).1 none
  delta_history : ∀ (dicts : SaverDicts Version) (config : RunnableConfig) channels threadId checkpointNs,
    config.entry? "thread_id" = some (.str threadId) → (config.entry? "checkpoint_ns").getD
      (.str "") = .str checkpointNs →
    dicts.Indexes (saver.getDeltaChannelHistory dicts config channels).1
      (if deltaIndexes = true ∧ channels ≠ [] then some (threadId, checkpointNs) else none)

theorem SaverDicts.indexes_nothing {Version : Type} (dicts : SaverDicts Version) : dicts.Indexes dicts none :=
  ⟨rfl, fun _ member => member, fun _ member => Or.inl member⟩

def SaverCall.IsRead {Value Version : Type} : SaverCall Value Version → Prop
  | .getTuple _ => True
  | .list _ _ _ _ => True
  | .getDeltaChannelHistory _ _ => True
  | _ => False

namespace BoundedInMemorySaver

variable {Value Version : Type} [DecidableEq Version] (saver : BoundedInMemorySaver Value Version)

omit [DecidableEq Version] in
theorem mem_known_namespaces (state : saver.State) (threadId checkpointNs : String) :
    checkpointNs ∈ saver.knownNamespacesLocked state threadId ↔ state.dicts.KnowsNamespace threadId checkpointNs := by
  simp only [knownNamespacesLocked, List.mem_dedup, List.mem_append, List.mem_map, List.mem_filter,
    decide_eq_true_iff, SaverDicts.KnowsNamespace, and_assoc]

omit [DecidableEq Version] in
theorem mem_known_checkpoints (state : saver.State) (threadId : String) (checkpoint : String × String) :
    checkpoint ∈ saver.knownCheckpointsLocked state threadId ↔ state.dicts.KnowsCheckpoint threadId checkpoint := by
  obtain ⟨checkpointNs, checkpointId⟩ := checkpoint
  simp only [knownCheckpointsLocked, List.mem_dedup, List.mem_append, List.mem_map, List.mem_filter, List.mem_flatMap,
    decide_eq_true_iff, SaverDicts.KnowsCheckpoint, Prod.mk.injEq]
  refine or_congr ⟨?_, ?_⟩ ⟨?_, ?_⟩
  · rintro ⟨row, listed, id, member, rfl, rfl⟩
    have inner := (Dict.mem_entries _ row.1 row.2).mp listed
    obtain ⟨stored, found⟩ := (Dict.mem_keys _ _).mp member
    refine ⟨stored, ?_⟩
    rw [SaverDicts.checkpoint?, SaverDicts.checkpoints, inner, Option.getD_some]
    exact found
  · rintro ⟨stored, found⟩
    cases indexed : (state.dicts.namespaces threadId).get? checkpointNs with
    | none => simp [SaverDicts.checkpoint?, SaverDicts.checkpoints, indexed] at found
    | some inner =>
        rw [SaverDicts.checkpoint?, SaverDicts.checkpoints, indexed, Option.getD_some] at found
        exact ⟨(checkpointNs, inner), (Dict.mem_entries _ _ _).mpr indexed, checkpointId,
          (Dict.mem_keys _ _).mpr ⟨stored, found⟩, rfl, rfl⟩
  · rintro ⟨key, ⟨member, rfl⟩, same⟩
    rw [← same]
    exact member
  · rintro member
    exact ⟨_, ⟨member, rfl⟩, rfl⟩

-- The namespace a call looks up in `storage`, once the expired threads are gone.
def looksUp (deltaIndexes : Bool) (state : saver.State) (timed : TimedCall Value Version) : Option (String × String) :=
  match timed.call with
  | .getTuple config =>
      match saver.validatedLocation config with
      | .ok location =>
          if location.1 ∈ (saver.purgeExpiredLocked state timed.now).1.dicts.storage.keys then some location else none
      | .error _ => none
  | .getDeltaChannelHistory config channels =>
      match saver.validatedLocation config with
      | .ok location => if deltaIndexes = true ∧ channels ≠ [] then some location else none
      | .error _ => none
  | _ => none

structure LooksUp (state : saver.State) (timed : TimedCall Value Version) (target : Option (String × String))
    (after : saver.State) (gone : List String) : Prop where
  purged : gone = [] ∨ gone = saver.expiredThreads state timed.now
  dicts : (saver.dropAll state gone).dicts.Indexes after.dicts target
  sizes : after.sizes = (saver.dropAll state gone).sizes
  serializedBytes : after.serializedBytes = (saver.dropAll state gone).serializedBytes
  history : after.history = (saver.dropAll state gone).history
  expired : target ≠ none → gone = saver.expiredThreads state timed.now

theorem get_tuple_looks_up (deltaIndexes : Bool) (reads : saver.inherited.ReadsByIndexing deltaIndexes)
    (state : saver.State) (timed : TimedCall Value Version) (config : RunnableConfig)
    (called : timed.call = .getTuple config) :
    ∃ gone, saver.LooksUp state timed (saver.looksUp deltaIndexes state timed)
      (saver.getTuple state timed.now timed.later config).1 gone := by
  cases located : saver.validatedLocation config with
  | error error =>
      simp only [getTuple, looksUp, called, located]
      exact ⟨[], Or.inl rfl, SaverDicts.indexes_nothing _, rfl, rfl, rfl, fun target => (target rfl).elim⟩
  | ok location =>
      obtain ⟨threadId, checkpointNs⟩ := location
      simp only [getTuple, looksUp, called, located]
      obtain ⟨thread, namespaced⟩ := saver.validated_location_thread config threadId checkpointNs located
      refine ⟨saver.expiredThreads state timed.now, ?_⟩
      by_cases known : threadId ∈ (saver.purgeExpiredLocked state timed.now).1.dicts.storage.keys
      · simp only [if_pos known]
        have indexes := reads.get_tuple (saver.purgeExpiredLocked state timed.now).1.dicts config threadId checkpointNs
          thread namespaced
        generalize saver.inherited.getTuple (saver.purgeExpiredLocked state timed.now).1.dicts config =
          answer at indexes
        obtain ⟨dicts, reply⟩ := answer
        cases reply with
        | error error => exact ⟨Or.inr rfl, indexes, rfl, rfl, rfl, fun _ => rfl⟩
        | ok found => cases found <;> exact ⟨Or.inr rfl, indexes, rfl, rfl, rfl, fun _ => rfl⟩
      · simp only [if_neg known]
        exact ⟨Or.inr rfl, SaverDicts.indexes_nothing _, rfl, rfl, rfl, fun _ => rfl⟩

theorem delta_history_looks_up (deltaIndexes : Bool) (reads : saver.inherited.ReadsByIndexing deltaIndexes)
    (state : saver.State) (timed : TimedCall Value Version) (config : RunnableConfig) (channels : List String)
    (called : timed.call = .getDeltaChannelHistory config channels) :
    ∃ gone, saver.LooksUp state timed (saver.looksUp deltaIndexes state timed)
      (saver.getDeltaChannelHistory state timed.now timed.later config channels).1 gone := by
  cases located : saver.validatedLocation config with
  | error error =>
      simp only [getDeltaChannelHistory, looksUp, called, located]
      exact ⟨[], Or.inl rfl, SaverDicts.indexes_nothing _, rfl, rfl, rfl, fun target => (target rfl).elim⟩
  | ok location =>
      obtain ⟨threadId, checkpointNs⟩ := location
      simp only [getDeltaChannelHistory, looksUp, called, located]
      obtain ⟨thread, namespaced⟩ := saver.validated_location_thread config threadId checkpointNs located
      refine ⟨saver.expiredThreads state timed.now, ?_⟩
      have indexes := reads.delta_history (saver.purgeExpiredLocked state timed.now).1.dicts config channels threadId
        checkpointNs thread namespaced
      generalize saver.inherited.getDeltaChannelHistory (saver.purgeExpiredLocked state timed.now).1.dicts config
        channels = answer at indexes
      obtain ⟨dicts, reply⟩ := answer
      cases reply with
      | error error => exact ⟨Or.inr rfl, indexes, rfl, rfl, rfl, fun _ => rfl⟩
      | ok history =>
          by_cases none_asked : history.keys = []
          · simp only [if_pos none_asked]
            exact ⟨Or.inr rfl, indexes, rfl, rfl, rfl, fun _ => rfl⟩
          · simp only [if_neg none_asked]
            exact ⟨Or.inr rfl, indexes, rfl, rfl, rfl, fun _ => rfl⟩

theorem list_looks_up (deltaIndexes : Bool) (reads : saver.inherited.ReadsByIndexing deltaIndexes)
    (state : saver.State) (timed : TimedCall Value Version) (config : Option RunnableConfig) (filter : Option Metadata)
    (before : Option RunnableConfig) (limit : Option Int) :
    ∃ gone, saver.LooksUp state timed none (saver.list state timed.now timed.later config filter before limit).1
      gone := by
  rw [list]
  split
  · exact ⟨[], Or.inl rfl, SaverDicts.indexes_nothing _, rfl, rfl, rfl, fun target => (target rfl).elim⟩
  · rename_i threadId located
    refine ⟨saver.expiredThreads state timed.now, ?_⟩
    simp only
    split
    · exact ⟨Or.inr rfl, SaverDicts.indexes_nothing _, rfl, rfl, rfl, fun _ => rfl⟩
    · rename_i present
      have indexes := reads.list (saver.purgeExpiredLocked state timed.now).1.dicts config filter before limit
        (fun given same => by
          obtain ⟨thread, rfl, entry⟩ := saver.list_located config before threadId located given same
          exact ⟨thread, entry, by simpa using present⟩)
      generalize saver.inherited.list (saver.purgeExpiredLocked state timed.now).1.dicts config filter before limit =
        answer at indexes
      obtain ⟨dicts, reply⟩ := answer
      cases reply with
      | error error => exact ⟨Or.inr rfl, indexes, rfl, rfl, rfl, fun _ => rfl⟩
      | ok items =>
          cases items with
          | nil => exact ⟨Or.inr rfl, indexes, rfl, rfl, rfl, fun _ => rfl⟩
          | cons item rest => cases threadId <;> exact ⟨Or.inr rfl, indexes, rfl, rfl, rfl, fun _ => rfl⟩

theorem read_looks_up (deltaIndexes : Bool) (reads : saver.inherited.ReadsByIndexing deltaIndexes)
    (state : saver.State) (timed : TimedCall Value Version) (isRead : timed.call.IsRead) :
    ∃ gone, saver.LooksUp state timed (saver.looksUp deltaIndexes state timed) (saver.step state timed) gone := by
  rw [step, perform]
  cases called : timed.call with
  | getTuple config => exact saver.get_tuple_looks_up deltaIndexes reads state timed config called
  | list config filter before limit =>
      have nothing : saver.looksUp deltaIndexes state timed = none := by
        rw [looksUp, called]
      rw [nothing]
      exact saver.list_looks_up deltaIndexes reads state timed config filter before limit
  | getDeltaChannelHistory config channels =>
      exact saver.delta_history_looks_up deltaIndexes reads state timed config channels called
  | _ =>
      rw [called] at isRead
      exact isRead.elim

-- What the limits of later operations see is as it was.
structure ReadFree (state after : saver.State) : Prop where
  namespaces : ∀ threadId checkpointNs, checkpointNs ∈ saver.knownNamespacesLocked after threadId ↔
    checkpointNs ∈ saver.knownNamespacesLocked state threadId
  checkpoints : ∀ threadId checkpoint, checkpoint ∈ saver.knownCheckpointsLocked after threadId ↔
    checkpoint ∈ saver.knownCheckpointsLocked state threadId
  sizes : after.sizes = state.sizes
  serializedBytes : after.serializedBytes = state.serializedBytes
  limits : ∀ threadId checkpointNs checkpointId, saver.checkLimitsLocked after threadId checkpointNs checkpointId =
    saver.checkLimitsLocked state threadId checkpointNs checkpointId

def AsksKnown (deltaIndexes : Bool) (state : saver.State) (timed : TimedCall Value Version) : Prop :=
  ∀ threadId checkpointNs, saver.looksUp deltaIndexes state timed = some (threadId, checkpointNs) →
    checkpointNs ∈ saver.knownNamespacesLocked (saver.purgeExpiredLocked state timed.now).1 threadId

omit [DecidableEq Version] in
theorem known_length (state after : saver.State) (threadId : String)
    (namespaces : ∀ checkpointNs, checkpointNs ∈ saver.knownNamespacesLocked after threadId ↔
      checkpointNs ∈ saver.knownNamespacesLocked state threadId)
    (checkpoints : ∀ checkpoint, checkpoint ∈ saver.knownCheckpointsLocked after threadId ↔
      checkpoint ∈ saver.knownCheckpointsLocked state threadId) :
    (saver.knownNamespacesLocked after threadId).length = (saver.knownNamespacesLocked state threadId).length ∧
      (saver.knownCheckpointsLocked after threadId).length = (saver.knownCheckpointsLocked state threadId).length :=
  ⟨((List.perm_ext_iff_of_nodup (List.nodup_dedup _) (List.nodup_dedup _)).mpr namespaces).length_eq,
    ((List.perm_ext_iff_of_nodup (List.nodup_dedup _) (List.nodup_dedup _)).mpr checkpoints).length_eq⟩

omit [DecidableEq Version] in
theorem limits_of_known (state after : saver.State) (threadId checkpointNs checkpointId : String)
    (namespaces : ∀ checkpointNs, checkpointNs ∈ saver.knownNamespacesLocked after threadId ↔
      checkpointNs ∈ saver.knownNamespacesLocked state threadId)
    (checkpoints : ∀ checkpoint, checkpoint ∈ saver.knownCheckpointsLocked after threadId ↔
      checkpoint ∈ saver.knownCheckpointsLocked state threadId) :
    saver.checkLimitsLocked after threadId checkpointNs checkpointId =
      saver.checkLimitsLocked state threadId checkpointNs checkpointId := by
  obtain ⟨namespaceCount, checkpointCount⟩ := saver.known_length state after threadId namespaces checkpoints
  simp only [checkLimitsLocked, namespaces, checkpoints, namespaceCount, checkpointCount]

theorem read_free_iff_asks_known (deltaIndexes : Bool) (reads : saver.inherited.ReadsByIndexing deltaIndexes)
    (state : saver.State) (timed : TimedCall Value Version) (isRead : timed.call.IsRead)
    (fresh : saver.expiredThreads state timed.now = []) :
    saver.ReadFree state (saver.step state timed) ↔ saver.AsksKnown deltaIndexes state timed := by
  obtain ⟨gone, looks⟩ := saver.read_looks_up deltaIndexes reads state timed isRead
  obtain rfl : gone = [] := by
    rcases looks.purged with nothing | expired
    · exact nothing
    · rw [expired, fresh]
  have purged : (saver.purgeExpiredLocked state timed.now).1 = state := by
    rw [purge_drops, fresh]
    rfl
  have grown := SaverDicts.knows_namespace_indexed state.dicts _ _ looks.dicts
  rw [AsksKnown, purged]
  constructor
  · intro free threadId checkpointNs target
    rw [← free.namespaces, mem_known_namespaces, grown]
    exact Or.inl target
  · intro known
    have namespaces (threadId checkpointNs : String) :
        checkpointNs ∈ saver.knownNamespacesLocked (saver.step state timed) threadId ↔
          checkpointNs ∈ saver.knownNamespacesLocked state threadId := by
      rw [mem_known_namespaces, mem_known_namespaces, grown, ← mem_known_namespaces]
      exact or_iff_right_of_imp (known threadId checkpointNs)
    have checkpoints (threadId : String) (checkpoint : String × String) :
        checkpoint ∈ saver.knownCheckpointsLocked (saver.step state timed) threadId ↔
          checkpoint ∈ saver.knownCheckpointsLocked state threadId := by
      rw [mem_known_checkpoints, mem_known_checkpoints]
      exact SaverDicts.knows_checkpoint_indexed state.dicts _ _ looks.dicts threadId checkpoint
    exact ⟨namespaces, checkpoints, looks.sizes, looks.serializedBytes, fun threadId checkpointNs checkpointId =>
      saver.limits_of_known _ _ threadId checkpointNs checkpointId (namespaces threadId) (checkpoints threadId)⟩

-- The limits count what accepted writes left, as if no read had happened, and hold.
structure CountsWrites (state : saver.State) : Prop where
  namespaces : ∀ threadId checkpointNs, checkpointNs ∈ saver.knownNamespacesLocked state threadId ↔
    (saver.replay threadId state.history).KnowsNamespace threadId checkpointNs
  checkpoints : ∀ threadId checkpoint, checkpoint ∈ saver.knownCheckpointsLocked state threadId ↔
    (saver.replay threadId state.history).KnowsCheckpoint threadId checkpoint
  within : ∀ threadId, (saver.knownNamespacesLocked state threadId).length ≤ saver.config.maxNamespacesPerThread

omit [DecidableEq Version] in
theorem known_namespaces_le (state after : saver.State) (threadId : String)
    (kept : ∀ checkpointNs, checkpointNs ∈ saver.knownNamespacesLocked after threadId →
      checkpointNs ∈ saver.knownNamespacesLocked state threadId) :
    (saver.knownNamespacesLocked after threadId).length ≤ (saver.knownNamespacesLocked state threadId).length :=
  (List.subperm_of_subset (List.nodup_dedup _) (fun checkpointNs => kept checkpointNs)).length_le

omit [DecidableEq Version] in
theorem known_namespaces_le_succ (state after : saver.State) (threadId given : String)
    (kept : ∀ checkpointNs, checkpointNs ∈ saver.knownNamespacesLocked after threadId →
      checkpointNs = given ∨ checkpointNs ∈ saver.knownNamespacesLocked state threadId) :
    (saver.knownNamespacesLocked after threadId).length ≤ (saver.knownNamespacesLocked state threadId).length + 1 := by
  have inside : saver.knownNamespacesLocked after threadId ⊆ given :: saver.knownNamespacesLocked state threadId :=
    fun checkpointNs member => List.mem_cons.mpr (kept checkpointNs member)
  exact (List.subperm_of_subset (List.nodup_dedup _) inside).length_le

theorem delete_thread_counts (lawful : saver.inherited.Lawful) (state : saver.State) (gone : String)
    (counts : saver.CountsWrites state) : saver.CountsWrites (saver.deleteThreadLocked state gone) := by
  have dropped := saver.delete_thread_drops lawful state gone
  refine ⟨fun threadId checkpointNs => ?_, fun threadId checkpoint => ?_, fun threadId => ?_⟩
  · rw [mem_known_namespaces, dropped.dicts, dropped.history, replay_append, replayEvent,
      SaverDicts.knows_namespace_drop]
    by_cases own : gone = threadId
    · rw [if_pos own]
      simp [own, SaverDicts.KnowsNamespace, SaverDicts.namespaces, SaverDicts.empty]
    · rw [if_neg own, ← counts.namespaces, mem_known_namespaces]
      exact and_iff_right (Ne.symm own)
  · rw [mem_known_checkpoints, dropped.dicts, dropped.history, replay_append, replayEvent,
      SaverDicts.knows_checkpoint_drop]
    by_cases own : gone = threadId
    · rw [if_pos own]
      simp [own, SaverDicts.KnowsCheckpoint, SaverDicts.checkpoint?, SaverDicts.checkpoints, SaverDicts.namespaces,
        SaverDicts.empty]
    · rw [if_neg own, ← counts.checkpoints, mem_known_checkpoints]
      exact and_iff_right (Ne.symm own)
  · refine Nat.le_trans (saver.known_namespaces_le state _ threadId (fun checkpointNs member => ?_))
      (counts.within threadId)
    rw [mem_known_namespaces, dropped.dicts, SaverDicts.knows_namespace_drop] at member
    rw [mem_known_namespaces]
    exact member.2

theorem drop_all_counts (lawful : saver.inherited.Lawful) (state : saver.State) (gone : List String)
    (counts : saver.CountsWrites state) : saver.CountsWrites (saver.dropAll state gone) :=
  saver.drop_all_keeps saver.CountsWrites (saver.delete_thread_counts lawful) state counts gone

theorem reserve_within (lawful : saver.inherited.Lawful) (state reached : saver.State) (now : Time)
    (threadId checkpointNs checkpointId : String) (requiredBytes : Nat)
    (reserving : saver.reserveLocked state now threadId checkpointNs checkpointId requiredBytes = (reached, .ok ())) :
    checkpointNs ∈ saver.knownNamespacesLocked reached threadId ∨
      (saver.knownNamespacesLocked reached threadId).length < saver.config.maxNamespacesPerThread := by
  rw [reserveLocked] at reserving
  generalize saver.makeRoomForThreadLocked (saver.purgeExpiredLocked state now).1 threadId = roomy at reserving
  cases checked : saver.checkLimitsLocked roomy threadId checkpointNs checkpointId with
  | error error => simp [checked] at reserving
  | ok fine =>
      simp only [checked] at reserving
      obtain ⟨gone, room⟩ := saver.make_room_for_bytes_spec lawful roomy requiredBytes threadId
      have dropped : reached = saver.dropAll roomy gone := by rw [← room.dropped, reserving]
      rw [dropped, (saver.known_drop_others lawful gone roomy threadId room.spared).1]
      by_contra beyond
      rw [not_or, Nat.not_lt] at beyond
      simp [checkLimitsLocked, beyond] at checked

omit [DecidableEq Version] in
theorem adds_counts (state after : saver.State) (key : CheckpointKey) (adds : Prop)
    (counts : saver.CountsWrites state)
    (room : key.2.1 ∈ saver.knownNamespacesLocked state key.1 ∨
      (saver.knownNamespacesLocked state key.1).length < saver.config.maxNamespacesPerThread)
    (grown : state.dicts.Adds after.dicts key adds)
    (replayed : (saver.replay key.1 state.history).Adds (saver.replay key.1 after.history) key adds)
    (others : ∀ threadId, threadId ≠ key.1 → saver.replay threadId after.history = saver.replay threadId
      state.history) :
    saver.CountsWrites after := by
  have namespaces (threadId checkpointNs : String) : checkpointNs ∈ saver.knownNamespacesLocked after threadId ↔
      (adds ∧ threadId = key.1 ∧ checkpointNs = key.2.1) ∨ checkpointNs ∈ saver.knownNamespacesLocked
        state threadId := by
    rw [mem_known_namespaces, grown.namespaces, mem_known_namespaces]
  refine ⟨fun threadId checkpointNs => ?_, fun threadId checkpoint => ?_, fun threadId => ?_⟩
  · rw [namespaces, counts.namespaces]
    by_cases own : threadId = key.1
    · rw [own, replayed.namespaces]
    · rw [others threadId own]
      exact or_iff_right (fun given => own given.2.1)
  · rw [mem_known_checkpoints, grown.checkpoints, ← mem_known_checkpoints, counts.checkpoints]
    by_cases own : threadId = key.1
    · rw [own, replayed.checkpoints]
    · rw [others threadId own]
      refine or_iff_right (fun given => own ?_)
      rw [← given.2]
  · by_cases fresh : threadId = key.1 ∧ key.2.1 ∉ saver.knownNamespacesLocked state threadId
    · obtain ⟨rfl, unknown⟩ := fresh
      have few := room.resolve_left unknown
      have growth := saver.known_namespaces_le_succ state after key.1 key.2.1
        (fun checkpointNs member => ((namespaces key.1 checkpointNs).mp member).imp_left (fun given => given.2.2))
      omega
    · refine Nat.le_trans (saver.known_namespaces_le state after threadId (fun checkpointNs member => ?_))
        (counts.within threadId)
      rcases (namespaces threadId checkpointNs).mp member with ⟨_, own, rfl⟩ | known
      · exact by_contra (fun unknown => fresh ⟨own, unknown⟩)
      · exact known

theorem put_counts (lawful : saver.inherited.Lawful) (state : saver.State) (now later : Time)
    (config : RunnableConfig) (checkpoint : Checkpoint Value Version) (metadata : Metadata)
    (versions : ChannelVersions Version) (counts : saver.CountsWrites state) :
    saver.CountsWrites (saver.put state now later config checkpoint metadata versions).1 := by
  rcases saver.put_cases lawful state now later config checkpoint metadata versions with
    ⟨gone, error, refused⟩ | ⟨after, gone, key, size, stored, values, blobs, stores, _, reserving, accepted⟩
  · rw [refused]
    exact saver.drop_all_counts lawful state gone counts
  · simp only [accepted]
    have base := saver.drop_all_counts lawful state gone counts
    have commit := stores.commit
    have puts := lawful.put_stores (saver.replay key.1 (saver.dropAll state gone).history) config checkpoint
      metadata versions key.1 key.2.1 key.2.2 values stored.checkpoint stored.metadata blobs
      commit.prepared.threadId commit.checkpointNs commit.prepared.checkpointId commit.given commit.copy
      commit.metadata commit.built
    rw [← commit.parentId] at puts
    refine saver.adds_counts _ after key True base
      (saver.reserve_within lawful state _ now key.1 key.2.1 key.2.2 size reserving) ?_ ?_
        (fun threadId different => ?_)
    · rw [stores.committed.1]
      exact SaverDicts.adds_store _ key stored blobs
    · rw [stores.committed.2, replay_append, replayEvent, if_pos rfl, puts]
      exact SaverDicts.adds_store _ key stored blobs
    · rw [stores.committed.2, replay_append, replayEvent, if_neg (Ne.symm different)]

theorem put_writes_counts (lawful : saver.inherited.Lawful) (state : saver.State) (now later : Time)
    (config : RunnableConfig) (writes : List (String × Value)) (taskId taskPath : String)
    (counts : saver.CountsWrites state) :
    saver.CountsWrites (saver.putWrites state now later config writes taskId taskPath).1 := by
  rcases saver.put_writes_cases lawful state now later config writes taskId taskPath with
    ⟨gone, error, refused⟩ | ⟨after, gone, key, requested, rows, batch, _, reserving, accepted⟩
  · rw [refused]
    exact saver.drop_all_counts lawful state gone counts
  · simp only [accepted]
    have base := saver.drop_all_counts lawful state gone counts
    have commit := batch.commit
    have puts := lawful.put_writes_stores (saver.replay key.1 (saver.dropAll state gone).history) config writes
      taskId taskPath key.1 key.2.1 key.2.2 rows commit.threadId batch.checkpointNs commit.checkpointId
      commit.built
    refine saver.adds_counts _ after key (rows ≠ []) base
      (saver.reserve_within lawful state _ now key.1 key.2.1 key.2.2 requested reserving) ?_ ?_
        (fun threadId different => ?_)
    · rw [batch.committed.1]
      exact SaverDicts.adds_writes rows _ key
    · rw [batch.committed.2, replay_append, replayEvent, if_pos rfl, puts]
      exact SaverDicts.adds_writes rows _ key
    · rw [batch.committed.2, replay_append, replayEvent, if_neg (Ne.symm different)]

omit [DecidableEq Version] in
theorem initial_counts : saver.CountsWrites saver.initial := by
  refine ⟨fun threadId checkpointNs => ?_, fun threadId checkpoint => ?_, fun threadId => ?_⟩
  · rw [mem_known_namespaces]
    rfl
  · rw [mem_known_checkpoints]
    rfl
  · exact Nat.zero_le _

omit [DecidableEq Version] in
theorem cleared_counts (state : saver.State) : saver.CountsWrites (saver.clear state) := by
  refine ⟨fun threadId checkpointNs => ?_, fun threadId checkpoint => ?_, fun threadId => ?_⟩
  · rw [mem_known_namespaces, clear, replay_append]
    rfl
  · rw [mem_known_checkpoints, clear, replay_append]
    rfl
  · exact Nat.zero_le _

theorem operation_counts (lawful : saver.inherited.Lawful) (state : saver.State) (timed : TimedCall Value Version)
    (operation : ¬ timed.call.IsRead) (counts : saver.CountsWrites state) :
      saver.CountsWrites (saver.step state timed) := by
  rw [step, perform]
  cases called : timed.call with
  | put config checkpoint metadata versions =>
      exact saver.put_counts lawful state timed.now timed.later config checkpoint metadata versions counts
  | putWrites config writes taskId taskPath =>
      exact saver.put_writes_counts lawful state timed.now timed.later config writes taskId taskPath counts
  | deleteThread threadId =>
      simp only [deleteThread]
      cases saver.validatedIdentifier threadId "thread_id" saver.config.maxThreadIdLength false with
      | error error => exact counts
      | ok validated => exact saver.delete_thread_counts lawful state validated counts
  | purgeExpired => exact saver.drop_all_counts lawful state (saver.expiredThreads state timed.now) counts
  | clear => exact saver.cleared_counts state
  | stats => exact saver.drop_all_counts lawful state (saver.expiredThreads state timed.now) counts
  | _ =>
      rw [called] at operation
      exact (operation trivial).elim

theorem read_counts (lawful : saver.inherited.Lawful) (deltaIndexes : Bool)
    (reads : saver.inherited.ReadsByIndexing deltaIndexes) (state : saver.State) (timed : TimedCall Value Version)
    (isRead : timed.call.IsRead) (counts : saver.CountsWrites state) :
    saver.CountsWrites (saver.step state timed) ↔ saver.AsksKnown deltaIndexes state timed := by
  obtain ⟨gone, looks⟩ := saver.read_looks_up deltaIndexes reads state timed isRead
  have base := saver.drop_all_counts lawful state gone counts
  have grown := SaverDicts.knows_namespace_indexed (saver.dropAll state gone).dicts _ _ looks.dicts
  have same := SaverDicts.knows_checkpoint_indexed (saver.dropAll state gone).dicts _ _ looks.dicts
  constructor
  · intro after threadId checkpointNs target
    have known := (after.namespaces threadId checkpointNs).mp
      ((saver.mem_known_namespaces _ _ _).mpr ((grown threadId checkpointNs).mpr (Or.inl target)))
    rw [looks.history, ← base.namespaces, looks.expired (by simp [target])] at known
    exact known
  · intro known
    have namespaces (threadId checkpointNs : String) :
        checkpointNs ∈ saver.knownNamespacesLocked (saver.step state timed) threadId ↔
          checkpointNs ∈ saver.knownNamespacesLocked (saver.dropAll state gone) threadId := by
      rw [mem_known_namespaces, mem_known_namespaces, grown, ← mem_known_namespaces]
      refine or_iff_right_of_imp (fun target => ?_)
      rw [looks.expired (by simp [target])]
      exact known threadId checkpointNs target
    refine ⟨fun threadId checkpointNs => ?_, fun threadId checkpoint => ?_, fun threadId => ?_⟩
    · rw [namespaces, base.namespaces, looks.history]
    · rw [mem_known_checkpoints, same, ← mem_known_checkpoints, base.checkpoints, looks.history]
    · exact Nat.le_trans (saver.known_namespaces_le _ _ threadId
        (fun checkpointNs => (namespaces threadId checkpointNs).mp))
        (base.within threadId)

theorem step_counts (lawful : saver.inherited.Lawful) (deltaIndexes : Bool)
    (reads : saver.inherited.ReadsByIndexing deltaIndexes) (state : saver.State) (timed : TimedCall Value Version)
    (counts : saver.CountsWrites state) :
    saver.CountsWrites (saver.step state timed) ↔ saver.AsksKnown deltaIndexes state timed := by
  by_cases isRead : timed.call.IsRead
  · exact saver.read_counts lawful deltaIndexes reads state timed isRead counts
  · refine iff_of_true (saver.operation_counts lawful state timed isRead counts)
      (fun threadId checkpointNs target => ?_)
    rw [looksUp] at target
    cases called : timed.call with
    | getTuple config => exact (isRead (by rw [called]; trivial)).elim
    | getDeltaChannelHistory config channels => exact (isRead (by rw [called]; trivial)).elim
    | _ => simp [called] at target

theorem reads_consume_no_capacity (lawful : saver.inherited.Lawful) (deltaIndexes : Bool)
    (reads : saver.inherited.ReadsByIndexing deltaIndexes) (calls : List (TimedCall Value Version)) :
    (∀ timed : TimedCall Value Version, timed.call.IsRead →
      saver.expiredThreads (Transition.run saver.step saver.initial calls) timed.now = [] →
      (saver.ReadFree (Transition.run saver.step saver.initial calls)
          (saver.step (Transition.run saver.step saver.initial calls) timed) ↔
        saver.AsksKnown deltaIndexes (Transition.run saver.step saver.initial calls) timed)) ∧
    (Transition.Always saver.step saver.CountsWrites saver.initial calls ↔
      Transition.Meets saver.step (saver.AsksKnown deltaIndexes) saver.initial calls) :=
  ⟨fun timed isRead fresh => saver.read_free_iff_asks_known deltaIndexes reads _ timed isRead fresh,
    Transition.always_iff_meets saver.step (saver.AsksKnown deltaIndexes) (fun _ => True) saver.CountsWrites
      (fun _ _ _ => trivial) (fun state timed _ => saver.step_counts lawful deltaIndexes reads state timed)
      saver.initial trivial saver.initial_counts calls⟩

end BoundedInMemorySaver

-- The plain saver with the lookups of the defaultdicts: asking for a namespace adds it,
-- and so does asking for the writes of a checkpoint that is found.
namespace PlainSaver

variable {Value Version : Type} [DecidableEq Version] (plain : PlainSaver Value Version)

def indexWrites (dicts : SaverDicts Version) (key : CheckpointKey) : Dict CheckpointKey (Dict WriteIndex StoredWrite) :=
  if (dicts.checkpoint? key).isSome ∧ key ∉ dicts.writes.keys then dicts.writes.set key .empty else dicts.writes

def indexed (dicts : SaverDicts Version) (config : RunnableConfig) : SaverDicts Version :=
  match config.entry? "thread_id", (config.entry? "checkpoint_ns").getD (.str "") with
  | some (.str threadId), .str checkpointNs =>
      let checkpointId := match config.entry? "checkpoint_id" with
        | some (.str given) => some given
        | _ => latestId (dicts.checkpoints threadId checkpointNs)
      { dicts with
        storage := dicts.indexStorage (some (threadId, checkpointNs))
        writes := match checkpointId with
          | some id => indexWrites dicts (threadId, checkpointNs, id)
          | none => dicts.writes }
  | _, _ => dicts

def indexing : InheritedSaver Value Version :=
  { plain.inherited with getTuple := fun dicts config => (indexed dicts config, .ok (plain.found dicts config)) }

omit [DecidableEq Version] in
theorem index_writes_keys (dicts : SaverDicts Version) (key query : CheckpointKey) :
    (query ∈ dicts.writes.keys → query ∈ (indexWrites dicts key).keys) ∧
      (query ∈ (indexWrites dicts key).keys → query ∈ dicts.writes.keys ∨
        ∃ stored, dicts.checkpoint? query = some stored) := by
  rw [indexWrites]
  by_cases fresh : (dicts.checkpoint? key).isSome ∧ key ∉ dicts.writes.keys
  · rw [if_pos fresh, Dict.mem_keys_set]
    refine ⟨Or.inr, fun listed => ?_⟩
    rcases listed with rfl | earlier
    · exact Or.inr (Option.isSome_iff_exists.mp fresh.1)
    · exact Or.inl earlier
  · rw [if_neg fresh]
    exact ⟨fun member => member, Or.inl⟩

omit [DecidableEq Version] in
theorem index_writes_get (dicts : SaverDicts Version) (key query : CheckpointKey) :
    ((indexWrites dicts key).get? query).getD .empty = dicts.writesAt query := by
  rw [indexWrites, SaverDicts.writesAt]
  by_cases fresh : (dicts.checkpoint? key).isSome ∧ key ∉ dicts.writes.keys
  · rw [if_pos fresh, Dict.get_set]
    by_cases same : query = key
    · rw [if_pos same, same, (Dict.get_none _ _).mpr fresh.2]
      rfl
    · rw [if_neg same]
  · rw [if_neg fresh]

omit [DecidableEq Version] in
theorem indexed_indexes (dicts : SaverDicts Version) (config : RunnableConfig) (threadId checkpointNs : String)
    (thread : config.entry? "thread_id" = some (.str threadId))
    (namespaced : (config.entry? "checkpoint_ns").getD (.str "") = .str checkpointNs) :
    dicts.Indexes (indexed dicts config) (some (threadId, checkpointNs)) := by
  simp only [indexed, thread, namespaced]
  split
  · rename_i checkpointId asked
    exact ⟨rfl, fun key => (index_writes_keys dicts (threadId, checkpointNs, checkpointId) key).1,
      fun key => (index_writes_keys dicts (threadId, checkpointNs, checkpointId) key).2⟩
  · exact ⟨rfl, fun _ member => member, fun _ member => Or.inl member⟩

theorem indexed_reads (dicts : SaverDicts Version) (config : RunnableConfig) (threadId : String)
    (thread : config.entry? "thread_id" = some (.str threadId)) (present : threadId ∈ dicts.storage.keys) :
    dicts.ReadFrame (indexed dicts config) (fun _ => False) := by
  cases namespaced : (config.entry? "checkpoint_ns").getD (.str "") with
  | str checkpointNs =>
      have indexes := indexed_indexes dicts config threadId checkpointNs thread namespaced
      refine ⟨SaverDicts.checkpoint_indexed dicts _ _ indexes, fun key index => ?_, fun key => ?_,
        fun query occurs => ?_⟩
      · simp only [indexed, thread, namespaced, SaverDicts.write?, SaverDicts.writesAt]
        split
        · rename_i checkpointId asked
          rw [index_writes_get, SaverDicts.writesAt]
        · rfl
      · simp only [indexed, thread, namespaced]
        rfl
      · refine Or.inl ?_
        rcases occurs with inStorage | inBlobs | ⟨key, member, rfl⟩
        · rw [indexes.storage, SaverDicts.indexStorage, Dict.mem_keys_set] at inStorage
          rcases inStorage with rfl | earlier
          · exact Or.inl present
          · exact Or.inl earlier
        · simp only [indexed, thread, namespaced] at inBlobs
          exact Or.inr (Or.inl inBlobs)
        · rcases indexes.added key member with earlier | ⟨stored, found⟩
          · exact Or.inr (Or.inr ⟨key, earlier, rfl⟩)
          · exact SaverDicts.checkpoint_occurs dicts key stored found
  | _ =>
      simp only [indexed, thread, namespaced]
      exact SaverDicts.ReadFrame.refl dicts _

theorem indexing_lawful : plain.indexing.Lawful :=
  { plain.lawful with get_tuple_reads := indexed_reads }

theorem indexing_reads : plain.indexing.ReadsByIndexing false where
  get_tuple := indexed_indexes
  list dicts _ _ _ _ _ := dicts.indexes_nothing
  delta_history dicts _ _ _ _ _ _ := by
    simp only [Bool.false_eq_true, false_and, if_false]
    exact dicts.indexes_nothing

end PlainSaver

namespace BoundedInMemorySaver

def indexingBoundedSaver : BoundedInMemorySaver Bytes Nat :=
  { smallBoundedSaver 0 99 with inherited := smallSaver.indexing }

def readNamespace (checkpointNs : String) : SaverCall Bytes Nat :=
  .getTuple
    { configurable := .dict [("thread_id", .str "t"), ("checkpoint_ns", .str checkpointNs)], metadata :=
      .empty, tags := none, recursionLimit := none }

def storedRun : List (TimedCall Bytes Nat) := [⟨0, 0, smallPut "t" none "c1" [("x", 1)] [("x", [1, 2])] [("x", 1)]⟩]

theorem reads_consume_no_capacity_small_run :
    indexingBoundedSaver.ReadFree (Transition.run indexingBoundedSaver.step indexingBoundedSaver.initial storedRun)
        (indexingBoundedSaver.step (Transition.run indexingBoundedSaver.step indexingBoundedSaver.initial storedRun)
          ⟨1, 1, readNamespace ""⟩) ∧
      Transition.Always indexingBoundedSaver.step indexingBoundedSaver.CountsWrites
        indexingBoundedSaver.initial storedRun := by
  have general := indexingBoundedSaver.reads_consume_no_capacity smallSaver.indexing_lawful false
    smallSaver.indexing_reads storedRun
  refine ⟨(general.1 ⟨1, 1, readNamespace ""⟩ trivial (by decide +kernel)).mpr (fun threadId checkpointNs target => ?_),
    general.2.mpr ⟨fun threadId checkpointNs target => ?_, trivial⟩⟩
  · have asked : indexingBoundedSaver.looksUp false
        (Transition.run indexingBoundedSaver.step indexingBoundedSaver.initial storedRun) ⟨1, 1, readNamespace ""⟩ =
        some ("t", "") := by decide +kernel
    rw [asked] at target
    cases target
    decide +kernel
  · cases target

theorem reads_consume_namespaces :
    ¬ (∀ (calls : List (TimedCall Bytes Nat)) (timed : TimedCall Bytes Nat), timed.call.IsRead →
      indexingBoundedSaver.expiredThreads (Transition.run indexingBoundedSaver.step indexingBoundedSaver.initial calls)
        timed.now = [] →
      indexingBoundedSaver.ReadFree (Transition.run indexingBoundedSaver.step indexingBoundedSaver.initial calls)
        (indexingBoundedSaver.step (Transition.run indexingBoundedSaver.step indexingBoundedSaver.initial calls)
          timed)) := by
  intro free
  have same := (free storedRun ⟨1, 1, readNamespace "gone"⟩ trivial (by decide +kernel)).namespaces "t" "gone"
  revert same
  decide +kernel

end BoundedInMemorySaver

end LangGraphServer
