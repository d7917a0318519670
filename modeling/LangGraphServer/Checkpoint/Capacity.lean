import LangGraphServer.Checkpoint.LeastRecent

set_option autoImplicit false

namespace LangGraphServer

open Collections

-- `CheckpointCapacityError` is a class of this repository: the inherited saver cannot raise it.
structure InheritedSaver.NeverOutOfCapacity {Value Version : Type} (saver : InheritedSaver Value Version) : Prop where
  put : ∀ dicts config checkpoint metadata versions message,
    (saver.put dicts config checkpoint metadata versions).2 ≠ .error (.capacityError message)
  putWrites : ∀ dicts config writes taskId taskPath message,
    (saver.putWrites dicts config writes taskId taskPath).2 ≠ .error (.capacityError message)

def RaisesCapacity {α : Type} (answer : Except PyError α) : Prop := ∃ message, answer = .error (.capacityError message)

theorem raises_capacity_error {α : Type} (error : PyError) :
    RaisesCapacity (.error error : Except PyError α) ↔ ∃ message, error = .capacityError message := by
  simp [RaisesCapacity]

theorem raises_capacity_ok {α : Type} (value : α) : ¬ RaisesCapacity (.ok value : Except PyError α) := by
  simp [RaisesCapacity]

namespace BoundedInMemorySaver

variable {Value Version : Type} [DecidableEq Version] (saver : BoundedInMemorySaver Value Version)

def ownBytes (state : saver.State) (threadId : String) : Nat :=
  (state.sizes.restrict (fun key => decide (key.threadId = threadId))).total (fun size => size)

-- Why an operation of a thread is over a limit, after the expired threads are purged.
inductive OverLimit (perOperation : Nat) (purged : saver.State) (threadId checkpointNs checkpointId : String)
    (requiredBytes : Nat) : Prop where
  | operation : perOperation < requiredBytes → OverLimit perOperation purged threadId checkpointNs
    checkpointId requiredBytes
  | namespaces : checkpointNs ∉ saver.knownNamespacesLocked purged threadId →
      saver.config.maxNamespacesPerThread ≤ (saver.knownNamespacesLocked purged threadId).length →
      OverLimit perOperation purged threadId checkpointNs checkpointId requiredBytes
  | checkpoints : (checkpointNs, checkpointId) ∉ saver.knownCheckpointsLocked purged threadId →
      saver.config.maxCheckpointsPerThread ≤ (saver.knownCheckpointsLocked purged threadId).length →
      OverLimit perOperation purged threadId checkpointNs checkpointId requiredBytes
  | bytes : saver.config.maxTotalBytes < saver.ownBytes purged threadId + requiredBytes →
      OverLimit perOperation purged threadId checkpointNs checkpointId requiredBytes

theorem known_delete_other (lawful : saver.inherited.Lawful) (state : saver.State) (threadId other : String)
    (different : threadId ≠ other) :
    saver.knownNamespacesLocked (saver.deleteThreadLocked state other) threadId =
        saver.knownNamespacesLocked state threadId ∧
      saver.knownCheckpointsLocked (saver.deleteThreadLocked state other) threadId =
        saver.knownCheckpointsLocked state threadId := by
  have dicts := (saver.delete_thread_drops lawful state other).dicts
  have stored : (saver.deleteThreadLocked state other).dicts.namespaces threadId = state.dicts.namespaces threadId := by
    rw [dicts, SaverDicts.namespaces, SaverDicts.dropThread, Dict.get_pop, if_neg different, SaverDicts.namespaces]
  have written : (saver.deleteThreadLocked state other).dicts.writes.keys.filter
    (fun key => decide (key.1 = threadId)) =
      state.dicts.writes.keys.filter (fun key => decide (key.1 = threadId)) := by
    rw [dicts, SaverDicts.dropThread, Dict.keys_restrict, List.filter_filter]
    apply List.filter_congr
    intro key _
    by_cases same : key.1 = threadId
    · simp [same, different]
    · simp [same]
  simp only [knownNamespacesLocked, knownCheckpointsLocked, stored, written, and_self]

theorem known_drop_others (lawful : saver.inherited.Lawful) (gone : List String) (state : saver.State)
    (threadId : String) (spared : threadId ∉ gone) :
    saver.knownNamespacesLocked (saver.dropAll state gone) threadId = saver.knownNamespacesLocked state threadId ∧
      saver.knownCheckpointsLocked (saver.dropAll state gone) threadId =
        saver.knownCheckpointsLocked state threadId := by
  induction gone generalizing state with
  | nil => exact ⟨rfl, rfl⟩
  | cons first rest ih =>
      rw [List.mem_cons, not_or] at spared
      obtain ⟨namespaces, checkpoints⟩ := saver.known_delete_other lawful state threadId first spared.1
      obtain ⟨laterNamespaces, laterCheckpoints⟩ := ih (saver.deleteThreadLocked state first) spared.2
      exact ⟨laterNamespaces.trans namespaces, laterCheckpoints.trans checkpoints⟩

theorem own_le_remaining (state : saver.State) (threadId : String) (gone : List String) (spared : threadId ∉ gone) :
    saver.ownBytes state threadId ≤ saver.remainingBytes state gone := by
  have inside := Dict.total_restrict_le (state.sizes.restrict (fun key => decide (key.threadId ∉ gone)))
    (fun key => decide (key.threadId = threadId)) (fun size => size)
  refine Nat.le_trans (Nat.le_of_eq ?_) inside
  apply Dict.total_congr
  intro key
  rw [Dict.get_restrict, Dict.get_restrict, Dict.get_restrict]
  by_cases own : key.threadId = threadId <;> simp [own, spared]

theorem remaining_alone (state : saver.State) (threadId : String) (gone : List String)
    (accounted : saver.Accounted state)
    (spared : threadId ∉ gone) (others : ∀ other ∈ state.lastAccess.keys, other ≠ threadId → other ∈ gone) :
    saver.remainingBytes state gone = saver.ownBytes state threadId := by
  apply Dict.total_congr
  intro key
  rw [Dict.get_restrict, Dict.get_restrict]
  by_cases own : key.threadId = threadId
  · simp [own, spared]
  · cases booked : state.sizes.get? key with
    | none => simp
    | some size =>
        have tracked := accounted.sized key ((Dict.mem_keys _ _).mpr ⟨size, booked⟩)
        simp [own, others key.threadId tracked own]

theorem reserve_refuses (lawful : saver.inherited.Lawful) (state : saver.State) (now : Time)
    (threadId checkpointNs checkpointId : String) (perOperation requiredBytes : Nat) (accounted : saver.Accounted state)
    (within : requiredBytes ≤ perOperation) :
    (RaisesCapacity (saver.reserveLocked state now threadId checkpointNs checkpointId requiredBytes).2 ↔
      saver.OverLimit perOperation (saver.purgeExpiredLocked state now).1 threadId checkpointNs checkpointId
        requiredBytes) ∧
    (¬ RaisesCapacity (saver.reserveLocked state now threadId checkpointNs checkpointId requiredBytes).2 →
      (saver.reserveLocked state now threadId checkpointNs checkpointId requiredBytes).2 = .ok ()) := by
  have counted : saver.Accounted (saver.purgeExpiredLocked state now).1 :=
    saver.drop_all_accounted lawful state (saver.expiredThreads state now) accounted
  simp only [reserveLocked]
  generalize (saver.purgeExpiredLocked state now).1 = purged at counted ⊢
  obtain ⟨crowding, roomier, front, _⟩ := saver.make_room_for_thread_prefix lawful purged threadId
  obtain ⟨heavy, roomy, evicted, outcome⟩ := saver.make_room_for_bytes_prefix lawful
    (saver.makeRoomForThreadLocked purged threadId) requiredBytes threadId
  have sparedFirst : threadId ∉ crowding := fun listed => by
    simpa [evictable] using front.subset listed
  have sparedSecond : threadId ∉ heavy := fun listed => by
    simpa [evictable] using evicted.front.subset listed
  have spared : threadId ∉ crowding ++ heavy := by simp [sparedFirst, sparedSecond]
  obtain ⟨namespaces, checkpoints⟩ := saver.known_drop_others lawful crowding purged threadId sparedFirst
  have bytes : (saver.makeRoomForBytesLocked (saver.makeRoomForThreadLocked purged threadId) requiredBytes
      threadId).1.serializedBytes = saver.remainingBytes purged (crowding ++ heavy) := by
    rw [evicted.dropped, roomier, ← drop_all_append, saver.drop_all_bytes lawful _ purged counted]
  simp only [checkLimitsLocked]
  rw [roomier, namespaces, checkpoints, ← roomier]
  by_cases manyNamespaces : checkpointNs ∉ saver.knownNamespacesLocked purged threadId ∧
      saver.config.maxNamespacesPerThread ≤ (saver.knownNamespacesLocked purged threadId).length
  · rw [if_pos manyNamespaces]
    exact ⟨⟨fun _ => .namespaces manyNamespaces.1 manyNamespaces.2, fun _ => ⟨_, rfl⟩⟩,
      fun fine => (fine ⟨_, rfl⟩).elim⟩
  · rw [if_neg manyNamespaces]
    by_cases manyCheckpoints : (checkpointNs, checkpointId) ∉ saver.knownCheckpointsLocked purged threadId ∧
        saver.config.maxCheckpointsPerThread ≤ (saver.knownCheckpointsLocked purged threadId).length
    · rw [if_pos manyCheckpoints]
      exact ⟨⟨fun _ => .checkpoints manyCheckpoints.1 manyCheckpoints.2, fun _ => ⟨_, rfl⟩⟩,
        fun fine => (fine ⟨_, rfl⟩).elim⟩
    · rw [if_neg manyCheckpoints]
      simp only
      rw [outcome]
      cases roomy with
      | true =>
          have light := evicted.finished rfl
          rw [bytesFull, decide_eq_false_iff_not, bytes] at light
          have less := saver.own_le_remaining purged threadId (crowding ++ heavy) spared
          refine ⟨⟨fun raised => (raises_capacity_ok () raised).elim, fun beyond => ?_⟩, fun _ => rfl⟩
          cases beyond with
          | operation large => omega
          | namespaces fresh full => exact (manyNamespaces ⟨fresh, full⟩).elim
          | checkpoints fresh full => exact (manyCheckpoints ⟨fresh, full⟩).elim
          | bytes large => omega
      | false =>
          obtain ⟨all, crowded⟩ := evicted.stopped rfl
          rw [bytesFull, decide_eq_true_iff, bytes] at crowded
          have alone := saver.remaining_alone purged threadId (crowding ++ heavy) counted spared
            (fun other tracked different => by
            rw [all, roomier, saver.drop_all_evictable lawful, List.mem_append, List.mem_filter]
            by_cases early : other ∈ crowding
            · exact Or.inl early
            · exact Or.inr ⟨List.mem_filter.mpr ⟨tracked, by simpa using different⟩, by simpa using early⟩)
          rw [alone] at crowded
          exact ⟨⟨fun _ => .bytes (by omega), fun _ => ⟨_, rfl⟩⟩, fun fine => (fine ⟨_, rfl⟩).elim⟩

omit [DecidableEq Version] in
theorem prepare_checkpoint_sized (config : RunnableConfig) (checkpoint : Checkpoint Value Version) (metadata : Metadata)
    (versions : ChannelVersions Version) (threadId checkpointNs checkpointId : String) (rawId : PyObj)
    (requiredBytes : Nat)
    (located : saver.validatedLocation config = .ok (threadId, checkpointNs)) (identified : checkpoint.id = some rawId)
    (valid : saver.validatedIdentifier rawId "checkpoint_id" saver.config.maxThreadIdLength false = .ok checkpointId)
    (estimate : saver.estimateCheckpointSize config checkpoint metadata versions = .ok requiredBytes) :
    saver.prepareCheckpoint config checkpoint metadata versions =
      if saver.config.maxCheckpointBytes < requiredBytes then
        .error (.capacityError "checkpoint exceeds max_checkpoint_bytes")
      else .ok ((threadId, checkpointNs, checkpointId), requiredBytes) := by
  simp only [prepareCheckpoint, bind, Except.bind, located, identified, valid, estimate]
  split <;> rfl

omit [DecidableEq Version] in
theorem prepare_writes_sized (config : RunnableConfig) (writes : List (String × Value)) (taskId taskPath : String)
    (threadId checkpointNs checkpointId taskText : String) (batch : Nat)
    (located : saver.validatedLocation config = .ok (threadId, checkpointNs))
    (valid : saver.validatedIdentifier ((config.entry? "checkpoint_id").getD .none) "checkpoint_id"
      saver.config.maxThreadIdLength false = .ok checkpointId)
    (task : saver.validatedIdentifier (.str taskId) "task_id" saver.config.maxThreadIdLength false = .ok taskText)
    (sized : saver.batchSize writes = .ok batch) :
    saver.prepareWrites config writes taskId taskPath =
      if saver.config.maxPendingWriteBytes < batch + encodedLength taskId + encodedLength taskPath then
        .error (.capacityError "pending writes exceed max_pending_write_bytes")
      else .ok ((threadId, checkpointNs, checkpointId), batch + encodedLength taskId + encodedLength taskPath) := by
  simp only [prepareWrites, bind, Except.bind, located, valid, task, sized]
  split <;> rfl

theorem put_refuses (lawful : saver.inherited.Lawful) (roomy : saver.inherited.NeverOutOfCapacity) (state : saver.State)
    (now later : Time) (config : RunnableConfig) (checkpoint : Checkpoint Value Version) (metadata : Metadata)
    (versions : ChannelVersions Version) (threadId checkpointNs checkpointId : String) (rawId : PyObj)
    (requiredBytes : Nat)
    (accounted : saver.Accounted state)
    (located : saver.validatedLocation config = .ok (threadId, checkpointNs)) (identified : checkpoint.id = some rawId)
    (valid : saver.validatedIdentifier rawId "checkpoint_id" saver.config.maxThreadIdLength false = .ok checkpointId)
    (estimate : saver.estimateCheckpointSize config checkpoint metadata versions = .ok requiredBytes) :
    (RaisesCapacity (saver.put state now later config checkpoint metadata versions).2 ↔
      saver.OverLimit saver.config.maxCheckpointBytes (saver.purgeExpiredLocked state now).1 threadId checkpointNs
        checkpointId requiredBytes) ∧
    (¬ RaisesCapacity (saver.put state now later config checkpoint metadata versions).2 →
      config.entry? "checkpoint_ns" ≠ none → checkpoint.channelValues ≠ none →
      (saver.put state now later config checkpoint metadata versions).2 =
        .ok (checkpointLocation threadId checkpointNs checkpointId)) := by
  have checked := saver.prepare_checkpoint_sized config checkpoint metadata versions threadId checkpointNs checkpointId
    rawId requiredBytes located identified valid estimate
  by_cases large : saver.config.maxCheckpointBytes < requiredBytes
  · rw [if_pos large] at checked
    have refused : (saver.put state now later config checkpoint metadata versions).2 =
        .error (.capacityError "checkpoint exceeds max_checkpoint_bytes") := by rw [put, checked]
    rw [refused]
    exact ⟨⟨fun _ => .operation large, fun _ => ⟨_, rfl⟩⟩, fun fine => (fine ⟨_, rfl⟩).elim⟩
  · rw [if_neg large] at checked
    obtain ⟨gone, reserved⟩ := saver.reserve_spec lawful state now threadId checkpointNs checkpointId requiredBytes
    obtain ⟨refuses, passes⟩ := saver.reserve_refuses lawful state now threadId checkpointNs checkpointId
      saver.config.maxCheckpointBytes requiredBytes accounted (Nat.le_of_not_lt large)
    rw [← refuses]
    cases reserving : saver.reserveLocked state now threadId checkpointNs checkpointId requiredBytes with
    | mk reached outcome =>
        rw [reserving] at reserved passes
        obtain rfl : reached = saver.dropAll state gone := reserved.dropped
        cases outcome with
        | error error =>
            have refused : (saver.put state now later config checkpoint metadata versions).2 = .error error := by
              rw [put, checked]
              simp only [reserving]
            simp only [refused, raises_capacity_error] at passes ⊢
            refine ⟨trivial, fun fine => ?_⟩
            cases passes fine
        | ok done =>
            refine ⟨⟨fun raised => ?_, fun raised => (raises_capacity_ok () raised).elim⟩, fun _ namespaced given => ?_⟩
            · obtain ⟨message, raised⟩ := raised
              rw [put, checked] at raised
              simp only [reserving] at raised
              have own := roomy.put (saver.dropAll state gone).dicts config checkpoint metadata versions message
              split at raised
              · rename_i failed
                rw [failed] at own
                exact (own raised).elim
              · split at raised
                · rename_i failed
                  rw [recordCheckpointSizesLocked] at failed
                  split at failed
                  · cases failed
                    cases raised
                  · cases failed
                · cases raised
            · obtain ⟨values, filled⟩ := Option.ne_none_iff_exists'.mp given
              obtain ⟨after, stored, blobs, _, accepted⟩ := saver.put_reserved lawful state now later config checkpoint
                metadata versions gone (threadId, checkpointNs, checkpointId) requiredBytes values checked reserving
                reserved namespaced filled
              rw [accepted]

theorem put_writes_refuses (lawful : saver.inherited.Lawful) (roomy : saver.inherited.NeverOutOfCapacity)
    (state : saver.State) (now later : Time) (config : RunnableConfig) (writes : List (String × Value))
    (taskId taskPath : String) (threadId checkpointNs checkpointId taskText : String) (batch : Nat)
    (accounted : saver.Accounted state)
    (located : saver.validatedLocation config = .ok (threadId, checkpointNs))
    (valid : saver.validatedIdentifier ((config.entry? "checkpoint_id").getD .none) "checkpoint_id"
      saver.config.maxThreadIdLength false = .ok checkpointId)
    (task : saver.validatedIdentifier (.str taskId) "task_id" saver.config.maxThreadIdLength false = .ok taskText)
    (sized : saver.batchSize writes = .ok batch) :
    (RaisesCapacity (saver.putWrites state now later config writes taskId taskPath).2 ↔
      saver.OverLimit saver.config.maxPendingWriteBytes (saver.purgeExpiredLocked state now).1 threadId checkpointNs
        checkpointId (batch + encodedLength taskId + encodedLength taskPath)) ∧
    (¬ RaisesCapacity (saver.putWrites state now later config writes taskId taskPath).2 →
      config.entry? "checkpoint_ns" ≠ none → (saver.putWrites state now later config writes taskId taskPath).2 =
        .ok ()) := by
  have checked := saver.prepare_writes_sized config writes taskId taskPath threadId checkpointNs
    checkpointId taskText batch located valid task sized
  generalize batch + encodedLength taskId + encodedLength taskPath = requested at checked ⊢
  by_cases large : saver.config.maxPendingWriteBytes < requested
  · rw [if_pos large] at checked
    have refused : (saver.putWrites state now later config writes taskId taskPath).2 =
        .error (.capacityError "pending writes exceed max_pending_write_bytes") := by rw [putWrites, checked]
    rw [refused]
    exact ⟨⟨fun _ => .operation large, fun _ => ⟨_, rfl⟩⟩, fun fine => (fine ⟨_, rfl⟩).elim⟩
  · rw [if_neg large] at checked
    obtain ⟨gone, reserved⟩ := saver.reserve_spec lawful state now threadId checkpointNs checkpointId requested
    obtain ⟨refuses, passes⟩ := saver.reserve_refuses lawful state now threadId checkpointNs checkpointId
      saver.config.maxPendingWriteBytes requested accounted (Nat.le_of_not_lt large)
    rw [← refuses]
    cases reserving : saver.reserveLocked state now threadId checkpointNs checkpointId requested with
    | mk reached outcome =>
        rw [reserving] at reserved passes
        obtain rfl : reached = saver.dropAll state gone := reserved.dropped
        cases outcome with
        | error error =>
            have refused : (saver.putWrites state now later config writes taskId taskPath).2 = .error error := by
              rw [putWrites, checked]
              simp only [reserving]
            simp only [refused, raises_capacity_error] at passes ⊢
            refine ⟨trivial, fun fine => ?_⟩
            cases passes fine
        | ok done =>
            refine ⟨⟨fun raised => ?_, fun raised => (raises_capacity_ok () raised).elim⟩, fun _ namespaced => ?_⟩
            · obtain ⟨message, raised⟩ := raised
              rw [putWrites, checked] at raised
              simp only [reserving] at raised
              have own := roomy.putWrites (saver.dropAll state gone).dicts config writes taskId taskPath message
              split at raised
              · rename_i failed
                rw [failed] at own
                exact (own raised).elim
              · cases raised
            · obtain ⟨after, rows, _, accepted⟩ := saver.put_writes_reserved lawful state now later config writes taskId
                taskPath gone (threadId, checkpointNs, checkpointId) requested checked reserving reserved namespaced
              rw [accepted]

theorem over_limit_others (lawful : saver.inherited.Lawful) (perOperation : Nat) (purged : saver.State)
    (threadId checkpointNs checkpointId : String) (requiredBytes : Nat) (gone : List String)
    (spared : threadId ∉ gone) :
    saver.OverLimit perOperation (saver.dropAll purged gone) threadId checkpointNs checkpointId requiredBytes ↔
      saver.OverLimit perOperation purged threadId checkpointNs checkpointId requiredBytes := by
  obtain ⟨namespaces, checkpoints⟩ := saver.known_drop_others lawful gone purged threadId spared
  have bytes : saver.ownBytes (saver.dropAll purged gone) threadId = saver.ownBytes purged threadId := by
    apply Dict.total_congr
    intro key
    rw [Dict.get_restrict, Dict.get_restrict, saver.drop_all_sizes lawful]
    by_cases own : key.threadId = threadId <;> simp [own, spared]
  constructor
  · intro beyond
    cases beyond with
    | operation large => exact .operation large
    | namespaces fresh full => exact .namespaces (namespaces ▸ fresh) (namespaces ▸ full)
    | checkpoints fresh full => exact .checkpoints (checkpoints ▸ fresh) (checkpoints ▸ full)
    | bytes large => exact .bytes (bytes ▸ large)
  · intro beyond
    cases beyond with
    | operation large => exact .operation large
    | namespaces fresh full => exact .namespaces (namespaces.symm ▸ fresh) (namespaces.symm ▸ full)
    | checkpoints fresh full => exact .checkpoints (checkpoints.symm ▸ fresh) (checkpoints.symm ▸ full)
    | bytes large => exact .bytes (bytes.symm ▸ large)

theorem over_limit_fresh (perOperation : Nat) (purged : saver.State) (threadId checkpointNs checkpointId : String)
    (requiredBytes : Nat) (accounted : saver.Accounted purged) (fresh : ¬ purged.dicts.Occurs threadId)
    (total : perOperation ≤ saver.config.maxTotalBytes) :
    saver.OverLimit perOperation purged threadId checkpointNs checkpointId requiredBytes ↔
      perOperation < requiredBytes := by
  have stored : purged.dicts.namespaces threadId = .empty := by
    rw [SaverDicts.namespaces, (Dict.get_none _ _).mpr (fun member => fresh (Or.inl member)), Option.getD_none]
  have written : purged.dicts.writes.keys.filter (fun key => decide (key.1 = threadId)) = [] := by
    rw [List.filter_eq_nil_iff]
    intro key member own
    exact fresh (Or.inr (Or.inr ⟨key, member, of_decide_eq_true own⟩))
  have namespaces : saver.knownNamespacesLocked purged threadId = [] := by
    simp [knownNamespacesLocked, stored, written]
  have checkpoints : saver.knownCheckpointsLocked purged threadId = [] := by
    simp [knownCheckpointsLocked, stored, written, Dict.empty]
  have bytes : saver.ownBytes purged threadId = (Dict.empty : Dict (SizeKey Version) Nat).total (fun size => size) := by
    apply Dict.total_congr
    intro key
    rw [Dict.get_restrict, Dict.get_empty]
    by_cases own : key.threadId = threadId
    · cases booked : purged.sizes.get? key with
      | none => simp
      | some size =>
          have occurs := purged.dicts.item_occurs key size ((accounted.sizes key).symm.trans booked)
          exact (fresh (own ▸ occurs)).elim
    · simp [own]
  refine ⟨fun beyond => ?_, .operation⟩
  cases beyond with
  | operation large => exact large
  | namespaces _ full =>
      have positive := saver.config.namespacesPositive
      rw [namespaces, List.length_nil] at full
      omega
  | checkpoints _ full =>
      have positive := saver.config.checkpointsPositive
      rw [checkpoints, List.length_nil] at full
      omega
  | bytes large =>
      have none_own : (Dict.empty : Dict (SizeKey Version) Nat).total (fun size => size) = 0 := rfl
      omega

structure CapacityIsOwnFault (state : saver.State) : Prop where
  put : ∀ now later config checkpoint metadata versions threadId checkpointNs checkpointId rawId requiredBytes,
    saver.validatedLocation config = .ok (threadId, checkpointNs) → checkpoint.id = some rawId →
    saver.validatedIdentifier rawId "checkpoint_id" saver.config.maxThreadIdLength false = .ok checkpointId →
    saver.estimateCheckpointSize config checkpoint metadata versions = .ok requiredBytes →
    (RaisesCapacity (saver.put state now later config checkpoint metadata versions).2 ↔
      saver.OverLimit saver.config.maxCheckpointBytes (saver.purgeExpiredLocked state now).1 threadId checkpointNs
        checkpointId requiredBytes) ∧
    (¬ (saver.purgeExpiredLocked state now).1.dicts.Occurs threadId → requiredBytes ≤ saver.config.maxCheckpointBytes →
      ¬ RaisesCapacity (saver.put state now later config checkpoint metadata versions).2 ∧
      (config.entry? "checkpoint_ns" ≠ none → checkpoint.channelValues ≠ none →
        (saver.put state now later config checkpoint metadata versions).2 =
          .ok (checkpointLocation threadId checkpointNs checkpointId)))
  putWrites : ∀ now later config writes taskId taskPath threadId checkpointNs checkpointId taskText batch,
    saver.validatedLocation config = .ok (threadId, checkpointNs) →
    saver.validatedIdentifier ((config.entry? "checkpoint_id").getD .none) "checkpoint_id"
      saver.config.maxThreadIdLength false = .ok checkpointId →
    saver.validatedIdentifier (.str taskId) "task_id" saver.config.maxThreadIdLength false = .ok taskText →
    saver.batchSize writes = .ok batch →
    (RaisesCapacity (saver.putWrites state now later config writes taskId taskPath).2 ↔
      saver.OverLimit saver.config.maxPendingWriteBytes (saver.purgeExpiredLocked state now).1 threadId checkpointNs
        checkpointId (batch + encodedLength taskId + encodedLength taskPath)) ∧
    (¬ (saver.purgeExpiredLocked state now).1.dicts.Occurs threadId →
      batch + encodedLength taskId + encodedLength taskPath ≤ saver.config.maxPendingWriteBytes →
      ¬ RaisesCapacity (saver.putWrites state now later config writes taskId taskPath).2 ∧
      (config.entry? "checkpoint_ns" ≠ none → (saver.putWrites state now later config writes taskId taskPath).2 =
        .ok ()))
  others : ∀ now perOperation threadId checkpointNs checkpointId requiredBytes gone, threadId ∉ gone →
    (saver.OverLimit perOperation (saver.dropAll (saver.purgeExpiredLocked state now).1 gone) threadId checkpointNs
        checkpointId requiredBytes ↔
      saver.OverLimit perOperation (saver.purgeExpiredLocked state now).1 threadId checkpointNs
        checkpointId requiredBytes)

theorem capacity_errors_are_own_fault (lawful : saver.inherited.Lawful) (roomy : saver.inherited.NeverOutOfCapacity)
    (calls : List (TimedCall Value Version)) :
    saver.CapacityIsOwnFault (Transition.run saver.step saver.initial calls) := by
  have accounted := Transition.run_keeps saver.step saver.Accounted (saver.step_accounted lawful) saver.initial
    saver.initial_accounted calls
  generalize Transition.run saver.step saver.initial calls = state at accounted
  constructor
  · intro now later config checkpoint metadata versions threadId checkpointNs checkpointId rawId requiredBytes located
      identified valid estimate
    obtain ⟨refuses, accepts⟩ := saver.put_refuses lawful roomy state now later config checkpoint metadata versions
      threadId checkpointNs checkpointId rawId requiredBytes accounted located identified valid estimate
    refine ⟨refuses, fun fresh within => ?_⟩
    have purged : saver.Accounted (saver.purgeExpiredLocked state now).1 :=
      saver.drop_all_accounted lawful state (saver.expiredThreads state now) accounted
    have fine : ¬ RaisesCapacity (saver.put state now later config checkpoint metadata versions).2 := by
      rw [refuses, saver.over_limit_fresh _ _ threadId checkpointNs checkpointId requiredBytes purged fresh
        saver.config.checkpointWithinTotal]
      exact Nat.not_lt_of_le within
    exact ⟨fine, accepts fine⟩
  · intro now later config writes taskId taskPath threadId checkpointNs checkpointId taskText batch located
      valid task sized
    obtain ⟨refuses, accepts⟩ := saver.put_writes_refuses lawful roomy state now later config writes taskId taskPath
      threadId checkpointNs checkpointId taskText batch accounted located valid task sized
    refine ⟨refuses, fun fresh within => ?_⟩
    have purged : saver.Accounted (saver.purgeExpiredLocked state now).1 :=
      saver.drop_all_accounted lawful state (saver.expiredThreads state now) accounted
    have fine : ¬ RaisesCapacity (saver.putWrites state now later config writes taskId taskPath).2 := by
      rw [refuses, saver.over_limit_fresh _ _ threadId checkpointNs checkpointId _ purged fresh
        saver.config.pendingWriteWithinTotal]
      exact Nat.not_lt_of_le within
    exact ⟨fine, accepts fine⟩
  · intro now perOperation threadId checkpointNs checkpointId requiredBytes gone spared
    exact saver.over_limit_others lawful perOperation _ threadId checkpointNs checkpointId requiredBytes gone spared

theorem small_never_out_of_capacity : smallSaver.inherited.NeverOutOfCapacity := by
  constructor
  · intro dicts config checkpoint metadata versions message
    simp only [PlainSaver.inherited, PlainSaver.put]
    split
    · split <;> simp
    · simp
  · intro dicts config writes taskId taskPath message
    simp only [PlainSaver.inherited, PlainSaver.putWrites]
    split <;> simp

theorem capacity_errors_are_own_fault_small_run :
    (smallBoundedSaver 0 99).CapacityIsOwnFault
      (Transition.run (smallBoundedSaver 0 99).step (smallBoundedSaver 0 99).initial smallRun) :=
  (smallBoundedSaver 0 99).capacity_errors_are_own_fault smallSaver.lawful small_never_out_of_capacity smallRun

end BoundedInMemorySaver

end LangGraphServer
