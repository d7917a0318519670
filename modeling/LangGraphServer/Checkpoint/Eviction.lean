import LangGraphServer.Checkpoint.Dicts

set_option autoImplicit false

namespace LangGraphServer.BoundedInMemorySaver

open Collections

variable {Value Version : Type} [DecidableEq Version] (saver : BoundedInMemorySaver Value Version)

def Balanced (state : saver.State) : Prop := state.serializedBytes = (state.sizes.total (fun size => size) : Nat)

def dropAll (state : saver.State) (gone : List String) : saver.State := gone.foldl saver.deleteThreadLocked state

theorem drop_all_append (state : saver.State) (first second : List String) :
    saver.dropAll state (first ++ second) = saver.dropAll (saver.dropAll state first) second := by
  rw [dropAll, List.foldl_append]
  rfl

theorem drop_all_keeps (inv : saver.State → Prop)
    (keeps : ∀ state threadId, inv state → inv (saver.deleteThreadLocked state threadId))
    (state : saver.State) (initial : inv state) (gone : List String) : inv (saver.dropAll state gone) := by
  induction gone generalizing state with
  | nil => exact initial
  | cons threadId rest ih => exact ih (saver.deleteThreadLocked state threadId) (keeps state threadId initial)

theorem remove_size_balanced (state : saver.State) (key : SizeKey Version) (balanced : saver.Balanced state) :
    saver.Balanced (saver.removeSizeLocked state key) := by
  have rest := Dict.total_pop state.sizes key (fun size => size)
  simp only [Balanced, removeSizeLocked] at balanced ⊢
  cases found : state.sizes.get? key with
  | none =>
      rw [found, Option.elim_none] at rest
      rw [Option.getD_none]
      omega
  | some size =>
      rw [found, Option.elim_some] at rest
      rw [Option.getD_some]
      omega

theorem set_size_balanced (state : saver.State) (key : SizeKey Version) (size : Nat)
    (balanced : saver.Balanced state) : saver.Balanced (saver.setSizeLocked state key size) := by
  have rest := Dict.total_set state.sizes key size (fun size => size)
  simp only [Balanced, setSizeLocked] at balanced ⊢
  cases found : state.sizes.get? key with
  | none =>
      rw [found, Option.elim_none] at rest
      rw [Option.getD_none]
      omega
  | some previous =>
      rw [found, Option.elim_some] at rest
      rw [Option.getD_some]
      omega

structure SizesRemoved (state after : saver.State) (keys : List (SizeKey Version)) : Prop where
  dicts : after.dicts = state.dicts
  lastAccess : after.lastAccess = state.lastAccess
  history : after.history = state.history
  sizes : ∀ key, after.sizes.get? key = if key ∈ keys then none else state.sizes.get? key
  balanced : saver.Balanced state → saver.Balanced after

theorem remove_sizes (keys : List (SizeKey Version)) (state : saver.State) :
    saver.SizesRemoved state (keys.foldl saver.removeSizeLocked state) keys := by
  induction keys generalizing state with
  | nil => exact ⟨rfl, rfl, rfl, fun key => by simp, fun balanced => balanced⟩
  | cons removed rest ih =>
      have tail := ih (saver.removeSizeLocked state removed)
      refine ⟨tail.dicts, tail.lastAccess, tail.history, fun key => ?_, fun balanced => ?_⟩
      · have found := tail.sizes key
        rw [List.foldl_cons, found]
        simp only [removeSizeLocked, Dict.get_pop, List.mem_cons]
        by_cases later : key ∈ rest <;> by_cases now : key = removed <;> simp [later, now]
      · exact tail.balanced (saver.remove_size_balanced state removed balanced)

structure ThreadDropped (state after : saver.State) (threadId : String) : Prop where
  dicts : after.dicts = state.dicts.dropThread threadId
  lastAccess : after.lastAccess = state.lastAccess.pop threadId
  history : after.history = state.history ++ [.dropped threadId]
  sizes : ∀ key, after.sizes.get? key = if key.threadId = threadId then none else state.sizes.get? key
  balanced : saver.Balanced state → saver.Balanced after

theorem delete_thread_drops (lawful : saver.inherited.Lawful) (state : saver.State) (threadId : String) :
    saver.ThreadDropped state (saver.deleteThreadLocked state threadId) threadId := by
  have removed := saver.remove_sizes (state.sizes.keys.filter (fun key => decide (key.threadId = threadId)))
    { state with
      dicts := saver.inherited.deleteThread state.dicts threadId
      lastAccess := state.lastAccess.pop threadId
      history := state.history ++ [.dropped threadId] }
  refine ⟨?_, removed.lastAccess, removed.history, fun key => ?_, removed.balanced⟩
  · exact removed.dicts.trans (lawful.delete_thread_drops state.dicts threadId)
  · refine (removed.sizes key).trans ?_
    have listed : key ∈ state.sizes.keys.filter (fun key => decide (key.threadId = threadId)) ↔
        key ∈ state.sizes.keys ∧ key.threadId = threadId := by
      rw [List.mem_filter, decide_eq_true_iff]
    by_cases own : key.threadId = threadId
    · by_cases sized : key ∈ state.sizes.keys
      · rw [if_pos (listed.mpr ⟨sized, own⟩), if_pos own]
      · rw [if_neg (fun member => sized (listed.mp member).1), if_pos own]
        exact (Dict.get_none _ _).mpr sized
    · rw [if_neg (fun member => own (listed.mp member).2), if_neg own]

theorem drop_all_tracked (lawful : saver.inherited.Lawful) (gone : List String) (state : saver.State)
    (threadId : String) : threadId ∈ (saver.dropAll state gone).lastAccess.keys ↔
      threadId ∈ state.lastAccess.keys ∧ threadId ∉ gone := by
  induction gone generalizing state with
  | nil => simp [dropAll]
  | cons first rest ih =>
      have dropped := saver.delete_thread_drops lawful state first
      have tail := ih (saver.deleteThreadLocked state first)
      rw [dropped.lastAccess, Dict.mem_keys_pop] at tail
      rw [List.mem_cons, not_or, ← and_assoc]
      exact tail

theorem drop_all_size_le (lawful : saver.inherited.Lawful) (gone : List String) (state : saver.State) :
    (saver.dropAll state gone).lastAccess.size ≤ state.lastAccess.size := by
  induction gone generalizing state with
  | nil => exact Nat.le_refl _
  | cons first rest ih =>
      have dropped := saver.delete_thread_drops lawful state first
      have tail := ih (saver.deleteThreadLocked state first)
      rw [dropped.lastAccess] at tail
      exact Nat.le_trans tail (Dict.size_pop_le state.lastAccess first)

-- What an eviction loop does when its victims are tracked threads: it drops some of the
-- tracked threads, and it stops only when there is room or nobody is left to evict.
structure Evicted (full : saver.State → Bool) (victim : saver.State → Option String) (state after : saver.State)
    (roomy : Bool) (gone : List String) : Prop where
  dropped : after = saver.dropAll state gone
  tracked : ∀ threadId ∈ gone, threadId ∈ state.lastAccess.keys
  chosen : ∀ threadId ∈ gone, ∃ earlier, victim earlier = some threadId
  stopped : roomy = false → full after = true ∧ victim after = none
  finished : roomy = true → full after = false

theorem evict_while_spec (lawful : saver.inherited.Lawful) (full : saver.State → Bool)
    (victim : saver.State → Option String)
    (tracked : ∀ state threadId, victim state = some threadId → threadId ∈ state.lastAccess.keys)
    (rounds : Nat) (state : saver.State) (enough : state.lastAccess.size ≤ rounds) :
    ∃ gone, saver.Evicted full victim state (saver.evictWhile full victim rounds state).1
      (saver.evictWhile full victim rounds state).2 gone := by
  induction rounds generalizing state with
  | zero =>
      have nobody : victim state = none := by
        cases chosen : victim state with
        | none => rfl
        | some threadId =>
            have member := tracked state threadId chosen
            have room := Dict.size_pop state.lastAccess threadId member
            omega
      refine ⟨[], rfl, by simp, by simp, fun stuck => ?_, fun room => ?_⟩
      · exact ⟨by simpa [evictWhile] using stuck, nobody⟩
      · simpa [evictWhile] using room
  | succ rounds ih =>
      rw [evictWhile]
      cases crowded : full state with
      | false => exact ⟨[], rfl, by simp, by simp, by simp, fun _ => crowded⟩
      | true =>
          cases chosen : victim state with
          | none => exact ⟨[], rfl, by simp, by simp, fun _ => ⟨crowded, chosen⟩, by simp⟩
          | some threadId =>
              have member := tracked state threadId chosen
              have room := Dict.size_pop state.lastAccess threadId member
              have dropped := saver.delete_thread_drops lawful state threadId
              obtain ⟨gone, tail⟩ := ih (saver.deleteThreadLocked state threadId)
                (by rw [dropped.lastAccess]; omega)
              refine ⟨threadId :: gone, tail.dropped, ?_, ?_, tail.stopped, tail.finished⟩
              · intro other listed
                rcases List.mem_cons.mp listed with rfl | later
                · exact member
                · have still := tail.tracked other later
                  rw [dropped.lastAccess, Dict.mem_keys_pop] at still
                  exact still.1
              · intro other listed
                rcases List.mem_cons.mp listed with rfl | later
                · exact ⟨state, chosen⟩
                · exact tail.chosen other later

structure RoomForThread (state after : saver.State) (threadId : String) (gone : List String) : Prop where
  dropped : after = saver.dropAll state gone
  spared : threadId ∉ gone
  room : threadId ∈ after.lastAccess.keys ∨ after.lastAccess.size < saver.config.maxThreads

theorem make_room_for_thread_spec (lawful : saver.inherited.Lawful) (state : saver.State) (threadId : String) :
    ∃ gone, saver.RoomForThread state (saver.makeRoomForThreadLocked state threadId) threadId gone := by
  rw [makeRoomForThreadLocked]
  by_cases known : threadId ∈ state.lastAccess.keys
  · rw [if_pos known]
    exact ⟨[], rfl, by simp, Or.inl known⟩
  · rw [if_neg known]
    obtain ⟨gone, evicted⟩ := saver.evict_while_spec lawful
      (fun current => decide (saver.config.maxThreads ≤ current.lastAccess.size))
      (fun current => current.lastAccess.keys.head?)
      (fun _ _ first => List.mem_of_mem_head? (Option.mem_def.mpr first)) state.lastAccess.size state (Nat.le_refl _)
    refine ⟨gone, evicted.dropped, fun listed => known (evicted.tracked threadId listed), Or.inr ?_⟩
    cases roomy : (saver.evictWhile (fun current => decide (saver.config.maxThreads ≤ current.lastAccess.size))
        (fun current => current.lastAccess.keys.head?) state.lastAccess.size state).2 with
    | true => simpa using evicted.finished roomy
    | false =>
        have nobody := List.head?_eq_none_iff.mp (evicted.stopped roomy).2
        have none_left := congrArg List.length nobody
        rw [Dict.keys_length, List.length_nil] at none_left
        rw [none_left]
        exact saver.config.threadsPositive

structure RoomForBytes (state after : saver.State) (requiredBytes : Nat) (threadId : String)
    (result : Except PyError Unit) (gone : List String) : Prop where
  dropped : after = saver.dropAll state gone
  spared : threadId ∉ gone
  room : result = .ok () → after.serializedBytes + requiredBytes ≤ saver.config.maxTotalBytes

theorem make_room_for_bytes_spec (lawful : saver.inherited.Lawful) (state : saver.State) (requiredBytes : Nat)
    (threadId : String) : ∃ gone, saver.RoomForBytes state (saver.makeRoomForBytesLocked state requiredBytes threadId).1
      requiredBytes threadId (saver.makeRoomForBytesLocked state requiredBytes threadId).2 gone := by
  obtain ⟨gone, evicted⟩ := saver.evict_while_spec lawful
    (fun current => decide ((saver.config.maxTotalBytes : Int) < current.serializedBytes + requiredBytes))
    (fun current => current.lastAccess.keys.find? (fun other => decide (other ≠ threadId)))
    (fun _ _ found => List.mem_of_find?_eq_some found) state.lastAccess.size state (Nat.le_refl _)
  have spared : threadId ∉ gone := by
    intro listed
    obtain ⟨earlier, found⟩ := evicted.chosen threadId listed
    simpa using List.find?_some found
  rw [makeRoomForBytesLocked]
  generalize outcome : saver.evictWhile
    (fun current => decide ((saver.config.maxTotalBytes : Int) < current.serializedBytes + requiredBytes))
    (fun current => current.lastAccess.keys.find? (fun other => decide (other ≠ threadId)))
    state.lastAccess.size state = result at evicted ⊢
  obtain ⟨after, roomy⟩ := result
  cases roomy with
  | false => exact ⟨gone, evicted.dropped, spared, by simp⟩
  | true => exact ⟨gone, evicted.dropped, spared, fun _ => by simpa using evicted.finished rfl⟩

structure Reserved (state after : saver.State) (now : Time) (threadId : String) (requiredBytes : Nat)
    (result : Except PyError Unit) (gone : List String) : Prop where
  dropped : after = saver.dropAll state gone
  spared : threadId ∈ gone → threadId ∈ saver.expiredThreads state now
  room : result = .ok () → threadId ∈ after.lastAccess.keys ∨ after.lastAccess.size < saver.config.maxThreads
  bytes : result = .ok () → after.serializedBytes + requiredBytes ≤ saver.config.maxTotalBytes

theorem reserve_spec (lawful : saver.inherited.Lawful) (state : saver.State) (now : Time)
    (threadId checkpointNs checkpointId : String) (requiredBytes : Nat) :
    ∃ gone, saver.Reserved state (saver.reserveLocked state now threadId checkpointNs checkpointId requiredBytes).1
      now threadId requiredBytes
      (saver.reserveLocked state now threadId checkpointNs checkpointId requiredBytes).2 gone := by
  have purged : (saver.purgeExpiredLocked state now).1 = saver.dropAll state (saver.expiredThreads state now) := rfl
  obtain ⟨crowding, roomForThread⟩ := saver.make_room_for_thread_spec lawful
    (saver.purgeExpiredLocked state now).1 threadId
  obtain ⟨heavy, roomForBytes⟩ := saver.make_room_for_bytes_spec lawful
    (saver.makeRoomForThreadLocked (saver.purgeExpiredLocked state now).1 threadId) requiredBytes threadId
  rw [reserveLocked]
  cases checked : saver.checkLimitsLocked
    (saver.makeRoomForThreadLocked (saver.purgeExpiredLocked state now).1 threadId)
      threadId checkpointNs checkpointId with
  | error error =>
      refine ⟨saver.expiredThreads state now ++ crowding, ?_, ?_, by simp, by simp⟩
      · rw [drop_all_append, ← purged]
        exact roomForThread.dropped
      · intro listed
        exact (List.mem_append.mp listed).resolve_right roomForThread.spared
  | ok checked =>
      refine ⟨saver.expiredThreads state now ++ crowding ++ heavy, ?_, ?_, ?_, roomForBytes.room⟩
      · rw [drop_all_append, drop_all_append, ← purged, ← roomForThread.dropped]
        exact roomForBytes.dropped
      · intro listed
        rcases List.mem_append.mp listed with earlier | late
        · exact (List.mem_append.mp earlier).resolve_right roomForThread.spared
        · exact absurd late roomForBytes.spared
      · intro _
        rw [roomForBytes.dropped]
        rcases roomForThread.room with known | few
        · exact Or.inl ((saver.drop_all_tracked lawful heavy _ threadId).mpr ⟨known, roomForBytes.spared⟩)
        · exact Or.inr (Nat.lt_of_le_of_lt (saver.drop_all_size_le lawful heavy _) few)

end LangGraphServer.BoundedInMemorySaver
