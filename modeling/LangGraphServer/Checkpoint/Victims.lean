import LangGraphServer.Checkpoint.LeastRecent

set_option autoImplicit false

namespace LangGraphServer.BoundedInMemorySaver

open Collections

variable {Value Version : Type} [DecidableEq Version] (saver : BoundedInMemorySaver Value Version)

-- An operation evicts nobody: its thread has a place, and it is refused by the limits, fits
-- the budget, or there is nobody else to evict.
def SparesThreads (state : saver.State) (threadId checkpointNs checkpointId : String) (requiredBytes : Nat) : Prop :=
  (threadId ∈ state.lastAccess.keys ∨ state.lastAccess.size < saver.config.maxThreads) ∧
    ((∃ error, saver.checkLimitsLocked state threadId checkpointNs checkpointId = .error error) ∨
      state.serializedBytes + requiredBytes ≤ saver.config.maxTotalBytes ∨
      ∀ other ∈ state.lastAccess.keys, other = threadId)

omit [DecidableEq Version] in
theorem remaining_all (state : saver.State) : (saver.remaining state []).length = state.lastAccess.size := by
  rw [remaining, List.filter_eq_self.mpr (by simp), Dict.keys_length]

theorem thread_victims (lawful : saver.inherited.Lawful) (state : saver.State) (threadId : String) :
    ∃ gone, saver.makeRoomForThreadLocked state threadId = saver.dropAll state gone ∧
      gone <+: saver.evictable threadId state ∧
      (gone = [] ↔ threadId ∈ state.lastAccess.keys ∨ state.lastAccess.size < saver.config.maxThreads) := by
  obtain ⟨gone, dropped, front, room, early⟩ := saver.make_room_for_thread_prefix lawful state threadId
  refine ⟨gone, dropped, front, fun nobody => ?_, fun roomy => ?_⟩
  · rw [nobody, saver.remaining_all] at room
    exact room
  · cases gone with
    | nil => rfl
    | cons first rest =>
        have crowded := early [] List.nil_prefix (by simp)
        rw [saver.remaining_all] at crowded
        exact absurd roomy crowded

theorem byte_victims (lawful : saver.inherited.Lawful) (state : saver.State) (requiredBytes : Nat) (threadId : String) :
    ∃ gone, (saver.makeRoomForBytesLocked state requiredBytes threadId).1 = saver.dropAll state gone ∧
      gone <+: saver.evictable threadId state ∧
      (gone = [] ↔ state.serializedBytes + requiredBytes ≤ saver.config.maxTotalBytes ∨
        ∀ other ∈ state.lastAccess.keys, other = threadId) := by
  obtain ⟨gone, roomy, evicted, _⟩ := saver.make_room_for_bytes_prefix lawful state requiredBytes threadId
  have nobody : saver.evictable threadId state = [] ↔ ∀ other ∈ state.lastAccess.keys, other = threadId := by
    rw [evictable, List.filter_eq_nil_iff]
    simp
  refine ⟨gone, evicted.dropped, evicted.front, fun none_gone => ?_, fun fits => ?_⟩
  · subst none_gone
    cases roomy with
    | true =>
        have light := evicted.finished rfl
        rw [evicted.dropped, bytesFull, decide_eq_false_iff_not, Int.not_lt] at light
        exact Or.inl light
    | false => exact Or.inr (nobody.mp (evicted.stopped rfl).1.symm)
  · rcases fits with light | alone
    · cases gone with
      | nil => rfl
      | cons first rest =>
          have crowded := evicted.early [] List.nil_prefix (by simp)
          rw [bytesFull, decide_eq_true_iff] at crowded
          exact absurd light (Int.not_le.mpr crowded)
    · have front := evicted.front
      rw [nobody.mpr alone] at front
      exact List.prefix_nil.mp front

theorem reserve_victims (lawful : saver.inherited.Lawful) (state : saver.State) (now : Time)
    (threadId checkpointNs checkpointId : String) (requiredBytes : Nat) :
    ∃ victims, (saver.reserveLocked state now threadId checkpointNs checkpointId requiredBytes).1 =
        saver.dropAll (saver.purgeExpiredLocked state now).1 victims ∧
      victims <+: saver.evictable threadId (saver.purgeExpiredLocked state now).1 ∧
      (victims = [] ↔ saver.SparesThreads (saver.purgeExpiredLocked state now).1 threadId checkpointNs checkpointId
        requiredBytes) := by
  rw [reserveLocked]
  generalize (saver.purgeExpiredLocked state now).1 = purged
  obtain ⟨crowding, roomier, front, nobody⟩ := saver.thread_victims lawful purged threadId
  rw [SparesThreads]
  cases checked : saver.checkLimitsLocked (saver.makeRoomForThreadLocked purged threadId) threadId checkpointNs
      checkpointId with
  | error error =>
      refine ⟨crowding, roomier, front, nobody.trans ⟨fun room => ⟨room, Or.inl ?_⟩, fun spares => spares.1⟩⟩
      rw [roomier, nobody.mpr room] at checked
      exact ⟨error, checked⟩
  | ok passed =>
      simp only
      rw [roomier] at checked ⊢
      obtain ⟨heavy, lighter, behind, light⟩ := saver.byte_victims lawful (saver.dropAll purged crowding)
        requiredBytes threadId
      rw [saver.drop_all_evictable lawful] at behind
      refine ⟨crowding ++ heavy, ?_, ?_, ?_⟩
      · rw [lighter, drop_all_append]
      · have order := prefix_rest (saver.evictable threadId purged) crowding
          ((Dict.keys_nodup purged.lastAccess).filter _) front
        rw [← order]
        exact (List.prefix_append_right_inj crowding).mpr behind
      · rw [List.append_eq_nil_iff]
        constructor
        · rintro ⟨rfl, rfl⟩
          exact ⟨nobody.mp rfl, Or.inr (light.mp rfl)⟩
        · rintro ⟨room, fits⟩
          obtain rfl := nobody.mpr room
          refine ⟨rfl, light.mpr (fits.resolve_left ?_)⟩
          rintro ⟨error, refused⟩
          have same : saver.dropAll purged [] = purged := rfl
          rw [same, refused] at checked
          cases checked

structure KeepsThread (state after : saver.State) (threadId : String) : Prop where
  checkpoints : ∀ key : CheckpointKey, key.1 = threadId → after.dicts.checkpoint? key = state.dicts.checkpoint? key
  blobs : ∀ key : BlobKey Version, key.1 = threadId → after.dicts.blob? key = state.dicts.blob? key
  writes : ∀ key : CheckpointKey, key.1 = threadId →
    ∀ index, after.dicts.write? key index = state.dicts.write? key index
  sizes : ∀ key : SizeKey Version, key.threadId = threadId → after.sizes.get? key = state.sizes.get? key

theorem drop_all_keeps_thread (lawful : saver.inherited.Lawful) (gone : List String) (state : saver.State)
    (threadId : String) (spared : threadId ∉ gone) : saver.KeepsThread state (saver.dropAll state gone) threadId := by
  induction gone generalizing state with
  | nil => exact ⟨fun _ _ => rfl, fun _ _ => rfl, fun _ _ _ => rfl, fun _ _ => rfl⟩
  | cons first rest ih =>
      rw [List.mem_cons, not_or] at spared
      have dropped := saver.delete_thread_drops lawful state first
      have tail := ih (saver.deleteThreadLocked state first) spared.2
      refine ⟨fun key own => ?_, fun key own => ?_, fun key own index => ?_, fun key own => ?_⟩
      · refine (tail.checkpoints key own).trans ?_
        rw [dropped.dicts, SaverDicts.checkpoint_drop, own, if_neg spared.1]
      · refine (tail.blobs key own).trans ?_
        rw [dropped.dicts, SaverDicts.blob_drop, own, if_neg spared.1]
      · refine (tail.writes key own index).trans ?_
        rw [dropped.dicts, SaverDicts.write_drop, own, if_neg spared.1]
      · refine (tail.sizes key own).trans ?_
        rw [dropped.sizes, own, if_neg spared.1]

end LangGraphServer.BoundedInMemorySaver
