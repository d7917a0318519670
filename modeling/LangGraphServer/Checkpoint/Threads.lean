import LangGraphServer.Checkpoint.Accounting
import LangGraphServer.Checkpoint.Reference

set_option autoImplicit false

namespace LangGraphServer.BoundedInMemorySaver

open Collections

variable {Value Version : Type} (saver : BoundedInMemorySaver Value Version)

theorem touched_size (state : saver.State) (threadId : String) (now : Time) :
    (saver.touchLocked state threadId now).lastAccess.size =
      if threadId ∈ state.lastAccess.keys then state.lastAccess.size else state.lastAccess.size + 1 := by
  rw [touchLocked, Dict.size_set, if_neg (fun member => ((Dict.mem_keys_pop _ _ _).mp member).2 rfl)]
  by_cases known : threadId ∈ state.lastAccess.keys
  · rw [if_pos known, Dict.size_pop _ _ known]
  · rw [if_neg known, Dict.size_pop_absent _ _ known]

theorem touched_size_le (state : saver.State) (threadId : String) (now : Time) (limit : Nat)
    (within : state.lastAccess.size ≤ limit)
    (room : threadId ∈ state.lastAccess.keys ∨ state.lastAccess.size < limit) :
    (saver.touchLocked state threadId now).lastAccess.size ≤ limit := by
  rw [touched_size]
  by_cases known : threadId ∈ state.lastAccess.keys
  · rwa [if_pos known]
  · rw [if_neg known]
    exact room.resolve_left known

variable [DecidableEq Version]

theorem booked_size_le (state : saver.State) (keys : List (SizeKey Version)) (threadId : String) (now : Time)
    (limit : Nat) (within : state.lastAccess.size ≤ limit)
    (room : threadId ∈ state.lastAccess.keys ∨ state.lastAccess.size < limit) :
    (saver.touchLocked (saver.recordAll state keys) threadId now).lastAccess.size ≤ limit := by
  have same := (saver.record_all_spec keys state).lastAccess
  rw [← same] at within room
  exact saver.touched_size_le (saver.recordAll state keys) threadId now limit within room

def Holds (state : saver.State) (threadId : String) : Prop :=
  ∃ key size, state.dicts.itemSize? key = some size ∧ key.threadId = threadId

structure ThreadsBounded (state : saver.State) : Prop where
  tracked : state.lastAccess.size ≤ saver.config.maxThreads
  holding : ∀ holders : List String, holders.Nodup → (∀ threadId ∈ holders, saver.Holds state threadId) →
    holders.length ≤ saver.config.maxThreads

theorem threads_bounded_of (state : saver.State) (accounted : saver.Accounted state)
    (tracked : state.lastAccess.size ≤ saver.config.maxThreads) : saver.ThreadsBounded state := by
  refine ⟨tracked, fun holders distinct holding => Nat.le_trans ?_ tracked⟩
  have known : holders ⊆ state.lastAccess.keys := by
    intro threadId member
    obtain ⟨key, size, stored, rfl⟩ := holding threadId member
    exact accounted.tracked key.threadId (state.dicts.item_occurs key size stored)
  rw [← Dict.keys_length]
  exact (List.subperm_of_subset distinct known).length_le

-- The one way past the limit: the delta history touches the thread it was asked about
-- without making room for it.
def RoomForDelta (state : saver.State) (timed : TimedCall Value Version) : Prop :=
  ∀ threadId, saver.AsksDelta timed threadId →
    threadId ∈ (saver.purgeExpiredLocked state timed.now).1.lastAccess.keys ∨
      (saver.purgeExpiredLocked state timed.now).1.lastAccess.size < saver.config.maxThreads

theorem effect_tracked_size (lawful : saver.inherited.Lawful) (state after : saver.State)
    (timed : TimedCall Value Version) (reply : saver.Reply) (effect : saver.Effect state timed after reply)
    (accounted : saver.Accounted state) (within : state.lastAccess.size ≤ saver.config.maxThreads)
    (room : saver.RoomForDelta state timed) : after.lastAccess.size ≤ saver.config.maxThreads := by
  have dropped (gone : List String) : (saver.dropAll state gone).lastAccess.size ≤ saver.config.maxThreads :=
    Nat.le_trans (saver.drop_all_size_le lawful gone state) within
  cases effect with
  | dropped gone _ _ => exact dropped gone
  | read gone _ _ _ _ => exact dropped gone
  | touched dicts threadId _ _ _ known =>
      refine saver.touched_size_le _ threadId timed.later _ (dropped (saver.expiredThreads state timed.now)) ?_
      rcases known with stored | asked
      · have purged := saver.drop_all_accounted lawful state (saver.expiredThreads state timed.now) accounted
        exact Or.inl (purged.tracked threadId (Or.inl stored))
      · exact room threadId asked
  | stored _ _ _ _ _ gone key _ _ _ _ _ stores =>
      rw [stores.booked]
      exact saver.booked_size_le _ _ key.1 timed.later _ (dropped gone) (stores.reserved.room rfl)
  | wrote _ _ _ _ _ gone key _ _ _ writes =>
      rw [writes.booked]
      exact saver.booked_size_le _ _ key.1 timed.later _ (dropped gone) (writes.reserved.room rfl)
  | cleared _ => exact Nat.zero_le _

theorem delta_history_tracks (lawful : saver.inherited.Lawful) (state : saver.State)
    (timed : TimedCall Value Version) (threadId : String) (accounted : saver.Accounted state)
    (asked : saver.AsksDelta timed threadId)
    (unknown : threadId ∉ (saver.purgeExpiredLocked state timed.now).1.lastAccess.keys) :
    (saver.step state timed).lastAccess.size =
      (saver.purgeExpiredLocked state timed.now).1.lastAccess.size + 1 := by
  obtain ⟨config, channels, checkpointNs, called, located, requested⟩ := asked
  obtain ⟨thread, _⟩ := saver.validated_location_thread config threadId checkpointNs located
  have purged := saver.drop_all_accounted lawful state (saver.expiredThreads state timed.now) accounted
  obtain ⟨history, answered⟩ := lawful.delta_history_unknown (saver.purgeExpiredLocked state timed.now).1.dicts
    config channels threadId thread (fun occurs => unknown (purged.tracked threadId occurs))
  have entries := lawful.delta_history_entries _ config channels history answered
  have nonempty : history.keys ≠ [] := by
    obtain ⟨channel, member⟩ := List.exists_mem_of_ne_nil _ requested
    exact List.ne_nil_of_mem ((entries channel).mpr member)
  rw [step, perform, called]
  simp only [getDeltaChannelHistory, located]
  generalize saver.inherited.getDeltaChannelHistory (saver.purgeExpiredLocked state timed.now).1.dicts config
    channels = answer at answered ⊢
  obtain ⟨dicts, reply⟩ := answer
  subst answered
  simp only [if_neg nonempty]
  rw [touched_size, if_neg unknown]

theorem step_threads_bounded (lawful : saver.inherited.Lawful) (state : saver.State)
    (timed : TimedCall Value Version) (accounted : saver.Accounted state) (bounded : saver.ThreadsBounded state) :
    saver.ThreadsBounded (saver.step state timed) ↔ saver.RoomForDelta state timed := by
  constructor
  · intro after threadId asked
    by_cases known : threadId ∈ (saver.purgeExpiredLocked state timed.now).1.lastAccess.keys
    · exact Or.inl known
    · have grown := saver.delta_history_tracks lawful state timed threadId accounted asked known
      have limit := after.tracked
      exact Or.inr (by omega)
  · intro room
    exact saver.threads_bounded_of _ (saver.step_accounted lawful state timed accounted)
      (saver.effect_tracked_size lawful state _ timed _ (saver.perform_effect lawful state timed) accounted
        bounded.tracked room)

theorem threads_bounded_iff_room_for_delta (lawful : saver.inherited.Lawful)
    (calls : List (TimedCall Value Version)) :
    Transition.Always saver.step saver.ThreadsBounded saver.initial calls ↔
      Transition.Meets saver.step saver.RoomForDelta saver.initial calls :=
  Transition.always_iff_meets saver.step saver.RoomForDelta saver.Accounted saver.ThreadsBounded
    (saver.step_accounted lawful) (saver.step_threads_bounded lawful) saver.initial saver.initial_accounted
    (saver.threads_bounded_of saver.initial saver.initial_accounted (Nat.zero_le _)) calls

-- The one thread's delta history is read, and then that of a thread that nothing is kept for.
def roomyDeltaRun : List (TimedCall Bytes Nat) :=
  [⟨0, 0, smallPut "t" none "c1" [("x", 1)] [("x", [1, 2])] [("x", 1)]⟩,
    ⟨1, 1, .getDeltaChannelHistory (smallLocation "t" none) ["x"]⟩,
    ⟨2, 2, .deleteThread (.str "t")⟩,
    ⟨3, 3, .getDeltaChannelHistory (smallLocation "u" none) ["x"]⟩]

theorem threads_bounded_small_run :
    Transition.Always (smallBoundedSaver 0 99).step (smallBoundedSaver 0 99).ThreadsBounded
      (smallBoundedSaver 0 99).initial roomyDeltaRun := by
  apply ((smallBoundedSaver 0 99).threads_bounded_iff_room_for_delta smallSaver.lawful roomyDeltaRun).mpr
  refine ⟨fun threadId asked => ?_, fun threadId asked => ?_, fun threadId asked => ?_,
    fun threadId asked => ?_, trivial⟩
  all_goals
    obtain ⟨config, channels, checkpointNs, called, located, _⟩ := asked
    cases called
  · have own : threadId = "t" := congrArg Prod.fst (Except.ok.inj (located.symm.trans (by rfl)))
    subst own
    exact Or.inl (by decide +kernel)
  · exact Or.inr (by decide +kernel)

def unknownThreadsRun : List (TimedCall Bytes Nat) :=
  [⟨0, 0, .getDeltaChannelHistory (smallLocation "a" none) ["x"]⟩,
    ⟨1, 1, .getDeltaChannelHistory (smallLocation "b" none) ["x"]⟩]

theorem threads_exceeded :
    ¬ Transition.Always (smallBoundedSaver 0 99).step (smallBoundedSaver 0 99).ThreadsBounded
      (smallBoundedSaver 0 99).initial unknownThreadsRun := by
  intro always
  have last := (Transition.always_last _ _ _ _ always).tracked
  revert last
  decide +kernel

end LangGraphServer.BoundedInMemorySaver
