import LangGraphServer.Checkpoint.Effect
import LangGraphServer.Lib.Run
import LangGraphServer.Checkpoint.Reference

set_option autoImplicit false

namespace LangGraphServer.BoundedInMemorySaver

open Collections

variable {Value Version : Type} [DecidableEq Version] (saver : BoundedInMemorySaver Value Version)

-- Every stored item is booked with its size and nothing else is, the counter is the sum
-- of the bookings, and the expiry order knows every thread that anything is kept for.
structure Accounted (state : saver.State) : Prop where
  sizes : ∀ key, state.sizes.get? key = state.dicts.itemSize? key
  balanced : saver.Balanced state
  tracked : ∀ threadId, state.dicts.Occurs threadId → threadId ∈ state.lastAccess.keys
  sized : ∀ key ∈ state.sizes.keys, key.threadId ∈ state.lastAccess.keys

theorem accounted_of (state : saver.State) (sizes : ∀ key, state.sizes.get? key = state.dicts.itemSize? key)
    (balanced : saver.Balanced state)
    (tracked : ∀ threadId, state.dicts.Occurs threadId → threadId ∈ state.lastAccess.keys) :
    saver.Accounted state := by
  refine ⟨sizes, balanced, tracked, fun key member => ?_⟩
  obtain ⟨size, booked⟩ := (Dict.mem_keys _ _).mp member
  rw [sizes key] at booked
  exact tracked key.threadId (state.dicts.item_occurs key size booked)

theorem initial_accounted : saver.Accounted saver.initial := by
  refine saver.accounted_of saver.initial (fun key => ?_) rfl (fun threadId occurs => ?_)
  · cases key <;> rfl
  · rcases occurs with inStorage | ⟨key, inBlobs, _⟩ | ⟨key, inWrites, _⟩
    · cases inStorage
    · cases inBlobs
    · cases inWrites

theorem delete_thread_accounted (lawful : saver.inherited.Lawful) (state : saver.State) (threadId : String)
    (accounted : saver.Accounted state) : saver.Accounted (saver.deleteThreadLocked state threadId) := by
  have dropped := saver.delete_thread_drops lawful state threadId
  refine saver.accounted_of _ (fun key => ?_) (dropped.balanced accounted.balanced) (fun query occurs => ?_)
  · rw [dropped.sizes, dropped.dicts, SaverDicts.item_drop, accounted.sizes]
  · rw [dropped.dicts, SaverDicts.occurs_drop] at occurs
    rw [dropped.lastAccess, Dict.mem_keys_pop]
    exact ⟨accounted.tracked query occurs.1, occurs.2⟩

theorem drop_all_accounted (lawful : saver.inherited.Lawful) (state : saver.State) (gone : List String)
    (accounted : saver.Accounted state) : saver.Accounted (saver.dropAll state gone) :=
  saver.drop_all_keeps saver.Accounted (saver.delete_thread_accounted lawful) state accounted gone

omit [DecidableEq Version] in
theorem touched_tracked (state : saver.State) (threadId query : String) (now : Time) :
    query ∈ (saver.touchLocked state threadId now).lastAccess.keys ↔
      query = threadId ∨ query ∈ state.lastAccess.keys := by
  rw [touchLocked, Dict.mem_keys_set, Dict.mem_keys_pop]
  by_cases same : query = threadId <;> simp [same]

theorem booked_accounted (state : saver.State) (dicts : SaverDicts Version)
    (history : List (SaverEvent Value Version)) (keys : List (SizeKey Version)) (threadId : String) (now : Time)
    (accounted : saver.Accounted state)
    (elsewhere : ∀ key, key ∉ keys → dicts.itemSize? key = state.dicts.itemSize? key)
    (kept : ∀ key, dicts.itemSize? key = none → state.dicts.itemSize? key = none)
    (occurring : ∀ query, dicts.Occurs query → state.dicts.Occurs query ∨ query = threadId) :
    saver.Accounted (saver.touchLocked
      (saver.recordAll { state with dicts := dicts, history := history } keys) threadId now) := by
  have recorded := saver.record_all_spec keys { state with dicts := dicts, history := history }
  have same : (saver.touchLocked (saver.recordAll { state with dicts := dicts, history := history } keys)
      threadId now).dicts = dicts := recorded.dicts
  refine saver.accounted_of _ (fun key => ?_) (recorded.balanced accounted.balanced) (fun query occurs => ?_)
  · refine (recorded.sizes key).trans ?_
    rw [same]
    by_cases booked : key ∈ keys
    · rw [if_pos booked]
      cases sized : dicts.itemSize? key with
      | some size => rfl
      | none => exact (accounted.sizes key).trans (kept key sized)
    · rw [if_neg booked, elsewhere key booked]
      exact accounted.sizes key
  · rw [same] at occurs
    rw [touched_tracked, recorded.lastAccess]
    rcases occurring query occurs with earlier | same
    · exact Or.inr (accounted.tracked query earlier)
    · exact Or.inl same

theorem item_store_checkpoint (dicts : SaverDicts Version) (key : CheckpointKey) (stored : StoredCheckpoint)
    (versions : ChannelVersions Version) (blobs : List (BlobKey Version × SerializedValue))
    (keyed : blobs.map Prod.fst = versions.entries.map (fun row => (key.1, key.2.1, row.1, row.2)))
    (query : SizeKey Version) (other : query ∉ storeKeys key versions) :
    (dicts.storeCheckpoint key stored blobs).itemSize? query = dicts.itemSize? query := by
  cases query with
  | checkpoint query =>
      have different : query ≠ key := by
        rintro rfl
        exact other (by simp [storeKeys])
      rw [SaverDicts.itemSize?, SaverDicts.itemSize?, SaverDicts.checkpoint_store, if_neg different]
  | blob query =>
      have absent : query ∉ blobs.map Prod.fst := by
        rw [keyed]
        intro listed
        obtain ⟨row, member, rfl⟩ := List.mem_map.mp listed
        exact other (List.mem_cons_of_mem _ (List.mem_map.mpr ⟨row, member, rfl⟩))
      rw [SaverDicts.itemSize?, SaverDicts.itemSize?, SaverDicts.blob_store_checkpoint,
        Dict.get_set_all_absent blobs dicts.blobs query absent]
      rfl
  | write query index => rfl

theorem item_store_checkpoint_kept (dicts : SaverDicts Version) (key : CheckpointKey) (stored : StoredCheckpoint)
    (blobs : List (BlobKey Version × SerializedValue)) (query : SizeKey Version)
    (absent : (dicts.storeCheckpoint key stored blobs).itemSize? query = none) : dicts.itemSize? query = none := by
  cases query with
  | checkpoint query =>
      rw [SaverDicts.itemSize?, SaverDicts.checkpoint_store, Option.map_eq_none_iff] at absent
      split at absent
      · cases absent
      · rw [SaverDicts.itemSize?, absent, Option.map_none]
  | blob query =>
      rw [SaverDicts.itemSize?, SaverDicts.blob_store_checkpoint, Option.map_eq_none_iff] at absent
      rw [SaverDicts.itemSize?, Option.map_eq_none_iff]
      exact Dict.get_set_all_grows blobs dicts.blobs query absent
  | write query index => exact absent

theorem item_store_writes (dicts : SaverDicts Version) (key : CheckpointKey)
    (rows : List (WriteIndex × StoredWrite)) (query : SizeKey Version)
    (other : query ∉ wroteKeys (dicts.storeWrites key rows) key) :
    (dicts.storeWrites key rows).itemSize? query = dicts.itemSize? query := by
  cases query with
  | checkpoint query => rw [SaverDicts.itemSize?, SaverDicts.itemSize?, SaverDicts.checkpoint_store_writes]
  | blob query => rw [SaverDicts.itemSize?, SaverDicts.itemSize?, SaverDicts.blob_store_writes]
  | write query index =>
      rw [SaverDicts.itemSize?, SaverDicts.itemSize?]
      by_cases same : query = key
      · subst same
        have absent : (dicts.storeWrites query rows).write? query index = none := by
          refine (Dict.get_none _ _).mpr (fun member => other ?_)
          obtain ⟨row, listed, rfl⟩ := List.mem_map.mp member
          exact List.mem_map.mpr ⟨row, listed, rfl⟩
        rw [absent, SaverDicts.write_store_writes_grows rows dicts query query index absent]
      · rw [SaverDicts.write_store_writes_elsewhere rows dicts key query index same]

theorem item_store_writes_kept (dicts : SaverDicts Version) (key : CheckpointKey)
    (rows : List (WriteIndex × StoredWrite)) (query : SizeKey Version)
    (absent : (dicts.storeWrites key rows).itemSize? query = none) : dicts.itemSize? query = none := by
  cases query with
  | checkpoint query => rwa [SaverDicts.itemSize?, SaverDicts.checkpoint_store_writes] at absent
  | blob query => rwa [SaverDicts.itemSize?, SaverDicts.blob_store_writes] at absent
  | write query index =>
      rw [SaverDicts.itemSize?, Option.map_eq_none_iff] at absent
      rw [SaverDicts.itemSize?, SaverDicts.write_store_writes_grows rows dicts key query index absent, Option.map_none]

theorem read_accounted (state : saver.State) (dicts : SaverDicts Version) (accounted : saver.Accounted state)
    (frame : state.dicts.ReadFrame dicts (fun _ => False)) : saver.Accounted { state with dicts := dicts } := by
  refine saver.accounted_of _ (fun key => ?_) accounted.balanced (fun query occurs => ?_)
  · exact (accounted.sizes key).trans (SaverDicts.item_read state.dicts dicts _ frame key).symm
  · exact accounted.tracked query ((frame.threads query occurs).resolve_right id)

theorem effect_accounted (lawful : saver.inherited.Lawful) (state after : saver.State)
    (timed : TimedCall Value Version) (reply : saver.Reply) (effect : saver.Effect state timed after reply)
    (accounted : saver.Accounted state) : saver.Accounted after := by
  cases effect with
  | dropped gone _ _ => exact saver.drop_all_accounted lawful state gone accounted
  | read gone dicts _ _ frame =>
      exact saver.read_accounted _ dicts (saver.drop_all_accounted lawful state gone accounted) frame
  | touched dicts threadId _ _ frame _ =>
      exact saver.booked_accounted (saver.purgeExpiredLocked state timed.now).1 dicts _ [] threadId timed.later
        (saver.drop_all_accounted lawful state _ accounted)
        (fun key _ => SaverDicts.item_read _ dicts _ frame key)
        (fun key absent => (SaverDicts.item_read _ dicts _ frame key).symm.trans absent)
        frame.threads
  | stored _ config checkpoint metadata versions gone key _ stored values blobs _ stores =>
      rw [stores.booked]
      exact saver.booked_accounted (saver.dropAll state gone) _ _ (storeKeys key versions) key.1 timed.later
        (saver.drop_all_accounted lawful state gone accounted)
        (item_store_checkpoint _ key stored versions blobs stores.commit.keyed)
        (item_store_checkpoint_kept _ key stored blobs)
        (SaverDicts.occurs_store_checkpoint _ key stored blobs stores.commit.owned)
  | wrote _ config batch taskId taskPath gone key _ rows _ writes =>
      rw [writes.booked]
      exact saver.booked_accounted (saver.dropAll state gone) _ _ _ key.1 timed.later
        (saver.drop_all_accounted lawful state gone accounted)
        (item_store_writes _ key rows) (item_store_writes_kept _ key rows)
        (SaverDicts.occurs_store_writes rows _ key)
  | cleared _ =>
      obtain ⟨sizes, balanced, tracked, sized⟩ := saver.initial_accounted
      exact ⟨sizes, balanced, tracked, sized⟩

theorem step_accounted (lawful : saver.inherited.Lawful) (state : saver.State) (timed : TimedCall Value Version)
    (accounted : saver.Accounted state) : saver.Accounted (saver.step state timed) :=
  saver.effect_accounted lawful state _ timed _ (saver.perform_effect lawful state timed) accounted

theorem accounting_is_exact (lawful : saver.inherited.Lawful) :
    (∀ calls, Transition.Always saver.step saver.Accounted saver.initial calls) ∧
      ∀ state timed, saver.Accounted state → saver.Accounted (saver.step state timed) := by
  refine ⟨fun calls => ?_, saver.step_accounted lawful⟩
  exact Transition.always_of_invariant saver.step saver.Accounted (saver.step_accounted lawful) saver.initial
    saver.initial_accounted calls

theorem accounting_is_exact_small_run :
    Transition.Always (smallBoundedSaver 1 99).step (smallBoundedSaver 1 99).Accounted (smallBoundedSaver 1 99).initial
      smallRun :=
  ((smallBoundedSaver 1 99).accounting_is_exact smallSaver.lawful).1 smallRun

end LangGraphServer.BoundedInMemorySaver
