import LangGraphServer.Checkpoint.Accounting
import LangGraphServer.Checkpoint.Reference

set_option autoImplicit false

namespace LangGraphServer

open Collections

variable {Value Version : Type} [DecidableEq Version]

namespace SaverDicts

-- Two savers hold the same items for a thread; empty inner dictionaries do not count.
structure Agree (threadId : String) (first second : SaverDicts Version) : Prop where
  checkpoints : ∀ key : CheckpointKey, key.1 = threadId → first.checkpoint? key = second.checkpoint? key
  writes : ∀ (key : CheckpointKey) index, key.1 = threadId → first.write? key index = second.write? key index
  blobs : ∀ key : BlobKey Version, key.1 = threadId → first.blob? key = second.blob? key

theorem Agree.refl (threadId : String) (dicts : SaverDicts Version) : Agree threadId dicts dicts :=
  ⟨fun _ _ => rfl, fun _ _ _ => rfl, fun _ _ => rfl⟩

theorem Agree.trans (threadId : String) (first second third : SaverDicts Version)
    (left : Agree threadId first second) (right : Agree threadId second third) : Agree threadId first third :=
  ⟨fun key own => (left.checkpoints key own).trans (right.checkpoints key own),
    fun key index own => (left.writes key index own).trans (right.writes key index own),
    fun key own => (left.blobs key own).trans (right.blobs key own)⟩

theorem agree_read (dicts after : SaverDicts Version) (mayAdd : String → Prop)
    (frame : dicts.ReadFrame after mayAdd) (threadId : String) : Agree threadId after dicts :=
  ⟨fun key _ => frame.checkpoints key, fun key index _ => frame.writes key index, fun key _ => frame.blobs key⟩

theorem agree_drop_own (dicts : SaverDicts Version) (threadId : String) :
    Agree threadId (dicts.dropThread threadId) empty := by
  refine ⟨fun key own => ?_, fun key index own => ?_, fun key own => ?_⟩
  · rw [checkpoint_drop, if_pos own]
    rfl
  · rw [write_drop, if_pos own]
    rfl
  · rw [blob_drop, if_pos own]
    rfl

theorem agree_drop_other (dicts : SaverDicts Version) (threadId other : String) (different : other ≠ threadId) :
    Agree threadId (dicts.dropThread other) dicts := by
  refine ⟨fun key own => ?_, fun key index own => ?_, fun key own => ?_⟩
  · rw [checkpoint_drop, if_neg (fun same => different (same.symm.trans own))]
  · rw [write_drop, if_neg (fun same => different (same.symm.trans own))]
  · rw [blob_drop, if_neg (fun same => different (same.symm.trans own))]

theorem agree_store_checkpoint (threadId : String) (first second : SaverDicts Version) (key : CheckpointKey)
    (stored : StoredCheckpoint) (blobs : List (BlobKey Version × SerializedValue))
    (agree : Agree threadId first second) :
    Agree threadId (first.storeCheckpoint key stored blobs) (second.storeCheckpoint key stored blobs) := by
  refine ⟨fun query own => ?_, fun query index own => ?_, fun query own => ?_⟩
  · rw [checkpoint_store, checkpoint_store, agree.checkpoints query own]
  · exact agree.writes query index own
  · rw [blob_store_checkpoint, blob_store_checkpoint]
    exact Dict.get_set_all_congr blobs first.blobs second.blobs query (agree.blobs query own)

theorem agree_store_checkpoint_other (threadId : String) (dicts : SaverDicts Version) (key : CheckpointKey)
    (stored : StoredCheckpoint) (blobs : List (BlobKey Version × SerializedValue))
    (owned : ∀ row ∈ blobs, row.1.1 = key.1) (different : key.1 ≠ threadId) :
    Agree threadId (dicts.storeCheckpoint key stored blobs) dicts := by
  refine ⟨fun query own => ?_, fun _ _ _ => rfl, fun query own => ?_⟩
  · rw [checkpoint_store, if_neg]
    rintro rfl
    exact different own
  · refine Dict.get_set_all_absent blobs dicts.blobs query (fun listed => ?_)
    obtain ⟨row, member, rfl⟩ := List.mem_map.mp listed
    exact different ((owned row member).symm.trans own)

theorem agree_store_write (threadId : String) (first second : SaverDicts Version) (key : CheckpointKey)
    (row : WriteIndex × StoredWrite) (agree : Agree threadId first second) :
    Agree threadId (first.storeWrite key row) (second.storeWrite key row) := by
  refine ⟨fun query own => ?_, fun query index own => ?_, fun query own => ?_⟩
  · rw [checkpoint_store_write, checkpoint_store_write, agree.checkpoints query own]
  · rw [write_store_write, write_store_write, agree.writes query index own]
    by_cases same : query = key
    · have kept : first.KeepsWrite key row.1 ↔ second.KeepsWrite key row.1 := by
        have found := agree.writes key row.1 (same ▸ own)
        rw [write?, write?] at found
        rw [KeepsWrite, KeepsWrite, Dict.mem_keys, Dict.mem_keys, found]
      simp only [kept]
    · simp only [same, false_and, if_false]
  · rw [blob_store_write, blob_store_write, agree.blobs query own]

theorem agree_store_writes (threadId : String) (rows : List (WriteIndex × StoredWrite))
    (first second : SaverDicts Version) (key : CheckpointKey) (agree : Agree threadId first second) :
    Agree threadId (first.storeWrites key rows) (second.storeWrites key rows) := by
  induction rows generalizing first second with
  | nil => exact agree
  | cons row rest ih =>
      exact ih (first.storeWrite key row) (second.storeWrite key row)
        (agree_store_write threadId first second key row agree)

theorem agree_store_writes_other (threadId : String) (rows : List (WriteIndex × StoredWrite))
    (dicts : SaverDicts Version) (key : CheckpointKey) (different : key.1 ≠ threadId) :
    Agree threadId (dicts.storeWrites key rows) dicts := by
  refine ⟨fun query _ => checkpoint_store_writes rows dicts key query, fun query index own => ?_,
    fun query _ => blob_store_writes rows dicts key query⟩
  refine write_store_writes_elsewhere rows dicts key query index ?_
  rintro rfl
  exact different own

end SaverDicts

namespace BoundedInMemorySaver

variable (saver : BoundedInMemorySaver Value Version)

-- The plain saver executes the writes that were accepted for one thread, starting afresh
-- whenever that thread is removed.
def replayEvent (threadId : String) (dicts : SaverDicts Version) :
    SaverEvent Value Version → SaverDicts Version
  | .dropped gone => if gone = threadId then .empty else dicts
  | .cleared => .empty
  | .stored owner config checkpoint metadata versions =>
      if owner = threadId then (saver.inherited.put dicts config checkpoint metadata versions).1 else dicts
  | .wrote owner config writes taskId taskPath =>
      if owner = threadId then (saver.inherited.putWrites dicts config writes taskId taskPath).1 else dicts

def replay (threadId : String) (history : List (SaverEvent Value Version)) : SaverDicts Version :=
  history.foldl (saver.replayEvent threadId) .empty

omit [DecidableEq Version] in
theorem replay_append (threadId : String) (history : List (SaverEvent Value Version))
    (event : SaverEvent Value Version) : saver.replay threadId (history ++ [event]) =
      saver.replayEvent threadId (saver.replay threadId history) event := by
  rw [replay, replay, List.foldl_append, List.foldl_cons, List.foldl_nil]

def Replays (state : saver.State) : Prop :=
  ∀ threadId, SaverDicts.Agree threadId state.dicts (saver.replay threadId state.history)

theorem delete_thread_replays (lawful : saver.inherited.Lawful) (state : saver.State) (gone : String)
    (replays : saver.Replays state) : saver.Replays (saver.deleteThreadLocked state gone) := by
  intro threadId
  have dropped := saver.delete_thread_drops lawful state gone
  rw [dropped.dicts, dropped.history, replay_append, replayEvent]
  by_cases own : gone = threadId
  · rw [if_pos own, own]
    exact SaverDicts.agree_drop_own state.dicts threadId
  · rw [if_neg own]
    exact .trans threadId _ _ _ (SaverDicts.agree_drop_other state.dicts threadId gone own) (replays threadId)

theorem effect_replays (lawful : saver.inherited.Lawful) (state after : saver.State)
    (timed : TimedCall Value Version) (reply : saver.Reply) (effect : saver.Effect state timed after reply)
    (replays : saver.Replays state) : saver.Replays after := by
  have dropped (gone : List String) : saver.Replays (saver.dropAll state gone) :=
    saver.drop_all_keeps saver.Replays (saver.delete_thread_replays lawful) state replays gone
  cases effect with
  | dropped gone _ _ => exact dropped gone
  | read gone dicts _ _ frame =>
      exact fun threadId => .trans threadId _ _ _ (SaverDicts.agree_read _ dicts _ frame threadId)
        (dropped gone threadId)
  | touched dicts _ _ _ frame _ =>
      exact fun threadId => .trans threadId _ _ _ (SaverDicts.agree_read _ dicts _ frame threadId)
        (dropped (saver.expiredThreads state timed.now) threadId)
  | stored _ config checkpoint metadata versions gone key _ stored values blobs _ stores =>
      intro threadId
      rw [stores.committed.1, stores.committed.2, replay_append, replayEvent]
      by_cases own : key.1 = threadId
      · have commit := stores.commit
        have puts := lawful.put_stores (saver.replay threadId (saver.dropAll state gone).history) config checkpoint
          metadata versions key.1 key.2.1 key.2.2 values stored.checkpoint stored.metadata blobs
          commit.prepared.threadId commit.checkpointNs commit.prepared.checkpointId commit.given commit.copy
          commit.metadata commit.built
        rw [← commit.parentId] at puts
        rw [if_pos own, puts]
        exact SaverDicts.agree_store_checkpoint threadId _ _ key stored blobs (dropped gone threadId)
      · rw [if_neg own]
        exact .trans threadId _ _ _
          (SaverDicts.agree_store_checkpoint_other threadId _ key stored blobs stores.commit.owned own)
          (dropped gone threadId)
  | wrote _ config batch taskId taskPath gone key _ rows _ writes =>
      intro threadId
      rw [writes.committed.1, writes.committed.2, replay_append, replayEvent]
      by_cases own : key.1 = threadId
      · have commit := writes.commit
        have puts := lawful.put_writes_stores (saver.replay threadId (saver.dropAll state gone).history) config batch
          taskId taskPath key.1 key.2.1 key.2.2 rows commit.threadId writes.checkpointNs commit.checkpointId
          commit.built
        rw [if_pos own, puts]
        exact SaverDicts.agree_store_writes threadId rows _ _ key (dropped gone threadId)
      · rw [if_neg own]
        exact .trans threadId _ _ _ (SaverDicts.agree_store_writes_other threadId rows _ key own)
          (dropped gone threadId)
  | cleared _ =>
      intro threadId
      rw [clear, replay_append, replayEvent]
      exact .refl threadId _

theorem drop_all_history (lawful : saver.inherited.Lawful) (gone : List String) (state : saver.State) :
    (saver.dropAll state gone).history = state.history ++ gone.map .dropped := by
  induction gone generalizing state with
  | nil => exact (List.append_nil _).symm
  | cons first rest ih =>
      have tail := ih (saver.deleteThreadLocked state first)
      rw [(saver.delete_thread_drops lawful state first).history, List.append_assoc] at tail
      exact tail

theorem drop_all_agree (lawful : saver.inherited.Lawful) (state : saver.State) (gone : List String)
    (threadId : String) : SaverDicts.Agree threadId (saver.dropAll state gone).dicts state.dicts ∨
      SaverDicts.Agree threadId (saver.dropAll state gone).dicts .empty := by
  have kept := saver.drop_all_keeps
    (fun current => SaverDicts.Agree threadId current.dicts state.dicts ∨
      SaverDicts.Agree threadId current.dicts .empty)
    (fun current other earlier => ?_) state (Or.inl (.refl threadId _)) gone
  · exact kept
  · rw [(saver.delete_thread_drops lawful current other).dicts]
    by_cases own : other = threadId
    · rw [own]
      exact Or.inr (SaverDicts.agree_drop_own _ threadId)
    · have same := SaverDicts.agree_drop_other current.dicts threadId other own
      exact earlier.imp (.trans threadId _ _ _ same) (.trans threadId _ _ _ same)

-- A thread that no call writes to keeps all of its items or loses all of them together.
theorem effect_agrees (lawful : saver.inherited.Lawful) (state after : saver.State)
    (timed : TimedCall Value Version) (reply : saver.Reply) (effect : saver.Effect state timed after reply)
    (threadId : String) (unwritten : (∃ error, reply = .error error) ∨ timed.call.threadId? ≠ some threadId) :
    SaverDicts.Agree threadId after.dicts state.dicts ∨ SaverDicts.Agree threadId after.dicts .empty := by
  have dropped (gone : List String) := saver.drop_all_agree lawful state gone threadId
  have onto (dicts : SaverDicts Version) (gone : List String)
      (same : SaverDicts.Agree threadId dicts (saver.dropAll state gone).dicts) :
      SaverDicts.Agree threadId dicts state.dicts ∨ SaverDicts.Agree threadId dicts .empty :=
    (dropped gone).imp (.trans threadId _ _ _ same) (.trans threadId _ _ _ same)
  cases effect with
  | dropped gone _ _ => exact dropped gone
  | read gone dicts _ _ frame => exact onto dicts gone (SaverDicts.agree_read _ dicts _ frame threadId)
  | touched dicts _ _ _ frame _ => exact onto dicts _ (SaverDicts.agree_read _ dicts _ frame threadId)
  | stored _ config checkpoint metadata versions gone key _ stored values blobs called stores =>
      have different : key.1 ≠ threadId := by
        rintro rfl
        rcases unwritten with ⟨error, raised⟩ | elsewhere
        · cases raised
        · rw [called, SaverCall.threadId?, RunnableConfig.threadId?, stores.commit.prepared.threadId] at elsewhere
          exact elsewhere rfl
      rw [stores.committed.1]
      exact onto _ gone (SaverDicts.agree_store_checkpoint_other threadId _ key stored blobs
        stores.commit.owned different)
  | wrote _ config batch taskId taskPath gone key _ rows called writes =>
      have different : key.1 ≠ threadId := by
        rintro rfl
        rcases unwritten with ⟨error, raised⟩ | elsewhere
        · cases raised
        · rw [called, SaverCall.threadId?, RunnableConfig.threadId?, writes.commit.threadId] at elsewhere
          exact elsewhere rfl
      rw [writes.committed.1]
      exact onto _ gone (SaverDicts.agree_store_writes_other threadId rows _ key different)
  | cleared _ => exact Or.inr (.refl threadId _)

end BoundedInMemorySaver

end LangGraphServer
