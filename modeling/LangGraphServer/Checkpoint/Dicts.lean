import LangGraphServer.Checkpoint.Saver

set_option autoImplicit false

namespace LangGraphServer.SaverDicts

open Collections

variable {Version : Type}

theorem checkpoint_store_write (dicts : SaverDicts Version) (key query : CheckpointKey)
    (row : WriteIndex × StoredWrite) : (dicts.storeWrite key row).checkpoint? query = dicts.checkpoint? query := by
  rw [storeWrite]
  split <;> rfl

theorem write_store_write (dicts : SaverDicts Version) (key query : CheckpointKey) (row : WriteIndex × StoredWrite)
    (index : WriteIndex) : (dicts.storeWrite key row).write? query index =
      if query = key ∧ index = row.1 ∧ ¬ dicts.KeepsWrite key row.1 then some row.2 else dicts.write? query index := by
  by_cases kept : dicts.KeepsWrite key row.1
  · rw [storeWrite, if_pos kept, if_neg (fun fresh => fresh.2.2 kept)]
  · rw [storeWrite, if_neg kept]
    simp only [write?, writesAt, Dict.get_set]
    by_cases same : query = key
    · subst same
      by_cases hit : index = row.1 <;> simp [Dict.get_set, kept, hit]
    · simp [same]

theorem checkpoint_store_writes (rows : List (WriteIndex × StoredWrite)) (dicts : SaverDicts Version)
    (key query : CheckpointKey) : (dicts.storeWrites key rows).checkpoint? query = dicts.checkpoint? query := by
  induction rows generalizing dicts with
  | nil => rfl
  | cons row rest ih => exact (ih (dicts.storeWrite key row)).trans (checkpoint_store_write dicts key query row)

theorem write_store_writes_elsewhere (rows : List (WriteIndex × StoredWrite)) (dicts : SaverDicts Version)
    (key query : CheckpointKey) (index : WriteIndex) (different : query ≠ key) :
    (dicts.storeWrites key rows).write? query index = dicts.write? query index := by
  induction rows generalizing dicts with
  | nil => rfl
  | cons row rest ih =>
      have step := write_store_write dicts key query row index
      rw [if_neg (fun hit => different hit.1)] at step
      exact (ih (dicts.storeWrite key row)).trans step

theorem write_store_writes_grows (rows : List (WriteIndex × StoredWrite)) (dicts : SaverDicts Version)
    (key query : CheckpointKey) (index : WriteIndex) (absent : (dicts.storeWrites key rows).write? query index = none) :
    dicts.write? query index = none := by
  induction rows generalizing dicts with
  | nil => exact absent
  | cons row rest ih =>
      have before := ih (dicts.storeWrite key row) absent
      rw [write_store_write] at before
      split at before
      · cases before
      · exact before

theorem checkpoint_drop (dicts : SaverDicts Version) (threadId : String) (query : CheckpointKey) :
    (dicts.dropThread threadId).checkpoint? query = if query.1 = threadId then none else dicts.checkpoint? query := by
  simp only [checkpoint?, checkpoints, namespaces, dropThread, Dict.get_pop]
  by_cases same : query.1 = threadId
  · simp [same]
  · simp [same]

theorem write_drop (dicts : SaverDicts Version) (threadId : String) (query : CheckpointKey) (index : WriteIndex) :
    (dicts.dropThread threadId).write? query index = if query.1 = threadId then none else dicts.write? query index := by
  simp only [write?, writesAt, dropThread, Dict.get_restrict]
  by_cases same : query.1 = threadId
  · simp [same]
  · simp [same]

theorem occurs_store_write (dicts : SaverDicts Version) (key : CheckpointKey) (row : WriteIndex × StoredWrite)
    (query : String) (occurs : (dicts.storeWrite key row).Occurs query) : dicts.Occurs query ∨ query = key.1 := by
  rw [storeWrite] at occurs
  split at occurs
  · exact Or.inl occurs
  · rcases occurs with inStorage | inBlobs | ⟨writeKey, member, rfl⟩
    · exact Or.inl (Or.inl inStorage)
    · exact Or.inl (Or.inr (Or.inl inBlobs))
    · rcases (Dict.mem_keys_set _ _ _ _).mp member with rfl | earlier
      · exact Or.inr rfl
      · exact Or.inl (Or.inr (Or.inr ⟨writeKey, earlier, rfl⟩))

theorem occurs_store_writes (rows : List (WriteIndex × StoredWrite)) (dicts : SaverDicts Version)
    (key : CheckpointKey) (query : String) (occurs : (dicts.storeWrites key rows).Occurs query) :
    dicts.Occurs query ∨ query = key.1 := by
  induction rows generalizing dicts with
  | nil => exact Or.inl occurs
  | cons row rest ih =>
      rcases ih (dicts.storeWrite key row) occurs with stepped | same
      · exact occurs_store_write dicts key row query stepped
      · exact Or.inr same

theorem checkpoint_occurs (dicts : SaverDicts Version) (key : CheckpointKey) (stored : StoredCheckpoint)
    (found : dicts.checkpoint? key = some stored) : dicts.Occurs key.1 := by
  refine Or.inl ((Dict.mem_keys _ _).mpr ?_)
  cases indexed : dicts.storage.get? key.1 with
  | none => simp [checkpoint?, checkpoints, namespaces, indexed] at found
  | some inner => exact ⟨inner, rfl⟩

theorem write_occurs (dicts : SaverDicts Version) (key : CheckpointKey) (index : WriteIndex) (stored : StoredWrite)
    (found : dicts.write? key index = some stored) : dicts.Occurs key.1 := by
  refine Or.inr (Or.inr ⟨key, (Dict.mem_keys _ _).mpr ?_, rfl⟩)
  cases indexed : dicts.writes.get? key with
  | none => simp [write?, writesAt, indexed] at found
  | some inner => exact ⟨inner, rfl⟩

variable [DecidableEq Version]

theorem checkpoint_store (dicts : SaverDicts Version) (key query : CheckpointKey) (stored : StoredCheckpoint)
    (blobs : List (BlobKey Version × SerializedValue)) :
    (dicts.storeCheckpoint key stored blobs).checkpoint? query =
      if query = key then some stored else dicts.checkpoint? query := by
  obtain ⟨threadId, checkpointNs, checkpointId⟩ := key
  obtain ⟨queryThread, queryNs, queryId⟩ := query
  simp only [checkpoint?, checkpoints, namespaces, storeCheckpoint, Dict.get_set, Prod.mk.injEq]
  by_cases thread : queryThread = threadId
  · subst thread
    simp only [true_and, if_true, Option.getD_some, Dict.get_set]
    by_cases namespaced : queryNs = checkpointNs
    · subst namespaced
      simp only [true_and, if_true, Option.getD_some, Dict.get_set]
    · simp only [namespaced, false_and, if_false]
  · simp only [thread, false_and, if_false]

theorem blob_store_checkpoint (dicts : SaverDicts Version) (key : CheckpointKey) (stored : StoredCheckpoint)
    (blobs : List (BlobKey Version × SerializedValue)) (query : BlobKey Version) :
    (dicts.storeCheckpoint key stored blobs).blob? query = (dicts.blobs.setAll blobs).get? query := rfl

theorem blob_store_write (dicts : SaverDicts Version) (key : CheckpointKey) (row : WriteIndex × StoredWrite)
    (query : BlobKey Version) : (dicts.storeWrite key row).blob? query = dicts.blob? query := by
  rw [storeWrite]
  split <;> rfl

theorem blob_store_writes (rows : List (WriteIndex × StoredWrite)) (dicts : SaverDicts Version)
    (key : CheckpointKey) (query : BlobKey Version) : (dicts.storeWrites key rows).blob? query = dicts.blob? query := by
  induction rows generalizing dicts with
  | nil => rfl
  | cons row rest ih => exact (ih (dicts.storeWrite key row)).trans (blob_store_write dicts key row query)

theorem blob_drop (dicts : SaverDicts Version) (threadId : String) (query : BlobKey Version) :
    (dicts.dropThread threadId).blob? query = if query.1 = threadId then none else dicts.blob? query := by
  simp only [blob?, dropThread, Dict.get_restrict]
  by_cases same : query.1 = threadId <;> simp [same]

theorem occurs_drop (dicts : SaverDicts Version) (threadId query : String) :
    (dicts.dropThread threadId).Occurs query ↔ dicts.Occurs query ∧ query ≠ threadId := by
  have filtered : ∀ {K V : Type} [DecidableEq K] (dict : Dict (String × K) V),
      (∃ key ∈ (dict.restrict (fun key => decide (key.1 ≠ threadId))).keys, key.1 = query) ↔
        (∃ key ∈ dict.keys, key.1 = query) ∧ query ≠ threadId := by
    intro K V _ dict
    constructor
    · rintro ⟨key, member, rfl⟩
      rw [Dict.mem_keys_restrict, decide_eq_true_iff] at member
      exact ⟨⟨key, member.1, rfl⟩, member.2⟩
    · rintro ⟨⟨key, member, rfl⟩, different⟩
      refine ⟨key, ?_, rfl⟩
      rw [Dict.mem_keys_restrict, decide_eq_true_iff]
      exact ⟨member, different⟩
  rw [Occurs, Occurs, dropThread, filtered, filtered, Dict.mem_keys_pop, or_and_right, or_and_right]

theorem occurs_store_checkpoint (dicts : SaverDicts Version) (key : CheckpointKey) (stored : StoredCheckpoint)
    (blobs : List (BlobKey Version × SerializedValue)) (owned : ∀ row ∈ blobs, row.1.1 = key.1) (query : String)
    (occurs : (dicts.storeCheckpoint key stored blobs).Occurs query) : dicts.Occurs query ∨ query = key.1 := by
  rcases occurs with inStorage | ⟨blobKey, member, rfl⟩ | inWrites
  · rcases (Dict.mem_keys_set _ _ _ _).mp inStorage with same | earlier
    · exact Or.inr same
    · exact Or.inl (Or.inl earlier)
  · by_cases fresh : blobKey ∈ blobs.map Prod.fst
    · obtain ⟨row, listed, rfl⟩ := List.mem_map.mp fresh
      exact Or.inr (owned row listed)
    · have kept := Dict.get_set_all_absent blobs dicts.blobs blobKey fresh
      obtain ⟨value, found⟩ := (Dict.mem_keys _ _).mp member
      exact Or.inl (Or.inr (Or.inl ⟨blobKey, (Dict.mem_keys _ _).mpr ⟨value, kept.symm.trans found⟩, rfl⟩))
  · exact Or.inl (Or.inr (Or.inr inWrites))

-- The bytes the saver has to account for an item: type tag and payload, and for a
-- pending write its channel and task path as well.
def itemSize? (dicts : SaverDicts Version) : SizeKey Version → Option Nat
  | .checkpoint key => (dicts.checkpoint? key).map
      (fun stored => serializedSize stored.checkpoint + serializedSize stored.metadata)
  | .blob key => (dicts.blob? key).map serializedSize
  | .write key index => (dicts.write? key index).map BoundedInMemorySaver.writeSize

theorem blob_occurs (dicts : SaverDicts Version) (key : BlobKey Version) (stored : SerializedValue)
    (found : dicts.blob? key = some stored) : dicts.Occurs key.1 :=
  Or.inr (Or.inl ⟨key, (Dict.mem_keys _ _).mpr ⟨stored, found⟩, rfl⟩)

theorem item_occurs (dicts : SaverDicts Version) (key : SizeKey Version) (size : Nat)
    (found : dicts.itemSize? key = some size) : dicts.Occurs key.threadId := by
  cases key with
  | checkpoint key =>
      obtain ⟨stored, present, _⟩ := Option.map_eq_some_iff.mp found
      exact checkpoint_occurs dicts key stored present
  | blob key =>
      obtain ⟨stored, present, _⟩ := Option.map_eq_some_iff.mp found
      exact blob_occurs dicts key stored present
  | write key index =>
      obtain ⟨stored, present, _⟩ := Option.map_eq_some_iff.mp found
      exact write_occurs dicts key index stored present

theorem item_drop (dicts : SaverDicts Version) (threadId : String) (key : SizeKey Version) :
    (dicts.dropThread threadId).itemSize? key = if key.threadId = threadId then none else dicts.itemSize? key := by
  cases key with
  | checkpoint key =>
      by_cases same : key.1 = threadId <;> simp [itemSize?, checkpoint_drop, SizeKey.threadId, same]
  | blob key => by_cases same : key.1 = threadId <;> simp [itemSize?, blob_drop, SizeKey.threadId, same]
  | write key index => by_cases same : key.1 = threadId <;> simp [itemSize?, write_drop, SizeKey.threadId, same]

theorem item_read (dicts after : SaverDicts Version) (mayAdd : String → Prop)
    (frame : dicts.ReadFrame after mayAdd) (key : SizeKey Version) : after.itemSize? key = dicts.itemSize? key := by
  cases key with
  | checkpoint key => rw [itemSize?, itemSize?, frame.checkpoints]
  | blob key => rw [itemSize?, itemSize?, frame.blobs]
  | write key index => rw [itemSize?, itemSize?, frame.writes]

end LangGraphServer.SaverDicts
