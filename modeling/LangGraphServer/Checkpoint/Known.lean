import LangGraphServer.Checkpoint.Dicts

set_option autoImplicit false

namespace LangGraphServer

open Collections

namespace SaverDicts

variable {Version : Type}

-- Looking a namespace up by indexing the defaultdicts adds it when it is missing.
def indexStorage (dicts : SaverDicts Version) :
    Option (String × String) → Dict String (Dict String (Dict String StoredCheckpoint))
  | none => dicts.storage
  | some (threadId, checkpointNs) => dicts.storage.set threadId
      ((dicts.namespaces threadId).set checkpointNs (dicts.checkpoints threadId checkpointNs))

-- A read that looks up one namespace, or none, and the writes of stored checkpoints.
structure Indexes (dicts after : SaverDicts Version) (target : Option (String × String)) : Prop where
  storage : after.storage = dicts.indexStorage target
  kept : ∀ key ∈ dicts.writes.keys, key ∈ after.writes.keys
  added : ∀ key ∈ after.writes.keys, key ∈ dicts.writes.keys ∨ ∃ stored, dicts.checkpoint? key = some stored

def KnowsNamespace (dicts : SaverDicts Version) (threadId checkpointNs : String) : Prop :=
  checkpointNs ∈ (dicts.namespaces threadId).keys ∨
    ∃ key ∈ dicts.writes.keys, key.1 = threadId ∧ key.2.1 = checkpointNs

def KnowsCheckpoint (dicts : SaverDicts Version) (threadId : String) (checkpoint : String × String) : Prop :=
  (∃ stored, dicts.checkpoint? (threadId, checkpoint) = some stored) ∨ (threadId, checkpoint) ∈ dicts.writes.keys

theorem stored_namespace (dicts : SaverDicts Version) (key : CheckpointKey) (stored : StoredCheckpoint)
    (found : dicts.checkpoint? key = some stored) : key.2.1 ∈ (dicts.namespaces key.1).keys := by
  rw [Dict.mem_keys]
  cases indexed : (dicts.namespaces key.1).get? key.2.1 with
  | none => simp [checkpoint?, checkpoints, indexed] at found
  | some inner => exact ⟨inner, rfl⟩

theorem namespaces_indexed (dicts after : SaverDicts Version) (target : Option (String × String))
    (indexes : dicts.Indexes after target) (threadId checkpointNs : String) :
    checkpointNs ∈ (after.namespaces threadId).keys ↔
      target = some (threadId, checkpointNs) ∨ checkpointNs ∈ (dicts.namespaces threadId).keys := by
  rw [namespaces, indexes.storage]
  cases target with
  | none => simp [indexStorage, namespaces]
  | some location =>
      obtain ⟨owner, given⟩ := location
      rw [indexStorage, Dict.get_set]
      by_cases own : threadId = owner
      · subst own
        rw [if_pos rfl, Option.getD_some, Dict.mem_keys_set]
        simp [eq_comm]
      · rw [if_neg own]
        simp [namespaces, Ne.symm own]

theorem checkpoint_indexed (dicts after : SaverDicts Version) (target : Option (String × String))
    (indexes : dicts.Indexes after target) (key : CheckpointKey) : after.checkpoint? key = dicts.checkpoint? key := by
  simp only [checkpoint?, checkpoints, namespaces, indexes.storage]
  cases target with
  | none => rfl
  | some location =>
      obtain ⟨owner, given⟩ := location
      rw [indexStorage, Dict.get_set]
      by_cases own : key.1 = owner
      · subst own
        rw [if_pos rfl, Option.getD_some, Dict.get_set]
        by_cases same : key.2.1 = given
        · subst same
          rw [if_pos rfl, Option.getD_some]
          rfl
        · rw [if_neg same]
          rfl
      · rw [if_neg own]

theorem knows_namespace_indexed (dicts after : SaverDicts Version) (target : Option (String × String))
    (indexes : dicts.Indexes after target) (threadId checkpointNs : String) :
    after.KnowsNamespace threadId checkpointNs ↔
      target = some (threadId, checkpointNs) ∨ dicts.KnowsNamespace threadId checkpointNs := by
  rw [KnowsNamespace, KnowsNamespace, namespaces_indexed dicts after target indexes, or_assoc]
  apply or_congr_right
  constructor
  · rintro (stored | ⟨key, member, rfl, rfl⟩)
    · exact Or.inl stored
    · rcases indexes.added key member with earlier | ⟨stored, found⟩
      · exact Or.inr ⟨key, earlier, rfl, rfl⟩
      · exact Or.inl (stored_namespace dicts key stored found)
  · rintro (stored | ⟨key, member, rfl, rfl⟩)
    · exact Or.inl stored
    · exact Or.inr ⟨key, indexes.kept key member, rfl, rfl⟩

theorem knows_checkpoint_indexed (dicts after : SaverDicts Version) (target : Option (String × String))
    (indexes : dicts.Indexes after target) (threadId : String) (checkpoint : String × String) :
    after.KnowsCheckpoint threadId checkpoint ↔ dicts.KnowsCheckpoint threadId checkpoint := by
  rw [KnowsCheckpoint, KnowsCheckpoint, checkpoint_indexed dicts after target indexes]
  constructor
  · rintro (stored | member)
    · exact Or.inl stored
    · rcases indexes.added _ member with earlier | stored
      · exact Or.inr earlier
      · exact Or.inl stored
  · rintro (stored | member)
    · exact Or.inl stored
    · exact Or.inr (indexes.kept _ member)

theorem namespaces_store_checkpoint (dicts : SaverDicts Version) [DecidableEq Version] (key : CheckpointKey)
    (stored : StoredCheckpoint) (blobs : List (BlobKey Version × SerializedValue)) (threadId checkpointNs : String) :
    checkpointNs ∈ ((dicts.storeCheckpoint key stored blobs).namespaces threadId).keys ↔
      (threadId = key.1 ∧ checkpointNs = key.2.1) ∨ checkpointNs ∈ (dicts.namespaces threadId).keys := by
  simp only [namespaces, storeCheckpoint, Dict.get_set]
  by_cases own : threadId = key.1
  · rw [if_pos own, Option.getD_some, Dict.mem_keys_set]
    subst own
    simp
  · rw [if_neg own]
    simp [own]

theorem knows_namespace_store (dicts : SaverDicts Version) [DecidableEq Version] (key : CheckpointKey)
    (stored : StoredCheckpoint) (blobs : List (BlobKey Version × SerializedValue)) (threadId checkpointNs : String) :
    (dicts.storeCheckpoint key stored blobs).KnowsNamespace threadId checkpointNs ↔
      (threadId = key.1 ∧ checkpointNs = key.2.1) ∨ dicts.KnowsNamespace threadId checkpointNs := by
  rw [KnowsNamespace, namespaces_store_checkpoint, or_assoc]
  rfl

theorem knows_checkpoint_store (dicts : SaverDicts Version) [DecidableEq Version] (key : CheckpointKey)
    (stored : StoredCheckpoint) (blobs : List (BlobKey Version × SerializedValue)) (threadId : String)
    (checkpoint : String × String) : (dicts.storeCheckpoint key stored blobs).KnowsCheckpoint threadId checkpoint ↔
      (threadId, checkpoint) = key ∨ dicts.KnowsCheckpoint threadId checkpoint := by
  rw [KnowsCheckpoint, KnowsCheckpoint, checkpoint_store]
  by_cases same : (threadId, checkpoint) = key
  · simp [same]
  · simp [same, storeCheckpoint]

-- After a batch its key is there, unless the batch was empty.
theorem keys_store_write (dicts : SaverDicts Version) (key query : CheckpointKey) (row : WriteIndex × StoredWrite) :
    query ∈ (dicts.storeWrite key row).writes.keys ↔ query = key ∨ query ∈ dicts.writes.keys := by
  rw [storeWrite]
  by_cases kept : dicts.KeepsWrite key row.1
  · have present : key ∈ dicts.writes.keys := by
      rw [Dict.mem_keys]
      cases indexed : dicts.writes.get? key with
      | none => simp [KeepsWrite, writesAt, indexed] at kept
      | some inner => exact ⟨inner, rfl⟩
    rw [if_pos kept]
    constructor
    · exact Or.inr
    · rintro (rfl | member)
      · exact present
      · exact member
  · rw [if_neg kept]
    exact Dict.mem_keys_set dicts.writes key query _

theorem keys_store_writes (rows : List (WriteIndex × StoredWrite)) (dicts : SaverDicts Version)
    (key query : CheckpointKey) :
    query ∈ (dicts.storeWrites key rows).writes.keys ↔ (rows ≠ [] ∧ query = key) ∨ query ∈ dicts.writes.keys := by
  induction rows generalizing dicts with
  | nil => simp [storeWrites]
  | cons row rest ih =>
      have tail := ih (dicts.storeWrite key row)
      rw [keys_store_write] at tail
      refine tail.trans ?_
      by_cases same : query = key <;> simp [same]

theorem storage_store_writes (rows : List (WriteIndex × StoredWrite)) (dicts : SaverDicts Version)
    (key : CheckpointKey) :
    (dicts.storeWrites key rows).storage = dicts.storage := by
  induction rows generalizing dicts with
  | nil => rfl
  | cons row rest ih =>
      refine (ih (dicts.storeWrite key row)).trans ?_
      rw [storeWrite]
      split <;> rfl

theorem knows_namespace_writes (rows : List (WriteIndex × StoredWrite)) (dicts : SaverDicts Version)
    (key : CheckpointKey)
    (threadId checkpointNs : String) : (dicts.storeWrites key rows).KnowsNamespace threadId checkpointNs ↔
      (rows ≠ [] ∧ threadId = key.1 ∧ checkpointNs = key.2.1) ∨ dicts.KnowsNamespace threadId checkpointNs := by
  simp only [KnowsNamespace, namespaces, storage_store_writes, keys_store_writes]
  constructor
  · rintro (stored | ⟨other, ⟨nonempty, rfl⟩ | member, rfl, rfl⟩)
    · exact Or.inr (Or.inl stored)
    · exact Or.inl ⟨nonempty, rfl, rfl⟩
    · exact Or.inr (Or.inr ⟨other, member, rfl, rfl⟩)
  · rintro (⟨nonempty, rfl, rfl⟩ | stored | ⟨other, member, rfl, rfl⟩)
    · exact Or.inr ⟨key, Or.inl ⟨nonempty, rfl⟩, rfl, rfl⟩
    · exact Or.inl stored
    · exact Or.inr ⟨other, Or.inr member, rfl, rfl⟩

theorem knows_checkpoint_writes (rows : List (WriteIndex × StoredWrite)) (dicts : SaverDicts Version)
    (key : CheckpointKey) (threadId : String) (checkpoint : String × String) :
    (dicts.storeWrites key rows).KnowsCheckpoint threadId checkpoint ↔
      (rows ≠ [] ∧ (threadId, checkpoint) = key) ∨ dicts.KnowsCheckpoint threadId checkpoint := by
  rw [KnowsCheckpoint, KnowsCheckpoint, checkpoint_store_writes, keys_store_writes]
  exact or_left_comm

-- One operation adds at most the place it writes to.
structure Adds (dicts after : SaverDicts Version) (key : CheckpointKey) (adds : Prop) : Prop where
  namespaces : ∀ threadId checkpointNs, after.KnowsNamespace threadId checkpointNs ↔
    (adds ∧ threadId = key.1 ∧ checkpointNs = key.2.1) ∨ dicts.KnowsNamespace threadId checkpointNs
  checkpoints : ∀ threadId checkpoint, after.KnowsCheckpoint threadId checkpoint ↔
    (adds ∧ (threadId, checkpoint) = key) ∨ dicts.KnowsCheckpoint threadId checkpoint

theorem adds_store [DecidableEq Version] (dicts : SaverDicts Version) (key : CheckpointKey) (stored : StoredCheckpoint)
    (blobs : List (BlobKey Version × SerializedValue)) :
      dicts.Adds (dicts.storeCheckpoint key stored blobs) key True := by
  refine ⟨fun threadId checkpointNs => ?_, fun threadId checkpoint => ?_⟩
  · rw [true_and]
    exact knows_namespace_store dicts key stored blobs threadId checkpointNs
  · rw [true_and]
    exact knows_checkpoint_store dicts key stored blobs threadId checkpoint

theorem adds_writes (rows : List (WriteIndex × StoredWrite)) (dicts : SaverDicts Version) (key : CheckpointKey) :
    dicts.Adds (dicts.storeWrites key rows) key (rows ≠ []) :=
  ⟨knows_namespace_writes rows dicts key, knows_checkpoint_writes rows dicts key⟩

theorem knows_namespace_drop (dicts : SaverDicts Version) (gone threadId checkpointNs : String) :
    (dicts.dropThread gone).KnowsNamespace threadId checkpointNs ↔
      threadId ≠ gone ∧ dicts.KnowsNamespace threadId checkpointNs := by
  simp only [KnowsNamespace, namespaces, dropThread, Dict.get_pop, Dict.mem_keys_restrict, decide_eq_true_iff]
  by_cases same : threadId = gone
  · simp [same]
  · rw [if_neg same, and_iff_right same]
    apply or_congr_right
    constructor
    · rintro ⟨key, ⟨member, _⟩, rfl, rfl⟩
      exact ⟨key, member, rfl, rfl⟩
    · rintro ⟨key, member, rfl, rfl⟩
      exact ⟨key, ⟨member, same⟩, rfl, rfl⟩

theorem knows_checkpoint_drop (dicts : SaverDicts Version) (gone threadId : String) (checkpoint : String × String) :
    (dicts.dropThread gone).KnowsCheckpoint threadId checkpoint ↔
      threadId ≠ gone ∧ dicts.KnowsCheckpoint threadId checkpoint := by
  simp only [KnowsCheckpoint, checkpoint_drop]
  by_cases same : threadId = gone
  · simp [same, dropThread, Dict.mem_keys_restrict]
  · simp [same, dropThread, Dict.mem_keys_restrict]

end SaverDicts

end LangGraphServer
