import LangGraphServer.Checkpoint.Budget
import LangGraphServer.Checkpoint.LeastRecent
import LangGraphServer.Checkpoint.Victims

set_option autoImplicit false

namespace LangGraphServer

open Collections

namespace SaverDicts

variable {Version : Type}

-- What a batch leaves of the pending writes it is given, and what it skips: a regular index
-- is written once, and of several writes with one special index the last one stays.
def landing (present : List WriteIndex) : List (WriteIndex × StoredWrite) →
    List (WriteIndex × StoredWrite) × List (WriteIndex × StoredWrite)
  | [] => ([], [])
  | row :: rest =>
      if 0 ≤ row.1.2 then
        if row.1 ∈ present then ((landing present rest).1, row :: (landing present rest).2)
        else (row :: (landing (row.1 :: present) rest).1, (landing (row.1 :: present) rest).2)
      else if row.1 ∈ rest.map Prod.fst then ((landing present rest).1, row :: (landing present rest).2)
      else (row :: (landing present rest).1, (landing present rest).2)

theorem write_store_writes_kept (rows : List (WriteIndex × StoredWrite)) (dicts : SaverDicts Version)
    (key : CheckpointKey) (index : WriteIndex) (kept : dicts.KeepsWrite key index) :
    (dicts.storeWrites key rows).write? key index = dicts.write? key index := by
  induction rows generalizing dicts with
  | nil => rfl
  | cons row rest ih =>
      have same : (dicts.storeWrite key row).write? key index = dicts.write? key index := by
        rw [write_store_write]
        by_cases hit : index = row.1
        · subst hit
          rw [if_neg (fun fresh => fresh.2.2 kept)]
        · rw [if_neg (fun fresh => hit fresh.2.1)]
      have still : (dicts.storeWrite key row).KeepsWrite key index := by
        refine ⟨kept.1, ?_⟩
        obtain ⟨stored, found⟩ := (Dict.mem_keys _ _).mp kept.2
        exact (Dict.mem_keys _ _).mpr ⟨stored, same.trans found⟩
      exact (ih _ still).trans same

theorem write_store_writes_absent (rows : List (WriteIndex × StoredWrite)) (dicts : SaverDicts Version)
    (key : CheckpointKey) (index : WriteIndex) (absent : index ∉ rows.map Prod.fst) :
    (dicts.storeWrites key rows).write? key index = dicts.write? key index := by
  induction rows generalizing dicts with
  | nil => rfl
  | cons row rest ih =>
      rw [List.map_cons, List.mem_cons, not_or] at absent
      refine (ih (dicts.storeWrite key row) absent.2).trans ?_
      rw [write_store_write, if_neg (fun fresh => absent.1 fresh.2.1)]

theorem keeps_write_store (dicts : SaverDicts Version) (key : CheckpointKey) (row : WriteIndex × StoredWrite)
    (index : WriteIndex) : (dicts.storeWrite key row).KeepsWrite key index ↔
      0 ≤ index.2 ∧ (index = row.1 ∨ dicts.KeepsWrite key index) := by
  have listed : ∀ given : SaverDicts Version, index ∈ (given.writesAt key).keys ↔
    ∃ stored, given.write? key index = some stored :=
    fun given => Dict.mem_keys _ _
  rw [KeepsWrite, KeepsWrite, listed, listed, write_store_write]
  by_cases hit : index = row.1
  · subst hit
    by_cases kept : dicts.KeepsWrite key row.1
    · rw [if_neg (fun fresh => fresh.2.2 kept)]
      exact ⟨fun held => ⟨held.1, Or.inl rfl⟩, fun held => ⟨held.1, (listed dicts).mp kept.2⟩⟩
    · rw [if_pos ⟨rfl, rfl, kept⟩]
      exact ⟨fun held => ⟨held.1, Or.inl rfl⟩, fun held => ⟨held.1, _, rfl⟩⟩
  · rw [if_neg (fun fresh => hit fresh.2.1)]
    exact ⟨fun held => ⟨held.1, Or.inr held⟩, fun held => ⟨held.1, (held.2.resolve_left hit).2⟩⟩

-- What lands is what the dictionaries hold afterwards, and every index of the batch that is
-- not kept lands once.
structure Landed (dicts : SaverDicts Version) (key : CheckpointKey)
    (rows landed : List (WriteIndex × StoredWrite)) : Prop where
  stored : ∀ row ∈ landed, (dicts.storeWrites key rows).write? key row.1 = some row.2
  once : (landed.map Prod.fst).Nodup
  indices : ∀ index, index ∈ landed.map Prod.fst ↔ index ∈ rows.map Prod.fst ∧ ¬ dicts.KeepsWrite key index

theorem landing_lands (rows : List (WriteIndex × StoredWrite)) (present : List WriteIndex) (dicts : SaverDicts Version)
    (key : CheckpointKey) (known : ∀ index, 0 ≤ index.2 → (index ∈ present ↔ dicts.KeepsWrite key index)) :
    Landed dicts key rows (landing present rows).1 := by
  induction rows generalizing present dicts with
  | nil => exact ⟨fun row member => (by cases member), List.nodup_nil, fun index => (by simp [landing])⟩
  | cons row rest ih =>
      obtain ⟨index, stored⟩ := row
      have later := keeps_write_store dicts key (index, stored)
      rw [landing]
      by_cases regular : 0 ≤ index.2
      · rw [if_pos regular]
        by_cases held : index ∈ present
        · rw [if_pos held]
          have kept := (known index regular).mp held
          have same : dicts.storeWrite key (index, stored) = dicts := by rw [storeWrite, if_pos kept]
          have tail := ih present dicts known
          refine ⟨fun row member => ?_, tail.once, fun query => ?_⟩
          · rw [storeWrites, List.foldl_cons, same]
            exact tail.stored row member
          · rw [tail.indices, List.map_cons, List.mem_cons]
            refine ⟨fun given => ⟨Or.inr given.1, given.2⟩, fun given =>
              ⟨given.1.resolve_left (fun hit => ?_), given.2⟩⟩
            subst hit
            exact given.2 kept
        · rw [if_neg held]
          have fresh : ¬ dicts.KeepsWrite key index := fun kept => held ((known index regular).mpr kept)
          have tail := ih (index :: present) (dicts.storeWrite key (index, stored)) (fun query positive => by
            rw [List.mem_cons, known query positive, later]
            exact ⟨fun given => ⟨positive, given⟩, fun given => given.2⟩)
          have here : (dicts.storeWrite key (index, stored)).KeepsWrite key index :=
            (later index).mpr ⟨regular, Or.inl rfl⟩
          refine ⟨fun row member => ?_, ?_, fun query => ?_⟩
          · rcases List.mem_cons.mp member with rfl | member
            · refine (write_store_writes_kept rest (dicts.storeWrite key (index, stored)) key index here).trans ?_
              rw [write_store_write, if_pos ⟨rfl, rfl, fresh⟩]
            · exact tail.stored row member
          · rw [List.map_cons, List.nodup_cons]
            exact ⟨fun member => ((tail.indices index).mp member).2 here, tail.once⟩
          · rw [List.map_cons, List.mem_cons, tail.indices, later, List.map_cons, List.mem_cons]
            by_cases hit : query = index
            · subst hit
              exact ⟨fun _ => ⟨Or.inl rfl, fresh⟩, fun _ => Or.inl rfl⟩
            · constructor
              · rintro (same | given)
                · exact absurd same hit
                · exact ⟨Or.inr given.1, fun kept => given.2 ⟨kept.1, Or.inr kept⟩⟩
              · intro given
                exact Or.inr ⟨given.1.resolve_left hit, fun kept => given.2 (kept.2.resolve_left hit)⟩
      · rw [if_neg regular]
        have special : ∀ given : SaverDicts Version, ¬ given.KeepsWrite key index := fun _ kept => regular kept.1
        have tail := ih present (dicts.storeWrite key (index, stored)) (fun query positive => by
          rw [known query positive, later]
          refine ⟨fun kept => ⟨positive, Or.inr kept⟩, fun given => given.2.resolve_left (fun hit => ?_)⟩
          subst hit
          exact regular positive)
        have others : ∀ query, query ≠ index → ((dicts.storeWrite key (index, stored)).KeepsWrite key query ↔
            dicts.KeepsWrite key query) := by
          intro query hit
          rw [later]
          exact ⟨fun given => given.2.resolve_left hit, fun kept => ⟨kept.1, Or.inr kept⟩⟩
        by_cases again : index ∈ rest.map Prod.fst
        · rw [if_pos again]
          refine ⟨tail.stored, tail.once, fun query => ?_⟩
          rw [tail.indices, List.map_cons, List.mem_cons]
          by_cases hit : query = index
          · subst hit
            exact ⟨fun given => ⟨Or.inr given.1, special _⟩, fun _ => ⟨again, special _⟩⟩
          · rw [others query hit]
            exact ⟨fun given => ⟨Or.inr given.1, given.2⟩, fun given => ⟨given.1.resolve_left hit, given.2⟩⟩
        · rw [if_neg again]
          refine ⟨fun row member => ?_, ?_, fun query => ?_⟩
          · rcases List.mem_cons.mp member with rfl | member
            · refine (write_store_writes_absent rest (dicts.storeWrite key (index, stored)) key index again).trans ?_
              rw [write_store_write, if_pos ⟨rfl, rfl, special _⟩]
            · exact tail.stored row member
          · rw [List.map_cons, List.nodup_cons]
            exact ⟨fun member => again ((tail.indices index).mp member).1, tail.once⟩
          · rw [List.map_cons, List.mem_cons, tail.indices, List.map_cons, List.mem_cons]
            by_cases hit : query = index
            · subst hit
              exact ⟨fun _ => ⟨Or.inl rfl, special _⟩, fun _ => Or.inl rfl⟩
            · rw [others query hit]
              constructor
              · rintro (same | given)
                · exact absurd same hit
                · exact ⟨Or.inr given.1, given.2⟩
              · exact fun given => Or.inr ⟨given.1.resolve_left hit, given.2⟩

theorem landing_total (weight : StoredWrite → Nat) (rows : List (WriteIndex × StoredWrite))
    (present : List WriteIndex) :
    ((landing present rows).1.map (fun row => weight row.2)).sum + ((landing present rows).2.map
      (fun row => weight row.2)).sum = (rows.map (fun row => weight row.2)).sum := by
  induction rows generalizing present with
  | nil => rfl
  | cons row rest ih =>
      have tail := ih present
      have grown := ih (row.1 :: present)
      rw [landing]
      split
      · split
        · simp only [List.map_cons, List.sum_cons]
          omega
        · simp only [List.map_cons, List.sum_cons]
          omega
      · split
        · simp only [List.map_cons, List.sum_cons]
          omega
        · simp only [List.map_cons, List.sum_cons]
          omega

theorem landing_count (rows : List (WriteIndex × StoredWrite)) (present : List WriteIndex) :
    (landing present rows).1.length + (landing present rows).2.length = rows.length := by
  simpa only [List.map_const', List.sum_replicate_nat, Nat.mul_one] using landing_total (fun _ => 1) rows present

theorem landing_skips_given (rows : List (WriteIndex × StoredWrite)) (present : List WriteIndex) :
    (landing present rows).2 ⊆ rows := by
  induction rows generalizing present with
  | nil => exact List.nil_subset _
  | cons row rest ih =>
      have skipped := List.cons_subset_cons row (ih present)
      have passed := fun known => List.Subset.trans (ih known) (List.subset_cons_self row rest)
      rw [landing]
      split
      · split
        · exact skipped
        · exact passed _
      · split
        · exact skipped
        · exact passed _

end SaverDicts

namespace BoundedInMemorySaver

variable {Value Version : Type} [DecidableEq Version] (saver : BoundedInMemorySaver Value Version)

def bookedFor (state : saver.State) (keys : List (SizeKey Version)) : Nat :=
  (keys.map (fun key => (state.sizes.get? key).getD 0)).sum

omit [DecidableEq Version] in
theorem CheckpointCommit.blobs_unique {saver : BoundedInMemorySaver Value Version} {config : RunnableConfig}
    {checkpoint : Checkpoint Value Version} {metadata : Metadata} {versions : ChannelVersions Version}
    {key : CheckpointKey} {estimatedSize : Nat} {stored : StoredCheckpoint} {values : Dict String Value}
    {blobs : List (BlobKey Version × SerializedValue)}
    (commit : saver.CheckpointCommit config checkpoint metadata versions key estimatedSize stored values blobs) :
    (blobs.map Prod.fst).Nodup := by
  rw [commit.keyed]
  refine List.Nodup.map_on ?_ (List.Nodup.of_map Prod.fst versions.unique)
  intro first _ second _ same
  simp only [Prod.mk.injEq, true_and] at same
  exact Prod.ext same.1 same.2

theorem Stores.booked_for {saver : BoundedInMemorySaver Value Version} {state after : saver.State} {now later : Time}
    {config : RunnableConfig}
    {checkpoint : Checkpoint Value Version} {metadata : Metadata} {versions : ChannelVersions Version}
    {gone : List String} {key : CheckpointKey} {estimatedSize : Nat} {stored : StoredCheckpoint}
    {values : Dict String Value} {blobs : List (BlobKey Version × SerializedValue)}
    (stores : saver.Stores state after now later config checkpoint metadata versions gone key estimatedSize stored
      values blobs) :
    saver.bookedFor after (storeKeys key versions) =
      estimatedSize + 5 * (absentChannels values versions.entries).length := by
  have recorded := (saver.record_all_spec (storeKeys key versions)
    (saver.storedState state gone config checkpoint metadata versions key stored blobs)).sizes
  have sizes : ∀ query size, query ∈ storeKeys key versions →
      ((saver.dropAll state gone).dicts.storeCheckpoint key stored blobs).itemSize? query = some size →
      (after.sizes.get? query).getD 0 = size := by
    intro query size listed sized
    rw [stores.booked]
    show ((saver.recordAll _ _).sizes.get? query).getD 0 = size
    rw [recorded, if_pos listed]
    show (Option.or (((saver.dropAll state gone).dicts.storeCheckpoint key stored blobs).itemSize? query) _).getD
      0 = size
    rw [sized]
    rfl
  have keyed : versions.entries.map (fun row => SizeKey.blob (key.1, key.2.1, row.1, row.2)) =
      blobs.map (fun row => SizeKey.blob row.1) := by
    have same := congrArg (List.map SizeKey.blob) stores.commit.keyed
    rw [List.map_map, List.map_map] at same
    exact same.symm
  have unique := stores.commit.blobs_unique
  have checkpointSize : (after.sizes.get? (.checkpoint key)).getD 0 =
      serializedSize stored.checkpoint + serializedSize stored.metadata := by
    refine sizes _ _ List.mem_cons_self ?_
    rw [SaverDicts.itemSize?, SaverDicts.checkpoint_store, if_pos rfl, Option.map_some]
  have blobSizes : ∀ row ∈ blobs, (after.sizes.get? (.blob row.1)).getD 0 = serializedSize row.2 := by
    intro row member
    refine sizes _ _ ?_ ?_
    · rw [storeKeys, keyed]
      exact List.mem_cons_of_mem _ (List.mem_map.mpr ⟨row, member, rfl⟩)
    · rw [SaverDicts.itemSize?, SaverDicts.blob_store_checkpoint,
        Dict.get_set_all blobs _ row.1 row.2 unique member, Option.map_some]
  rw [bookedFor, storeKeys, List.map_cons, List.sum_cons, checkpointSize, keyed, List.map_map, ← stores.commit.bytes]
  congr 2
  exact List.map_congr_left blobSizes

theorem put_booking_iff (lawful : saver.inherited.Lawful) (state after : saver.State) (now later : Time)
    (config result : RunnableConfig) (checkpoint : Checkpoint Value Version) (metadata : Metadata)
    (versions : ChannelVersions Version)
    (accepted : saver.put state now later config checkpoint metadata versions = (after, .ok result)) :
    ∃ key estimatedSize, saver.prepareCheckpoint config checkpoint metadata versions = .ok (key, estimatedSize) ∧
      saver.estimateCheckpointSize config checkpoint metadata versions = .ok estimatedSize ∧
      ((saver.bookedFor after (storeKeys key versions) = estimatedSize ∧
          saver.bookedFor after (storeKeys key versions) ≤ saver.config.maxCheckpointBytes) ↔
        absentChannels (checkpoint.channelValues.getD .empty) versions.entries = []) := by
  rcases saver.put_cases lawful state now later config checkpoint metadata versions with
    ⟨gone, error, refused⟩ | ⟨reached, gone, key, estimatedSize, stored, values, blobs, stores, prepared, _, answered⟩
  · rw [accepted] at refused
    cases refused
  · rw [accepted] at answered
    cases answered
    have booked := stores.booked_for
    have bounded := stores.commit.prepared.bounded
    refine ⟨key, estimatedSize, prepared, stores.commit.prepared.estimate, ?_⟩
    rw [stores.commit.given, Option.getD_some, booked]
    constructor
    · intro exact_
      exact List.length_eq_zero_iff.mp (by omega)
    · intro complete
      rw [complete, List.length_nil]
      exact ⟨rfl, bounded⟩

def channelPut (maxTotalBytes : Nat) (values : List (String × Bytes)) :
    (smallBoundedSaver 0 maxTotalBytes).State × Except PyError RunnableConfig :=
  (smallBoundedSaver 0 maxTotalBytes).put (smallBoundedSaver 0 maxTotalBytes).initial 0 0 (smallLocation "t" none)
    (smallCheckpoint "c1" [("x", 1)] values) .empty (Dict.empty.setAll [("x", 1)])

theorem put_booking_iff_channel_put :
    ∃ key estimatedSize,
      (smallBoundedSaver 0 99).prepareCheckpoint (smallLocation "t" none)
      (smallCheckpoint "c1" [("x", 1)] [("x", [1, 2])])
        .empty (Dict.empty.setAll [("x", 1)]) = .ok (key, estimatedSize) ∧
      (smallBoundedSaver 0 99).estimateCheckpointSize (smallLocation "t" none)
        (smallCheckpoint "c1" [("x", 1)] [("x", [1, 2])]) .empty (Dict.empty.setAll [("x", 1)]) = .ok estimatedSize ∧
      (((smallBoundedSaver 0 99).bookedFor (channelPut 99 [("x", [1, 2])]).1
            (storeKeys key (Dict.empty.setAll [("x", 1)])) = estimatedSize ∧
          (smallBoundedSaver 0 99).bookedFor (channelPut 99 [("x", [1, 2])]).1
            (storeKeys key (Dict.empty.setAll [("x", 1)])) ≤ (smallBoundedSaver 0 99).config.maxCheckpointBytes) ↔
        absentChannels ((smallCheckpoint "c1" [("x", 1)] [("x", [1, 2])]).channelValues.getD .empty)
          (Dict.entries (Dict.empty.setAll [("x", 1)])) = []) := by
  have passed : (channelPut 99 [("x", [1, 2])]).2.toBool = true := by decide +kernel
  cases answered : (channelPut 99 [("x", [1, 2])]).2 with
  | error error =>
      rw [answered] at passed
      cases passed
  | ok result =>
      exact (smallBoundedSaver 0 99).put_booking_iff smallSaver.lawful (smallBoundedSaver 0 99).initial
        (channelPut 99 [("x", [1, 2])]).1 0 0 (smallLocation "t" none) result
        (smallCheckpoint "c1" [("x", 1)] [("x", [1, 2])]) .empty (Dict.empty.setAll [("x", 1)])
        (Prod.ext rfl answered)

-- 21 bytes are booked where 16 were estimated and 16 are the limit.
theorem put_books_more_than_estimated :
    (channelPut 15 []).2.toBool = true ∧
      (smallBoundedSaver 0 15).estimateCheckpointSize (smallLocation "t" none) (smallCheckpoint "c1" [("x", 1)] [])
        .empty (Dict.empty.setAll [("x", 1)]) = .ok 16 ∧
      ¬ (smallBoundedSaver 0 15).bookedFor (channelPut 15 []).1
        (storeKeys ("t", "", "c1") (Dict.empty.setAll [("x", 1)])) = 16 ∧
      ¬ (smallBoundedSaver 0 15).bookedFor (channelPut 15 []).1
        (storeKeys ("t", "", "c1") (Dict.empty.setAll [("x", 1)])) ≤
        (smallBoundedSaver 0 15).config.maxCheckpointBytes :=
  ⟨by decide +kernel, rfl, by decide +kernel, by decide +kernel⟩

-- The entries that a batch stores: new ones, and special ones that it replaces.
def freshKeys (dicts : SaverDicts Version) (key : CheckpointKey) (rows : List (WriteIndex × StoredWrite)) :
    List (SizeKey Version) :=
  ((rows.map Prod.fst).filter (fun index => decide (¬ dicts.KeepsWrite key index))).dedup.map (SizeKey.write key)

omit [DecidableEq Version] in
theorem landed_fresh_keys (dicts : SaverDicts Version) (key : CheckpointKey)
    (rows landed : List (WriteIndex × StoredWrite))
    (lands : SaverDicts.Landed dicts key rows landed) :
    (freshKeys dicts key rows).Perm (landed.map (fun row => SizeKey.write key row.1)) := by
  have same : ((rows.map Prod.fst).filter (fun index => decide (¬ dicts.KeepsWrite key index))).dedup.Perm
      (landed.map Prod.fst) := by
    refine (List.perm_ext_iff_of_nodup (List.nodup_dedup _) lands.once).mpr (fun index => ?_)
    rw [List.mem_dedup, List.mem_filter, decide_eq_true_iff, lands.indices]
  have mapped := same.map (@SizeKey.write Version key)
  rw [List.map_map] at mapped
  exact mapped

theorem Writes.booked_for {saver : BoundedInMemorySaver Value Version} {state after : saver.State} {now later : Time}
    {config : RunnableConfig} {writes : List (String × Value)} {taskId taskPath : String} {gone : List String}
    {key : CheckpointKey} {requested : Nat} {rows : List (WriteIndex × StoredWrite)}
    (batch : saver.Writes state after now later config writes taskId taskPath gone key requested rows)
    (landed : List (WriteIndex × StoredWrite))
    (lands : SaverDicts.Landed (saver.dropAll state gone).dicts key rows landed) :
    saver.bookedFor after (freshKeys (saver.dropAll state gone).dicts key rows) =
      (landed.map (fun row => writeSize row.2)).sum := by
  have wrote : (saver.wroteState state gone config writes taskId taskPath key rows).dicts =
      (saver.dropAll state gone).dicts.storeWrites key rows := rfl
  have recorded := (saver.record_all_spec
    (wroteKeys (saver.wroteState state gone config writes taskId taskPath key rows).dicts key)
    (saver.wroteState state gone config writes taskId taskPath key rows)).sizes
  rw [bookedFor, ((landed_fresh_keys (saver.dropAll state gone).dicts key rows landed lands).map _).sum_eq,
    List.map_map]
  congr 1
  apply List.map_congr_left
  intro row member
  have stored := lands.stored row member
  have listed : SizeKey.write key row.1 ∈ wroteKeys (saver.wroteState state gone config writes taskId taskPath key
      rows).dicts key := by
    rw [wrote, wroteKeys]
    exact List.mem_map.mpr ⟨row, (Dict.mem_entries _ row.1 row.2).mpr stored, rfl⟩
  show (after.sizes.get? (.write key row.1)).getD 0 = writeSize row.2
  rw [batch.booked]
  show ((saver.recordAll _ _).sizes.get? (.write key row.1)).getD 0 = writeSize row.2
  rw [recorded, if_pos listed, wrote, SaverDicts.itemSize?, stored]
  rfl

omit [DecidableEq Version] in
theorem write_rows_path (taskId taskPath : String) (writes : List (String × Value)) (position : Nat)
    (rows : List (WriteIndex × StoredWrite))
    (built : saver.inherited.writeRows taskId taskPath position writes = .ok rows) :
    rows.length = writes.length ∧ ∀ row ∈ rows, row.2.taskPath = taskPath := by
  induction writes generalizing position rows with
  | nil =>
      cases built
      exact ⟨rfl, fun row member => (by cases member)⟩
  | cons write rest ih =>
      obtain ⟨channel, value⟩ := write
      rw [SaverSerializer.writeRows] at built
      cases dumped : saver.inherited.dumpsTyped (.value value) with
      | error error =>
          rw [dumped] at built
          cases built
      | ok bytes =>
          cases others : saver.inherited.writeRows taskId taskPath (position + 1) rest with
          | error error =>
              rw [dumped, others] at built
              cases built
          | ok tail =>
              rw [dumped, others] at built
              cases built
              obtain ⟨counted, paths⟩ := ih (position + 1) tail others
              refine ⟨by rw [List.length_cons, List.length_cons, counted], fun row member => ?_⟩
              rcases List.mem_cons.mp member with rfl | member
              · rfl
              · exact paths row member

def payloadSize (stored : StoredWrite) : Nat := serializedSize stored.value + encodedLength stored.channel

theorem write_sizes_payload (rows : List (WriteIndex × StoredWrite)) (taskPath : String)
    (paths : ∀ row ∈ rows, row.2.taskPath = taskPath) :
    (rows.map (fun row => writeSize row.2)).sum =
      (rows.map (fun row => payloadSize row.2)).sum + rows.length * encodedLength taskPath := by
  induction rows with
  | nil => simp
  | cons row rest ih =>
      have tail := ih (fun other member => paths other (List.mem_cons_of_mem row member))
      have head : writeSize row.2 = payloadSize row.2 + encodedLength taskPath := by
        rw [writeSize, payloadSize, paths row List.mem_cons_self]
      rw [List.map_cons, List.sum_cons, tail, head, List.map_cons, List.sum_cons, List.length_cons, Nat.succ_mul]
      omega

-- The bookings of a batch stay within what it asked for exactly when the paths that are
-- booked for what lands are paid for by the one path and the one task id that were counted,
-- and by the payloads that were counted and skipped.
theorem put_writes_booking_iff (lawful : saver.inherited.Lawful) (state after : saver.State) (now later : Time)
    (config : RunnableConfig) (writes : List (String × Value)) (taskId taskPath : String)
    (accepted : saver.putWrites state now later config writes taskId taskPath = (after, .ok ())) :
    ∃ key requested rows, saver.prepareWrites config writes taskId taskPath = .ok (key, requested) ∧
      saver.inherited.writeRows taskId taskPath 0 writes = .ok rows ∧
      ((saver.bookedFor after (freshKeys (saver.purgeExpiredLocked state now).1.dicts key rows) ≤ requested ∧
          saver.bookedFor after (freshKeys (saver.purgeExpiredLocked state now).1.dicts key rows) ≤
            saver.config.maxPendingWriteBytes) ↔
        (SaverDicts.landing ((saver.purgeExpiredLocked state now).1.dicts.writesAt key).keys rows).1.length *
            encodedLength taskPath ≤
          encodedLength taskId + encodedLength taskPath +
            ((SaverDicts.landing ((saver.purgeExpiredLocked state now).1.dicts.writesAt key).keys rows).2.map
              (fun row => payloadSize row.2)).sum) := by
  rcases saver.put_writes_cases lawful state now later config writes taskId taskPath with
    ⟨gone, error, refused⟩ | ⟨reached, gone, key, requested, rows, batch, prepared, reserving, answered⟩
  · rw [accepted] at refused
    cases refused
  · rw [accepted] at answered
    cases answered
    refine ⟨key, requested, rows, prepared, batch.commit.built, ?_⟩
    obtain ⟨victims, dropped, front, _⟩ := saver.reserve_victims lawful state now key.1 key.2.1 key.2.2 requested
    rw [reserving] at dropped
    have spared : key.1 ∉ victims := by
      intro listed
      have other := List.mem_filter.mp (front.subset listed)
      exact of_decide_eq_true other.2 rfl
    have kept := saver.drop_all_keeps_thread lawful victims (saver.purgeExpiredLocked state now).1 key.1 spared
    rw [← dropped] at kept
    generalize (saver.purgeExpiredLocked state now).1 = purged at kept ⊢
    have listed : ∀ index, index ∈ ((saver.dropAll state gone).dicts.writesAt key).keys ↔
      index ∈ (purged.dicts.writesAt key).keys := by
      intro index
      rw [Dict.mem_keys, Dict.mem_keys]
      exact Iff.of_eq (congrArg (fun found => ∃ stored, found = some stored) (kept.writes key rfl index))
    have same : ∀ index, (saver.dropAll state gone).dicts.KeepsWrite key index ↔ purged.dicts.KeepsWrite key index :=
      fun index => and_congr_right (fun _ => listed index)
    have fresh : freshKeys purged.dicts key rows = freshKeys (saver.dropAll state gone).dicts key rows := by
      rw [freshKeys, freshKeys]
      congr 3
      funext index
      rw [decide_eq_decide, same]
    have lands := SaverDicts.landing_lands rows (purged.dicts.writesAt key).keys (saver.dropAll state gone).dicts key
      (fun index regular => (listed index).symm.trans ⟨fun member => ⟨regular, member⟩, fun held => held.2⟩)
    rw [fresh, batch.booked_for _ lands]
    have bounded := batch.commit.bounded
    have bytes := batch.commit.bytes
    obtain ⟨counted, paths⟩ := saver.write_rows_path taskId taskPath writes 0 rows batch.commit.built
    have total := SaverDicts.landing_total writeSize rows (purged.dicts.writesAt key).keys
    have counts := SaverDicts.landing_count rows (purged.dicts.writesAt key).keys
    have payloads := write_sizes_payload (SaverDicts.landing (purged.dicts.writesAt key).keys rows).2 taskPath
      (fun row member => paths row (SaverDicts.landing_skips_given rows _ member))
    rw [← counted, ← counts, Nat.add_mul] at bytes
    constructor
    · intro within
      omega
    · intro paid
      omega

def pathBatch (maxTotalBytes : Nat) (taskPath : String) : (smallBoundedSaver 0 maxTotalBytes).State ×
    Except PyError Unit :=
  (smallBoundedSaver 0 maxTotalBytes).putWrites (smallBoundedSaver 0 maxTotalBytes).initial 0 0
    (smallLocation "t" (some "c1")) [("x", []), ("y", []), ("z", [])] "k" taskPath

def pathRows (taskPath : String) : List (WriteIndex × StoredWrite) :=
  [(("k", 0), ⟨"k", "x", ("bytes", []), taskPath⟩), (("k", 1), ⟨"k", "y", ("bytes", []), taskPath⟩),
    (("k", 2), ⟨"k", "z", ("bytes", []), taskPath⟩)]

theorem put_writes_booking_iff_short_path :
    ∃ key requested rows,
      (smallBoundedSaver 0 99).prepareWrites (smallLocation "t" (some "c1")) [("x", []), ("y", []), ("z", [])] "k" "" =
        .ok (key, requested) ∧
      (smallBoundedSaver 0 99).inherited.writeRows "k" "" 0 [("x", []), ("y", []), ("z", [])] = .ok rows ∧
      (((smallBoundedSaver 0 99).bookedFor (pathBatch 99 "").1
            (freshKeys ((smallBoundedSaver 0 99).purgeExpiredLocked (smallBoundedSaver 0 99).initial 0).1.dicts key
              rows) ≤ requested ∧
          (smallBoundedSaver 0 99).bookedFor (pathBatch 99 "").1
            (freshKeys ((smallBoundedSaver 0 99).purgeExpiredLocked (smallBoundedSaver 0 99).initial 0).1.dicts key
              rows) ≤ (smallBoundedSaver 0 99).config.maxPendingWriteBytes) ↔
        (SaverDicts.landing (((smallBoundedSaver 0 99).purgeExpiredLocked
            (smallBoundedSaver 0 99).initial 0).1.dicts.writesAt key).keys rows).1.length * encodedLength "" ≤
          encodedLength "k" + encodedLength "" +
            ((SaverDicts.landing (((smallBoundedSaver 0 99).purgeExpiredLocked
              (smallBoundedSaver 0 99).initial 0).1.dicts.writesAt key).keys rows).2.map
              (fun row => payloadSize row.2)).sum) := by
  have passed : (pathBatch 99 "").2.toBool = true := by decide +kernel
  cases answered : (pathBatch 99 "").2 with
  | error error =>
      rw [answered] at passed
      cases passed
  | ok done =>
      exact (smallBoundedSaver 0 99).put_writes_booking_iff smallSaver.lawful (smallBoundedSaver 0 99).initial
        (pathBatch 99 "").1 0 0 (smallLocation "t" (some "c1")) [("x", []), ("y", []), ("z", [])] "k" ""
        (Prod.ext rfl answered)

-- 30 bytes are booked where 23 were asked for and 23 are the limit.
theorem put_writes_books_more_than_asked :
    (pathBatch 22 "path").2.toBool = true ∧
      (smallBoundedSaver 0 22).prepareWrites (smallLocation "t" (some "c1"))
      [("x", []), ("y", []), ("z", [])] "k" "path" =
        .ok (("t", "", "c1"), 23) ∧
      (smallBoundedSaver 0 22).inherited.writeRows "k" "path" 0 [("x", []), ("y", []), ("z", [])] =
      .ok (pathRows "path") ∧
      ¬ (smallBoundedSaver 0 22).bookedFor (pathBatch 22 "path").1
        (freshKeys ((smallBoundedSaver 0 22).purgeExpiredLocked (smallBoundedSaver 0 22).initial 0).1.dicts
          ("t", "", "c1") (pathRows "path")) ≤ 23 ∧
      ¬ (smallBoundedSaver 0 22).bookedFor (pathBatch 22 "path").1
        (freshKeys ((smallBoundedSaver 0 22).purgeExpiredLocked (smallBoundedSaver 0 22).initial 0).1.dicts
          ("t", "", "c1") (pathRows "path")) ≤ (smallBoundedSaver 0 22).config.maxPendingWriteBytes :=
  ⟨by decide +kernel, rfl, rfl, by decide +kernel, by decide +kernel⟩

end BoundedInMemorySaver

end LangGraphServer
