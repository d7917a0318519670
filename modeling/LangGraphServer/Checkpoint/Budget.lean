import LangGraphServer.Checkpoint.Accounting
import LangGraphServer.Checkpoint.Reference

set_option autoImplicit false

namespace LangGraphServer.BoundedInMemorySaver

open Collections

variable {Value Version : Type} [DecidableEq Version] (saver : BoundedInMemorySaver Value Version)

def Books (sizes : Dict (SizeKey Version) Nat) (dicts : SaverDicts Version) : Prop :=
  ∀ key, sizes.get? key = dicts.itemSize? key

def booked (sizes : Dict (SizeKey Version) Nat) : Nat := sizes.total (fun size => size)

theorem store_checkpoint_books (sizes : Dict (SizeKey Version) Nat) (dicts : SaverDicts Version)
    (key : CheckpointKey) (stored : StoredCheckpoint) (blobs : List (BlobKey Version × SerializedValue))
    (books : Books sizes dicts) : ∃ grown, Books grown (dicts.storeCheckpoint key stored blobs) ∧
      booked grown ≤ booked sizes + (serializedSize stored.checkpoint + serializedSize stored.metadata +
        (blobs.map (fun row => serializedSize row.2)).sum) := by
  let size := serializedSize stored.checkpoint + serializedSize stored.metadata
  let rows := blobs.map (fun row => (SizeKey.blob row.1, serializedSize row.2))
  have others : ∀ query, (∀ blob, query ≠ .blob blob) →
      ((sizes.set (.checkpoint key) size).setAll rows).get? query = (sizes.set (.checkpoint key) size).get? query := by
    intro query different
    refine Dict.get_set_all_absent rows _ query (fun listed => ?_)
    simp only [rows, List.map_map, List.mem_map, Function.comp_apply] at listed
    obtain ⟨row, _, same⟩ := listed
    exact different row.1 same.symm
  refine ⟨(sizes.set (.checkpoint key) size).setAll rows, fun query => ?_, ?_⟩
  · cases query with
    | checkpoint query =>
        rw [others _ (by simp), Dict.get_set, books, SaverDicts.itemSize?, SaverDicts.itemSize?,
          SaverDicts.checkpoint_store]
        by_cases same : query = key <;> simp [same, size]
    | blob query =>
        refine Dict.get_set_all_map blobs dicts.blobs (sizes.set (.checkpoint key) size) SizeKey.blob serializedSize
          (fun _ _ same => SizeKey.blob.inj same) (fun asked => ?_) query
        rw [Dict.get_set, if_neg (by simp), books]
        rfl
    | write query index =>
        rw [others _ (by simp), Dict.get_set, if_neg (by simp), books]
        rfl
  · have first := Dict.total_set_le sizes (.checkpoint key) size (fun booked => booked)
    have rest := Dict.total_set_all_le rows (sizes.set (.checkpoint key) size) (fun booked => booked)
    simp only [rows, List.map_map, Function.comp_def] at rest
    simp only [booked, size, rows] at first rest ⊢
    omega

theorem store_write_books (sizes : Dict (SizeKey Version) Nat) (dicts : SaverDicts Version) (key : CheckpointKey)
    (row : WriteIndex × StoredWrite) (books : Books sizes dicts) :
    ∃ grown, Books grown (dicts.storeWrite key row) ∧ booked grown ≤ booked sizes + writeSize row.2 := by
  by_cases kept : dicts.KeepsWrite key row.1
  · refine ⟨sizes, ?_, Nat.le_add_right _ _⟩
    rwa [SaverDicts.storeWrite, if_pos kept]
  · refine ⟨sizes.set (.write key row.1) (writeSize row.2), fun query => ?_, Dict.total_set_le _ _ _ _⟩
    rw [Dict.get_set, books]
    cases query with
    | checkpoint query =>
        rw [if_neg (by simp), SaverDicts.itemSize?, SaverDicts.itemSize?, SaverDicts.checkpoint_store_write]
    | blob query => rw [if_neg (by simp), SaverDicts.itemSize?, SaverDicts.itemSize?, SaverDicts.blob_store_write]
    | write query index =>
        rw [SaverDicts.itemSize?, SaverDicts.itemSize?, SaverDicts.write_store_write]
        by_cases same : query = key ∧ index = row.1
        · rw [if_pos (by rw [same.1, same.2]), if_pos ⟨same.1, same.2, kept⟩, Option.map_some]
        · rw [if_neg (by simpa using same), if_neg (fun hit => same ⟨hit.1, hit.2.1⟩)]

theorem store_writes_books (rows : List (WriteIndex × StoredWrite)) (sizes : Dict (SizeKey Version) Nat)
    (dicts : SaverDicts Version) (key : CheckpointKey) (books : Books sizes dicts) :
    ∃ grown, Books grown (dicts.storeWrites key rows) ∧
      booked grown ≤ booked sizes + (rows.map (fun row => writeSize row.2)).sum := by
  induction rows generalizing sizes dicts with
  | nil => exact ⟨sizes, books, Nat.le_refl _⟩
  | cons row rest ih =>
      obtain ⟨next, head, growth⟩ := store_write_books sizes dicts key row books
      obtain ⟨grown, tail, further⟩ := ih next (dicts.storeWrite key row) head
      refine ⟨grown, tail, ?_⟩
      rw [List.map_cons, List.sum_cons]
      omega

theorem accounted_bytes (state : saver.State) (sizes : Dict (SizeKey Version) Nat) (accounted : saver.Accounted state)
    (books : Books sizes state.dicts) : state.serializedBytes = (booked sizes : Nat) := by
  have same := Dict.total_congr state.sizes sizes (fun key => (accounted.sizes key).trans (books key).symm)
    (fun size => size)
  rw [accounted.balanced, same, booked]

theorem delete_thread_bytes (lawful : saver.inherited.Lawful) (state : saver.State) (threadId : String)
    (accounted : saver.Accounted state) :
    (saver.deleteThreadLocked state threadId).serializedBytes ≤ state.serializedBytes := by
  have dropped := saver.delete_thread_drops lawful state threadId
  have less := Dict.total_restrict_le state.sizes (fun key => decide (key.threadId ≠ threadId)) (fun size => size)
  have books : Books (state.sizes.restrict (fun key => decide (key.threadId ≠ threadId)))
      (saver.deleteThreadLocked state threadId).dicts := by
    intro key
    rw [dropped.dicts, SaverDicts.item_drop, Dict.get_restrict, accounted.sizes]
    by_cases own : key.threadId = threadId <;> simp [own]
  rw [saver.accounted_bytes _ _ (saver.delete_thread_accounted lawful state threadId accounted) books,
    accounted.balanced]
  exact Int.ofNat_le.mpr less

def WithinBudget (state : saver.State) : Prop := state.serializedBytes ≤ saver.config.maxTotalBytes

theorem drop_all_within (lawful : saver.inherited.Lawful) (state : saver.State) (gone : List String)
    (accounted : saver.Accounted state) (within : saver.WithinBudget state) :
    saver.WithinBudget (saver.dropAll state gone) := by
  have both := saver.drop_all_keeps (fun current => saver.Accounted current ∧ saver.WithinBudget current)
    (fun current threadId earlier => ⟨saver.delete_thread_accounted lawful current threadId earlier.1,
      Int.le_trans (saver.delete_thread_bytes lawful current threadId earlier.1) earlier.2⟩)
    state ⟨accounted, within⟩ gone
  exact both.2

-- What the two up-front formulas leave out: a channel of `new_versions` without a value
-- is stored in five bytes that are not estimated, and the task path is booked for every
-- write of a batch but reserved once, next to a task id that is not booked.
def Covered (timed : TimedCall Value Version) : Prop :=
  match timed.call with
  | .put _ checkpoint _ versions => absentChannels (checkpoint.channelValues.getD .empty) versions.entries = []
  | .putWrites _ writes taskId taskPath =>
      writes.length * encodedLength taskPath ≤ encodedLength taskId + encodedLength taskPath
  | _ => True

theorem effect_within (lawful : saver.inherited.Lawful) (state after : saver.State)
    (timed : TimedCall Value Version) (reply : saver.Reply) (effect : saver.Effect state timed after reply)
    (accounted : saver.Accounted state) (within : saver.WithinBudget state) (covered : Covered timed) :
    saver.WithinBudget after := by
  have final := saver.effect_accounted lawful state after timed reply effect accounted
  cases effect with
  | dropped gone _ _ => exact saver.drop_all_within lawful state gone accounted within
  | read gone _ _ _ _ => exact saver.drop_all_within lawful state gone accounted within
  | touched _ _ _ _ _ _ => exact saver.drop_all_within lawful state _ accounted within
  | stored _ config checkpoint metadata versions gone key estimatedSize stored values blobs called stores =>
      have earlier := saver.drop_all_accounted lawful state gone accounted
      obtain ⟨grown, books, growth⟩ := store_checkpoint_books _ _ key stored blobs earlier.sizes
      rw [← stores.committed.1] at books
      have counted := saver.accounted_bytes after grown final books
      have room := stores.reserved.bytes rfl
      have complete : absentChannels values versions.entries = [] := by
        simpa [Covered, called, stores.commit.given] using covered
      have bytes := stores.commit.bytes
      rw [complete, List.length_nil] at bytes
      have before : (saver.dropAll state gone).serializedBytes = (booked (saver.dropAll state gone).sizes : Nat) :=
        earlier.balanced
      rw [WithinBudget, counted]
      omega
  | wrote _ config batch taskId taskPath gone key requested rows called writes =>
      have earlier := saver.drop_all_accounted lawful state gone accounted
      obtain ⟨grown, books, growth⟩ := store_writes_books rows _ _ key earlier.sizes
      rw [← writes.committed.1] at books
      have counted := saver.accounted_bytes after grown final books
      have room := writes.reserved.bytes rfl
      have fits : batch.length * encodedLength taskPath ≤ encodedLength taskId + encodedLength taskPath := by
        simpa [Covered, called] using covered
      have bytes := writes.commit.bytes
      have before : (saver.dropAll state gone).serializedBytes = (booked (saver.dropAll state gone).sizes : Nat) :=
        earlier.balanced
      rw [WithinBudget, counted]
      omega
  | cleared _ =>
      rw [WithinBudget]
      exact Int.natCast_nonneg _

theorem budget_holds_when_covered (lawful : saver.inherited.Lawful) (calls : List (TimedCall Value Version))
    (covered : Transition.Meets saver.step (fun _ timed => Covered timed) saver.initial calls) :
    Transition.Always saver.step saver.WithinBudget saver.initial calls := by
  have both := Transition.always_of_keeps saver.step (fun _ timed => Covered timed)
    (fun state => saver.Accounted state ∧ saver.WithinBudget state)
    (fun state timed earlier fits => ⟨saver.step_accounted lawful state timed earlier.1,
      saver.effect_within lawful state _ timed _ (saver.perform_effect lawful state timed) earlier.1 earlier.2 fits⟩)
    saver.initial ⟨saver.initial_accounted, Int.natCast_nonneg _⟩ calls covered
  exact Transition.always_imp saver.step _ saver.WithinBudget (fun _ state => state.2) saver.initial calls both

theorem budget_holds_small_run :
    Transition.Always (smallBoundedSaver 1 99).step (smallBoundedSaver 1 99).WithinBudget
      (smallBoundedSaver 1 99).initial smallRun :=
  (smallBoundedSaver 1 99).budget_holds_when_covered smallSaver.lawful smallRun
    ⟨rfl, (by decide : 2 * encodedLength "" ≤ encodedLength "task" + encodedLength ""), rfl, rfl, trivial, trivial⟩

def emptyChannelRun : List (TimedCall Bytes Nat) := [⟨0, 0, smallPut "t" none "c1" [("x", 1)] [] [("x", 1)]⟩]

def taskPathRun : List (TimedCall Bytes Nat) :=
  [⟨0, 0, .putWrites (smallLocation "t" (some "c1")) [("x", []), ("y", []), ("z", [])] "k" "path"⟩]

-- 21 bytes after a `put` under a budget of 16, and 30 after a batch under a budget of 23.
theorem budget_exceeded :
    ¬ Transition.Always (smallBoundedSaver 0 15).step (smallBoundedSaver 0 15).WithinBudget
        (smallBoundedSaver 0 15).initial emptyChannelRun ∧
      ¬ Transition.Always (smallBoundedSaver 0 22).step (smallBoundedSaver 0 22).WithinBudget
        (smallBoundedSaver 0 22).initial taskPathRun := by
  constructor
  · intro always
    have last := Transition.always_last _ _ _ _ always
    revert last
    unfold WithinBudget
    decide
  · intro always
    have last := Transition.always_last _ _ _ _ always
    revert last
    unfold WithinBudget
    decide

end LangGraphServer.BoundedInMemorySaver
