import LangGraphServer.Checkpoint.Reference
import LangGraphServer.Checkpoint.Victims
import LangGraphServer.Lib.Run

set_option autoImplicit false

namespace LangGraphServer

open Collections

def SaverCall.IsWrite {Value Version : Type} : SaverCall Value Version → Prop
  | .put _ _ _ _ => True
  | .putWrites _ _ _ _ => True
  | _ => False

namespace BoundedInMemorySaver

variable {Value Version : Type} [DecidableEq Version] (saver : BoundedInMemorySaver Value Version)

-- A refused write leaves what its locked section left: the inherited saver stores nothing
-- when it raises.
theorem put_refused (lawful : saver.inherited.Lawful) (state : saver.State) (now later : Time)
    (config : RunnableConfig) (checkpoint : Checkpoint Value Version) (metadata : Metadata)
    (versions : ChannelVersions Version) (key : CheckpointKey) (estimatedSize : Nat) (error : PyError)
    (checked : saver.prepareCheckpoint config checkpoint metadata versions = .ok (key, estimatedSize))
    (raised : (saver.put state now later config checkpoint metadata versions).2 = .error error) :
    (saver.put state now later config checkpoint metadata versions).1 =
      (saver.reserveLocked state now key.1 key.2.1 key.2.2 estimatedSize).1 := by
  obtain ⟨gone, reserved⟩ := saver.reserve_spec lawful state now key.1 key.2.1 key.2.2 estimatedSize
  cases reserving : saver.reserveLocked state now key.1 key.2.1 key.2.2 estimatedSize with
  | mk roomy outcome =>
      rw [reserving] at reserved
      obtain rfl : roomy = saver.dropAll state gone := reserved.dropped
      cases outcome with
      | error refusal =>
          rw [put, checked]
          simp only [reserving]
      | ok done =>
          by_cases required : config.entry? "checkpoint_ns" = none ∨ checkpoint.channelValues = none
          · obtain ⟨refusal, refused⟩ := lawful.put_requires (saver.dropAll state gone).dicts config checkpoint
              metadata versions required
            rw [put, checked]
            simp only [reserving, refused]
          · rw [not_or] at required
            obtain ⟨values, given⟩ := Option.ne_none_iff_exists'.mp required.2
            obtain ⟨after, stored, blobs, _, accepted⟩ := saver.put_reserved lawful state now later config
              checkpoint metadata versions gone key estimatedSize values checked reserving reserved required.1 given
            rw [accepted] at raised
            cases raised

theorem put_writes_refused (lawful : saver.inherited.Lawful) (state : saver.State) (now later : Time)
    (config : RunnableConfig) (writes : List (String × Value)) (taskId taskPath : String) (key : CheckpointKey)
    (requested : Nat) (error : PyError)
    (checked : saver.prepareWrites config writes taskId taskPath = .ok (key, requested))
    (raised : (saver.putWrites state now later config writes taskId taskPath).2 = .error error) :
    (saver.putWrites state now later config writes taskId taskPath).1 =
      (saver.reserveLocked state now key.1 key.2.1 key.2.2 requested).1 := by
  obtain ⟨gone, reserved⟩ := saver.reserve_spec lawful state now key.1 key.2.1 key.2.2 requested
  cases reserving : saver.reserveLocked state now key.1 key.2.1 key.2.2 requested with
  | mk roomy outcome =>
      rw [reserving] at reserved
      obtain rfl : roomy = saver.dropAll state gone := reserved.dropped
      cases outcome with
      | error refusal =>
          rw [putWrites, checked]
          simp only [reserving]
      | ok done =>
          by_cases namespaced : config.entry? "checkpoint_ns" = none
          · obtain ⟨refusal, refused⟩ := lawful.put_writes_requires (saver.dropAll state gone).dicts config writes
              taskId taskPath namespaced
            rw [putWrites, checked]
            simp only [reserving, refused]
          · obtain ⟨after, rows, _, accepted⟩ := saver.put_writes_reserved lawful state now later config writes
              taskId taskPath gone key requested checked reserving reserved namespaced
            rw [accepted] at raised
            cases raised

-- The unexpired threads other than some victims keep all they have, and their places in the
-- order of use.
structure SparesAllBut (victims : List String) (state after : saver.State) (now : Time) : Prop where
  kept : ∀ threadId, threadId ∉ saver.expiredThreads state now → threadId ∉ victims →
    saver.KeepsThread state after threadId
  order : after.lastAccess.entries.filter (fun row => decide (row.1 ∉ saver.expiredThreads state now)) =
    state.lastAccess.entries.filter (fun row => decide (row.1 ∉ saver.expiredThreads state now ++ victims))

theorem spares_all_refl (state : saver.State) (now : Time) : saver.SparesAllBut [] state state now := by
  refine ⟨fun _ _ _ => ⟨fun _ _ => rfl, fun _ _ => rfl, fun _ _ _ => rfl, fun _ _ => rfl⟩, ?_⟩
  rw [List.append_nil]

-- The unexpired threads other than the one a call names, the least recently used first.
def othersInOrder (state : saver.State) (timed : TimedCall Value Version) : List String :=
  (saver.purgeExpiredLocked state timed.now).1.lastAccess.keys.filter
    (fun other => decide (timed.call.threadId? ≠ some other))

-- There is room for a write without an eviction, or it is refused before it needs any.
def SparesOthers (state : saver.State) (timed : TimedCall Value Version) : Prop :=
  match timed.call with
  | .put config checkpoint metadata versions => ∀ key estimatedSize,
      saver.prepareCheckpoint config checkpoint metadata versions = .ok (key, estimatedSize) →
      saver.SparesThreads (saver.purgeExpiredLocked state timed.now).1 key.1 key.2.1 key.2.2 estimatedSize
  | .putWrites config writes taskId taskPath => ∀ key requested,
      saver.prepareWrites config writes taskId taskPath = .ok (key, requested) →
      saver.SparesThreads (saver.purgeExpiredLocked state timed.now).1 key.1 key.2.1 key.2.2 requested
  | _ => True

theorem evictable_others (state : saver.State) (timed : TimedCall Value Version) (threadId : String)
    (named : timed.call.threadId? = some threadId) :
    saver.evictable threadId (saver.purgeExpiredLocked state timed.now).1 = saver.othersInOrder state timed := by
  rw [evictable, othersInOrder, named]
  congr 1
  funext other
  rw [decide_eq_decide, ne_eq, ne_eq, Option.some.injEq, eq_comm]

theorem reserve_spares (lawful : saver.inherited.Lawful) (state : saver.State) (now : Time)
    (threadId checkpointNs checkpointId : String) (requiredBytes : Nat) :
    ∃ victims, saver.SparesAllBut victims state
        (saver.reserveLocked state now threadId checkpointNs checkpointId requiredBytes).1 now ∧
      victims <+: saver.evictable threadId (saver.purgeExpiredLocked state now).1 ∧
      (victims = [] ↔ saver.SparesThreads (saver.purgeExpiredLocked state now).1 threadId checkpointNs checkpointId
        requiredBytes) := by
  obtain ⟨victims, dropped, front, nobody⟩ :=
    saver.reserve_victims lawful state now threadId checkpointNs checkpointId requiredBytes
  have purged : (saver.purgeExpiredLocked state now).1 = saver.dropAll state (saver.expiredThreads state now) := rfl
  refine ⟨victims, ⟨fun other unexpired spared => ?_, ?_⟩, front, nobody⟩
  · rw [dropped, purged, ← drop_all_append]
    apply saver.drop_all_keeps_thread lawful
    rw [List.mem_append, not_or]
    exact ⟨unexpired, spared⟩
  · rw [dropped, purged, ← drop_all_append, saver.drop_all_entries lawful, List.filter_filter]
    congr 1
    funext row
    by_cases gone : row.1 ∈ saver.expiredThreads state now <;> simp [gone]

-- A write that raises takes nothing from the thread it names, and from the others only what
-- making room for it evicts.
theorem failed_write_spares_all_but_evicted (lawful : saver.inherited.Lawful) (state : saver.State)
    (timed : TimedCall Value Version) (error : PyError) (write : timed.call.IsWrite)
    (raised : (saver.perform state timed).2 = .error error) :
    ∃ victims, saver.SparesAllBut victims state (saver.step state timed) timed.now ∧
      victims <+: saver.othersInOrder state timed ∧ (victims = [] ↔ saver.SparesOthers state timed) := by
  rw [SparesOthers]
  rw [step]
  rw [perform] at raised ⊢
  cases called : timed.call with
  | put config checkpoint metadata versions =>
      simp only [called] at raised ⊢
      cases checked : saver.prepareCheckpoint config checkpoint metadata versions with
      | error refusal =>
          have same : (saver.put state timed.now timed.later config checkpoint metadata versions).1 = state := by
            rw [put, checked]
          rw [same]
          exact ⟨[], saver.spares_all_refl state timed.now, List.nil_prefix, fun _ key size prepared =>
            (by cases prepared), fun _ => rfl⟩
      | ok prepared =>
          obtain ⟨key, estimatedSize⟩ := prepared
          have named : timed.call.threadId? = some key.1 := by
            rw [called, SaverCall.threadId?, RunnableConfig.threadId?,
              (saver.prepare_checkpoint_spec config checkpoint metadata versions key estimatedSize checked).threadId]
          cases answered : (saver.put state timed.now timed.later config checkpoint metadata versions).2 with
          | ok result =>
              rw [answered] at raised
              cases raised
          | error refusal =>
              rw [saver.put_refused lawful state timed.now timed.later config checkpoint metadata versions key
                estimatedSize refusal checked answered, ← saver.evictable_others state timed key.1 named]
              obtain ⟨victims, spared, front, nobody⟩ :=
                saver.reserve_spares lawful state timed.now key.1 key.2.1 key.2.2 estimatedSize
              refine ⟨victims, spared, front, nobody.trans ⟨fun spares other size same =>
                ?_, fun spares => spares key estimatedSize rfl⟩⟩
              cases same
              exact spares
  | putWrites config writes taskId taskPath =>
      simp only [called] at raised ⊢
      cases checked : saver.prepareWrites config writes taskId taskPath with
      | error refusal =>
          have same : (saver.putWrites state timed.now timed.later config writes taskId taskPath).1 = state := by
            rw [putWrites, checked]
          rw [same]
          exact ⟨[], saver.spares_all_refl state timed.now, List.nil_prefix, fun _ key size prepared =>
            (by cases prepared), fun _ => rfl⟩
      | ok prepared =>
          obtain ⟨key, requested⟩ := prepared
          obtain ⟨rows, commit⟩ := saver.prepare_writes_spec config writes taskId taskPath key requested checked
          have named : timed.call.threadId? = some key.1 := by
            rw [called, SaverCall.threadId?, RunnableConfig.threadId?, commit.threadId]
          cases answered : (saver.putWrites state timed.now timed.later config writes taskId taskPath).2 with
          | ok result =>
              rw [answered] at raised
              cases raised
          | error refusal =>
              rw [saver.put_writes_refused lawful state timed.now timed.later config writes taskId taskPath key
                requested refusal checked answered, ← saver.evictable_others state timed key.1 named]
              obtain ⟨victims, spared, front, nobody⟩ :=
                saver.reserve_spares lawful state timed.now key.1 key.2.1 key.2.2 requested
              refine ⟨victims, spared, front,
                nobody.trans ⟨fun spares other size same => ?_, fun spares => spares key requested rfl⟩⟩
              cases same
              exact spares
  | getTuple config => rw [called] at write; exact write.elim
  | list config filter before limit => rw [called] at write; exact write.elim
  | getDeltaChannelHistory config channels => rw [called] at write; exact write.elim
  | deleteThread threadId => rw [called] at write; exact write.elim
  | purgeExpired => rw [called] at write; exact write.elim
  | clear => rw [called] at write; exact write.elim
  | stats => rw [called] at write; exact write.elim

-- Two threads fill the budget but for five bytes, and a put for the one asks for more than
-- there is without the other.
def twoThreadsRun : List (TimedCall Bytes Nat) :=
  [⟨0, 0, smallPut "t" none "c1" [("x", 1)] [("x", [1, 2])] [("x", 1)]⟩,
    ⟨1, 1, smallPut "u" none "c1" [("x", 1)] [("x", [4])] [("x", 1)]⟩]

def heavyPut : TimedCall Bytes Nat :=
  ⟨2, 2, smallPut "t" (some "c1") "c2" [("x", 2)] [("x", List.replicate 10 0)] [("x", 2)]⟩

def twoThreads : (smallBoundedSaver 2 49).State :=
  Transition.run (smallBoundedSaver 2 49).step (smallBoundedSaver 2 49).initial twoThreadsRun

theorem heavy_put_raises : ∃ error, ((smallBoundedSaver 2 49).perform twoThreads heavyPut).2 = .error error := by
  have refused : ((smallBoundedSaver 2 49).perform twoThreads heavyPut).2.toBool = false := by decide +kernel
  cases answered : ((smallBoundedSaver 2 49).perform twoThreads heavyPut).2 with
  | ok reply =>
      rw [answered] at refused
      cases refused
  | error error => exact ⟨error, rfl⟩

theorem failed_write_spares_all_but_evicted_heavy_put :
    ∃ victims, (smallBoundedSaver 2 49).SparesAllBut victims twoThreads
        ((smallBoundedSaver 2 49).step twoThreads heavyPut) heavyPut.now ∧
      victims <+: (smallBoundedSaver 2 49).othersInOrder twoThreads heavyPut ∧
      (victims = [] ↔ (smallBoundedSaver 2 49).SparesOthers twoThreads heavyPut) := by
  obtain ⟨error, raised⟩ := heavy_put_raises
  exact (smallBoundedSaver 2 49).failed_write_spares_all_but_evicted smallSaver.lawful twoThreads heavyPut error trivial
    raised

theorem failed_write_evicts_another :
    (∃ error, ((smallBoundedSaver 2 49).perform twoThreads heavyPut).2 = .error error) ∧
      ¬ (smallBoundedSaver 2 49).SparesAllBut [] twoThreads ((smallBoundedSaver 2 49).step twoThreads heavyPut)
        heavyPut.now := by
  refine ⟨heavy_put_raises, fun unharmed => ?_⟩
  have unexpired : "u" ∉ (smallBoundedSaver 2 49).expiredThreads twoThreads heavyPut.now := by decide +kernel
  have lost := congrArg Option.isSome ((unharmed.kept "u" unexpired List.not_mem_nil).checkpoints ("u", "", "c1") rfl)
  have gone : ((((smallBoundedSaver 2 49).step twoThreads heavyPut).dicts.checkpoint? ("u", "", "c1")).isSome =
      (twoThreads.dicts.checkpoint? ("u", "", "c1")).isSome) = False := by
    simp only [eq_iff_iff, iff_false]
    decide +kernel
  rw [gone] at lost
  exact lost

end BoundedInMemorySaver

end LangGraphServer
