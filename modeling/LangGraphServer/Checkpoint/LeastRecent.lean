import LangGraphServer.Checkpoint.Recency

set_option autoImplicit false

namespace LangGraphServer.BoundedInMemorySaver

open Collections

variable {Value Version : Type} [DecidableEq Version] (saver : BoundedInMemorySaver Value Version)

-- The loop as the source runs it, without a bound on its rounds: it ends.
inductive EvictionEnds (full : saver.State → Bool) (victim : saver.State → Option String) : saver.State → Prop where
  | roomy (state : saver.State) : full state = false → EvictionEnds full victim state
  | stuck (state : saver.State) : full state = true → victim state = none → EvictionEnds full victim state
  | evicts (state : saver.State) (threadId : String) : full state = true → victim state = some threadId →
      EvictionEnds full victim (saver.deleteThreadLocked state threadId) → EvictionEnds full victim state

-- A loop that evicts from the front of an order takes the shortest prefix that makes room.
structure EvictedPrefix (full : saver.State → Bool) (order : saver.State → List String) (state after : saver.State)
    (roomy : Bool) (gone : List String) : Prop where
  dropped : after = saver.dropAll state gone
  front : gone <+: order state
  early : ∀ fewer, fewer <+: gone → fewer.length < gone.length → full (saver.dropAll state fewer) = true
  finished : roomy = true → full after = false
  stopped : roomy = false → gone = order state ∧ full after = true

section Loop

variable (full : saver.State → Bool) (victim : saver.State → Option String) (order : saver.State → List String)

structure EvictsFront : Prop where
  first : ∀ state, victim state = (order state).head?
  rest : ∀ state threadId later, order state = threadId :: later →
    order (saver.deleteThreadLocked state threadId) = later

variable {victim order}

theorem evict_while_prefix (front : saver.EvictsFront victim order) (rounds : Nat) (state : saver.State)
    (enough : (order state).length ≤ rounds) :
    ∃ gone, saver.EvictedPrefix full order state (saver.evictWhile full victim rounds state).1
      (saver.evictWhile full victim rounds state).2 gone := by
  have short (fewer : List String) (less : fewer.length < ([] : List String).length) : False := Nat.not_lt_zero _ less
  induction rounds generalizing state with
  | zero =>
      have nobody : order state = [] := List.length_eq_zero_iff.mp (Nat.le_zero.mp enough)
      refine ⟨[], rfl, List.nil_prefix, fun fewer _ less => (short fewer less).elim, fun room => ?_, fun stuck => ?_⟩
      · simpa [evictWhile] using room
      · exact ⟨nobody.symm, by simpa [evictWhile] using stuck⟩
  | succ rounds ih =>
      rw [evictWhile]
      cases crowded : full state with
      | false =>
          exact ⟨[], rfl, List.nil_prefix, fun fewer _ less => (short fewer less).elim, fun _ => crowded, by simp⟩
      | true =>
          cases ordered : order state with
          | nil =>
              have nobody : victim state = none := by rw [front.first, ordered, List.head?_nil]
              simp only [if_true, nobody]
              exact ⟨[], rfl, List.nil_prefix, fun fewer _ less => (short fewer less).elim, by simp,
                fun _ => ⟨ordered.symm, crowded⟩⟩
          | cons threadId later =>
              have chosen : victim state = some threadId := by rw [front.first, ordered, List.head?_cons]
              have remaining := front.rest state threadId later ordered
              rw [ordered, List.length_cons] at enough
              simp only [if_true, chosen]
              obtain ⟨gone, tail⟩ := ih (saver.deleteThreadLocked state threadId) (by rw [remaining]; omega)
              refine ⟨threadId :: gone, tail.dropped, ?_, fun fewer shorter less => ?_, tail.finished, fun stuck => ?_⟩
              · rw [ordered]
                exact (List.prefix_cons_inj threadId).mpr (remaining ▸ tail.front)
              · cases fewer with
                | nil => exact crowded
                | cons first others =>
                    obtain ⟨rfl, inside⟩ := List.cons_prefix_cons.mp shorter
                    exact tail.early others inside (by simpa using less)
              · obtain ⟨all, crammed⟩ := tail.stopped stuck
                rw [ordered, all, remaining]
                exact ⟨rfl, crammed⟩

theorem eviction_ends (front : saver.EvictsFront victim order) (state : saver.State) :
    saver.EvictionEnds full victim state := by
  generalize same : order state = waiting
  induction waiting generalizing state with
  | nil =>
      cases crowded : full state with
      | false => exact .roomy state crowded
      | true => exact .stuck state crowded (by rw [front.first, same, List.head?_nil])
  | cons threadId later ih =>
      cases crowded : full state with
      | false => exact .roomy state crowded
      | true =>
          exact .evicts state threadId crowded (by rw [front.first, same, List.head?_cons])
            (ih (saver.deleteThreadLocked state threadId) (front.rest state threadId later same))

end Loop

-- The threads that may be evicted for a thread, least recently used first.
def evictable (threadId : String) (state : saver.State) : List String :=
  state.lastAccess.keys.filter (fun other => decide (other ≠ threadId))

theorem evictable_rest (lawful : saver.inherited.Lawful) (threadId victim : String) (later : List String)
    (state : saver.State) (ordered : saver.evictable threadId state = victim :: later) :
    saver.evictable threadId (saver.deleteThreadLocked state victim) = later := by
  have distinct : (victim :: later).Nodup := ordered ▸ (Dict.keys_nodup state.lastAccess).filter _
  rw [evictable, (saver.delete_thread_drops lawful state victim).lastAccess, Dict.pop, Dict.keys_restrict,
    List.filter_comm]
  rw [evictable] at ordered
  rw [ordered, List.filter_cons_of_neg (by simp), List.filter_eq_self]
  intro other member
  rw [decide_eq_true_iff]
  rintro rfl
  exact (List.nodup_cons.mp distinct).1 member

def threadsFull (state : saver.State) : Bool := decide (saver.config.maxThreads ≤ state.lastAccess.size)

def bytesFull (requiredBytes : Nat) (state : saver.State) : Bool :=
  decide ((saver.config.maxTotalBytes : Int) < state.serializedBytes + requiredBytes)

def oldest (state : saver.State) : Option String := state.lastAccess.keys.head?

def oldestOther (threadId : String) (state : saver.State) : Option String :=
  state.lastAccess.keys.find? (fun other => decide (other ≠ threadId))

theorem oldest_front (lawful : saver.inherited.Lawful) :
    saver.EvictsFront saver.oldest (fun state => state.lastAccess.keys) := by
  refine ⟨fun _ => rfl, fun state threadId later ordered => ?_⟩
  have distinct := ordered ▸ Dict.keys_nodup state.lastAccess
  rw [(saver.delete_thread_drops lawful state threadId).lastAccess, Dict.pop, Dict.keys_restrict, ordered,
    List.filter_cons_of_neg (by simp), List.filter_eq_self]
  intro other member
  rw [decide_eq_true_iff]
  rintro rfl
  exact (List.nodup_cons.mp distinct).1 member

theorem oldest_other_front (lawful : saver.inherited.Lawful) (threadId : String) :
    saver.EvictsFront (saver.oldestOther threadId) (saver.evictable threadId) :=
  ⟨fun _ => List.head?_filter.symm, fun state victim later => saver.evictable_rest lawful threadId victim later state⟩

omit [DecidableEq Version] in
theorem untracked_evictable (threadId : String) (state : saver.State) (untracked : threadId ∉ state.lastAccess.keys) :
    saver.evictable threadId state = state.lastAccess.keys := by
  rw [evictable, List.filter_eq_self]
  intro other member
  rw [decide_eq_true_iff]
  rintro rfl
  exact untracked member

theorem drop_all_evictable (lawful : saver.inherited.Lawful) (threadId : String) (gone : List String)
    (state : saver.State) : saver.evictable threadId (saver.dropAll state gone) =
      (saver.evictable threadId state).filter (fun other => decide (other ∉ gone)) := by
  rw [evictable, saver.drop_all_keys lawful, List.filter_comm, evictable]

def remaining (state : saver.State) (gone : List String) : List String :=
  state.lastAccess.keys.filter (fun threadId => decide (threadId ∉ gone))

def remainingBytes (state : saver.State) (gone : List String) : Nat :=
  (state.sizes.restrict (fun key => decide (key.threadId ∉ gone))).total (fun size => size)

theorem drop_all_sizes (lawful : saver.inherited.Lawful) (gone : List String) (state : saver.State)
    (key : SizeKey Version) : (saver.dropAll state gone).sizes.get? key =
      if key.threadId ∈ gone then none else state.sizes.get? key := by
  induction gone generalizing state with
  | nil => simp [dropAll]
  | cons first rest ih =>
      have tail := ih (saver.deleteThreadLocked state first)
      rw [(saver.delete_thread_drops lawful state first).sizes] at tail
      refine tail.trans ?_
      by_cases later : key.threadId ∈ rest <;> by_cases now : key.threadId = first <;> simp [later, now]

theorem drop_all_bytes (lawful : saver.inherited.Lawful) (gone : List String) (state : saver.State)
    (accounted : saver.Accounted state) : (saver.dropAll state gone).serializedBytes =
      saver.remainingBytes state gone := by
  rw [(saver.drop_all_accounted lawful state gone accounted).balanced, remainingBytes]
  congr 1
  apply Dict.total_congr
  intro key
  rw [saver.drop_all_sizes lawful, Dict.get_restrict]
  by_cases absent : key.threadId ∈ gone <;> simp [absent]

theorem drop_all_remaining (lawful : saver.inherited.Lawful) (gone : List String) (state : saver.State) :
    (saver.dropAll state gone).lastAccess.size = (saver.remaining state gone).length := by
  rw [← Dict.keys_length, saver.drop_all_keys lawful, remaining]

-- Room for an operation on a thread once some threads are gone: the thread is tracked or
-- may be, and the bytes fit.
def RoomFor (state : saver.State) (threadId : String) (requiredBytes : Nat) (gone : List String) : Prop :=
  (threadId ∈ state.lastAccess.keys ∨ (saver.remaining state gone).length < saver.config.maxThreads) ∧
    saver.remainingBytes state gone + requiredBytes ≤ saver.config.maxTotalBytes

theorem make_room_for_thread_prefix (lawful : saver.inherited.Lawful) (state : saver.State) (threadId : String) :
    ∃ gone, saver.makeRoomForThreadLocked state threadId = saver.dropAll state gone ∧
      gone <+: saver.evictable threadId state ∧
      (threadId ∈ state.lastAccess.keys ∨ (saver.remaining state gone).length < saver.config.maxThreads) ∧
      ∀ fewer, fewer <+: gone → fewer.length < gone.length →
        ¬ (threadId ∈ state.lastAccess.keys ∨ (saver.remaining state fewer).length < saver.config.maxThreads) := by
  rw [makeRoomForThreadLocked]
  by_cases known : threadId ∈ state.lastAccess.keys
  · rw [if_pos known]
    exact ⟨[], rfl, List.nil_prefix, Or.inl known, fun fewer _ less => (Nat.not_lt_zero _ less).elim⟩
  · rw [if_neg known]
    obtain ⟨gone, evicted⟩ := saver.evict_while_prefix saver.threadsFull (saver.oldest_front lawful)
      state.lastAccess.size state (Nat.le_of_eq (Dict.keys_length _))
    refine ⟨gone, evicted.dropped, ?_, Or.inr ?_, fun fewer shorter less room => ?_⟩
    · rw [saver.untracked_evictable threadId state known]
      exact evicted.front
    · rw [← saver.drop_all_remaining lawful, ← evicted.dropped]
      cases roomy : (saver.evictWhile saver.threadsFull saver.oldest state.lastAccess.size state).2 with
      | true =>
          have few := evicted.finished roomy
          rw [threadsFull, decide_eq_false_iff_not, Nat.not_le] at few
          exact few
      | false =>
          -- nobody is left, so there is room
          have all := (evicted.stopped roomy).1
          have empty : (saver.remaining state gone) = [] := by
            rw [remaining, List.filter_eq_nil_iff]
            intro other member
            rw [all]
            simpa using member
          rw [evicted.dropped, saver.drop_all_remaining lawful, empty]
          exact saver.config.threadsPositive
    · have crowded := evicted.early fewer shorter less
      rw [threadsFull, decide_eq_true_iff, saver.drop_all_remaining lawful] at crowded
      rcases room with tracked | few
      · exact known tracked
      · omega

theorem make_room_for_bytes_evicts (state : saver.State) (requiredBytes : Nat) (threadId : String) :
    saver.makeRoomForBytesLocked state requiredBytes threadId =
      ((saver.evictWhile (saver.bytesFull requiredBytes) (saver.oldestOther threadId) state.lastAccess.size state).1,
        if (saver.evictWhile (saver.bytesFull requiredBytes) (saver.oldestOther threadId)
          state.lastAccess.size state).2 = true
        then .ok () else .error (.capacityError "operation exceeds the in-memory checkpoint byte budget")) := by
  rw [makeRoomForBytesLocked]
  split
  all_goals
    rename_i ended
    change saver.evictWhile (saver.bytesFull requiredBytes) (saver.oldestOther threadId) _ _ = _ at ended
    rw [ended]
    rfl

theorem make_room_for_bytes_prefix (lawful : saver.inherited.Lawful) (state : saver.State) (requiredBytes : Nat)
    (threadId : String) :
    ∃ gone roomy, saver.EvictedPrefix (saver.bytesFull requiredBytes) (saver.evictable threadId) state
        (saver.makeRoomForBytesLocked state requiredBytes threadId).1 roomy gone ∧
      (saver.makeRoomForBytesLocked state requiredBytes threadId).2 = (if roomy = true then .ok () else
        .error (.capacityError "operation exceeds the in-memory checkpoint byte budget")) := by
  obtain ⟨gone, evicted⟩ := saver.evict_while_prefix (saver.bytesFull requiredBytes)
    (saver.oldest_other_front lawful threadId) state.lastAccess.size state
    (Nat.le_trans (List.length_filter_le _ _) (Nat.le_of_eq (Dict.keys_length _)))
  rw [saver.make_room_for_bytes_evicts]
  generalize saver.evictWhile (saver.bytesFull requiredBytes) (saver.oldestOther threadId) state.lastAccess.size state =
    result at evicted ⊢
  obtain ⟨after, roomy⟩ := result
  cases roomy with
  | true => exact ⟨gone, true, evicted, rfl⟩
  | false => exact ⟨gone, false, evicted, rfl⟩

theorem prefix_rest (order front : List String) (distinct : order.Nodup) (isPrefix : front <+: order) :
    front ++ order.filter (fun other => decide (other ∉ front)) = order := by
  obtain ⟨rest, rfl⟩ := isPrefix
  have apart := (List.nodup_append.mp distinct).2.2
  rw [List.filter_append, List.filter_eq_nil_iff.mpr (by simp), List.nil_append, List.filter_eq_self.mpr]
  intro other member
  rw [decide_eq_true_iff]
  exact fun earlier => apart other earlier other member rfl

-- Whether it accepts or refuses, the locked section evicts from the front of the access
-- order, and nobody once there is room.
theorem reserve_takes (lawful : saver.inherited.Lawful) (state : saver.State) (now : Time)
    (threadId checkpointNs checkpointId : String) (requiredBytes : Nat) (accounted : saver.Accounted state) :
    ∃ gone, (saver.reserveLocked state now threadId checkpointNs checkpointId requiredBytes).1 =
        saver.dropAll (saver.purgeExpiredLocked state now).1 gone ∧
      TakenFromFront (saver.evictable threadId (saver.purgeExpiredLocked state now).1)
        (saver.RoomFor (saver.purgeExpiredLocked state now).1 threadId requiredBytes)
        ((saver.reserveLocked state now threadId checkpointNs checkpointId requiredBytes).2 = .ok ()) gone := by
  have counted : saver.Accounted (saver.purgeExpiredLocked state now).1 :=
    saver.drop_all_accounted lawful state (saver.expiredThreads state now) accounted
  generalize reached : (saver.purgeExpiredLocked state now).1 = purged at counted ⊢
  obtain ⟨crowding, roomier, front, tracked, threadsEarly⟩ :=
    saver.make_room_for_thread_prefix lawful purged threadId
  obtain ⟨heavy, roomy, evicted, outcome⟩ := saver.make_room_for_bytes_prefix lawful
    (saver.makeRoomForThreadLocked purged threadId) requiredBytes threadId
  simp only [reserveLocked, reached]
  cases checked : saver.checkLimitsLocked (saver.makeRoomForThreadLocked purged threadId) threadId checkpointNs
      checkpointId with
  | error error =>
      refine ⟨crowding, roomier, front, fun fewer shorter less room => threadsEarly fewer shorter less room.1,
        fun accepted => ?_⟩
      cases accepted
  | ok passed =>
      simp only
      rw [outcome]
      rw [roomier] at evicted
      refine ⟨crowding ++ heavy, ?_, ?_, ?_, fun accepted => ?_⟩
      · rw [drop_all_append, ← evicted.dropped, roomier]
      · have order := prefix_rest (saver.evictable threadId purged) crowding
          ((Dict.keys_nodup purged.lastAccess).filter _) front
        have behind := evicted.front
        rw [saver.drop_all_evictable lawful] at behind
        rw [← order]
        exact (List.prefix_append_right_inj crowding).mpr behind
      · apply early_append (fun gone => threadId ∈ purged.lastAccess.keys ∨
          (saver.remaining purged gone).length < saver.config.maxThreads)
          (fun gone => saver.remainingBytes purged gone + requiredBytes ≤ saver.config.maxTotalBytes)
        · exact threadsEarly
        · intro fewer shorter less fits
          have crowded := evicted.early fewer shorter less
          rw [bytesFull, decide_eq_true_iff, ← drop_all_append, saver.drop_all_bytes lawful _ purged counted] at crowded
          omega
      · have enough : roomy = true := by
          cases roomy with
          | true => rfl
          | false => cases accepted
        have light := evicted.finished enough
        constructor
        · rcases tracked with known | few
          · exact Or.inl known
          · apply Or.inr
            rw [← saver.drop_all_remaining lawful, drop_all_append]
            rw [← saver.drop_all_remaining lawful] at few
            exact Nat.lt_of_le_of_lt (saver.drop_all_size_le lawful heavy _) few
        · rw [evicted.dropped, ← drop_all_append, bytesFull, decide_eq_false_iff_not,
            saver.drop_all_bytes lawful _ purged counted] at light
          omega

theorem reserve_prefix (lawful : saver.inherited.Lawful) (state : saver.State) (now : Time)
    (threadId checkpointNs checkpointId : String) (requiredBytes : Nat) (accounted : saver.Accounted state)
    (accepted : (saver.reserveLocked state now threadId checkpointNs checkpointId requiredBytes).2 = .ok ()) :
    ∃ gone, (saver.reserveLocked state now threadId checkpointNs checkpointId requiredBytes).1 =
        saver.dropAll (saver.purgeExpiredLocked state now).1 gone ∧
      ShortestPrefix (saver.evictable threadId (saver.purgeExpiredLocked state now).1)
        (saver.RoomFor (saver.purgeExpiredLocked state now).1 threadId requiredBytes) gone := by
  obtain ⟨gone, same, taken⟩ :=
    saver.reserve_takes lawful state now threadId checkpointNs checkpointId requiredBytes accounted
  exact ⟨gone, same, taken.shortest _ _ _ _ accepted⟩

-- A purge drops the threads whose last access is too old, and they come first in the order.
structure PurgesOldest (state : saver.State) (now : Time) : Prop where
  expired : ∀ threadId, threadId ∈ saver.expiredThreads state now ↔
    ∃ time, state.lastAccess.get? threadId = some time ∧ time ≤ now - saver.config.idleTtlSeconds
  front : saver.expiredThreads state now <+: state.lastAccess.keys
  purged : (saver.purgeExpiredLocked state now).1.lastAccess.entries =
    state.lastAccess.entries.filter (fun row => decide (row.1 ∉ saver.expiredThreads state now))
  items : ∀ key, (saver.purgeExpiredLocked state now).1.dicts.itemSize? key =
    if key.threadId ∈ saver.expiredThreads state now then none else state.dicts.itemSize? key

theorem drop_all_items (lawful : saver.inherited.Lawful) (gone : List String) (state : saver.State)
    (key : SizeKey Version) : (saver.dropAll state gone).dicts.itemSize? key =
      if key.threadId ∈ gone then none else state.dicts.itemSize? key := by
  induction gone generalizing state with
  | nil => simp [dropAll]
  | cons first rest ih =>
      have tail := ih (saver.deleteThreadLocked state first)
      rw [(saver.delete_thread_drops lawful state first).dicts, SaverDicts.item_drop] at tail
      refine tail.trans ?_
      by_cases later : key.threadId ∈ rest <;> by_cases now : key.threadId = first <;> simp [later, now]

theorem purges_oldest (lawful : saver.inherited.Lawful) (past : List (String × Time)) (reading now : Time)
    (state : saver.State) (recent : saver.RecencyOrder past reading state) : saver.PurgesOldest state now := by
  constructor
  · intro threadId
    simp only [expiredThreads, List.mem_map, List.mem_filter, decide_eq_true_iff]
    constructor
    · rintro ⟨row, ⟨member, old⟩, rfl⟩
      exact ⟨row.2, (Dict.mem_entries _ _ _).mp member, old⟩
    · rintro ⟨time, found, old⟩
      exact ⟨(threadId, time), ⟨(Dict.mem_entries _ _ _).mpr found, old⟩, rfl⟩
  · exact (filter_prefix_of_pairwise _ _ _ recent.ascending (fun first second before old => by
      rw [decide_eq_true_iff] at old ⊢
      exact le_trans before old)).map Prod.fst
  · exact saver.drop_all_entries lawful (saver.expiredThreads state now) state
  · exact saver.drop_all_items lawful (saver.expiredThreads state now) state

structure EvictsOldest (purged after : saver.State) (threadId : String) (requiredBytes : Nat) (later : Time)
    (gone : List String) : Prop where
  shortest : ShortestPrefix (saver.evictable threadId purged) (saver.RoomFor purged threadId requiredBytes) gone
  order : after.lastAccess.entries = purged.lastAccess.entries.filter
    (fun row => decide (row.1 ≠ threadId ∧ row.1 ∉ gone)) ++ [(threadId, later)]
  items : ∀ key, key.threadId ≠ threadId → after.dicts.itemSize? key =
    if key.threadId ∈ gone then none else purged.dicts.itemSize? key

theorem touched_order (lawful : saver.inherited.Lawful) (purged : saver.State) (gone : List String) (threadId : String)
    (later : Time) : (saver.touchLocked (saver.dropAll purged gone) threadId later).lastAccess.entries =
      purged.lastAccess.entries.filter (fun row => decide (row.1 ≠ threadId ∧ row.1 ∉ gone)) ++
        [(threadId, later)] := by
  rw [touchLocked, Dict.entries_pop_set, saver.drop_all_entries lawful, List.filter_filter]
  simp only [Bool.decide_and]

theorem put_evicts_oldest (lawful : saver.inherited.Lawful) (state : saver.State) (now later : Time)
    (config : RunnableConfig) (checkpoint : Checkpoint Value Version) (metadata : Metadata)
    (versions : ChannelVersions Version) (location : RunnableConfig) (accounted : saver.Accounted state)
    (answered : (saver.put state now later config checkpoint metadata versions).2 = .ok location) :
    ∃ key requiredBytes gone, saver.prepareCheckpoint config checkpoint metadata versions = .ok (key, requiredBytes) ∧
      saver.EvictsOldest (saver.purgeExpiredLocked state now).1
        (saver.put state now later config checkpoint metadata versions).1 key.1 requiredBytes later gone := by
  rcases saver.put_cases lawful state now later config checkpoint metadata versions with
    ⟨gone, error, refused⟩ | ⟨after, dropped, key, size, stored, values, blobs, stores, prepared, reserving, accepted⟩
  · rw [refused] at answered
    cases answered
  · have reserved := saver.reserve_prefix lawful state now key.1 key.2.1 key.2.2 size accounted (by rw [reserving])
    rw [reserving] at reserved
    obtain ⟨gone, same, shortest⟩ := reserved
    change saver.dropAll state dropped = _ at same
    refine ⟨key, size, gone, prepared, shortest, ?_, fun query other => ?_⟩
    · rw [accepted, stores.booked]
      refine (saver.booked_entries (saver.storedState state dropped config checkpoint metadata versions
        key stored blobs) (storeKeys key versions) key.1 later (saver.dropAll state dropped) rfl).trans ?_
      rw [same]
      exact saver.touched_order lawful _ gone key.1 later
    · have elsewhere : query ∉ storeKeys key versions := by
        intro listed
        rcases List.mem_cons.mp listed with rfl | blob
        · exact other rfl
        · obtain ⟨row, _, rfl⟩ := List.mem_map.mp blob
          exact other rfl
      rw [accepted, stores.committed.1, item_store_checkpoint _ key stored versions blobs stores.commit.keyed query
        elsewhere, same]
      exact saver.drop_all_items lawful gone _ query

theorem put_writes_evicts_oldest (lawful : saver.inherited.Lawful) (state : saver.State) (now later : Time)
    (config : RunnableConfig) (batch : List (String × Value)) (taskId taskPath : String)
    (accounted : saver.Accounted state)
    (answered : (saver.putWrites state now later config batch taskId taskPath).2 = .ok ()) :
    ∃ key requiredBytes gone, saver.prepareWrites config batch taskId taskPath = .ok (key, requiredBytes) ∧
      saver.EvictsOldest (saver.purgeExpiredLocked state now).1
        (saver.putWrites state now later config batch taskId taskPath).1 key.1 requiredBytes later gone := by
  rcases saver.put_writes_cases lawful state now later config batch taskId taskPath with
    ⟨gone, error, refused⟩ | ⟨after, dropped, key, requested, rows, writes, prepared, reserving, accepted⟩
  · rw [refused] at answered
    cases answered
  · have reserved := saver.reserve_prefix lawful state now key.1 key.2.1 key.2.2 requested accounted (by rw [reserving])
    rw [reserving] at reserved
    obtain ⟨gone, same, shortest⟩ := reserved
    change saver.dropAll state dropped = _ at same
    refine ⟨key, requested, gone, prepared, shortest, ?_, fun query other => ?_⟩
    · rw [accepted, writes.booked]
      refine (saver.booked_entries (saver.wroteState state dropped config batch taskId taskPath key rows)
        (wroteKeys _ key) key.1 later (saver.dropAll state dropped) rfl).trans ?_
      rw [same]
      exact saver.touched_order lawful _ gone key.1 later
    · have elsewhere : query ∉ wroteKeys ((saver.dropAll state dropped).dicts.storeWrites key rows) key := by
        intro listed
        obtain ⟨row, _, rfl⟩ := List.mem_map.mp listed
        exact other rfl
      rw [accepted, writes.committed.1, item_store_writes _ key rows query elsewhere, same]
      exact saver.drop_all_items lawful gone _ query

-- Everything that eviction promises, for the state that a run has reached.
structure LeastRecentlyUsed (past : List (String × Time)) (state : saver.State) : Prop where
  recency : ∃ reading, saver.RecencyOrder past reading state
  purge : ∀ now, saver.PurgesOldest state now
  put : ∀ now later config checkpoint metadata versions location,
    (saver.put state now later config checkpoint metadata versions).2 = .ok location →
    ∃ key requiredBytes gone, saver.prepareCheckpoint config checkpoint metadata versions = .ok (key, requiredBytes) ∧
      saver.EvictsOldest (saver.purgeExpiredLocked state now).1
        (saver.put state now later config checkpoint metadata versions).1 key.1 requiredBytes later gone
  putWrites : ∀ now later config batch taskId taskPath,
    (saver.putWrites state now later config batch taskId taskPath).2 = .ok () →
    ∃ key requiredBytes gone, saver.prepareWrites config batch taskId taskPath = .ok (key, requiredBytes) ∧
      saver.EvictsOldest (saver.purgeExpiredLocked state now).1
        (saver.putWrites state now later config batch taskId taskPath).1 key.1 requiredBytes later gone
  threadLoopEnds : saver.EvictionEnds saver.threadsFull saver.oldest state
  byteLoopEnds : ∀ threadId requiredBytes,
    saver.EvictionEnds (saver.bytesFull requiredBytes) (saver.oldestOther threadId) state

theorem eviction_is_least_recently_used (lawful : saver.inherited.Lawful) (reading : Time)
    (calls : List (TimedCall Value Version)) (clock : Nondecreasing reading calls) :
    saver.LeastRecentlyUsed (saver.accesses saver.initial calls) (Transition.run saver.step saver.initial calls) := by
  have start : saver.RecencyOrder [] reading saver.initial :=
    ⟨rfl, fun _ _ member => (List.not_mem_nil member).elim, List.Pairwise.nil,
      fun _ member => (List.not_mem_nil member).elim⟩
  obtain ⟨last, recent⟩ := saver.run_recency lawful calls [] reading saver.initial start clock
  rw [List.nil_append] at recent
  have accounted := Transition.run_keeps saver.step saver.Accounted (saver.step_accounted lawful) saver.initial
    saver.initial_accounted calls
  exact {
    recency := ⟨last, recent⟩
    purge := fun now => saver.purges_oldest lawful _ last now _ recent
    put := fun now later config checkpoint metadata versions location answered =>
      saver.put_evicts_oldest lawful _ now later config checkpoint metadata versions location accounted answered
    putWrites := fun now later config batch taskId taskPath answered =>
      saver.put_writes_evicts_oldest lawful _ now later config batch taskId taskPath accounted answered
    threadLoopEnds := saver.eviction_ends _ (saver.oldest_front lawful) _
    byteLoopEnds := fun threadId requiredBytes => saver.eviction_ends _ (saver.oldest_other_front lawful threadId) _ }

theorem eviction_is_least_recently_used_small_run :
    (smallBoundedSaver 0 99).LeastRecentlyUsed
    ((smallBoundedSaver 0 99).accesses (smallBoundedSaver 0 99).initial smallRun)
      (Transition.run (smallBoundedSaver 0 99).step (smallBoundedSaver 0 99).initial smallRun) :=
  (smallBoundedSaver 0 99).eviction_is_least_recently_used smallSaver.lawful 0 smallRun
    (by simp only [Nondecreasing, smallRun]; decide +kernel)

end LangGraphServer.BoundedInMemorySaver
