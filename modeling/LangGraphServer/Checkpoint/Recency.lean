import LangGraphServer.Checkpoint.Accounting
import LangGraphServer.Lib.Recency

set_option autoImplicit false

namespace LangGraphServer

open Collections

section Accesses

variable {Value Version : Type}

-- The thread that a call has accessed, going by the call and what it was answered with.
def accessed (call : SaverCall Value Version) (reply : Except PyError (SaverReply Value Version)) : Option String :=
  match call, reply with
  | .put config _ _ _, .ok _ => config.threadId?
  | .putWrites config _ _ _, .ok _ => config.threadId?
  | .getTuple config, .ok (.tuple (some _)) => config.threadId?
  | .list (some config) _ _ _, .ok (.tuples (_ :: _)) => config.threadId?
  | .getDeltaChannelHistory config _, .ok (.history result) => if result.keys = [] then none else config.threadId?
  | _, _ => none

-- The clock never goes back, within a call or from one call to the next.
def Nondecreasing : Time → List (TimedCall Value Version) → Prop
  | _, [] => True
  | reading, timed :: rest => reading ≤ timed.now ∧ timed.now ≤ timed.later ∧ Nondecreasing timed.later rest

end Accesses

namespace BoundedInMemorySaver

variable {Value Version : Type} [DecidableEq Version] (saver : BoundedInMemorySaver Value Version)

def accesses (state : saver.State) : List (TimedCall Value Version) → List (String × Time)
  | [] => []
  | timed :: rest =>
      ((accessed timed.call (saver.perform state timed).2).toList.map (fun threadId => (threadId, timed.later))) ++
        accesses (saver.step state timed) rest

theorem drop_all_entries (lawful : saver.inherited.Lawful) (gone : List String) (state : saver.State) :
    (saver.dropAll state gone).lastAccess.entries =
      state.lastAccess.entries.filter (fun row => decide (row.1 ∉ gone)) := by
  induction gone generalizing state with
  | nil => simp [dropAll]
  | cons first rest ih =>
      have tail := ih (saver.deleteThreadLocked state first)
      rw [(saver.delete_thread_drops lawful state first).lastAccess] at tail
      refine tail.trans ?_
      rw [Dict.pop, Dict.restrict, List.filter_filter]
      congr 1
      funext row
      simp [Bool.and_comm]

theorem drop_all_keys (lawful : saver.inherited.Lawful) (gone : List String) (state : saver.State) :
    (saver.dropAll state gone).lastAccess.keys =
      state.lastAccess.keys.filter (fun threadId => decide (threadId ∉ gone)) := by
  rw [Dict.keys, saver.drop_all_entries lawful, Dict.keys, List.filter_map]
  rfl

inductive Moves (state after : saver.State) (timed : TimedCall Value Version) : Option String → Prop where
  | dropped (gone : List String)
      (entries : after.lastAccess.entries = (saver.dropAll state gone).lastAccess.entries) :
        Moves state after timed none
  | touched (gone : List String) (threadId : String)
      (entries : after.lastAccess.entries =
        (saver.touchLocked (saver.dropAll state gone) threadId timed.later).lastAccess.entries) :
      Moves state after timed (some threadId)
  | cleared (entries : after.lastAccess.entries = []) : Moves state after timed none

omit [DecidableEq Version] in
theorem thread_id_of_entry (config : RunnableConfig) (threadId : String)
    (entry : config.entry? "thread_id" = some (.str threadId)) : config.threadId? = some threadId := by
  rw [RunnableConfig.threadId?, entry]

theorem get_tuple_moves (state : saver.State) (timed : TimedCall Value Version)
    (config : RunnableConfig) : saver.Moves state (saver.getTuple state timed.now timed.later config).1 timed
      (accessed (.getTuple config : SaverCall Value Version)
        ((saver.getTuple state timed.now timed.later config).2.map .tuple)) := by
  rw [getTuple]
  cases located : saver.validatedLocation config with
  | error error => exact .dropped [] rfl
  | ok location =>
      have thread := thread_id_of_entry config _ (saver.validated_location_thread config _ _ located).1
      simp only
      split
      · split
        · exact .dropped (saver.expiredThreads state timed.now) rfl
        · exact .dropped (saver.expiredThreads state timed.now) rfl
        · simp only [Except.map, accessed, thread]
          exact .touched (saver.expiredThreads state timed.now) location.1 rfl
      · exact .dropped (saver.expiredThreads state timed.now) rfl

theorem list_moves (state : saver.State) (timed : TimedCall Value Version) (config : Option RunnableConfig)
    (filter : Option Metadata) (before : Option RunnableConfig) (limit : Option Int) :
    saver.Moves state (saver.list state timed.now timed.later config filter before limit).1 timed
      (accessed (.list config filter before limit : SaverCall Value Version)
        ((saver.list state timed.now timed.later config filter before limit).2.map .tuples)) := by
  have silent : accessed (.list config filter before limit : SaverCall Value Version) (.ok (.tuples [])) = none := by
    cases config with
    | none => rfl
    | some given => rfl
  have failed (error : PyError) : accessed (.list config filter before limit : SaverCall Value Version) (.error error) =
      none := by
    cases config with
    | none => rfl
    | some given => rfl
  rw [list]
  split
  · simp only [Except.map, failed]
    exact .dropped [] rfl
  · rename_i threadId located
    simp only
    split
    · simp only [Except.map, silent]
      exact .dropped (saver.expiredThreads state timed.now) rfl
    · have named : threadId = config.bind RunnableConfig.threadId? := by
        cases config with
        | none => cases before with
            | none => simpa [bind, Except.bind, eq_comm] using located
            | some other =>
                cases bounded : saver.validatedLocation other with
                | error error => simp [bounded, Except.map, bind, Except.bind] at located
                | ok place => simpa [bounded, Except.map, bind, Except.bind, eq_comm] using located
        | some given =>
            cases valid : saver.validatedLocation given with
            | error error => simp [valid, bind, Except.bind, Except.map] at located
            | ok location =>
                have thread := thread_id_of_entry given _ (saver.validated_location_thread given _ _ valid).1
                rw [Option.bind_some, thread]
                cases before with
                | none => simpa [valid, bind, Except.bind, Except.map, eq_comm] using located
                | some other =>
                    cases bounded : saver.validatedLocation other with
                    | error error => simp [valid, bounded, bind, Except.bind, Except.map] at located
                    | ok place => simpa [valid, bounded, bind, Except.bind, Except.map, eq_comm] using located
      split
      · simp only [Except.map, failed]
        exact .dropped (saver.expiredThreads state timed.now) rfl
      · simp only [Except.map, silent]
        exact .dropped (saver.expiredThreads state timed.now) rfl
      · rename_i items _ _ _
        cases config with
        | none => exact .dropped (saver.expiredThreads state timed.now) rfl
        | some given =>
            rw [Option.bind_some] at named
            cases items with
            | nil => exact .dropped (saver.expiredThreads state timed.now) rfl
            | cons item rest =>
                simp only [Except.map, accessed, ← named]
                exact .dropped (saver.expiredThreads state timed.now) rfl
      · rename_i items known nonempty _ _
        cases config with
        | none => cases named
        | some given =>
            rw [Option.bind_some] at named
            cases items with
            | nil => exact (nonempty rfl).elim
            | cons item rest =>
                simp only [Except.map, accessed, ← named]
                exact .touched (saver.expiredThreads state timed.now) known rfl

theorem delta_history_moves (state : saver.State) (timed : TimedCall Value Version) (config : RunnableConfig)
    (channels : List String) :
    saver.Moves state (saver.getDeltaChannelHistory state timed.now timed.later config channels).1 timed
      (accessed (.getDeltaChannelHistory config channels : SaverCall Value Version)
        ((saver.getDeltaChannelHistory state timed.now timed.later config channels).2.map .history)) := by
  rw [getDeltaChannelHistory]
  cases located : saver.validatedLocation config with
  | error error => exact .dropped [] rfl
  | ok location =>
      have thread := thread_id_of_entry config _ (saver.validated_location_thread config _ _ located).1
      simp only
      split
      · exact .dropped (saver.expiredThreads state timed.now) rfl
      · rename_i result _
        by_cases nothing : result.keys = []
        · simp only [if_pos nothing, Except.map, accessed]
          exact .dropped (saver.expiredThreads state timed.now) rfl
        · simp only [if_neg nothing, Except.map, accessed, thread]
          exact .touched (saver.expiredThreads state timed.now) location.1 rfl

theorem booked_entries (state : saver.State) (keys : List (SizeKey Version)) (threadId : String) (now : Time)
    (earlier : saver.State) (same : state.lastAccess = earlier.lastAccess) :
    (saver.touchLocked (saver.recordAll state keys) threadId now).lastAccess.entries =
      (saver.touchLocked earlier threadId now).lastAccess.entries := by
  rw [touchLocked, touchLocked, (saver.record_all_spec keys state).lastAccess, same]

theorem put_moves (lawful : saver.inherited.Lawful) (state : saver.State) (timed : TimedCall Value Version)
    (config : RunnableConfig) (checkpoint : Checkpoint Value Version) (metadata : Metadata)
    (versions : ChannelVersions Version) :
    saver.Moves state (saver.put state timed.now timed.later config checkpoint metadata versions).1 timed
      (accessed (.put config checkpoint metadata versions)
        ((saver.put state timed.now timed.later config checkpoint metadata versions).2.map .config)) := by
  rcases saver.put_cases lawful state timed.now timed.later config checkpoint metadata versions with
    ⟨gone, error, refused⟩ | ⟨after, gone, key, size, stored, values, blobs, stores, _, _, accepted⟩
  · rw [refused]
    exact .dropped gone rfl
  · have thread := thread_id_of_entry config _ stores.commit.prepared.threadId
    rw [accepted]
    simp only [Except.map, accessed, thread]
    apply Moves.touched gone key.1
    rw [stores.booked]
    exact saver.booked_entries _ _ key.1 timed.later (saver.dropAll state gone) rfl

theorem put_writes_moves (lawful : saver.inherited.Lawful) (state : saver.State) (timed : TimedCall Value Version)
    (config : RunnableConfig) (batch : List (String × Value)) (taskId taskPath : String) :
    saver.Moves state (saver.putWrites state timed.now timed.later config batch taskId taskPath).1 timed
      (accessed (.putWrites config batch taskId taskPath : SaverCall Value Version)
        ((saver.putWrites state timed.now timed.later config batch taskId taskPath).2.map (fun _ => .done))) := by
  rcases saver.put_writes_cases lawful state timed.now timed.later config batch taskId taskPath with
    ⟨gone, error, refused⟩ | ⟨after, gone, key, requested, rows, writes, _, _, accepted⟩
  · rw [refused]
    exact .dropped gone rfl
  · have thread := thread_id_of_entry config _ writes.commit.threadId
    rw [accepted]
    simp only [Except.map, accessed, thread]
    apply Moves.touched gone key.1
    rw [writes.booked]
    exact saver.booked_entries _ _ key.1 timed.later (saver.dropAll state gone) rfl

theorem step_moves (lawful : saver.inherited.Lawful) (state : saver.State) (timed : TimedCall Value Version) :
    saver.Moves state (saver.step state timed) timed (accessed timed.call (saver.perform state timed).2) := by
  rw [step, perform]
  cases timed.call with
  | put config checkpoint metadata versions =>
      exact saver.put_moves lawful state timed config checkpoint metadata versions
  | putWrites config batch taskId taskPath =>
      exact saver.put_writes_moves lawful state timed config batch taskId taskPath
  | getTuple config => exact saver.get_tuple_moves state timed config
  | list config filter before limit => exact saver.list_moves state timed config filter before limit
  | getDeltaChannelHistory config channels => exact saver.delta_history_moves state timed config channels
  | deleteThread threadId =>
      simp only [deleteThread]
      cases saver.validatedIdentifier threadId "thread_id" saver.config.maxThreadIdLength false with
      | error error => exact .dropped [] rfl
      | ok validated => exact .dropped [validated] rfl
  | purgeExpired => exact .dropped (saver.expiredThreads state timed.now) rfl
  | clear => exact .cleared rfl
  | stats => exact .dropped (saver.expiredThreads state timed.now) rfl

-- The tracked threads stand in the order of their last access, each with its time.
structure RecencyOrder (past : List (String × Time)) (reading : Time) (state : saver.State) : Prop where
  order : state.lastAccess.keys =
    (past.map Prod.fst).dedup.filter (fun threadId => decide (threadId ∈ state.lastAccess.keys))
  times : ∀ threadId time, (threadId, time) ∈ state.lastAccess.entries → past.reverse.lookup threadId = some time
  ascending : state.lastAccess.entries.Pairwise (fun first second => first.2 ≤ second.2)
  past : ∀ row ∈ state.lastAccess.entries, row.2 ≤ reading

omit [DecidableEq Version] in
theorem recency_later (past : List (String × Time)) (reading later : Time) (state : saver.State)
    (recent : saver.RecencyOrder past reading state) (passed : reading ≤ later) : saver.RecencyOrder past later state :=
  ⟨recent.order, recent.times, recent.ascending, fun row member => le_trans (recent.past row member) passed⟩

omit [DecidableEq Version] in
theorem recency_same (past : List (String × Time)) (reading : Time) (state after : saver.State)
    (entries : after.lastAccess.entries = state.lastAccess.entries) (recent : saver.RecencyOrder past reading state) :
    saver.RecencyOrder past reading after := by
  have same : after.lastAccess = state.lastAccess := Dict.ext entries
  obtain ⟨order, times, ascending, bounded⟩ := recent
  rw [← same] at order times ascending bounded
  exact ⟨order, times, ascending, bounded⟩

theorem recency_dropped (lawful : saver.inherited.Lawful) (past : List (String × Time)) (reading : Time)
    (state : saver.State) (gone : List String) (recent : saver.RecencyOrder past reading state) :
    saver.RecencyOrder past reading (saver.dropAll state gone) := by
  have entries := saver.drop_all_entries lawful gone state
  constructor
  · have member : ∀ threadId, threadId ∈ (saver.dropAll state gone).lastAccess.keys ↔
        threadId ∈ state.lastAccess.keys ∧ threadId ∉ gone := saver.drop_all_tracked lawful gone state
    rw [saver.drop_all_keys lawful]
    nth_rewrite 1 [recent.order]
    rw [List.filter_filter]
    congr 1
    funext threadId
    simp [Bool.and_comm]
  · intro threadId time member
    rw [entries] at member
    exact recent.times threadId time (List.mem_of_mem_filter member)
  · rw [entries]
    exact recent.ascending.filter _
  · intro row member
    rw [entries] at member
    exact recent.past row (List.mem_of_mem_filter member)

omit [DecidableEq Version] in
theorem recency_touched (past : List (String × Time)) (reading : Time) (state : saver.State) (threadId : String)
    (recent : saver.RecencyOrder past reading state) :
    saver.RecencyOrder (past ++ [(threadId, reading)]) reading (saver.touchLocked state threadId reading) := by
  have entries : (saver.touchLocked state threadId reading).lastAccess.entries =
      state.lastAccess.entries.filter (fun row => decide (row.1 ≠ threadId)) ++ [(threadId, reading)] :=
    Dict.entries_pop_set state.lastAccess threadId reading
  have keys : (saver.touchLocked state threadId reading).lastAccess.keys =
      state.lastAccess.keys.filter (fun other => decide (other ≠ threadId)) ++ [threadId] := by
    rw [Dict.keys, entries, List.map_append, Dict.keys, List.filter_map]
    rfl
  constructor
  · rw [keys, List.map_append, List.map_cons, List.map_nil, dedup_concat, List.filter_append]
    congr 1
    · nth_rewrite 1 [recent.order]
      rw [List.filter_filter, List.filter_filter]
      congr 1
      funext other
      by_cases same : other = threadId <;> simp [same]
    · simp
  · intro other time member
    rw [entries, List.mem_append, List.mem_singleton] at member
    rw [List.reverse_append, List.reverse_singleton, List.singleton_append, Dict.lookup_row]
    rcases member with earlier | last
    · have different : other ≠ threadId := by simpa using (List.mem_filter.mp earlier).2
      rw [if_neg different]
      exact recent.times other time (List.mem_of_mem_filter earlier)
    · cases last
      rw [if_pos rfl]
  · rw [entries, List.pairwise_append]
    refine ⟨recent.ascending.filter _, List.pairwise_singleton _ _, fun row member last listed => ?_⟩
    rw [List.mem_singleton.mp listed]
    exact recent.past row (List.mem_of_mem_filter member)
  · intro row member
    rw [entries, List.mem_append, List.mem_singleton] at member
    rcases member with earlier | last
    · exact recent.past row (List.mem_of_mem_filter earlier)
    · rw [last]

theorem step_recency (lawful : saver.inherited.Lawful) (past : List (String × Time)) (reading : Time)
    (state : saver.State) (timed : TimedCall Value Version) (recent : saver.RecencyOrder past reading state)
    (passed : reading ≤ timed.later) :
    saver.RecencyOrder (past ++ (accessed timed.call (saver.perform state timed).2).toList.map
      (fun threadId => (threadId, timed.later))) timed.later (saver.step state timed) := by
  have moves := saver.step_moves lawful state timed
  have later := saver.recency_later past reading timed.later state recent passed
  cases found : accessed timed.call (saver.perform state timed).2 with
  | none =>
      rw [found] at moves
      rw [Option.toList_none, List.map_nil, List.append_nil]
      cases moves with
      | dropped gone entries =>
          exact saver.recency_same past timed.later _ _ entries
            (saver.recency_dropped lawful past timed.later state gone later)
      | cleared entries => exact ⟨by simp [Dict.keys, entries], by simp [entries], by simp [entries], by simp [entries]⟩
  | some threadId =>
      rw [found] at moves
      rw [Option.toList_some, List.map_singleton]
      cases moves with
      | touched gone _ entries =>
          exact saver.recency_same _ timed.later _ _ entries (saver.recency_touched past timed.later _ threadId
            (saver.recency_dropped lawful past timed.later state gone later))

theorem run_recency (lawful : saver.inherited.Lawful) (calls : List (TimedCall Value Version))
    (past : List (String × Time)) (reading : Time) (state : saver.State)
    (recent : saver.RecencyOrder past reading state) (clock : Nondecreasing reading calls) :
    ∃ last, saver.RecencyOrder (past ++ saver.accesses state calls) last (Transition.run saver.step state calls) := by
  induction calls generalizing past reading state with
  | nil =>
      refine ⟨reading, ?_⟩
      rw [accesses, List.append_nil]
      exact recent
  | cons timed rest ih =>
      obtain ⟨before, within, remaining⟩ := clock
      have next := saver.step_recency lawful past reading state timed recent (le_trans before within)
      obtain ⟨last, after⟩ := ih _ timed.later (saver.step state timed) next remaining
      rw [List.append_assoc] at after
      exact ⟨last, after⟩

end BoundedInMemorySaver

end LangGraphServer
