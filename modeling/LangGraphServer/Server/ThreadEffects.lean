import LangGraphServer.Server.ThreadPhases

set_option autoImplicit false

namespace LangGraphServer

open Collections Coroutine

inductive ThreadEffect (threadId : String) (before after : ServerState) : ServerOp → Prop where
  | put (thread : Thread) (named : thread.threadId = threadId) (items : after.items threadId = before.items threadId)
      (kept : (before.store.getThread threadId).isSome = true → (after.store.getThread threadId).isSome = true) :
      ThreadEffect threadId before after (.putThread thread)
  | forgotten (absent : after.store.getThread threadId = none) (items : after.items threadId = before.items threadId) :
      ThreadEffect threadId before after (.deleteThread threadId)
  | written (config : RunnableConfig) (item : CheckpointItem)
    (thread : config.entry? "thread_id" = some (.str threadId))
      (store : after.store = before.store) (grown : ∀ persistent, (before.latest persistent threadId).isSome = true →
        (after.latest persistent threadId).isSome = true) : ThreadEffect threadId before after (.aput config item)
  | emptied (items : after.items threadId = []) (store : after.store = before.store) :
      ThreadEffect threadId before after (.deleteCheckpoints threadId)
  | kept (op : ServerOp) (record : (after.store.getThread threadId).isSome = (before.store.getThread threadId).isSome)
      (items : after.items threadId = before.items threadId) : ThreadEffect threadId before after op

section Effects

variable (platform : Platform) (persistent : Bool) (id : TaskId) (threadId : String)

theorem put_thread_record (store : InMemoryThreadStore) (thread : Thread) (query : String)
    (recorded : (store.getThread query).isSome = true) :
    ((store.putThread platform thread).1.getThread query).isSome = true := by
  rw [InMemoryThreadStore.putThread]
  split
  · exact recorded
  · rw [InMemoryThreadStore.getThread]
    simp only [Dict.get_set]
    split
    · rfl
    · exact recorded

theorem put_thread_elsewhere (store : InMemoryThreadStore) (thread : Thread) (query : String)
    (apart : thread.threadId ≠ query) :
    (store.putThread platform thread).1.getThread query = store.getThread query := by
  rw [InMemoryThreadStore.putThread]
  split
  · rfl
  · simp only [InMemoryThreadStore.getThread, Dict.get_set]
    rw [if_neg (Ne.symm apart)]

theorem aput_keeps_latest (config : RunnableConfig) (item : CheckpointItem)
    (thread : config.entry? "thread_id" = some (.str threadId))
    (state : ServerState) (saves : Bool) (present : (state.latest saves threadId).isSome = true) :
    ((state.perform platform persistent id (.aput config item)).1.latest saves threadId).isSome = true := by
  simp only [ServerState.perform]
  split
  · rw [ServerState.latest] at present ⊢
    split
    · rename_i saving
      rw [if_pos saving] at present
      obtain ⟨found, read⟩ := Option.isSome_iff_exists.mp present
      obtain ⟨listed, main⟩ := List.mem_filter.mp (newest_mem _ _ read)
      rw [Option.isSome_iff_ne_none]
      intro missing
      have empty := newest_none _ missing
      simp only [checkpointConfig, items_aput config threadId thread, if_true, List.filter_eq_nil_iff]
        at empty main listed
      by_cases same : found.checkpointNs = item.checkpointNs ∧ found.checkpointId = item.checkpointId
      · refine empty _ List.mem_cons_self ?_
        simpa [← same.1] using main
      · exact empty found (List.mem_cons_of_mem _ (List.mem_filter.mpr ⟨listed, decide_eq_true same⟩)) main
    · rename_i saving
      rw [if_neg saving] at present
      cases present
  · exact present

theorem thread_effect (op : ServerOp) (state : ServerState) :
    ThreadEffect threadId state (state.perform platform persistent id op).1 op := by
  cases op with
  | putThread thread =>
      by_cases named : thread.threadId = threadId
      · exact .put thread named rfl (put_thread_record platform state.store thread threadId)
      · exact .kept _ (congrArg Option.isSome (put_thread_elsewhere platform state.store thread threadId named)) rfl
  | claimAssistant query assistantId =>
      exact .kept _ (claim_assistant_record state.store query assistantId threadId) rfl
  | deleteThread query =>
      by_cases same : query = threadId
      · subst same
        refine .forgotten ?_ rfl
        simp only [ServerState.perform, InMemoryThreadStore.deleteThread, InMemoryThreadStore.getThread,
          Dict.get_pop, if_true, Option.map_none]
      · refine .kept _ ?_ rfl
        simp only [ServerState.perform, InMemoryThreadStore.deleteThread, InMemoryThreadStore.getThread, Dict.get_pop,
          if_neg (Ne.symm same)]
  | aput config item =>
      have store := (state.aput_frame platform persistent id config item).1
      by_cases thread : config.entry? "thread_id" = some (.str threadId)
      · exact .written config item thread store
          (aput_keeps_latest platform persistent id threadId config item thread state)
      · refine .kept _ (by rw [store]) ?_
        simp only [ServerState.perform]
        split
        · rw [ServerState.aput]
          split
          · rename_i query named
            have apart : threadId ≠ query := fun same => thread (by rw [same]; exact named)
            simp only [ServerState.items, Dict.get_set, if_neg apart]
          · rfl
        · rfl
  | deleteCheckpoints query =>
      by_cases same : threadId = query
      · subst same
        exact .emptied ((items_delete_checkpoints state threadId threadId).trans (if_pos rfl)) rfl
      · exact .kept _ rfl ((items_delete_checkpoints state query threadId).trans (if_neg same))
  | acquire query mutation =>
      simp only [ServerState.perform]
      split
      · exact .kept _ rfl rfl
      · exact .kept _ rfl rfl
  | begin graphOf =>
      simp only [ServerState.perform]
      split
      · exact .kept _ rfl rfl
      · exact .kept _ rfl rfl
  | finish =>
      simp only [ServerState.perform, ServerState.updateProgress]
      split
      · exact .kept _ rfl rfl
      · exact .kept _ rfl rfl
  | getThread query => exact .kept _ rfl rfl
  | getAssistantId query => exact .kept _ rfl rfl
  | agetTuple lookup => exact .kept _ rfl rfl
  | alist lookup filter before limit => exact .kept _ rfl rfl
  | release lease => exact .kept _ rfl rfl
  | send message => exact .kept _ rfl rfl
  | suspend => exact .kept _ rfl rfl
  | note entry => exact .kept _ rfl rfl

variable {platform persistent id threadId} {before after : ServerState} {op : ServerOp}

theorem latest_same_items (items : after.items threadId = before.items threadId) :
    after.latest persistent threadId = before.latest persistent threadId := by
  simp only [ServerState.latest, ServerState.agetTuple, checkpointConfig, items]

theorem latest_no_items (empty : after.items threadId = []) : after.latest persistent threadId = none := by
  simp only [ServerState.latest, ServerState.agetTuple, checkpointConfig, empty, List.filter_nil, newest, ite_self]

theorem recorded_kept (effect : ThreadEffect threadId before after op) (keeps : op ≠ .deleteThread threadId)
    (recorded : (before.store.getThread threadId).isSome = true) : (after.store.getThread threadId).isSome = true := by
  cases effect with
  | put thread named items kept => exact kept recorded
  | forgotten absent items => exact absurd rfl keeps
  | written config item thread store grown => rwa [store]
  | emptied items store => rwa [store]
  | kept op record items => rwa [record]

theorem latest_stays_none (effect : ThreadEffect threadId before after op) (spares : persistent = true →
    Spares threadId op)
    (missing : before.latest persistent threadId = none) : after.latest persistent threadId = none := by
  cases effect with
  | put thread named items kept => exact (latest_same_items items).trans missing
  | forgotten absent items => exact (latest_same_items items).trans missing
  | written config item thread store grown =>
      by_cases saves : persistent = true
      · exact absurd thread (spares saves config item rfl)
      · rw [ServerState.latest, if_neg saves]
  | emptied items store => exact latest_no_items items
  | kept op record items => exact (latest_same_items items).trans missing

theorem exists_false_iff (state : ServerState) : state.threadExists persistent threadId = false ↔
    state.store.getThread threadId = none ∧ state.latest persistent threadId = none := by
  rw [ServerState.threadExists, Bool.or_eq_false_iff, Option.isSome_eq_false_iff, Option.isSome_eq_false_iff,
    Option.isNone_iff_eq_none, Option.isNone_iff_eq_none]

theorem recorded_exists (state : ServerState) (recorded : (state.store.getThread threadId).isSome = true) :
    state.threadExists persistent threadId = true := by
  rw [ServerState.threadExists, recorded, Bool.true_or]

theorem thread_stays_missing (effect : ThreadEffect threadId before after op)
    (absent : before.threadExists persistent threadId = false) (spares : persistent = true → Spares threadId op)
    (elsewhere : ∀ thread, op = .putThread thread → thread.threadId ≠ threadId) :
    after.threadExists persistent threadId = false := by
  obtain ⟨missing, none⟩ := (exists_false_iff before).mp absent
  refine (exists_false_iff after).mpr ⟨?_, latest_stays_none effect spares none⟩
  cases effect with
  | put thread named items kept => exact absurd named (elsewhere thread rfl)
  | forgotten absent items => exact absent
  | written config item thread store grown => rw [store, missing]
  | emptied items store => rw [store, missing]
  | kept op record items =>
      rw [missing] at record
      exact Option.isNone_iff_eq_none.mp (Option.isSome_eq_false_iff.mp record)

-- The operations that take the last that is there of the thread.
def TakesLast (persistent : Bool) (threadId : String) (state : ServerState) : ServerOp → Prop
  | .deleteThread query => query = threadId ∧ state.latest persistent threadId = none
  | .deleteCheckpoints query => query = threadId ∧ state.store.getThread threadId = none
  | _ => False

theorem thread_stays (effect : ThreadEffect threadId before after op)
    (present : before.threadExists persistent threadId = true)
    (spares : ¬ TakesLast persistent threadId before op) : after.threadExists persistent threadId = true := by
  have either := Bool.or_eq_true_iff.mp present
  refine Bool.or_eq_true_iff.mpr ?_
  cases effect with
  | put thread named items kept => exact either.imp kept (fun saved => by rwa [latest_same_items items])
  | forgotten absent items =>
      refine Or.inr ?_
      rw [latest_same_items items, Option.isSome_iff_ne_none]
      exact fun missing => spares ⟨rfl, missing⟩
  | written config item thread store grown =>
      rw [store]
      exact either.imp_right (grown persistent)
  | emptied items store =>
      refine Or.inl ?_
      rw [store, Option.isSome_iff_ne_none]
      exact fun missing => spares ⟨rfl, missing⟩
  | kept op record items =>
      rw [record, latest_same_items items]
      exact either

theorem sight_found (sight : Sight) (state : ServerState)
    (found : sight.next persistent threadId op (state.perform platform persistent id op).2 = .found) :
    sight = .found ∨ ((state.perform platform persistent id op).1 = state ∧
      state.threadExists persistent threadId = true) := by
  cases sight with
  | found => exact Or.inl rfl
  | settled => cases found
  | failed cause => cases found
  | looking =>
      refine Or.inr ?_
      cases op with
      | getThread query =>
          cases existing : state.store.getThread query with
          | none =>
              simp only [ServerState.perform, existing, Sight.next] at found
              cases found
          | some thread =>
              simp only [ServerState.perform, existing, Sight.next] at found
              split at found
              · rename_i same
                subst same
                exact ⟨rfl, recorded_exists state (by rw [existing]; rfl)⟩
              · cases found
      | agetTuple lookup =>
          cases item : state.agetTuple lookup with
          | none =>
              simp only [ServerState.perform, item, Sight.next] at found
              cases found
          | some checkpoint =>
              simp only [ServerState.perform, item, Sight.next] at found
              split at found
              · rename_i same
                obtain ⟨persists, rfl⟩ := same
                refine ⟨rfl, ?_⟩
                rw [ServerState.threadExists, ServerState.latest, if_pos persists, item]
                exact Bool.or_true _
              · cases found
      | _ =>
          generalize (ServerState.perform platform persistent id _ state).2 = answer at found
          cases answer <;> cases found

theorem sight_settled (sight : Sight) (state : ServerState)
    (settled : sight.next persistent threadId op (state.perform platform persistent id op).2 = .settled) :
    sight = .settled ∨ (sight = .found ∧
      ((state.perform platform persistent id op).1.store.getThread threadId).isSome = true) := by
  cases sight with
  | settled => exact Or.inl rfl
  | failed cause => cases settled
  | looking =>
      cases op
      case getThread query =>
        generalize (ServerState.perform platform persistent id _ state).2 = answer at settled
        cases answer with
        | error cause => cases settled
        | ok existing =>
            cases (existing : Option Thread) with
            | none => cases settled
            | some existing =>
                simp only [Sight.next] at settled
                split at settled <;> cases settled
      case agetTuple lookup =>
        generalize (ServerState.perform platform persistent id _ state).2 = answer at settled
        cases answer with
        | error cause => cases settled
        | ok item =>
            cases (item : Option CheckpointItem) with
            | none => cases settled
            | some item =>
                simp only [Sight.next] at settled
                split at settled <;> cases settled
      all_goals
        generalize (ServerState.perform platform persistent id _ state).2 = answer at settled
        cases answer <;> cases settled
  | found =>
      refine Or.inr ⟨rfl, ?_⟩
      cases op with
      | getThread query =>
          cases existing : state.store.getThread query with
          | none =>
              simp only [ServerState.perform, existing, Sight.next] at settled
              cases settled
          | some thread =>
              simp only [ServerState.perform, existing, Sight.next] at settled
              split at settled
              · rename_i same
                subst same
                show (state.store.getThread query).isSome = true
                rw [existing]
                rfl
              · cases settled
      | putThread thread =>
          by_cases large : state.store.maxThreadBytes < platform.threadJsonBytes thread
          · simp only [ServerState.perform, InMemoryThreadStore.putThread, if_pos large, Sight.next] at settled
            cases settled
          · simp only [ServerState.perform, InMemoryThreadStore.putThread, if_neg large, Sight.next] at settled ⊢
            split at settled
            · rename_i named
              subst named
              simp only [InMemoryThreadStore.getThread, Dict.get_set, if_true, Option.map_some, Option.isSome_some]
            · cases settled
      | _ =>
          generalize (ServerState.perform platform persistent id _ state).2 = answer at settled
          cases answer <;> cases settled

def Hold.Holds (hold : Hold) (lease : RunLease) : Prop := hold = .held lease ∨ hold = .cleared lease

theorem holds_lease (hold : Hold) (lease : RunLease) (holds : hold.Holds lease) : hold.lease? = some lease := by
  rcases holds with rfl | rfl
  · rfl
  · rfl

inductive LeaseMove (role : Role) (threadId : String) (before after : ServerState) (hold next : Hold) : Prop where
  | kept (same : after.coordinator = before.coordinator) (lease : next.lease? = hold.lease?)
      (holding : ∀ lease, next.Holds lease → hold.Holds lease)
  | taken (query : String) (waiting : hold = .waiting) (free : query ∉ before.coordinator.active.keys)
      (coordinator : after.coordinator = { before.coordinator with
        active := before.coordinator.active.set query before.coordinator.nextToken
        nextToken := before.coordinator.nextToken + 1 })
      (takes : next = if query = threadId ∧ role ≠ .maker then .held ⟨query, before.coordinator.nextToken⟩
        else .spent ⟨query, before.coordinator.nextToken⟩)
  | given (lease : RunLease) (own : hold.lease? = some lease)
      (coordinator : after.coordinator = before.coordinator.release lease) (same : next.lease? = hold.lease?)
      (dropped : ∀ lease, ¬ next.Holds lease)

theorem lease_move (role : Role) (state : ServerState) (phase : ThreadPhase) (op : ServerOp)
    (allowed : phase.allows role persistent threadId op) :
    LeaseMove role threadId state (state.perform platform persistent id op).1 phase.hold
      (phase.hold.next role threadId op (state.perform platform persistent id op).2) := by
  obtain ⟨sight, hold⟩ := phase
  have quiet : ∀ next, next = hold → (state.perform platform persistent id op).1.coordinator = state.coordinator →
      LeaseMove role threadId state (state.perform platform persistent id op).1 hold next := by
    rintro _ rfl same
    exact .kept same rfl (fun _ holds => holds)
  cases op with
  | acquire query mutation =>
      obtain ⟨waiting, _⟩ := allowed
      cases show hold = .waiting from waiting
      rcases CoordinationState.acquire_cases state.coordinator query with ⟨_, message, refused⟩ | ⟨_, _, message,
        refused⟩ | ⟨free, _, granted⟩
      · simp only [ServerState.perform, refused]
        exact .kept rfl rfl (fun _ holds => holds)
      · simp only [ServerState.perform, refused]
        exact .kept rfl rfl (fun _ holds => holds)
      · simp only [ServerState.perform, granted]
        exact .taken query rfl free rfl rfl
  | release lease =>
      refine .given lease allowed rfl ?_ ?_
      · cases hold <;> rfl
      · intro other holds
        cases hold <;> rcases holds with same | same <;> cases same
  | deleteCheckpoints query =>
      refine .kept rfl ?_ ?_
      · cases hold
        case held lease =>
          simp only [ServerState.perform, Hold.next]
          split <;> rfl
        all_goals rfl
      · intro lease holds
        cases hold
        case held lease =>
          simp only [ServerState.perform, Hold.next] at holds
          split at holds
          · rcases holds with same | same
            · cases same
            · cases same
              exact Or.inl rfl
          · exact holds
        all_goals exact holds
  | deleteThread query =>
      refine .kept rfl ?_ ?_
      · cases hold
        case held lease =>
          simp only [ServerState.perform, Hold.next]
          split <;> rfl
        case cleared lease =>
          simp only [ServerState.perform, Hold.next]
          split <;> rfl
        all_goals rfl
      · intro lease holds
        cases hold
        case held lease =>
          simp only [ServerState.perform, Hold.next] at holds
          split at holds
          · rcases holds with same | same <;> cases same
          · exact holds
        case cleared lease =>
          simp only [ServerState.perform, Hold.next] at holds
          split at holds
          · rcases holds with same | same <;> cases same
          · exact holds
        all_goals exact holds
  | begin graphOf =>
      refine quiet _ (by cases hold <;> rfl) ?_
      simp only [ServerState.perform]
      split <;> rfl
  | finish =>
      refine quiet _ (by cases hold <;> rfl) ?_
      simp only [ServerState.perform, ServerState.updateProgress]
      split <;> rfl
  | aput config item =>
      exact quiet _ (by cases hold <;> rfl) (state.aput_frame platform persistent id config item).2.2.1
  | _ => exact quiet _ (by cases hold <;> rfl) rfl

theorem lease_move_holds {role : Role} {hold next : Hold} (move : LeaseMove role threadId before after hold next)
    (lease : RunLease) (holds : next.Holds lease) : hold.Holds lease ∨ hold = .waiting := by
  cases move with
  | kept same leases holding => exact Or.inl (holding lease holds)
  | taken query waiting free coordinator takes => exact Or.inr waiting
  | given given own coordinator same dropped => exact absurd holds (dropped lease)

theorem hold_empty (role : Role) (hold : Hold) (answer : Except ServerError op.Result)
    (empty : (hold.next role threadId op answer).lease? = none) : hold.next role threadId op answer = hold := by
  cases hold with
  | waiting =>
      cases op
      case acquire query mutation =>
        cases answer with
        | error cause => rfl
        | ok lease =>
            simp only [Hold.next] at empty
            split at empty <;> cases empty
      all_goals rfl
  | idle => rfl
  | gone lease => rfl
  | spent lease => rfl
  | held lease =>
      cases op <;> cases answer
      case deleteCheckpoints.ok query value =>
        simp only [Hold.next] at empty
        split at empty <;> cases empty
      case deleteThread.ok query value =>
        simp only [Hold.next] at empty
        split at empty <;> cases empty
      all_goals cases empty
  | cleared lease =>
      cases op <;> cases answer
      case deleteThread.ok query value =>
        simp only [Hold.next] at empty
        split at empty <;> cases empty
      all_goals cases empty

theorem sight_error (sight : Sight) (cause : ServerError) :
    sight.next persistent threadId op (.error cause) = sight ∨
      (sight = .looking ∧ sight.next persistent threadId op (.error cause) = .failed cause) := by
  cases sight with
  | looking => exact Or.inr ⟨rfl, by cases op <;> rfl⟩
  | found => exact Or.inl (by cases op <;> rfl)
  | settled => exact Or.inl rfl
  | failed earlier => exact Or.inl rfl

theorem hold_error (role : Role) (hold : Hold) (cause : ServerError) :
    hold.next role threadId op (.error cause) = hold ∨ ∃ lease, hold.lease? = some lease ∧
      hold.next role threadId op (.error cause) = .spent lease := by
  cases hold with
  | waiting => exact Or.inl (by cases op <;> rfl)
  | idle => exact Or.inl rfl
  | gone lease => exact Or.inl rfl
  | spent lease => exact Or.inl rfl
  | held lease =>
      cases op
      case release given => exact Or.inr ⟨lease, rfl, rfl⟩
      all_goals exact Or.inl rfl
  | cleared lease =>
      cases op
      case release given => exact Or.inr ⟨lease, rfl, rfl⟩
      all_goals exact Or.inl rfl

theorem hold_gone (role : Role) (hold : Hold) (answer : Except ServerError op.Result) (lease : RunLease)
    (gone : hold.next role threadId op answer = .gone lease) : hold = .gone lease ∨ op = .deleteThread threadId := by
  cases hold with
  | waiting =>
      cases op <;> cases answer
      case acquire.ok query mutation given =>
        simp only [Hold.next] at gone
        split at gone <;> cases gone
      all_goals cases gone
  | idle => cases gone
  | gone given => exact Or.inl gone
  | spent given => cases gone
  | held given =>
      cases op <;> cases answer
      case deleteCheckpoints.ok query value =>
        simp only [Hold.next] at gone
        split at gone <;> cases gone
      case deleteThread.ok query value =>
        simp only [Hold.next] at gone
        split at gone
        · rename_i same
          exact Or.inr (congrArg ServerOp.deleteThread same)
        · cases gone
      all_goals cases gone
  | cleared given =>
      cases op <;> cases answer
      case deleteThread.ok query value =>
        simp only [Hold.next] at gone
        split at gone
        · rename_i same
          exact Or.inr (congrArg ServerOp.deleteThread same)
        · cases gone
      all_goals cases gone

theorem hold_taken (role : Role) (hold : Hold) (answer : Except ServerError op.Result) (lease : RunLease)
    (waiting : hold = .waiting)
    (holds : (hold.next role threadId op answer).Holds lease) : ∃ query mutation, op = .acquire query mutation := by
  subst waiting
  cases op
  case acquire query mutation => exact ⟨query, mutation, rfl⟩
  all_goals rcases holds with same | same <;> cases same

theorem spent_holds_nothing (lease other : RunLease) : ¬ (Hold.spent lease).Holds other := by
  rintro (same | same) <;> cases same

theorem hold_cleared (role : Role) (hold : Hold) (answer : Except ServerError op.Result) (lease : RunLease)
    (cleared : hold.next role threadId op answer = .cleared lease) :
    hold = .cleared lease ∨ (hold = .held lease ∧ op = .deleteCheckpoints threadId) := by
  cases hold with
  | waiting =>
      cases op <;> cases answer
      case acquire.ok query mutation given =>
        simp only [Hold.next] at cleared
        split at cleared <;> cases cleared
      all_goals cases cleared
  | idle => cases cleared
  | gone given => cases cleared
  | spent given => cases cleared
  | held given =>
      cases op <;> cases answer
      case deleteCheckpoints.ok query value =>
        simp only [Hold.next] at cleared
        split at cleared
        · rename_i same
          cases cleared
          exact Or.inr ⟨rfl, congrArg ServerOp.deleteCheckpoints same⟩
        · cases cleared
      case deleteThread.ok query value =>
        simp only [Hold.next] at cleared
        split at cleared <;> cases cleared
      all_goals cases cleared
  | cleared given =>
      cases op <;> cases answer
      case deleteThread.ok query value =>
        simp only [Hold.next] at cleared
        split at cleared
        · cases cleared
        · exact Or.inl cleared
      case release.ok given value => cases cleared
      case release.error given value => cases cleared
      all_goals exact Or.inl cleared

end Effects

end LangGraphServer
