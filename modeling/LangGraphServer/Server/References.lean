import LangGraphServer.Server.Alone
import LangGraphServer.Server.State

set_option autoImplicit false

namespace LangGraphServer

open Collections Coroutine

theorem newest_bound (items : List CheckpointItem) (best : CheckpointItem) (found : newest items = some best) :
    ∀ item ∈ items, ¬ best.checkpointId < item.checkpointId := by
  induction items generalizing best with
  | nil => cases found
  | cons head rest ih =>
      rw [newest] at found
      cases tail : newest rest with
      | none =>
          rw [tail, Option.some.injEq] at found
          rw [newest_none rest tail, ← found]
          intro item member
          rw [List.mem_singleton.mp member]
          exact String.lt_irrefl _
      | some other =>
          rw [tail] at found
          dsimp only at found
          intro item member
          split at found
          · rename_i later
            cases found
            rcases List.mem_cons.mp member with rfl | older
            · exact String.lt_irrefl _
            · exact fun above => ih other tail item older (String.lt_trans later above)
          · rename_i kept
            cases found
            rcases List.mem_cons.mp member with rfl | older
            · exact kept
            · exact ih best tail item older

theorem newest_again (items : List CheckpointItem) (best : CheckpointItem) (found : newest items = some best) :
    newest (items.filter (fun item => decide (item.checkpointId = best.checkpointId))) = some best := by
  induction items generalizing best with
  | nil => cases found
  | cons head rest ih =>
      rw [newest] at found
      cases tail : newest rest with
      | none =>
          rw [tail, Option.some.injEq] at found
          rw [newest_none rest tail, ← found]
          simp [newest]
      | some other =>
          rw [tail] at found
          dsimp only at found
          split at found
          · rename_i later
            cases found
            have older : rest.filter (fun item => decide (item.checkpointId = head.checkpointId)) = [] := by
              rw [List.filter_eq_nil_iff]
              intro item member same
              exact newest_bound rest other tail item member (of_decide_eq_true same ▸ later)
            rw [List.filter_cons_of_pos (by simp), older]
            rfl
          · rename_i kept
            cases found
            by_cases same : head.checkpointId = best.checkpointId
            · rw [List.filter_cons_of_pos (by simpa using same), newest, ih best tail]
              exact if_neg kept
            · rw [List.filter_cons_of_neg (by simpa using same)]
              exact ih best tail

namespace ServerState

theorem aget_tuple_own (state : ServerState) (threadId checkpointNs : String) (item : CheckpointItem)
    (found : state.agetTuple ⟨threadId, checkpointNs, none⟩ = some item) :
    item.checkpointNs = checkpointNs ∧
      state.agetTuple ⟨threadId, checkpointNs, some item.checkpointId⟩ = some item := by
  have member := newest_mem _ item found
  have again := newest_again _ item found
  rw [List.mem_filter, decide_eq_true_iff] at member
  refine ⟨member.2.1, ?_⟩
  rw [List.filter_filter] at again
  rw [agetTuple]
  refine Eq.trans (congrArg newest (List.filter_congr (fun other _ => ?_))) again
  by_cases same : other.checkpointId = item.checkpointId
  · simp [same]
  · simp [same, Ne.symm same]

theorem aget_tuple_named (state : ServerState) (threadId checkpointNs checkpointId : String) (item : CheckpointItem)
    (found : state.agetTuple ⟨threadId, checkpointNs, some checkpointId⟩ = some item) :
    item ∈ state.items threadId ∧ item.checkpointNs = checkpointNs ∧ item.checkpointId = checkpointId := by
  have member := newest_mem _ item found
  rw [List.mem_filter, decide_eq_true_iff] at member
  refine ⟨member.1, member.2.1, ?_⟩
  rcases member.2.2 with missing | same
  · cases missing
  · exact (Option.some.inj same).symm

-- A saver keeps one checkpoint under a namespace and an id.
def KeysDiffer (first second : CheckpointItem) : Prop :=
  ¬ (first.checkpointNs = second.checkpointNs ∧ first.checkpointId = second.checkpointId)

def KeysDistinct (state : ServerState) (threadId : String) : Prop := (state.items threadId).Pairwise KeysDiffer

instance : Std.Symm KeysDiffer := ⟨fun _ _ differ same => differ ⟨same.1.symm, same.2.symm⟩⟩

theorem aput_keys_distinct (state : ServerState) (config : RunnableConfig) (item : CheckpointItem) (threadId : String)
    (distinct : state.KeysDistinct threadId) : (state.aput config item).KeysDistinct threadId := by
  rw [aput]
  split
  · rename_i target _
    rw [KeysDistinct, items, Dict.get_set]
    by_cases own : threadId = target
    · subst own
      rw [if_pos rfl, Option.getD_some, List.pairwise_cons]
      refine ⟨fun old listed => ?_, List.Pairwise.filter _ distinct⟩
      have other := of_decide_eq_true (List.mem_filter.mp listed).2
      exact fun same => other ⟨same.1.symm, same.2.symm⟩
    · rw [if_neg own]
      exact distinct
  · exact distinct

theorem aget_tuple_item (state : ServerState) (threadId : String) (distinct : state.KeysDistinct threadId)
    (item : CheckpointItem) (member : item ∈ state.items threadId) :
    state.agetTuple ⟨threadId, item.checkpointNs, some item.checkpointId⟩ = some item := by
  cases found : state.agetTuple ⟨threadId, item.checkpointNs, some item.checkpointId⟩ with
  | none =>
      have nothing := newest_none _ found
      rw [List.filter_eq_nil_iff] at nothing
      exact (nothing item member (by simp)).elim
  | some other =>
      obtain ⟨listed, namespaced, same⟩ := state.aget_tuple_named threadId _ _ other found
      by_contra different
      exact List.Pairwise.forall distinct listed member (fun equal => different (congrArg some equal))
        ⟨namespaced, same⟩

theorem alist_items (platform : Platform) (state : ServerState) (lookup : LookupConfig) (filter : Option Metadata)
    (before : Option LookupConfig) (limit : Nat) (item : CheckpointItem)
    (listed : item ∈ state.alist platform lookup filter before limit) : item ∈ state.items lookup.threadId := by
  have sorted := List.mem_mergeSort.mp (List.mem_of_mem_take listed)
  exact (List.mem_filter.mp sorted).1

end ServerState

section References

variable (platform : Platform) (config : ServerConfig) (first later : RequestContext) (id : TaskId) (threadId : String)

def Identified (item : CheckpointItem) : Prop := ∃ text, item.id = some (.str text)

theorem namespace_entry (item : CheckpointItem) :
    textEntry (some (item.config threadId)) "checkpoint_ns" = some item.checkpointNs := by
  simp [textEntry, CheckpointItem.config, checkpointLocation, RunnableConfig.entry?, PyObj.entry?, List.lookup_cons]

theorem checkpoint_reference_ok (checkpointNs checkpointId : String) (checkpointMap : Option PyObj)
    (reference : CheckpointReference)
    (made : checkpointReference platform threadId checkpointNs checkpointId checkpointMap = .ok reference) :
    reference = ⟨threadId, checkpointNs, some checkpointId, checkpointMap⟩ := by
  rw [checkpointReference] at made
  split at made
  · cases made
    rfl
  · cases made

-- What a state says apart from the time it was made at.
structure SameState (answer again : ThreadState) : Prop where
  checkpoint : again.checkpoint = answer.checkpoint
  values : again.values = answer.values
  metadata : again.metadata = answer.metadata
  parentCheckpoint : again.parentCheckpoint = answer.parentCheckpoint

def parentReference (item : CheckpointItem) : Except ServerError (Option CheckpointReference) :=
  match textEntry item.parentConfig "checkpoint_id" with
  | some parentId => some <$> checkpointReference platform threadId
      ((textEntry item.parentConfig "checkpoint_ns").getD item.checkpointNs) parentId none
  | none => .ok none

def idOf (context : RequestContext) (item : CheckpointItem) : String :=
  match item.id with
  | some (.str text) => text
  | _ => context.freshCheckpointId (some item)

theorem id_drawn (context : RequestContext) (item : CheckpointItem) (unnamed : ¬ Identified item) :
    idOf context item = context.freshCheckpointId (some item) := by
  rw [idOf]
  split
  · rename_i text given
    exact (unnamed ⟨text, given⟩).elim
  · rfl

theorem id_stable_iff (item : CheckpointItem)
    (apart : first.freshCheckpointId (some item) ≠ later.freshCheckpointId (some item)) :
    idOf later item = idOf first item ↔ Identified item := by
  constructor
  · intro same
    by_contra unnamed
    rw [id_drawn later item unnamed, id_drawn first item unnamed] at same
    exact apart same.symm
  · rintro ⟨text, given⟩
    rw [idOf, idOf, given]

theorem tuple_to_state_eq (context : RequestContext) (item : CheckpointItem) :
    checkpointTupleToState platform context threadId item =
      match checkpointReference platform threadId item.checkpointNs (idOf context item) none, parentReference platform
        threadId item with
      | .ok checkpoint, .ok parentCheckpoint => .ok ⟨item.channelValues, checkpoint,
          (item.metadata.getD .empty).pop assistantIdMetadataKey,
          (match item.ts with
            | some ts => platform.str ts
            | none => platform.isoformat (context.now .read)), parentCheckpoint⟩
      | .error error, _ => .error error
      | .ok _, .error error => .error error := by
  simp only [checkpointTupleToState, namespace_entry, Option.getD_some, parentReference, idOf]
  generalize checkpointReference platform threadId item.checkpointNs _ none = reference
  cases reference with
  | error error => rfl
  | ok checkpoint =>
      cases textEntry item.parentConfig "checkpoint_id" with
      | none => rfl
      | some parentId =>
          dsimp only
          generalize checkpointReference platform threadId
            ((textEntry item.parentConfig "checkpoint_ns").getD item.checkpointNs) parentId none = parent
          cases parent with
          | error error => rfl
          | ok parentCheckpoint => rfl

theorem tuple_to_state_reference (context : RequestContext) (item : CheckpointItem) (answer : ThreadState)
    (made : checkpointTupleToState platform context threadId item = .ok answer) :
    answer.checkpoint = ⟨threadId, item.checkpointNs, some (idOf context item), none⟩ := by
  rw [tuple_to_state_eq] at made
  split at made
  · rename_i checkpoint parentCheckpoint reference parent
    cases made
    exact checkpoint_reference_ok platform threadId _ _ _ _ reference
  · cases made
  · cases made

theorem tuple_to_state_again (item : CheckpointItem) (identified : Identified item) (answer : ThreadState)
    (made : checkpointTupleToState platform first threadId item = .ok answer) :
    ∃ again, checkpointTupleToState platform later threadId item = .ok again ∧ SameState answer again := by
  obtain ⟨text, given⟩ := identified
  have sameId : idOf later item = idOf first item := by rw [idOf, idOf, given]
  rw [tuple_to_state_eq] at made
  rw [tuple_to_state_eq, sameId]
  split at made
  · rename_i checkpoint parentCheckpoint reference parent
    cases made
    exact ⟨_, rfl, rfl, rfl, rfl, rfl⟩
  · cases made
  · cases made

-- A request finds the thread and can keep its record.
def CanServe (context : RequestContext) (state : ServerState) : Prop :=
  (∃ thread, state.store.getThread threadId = some thread) ∨
    (state.latest config.checkpointer.isSome threadId).isSome = true ∧
      platform.threadJsonBytes (recordFor platform config context state threadId none) ≤ state.store.maxThreadBytes

theorem require_checkpointer_alone (present : config.checkpointer.isSome = true) (state : ServerState) :
    aloneIn platform config id (requireCheckpointer config) state = (state, .ok ()) := by
  rw [requireCheckpointer]
  cases given : config.checkpointer with
  | none => simp [given] at present
  | some saver => rfl

theorem require_checkpointer_answers (state last : ServerState) (answer : Unit)
    (ended : aloneIn platform config id (requireCheckpointer config) state = (last, .ok answer)) :
    last = state ∧ config.checkpointer.isSome = true := by
  rw [requireCheckpointer] at ended
  cases given : config.checkpointer with
  | none =>
      rw [given] at ended
      cases ended
  | some saver =>
      rw [given] at ended
      cases ended
      exact ⟨rfl, rfl⟩

theorem get_thread_state_alone (context : RequestContext) (checkpointId checkpointNs : String) (state : ServerState) :
    aloneIn platform config id (getThreadState platform context threadId (some checkpointId) checkpointNs) state =
      (state, match state.agetTuple ⟨threadId, checkpointNs, some checkpointId⟩ with
        | some item => checkpointTupleToState platform context threadId item
        | none => .error (.lookup ("Checkpoint " ++ checkpointId ++ " was not found for thread " ++ threadId))) := by
  refine (alone_then platform config id _ _ state state
    (state.agetTuple ⟨threadId, checkpointNs, some checkpointId⟩) rfl).trans ?_
  cases state.agetTuple ⟨threadId, checkpointNs, some checkpointId⟩ with
  | some item => exact attempt_alone platform config id _ state
  | none => rfl

theorem get_or_create_answers (context : RequestContext) (state : ServerState)
    (exists_ : state.threadExists config.checkpointer.isSome threadId = true) :
    (∃ after thread, aloneIn platform config id (getOrCreateThread platform config context (some threadId) none) state =
        (after, .ok thread) ∧ after.saved = state.saved ∧ CanServe platform config threadId context state) ∨
      (∃ after error, aloneIn platform config id (getOrCreateThread platform config context (some threadId) none)
        state = (after, .error error) ∧ ¬ CanServe platform config threadId context state) := by
  rw [get_or_create_thread_alone]
  rw [ServerState.threadExists] at exists_
  cases found : state.store.getThread threadId with
  | some thread => exact Or.inl ⟨_, _, rfl, rfl, Or.inl ⟨thread, found⟩⟩
  | none =>
      rw [found, Option.isSome_none, Bool.false_or] at exists_
      rw [InMemoryThreadStore.putThread]
      by_cases large : state.store.maxThreadBytes < platform.threadJsonBytes
        (recordFor platform config context state threadId none)
      · rw [if_pos large]
        refine Or.inr ⟨_, _, rfl, fun serves => ?_⟩
        rcases serves with ⟨thread, recorded⟩ | ⟨_, fits⟩
        · cases found.symm.trans recorded
        · exact Nat.not_lt_of_le fits large
      · rw [if_neg large]
        exact Or.inl ⟨_, _, rfl, rfl, Or.inr ⟨exists_, Nat.le_of_not_lt large⟩⟩

theorem serves_exists (context : RequestContext) (state : ServerState)
    (serves : CanServe platform config threadId context state) :
    state.threadExists config.checkpointer.isSome threadId = true := by
  rw [ServerState.threadExists]
  rcases serves with ⟨thread, found⟩ | ⟨known, _⟩
  · rw [found]
    rfl
  · rw [known, Bool.or_true]

theorem get_state_checkpoint_answers (context : RequestContext) (checkpointId : String)
    (reference : CheckpointReference)
    (own : reference.threadId = threadId) (named : reference.checkpointId = some checkpointId) (state : ServerState)
    (present : config.checkpointer.isSome = true) (again : ThreadState) :
    (aloneIn platform config id (getStateCheckpoint platform config context threadId (some reference)) state).2 =
      .ok again ↔ CanServe platform config threadId context state ∧
        ∃ item, state.agetTuple ⟨threadId, reference.checkpointNs, some checkpointId⟩ = some item ∧
          checkpointTupleToState platform context threadId item = .ok again := by
  have routed : aloneIn platform config id (checkRoute (some reference) threadId
      "Checkpoint thread_id must match the route thread_id") state = (state, .ok ()) := by
    rw [checkRoute, if_neg (by simp [own])]
    rfl
  rw [getStateCheckpoint, alone_then platform config id _ _ state state ()
    (require_checkpointer_alone platform config id present state),
    alone_then platform config id _ _ state state () routed,
    alone_then platform config id _ _ state state _ (thread_exists_alone platform config context id threadId state)]
  by_cases exists_ : state.threadExists config.checkpointer.isSome threadId = true
  · rw [if_pos exists_]
    rcases get_or_create_answers platform config id threadId context state exists_ with
      ⟨after, thread, created, saved, serves⟩ | ⟨after, error, refused, unserved⟩
    · rw [alone_then platform config id _ _ state after thread created]
      have tuples (lookup : LookupConfig) : after.agetTuple lookup = state.agetTuple lookup := by
        rw [ServerState.agetTuple, ServerState.agetTuple, ServerState.items, ServerState.items, saved]
      refine Iff.trans ?_ (and_iff_right serves).symm
      simp only [Option.bind_some, named, Option.map_some, Option.getD_some]
      have caught := (serverMachine platform config.checkpointer.isSome).alone_catch id
        (getThreadState platform context threadId (some checkpointId) reference.checkpointNs) lookupNotFound after
      have looked := get_thread_state_alone platform config id threadId context checkpointId
        reference.checkpointNs after
      rw [aloneIn] at looked ⊢
      rw [caught, looked, tuples]
      cases state.agetTuple ⟨threadId, reference.checkpointNs, some checkpointId⟩ with
      | none => simp [lookupNotFound, raise]
      | some item =>
          dsimp only
          cases made : checkpointTupleToState platform context threadId item with
          | ok answer => simp [made]
          | error error => cases error <;> simp [made, lookupNotFound, raise]
    · rw [alone_fails platform config id _ _ state after error refused]
      exact ⟨fun ended => (by cases ended), fun wanted => (unserved wanted.1).elim⟩
  · rw [if_neg exists_]
    exact ⟨fun ended => (by cases ended), fun wanted =>
      (exists_ (serves_exists platform config threadId context state wanted.1)).elim⟩

-- Sent back unchanged, the reference of a state leads to the same state.
def Resolves (after : ServerState) (answer : ThreadState) : Prop :=
  ∃ again, (aloneIn platform config id (getStateCheckpoint platform config later threadId (some answer.checkpoint))
    after).2 = .ok again ∧ SameState answer again

theorem resolves_iff (state : ServerState) (item : CheckpointItem) (answer : ThreadState)
    (present : config.checkpointer.isSome = true)
    (own : state.agetTuple ⟨threadId, item.checkpointNs, some item.checkpointId⟩ = some item)
    (made : checkpointTupleToState platform first threadId item = .ok answer)
    (fresh : ∀ other ∈ state.items threadId, other.checkpointId ≠ first.freshCheckpointId (some item)) :
    Resolves platform config later id threadId state answer ↔
      Identified item ∧ CanServe platform config threadId later state := by
  have reference := tuple_to_state_reference platform threadId first item answer made
  have answers := get_state_checkpoint_answers platform config id threadId later (idOf first item) answer.checkpoint
    (by rw [reference]) (by rw [reference]) state present
  rw [reference] at answers
  constructor
  · rintro ⟨again, sent, _⟩
    rw [reference] at sent
    obtain ⟨serves, other, found, _⟩ := (answers again).mp sent
    obtain ⟨listed, _, same⟩ := state.aget_tuple_named threadId _ _ other found
    refine ⟨?_, serves⟩
    by_contra unnamed
    exact fresh other listed (same.trans (id_drawn first item unnamed))
  · rintro ⟨identified, serves⟩
    obtain ⟨again, repeated, same⟩ := tuple_to_state_again platform first later threadId item identified answer made
    obtain ⟨text, given⟩ := identified
    have key : idOf first item = item.checkpointId := by
      rw [idOf, given]
      exact item.keyed text given
    rw [key] at answers
    refine ⟨again, ?_, same⟩
    rw [reference, key]
    exact (answers again).mpr ⟨serves, item, own, repeated⟩

theorem get_state_answers (state after : ServerState) (answer : ThreadState)
    (ended : aloneIn platform config id (getState platform config first threadId) state = (after, .ok answer)) :
    after = state ∧ config.checkpointer.isSome = true ∧
      ((∃ item, state.latest config.checkpointer.isSome threadId = some item ∧
          checkpointTupleToState platform first threadId item = .ok answer) ∨
        state.latest config.checkpointer.isSome threadId = none ∧ emptyState platform first threadId = .ok answer) := by
  obtain ⟨checked, _, required, checking⟩ := alone_answers platform config id _ _ state after answer ended
  obtain ⟨rfl, present⟩ := require_checkpointer_answers platform config id state checked _ required
  obtain ⟨found, exists_, tested, reading⟩ := alone_answers platform config id _ _ _ after answer checking
  rw [thread_exists_alone] at tested
  cases tested
  by_cases known : ServerState.threadExists config.checkpointer.isSome checked threadId = true
  · rw [if_pos known] at reading
    obtain ⟨looked, item, asked, translating⟩ := alone_answers platform config id _ _ _ after answer reading
    cases asked
    have latest : ServerState.latest config.checkpointer.isSome checked threadId =
        checked.agetTuple (checkpointConfig threadId none "") := by
      rw [ServerState.latest, if_pos present]
    rw [latest]
    cases tuple : checked.agetTuple (checkpointConfig threadId none "") with
    | some item =>
        simp only [tuple, attempt_alone, Prod.mk.injEq] at translating
        exact ⟨translating.1.symm, present, Or.inl ⟨item, rfl, translating.2⟩⟩
    | none =>
        simp only [tuple, attempt_alone, Prod.mk.injEq] at translating
        exact ⟨translating.1.symm, present, Or.inr ⟨rfl, translating.2⟩⟩
  · rw [if_neg known] at reading
    cases reading

theorem map_answers (context : RequestContext) (items : List CheckpointItem) (answers : List ThreadState)
    (made : items.mapM (checkpointTupleToState platform context threadId) = .ok answers) :
    List.Forall₂ (fun item answer => checkpointTupleToState platform context threadId item = .ok answer)
      items answers := by
  induction items generalizing answers with
  | nil =>
      cases made
      exact .nil
  | cons item rest ih =>
      rw [List.mapM_cons] at made
      cases head : checkpointTupleToState platform context threadId item with
      | error error => simp [head, bind, Except.bind] at made
      | ok answer =>
          cases tail : rest.mapM (checkpointTupleToState platform context threadId) with
          | error error => simp [head, tail, bind, Except.bind] at made
          | ok others =>
              simp only [head, tail, bind, Except.bind, pure, Except.pure, Except.ok.injEq] at made
              rw [← made]
              exact .cons head (ih others tail)

def historyItems (state : ServerState) (request : HistoryRequest) : List CheckpointItem :=
  state.alist platform (checkpointConfig threadId none (historyNamespace request)) request.metadata
    (historyBefore threadId request) request.limit

theorem check_route_answers (reference : Option CheckpointReference) (detail : String) (state last : ServerState)
    (answer : Unit) (ended : aloneIn platform config id (checkRoute reference threadId detail) state =
      (last, .ok answer)) :
    last = state := by
  rw [checkRoute] at ended
  split at ended
  · cases ended
  · cases ended
    rfl

theorem get_history_answers (request : HistoryRequest) (state after : ServerState) (answers : List ThreadState)
    (ended : aloneIn platform config id (getHistory platform config first threadId request) state =
      (after, .ok answers)) :
    after = state ∧ config.checkpointer.isSome = true ∧
      List.Forall₂ (fun item answer => checkpointTupleToState platform first threadId item = .ok answer)
        (historyItems platform threadId state request) answers := by
  obtain ⟨checked, _, required, routing⟩ := alone_answers platform config id _ _ state after answers ended
  obtain ⟨same, present⟩ := require_checkpointer_answers platform config id state checked _ required
  obtain ⟨routed, _, own, bounding⟩ := alone_answers platform config id _ _ checked after answers routing
  obtain ⟨bounded, _, ownBefore, listing⟩ := alone_answers platform config id _ _ routed after answers bounding
  obtain ⟨listed, items, asked, translating⟩ := alone_answers platform config id _ _ bounded after answers listing
  rw [check_route_answers platform config id threadId _ _ routed bounded _ ownBefore,
    check_route_answers platform config id threadId _ _ checked routed _ own, same] at asked
  cases asked
  simp only [attempt_alone, Prod.mk.injEq] at translating
  exact ⟨translating.1.symm, present, map_answers platform threadId first _ answers translating.2⟩

theorem updated_checkpoint_made (result : PyObj) (reference : CheckpointReference)
    (updated : updatedCheckpoint platform threadId result = .ok reference) :
    ∃ checkpointNs checkpointId checkpointMap,
      checkpointReference platform threadId checkpointNs checkpointId checkpointMap = .ok reference := by
  rw [updatedCheckpoint] at updated
  split at updated
  · split at updated
    · exact ⟨_, _, _, updated⟩
    · cases updated
  · cases updated

theorem update_state_answers (body : StateUpdate) (state after : ServerState) (reference : CheckpointReference)
    (ended : aloneIn platform config id (updateState platform config first threadId body) state =
      (after, .ok reference)) :
    config.checkpointer.isSome = true ∧ ∃ checkpointNs checkpointId checkpointMap,
      checkpointReference platform threadId checkpointNs checkpointId checkpointMap = .ok reference := by
  rw [updateState] at ended
  split at ended
  · cases ended
  · rename_i saver present
    refine ⟨by rw [present]; rfl, ?_⟩
    obtain ⟨tested, exists_, _, acquiring⟩ := alone_answers platform config id _ _ state after reference ended
    split at acquiring
    · obtain ⟨held, lease, _, updating⟩ := alone_answers platform config id _ _ tested after reference acquiring
      obtain ⟨updated, result, _, answering⟩ := alone_answers platform config id _ _ held after reference updating
      rw [attempt_alone] at answering
      exact updated_checkpoint_made platform threadId result reference (Prod.mk.inj answering).2
    · cases acquiring

-- Sent back unchanged, the reference of an update leads to a state with that reference.
def ResolvesReference (after : ServerState) (reference : CheckpointReference) : Prop :=
  ∃ again, (aloneIn platform config id (getStateCheckpoint platform config later threadId (some reference)) after).2 =
    .ok again ∧ again.checkpoint = reference

def FreshIds (context : RequestContext) (state : ServerState) : Prop :=
  ∀ given, ∀ item ∈ state.items threadId, item.checkpointId ≠ context.freshCheckpointId given

theorem resolves_reference_iff (after : ServerState) (checkpointNs checkpointId : String) (checkpointMap : Option PyObj)
    (reference : CheckpointReference) (present : config.checkpointer.isSome = true)
    (made : checkpointReference platform threadId checkpointNs checkpointId checkpointMap = .ok reference)
    (fresh : FreshIds threadId later after) :
    ResolvesReference platform config later id threadId after reference ↔
      reference.checkpointMap = none ∧ CanServe platform config threadId later after ∧
        ∃ item, after.agetTuple ⟨threadId, reference.checkpointNs, reference.checkpointId⟩ = some item ∧
          Identified item ∧ ∃ parent, parentReference platform threadId item = .ok parent := by
  have shape := checkpoint_reference_ok platform threadId _ _ _ _ made
  have answers := get_state_checkpoint_answers platform config id threadId later checkpointId reference
    (by rw [shape]) (by rw [shape]) after present
  rw [shape] at answers
  subst shape
  constructor
  · rintro ⟨again, sent, same⟩
    obtain ⟨serves, item, found, translated⟩ := (answers again).mp sent
    have issued := tuple_to_state_reference platform threadId later item again translated
    obtain ⟨listed, namespaced, key⟩ := after.aget_tuple_named threadId _ _ item found
    rw [same] at issued
    have mapped := congrArg CheckpointReference.checkpointMap issued
    have identifier := Option.some.inj (congrArg CheckpointReference.checkpointId issued)
    refine ⟨mapped, serves, item, found, ?_, ?_⟩
    · by_contra unnamed
      exact fresh (some item) item listed (key.trans (identifier.trans (id_drawn later item unnamed)))
    · rw [tuple_to_state_eq] at translated
      split at translated
      · rename_i parent _ related
        exact ⟨_, related⟩
      · cases translated
      · cases translated
  · rintro ⟨unmapped, serves, item, found, ⟨text, given⟩, parent, related⟩
    obtain ⟨listed, namespaced, key⟩ := after.aget_tuple_named threadId _ _ item found
    have named : idOf later item = checkpointId := by
      rw [idOf, given, ← key]
      exact item.keyed text given
    dsimp only at unmapped namespaced
    subst unmapped namespaced
    have translated := tuple_to_state_eq platform threadId later item
    rw [named, made, related] at translated
    exact ⟨_, (answers _).mpr ⟨serves, item, found, translated⟩, rfl⟩

theorem empty_state_reference (context : RequestContext) (answer : ThreadState)
    (empty : emptyState platform context threadId = .ok answer) :
    answer.checkpoint = ⟨threadId, "", some (context.freshCheckpointId none), none⟩ := by
  cases made : checkpointReference platform threadId "" (context.freshCheckpointId none) none with
  | error error => simp [emptyState, made, bind, Except.bind] at empty
  | ok reference =>
      simp only [emptyState, made, bind, Except.bind, pure, Except.pure, Except.ok.injEq] at empty
      rw [← empty]
      exact checkpoint_reference_ok platform threadId _ _ _ _ made

theorem get_state_resolves (state : ServerState) (answer : ThreadState) (fresh : FreshIds threadId first state)
    (present : config.checkpointer.isSome = true)
    (issued : (∃ item, state.latest config.checkpointer.isSome threadId = some item ∧
          checkpointTupleToState platform first threadId item = .ok answer) ∨
        state.latest config.checkpointer.isSome threadId = none ∧ emptyState platform first threadId = .ok answer) :
    Resolves platform config later id threadId state answer ↔
      (∃ item, state.latest config.checkpointer.isSome threadId = some item ∧ Identified item) ∧
        CanServe platform config threadId later state := by
  rcases issued with ⟨item, latest, made⟩ | ⟨missing, empty⟩
  · have asked : state.agetTuple ⟨threadId, "", none⟩ = some item := by
      rw [ServerState.latest, if_pos present] at latest
      exact latest
    obtain ⟨namespaced, own⟩ := state.aget_tuple_own threadId "" item asked
    rw [← namespaced] at own
    rw [resolves_iff platform config first later id threadId state item answer present own made
      (fun other listed => fresh (some item) other listed), latest]
    simp
  · rw [missing]
    refine iff_of_false ?_ (fun wanted => by simp at wanted)
    rintro ⟨again, sent, _⟩
    rw [empty_state_reference platform threadId first answer empty] at sent
    obtain ⟨_, item, found, _⟩ := (get_state_checkpoint_answers platform config id threadId later
      (first.freshCheckpointId none) ⟨threadId, "", some (first.freshCheckpointId none), none⟩ rfl rfl state present
      again).mp sent
    obtain ⟨listed, _, key⟩ := state.aget_tuple_named threadId _ _ item found
    exact fresh none item listed key

end References

-- What is issued by a request that `first` serves and sent back to one that `later` serves.
structure ReferencesResolve (platform : Platform) (config : ServerConfig) (first later : RequestContext) (id : TaskId)
    (threadId : String) (state : ServerState) : Prop where
  current : ∀ after answer, aloneIn platform config id (getState platform config first threadId) state =
    (after, .ok answer) → (Resolves platform config later id threadId after answer ↔
      (∃ item, state.latest config.checkpointer.isSome threadId = some item ∧ Identified item) ∧
        CanServe platform config threadId later after)
  twice : ∀ after answer last again,
    aloneIn platform config id (getState platform config first threadId) state = (after, .ok answer) →
    aloneIn platform config id (getState platform config later threadId) after = (last, .ok again) →
    (again.checkpoint = answer.checkpoint ↔
      ∃ item, state.latest config.checkpointer.isSome threadId = some item ∧ Identified item)
  history : ∀ request after answers,
    aloneIn platform config id (getHistory platform config first threadId request) state = (after, .ok answers) →
    List.Forall₂ (fun item answer => Resolves platform config later id threadId after answer ↔
      Identified item ∧ CanServe platform config threadId later after)
        (historyItems platform threadId state request) answers
  update : ∀ body after reference,
    aloneIn platform config id (updateState platform config first threadId body) state = (after, .ok reference) →
    FreshIds threadId later after →
    (ResolvesReference platform config later id threadId after reference ↔
      reference.checkpointMap = none ∧ CanServe platform config threadId later after ∧
        ∃ item, after.agetTuple ⟨threadId, reference.checkpointNs, reference.checkpointId⟩ = some item ∧
          Identified item ∧ ∃ parent, parentReference platform threadId item = .ok parent)

theorem issued_references_resolve (platform : Platform) (config : ServerConfig) (first later : RequestContext)
    (id : TaskId) (threadId : String) (state : ServerState) (distinct : state.KeysDistinct threadId)
    (fresh : FreshIds threadId first state)
    (apart : ∀ given other, first.freshCheckpointId given ≠ later.freshCheckpointId other) :
    ReferencesResolve platform config first later id threadId state := by
  refine ⟨fun after answer ended => ?_, fun after answer last again ended repeated => ?_,
    fun request after answers ended => ?_, fun body after reference ended freshLater => ?_⟩
  · obtain ⟨rfl, present, issued⟩ := get_state_answers platform config first id threadId state after answer ended
    exact get_state_resolves platform config first later id threadId after answer fresh present issued
  · obtain ⟨rfl, _, issued⟩ := get_state_answers platform config first id threadId state after answer ended
    obtain ⟨_, _, reissued⟩ := get_state_answers platform config later id threadId after last again repeated
    rcases issued with ⟨item, latest, made⟩ | ⟨missing, empty⟩
    · rcases reissued with ⟨other, latestAgain, remade⟩ | ⟨missing, _⟩
      · cases latest.symm.trans latestAgain
        have stable := id_stable_iff first later item (apart (some item) (some item))
        rw [tuple_to_state_reference platform threadId first item answer made,
          tuple_to_state_reference platform threadId later item again remade, latest]
        simpa using stable
      · cases latest.symm.trans missing
    · rcases reissued with ⟨other, latestAgain, _⟩ | ⟨_, emptyAgain⟩
      · cases missing.symm.trans latestAgain
      · rw [empty_state_reference platform threadId first answer empty,
          empty_state_reference platform threadId later again emptyAgain, missing]
        refine iff_of_false (fun same => ?_) (by simp)
        exact apart none none (Option.some.inj (congrArg CheckpointReference.checkpointId same)).symm
  · obtain ⟨rfl, present, issued⟩ := get_history_answers platform config first id threadId request state
      after answers ended
    have listed : ∀ item ∈ historyItems platform threadId after request, item ∈ after.items threadId :=
      fun item member => after.alist_items platform _ _ _ _ item member
    refine ((List.forall₂_and_left _ _).mpr ⟨listed, issued⟩).imp (fun item answer made => ?_)
    exact resolves_iff platform config first later id threadId after item answer present
      (after.aget_tuple_item threadId distinct item made.1) made.2 (fun other member => fresh (some item) other member)
  · obtain ⟨present, checkpointNs, checkpointId, checkpointMap, made⟩ :=
      update_state_answers platform config first id threadId body state after reference ended
    exact resolves_reference_iff platform config later id threadId after checkpointNs checkpointId
      checkpointMap reference present made freshLater

def drawing (checkpointId : String) : RequestContext :=
  ⟨fun _ => 0, "fresh", "run", fun _ => "message", fun _ => checkpointId⟩

def smallItem (checkpointId : String) (parentId : Option String) : CheckpointItem where
  checkpointNs := ""
  checkpointId := checkpointId
  id := some (.str checkpointId)
  ts := none
  channelValues := .empty
  metadata := none
  parentConfig := parentId.map (checkpointLocation "t" "")
  keyed _ same := (PyObj.str.inj (Option.some.inj same)).symm

def smallThread : Thread := ⟨"t", 0, 0, .empty, "idle", .empty⟩

def threadState (items : List CheckpointItem) : ServerState :=
  { smallState 2 Nat.two_pos with
    store := ⟨1000, Dict.empty.set "t" ⟨smallThread, none⟩⟩
    saved := Dict.empty.set "t" items }

def smallReferenceConfig : ServerConfig := smallServerConfig smallGraph (some ⟨true⟩) none

theorem issued_references_resolve_small_history :
    ReferencesResolve smallPlatform smallReferenceConfig (drawing "first") (drawing "later") ⟨0, false⟩ "t"
      (threadState [smallItem "c2" (some "c1"), smallItem "c1" none]) := by
  refine issued_references_resolve smallPlatform smallReferenceConfig (drawing "first") (drawing "later") ⟨0, false⟩ "t"
    (threadState [smallItem "c2" (some "c1"), smallItem "c1" none]) ?_ ?_ ?_
  · refine List.pairwise_pair.mpr (fun same => ?_)
    have equal : "c2" = "c1" := same.2
    exact absurd equal (by decide)
  · intro given item listed
    have cases_ : item = smallItem "c2" (some "c1") ∨ item = smallItem "c1" none := by
      simpa [ServerState.items, threadState, Dict.get_set] using listed
    rcases cases_ with rfl | rfl
    · exact (by decide : "c2" ≠ "first")
    · exact (by decide : "c1" ≠ "first")
  · exact fun _ _ => (by decide : "first" ≠ "later")

theorem empty_state_unresolved :
    ¬ (∀ (state after : ServerState) (answer : ThreadState),
      aloneIn smallPlatform smallReferenceConfig ⟨0, false⟩
        (getState smallPlatform smallReferenceConfig (drawing "first") "t") state = (after, .ok answer) →
      Resolves smallPlatform smallReferenceConfig (drawing "later") ⟨0, false⟩ "t" after answer) := by
  intro resolve
  have fresh : FreshIds "t" (drawing "first") (threadState []) := by
    intro given item listed
    simp [ServerState.items, threadState, Dict.get_set] at listed
  have issued : aloneIn smallPlatform smallReferenceConfig ⟨0, false⟩
      (getState smallPlatform smallReferenceConfig (drawing "first") "t") (threadState []) =
      (threadState [], .ok ⟨.empty, ⟨"t", "", some "first", none⟩, .empty, "2025-01-01T00:00:00+00:00", none⟩) := by
    rfl
  obtain ⟨_, present, origin⟩ := get_state_answers _ _ _ _ _ _ _ _ issued
  have wanted := (get_state_resolves _ _ _ (drawing "later") ⟨0, false⟩ _ _ _ fresh present origin).mp
    (resolve _ _ _ issued)
  obtain ⟨⟨item, latest, _⟩, _⟩ := wanted
  cases latest

end LangGraphServer
