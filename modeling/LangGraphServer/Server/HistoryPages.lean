import Mathlib.Data.String.Basic
import LangGraphServer.Lib.Paging
import LangGraphServer.Lib.Run
import LangGraphServer.Server.Markers

set_option autoImplicit false

namespace LangGraphServer

open Collections Coroutine Paging

-- The checkpoints of a namespace that a history request selects among, in any order.
def selected (platform : Platform) (threadId checkpointNs : String) (filter : Option Metadata) (state : ServerState) :
    List CheckpointItem :=
  (state.items threadId).filter (fun item => decide (item.checkpointNs = checkpointNs) &&
    filter.all (fun given => ServerState.matchesFilter platform given (item.metadata.getD .empty)))

-- What is neither written nor removed below a checkpoint id.
def SparesOlder (threadId checkpointNs edge : String) : ServerOp → Prop
  | .aput config item => config.entry? "thread_id" = some (.str threadId) → item.checkpointNs = checkpointNs →
    ¬ item.checkpointId < edge
  | .deleteCheckpoints query => query ≠ threadId
  | _ => True

def LeavesOlder (threadId checkpointNs edge : String) (pool : Pool Api ServerState TaskId) (turn : Turn Api) : Prop :=
  ∀ id op resume, pool.tasks[turn.task]? = some (id, .await op resume) → turn.failure = none →
    SparesOlder threadId checkpointNs edge op

section Pages

variable (platform : Platform) (config : ServerConfig) (id : TaskId) (threadId : String)

-- A client reads the history page by page: it asks again from the last state of a page on,
-- until a page is not full. Between two pages the server may run any tasks, as long as
-- they leave the older checkpoints alone.
inductive PagesRead (metadata : Option Metadata) (checkpoint : Option CheckpointReference) (limit : Nat) :
    Nat → Option HistoryBefore → ServerState → List ThreadState → Prop where
  | last (context : RequestContext) (before : Option HistoryBefore) (state after : ServerState)
    (answers : List ThreadState)
      (asked : aloneIn platform config id
        (getHistory platform config context threadId ⟨limit, before, metadata, checkpoint⟩) state =
        (after, .ok answers))
      (short : answers.length < limit) : PagesRead metadata checkpoint limit 1 before state answers
  | more (context : RequestContext) (pages : Nat) (before : Option HistoryBefore) (state after : ServerState)
    (answers rest : List ThreadState)
      (oldest : ThreadState) (edge : String) (tasks : List (TaskId × Coro Api Unit)) (turns : List (Turn Api))
      (asked : aloneIn platform config id
        (getHistory platform config context threadId ⟨limit, before, metadata, checkpoint⟩) state =
        (after, .ok answers))
      (full : answers.length = limit) (found : answers.getLast? = some oldest)
        (named : oldest.checkpoint.checkpointId = some edge)
      (older : Transition.Meets (serverMachine platform config.checkpointer.isSome).step
        (LeavesOlder threadId ((checkpoint.map CheckpointReference.checkpointNs).getD "") edge) ⟨after, tasks⟩ turns)
      (reads : PagesRead metadata checkpoint limit pages (some (.checkpoint oldest.checkpoint))
        (Transition.run (serverMachine platform config.checkpointer.isSome).step ⟨after, tasks⟩ turns).shared rest) :
      PagesRead metadata checkpoint limit (pages + 1) before state (answers ++ rest)

def cursor : Option HistoryBefore → Option String
  | some (.checkpoint reference) => reference.checkpointId
  | some (.identifier checkpointId) => some checkpointId
  | none => none

theorem history_items_page (state : ServerState) (request : HistoryRequest) :
    historyItems platform threadId state request = page CheckpointItem.checkpointId request.limit
      (cursor request.before) (selected platform threadId (historyNamespace request) request.metadata state) := by
  have bound : (historyBefore threadId request).bind LookupConfig.checkpointId = cursor request.before := by
    rw [historyBefore]
    cases request.before with
    | none => rfl
    | some before => cases before <;> rfl
  rw [historyItems, ServerState.alist, page, newestFirst, selected, List.filter_filter, bound]
  refine congrArg (fun items => (List.mergeSort items _).take request.limit) (List.filter_congr (fun item _ => ?_))
  rw [Bool.and_comm (below _ _ _), Bool.and_assoc]
  rfl

theorem perform_saved (persistent : Bool) (task : TaskId) (op : ServerOp) (state : ServerState)
    (writes : ∀ runnableConfig item, op ≠ .aput runnableConfig item)
    (deletes : ∀ query, op ≠ .deleteCheckpoints query) :
    (state.perform platform persistent task op).1.saved = state.saved := by
  cases op
  case aput runnableConfig item => exact absurd rfl (writes runnableConfig item)
  case deleteCheckpoints query => exact absurd rfl (deletes query)
  case acquire query mutation =>
    simp only [ServerState.perform]
    split <;> rfl
  case begin graphOf =>
    simp only [ServerState.perform]
    split <;> rfl
  case finish =>
    simp only [ServerState.perform, ServerState.updateProgress]
    split <;> rfl
  all_goals rfl

theorem perform_keys_distinct (persistent : Bool) (task : TaskId) (op : ServerOp) (state : ServerState)
    (distinct : state.KeysDistinct threadId) : (state.perform platform persistent task op).1.KeysDistinct threadId := by
  have same : ∀ after : ServerState, after.saved = state.saved → after.KeysDistinct threadId := by
    intro after saved
    rw [ServerState.KeysDistinct, ServerState.items, saved]
    exact distinct
  by_cases writes : ∃ runnableConfig item, op = .aput runnableConfig item
  · obtain ⟨runnableConfig, item, rfl⟩ := writes
    cases persistent with
    | false => exact distinct
    | true => exact state.aput_keys_distinct runnableConfig item threadId distinct
  · by_cases deletes : ∃ query, op = .deleteCheckpoints query
    · obtain ⟨query, rfl⟩ := deletes
      show ((state.deleteCheckpoints query).items threadId).Pairwise ServerState.KeysDiffer
      rw [items_delete_checkpoints]
      split
      · exact List.Pairwise.nil
      · exact distinct
    · exact same _ (perform_saved platform persistent task op state (fun _ _ same => writes ⟨_, _, same⟩)
        (fun _ same => deletes ⟨_, same⟩))

def SameOlder (checkpointNs edge : String) (before after : ServerState) : Prop :=
  ∀ item : CheckpointItem, item.checkpointNs = checkpointNs → item.checkpointId < edge →
    (item ∈ after.items threadId ↔ item ∈ before.items threadId)

theorem aput_same_older (state : ServerState) (runnableConfig : RunnableConfig) (written : CheckpointItem)
    (checkpointNs edge : String) (spares : SparesOlder threadId checkpointNs edge (.aput runnableConfig written)) :
    SameOlder threadId checkpointNs edge state (state.aput runnableConfig written) := by
  intro item namespaced older
  by_cases here : ∃ target, runnableConfig.entry? "thread_id" = some (.str target)
  · obtain ⟨target, given⟩ := here
    rw [items_aput runnableConfig target given written state threadId]
    by_cases own : threadId = target
    · subst own
      have apart : ¬ (item.checkpointNs = written.checkpointNs ∧ item.checkpointId = written.checkpointId) := by
        rintro ⟨sameNs, sameId⟩
        exact spares given (sameNs.symm.trans namespaced) (sameId ▸ older)
      rw [if_pos rfl, List.mem_cons, List.mem_filter, decide_eq_true_iff]
      constructor
      · rintro (rfl | ⟨listed, _⟩)
        · exact absurd ⟨rfl, rfl⟩ apart
        · exact listed
      · exact fun listed => Or.inr ⟨listed, apart⟩
    · rw [if_neg own]
  · have same : state.aput runnableConfig written = state := by
      rw [ServerState.aput]
      split
      · rename_i target given
        exact absurd ⟨target, given⟩ here
      · rfl
    rw [same]

theorem perform_same_older (persistent : Bool) (task : TaskId) (op : ServerOp) (state : ServerState)
    (checkpointNs edge : String) (spares : SparesOlder threadId checkpointNs edge op) :
    SameOlder threadId checkpointNs edge state (state.perform platform persistent task op).1 := by
  intro item namespaced older
  by_cases deletes : ∃ query, op = .deleteCheckpoints query
  · obtain ⟨query, rfl⟩ := deletes
    show item ∈ (state.deleteCheckpoints query).items threadId ↔ _
    rw [items_delete_checkpoints, if_neg (fun same => spares same.symm)]
  by_cases writes : ∃ runnableConfig item, op = .aput runnableConfig item
  · obtain ⟨runnableConfig, written, rfl⟩ := writes
    cases persistent with
    | false => exact Iff.rfl
    | true => exact aput_same_older threadId state runnableConfig written checkpointNs edge spares item namespaced older
  · rw [ServerState.items, perform_saved platform persistent task op state (fun _ _ same => writes ⟨_, _, same⟩)
      (fun _ same => deletes ⟨_, same⟩), ServerState.items]

theorem run_same_older (checkpointNs edge : String) (start : ServerState) (tasks : List (TaskId × Coro Api Unit))
    (turns : List (Turn Api)) (distinct : start.KeysDistinct threadId)
    (older : Transition.Meets (serverMachine platform config.checkpointer.isSome).step
      (LeavesOlder threadId checkpointNs edge) ⟨start, tasks⟩ turns) :
    (Transition.run (serverMachine platform config.checkpointer.isSome).step ⟨start, tasks⟩ turns).shared.KeysDistinct
      threadId ∧ SameOlder threadId checkpointNs edge start
        (Transition.run (serverMachine platform config.checkpointer.isSome).step ⟨start, tasks⟩ turns).shared := by
  refine Transition.run_of_keeps _ _ (fun pool => pool.shared.KeysDistinct threadId ∧
    SameOlder threadId checkpointNs edge start pool.shared)
    ?_ _ ⟨distinct, fun _ _ _ => Iff.rfl⟩ turns older
  rintro pool turn ⟨keys, same⟩ leaves
  rw [Machine.step]
  split
  · rename_i task op resume found
    cases calm : turn.failure with
    | none =>
        refine ⟨perform_keys_distinct platform threadId _ task op pool.shared keys, fun item namespaced lower => ?_⟩
        exact (perform_same_older platform threadId _ task op pool.shared checkpointNs edge
          (leaves task op resume found calm) item namespaced lower).trans (same item namespaced lower)
    | some error =>
        dsimp only
        split
        · have saved := (struck_frame task op error pool.shared).2.1
          refine ⟨?_, fun item namespaced lower => ?_⟩
          · show (ServerState.struck task op error pool.shared).KeysDistinct threadId
            rw [ServerState.KeysDistinct, ServerState.items, saved]
            exact keys
          · show item ∈ (ServerState.struck task op error pool.shared).items threadId ↔ _
            rw [ServerState.items, saved]
            exact same item namespaced lower
        · exact ⟨keys, same⟩
  · exact ⟨keys, same⟩
  · exact ⟨keys, same⟩

theorem selected_mem (checkpointNs : String) (filter : Option Metadata) (state : ServerState) (item : CheckpointItem) :
    item ∈ selected platform threadId checkpointNs filter state ↔ item ∈ state.items threadId ∧
      item.checkpointNs = checkpointNs ∧
      filter.all (fun given => ServerState.matchesFilter platform given (item.metadata.getD .empty)) = true := by
  rw [selected, List.mem_filter, Bool.and_eq_true, decide_eq_true_iff]

theorem selected_distinct (checkpointNs : String) (filter : Option Metadata) (state : ServerState)
    (distinct : state.KeysDistinct threadId) :
    KeysApart CheckpointItem.checkpointId (selected platform threadId checkpointNs filter state) := by
  refine List.Pairwise.imp_of_mem (fun {first second} listed listedToo differ same => ?_)
    (List.Pairwise.filter _ distinct)
  have namespaced := ((selected_mem platform threadId checkpointNs filter state first).mp listed).2.1
  have namespacedToo := ((selected_mem platform threadId checkpointNs filter state second).mp listedToo).2.1
  exact differ ⟨namespaced.trans namespacedToo.symm, same⟩

theorem selected_same_older (checkpointNs edge : String) (filter : Option Metadata) (before after : ServerState)
    (same : SameOlder threadId checkpointNs edge before after) (item : CheckpointItem)
    (older : item.checkpointId < edge) :
    item ∈ selected platform threadId checkpointNs filter after ↔ item ∈ selected platform threadId checkpointNs
      filter before := by
  rw [selected_mem, selected_mem]
  exact and_congr_left (fun chosen => same item chosen.1 older)

theorem last_answered {α β : Type} {related : α → β → Prop} (items : List α) (answers : List β) (answer : β)
    (matched : List.Forall₂ related items answers) (last : answers.getLast? = some answer) :
    ∃ item, items.getLast? = some item ∧ related item answer := by
  rw [← List.head?_reverse] at last
  have backwards := List.forall₂_reverse_iff.mpr matched
  cases same : items.reverse with
  | nil =>
      rw [same, List.forall₂_nil_left_iff] at backwards
      rw [backwards] at last
      cases last
  | cons item earlier =>
      rw [same] at backwards
      obtain ⟨other, rest, this, _, split⟩ := List.forall₂_cons_left_iff.mp backwards
      rw [split, List.head?_cons, Option.some.injEq] at last
      exact ⟨item, by rw [← List.head?_reverse, same, List.head?_cons], last ▸ this⟩

theorem answer_names_key (context : RequestContext) (item : CheckpointItem) (answer : ThreadState)
    (identified : Identified item) (made : checkpointTupleToState platform context threadId item = .ok answer) :
    answer.checkpoint.checkpointId = some item.checkpointId := by
  obtain ⟨text, given⟩ := identified
  rw [tuple_to_state_reference platform threadId context item answer made, idOf, given]
  exact congrArg some (item.keyed text given)

def ShowsItem (item : CheckpointItem) (answer : ThreadState) : Prop :=
  ∃ context, checkpointTupleToState platform context threadId item = .ok answer

theorem history_page_answers (context : RequestContext) (request : HistoryRequest) (state after : ServerState)
    (answers : List ThreadState)
    (asked : aloneIn platform config id (getHistory platform config context threadId request) state =
      (after, .ok answers)) :
    after = state ∧ List.Forall₂ (ShowsItem platform threadId)
      (page CheckpointItem.checkpointId request.limit (cursor request.before)
      (selected platform threadId (historyNamespace request) request.metadata state)) answers := by
  obtain ⟨same, _, matched⟩ := get_history_answers platform config context id threadId request state after answers asked
  rw [history_items_page] at matched
  exact ⟨same, matched.imp (fun _ _ made => ⟨context, made⟩)⟩

theorem page_listed (limit : Nat) (bound : Option String) (stock : List CheckpointItem) (item : CheckpointItem)
    (listed : item ∈ page CheckpointItem.checkpointId limit bound stock) :
    item ∈ stock ∧ below CheckpointItem.checkpointId bound item = true :=
  List.mem_filter.mp ((newest_first_mem _ item).mp (List.mem_of_mem_take listed))

theorem pages_are_read (metadata : Option Metadata) (checkpoint : Option CheckpointReference) (limit pages : Nat)
    (before : Option HistoryBefore) (state : ServerState) (answers : List ThreadState)
    (reads : PagesRead platform config id threadId metadata checkpoint limit pages before state answers)
    (distinct : state.KeysDistinct threadId)
    (identified : ∀ item ∈ selected platform threadId ((checkpoint.map CheckpointReference.checkpointNs).getD
      "") metadata state, below CheckpointItem.checkpointId (cursor before) item = true → Identified item) :
    ∃ reading, PageTurns CheckpointItem.checkpointId limit pages (cursor before)
        (selected platform threadId ((checkpoint.map CheckpointReference.checkpointNs).getD "") metadata state)
          reading ∧
      List.Forall₂ (ShowsItem platform threadId) reading answers := by
  induction reads with
  | last context before state after answers asked short =>
      obtain ⟨_, matched⟩ := history_page_answers platform config id threadId context _ state after answers asked
      refine ⟨_, PageTurns.last (cursor before) _ ?_, matched⟩
      exact lt_of_eq_of_lt matched.length_eq short
  | more context pages before state after answers rest oldest edge tasks turns asked full found named older _ ih =>
      obtain ⟨rfl, matched⟩ := history_page_answers platform config id threadId context _ state after answers asked
      obtain ⟨item, last, made⟩ := last_answered _ answers oldest matched found
      obtain ⟨listed, within⟩ := page_listed limit (cursor before) _ item (List.mem_of_getLast? last)
      obtain ⟨first, translated⟩ := made
      have keyed := answer_names_key platform threadId first item oldest (identified item listed within) translated
      have key : edge = item.checkpointId := Option.some.inj (named.symm.trans keyed)
      subst key
      obtain ⟨apart, same⟩ := run_same_older platform config threadId _ _ after tasks turns distinct older
      have stocked := fun other => selected_same_older platform threadId _ item.checkpointId metadata after _ same other
      have moved : cursor (some (.checkpoint oldest.checkpoint)) = some item.checkpointId := named
      obtain ⟨reading, following, answered⟩ := ih apart (fun other chosen lower => by
        rw [moved] at lower
        have under : other.checkpointId < item.checkpointId := of_decide_eq_true lower
        refine identified other ((stocked other under).mp chosen) ?_
        cases bound : cursor before with
        | none => rfl
        | some edge =>
            rw [bound] at within
            exact decide_eq_true (lt_trans under (of_decide_eq_true within)))
      rw [moved] at following
      exact ⟨_, PageTurns.more pages (cursor before) _ _ reading item (matched.length_eq.trans full) last
        (selected_distinct platform threadId _ metadata _ apart) stocked following, List.rel_append matched answered⟩

end Pages

-- What a client gets that turns the pages of a history: the checkpoints that were there
-- when it began, newest first, each once.
structure WholeHistory (platform : Platform) (threadId : String) (metadata : Option Metadata)
    (checkpoint : Option CheckpointReference)
    (before : Option HistoryBefore) (limit : Nat) (state : ServerState) (pages : Nat)
    (answers : List ThreadState) : Prop where
  listing : ∃ items : List CheckpointItem, Descending CheckpointItem.checkpointId items ∧
    (∀ item, item ∈ items ↔ item ∈ state.items threadId ∧
      item.checkpointNs = (checkpoint.map CheckpointReference.checkpointNs).getD "" ∧
      metadata.all (fun given => ServerState.matchesFilter platform given (item.metadata.getD .empty)) = true ∧
      ∀ edge, cursor before = some edge → item.checkpointId < edge) ∧
    List.Forall₂ (ShowsItem platform threadId) items answers
  requests : pages = answers.length / limit + 1

theorem history_pages_complete (platform : Platform) (config : ServerConfig) (id : TaskId) (threadId : String)
    (metadata : Option Metadata) (checkpoint : Option CheckpointReference) (limit pages : Nat)
    (before : Option HistoryBefore)
    (state : ServerState) (answers : List ThreadState)
    (reads : PagesRead platform config id threadId metadata checkpoint limit pages before state answers)
    (distinct : state.KeysDistinct threadId) (identified : ∀ item ∈ state.items threadId, Identified item) :
    WholeHistory platform threadId metadata checkpoint before limit state pages answers := by
  obtain ⟨reading, following, answered⟩ := pages_are_read platform config id threadId metadata checkpoint limit
    pages before state answers reads distinct (fun item chosen _ =>
      identified item ((selected_mem platform threadId _ metadata state item).mp chosen).1)
  have apart := selected_distinct platform threadId ((checkpoint.map CheckpointReference.checkpointNs).getD "")
    metadata state distinct
  have whole := reads_everything pages (cursor before) _ reading following apart
  refine ⟨⟨reading, ?_, fun item => ?_, answered⟩, ?_⟩
  · rw [whole]
    exact newest_first_descends _ (apart.filter _)
  · have bounded : below CheckpointItem.checkpointId (cursor before) item = true ↔
        ∀ edge, cursor before = some edge → item.checkpointId < edge := by
      cases cursor before with
      | none => exact iff_of_true rfl (fun _ absent => by cases absent)
      | some edge =>
          refine decide_eq_true_iff.trans ⟨fun lower other same => ?_, fun lower => lower edge rfl⟩
          cases same
          exact lower
    rw [whole, newest_first_mem, List.mem_filter, selected_mem, bounded, and_assoc, and_assoc]
  · rw [pages_counted pages (cursor before) _ reading following, answered.length_eq]

def olderItem : CheckpointItem := smallItem "c1" none

def newerItem : CheckpointItem := smallItem "c2" (some "c1")

def latestItem : CheckpointItem := smallItem "c3" (some "c2")

def shownItem (item : CheckpointItem) (parentId : Option String) : ThreadState :=
  ⟨.empty, ⟨"t", "", some item.checkpointId, none⟩, .empty, "2025-01-01T00:00:00+00:00",
    parentId.map (fun parent => ⟨"t", "", some parent, none⟩)⟩

def nextCheckpoint : TaskId × Coro Api Unit :=
    (⟨1, false⟩, .await (.aput (checkpointLocation "t" "" "c2") latestItem) (fun _ => .ret ()))

theorem small_page (before : Option HistoryBefore) (state : ServerState) (items : List CheckpointItem)
    (answers : List ThreadState)
    (all : selected smallPlatform "t" "" none state = items) (descends : Descending CheckpointItem.checkpointId items)
    (own : historyRefusal smallReferenceConfig "t" ⟨1, before, none, none⟩ = none)
    (shown : ((items.filter (below CheckpointItem.checkpointId (cursor before))).take 1).mapM
      (checkpointTupleToState smallPlatform (drawing "first") "t") = .ok answers) :
    aloneIn smallPlatform smallReferenceConfig ⟨0, false⟩
      (getHistory smallPlatform smallReferenceConfig (drawing "first") "t" ⟨1, before, none, none⟩) state =
      (state, .ok answers) := by
  have listed : historyItems smallPlatform "t" state ⟨1, before, none, none⟩ =
      (items.filter (below CheckpointItem.checkpointId (cursor before))).take 1 := by
    rw [history_items_page]
    subst all
    exact descending_page 1 _ _ descends
  have answered := get_history_alone smallPlatform smallReferenceConfig (drawing "first") ⟨0, false⟩ "t"
    ⟨1, before, none, none⟩ state
  rw [own, listed] at answered
  cases result : aloneIn smallPlatform smallReferenceConfig ⟨0, false⟩
      (getHistory smallPlatform smallReferenceConfig (drawing "first") "t" ⟨1, before, none, none⟩) state with
  | mk after outcome =>
      rw [result] at answered
      cases show outcome = .ok answers from answered.trans shown
      rw [(get_history_answers smallPlatform smallReferenceConfig (drawing "first") ⟨0, false⟩ "t" _ state after
        answers result).1]

theorem small_descends : Descending CheckpointItem.checkpointId [newerItem, olderItem] :=
  List.pairwise_pair.mpr (by decide : "c1" < "c2")

theorem history_pages_complete_small_history :
    WholeHistory smallPlatform "t" none none none 1 (threadState [newerItem, olderItem]) 3
      [shownItem newerItem (some "c1"), shownItem olderItem none] := by
  refine history_pages_complete smallPlatform smallReferenceConfig ⟨0, false⟩ "t" none none 1 3 none
    (threadState [newerItem, olderItem]) _ ?_ ?_ ?_
  · refine PagesRead.more (drawing "first") 2 none _ (threadState [newerItem, olderItem])
      [shownItem newerItem (some "c1")]
      [shownItem olderItem none] _ "c2" [nextCheckpoint] [⟨0, none⟩] ?_ rfl rfl rfl ?_ ?_
    · exact small_page none _ _ _ rfl small_descends rfl rfl
    · refine ⟨?_, trivial⟩
      rintro id op resume waits _
      cases waits
      exact fun _ _ => (by decide : ¬ "c3" < "c2")
    · have grown : Descending CheckpointItem.checkpointId
          [latestItem, newerItem, olderItem] := by
        refine List.pairwise_cons.mpr ⟨fun item listed => ?_, small_descends⟩
        rcases List.mem_pair.mp listed with rfl | rfl
        · exact (by decide : "c2" < "c3")
        · exact (by decide : "c1" < "c3")
      refine PagesRead.more (drawing "first") 1 _ _ (Transition.run (serverMachine smallPlatform true).step
        ⟨threadState [newerItem, olderItem], [nextCheckpoint]⟩ [⟨0, none⟩]).shared [shownItem olderItem none]
          [] _ "c1" [] [] ?_ rfl rfl rfl trivial ?_
      · exact small_page _ _ _ _ rfl grown rfl rfl
      · refine PagesRead.last (drawing "first") _ _ _ [] (small_page _ _ _ _ rfl grown rfl rfl) Nat.one_pos
  · refine List.pairwise_pair.mpr (fun same => ?_)
    exact absurd (show "c2" = "c1" from same.2) (by decide)
  · intro item listed
    rcases List.mem_pair.mp (show item ∈ [newerItem, olderItem] from listed) with rfl | rfl
    · exact ⟨"c2", rfl⟩
    · exact ⟨"c1", rfl⟩

end LangGraphServer
