import LangGraphServer.Server.Leases

set_option autoImplicit false

namespace LangGraphServer

open Collections Coroutine

-- A thread is stored when it has a checkpoint in the main namespace.
def Stored (state : ServerState) (threadId : String) : Prop := ∃ item ∈ state.items threadId, item.checkpointNs = ""

def MarkedBy (state : ServerState) (threadId owner : String) : Prop :=
  ∀ item ∈ state.items threadId, item.checkpointNs = "" → checkpointAssistantId item = some owner

-- The checkpoints of a stored thread name one assistant, and its record names no other.
def Durable (state : ServerState) : Prop :=
  ∀ threadId, Stored state threadId →
    ∃ owner, MarkedBy state threadId owner ∧ ∀ recorded, state.ownerOf threadId = some recorded → recorded = owner

section States

variable {before after : ServerState} {threadId owner : String}

theorem durable_unsaved (state : ServerState) (empty : state.saved = .empty) : Durable state := by
  rintro threadId ⟨item, listed, _⟩
  rw [ServerState.items, empty, Dict.get_empty] at listed
  cases listed

theorem marked_by_unique (state : ServerState) (stored : Stored state threadId) (first second : String)
    (left : MarkedBy state threadId first) (right : MarkedBy state threadId second) : first = second := by
  obtain ⟨item, listed, main⟩ := stored
  have same := (left item listed main).symm.trans (right item listed main)
  rwa [Option.some.injEq] at same

theorem durable_marks (state : ServerState) (durable : Durable state) (stored : Stored state threadId)
    (marked : MarkedBy state threadId owner) (recorded : String) (owned : state.ownerOf threadId = some recorded) :
      recorded = owner := by
  obtain ⟨known, marks, agrees⟩ := durable threadId stored
  rw [agrees recorded owned]
  exact marked_by_unique state stored known owner marks marked

theorem durable_owner (state : ServerState) (durable : Durable state) (owned : state.ownerOf threadId = some owner) :
    MarkedBy state threadId owner := by
  intro item listed main
  obtain ⟨known, marks, agrees⟩ := durable threadId ⟨item, listed, main⟩
  rw [agrees owner owned]
  exact marks item listed main

theorem latest_stored (state : ServerState) (item : CheckpointItem)
    (latest : state.agetTuple (checkpointConfig threadId none "") = some item) : item ∈ state.items threadId ∧
      item.checkpointNs = "" := by
  obtain ⟨listed, main⟩ := List.mem_filter.mp (newest_mem _ _ latest)
  exact ⟨listed, (of_decide_eq_true main).1⟩

theorem latest_of_stored (state : ServerState) (stored : Stored state threadId) :
    ∃ item, state.agetTuple (checkpointConfig threadId none "") = some item := by
  obtain ⟨item, listed, main⟩ := stored
  cases latest : state.agetTuple (checkpointConfig threadId none "") with
  | some newest => exact ⟨newest, rfl⟩
  | none =>
      exact absurd (decide_eq_true ⟨main, Or.inl rfl⟩) (List.filter_eq_nil_iff.mp (newest_none _ latest) item listed)

theorem latest_marked (state : ServerState) (stored : Stored state threadId) (marked : MarkedBy state threadId owner) :
    state.latestMarker true threadId = some owner := by
  obtain ⟨item, latest⟩ := latest_of_stored state stored
  obtain ⟨listed, main⟩ := latest_stored state item latest
  rw [ServerState.latestMarker, if_pos rfl, latest, Option.bind_some]
  exact marked item listed main

theorem latest_names (state : ServerState) (durable : Durable state)
    (named : state.latestMarker true threadId = some owner) :
    MarkedBy state threadId owner := by
  rw [ServerState.latestMarker, if_pos rfl] at named
  cases latest : state.agetTuple (checkpointConfig threadId none "") with
  | none =>
      rw [latest] at named
      cases named
  | some item =>
      obtain ⟨listed, main⟩ := latest_stored state item latest
      obtain ⟨known, marks, _⟩ := durable threadId ⟨item, listed, main⟩
      rw [latest, Option.bind_some, marks item listed main, Option.some.injEq] at named
      rw [← named]
      exact marks

theorem latest_unnamed (state : ServerState) (durable : Durable state)
    (unnamed : state.latestMarker true threadId = none) :
    ¬ Stored state threadId := by
  intro stored
  obtain ⟨known, marks, _⟩ := durable threadId stored
  rw [latest_marked state stored marks] at unnamed
  cases unnamed

theorem durable_shrunk (durable : Durable before)
    (owners : ∀ query, after.ownerOf query = before.ownerOf query ∨ after.ownerOf query = none)
    (items : ∀ query, after.items query = before.items query ∨ after.items query = []) : Durable after := by
  intro query stored
  rcases items query with same | empty
  · rw [Stored, same] at stored
    obtain ⟨owner, marks, agrees⟩ := durable query stored
    refine ⟨owner, ?_, fun recorded owned => ?_⟩
    · rw [MarkedBy, same]
      exact marks
    · rcases owners query with kept | lost
      · exact agrees recorded (kept.symm.trans owned)
      · rw [lost] at owned
        cases owned
  · obtain ⟨item, listed, _⟩ := stored
    rw [empty] at listed
    cases listed

theorem durable_claimed (durable : Durable before) (marked : MarkedBy before threadId owner)
    (saved : after.saved = before.saved)
    (owners : ∀ query, after.ownerOf query = if query = threadId then some owner else before.ownerOf query) :
      Durable after := by
  intro query stored
  rw [Stored, items_same_saved before after saved] at stored
  have marks : ∀ named, MarkedBy before query named → MarkedBy after query named := by
    intro named marks
    rw [MarkedBy, items_same_saved before after saved]
    exact marks
  by_cases here : query = threadId
  · subst here
    refine ⟨owner, marks owner marked, fun recorded owned => ?_⟩
    rw [owners, if_pos rfl, Option.some.injEq] at owned
    exact owned.symm
  · obtain ⟨named, known, agrees⟩ := durable query stored
    refine ⟨named, marks named known, fun recorded owned => ?_⟩
    rw [owners, if_neg here] at owned
    exact agrees recorded owned

theorem marked_by_written (config : RunnableConfig) (item : CheckpointItem) (marks : MarksThread config threadId owner)
    (carries : checkpointAssistantId item = some owner) (marked : MarkedBy before threadId owner) :
      MarkedBy (before.aput config item) threadId owner := by
  intro written listed main
  rw [items_aput config threadId marks.thread, if_pos rfl] at listed
  rcases List.mem_cons.mp listed with rfl | old
  · exact carries
  · exact marked written (List.mem_of_mem_filter old) main

theorem stored_written (config : RunnableConfig) (item : CheckpointItem)
    (thread : config.entry? "thread_id" = some (.str threadId))
    (stored : Stored before threadId) : Stored (before.aput config item) threadId := by
  obtain ⟨old, listed, main⟩ := stored
  rw [Stored, items_aput config threadId thread, if_pos rfl]
  by_cases same : old.checkpointNs = item.checkpointNs ∧ old.checkpointId = item.checkpointId
  · exact ⟨_, List.mem_cons_self, same.1.symm.trans main⟩
  · exact ⟨old, List.mem_cons_of_mem _ (List.mem_filter.mpr ⟨listed, decide_eq_true same⟩), main⟩

theorem durable_written (config : RunnableConfig) (item : CheckpointItem) (marks : MarksThread config threadId owner)
    (carries : checkpointAssistantId item = some owner) (durable : Durable before)
    (owned : before.ownerOf threadId = some owner) :
    Durable (before.aput config item) := by
  have store : (before.aput config item).store = before.store := by
    rw [ServerState.aput]
    split <;> rfl
  intro query stored
  by_cases here : query = threadId
  · subst here
    refine ⟨owner, marked_by_written config item marks carries (durable_owner before durable owned),
      fun recorded other => ?_⟩
    rw [ServerState.ownerOf, store] at other
    rw [ServerState.ownerOf, other, Option.some.injEq] at owned
    exact owned
  · have same : (before.aput config item).items query = before.items query := by
      rw [items_aput config threadId marks.thread, if_neg here]
    rw [Stored, same] at stored
    obtain ⟨known, all, agrees⟩ := durable query stored
    refine ⟨known, ?_, fun recorded other => ?_⟩
    · rw [MarkedBy, same]
      exact all
    · rw [ServerState.ownerOf, store] at other
      exact agrees recorded other

end States

end LangGraphServer
