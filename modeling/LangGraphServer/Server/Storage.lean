import LangGraphServer.Server.Models

set_option autoImplicit false

namespace LangGraphServer

open Collections

structure StoredThread where
  thread : Thread
  assistantId : Option String

-- Every method holds the lock over code that does not await. Expiry and eviction of
-- records are not its methods' doing; a record that is lost is simply absent.
structure InMemoryThreadStore where
  maxThreadBytes : Nat
  threads : Dict String StoredThread

namespace InMemoryThreadStore

def getThread (store : InMemoryThreadStore) (threadId : String) : Option Thread :=
  (store.threads.get? threadId).map StoredThread.thread

def getAssistantId (store : InMemoryThreadStore) (threadId : String) : Option String :=
  (store.threads.get? threadId).bind StoredThread.assistantId

def putThread (platform : Platform) (store : InMemoryThreadStore) (thread : Thread) :
    InMemoryThreadStore × Except ServerError Unit :=
  if store.maxThreadBytes < platform.threadJsonBytes thread then
    (store, .error (.threadStoreCapacity "thread metadata exceeds max_thread_bytes"))
  else
    ({ store with threads := store.threads.set thread.threadId ⟨thread, store.getAssistantId thread.threadId⟩ },
      .ok ())

def claimAssistant (store : InMemoryThreadStore) (threadId assistantId : String) :
    InMemoryThreadStore × Except ServerError Unit :=
  match store.threads.get? threadId with
  | none => (store, .error (.lookup ("Thread " ++ threadId ++ " not found")))
  | some record =>
      match record.assistantId with
      | some owner =>
          if owner = assistantId then
            ({ store with threads := store.threads.set threadId { record with assistantId := some assistantId } },
              .ok ())
          else
            (store, .error (.threadAssistantConflict ("Thread " ++ threadId ++ " belongs to assistant " ++ owner)))
      | none =>
          ({ store with threads := store.threads.set threadId { record with assistantId := some assistantId } }, .ok ())

def deleteThread (store : InMemoryThreadStore) (threadId : String) : InMemoryThreadStore :=
  { store with threads := store.threads.pop threadId }

theorem put_thread_owner (platform : Platform) (store : InMemoryThreadStore) (thread : Thread) (query : String) :
    (store.putThread platform thread).1.getAssistantId query = store.getAssistantId query := by
  rw [putThread]
  split
  · rfl
  · by_cases same : query = thread.threadId
    · subst same
      simp only [getAssistantId, Dict.get_set, if_true, Option.bind_some]
    · simp only [getAssistantId, Dict.get_set, if_neg same]

theorem delete_thread_owner (store : InMemoryThreadStore) (threadId query : String) :
    (store.deleteThread threadId).getAssistantId query = if query = threadId then none
      else store.getAssistantId query := by
  simp only [deleteThread, getAssistantId, Dict.get_pop]
  by_cases same : query = threadId
  · rw [if_pos same, if_pos same, Option.bind_none]
  · rw [if_neg same, if_neg same]

theorem claim_assistant_cases (store : InMemoryThreadStore) (threadId assistantId : String) :
    ((store.claimAssistant threadId assistantId).2 = .ok () ∧
      (store.getAssistantId threadId = none ∨ store.getAssistantId threadId = some assistantId) ∧
      ∀ query, (store.claimAssistant threadId assistantId).1.getAssistantId query =
        if query = threadId then some assistantId else store.getAssistantId query) ∨
    (store.claimAssistant threadId assistantId).1 = store ∧
      ((store.threads.get? threadId = none ∧ (store.claimAssistant threadId assistantId).2 =
          .error (.lookup ("Thread " ++ threadId ++ " not found"))) ∨
        ∃ owner, store.getAssistantId threadId = some owner ∧ owner ≠ assistantId ∧
          (store.claimAssistant threadId assistantId).2 =
            .error (.threadAssistantConflict ("Thread " ++ threadId ++ " belongs to assistant " ++ owner))) := by
  have stored : ∀ record, store.threads.get? threadId = some record →
      ∀ query, ({ store with threads := store.threads.set threadId { record with assistantId := some assistantId } } :
        InMemoryThreadStore).getAssistantId query =
          if query = threadId then some assistantId else store.getAssistantId query := by
    intro record found query
    simp only [getAssistantId, Dict.get_set]
    by_cases same : query = threadId
    · rw [if_pos same, if_pos same, Option.bind_some]
    · rw [if_neg same, if_neg same]
  rw [claimAssistant]
  cases found : store.threads.get? threadId with
  | none => exact Or.inr ⟨rfl, Or.inl ⟨rfl, rfl⟩⟩
  | some record =>
      have owner : store.getAssistantId threadId = record.assistantId := by
        rw [getAssistantId, found, Option.bind_some]
      have updated := stored record found
      obtain ⟨thread, recorded⟩ := record
      cases recorded with
      | none => exact Or.inl ⟨rfl, Or.inl owner, updated⟩
      | some current =>
          by_cases same : current = assistantId
          · subst same
            dsimp only
            rw [if_pos rfl]
            exact Or.inl ⟨rfl, Or.inr owner, updated⟩
          · dsimp only
            rw [if_neg same]
            exact Or.inr ⟨rfl, Or.inr ⟨current, owner, same, rfl⟩⟩

theorem claim_assistant_keeps (store : InMemoryThreadStore) (threadId assistantId query owner : String)
    (owned : store.getAssistantId query = some owner) :
    (store.claimAssistant threadId assistantId).1.getAssistantId query = some owner := by
  rcases store.claim_assistant_cases threadId assistantId with ⟨_, unowned, owners⟩ | ⟨same, _⟩
  · apply (owners query).trans
    by_cases here : query = threadId
    · subst here
      rw [if_pos rfl]
      rcases unowned with absent | own
      · cases absent.symm.trans owned
      · exact own.symm.trans owned
    · rw [if_neg here]
      exact owned
  · rw [same]
    exact owned

end InMemoryThreadStore

theorem claim_assistant_others (store : InMemoryThreadStore) (threadId assistantId query : String)
    (other : query ≠ threadId) :
    (store.claimAssistant threadId assistantId).1.threads.get? query = store.threads.get? query := by
  rw [InMemoryThreadStore.claimAssistant]
  split
  · rfl
  · split
    · split
      · rw [Dict.get_set, if_neg other]
      · rfl
    · rw [Dict.get_set, if_neg other]

theorem claim_assistant_record (store : InMemoryThreadStore) (threadId assistantId query : String) :
    ((store.claimAssistant threadId assistantId).1.getThread query).isSome = (store.getThread query).isSome := by
  by_cases other : query = threadId
  · subst other
    simp only [InMemoryThreadStore.claimAssistant, InMemoryThreadStore.getThread]
    split
    · rfl
    · rename_i record found
      split
      · split
        · rw [Dict.get_set, if_pos rfl, found]
          rfl
        · rfl
      · rw [Dict.get_set, if_pos rfl, found]
        rfl
  · rw [InMemoryThreadStore.getThread, claim_assistant_others store threadId assistantId query other,
      InMemoryThreadStore.getThread]

end LangGraphServer
