import Mathlib.Algebra.Order.Ring.Rat
import LangGraphServer.Lib.Expiring
import LangGraphServer.Server.Stateless

set_option autoImplicit false

namespace LangGraphServer

open Collections Expiring

-- When a call looks a record up, and when it writes one.
structure Moments where
  looked : Rat
  wrote : Rat
  ordered : looked ≤ wrote

-- `InMemoryThreadStore` with its table as it is: a cache whose entries expire.
structure TimedThreadStore (cache : Cache String StoredThread Rat) where
  maxThreadBytes : Nat
  threads : cache.Table

structure StoreSettings where
  ttlSeconds : Rat
  maxThreads : Nat
  maxThreadBytes : Nat
  lasting : 0 < ttlSeconds
  several : 0 < maxThreads
  sized : 0 < maxThreadBytes

def StoreSettings.postInit (ttlSeconds : Rat) (maxThreads maxThreadBytes : Int) : Except String StoreSettings :=
  if lasting : 0 < ttlSeconds then
    if several : 0 < maxThreads.toNat then
      if sized : 0 < maxThreadBytes.toNat then .ok ⟨ttlSeconds, maxThreads.toNat, maxThreadBytes.toNat,
        lasting, several, sized⟩
      else .error "max_thread_bytes must be greater than zero"
    else .error "max_threads must be greater than zero"
  else .error "ttl_seconds must be greater than zero"

theorem post_init_accepts (ttlSeconds : Rat) (maxThreads maxThreadBytes : Int) :
    (∃ settings, StoreSettings.postInit ttlSeconds maxThreads maxThreadBytes = .ok settings ∧
      settings.ttlSeconds = ttlSeconds ∧ (settings.maxThreads : Int) = maxThreads ∧
        (settings.maxThreadBytes : Int) = maxThreadBytes) ↔
      0 < ttlSeconds ∧ 0 < maxThreads ∧ 0 < maxThreadBytes := by
  constructor
  · rintro ⟨settings, _, rfl, rfl, rfl⟩
    exact ⟨settings.lasting, Int.ofNat_lt.mpr settings.several, Int.ofNat_lt.mpr settings.sized⟩
  · rintro ⟨lasting, several, sized⟩
    rw [StoreSettings.postInit, dif_pos lasting, dif_pos (by omega), dif_pos (by omega)]
    exact ⟨_, rfl, rfl, Int.toNat_of_nonneg several.le, Int.toNat_of_nonneg sized.le⟩

def StoreSettings.deadline (settings : StoreSettings) (now : Rat) : Rat := now + settings.ttlSeconds

namespace TimedThreadStore

variable {cache : Cache String StoredThread Rat}

def lookup (store : TimedThreadStore cache) (now : Rat) (threadId : String) :
    TimedThreadStore cache × Option StoredThread :=
  ({ store with threads := cache.get store.threads now threadId }, cache.find store.threads now threadId)

def record (store : TimedThreadStore cache) (now : Rat) (threadId : String) (stored : StoredThread) :
    TimedThreadStore cache :=
  { store with threads := cache.assign store.threads now threadId stored }

def getThread (store : TimedThreadStore cache) (moments : Moments) (threadId : String) :
    TimedThreadStore cache × Option Thread :=
  let (looked, found) := store.lookup moments.looked threadId
  (looked, found.map StoredThread.thread)

def getAssistantId (store : TimedThreadStore cache) (moments : Moments) (threadId : String) :
    TimedThreadStore cache × Option String :=
  let (looked, found) := store.lookup moments.looked threadId
  (looked, found.bind StoredThread.assistantId)

def putThread (platform : Platform) (store : TimedThreadStore cache) (moments : Moments) (thread : Thread) :
    TimedThreadStore cache × Except ServerError Unit :=
  if store.maxThreadBytes < platform.threadJsonBytes thread then
    (store, .error (.threadStoreCapacity "thread metadata exceeds max_thread_bytes"))
  else
    let (looked, existing) := store.lookup moments.looked thread.threadId
    (looked.record moments.wrote thread.threadId ⟨thread, existing.bind StoredThread.assistantId⟩, .ok ())

def claimAssistant (store : TimedThreadStore cache) (moments : Moments) (threadId assistantId : String) :
    TimedThreadStore cache × Except ServerError Unit :=
  match store.lookup moments.looked threadId with
  | (looked, none) => (looked, .error (.lookup ("Thread " ++ threadId ++ " not found")))
  | (looked, some stored) =>
      match stored.assistantId with
      | some owner =>
          if owner = assistantId then
            (looked.record moments.wrote threadId { stored with assistantId := some assistantId }, .ok ())
          else (looked, .error (.threadAssistantConflict ("Thread " ++ threadId ++ " belongs to assistant " ++ owner)))
      | none => (looked.record moments.wrote threadId { stored with assistantId := some assistantId }, .ok ())

def deleteThread (store : TimedThreadStore cache) (moments : Moments) (threadId : String) : TimedThreadStore cache :=
  { store with threads := cache.pop store.threads moments.looked threadId }

def call (platform : Platform) (store : TimedThreadStore cache) (moments : Moments) :
    (op : ServerOp) → Option (TimedThreadStore cache × Except ServerError op.Result)
  | .getThread threadId =>
      let (after, thread) := store.getThread moments threadId
      some (after, .ok thread)
  | .putThread thread => some (store.putThread platform moments thread)
  | .getAssistantId threadId =>
      let (after, owner) := store.getAssistantId moments threadId
      some (after, .ok owner)
  | .claimAssistant threadId assistantId => some (store.claimAssistant moments threadId assistantId)
  | .deleteThread threadId => some (store.deleteThread moments threadId, .ok ())
  | _ => none

end TimedThreadStore

structure Answered where
  op : ServerOp
  answer : Except ServerError op.Result

section Runs

variable {cache : Cache String StoredThread Rat} (platform : Platform)

inductive TimedRun : TimedThreadStore cache → Rat → List Answered → TimedThreadStore cache → Rat → Prop where
  | done (store : TimedThreadStore cache) (now later : Rat) (passes : now ≤ later) : TimedRun store now [] store later
  | call (store after last : TimedThreadStore cache) (now later : Rat) (moments : Moments) (op : ServerOp)
      (answer : Except ServerError op.Result) (log : List Answered) (passes : now ≤ moments.looked)
      (served : store.call platform moments op = some (after, answer))
        (rest : TimedRun after moments.wrote log last later) :
      TimedRun store now (⟨op, answer⟩ :: log) last later

def InMemoryThreadStore.losing (store : InMemoryThreadStore) (keep : String → Bool) : InMemoryThreadStore :=
  { store with threads := store.threads.restrict keep }

-- Calls of a plain store, each after the loss of some records.
inductive LossyRun : InMemoryThreadStore → List Answered → InMemoryThreadStore → Prop where
  | done (store : InMemoryThreadStore) : LossyRun store [] store
  | call (store after last : InMemoryThreadStore) (keep : String → Bool) (op : ServerOp)
    (answer : Except ServerError op.Result)
      (log : List Answered) (served : (store.losing keep).call platform op = some (after, answer))
        (rest : LossyRun after log last) :
      LossyRun store (⟨op, answer⟩ :: log) last

inductive PlainRun : InMemoryThreadStore → List Answered → InMemoryThreadStore → Prop where
  | done (store : InMemoryThreadStore) : PlainRun store [] store
  | call (store after last : InMemoryThreadStore) (op : ServerOp) (answer : Except ServerError op.Result)
    (log : List Answered) (served : store.call platform op = some (after, answer)) (rest : PlainRun after log last) :
        PlainRun store (⟨op, answer⟩ :: log) last

end Runs

-- What is found at a time is what a plain store has, but for some records.
structure Shows {cache : Cache String StoredThread Rat} (now : Rat) (store : TimedThreadStore cache)
    (plain : InMemoryThreadStore) : Prop where
  bytes : plain.maxThreadBytes = store.maxThreadBytes
  records : ∀ query, cache.find store.threads now query = plain.threads.get? query ∨
    cache.find store.threads now query = none

structure Mirrors {cache : Cache String StoredThread Rat} (now : Rat) (store : TimedThreadStore cache)
    (plain : InMemoryThreadStore) : Prop where
  bytes : plain.maxThreadBytes = store.maxThreadBytes
  records : ∀ query, cache.find store.threads now query = plain.threads.get? query

section Laws

variable {cache : Cache String StoredThread Rat} {deadline : Rat → Rat} {limit : Nat}

theorem shows_later (lawful : cache.Lawful deadline limit) (now later : Rat) (store : TimedThreadStore cache)
    (plain : InMemoryThreadStore)
    (shows_ : Shows now store plain) (passes : now ≤ later) : Shows later store plain := by
  refine ⟨shows_.bytes, fun query => ?_⟩
  rcases lawful.later store.threads now later query passes with same | lost
  · rw [same]
    exact shows_.records query
  · exact Or.inr lost

theorem shows_losing (now : Rat) (store : TimedThreadStore cache) (plain : InMemoryThreadStore)
    (shows_ : Shows now store plain) :
    Mirrors now store (plain.losing (fun query => (cache.find store.threads now query).isSome)) := by
  refine ⟨shows_.bytes, fun query => ?_⟩
  rw [InMemoryThreadStore.losing, Dict.get_restrict]
  rcases shows_.records query with same | lost
  · rw [same]
    cases plain.threads.get? query <;> rfl
  · rw [lost]
    rfl

theorem lookup_shows (lawful : cache.Lawful deadline limit) (moments : Moments) (store : TimedThreadStore cache)
    (plain : InMemoryThreadStore) (threadId : String) (mirrors : Mirrors moments.looked store plain) :
    Shows moments.wrote (store.lookup moments.looked threadId).1 plain := by
  refine ⟨mirrors.bytes, fun query => ?_⟩
  have kept : cache.find (store.lookup moments.looked threadId).1.threads moments.wrote query =
      cache.find store.threads moments.wrote query := lawful.get store.threads _ _ threadId query moments.ordered
  rw [kept, ← mirrors.records query]
  exact lawful.later store.threads _ _ query moments.ordered

theorem record_shows (lawful : cache.Lawful deadline limit) (lasting : ∀ now, now < deadline now) (now : Rat)
    (store : TimedThreadStore cache) (plain : InMemoryThreadStore) (threadId : String) (stored : StoredThread)
    (shows_ : Shows now store plain) :
    Shows now (store.record now threadId stored) { plain with threads := plain.threads.set threadId stored } := by
  refine ⟨shows_.bytes, fun query => ?_⟩
  rw [TimedThreadStore.record, Dict.get_set]
  by_cases own : query = threadId
  · subst own
    rw [if_pos rfl, lawful.assigned store.threads now now query stored le_rfl, if_pos (lasting now)]
    exact Or.inl rfl
  · rw [if_neg own]
    rcases lawful.others store.threads now now threadId stored query own le_rfl with same | dropped
    · rw [same]
      exact shows_.records query
    · exact Or.inr dropped

theorem put_thread_shows (platform : Platform) (lawful : cache.Lawful deadline limit)
    (lasting : ∀ now, now < deadline now)
    (moments : Moments) (store : TimedThreadStore cache) (plain : InMemoryThreadStore) (thread : Thread)
    (mirrors : Mirrors moments.looked store plain) :
    (store.putThread platform moments thread).2 = (plain.putThread platform thread).2 ∧
      Shows moments.wrote (store.putThread platform moments thread).1 (plain.putThread platform thread).1 := by
  have looked := lookup_shows lawful moments store plain thread.threadId mirrors
  rw [TimedThreadStore.putThread, InMemoryThreadStore.putThread]
  by_cases large : plain.maxThreadBytes < platform.threadJsonBytes thread
  · rw [if_pos large, if_pos (mirrors.bytes ▸ large)]
    refine ⟨rfl, mirrors.bytes, fun query => ?_⟩
    rw [← mirrors.records query]
    exact lawful.later store.threads _ _ query moments.ordered
  · rw [if_neg large, if_neg (mirrors.bytes ▸ large), InMemoryThreadStore.getAssistantId,
      ← mirrors.records thread.threadId]
    exact ⟨rfl, record_shows lawful lasting moments.wrote _ plain thread.threadId _ looked⟩

theorem claim_assistant_shows (lawful : cache.Lawful deadline limit) (lasting : ∀ now, now < deadline now)
    (moments : Moments) (store : TimedThreadStore cache) (plain : InMemoryThreadStore) (threadId assistantId : String)
    (mirrors : Mirrors moments.looked store plain) :
    (store.claimAssistant moments threadId assistantId).2 = (plain.claimAssistant threadId assistantId).2 ∧
      Shows moments.wrote (store.claimAssistant moments threadId assistantId).1
        (plain.claimAssistant threadId assistantId).1 := by
  have looked := lookup_shows lawful moments store plain threadId mirrors
  have recorded := fun stored => record_shows lawful lasting moments.wrote _ plain threadId stored looked
  have asked : store.lookup moments.looked threadId = ((store.lookup moments.looked threadId).1,
    plain.threads.get? threadId) :=
    Prod.ext rfl (mirrors.records threadId)
  rw [TimedThreadStore.claimAssistant, InMemoryThreadStore.claimAssistant, asked]
  cases plain.threads.get? threadId with
  | none => exact ⟨rfl, looked⟩
  | some stored =>
      dsimp only
      cases stored.assistantId with
      | none => exact ⟨rfl, recorded _⟩
      | some owner =>
          dsimp only
          by_cases own : owner = assistantId
          · rw [if_pos own, if_pos own]
            exact ⟨rfl, recorded _⟩
          · rw [if_neg own, if_neg own]
            exact ⟨rfl, looked⟩

theorem call_shows (platform : Platform) (lawful : cache.Lawful deadline limit) (lasting : ∀ now, now < deadline now)
    (moments : Moments) (store after : TimedThreadStore cache) (plain : InMemoryThreadStore) (op : ServerOp)
    (answer : Except ServerError op.Result) (mirrors : Mirrors moments.looked store plain)
    (served : store.call platform moments op = some (after, answer)) :
    ∃ next, plain.call platform op = some (next, answer) ∧ Shows moments.wrote after next := by
  cases op
  case getThread threadId =>
    cases served
    refine ⟨plain, ?_, lookup_shows lawful moments store plain threadId mirrors⟩
    rw [InMemoryThreadStore.call, InMemoryThreadStore.getThread, ← mirrors.records threadId]
  case getAssistantId threadId =>
    cases served
    refine ⟨plain, ?_, lookup_shows lawful moments store plain threadId mirrors⟩
    rw [InMemoryThreadStore.call, InMemoryThreadStore.getAssistantId, ← mirrors.records threadId]
  case putThread thread =>
    obtain ⟨answered, shows_⟩ := put_thread_shows platform lawful lasting moments store plain thread mirrors
    rw [show store.putThread platform moments thread = (after, answer) from Option.some.inj served] at answered shows_
    exact ⟨_, congrArg some (Prod.ext rfl answered.symm), shows_⟩
  case claimAssistant threadId assistantId =>
    obtain ⟨answered, shows_⟩ := claim_assistant_shows lawful lasting moments store plain threadId assistantId mirrors
    rw [show store.claimAssistant moments threadId assistantId = (after, answer) from Option.some.inj served]
      at answered shows_
    exact ⟨_, congrArg some (Prod.ext rfl answered.symm), shows_⟩
  case deleteThread threadId =>
    cases served
    refine ⟨plain.deleteThread threadId, rfl, mirrors.bytes, fun query => ?_⟩
    have popped := lawful.pop store.threads moments.looked moments.wrote threadId query moments.ordered
    rw [TimedThreadStore.deleteThread, popped, InMemoryThreadStore.deleteThread, Dict.get_pop, ← mirrors.records query]
    by_cases own : query = threadId
    · rw [if_pos own, if_pos own]
      exact Or.inl rfl
    · rw [if_neg own, if_neg own]
      exact lawful.later store.threads _ _ query moments.ordered
  all_goals cases served

end Laws

end LangGraphServer
