import LangGraphServer.Server.TimedStore

set_option autoImplicit false

namespace LangGraphServer

open Collections Expiring

section Laws

variable {cache : Cache String StoredThread Rat} {deadline : Rat → Rat} {limit : Nat}

theorem timed_run_lossy (platform : Platform) (lawful : cache.Lawful deadline limit)
    (lasting : ∀ now, now < deadline now)
    (store last : TimedThreadStore cache) (now later : Rat) (log : List Answered)
    (run : TimedRun platform store now log last later)
    (plain : InMemoryThreadStore) (shows_ : Shows now store plain) :
    ∃ lost, LossyRun platform plain log lost ∧ Shows later last lost := by
  induction run generalizing plain with
  | done store now later passes => exact ⟨plain, .done plain, shows_later lawful now later store plain shows_ passes⟩
  | call store after last now later moments op answer log passes served _ ih =>
      have looked := shows_losing moments.looked store plain
        (shows_later lawful now moments.looked store plain shows_ passes)
      obtain ⟨next, answered, shown⟩ := call_shows platform lawful lasting moments store after _ op answer looked served
      obtain ⟨lost, lossy, ends⟩ := ih next shown
      exact ⟨lost, .call plain next lost _ op answer log answered lossy, ends⟩

theorem timed_run_passes (platform : Platform) (store last : TimedThreadStore cache) (now later : Rat)
    (log : List Answered) (run : TimedRun platform store now log last later) : now ≤ later := by
  induction run with
  | done store now later passes => exact passes
  | call store after last now later moments op answer log passes served _ ih =>
      exact le_trans passes (le_trans moments.ordered ih)

def WritesKnown (known : List String) : ServerOp → Prop
  | .putThread thread => thread.threadId ∈ known
  | _ => True

-- Up to a time, what is found is just what a plain store has, and all of it is known.
structure Unlost (known : List String) (now later : Rat) (store : TimedThreadStore cache)
    (plain : InMemoryThreadStore) : Prop where
  mirrors : ∀ moment, now ≤ moment → moment ≤ later → Mirrors moment store plain
  recorded : ∀ query, (plain.threads.get? query).isSome = true → query ∈ known

theorem lookup_unlost (lawful : cache.Lawful deadline limit) (known : List String) (moments : Moments) (later : Rat)
    (store : TimedThreadStore cache) (plain : InMemoryThreadStore) (threadId : String)
    (unlost : Unlost known moments.looked later store plain) :
    Unlost known moments.wrote later (store.lookup moments.looked threadId).1 plain := by
  refine ⟨fun moment from_ until_ => ⟨(unlost.mirrors moment (le_trans moments.ordered from_) until_).bytes,
    fun query => ?_⟩, unlost.recorded⟩
  have passes := le_trans moments.ordered from_
  exact (lawful.get store.threads _ _ threadId query passes).trans ((unlost.mirrors moment passes until_).records query)

theorem record_unlost (lawful : cache.Lawful deadline limit) (known : List String) (fits : known.length ≤ limit)
    (now later : Rat)
    (store : TimedThreadStore cache) (plain : InMemoryThreadStore) (threadId : String) (stored : StoredThread)
    (within : later < deadline now)
    (ordered : now ≤ later) (listed : threadId ∈ known) (unlost : Unlost known now later store plain) :
    Unlost known now later (store.record now threadId stored)
      { plain with threads := plain.threads.set threadId stored } := by
  have others : ∀ other, other ≠ threadId → (cache.find store.threads now other).isSome = true →
    other ∈ known.erase threadId := by
    intro other apart present
    rw [(unlost.mirrors now le_rfl ordered).records other] at present
    exact (List.mem_erase_of_ne apart).mpr (unlost.recorded other present)
  have room : (known.erase threadId).length < limit := by
    have fewer := List.length_erase_of_mem listed
    have positive := List.length_pos_of_mem listed
    omega
  refine ⟨fun moment from_ until_ => ⟨(unlost.mirrors moment from_ until_).bytes, fun query => ?_⟩,
    fun query present => ?_⟩
  · rw [TimedThreadStore.record, Dict.get_set]
    by_cases own : query = threadId
    · subst own
      rw [if_pos rfl, lawful.assigned store.threads now moment query stored from_,
        if_pos (lt_of_le_of_lt until_ within)]
    · rw [if_neg own, lawful.room store.threads now moment threadId stored query _ room others own from_]
      exact (unlost.mirrors moment from_ until_).records query
  · rw [Dict.get_set] at present
    by_cases own : query = threadId
    · exact own ▸ listed
    · rw [if_neg own] at present
      exact unlost.recorded query present

theorem call_unlost (platform : Platform) (lawful : cache.Lawful deadline limit) (known : List String)
    (fits : known.length ≤ limit) (moments : Moments) (later : Rat) (store after : TimedThreadStore cache)
    (plain : InMemoryThreadStore) (op : ServerOp)
    (answer : Except ServerError op.Result) (within : later < deadline moments.wrote) (ordered : moments.wrote ≤ later)
    (knows : WritesKnown known op) (unlost : Unlost known moments.looked later store plain)
    (served : store.call platform moments op = some (after, answer)) :
    ∃ next, plain.call platform op = some (next, answer) ∧ Unlost known moments.wrote later after next := by
  have mirrors := unlost.mirrors moments.looked le_rfl (le_trans moments.ordered ordered)
  have asked : ∀ threadId, store.lookup moments.looked threadId =
      ((store.lookup moments.looked threadId).1, plain.threads.get? threadId) := fun threadId => Prod.ext rfl
        (mirrors.records threadId)
  have recorded := fun threadId stored listed => record_unlost lawful known fits moments.wrote later _ plain threadId
    stored within ordered listed (lookup_unlost lawful known moments later store plain threadId unlost)
  cases op
  case getThread threadId =>
    cases served
    refine ⟨plain, ?_, lookup_unlost lawful known moments later store plain threadId unlost⟩
    rw [InMemoryThreadStore.call, InMemoryThreadStore.getThread, ← mirrors.records threadId]
  case getAssistantId threadId =>
    cases served
    refine ⟨plain, ?_, lookup_unlost lawful known moments later store plain threadId unlost⟩
    rw [InMemoryThreadStore.call, InMemoryThreadStore.getAssistantId, ← mirrors.records threadId]
  case putThread thread =>
    rw [TimedThreadStore.call, TimedThreadStore.putThread] at served
    rw [InMemoryThreadStore.call, InMemoryThreadStore.putThread]
    by_cases large : plain.maxThreadBytes < platform.threadJsonBytes thread
    · rw [if_pos (mirrors.bytes ▸ large)] at served
      cases served
      rw [if_pos large]
      exact ⟨plain, rfl, fun moment from_ until_ => unlost.mirrors moment (le_trans moments.ordered from_) until_,
        unlost.recorded⟩
    · rw [if_neg (mirrors.bytes ▸ large), asked thread.threadId] at served
      cases served
      rw [if_neg large]
      exact ⟨_, rfl, recorded thread.threadId _ knows⟩
  case claimAssistant threadId assistantId =>
    rw [TimedThreadStore.call, TimedThreadStore.claimAssistant, asked threadId] at served
    rw [InMemoryThreadStore.call, InMemoryThreadStore.claimAssistant]
    have looked := lookup_unlost lawful known moments later store plain threadId unlost
    cases found : plain.threads.get? threadId with
    | none =>
        rw [found] at served
        cases served
        exact ⟨plain, rfl, looked⟩
    | some stored =>
        have listed := unlost.recorded threadId (by rw [found]; rfl)
        rw [found] at served
        dsimp only at served ⊢
        cases owned : stored.assistantId with
        | none =>
            rw [owned] at served
            cases served
            exact ⟨_, rfl, recorded threadId _ listed⟩
        | some owner =>
            rw [owned] at served
            dsimp only at served ⊢
            by_cases own : owner = assistantId
            · rw [if_pos own] at served ⊢
              cases served
              exact ⟨_, rfl, recorded threadId _ listed⟩
            · rw [if_neg own] at served ⊢
              cases served
              exact ⟨plain, rfl, looked⟩
  case deleteThread threadId =>
    cases served
    refine ⟨plain.deleteThread threadId, rfl, fun moment from_ until_ => ⟨mirrors.bytes, fun query => ?_⟩,
      fun query present => ?_⟩
    · have passes := le_trans moments.ordered from_
      have popped := lawful.pop store.threads moments.looked moment threadId query passes
      rw [TimedThreadStore.deleteThread, popped, InMemoryThreadStore.deleteThread, Dict.get_pop,
        (unlost.mirrors moment passes until_).records query]
    · rw [InMemoryThreadStore.deleteThread, Dict.get_pop] at present
      by_cases own : query = threadId
      · rw [if_pos own] at present
        cases present
      · rw [if_neg own] at present
        exact unlost.recorded query present
  all_goals cases served

theorem timed_run_plain (platform : Platform) (lawful : cache.Lawful deadline limit)
    (monotone : ∀ now later, now ≤ later → deadline now ≤ deadline later) (known : List String)
    (fits : known.length ≤ limit)
    (store last : TimedThreadStore cache) (now later : Rat) (log : List Answered)
    (run : TimedRun platform store now log last later) (within : later < deadline now)
    (knows : ∀ entry ∈ log, WritesKnown known entry.op)
    (plain : InMemoryThreadStore) (unlost : Unlost known now later store plain) :
    ∃ kept, PlainRun platform plain log kept ∧ Mirrors later last kept := by
  induction run generalizing plain with
  | done store now later passes => exact ⟨plain, .done plain, unlost.mirrors later passes le_rfl⟩
  | call store after last now later moments op answer log passes served rest ih =>
      obtain ⟨here, others⟩ := List.forall_mem_cons.mp knows
      have ordered := timed_run_passes platform after last moments.wrote later log rest
      have lasts := lt_of_lt_of_le within (monotone now moments.wrote (le_trans passes moments.ordered))
      have looked : Unlost known moments.looked later store plain :=
        ⟨fun moment from_ until_ => unlost.mirrors moment (le_trans passes from_) until_, unlost.recorded⟩
      obtain ⟨next, answered, unlostNext⟩ := call_unlost platform lawful known fits moments later store after plain op
        answer lasts ordered here looked served
      obtain ⟨kept, plainly, ends⟩ := ih lasts others next unlostNext
      exact ⟨kept, .call plain next kept op answer log answered plainly, ends⟩

theorem call_keeps_owner (platform : Platform) (lawful : cache.Lawful deadline limit)
    (lasting : ∀ now, now < deadline now)
    (moments : Moments) (store after : TimedThreadStore cache) (plain : InMemoryThreadStore) (op : ServerOp)
    (answer : Except ServerError op.Result) (threadId owner : String) (mirrors : Mirrors moments.looked store plain)
    (owned : plain.getAssistantId threadId = some owner)
    (served : store.call platform moments op = some (after, answer)) :
    cache.find after.threads moments.wrote threadId = none ∨
      ∃ stored, cache.find after.threads moments.wrote threadId = some stored ∧ stored.assistantId = some owner := by
  obtain ⟨next, answered, shown⟩ := call_shows platform lawful lasting moments store after plain op
    answer mirrors served
  rcases shown.records threadId with same | lost
  · rw [same]
    have kept : next.threads.get? threadId = none ∨ next.getAssistantId threadId = some owner := by
      cases op
      case getThread query =>
        cases answered
        exact Or.inr owned
      case getAssistantId query =>
        cases answered
        exact Or.inr owned
      case putThread thread =>
        have put := (plain.put_thread_owner platform thread threadId).trans owned
        rw [show plain.putThread platform thread = (next, answer) from Option.some.inj answered] at put
        exact Or.inr put
      case claimAssistant query assistantId =>
        have claimed := plain.claim_assistant_keeps query assistantId threadId owner owned
        rw [show plain.claimAssistant query assistantId = (next, answer) from Option.some.inj answered] at claimed
        exact Or.inr claimed
      case deleteThread query =>
        cases answered
        by_cases own : threadId = query
        · exact Or.inl ((Dict.get_pop _ _ _).trans (if_pos own))
        · exact Or.inr ((plain.delete_thread_owner query threadId).trans ((if_neg own).trans owned))
      all_goals cases answered
    refine kept.imp id (fun recorded => ?_)
    rw [InMemoryThreadStore.getAssistantId, Option.bind_eq_some_iff] at recorded
    exact recorded
  · exact Or.inl lost

theorem claim_refused (platform : Platform) (moments : Moments) (store after : TimedThreadStore cache)
    (threadId owner assistantId : String)
    (stored : StoredThread) (found : cache.find store.threads moments.looked threadId = some stored)
    (owned : stored.assistantId = some owner) (other : assistantId ≠ owner)
    (served : store.call platform moments (.claimAssistant threadId assistantId) = some (after, .ok ())) : False := by
  have asked : store.lookup moments.looked threadId = ((store.lookup moments.looked threadId).1, some stored) :=
    Prod.ext rfl found
  rw [TimedThreadStore.call, TimedThreadStore.claimAssistant, asked] at served
  dsimp only at served
  rw [owned] at served
  dsimp only at served
  rw [if_neg (fun same => other same.symm)] at served
  cases served

theorem timed_run_owner (platform : Platform) (lawful : cache.Lawful deadline limit)
    (lasting : ∀ now, now < deadline now)
    (store last : TimedThreadStore cache) (now later : Rat) (log : List Answered)
    (run : TimedRun platform store now log last later)
    (plain : InMemoryThreadStore) (shows_ : Shows now store plain) (threadId owner assistantId : String)
    (other : assistantId ≠ owner)
    (owned : ∃ stored, cache.find store.threads now threadId = some stored ∧ stored.assistantId = some owner)
    (claimed : ⟨.claimAssistant threadId assistantId, .ok ()⟩ ∈ log) :
    ∃ earlier rest middle moment, log = earlier ++ rest ∧ ⟨.claimAssistant threadId assistantId, .ok ()⟩ ∈ rest ∧
      TimedRun platform store now earlier middle moment ∧ TimedRun platform middle moment rest last later ∧
      cache.find middle.threads moment threadId = none := by
  induction run generalizing plain with
  | done store now later passes => cases claimed
  | call store after last now later moments op answer log passes served rest ih =>
      obtain ⟨stored, found, recorded⟩ := owned
      rcases lawful.later store.threads now moments.looked threadId passes with same | lost
      · rw [found] at same
        have looked := shows_losing moments.looked store plain
          (shows_later lawful now moments.looked store plain shows_ passes)
        obtain ⟨next, _, shown⟩ := call_shows platform lawful lasting moments store after _ op answer looked served
        have named : (plain.losing
          (fun query => (cache.find store.threads moments.looked query).isSome)).getAssistantId threadId =
            some owner := by
          rw [InMemoryThreadStore.getAssistantId, ← looked.records threadId, same, Option.bind_some, recorded]
        have following : ⟨.claimAssistant threadId assistantId, .ok ()⟩ ∈ log := by
          rcases List.mem_cons.mp claimed with here | later
          · cases here
            exact (claim_refused platform moments store after threadId owner assistantId stored same recorded
              other served).elim
          · exact later
        have called := fun moment (ends : TimedRun platform after moments.wrote [] after moment) =>
          TimedRun.call store after after now moment moments op answer [] passes served ends
        rcases call_keeps_owner platform lawful lasting moments store after _ op answer threadId owner looked named
          served with lost | kept
        · exact ⟨[⟨op, answer⟩], log, after, moments.wrote, rfl, following, called _ (.done after _ _ le_rfl), rest,
            lost⟩
        · obtain ⟨earlier, others, middle, moment, split, listed, first, second, lost⟩ := ih next shown kept following
          exact ⟨⟨op, answer⟩ :: earlier, others, middle, moment, by rw [split, List.cons_append], listed,
            .call store after middle now moment moments op answer earlier passes served first, second, lost⟩
      · exact ⟨[], _, store, moments.looked, rfl, claimed, .done store now moments.looked passes,
          .call store after last moments.looked later moments op answer log le_rfl served rest, lost⟩

def MayWrite (threadId : String) : ServerOp → Prop
  | .putThread thread => thread.threadId = threadId
  | .claimAssistant query _ => query = threadId
  | _ => False

inductive TableEffect (moments : Moments) (store : TimedThreadStore cache) (op : ServerOp) :
    TimedThreadStore cache → Prop where
  | unread : TableEffect moments store op store
  | looked (threadId : String) : TableEffect moments store op (store.lookup moments.looked threadId).1
  | wrote (threadId : String) (stored : StoredThread) (writes : MayWrite threadId op) :
      TableEffect moments store op ((store.lookup moments.looked threadId).1.record moments.wrote threadId stored)
  | popped (threadId : String) : TableEffect moments store op (store.deleteThread moments threadId)

theorem call_effect (platform : Platform) (moments : Moments) (store after : TimedThreadStore cache) (op : ServerOp)
    (answer : Except ServerError op.Result) (served : store.call platform moments op = some (after, answer)) :
    TableEffect moments store op after := by
  cases op
  case getThread threadId =>
    cases served
    exact .looked threadId
  case getAssistantId threadId =>
    cases served
    exact .looked threadId
  case putThread thread =>
    rw [TimedThreadStore.call, TimedThreadStore.putThread] at served
    split at served
    · cases served
      exact .unread
    · cases served
      exact .wrote thread.threadId _ rfl
  case claimAssistant threadId assistantId =>
    rw [TimedThreadStore.call, TimedThreadStore.claimAssistant] at served
    split at served
    · rename_i looked missing
      rw [show looked = (store.lookup moments.looked threadId).1 from (congrArg Prod.fst missing).symm] at served
      cases served
      exact .looked threadId
    · rename_i looked stored found
      rw [show looked = (store.lookup moments.looked threadId).1 from (congrArg Prod.fst found).symm] at served
      split at served
      · split at served
        · cases served
          exact .wrote threadId _ rfl
        · cases served
          exact .looked threadId
      · cases served
        exact .wrote threadId _ rfl
  case deleteThread threadId =>
    cases served
    exact .popped threadId
  all_goals cases served

theorem effect_found (lawful : cache.Lawful deadline limit) (moments : Moments) (store after : TimedThreadStore cache)
    (op : ServerOp) (effect : TableEffect moments store op after) (threadId : String) (later : Rat)
    (passes : moments.wrote ≤ later) :
    cache.find after.threads later threadId = cache.find store.threads later threadId ∨
      cache.find after.threads later threadId = none ∨ (MayWrite threadId op ∧ ∃ stored,
        cache.find after.threads later threadId = if later < deadline moments.wrote then some stored else none) := by
  have sinceLook := le_trans moments.ordered passes
  have looked := fun query => lawful.get store.threads moments.looked later query threadId sinceLook
  cases effect with
  | unread => exact Or.inl rfl
  | looked query => exact Or.inl (looked query)
  | wrote query stored writes =>
      by_cases own : threadId = query
      · subst own
        exact Or.inr (Or.inr ⟨writes, stored, lawful.assigned _ moments.wrote later threadId stored passes⟩)
      · rcases lawful.others (store.lookup moments.looked query).1.threads moments.wrote later query stored
          threadId own passes with same | dropped
        · exact Or.inl (same.trans (looked query))
        · exact Or.inr (Or.inl dropped)
  | popped query =>
      have popped := lawful.pop store.threads moments.looked later query threadId sinceLook
      by_cases own : threadId = query
      · exact Or.inr (Or.inl (popped.trans (if_pos own)))
      · exact Or.inl (popped.trans (if_neg own))

def Expires (deadline : Rat → Rat) (now : Rat) (store : TimedThreadStore cache) : Prop :=
  ∀ threadId later, now ≤ later → deadline now ≤ later → cache.find store.threads later threadId = none

theorem timed_run_expires (platform : Platform) (lawful : cache.Lawful deadline limit)
    (monotone : ∀ now later, now ≤ later → deadline now ≤ deadline later) (store last : TimedThreadStore cache)
    (now later : Rat)
    (log : List Answered) (run : TimedRun platform store now log last later) (expires : Expires deadline now store) :
    Expires deadline later last := by
  induction run with
  | done store now later passes =>
      exact fun threadId moment since dead => expires threadId moment (le_trans passes since)
        (le_trans (monotone _ _ passes) dead)
  | call store after last now later moments op answer log passes served _ ih =>
      refine ih (fun threadId moment since dead => ?_)
      have waited := le_trans passes moments.ordered
      have missing := expires threadId moment (le_trans waited since) (le_trans (monotone _ _ waited) dead)
      rcases effect_found lawful moments store after op (call_effect platform moments store after op answer served)
        threadId moment since with same | lost | ⟨_, stored, written⟩
      · exact same.trans missing
      · exact lost
      · exact written.trans (if_neg (not_lt.mpr dead))

theorem timed_run_missing (platform : Platform) (lawful : cache.Lawful deadline limit)
    (store last : TimedThreadStore cache)
    (now later : Rat) (log : List Answered) (run : TimedRun platform store now log last later) (threadId : String)
    (unwritten : ∀ entry ∈ log, ¬ MayWrite threadId entry.op)
    (missing : cache.find store.threads later threadId = none) :
    cache.find last.threads later threadId = none := by
  induction run with
  | done store now later passes => exact missing
  | call store after last now later moments op answer log passes served rest ih =>
      obtain ⟨here, others⟩ := List.forall_mem_cons.mp unwritten
      refine ih others ?_
      have ordered := timed_run_passes platform after last moments.wrote later log rest
      rcases effect_found lawful moments store after op (call_effect platform moments store after op answer served)
        threadId later ordered with same | lost | ⟨written, _⟩
      · exact same.trans missing
      · exact lost
      · exact absurd written here

end Laws

section Stores

variable {cache : Cache String StoredThread Rat} (platform : Platform) (settings : StoreSettings)

def TimedThreadStore.new (cache : Cache String StoredThread Rat) (settings : StoreSettings) : TimedThreadStore cache :=
  ⟨settings.maxThreadBytes, cache.empty⟩

def InMemoryThreadStore.new (settings : StoreSettings) : InMemoryThreadStore := ⟨settings.maxThreadBytes, .empty⟩

theorem new_shows (lawful : cache.Lawful settings.deadline settings.maxThreads) (now : Rat) :
    Shows now (TimedThreadStore.new cache settings) (InMemoryThreadStore.new settings) :=
  ⟨rfl, fun query => Or.inr (lawful.empty now query)⟩

theorem deadline_lasts (now : Rat) : now < settings.deadline now := lt_add_of_pos_right now settings.lasting

theorem deadline_monotone (now later : Rat) (passes : now ≤ later) : settings.deadline now ≤ settings.deadline later :=
  (add_le_add_iff_right settings.ttlSeconds).mpr passes

-- Whatever a store is asked, and whenever, it answers as a plain one that loses records between
-- the calls, and what is found in the end is what that one has, but for lost records.
theorem timed_store_refines (lawful : cache.Lawful settings.deadline settings.maxThreads) (start now : Rat)
    (log : List Answered)
    (store : TimedThreadStore cache) (run : TimedRun platform (TimedThreadStore.new cache settings) start
      log store now) :
    ∃ lost, LossyRun platform (InMemoryThreadStore.new settings) log lost ∧ Shows now store lost :=
  timed_run_lossy platform lawful (deadline_lasts settings) _ store start now log run _
    (new_shows settings lawful start)

-- As long as no record's time is up and the table has room for every thread that is written,
-- it answers as a plain one that loses nothing.
theorem timed_store_loses_nothing (lawful : cache.Lawful settings.deadline settings.maxThreads) (start now later : Rat)
    (before log : List Answered) (store last : TimedThreadStore cache)
    (reached : TimedRun platform (TimedThreadStore.new cache settings) start before store now)
    (run : TimedRun platform store now log last later) (within : later < settings.deadline now)
    (lasting : ∀ query, (cache.find store.threads now query).isSome = true →
      (cache.find store.threads later query).isSome = true)
    (known : List String) (fits : known.length ≤ settings.maxThreads)
    (found : ∀ query, (cache.find store.threads now query).isSome = true → query ∈ known)
    (written : ∀ entry ∈ log, WritesKnown known entry.op) :
    ∃ plain kept, Mirrors now store plain ∧ PlainRun platform plain log kept ∧ Mirrors later last kept := by
  obtain ⟨lost, _, shows_⟩ := timed_store_refines platform settings lawful start now before store reached
  have mirrors := shows_losing now store lost shows_
  have unlost : Unlost known now later store
    (lost.losing (fun query => (cache.find store.threads now query).isSome)) := by
    refine ⟨fun moment since until_ => ⟨mirrors.bytes, fun query => ?_⟩, fun query present => ?_⟩
    · rw [← mirrors.records query]
      rcases lawful.later store.threads now moment query since with same | gone
      · exact same
      · cases found : cache.find store.threads now query with
        | none => exact gone
        | some stored =>
            have survives := lasting query (by rw [found]; rfl)
            rcases lawful.later store.threads moment later query until_ with same | none
            · rw [same, gone] at survives
              cases survives
            · rw [none] at survives
              cases survives
    · rw [← mirrors.records query] at present
      exact found query present
  obtain ⟨kept, plainly, ends⟩ := timed_run_plain platform lawful (deadline_monotone settings) known fits store last
    now later log run within written _ unlost
  exact ⟨_, kept, mirrors, plainly, ends⟩

-- If a record names an owner, and later another assistant claims the thread, there is a moment
-- in between at which the record is not found.
theorem owner_replaced_after_loss (lawful : cache.Lawful settings.deadline settings.maxThreads) (start now later : Rat)
    (before log : List Answered) (store last : TimedThreadStore cache)
    (reached : TimedRun platform (TimedThreadStore.new cache settings) start before store now)
    (run : TimedRun platform store now log last later) (threadId owner assistantId : String)
    (other : assistantId ≠ owner)
    (owned : ∃ stored, cache.find store.threads now threadId = some stored ∧ stored.assistantId = some owner)
    (claimed : ⟨.claimAssistant threadId assistantId, .ok ()⟩ ∈ log) :
    ∃ earlier rest middle moment, log = earlier ++ rest ∧ ⟨.claimAssistant threadId assistantId, .ok ()⟩ ∈ rest ∧
      TimedRun platform store now earlier middle moment ∧ TimedRun platform middle moment rest last later ∧
      cache.find middle.threads moment threadId = none := by
  obtain ⟨lost, _, shows_⟩ := timed_store_refines platform settings lawful start now before store reached
  exact timed_run_owner platform lawful (deadline_lasts settings) store last now later log run lost shows_ threadId
    owner assistantId other owned claimed

-- A thread that is neither written nor claimed for `ttl_seconds` is forgotten.
theorem untouched_threads_expire (lawful : cache.Lawful settings.deadline settings.maxThreads) (start now later : Rat)
    (before log : List Answered) (store last : TimedThreadStore cache)
    (reached : TimedRun platform (TimedThreadStore.new cache settings) start before store now)
    (run : TimedRun platform store now log last later) (threadId : String)
    (untouched : ∀ entry ∈ log, ¬ MayWrite threadId entry.op)
    (idle : now + settings.ttlSeconds ≤ later) : cache.find last.threads later threadId = none := by
  have expires := timed_run_expires platform lawful (deadline_monotone settings) _ store start now before reached
    (fun query moment _ _ => lawful.empty moment query)
  refine timed_run_missing platform lawful store last now later log run threadId untouched ?_
  exact expires threadId later (timed_run_passes platform store last now later log run) idle

end Stores

theorem ten_positive : (0 : Rat) < 10 := by decide +kernel

def smallSettings : StoreSettings := ⟨10, 2, 1000, ten_positive, Nat.two_pos, Nat.succ_pos 999⟩

def smallCache : Cache String StoredThread Rat :=
  leastRecent String StoredThread smallSettings.deadline smallSettings.maxThreads smallSettings.several

theorem small_cache_lawful : smallCache.Lawful smallSettings.deadline smallSettings.maxThreads :=
  least_recent_lawful smallSettings.deadline smallSettings.maxThreads smallSettings.several

def atOnce (now : Rat) : Moments := ⟨now, now, le_rfl⟩

def storedThread : Thread := ⟨"t", 0, 0, .empty, "idle", .empty⟩

def threadPut : Answered := ⟨.putThread storedThread, .ok ()⟩

def claimedFor (assistantId : String) : Answered := ⟨.claimAssistant "t" assistantId, .ok ()⟩

def newStore : TimedThreadStore smallCache := TimedThreadStore.new smallCache smallSettings

def putStore (store : TimedThreadStore smallCache) (now : Rat) : TimedThreadStore smallCache :=
  (store.putThread smallPlatform (atOnce now) storedThread).1

def claimedStore (store : TimedThreadStore smallCache) (now : Rat) (assistantId : String) :
    TimedThreadStore smallCache :=
  (store.claimAssistant (atOnce now) "t" assistantId).1

theorem put_found (store : TimedThreadStore smallCache) (now later : Rat) (passes : now ≤ later)
    (lasts : later < now + 10)
    (fresh : smallCache.find store.threads now "t" = none) (fits : store.maxThreadBytes = 1000) :
    smallCache.find (putStore store now).threads later "t" = some ⟨storedThread, none⟩ := by
  have small : ¬ store.maxThreadBytes < smallPlatform.threadJsonBytes storedThread := by
    rw [fits]
    exact (by decide : ¬ 1000 < 100)
  rw [putStore, TimedThreadStore.putThread, if_neg small]
  refine (small_cache_lawful.assigned _ now later "t" _ passes).trans ((if_pos lasts).trans ?_)
  rw [show smallCache.find store.threads (atOnce now).looked storedThread.threadId = none from fresh]
  rfl

theorem put_served (store : TimedThreadStore smallCache) (now : Rat) (fits : store.maxThreadBytes = 1000) :
    store.call smallPlatform (atOnce now) (.putThread storedThread) = some (putStore store now, .ok ()) := by
  have small : ¬ store.maxThreadBytes < smallPlatform.threadJsonBytes storedThread := by
    rw [fits]
    exact (by decide : ¬ 1000 < 100)
  rw [TimedThreadStore.call, putStore, TimedThreadStore.putThread, if_neg small]

theorem claim_served (store : TimedThreadStore smallCache) (now : Rat) (assistantId : String) (stored : StoredThread)
    (found : smallCache.find store.threads now "t" = some stored) (free : stored.assistantId = none) :
    store.call smallPlatform (atOnce now) (.claimAssistant "t" assistantId) =
      some (claimedStore store now assistantId, .ok ()) ∧
      claimedStore store now assistantId = (store.lookup now "t").1.record now "t"
        ⟨stored.thread, some assistantId⟩ := by
  have asked : store.lookup (atOnce now).looked "t" = ((store.lookup now "t").1, some stored) := Prod.ext rfl found
  have claimed : store.claimAssistant (atOnce now) "t" assistantId =
      ((store.lookup now "t").1.record now "t" ⟨stored.thread, some assistantId⟩, .ok ()) := by
    rw [TimedThreadStore.claimAssistant, asked]
    dsimp only
    rw [free]
    rfl
  rw [TimedThreadStore.call, claimedStore, claimed]
  exact ⟨rfl, rfl⟩

theorem put_and_claimed : TimedRun smallPlatform newStore 0 [threadPut, claimedFor "a"]
    (claimedStore (putStore newStore 0) 1 "a") 1 := by
  have found := put_found newStore 0 1 (by decide +kernel) (by decide +kernel) rfl rfl
  refine .call newStore (putStore newStore 0) _ 0 1 (atOnce 0) (.putThread storedThread) (.ok ()) _ le_rfl rfl ?_
  refine .call _ (claimedStore (putStore newStore 0) 1 "a") _ 0 1 (atOnce 1) (.claimAssistant "t" "a")
    (.ok ()) _ ?_ ?_ ?_
  · exact (by decide +kernel : (0 : Rat) ≤ 1)
  · exact (claim_served _ 1 "a" _ found rfl).1
  · exact .done _ 1 1 le_rfl

theorem timed_store_refines_small_run :
    ∃ lost, LossyRun smallPlatform (InMemoryThreadStore.new smallSettings) [threadPut, claimedFor "a"] lost ∧
      Shows 1 (claimedStore (putStore newStore 0) 1 "a") lost :=
  timed_store_refines smallPlatform smallSettings small_cache_lawful 0 1 [threadPut, claimedFor "a"] _ put_and_claimed

theorem timed_store_loses_nothing_small_run :
    ∃ plain kept, Mirrors 0 newStore plain ∧ PlainRun smallPlatform plain [threadPut, claimedFor "a"] kept ∧
      Mirrors 1 (claimedStore (putStore newStore 0) 1 "a") kept := by
  refine timed_store_loses_nothing smallPlatform smallSettings small_cache_lawful 0 0 1 []
    [threadPut, claimedFor "a"] newStore _
    (.done _ 0 0 le_rfl) put_and_claimed (by decide +kernel) ?_ ["t"] (by decide) ?_ ?_
  · intro query present
    cases present
  · intro query present
    cases present
  · intro entry listed
    rcases List.mem_pair.mp listed with rfl | rfl
    · exact List.mem_singleton_self _
    · trivial

theorem untouched_threads_expire_small_run :
    smallCache.find (claimedStore (putStore newStore 0) 1 "a").threads 11 "t" = none := by
  refine untouched_threads_expire smallPlatform smallSettings small_cache_lawful 0 1 11 [threadPut, claimedFor "a"]
    [] _ _ put_and_claimed
    (.done _ 1 11 (by decide +kernel)) "t" (fun entry listed => by cases listed) (by decide +kernel)

theorem claimed_found (later : Rat) (passes : 1 ≤ later) :
    smallCache.find (claimedStore (putStore newStore 0) 1 "a").threads later "t" =
      if later < 1 + 10 then some ⟨storedThread, some "a"⟩ else none := by
  have found := put_found newStore 0 1 (by decide +kernel) (by decide +kernel) rfl rfl
  rw [(claim_served _ 1 "a" _ found rfl).2]
  exact small_cache_lawful.assigned _ 1 later "t" _ passes

-- The record runs out at 11, and the thread is claimed again at 13.
theorem owner_replaced_after_loss_small_run :
    ∃ earlier rest middle moment, [threadPut, claimedFor "b"] = earlier ++ rest ∧ claimedFor "b" ∈ rest ∧
      TimedRun smallPlatform (claimedStore (putStore newStore 0) 1 "a") 1 earlier middle moment ∧
      TimedRun smallPlatform middle moment rest
        (claimedStore (putStore (claimedStore (putStore newStore 0) 1 "a") 12) 13 "b") 13 ∧
      smallCache.find middle.threads moment "t" = none := by
  have expired : smallCache.find (claimedStore (putStore newStore 0) 1 "a").threads 12 "t" = none :=
    (claimed_found 12 (by decide +kernel)).trans (if_neg (by decide +kernel))
  have bytes : (claimedStore (putStore newStore 0) 1 "a").maxThreadBytes = 1000 := by
    rw [(claim_served _ 1 "a" _ (put_found newStore 0 1 (by decide +kernel) (by decide +kernel) rfl rfl) rfl).2]
    rfl
  have found := put_found (claimedStore (putStore newStore 0) 1 "a") 12 13 (by decide +kernel)
    (by decide +kernel) expired bytes
  refine owner_replaced_after_loss smallPlatform smallSettings small_cache_lawful 0 1 13 [threadPut, claimedFor "a"]
    [threadPut, claimedFor "b"] _ _ put_and_claimed ?_ "t" "a" "b" (by decide)
    ⟨_, (claimed_found 1 le_rfl).trans (if_pos (by decide +kernel)), rfl⟩
      (List.mem_cons_of_mem _ (List.mem_singleton_self _))
  refine .call _ (putStore (claimedStore (putStore newStore 0) 1 "a") 12) _ 1 13 (atOnce 12)
    (.putThread storedThread) (.ok ()) _ (by decide +kernel) (put_served _ 12 bytes) ?_
  exact .call _ _ _ 12 13 (atOnce 13) (.claimAssistant "t" "b") (.ok ()) _ (by decide +kernel)
    (claim_served _ 13 "b" _ found rfl).1 (.done _ 13 13 le_rfl)

end LangGraphServer
