import Mathlib.Logic.Relation
import LangGraphServer.Server.OwnerPhases

set_option autoImplicit false

namespace LangGraphServer

open Collections Coroutine

def Known (state : ServerState) (threadId : String) : OwnerPhase → Prop
  | .looking => True
  | .unowned => state.ownerOf threadId = none
  | .marked owner => state.ownerOf threadId = none ∧ MarkedBy state threadId owner
  | .unmarked => state.ownerOf threadId = none ∧ ¬ Stored state threadId
  | .owned owner => state.ownerOf threadId = some owner
  | .passed => True

inductive OwnerMove (acts : String → Prop) (threadId : String) (before after : ServerState) : Prop where
  | kept (owners : ∀ query, after.ownerOf query = before.ownerOf query) (saved : after.saved = before.saved)
      (log : after.log = before.log)
  | claimed (owner : String) (free : before.ownerOf threadId = none ∨ before.ownerOf threadId = some owner)
      (marked : MarkedBy before threadId owner)
      (owners : ∀ query, after.ownerOf query = if query = threadId then some owner else before.ownerOf query)
      (saved : after.saved = before.saved) (log : after.log = before.log)
  | began (query owner : String) (acting : acts owner) (owned : before.ownerOf threadId = some owner)
      (owners : ∀ query, after.ownerOf query = before.ownerOf query) (saved : after.saved = before.saved)
      (log : after.log = before.log ++ [.began query (some owner)])
  | wrote (config : RunnableConfig) (item : CheckpointItem) (owner : String) (acting : acts owner)
      (carries : checkpointAssistantId item = some owner) (marks : MarksThread config threadId owner)
        (owned : before.ownerOf threadId = some owner)
      (written : after = before.aput config item)

section Moves

variable {acts : String → Prop} {threadId : String} {before after : ServerState}

theorem marked_same (saved : after.saved = before.saved) (owner : String) (marked : MarkedBy before threadId owner) :
    MarkedBy after threadId owner := by
  rw [MarkedBy, items_same_saved before after saved]
  exact marked

theorem stored_same (saved : after.saved = before.saved) : Stored after threadId ↔ Stored before threadId := by
  rw [Stored, Stored, items_same_saved before after saved]

theorem aput_owner (config : RunnableConfig) (item : CheckpointItem) (state : ServerState) (query : String) :
    (state.aput config item).ownerOf query = state.ownerOf query := by
  rw [ServerState.aput]
  split <;> rfl

theorem durable_moved (durable : Durable before) (move : OwnerMove acts threadId before after) : Durable after := by
  cases move with
  | kept owners saved log =>
      exact durable_shrunk durable (fun query => Or.inl (owners query))
        (fun query => Or.inl (items_same_saved before after saved query))
  | claimed owner free marked owners saved log => exact durable_claimed durable marked saved owners
  | began query owner acting owned owners saved log =>
      exact durable_shrunk durable (fun query => Or.inl (owners query))
        (fun query => Or.inl (items_same_saved before after saved query))
  | wrote config item owner acting carries marks owned written =>
      rw [written]
      exact durable_written config item marks carries durable owned

theorem moved_owner (move : OwnerMove acts threadId before after) (query owner : String)
    (owned : before.ownerOf query = some owner) :
    after.ownerOf query = some owner := by
  cases move with
  | kept owners saved log => exact (owners query).trans owned
  | claimed claimant free marked owners saved log =>
      rw [owners]
      split
      · rename_i here
        subst here
        rcases free with none | own
        · cases none.symm.trans owned
        · exact own.symm.trans owned
      · exact owned
  | began begun acting actor owned' owners saved log => exact (owners query).trans owned
  | wrote config item writer acting carries marks owned' written =>
      rw [written, aput_owner]
      exact owned

structure Belongs (acts : String → Prop) (threadId owner : String) (start now : ServerState) : Prop where
  stored : Stored now threadId
  marked : MarkedBy now threadId owner
  owners : now.ownerOf threadId = start.ownerOf threadId ∨ now.ownerOf threadId = some owner
  saved : now.saved = start.saved ∨ acts owner
  log : ∃ entries, now.log = start.log ++ entries ∧ ∀ entry ∈ entries, acts owner ∧
    ∃ query, entry = .began query (some owner)

theorem belongs_refl (owner : String) (stored : Stored before threadId) (marked : MarkedBy before threadId owner) :
    Belongs acts threadId owner before before :=
  ⟨stored, marked, Or.inl rfl, Or.inl rfl, [], (List.append_nil _).symm, fun _ listed => by cases listed⟩

theorem belongs_moved (owner : String) (start : ServerState) (durable : Durable before)
    (belongs : Belongs acts threadId owner start before)
    (move : OwnerMove acts threadId before after) : Belongs acts threadId owner start after := by
  obtain ⟨stored, marked, owners, saved, entries, log, all⟩ := belongs
  have agrees : ∀ other, before.ownerOf threadId = some other → other = owner :=
    durable_marks before durable stored marked
  cases move with
  | kept same items appended =>
      refine ⟨(stored_same items).mpr stored, marked_same items owner marked, ?_, ?_, entries, appended.trans log, all⟩
      · rw [same]
        exact owners
      · rw [items]
        exact saved
  | claimed claimant free agreed now items appended =>
      have same := marked_by_unique before stored claimant owner agreed marked
      refine ⟨(stored_same items).mpr stored, marked_same items owner marked, Or.inr ?_, ?_, entries,
        appended.trans log, all⟩
      · rw [now, if_pos rfl, same]
      · rw [items]
        exact saved
  | began query actor acting owned same items appended =>
      cases agrees actor owned
      refine ⟨(stored_same items).mpr stored, marked_same items owner marked,
        Or.inr ((same _).trans owned), Or.inr acting, entries ++ [.began query (some owner)], ?_,
          fun entry listed => ?_⟩
      · rw [appended, log, List.append_assoc]
      · rcases List.mem_append.mp listed with old | new
        · exact all entry old
        · exact ⟨acting, query, List.mem_singleton.mp new⟩
  | wrote config item writer acting carries marks owned written =>
      cases agrees writer owned
      subst written
      refine ⟨stored_written config item marks.thread stored, marked_by_written config item marks carries marked,
        Or.inr ((aput_owner config item before threadId).trans owned), Or.inr acting, entries, ?_, all⟩
      rw [← log, ServerState.aput]
      split <;> rfl

end Moves

def Calm : ServerOp → Prop
  | .claimAssistant _ _ => False
  | .begin _ => False
  | .aput _ _ => False
  | .deleteThread _ => False
  | .deleteCheckpoints _ => False
  | .note _ => False
  | _ => True

section Operations

variable (platform : Platform) (persistent : Bool) {acts : String → Prop} {threadId : String}

theorem calm_keeps (id : TaskId) (op : ServerOp) (state : ServerState) (calm : Calm op) :
    (∀ query, (state.perform platform persistent id op).1.ownerOf query = state.ownerOf query) ∧
      (state.perform platform persistent id op).1.saved = state.saved ∧
        (state.perform platform persistent id op).1.log = state.log := by
  cases op
  case putThread thread => exact ⟨InMemoryThreadStore.put_thread_owner platform state.store thread, rfl, rfl⟩
  case acquire query mutation =>
    simp only [ServerState.perform]
    split <;> exact ⟨fun _ => rfl, rfl, rfl⟩
  case finish =>
    simp only [ServerState.perform, ServerState.updateProgress]
    split <;> exact ⟨fun _ => rfl, rfl, rfl⟩
  case claimAssistant query assistantId => exact calm.elim
  case begin graphOf => exact calm.elim
  case aput config item => exact calm.elim
  case deleteThread query => exact calm.elim
  case deleteCheckpoints query => exact calm.elim
  case note entry => exact calm.elim
  all_goals exact ⟨fun _ => rfl, rfl, rfl⟩

-- A request claims once it knows what the checkpoints say, and writes once it has claimed.
theorem allowed_cases (phase : OwnerPhase) (op : ServerOp) (allowed : phase.allows acts threadId op) :
    Calm op ∨ (∃ owner, op = .claimAssistant threadId owner ∧
      (phase = .marked owner ∨ phase = .unmarked ∨ phase = .owned owner)) ∨
      ∃ owner, phase = .owned owner := by
  cases op
  case claimAssistant query assistantId =>
    obtain ⟨rfl, free⟩ := allowed
    exact Or.inr (Or.inl ⟨assistantId, rfl, free⟩)
  case begin graphOf =>
    obtain ⟨owner, owned, _⟩ := allowed
    exact Or.inr (Or.inr ⟨owner, owned⟩)
  case aput config item =>
    obtain ⟨owner, owned, _⟩ := allowed
    exact Or.inr (Or.inr ⟨owner, owned⟩)
  case deleteThread query => exact allowed.elim
  case deleteCheckpoints query => exact allowed.elim
  case note entry => exact allowed.elim
  all_goals exact Or.inl trivial

theorem claimed_move (id : TaskId) (state : ServerState) (owner : String) (free : state.ownerOf threadId = none ∨
    state.ownerOf threadId = some owner) (marked : MarkedBy state threadId owner) :
    OwnerMove acts threadId state (state.perform platform persistent id (.claimAssistant threadId owner)).1 := by
  rcases state.store.claim_assistant_cases threadId owner with ⟨_, _, owners⟩ | ⟨same, _⟩
  · exact .claimed owner free marked owners rfl rfl
  · refine .kept (fun query => ?_) rfl rfl
    show (state.store.claimAssistant threadId owner).1.getAssistantId query = _
    rw [same]
    rfl

theorem owner_move (id : TaskId) (op : ServerOp) (state : ServerState) (phase : OwnerPhase)
    (persists : persistent = true)
    (durable : Durable state) (known : Known state threadId phase) (allowed : phase.allows acts threadId op) :
    OwnerMove acts threadId state (state.perform platform persistent id op).1 := by
  have calmly : Calm op → OwnerMove acts threadId state (state.perform platform persistent id op).1 := by
    intro calm
    obtain ⟨owners, saved, log⟩ := calm_keeps platform persistent id op state calm
    exact .kept owners saved log
  rcases allowed_cases phase op allowed with calm | ⟨owner, rfl, rfl | rfl | rfl⟩ | ⟨owner, rfl⟩
  · exact calmly calm
  · exact claimed_move platform persistent id state owner (Or.inl known.1) known.2
  · exact claimed_move platform persistent id state owner (Or.inl known.1)
      (fun item listed main => absurd ⟨item, listed, main⟩ known.2)
  · exact claimed_move platform persistent id state owner (Or.inr known) (durable_owner state durable known)
  · cases op
    case begin graphOf =>
      obtain ⟨actor, own, acting, rfl⟩ := allowed
      cases own
      cases found : state.progress.get? id.request with
      | none =>
          refine .kept (fun query => ?_) ?_ ?_ <;> simp only [ServerState.perform, found]
      | some progress =>
          rw [ServerState.perform_begin_found platform persistent id (some owner) state progress found]
          exact .began _ owner acting known (fun _ => rfl) rfl rfl
    case aput config item =>
      obtain ⟨writer, own, acting, carries, marks⟩ := allowed
      cases own
      refine .wrote config item owner acting carries marks known ?_
      simp only [ServerState.perform, persists, if_true]
    case claimAssistant query assistantId =>
      obtain ⟨rfl, own | own | own⟩ := allowed <;> cases own
      exact claimed_move platform persistent id state owner (Or.inr known) (durable_owner state durable known)
    case deleteThread query => exact allowed.elim
    case deleteCheckpoints query => exact allowed.elim
    case note entry => exact allowed.elim
    all_goals exact calmly trivial

theorem known_same {before after : ServerState} (phase : OwnerPhase)
    (owners : after.ownerOf threadId = before.ownerOf threadId)
    (saved : after.saved = before.saved) (known : Known before threadId phase) : Known after threadId phase := by
  cases phase with
  | looking => trivial
  | unowned => exact owners.trans known
  | marked owner => exact ⟨owners.trans known.1, marked_same saved owner known.2⟩
  | unmarked => exact ⟨owners.trans known.1, fun stored => known.2 ((stored_same saved).mp stored)⟩
  | owned owner => exact owners.trans known
  | passed => trivial

theorem known_claim (id : TaskId) (state : ServerState) (phase : OwnerPhase) (owner : String)
    (free : phase = .marked owner ∨ phase = .unmarked) (known : Known state threadId phase) :
    Known (state.perform platform persistent id (.claimAssistant threadId owner)).1 threadId
      (phase.next threadId (.claimAssistant threadId owner)
        (state.perform platform persistent id (.claimAssistant threadId owner)).2) := by
  have shape : (state.perform platform persistent id (.claimAssistant threadId owner)).2 =
    (state.store.claimAssistant threadId owner).2 := rfl
  have failed : ∀ error, (state.store.claimAssistant threadId owner).1 = state.store →
      (state.store.claimAssistant threadId owner).2 = .error error →
      Known (state.perform platform persistent id (.claimAssistant threadId owner)).1 threadId
        (phase.next threadId (.claimAssistant threadId owner)
          (state.perform platform persistent id (.claimAssistant threadId owner)).2) := by
    intro error same answered
    rw [shape, answered]
    have stays : phase.next threadId (.claimAssistant threadId owner) (.error error) = phase := by
      rcases free with rfl | rfl <;> rfl
    have unclaimed : (state.perform platform persistent id (.claimAssistant threadId owner)).1.ownerOf threadId =
      state.ownerOf threadId := by
      show (state.store.claimAssistant threadId owner).1.getAssistantId threadId = _
      rw [same]
      rfl
    rw [stays]
    exact known_same phase unclaimed rfl known
  rcases state.store.claim_assistant_cases threadId owner with ⟨answered, _, owners⟩ | ⟨same,
    ⟨_, answered⟩ | ⟨_, _, _, answered⟩⟩
  · rw [shape, answered]
    have turns : phase.next threadId (.claimAssistant threadId owner) (.ok ()) = .owned owner := by
      rcases free with rfl | rfl <;> rfl
    rw [turns]
    exact (owners threadId).trans (if_pos rfl)
  · exact failed _ same answered
  · exact failed _ same answered

theorem known_next (id : TaskId) (op : ServerOp) (state : ServerState) (phase : OwnerPhase)
    (persists : persistent = true)
    (durable : Durable state) (known : Known state threadId phase) (allowed : phase.allows acts threadId op) :
    Known (state.perform platform persistent id op).1 threadId
      (phase.next threadId op (state.perform platform persistent id op).2) := by
  have calmly : Calm op → Known (state.perform platform persistent id op).1 threadId phase := by
    intro calm
    obtain ⟨owners, saved, _⟩ := calm_keeps platform persistent id op state calm
    exact known_same phase (owners threadId) saved known
  have claims : (∃ owner, op = .claimAssistant threadId owner ∧ (phase = .marked owner ∨ phase = .unmarked)) →
      Known (state.perform platform persistent id op).1 threadId
        (phase.next threadId op (state.perform platform persistent id op).2) := by
    rintro ⟨owner, rfl, free⟩
    exact known_claim platform persistent id state phase owner free known
  cases phase with
  | looking =>
      cases op
      case getAssistantId query =>
        show Known state threadId (OwnerPhase.next threadId .looking (.getAssistantId query)
          (.ok (state.ownerOf query)))
        cases owned : state.ownerOf query with
        | none =>
            simp only [OwnerPhase.next]
            split
            · rename_i here
              exact here ▸ owned
            · trivial
        | some owner =>
            simp only [OwnerPhase.next]
            split
            · rename_i here
              exact here ▸ owned
            · trivial
      all_goals trivial
  | unowned =>
      rcases allowed_cases _ op allowed with calm | ⟨_, _, own | own | own⟩ | ⟨_, own⟩
      · cases op
        case agetTuple lookup =>
          show Known state threadId (OwnerPhase.next threadId .unowned (.agetTuple lookup)
            (.ok (state.agetTuple lookup)))
          simp only [OwnerPhase.next]
          split
          · rename_i here
            subst here
            have latest : state.latestMarker true threadId =
                (state.agetTuple (checkpointConfig threadId none "")).bind checkpointAssistantId := if_pos rfl
            cases named : (state.agetTuple (checkpointConfig threadId none "")).bind checkpointAssistantId with
            | none => exact ⟨known, latest_unnamed state durable (latest.trans named)⟩
            | some owner => exact ⟨known, latest_names state durable (latest.trans named)⟩
          · exact known
        all_goals exact calmly calm
      all_goals cases own
  | marked owner =>
      rcases allowed_cases _ op allowed with calm | ⟨claimant, rfl, own⟩ | ⟨_, own⟩
      · cases op
        case claimAssistant query assistantId => exact calm.elim
        all_goals exact calmly calm
      · refine claims ⟨claimant, rfl, ?_⟩
        rcases own with own | own | own
        · exact Or.inl own
        · exact Or.inr own
        · cases own
      · cases own
  | unmarked =>
      rcases allowed_cases _ op allowed with calm | ⟨claimant, rfl, own⟩ | ⟨_, own⟩
      · cases op
        case claimAssistant query assistantId => exact calm.elim
        all_goals exact calmly calm
      · refine claims ⟨claimant, rfl, ?_⟩
        rcases own with own | own | own
        · exact Or.inl own
        · exact Or.inr own
        · cases own
      · cases own
  | owned owner =>
      exact moved_owner (owner_move platform persistent id op state (.owned owner) persists durable known allowed)
        threadId owner known
  | passed => trivial

end Operations

end LangGraphServer
