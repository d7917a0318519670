import LangGraphServer.Lib.Census
import LangGraphServer.Server.DurableOwners
import LangGraphServer.Server.Footprint
import LangGraphServer.Server.Refusals

set_option autoImplicit false

namespace LangGraphServer

open Collections Coroutine

-- What a request knows of the owner of its thread: nothing yet, that the record has none,
-- what the latest checkpoint says then, or who it is. What it leaves behind asks nothing.
inductive OwnerPhase where
  | looking
  | unowned
  | marked (owner : String)
  | unmarked
  | owned (owner : String)
  | passed

namespace OwnerPhase

variable (acts : String → Prop) (threadId : String)

def next : OwnerPhase → (op : ServerOp) → Except ServerError op.Result → OwnerPhase
  | .looking, .getAssistantId query, .ok none => if query = threadId then .unowned else .looking
  | .looking, .getAssistantId query, .ok (some owner) => if query = threadId then .owned owner else .looking
  | .unowned, .agetTuple lookup, .ok found => if lookup = checkpointConfig threadId none "" then
      (match (found : Option CheckpointItem).bind checkpointAssistantId with
        | some owner => .marked owner
        | none => .unmarked) else .unowned
  | .marked _, .claimAssistant _ assistantId, .ok _ => .owned assistantId
  | .unmarked, .claimAssistant _ assistantId, .ok _ => .owned assistantId
  | phase, _, _ => phase

-- An owner is recorded when nothing speaks for another, and only the owner's graph runs.
def allows (phase : OwnerPhase) : ServerOp → Prop
  | .claimAssistant query assistantId => query = threadId ∧
      (phase = .marked assistantId ∨ phase = .unmarked ∨ phase = .owned assistantId)
  | .begin graphOf => ∃ owner, phase = .owned owner ∧ acts owner ∧ graphOf = some owner
  | .aput config item => ∃ owner, phase = .owned owner ∧ acts owner ∧ checkpointAssistantId item = some owner ∧
      MarksThread config threadId owner
  | .deleteThread _ => False
  | .deleteCheckpoints _ => False
  | .note _ => False
  | _ => True

end OwnerPhase

def ownerProtocol (acts : String → Prop) (threadId : String) : Protocol Api OwnerPhase where
  allows phase := phase.allows acts threadId
  next := OwnerPhase.next threadId
  lets _ := True
  splits phase theirs mine := (∃ owner, phase = .owned owner) ∧ theirs = phase ∧ mine = phase
  ends _ := True

-- What looks for a thread and gives it a record asks for no owner.
inductive Looks : ServerOp → Prop where
  | getThread (threadId : String) : Looks (.getThread threadId)
  | agetTuple (lookup : LookupConfig) : Looks (.agetTuple lookup)
  | putThread (thread : Thread) : Looks (.putThread thread)

-- What is awaited on a thread that belongs to an assistant whose graph runs.
inductive OwnedSteps (threadId owner : String) : ServerOp → Prop where
  | plain (op : ServerOp) (plain : Plain op) : OwnedSteps threadId owner op
  | begin : OwnedSteps threadId owner (.begin (some owner))
  | finish : OwnedSteps threadId owner .finish
  | suspend : OwnedSteps threadId owner .suspend
  | aput (config : RunnableConfig) (item : CheckpointItem) (carries : checkpointAssistantId item = some owner)
      (marks : MarksThread config threadId owner) : OwnedSteps threadId owner (.aput config item)
  | acquire (query : String) (mutation : Mutation) : OwnedSteps threadId owner (.acquire query mutation)
  | release (lease : RunLease) : OwnedSteps threadId owner (.release lease)
  | send (message : AsgiMessage) : OwnedSteps threadId owner (.send message)

section Programs

variable (platform : Platform) (config : ServerConfig) (context : RequestContext) {acts : String → Prop}
    {threadId : String}

theorem thread_from_checkpoint_looks (query : String) :
    (threadFromCheckpoint platform config context query).Uses Looks := by
  rw [threadFromCheckpoint]
  split
  · trivial
  · exact Coro.uses_bind (I := Api) Looks _ _ (Coro.uses_perform (I := Api) _ _ (.agetTuple _)) (fun _ => trivial)

theorem thread_exists_looks (query : String) : (threadExists platform config context query).Uses Looks := by
  refine Coro.uses_bind (I := Api) Looks _ _ (Coro.uses_perform (I := Api) _ _ (.getThread _)) (fun existing => ?_)
  cases (existing : Option Thread) with
  | some thread => trivial
  | none =>
      exact Coro.uses_bind (I := Api) Looks _ _ (thread_from_checkpoint_looks platform config context query)
        (fun _ => trivial)

theorem get_or_create_thread_looks (query : Option String) (metadata : Option Metadata) :
    (getOrCreateThread platform config context query metadata).Uses Looks := by
  have puts : ∀ thread answered : Thread, (do perform (.putThread thread); pure answered : Coro Api Thread).Uses
    Looks :=
    fun thread answered => Coro.uses_bind (I := Api) _ _ _ (Coro.uses_perform (I := Api) _ _ (.putThread thread))
      (fun _ => trivial)
  refine Coro.uses_bind (I := Api) _ _ _ (Coro.uses_perform (I := Api) _ _ (.getThread _)) (fun existing => ?_)
  cases (existing : Option Thread) with
  | some thread => trivial
  | none =>
      refine Coro.uses_bind (I := Api) _ _ _ (thread_from_checkpoint_looks platform config context _) (fun found => ?_)
      cases found with
      | some thread => exact puts _ _
      | none => exact puts _ _

theorem looks_follow {α : Type} (program : Coro Api α) (uses : program.Uses Looks) (post exit : Post Api OwnerPhase α)
    (posts : ∀ outcome, post outcome .looking) : (ownerProtocol acts threadId).Follows .anything program post
      exit .looking := by
  refine Protocol.follows_uses _ _ Looks (fun phase => phase = .looking) ?_ program .looking rfl uses post exit ?_
  · rintro _ op rfl looks
    cases looks <;> exact ⟨trivial, fun _ => rfl⟩
  · rintro outcome _ rfl
    exact posts outcome

theorem owned_steps_stay (owner : String) (may : acts owner) (phase : OwnerPhase) (op : ServerOp)
    (owned : phase = .owned owner) (steps : OwnedSteps threadId owner op) :
    phase.allows acts threadId op ∧ ∀ answer, phase.next threadId op answer = .owned owner := by
  subst owned
  refine ⟨?_, fun answer => ?_⟩
  · cases steps with
    | plain op plain => cases plain <;> trivial
    | begin => exact ⟨owner, rfl, may, rfl⟩
    | aput config item carries marks => exact ⟨owner, rfl, may, carries, marks⟩
    | _ => trivial
  · rfl

theorem owned_follows {α : Type} (owner : String) (may : acts owner) (program : Coro Api α)
    (awaits : program.Awaits (OwnedSteps threadId owner)) (post exit : Post Api OwnerPhase α)
    (posts : ∀ outcome, post outcome (.owned owner)) :
    (ownerProtocol acts threadId).Follows .anything program post exit (.owned owner) := by
  refine Protocol.follows_awaits (ownerProtocol acts threadId) (OwnedSteps threadId owner)
    (fun phase => phase = .owned owner)
    (owned_steps_stay owner may) ?_ (fun _ _ => trivial) program _ rfl awaits post exit ?_
  · rintro _ rfl
    exact ⟨_, _, ⟨⟨owner, rfl⟩, rfl, rfl⟩, rfl, rfl⟩
  · rintro outcome _ rfl
    exact posts outcome

theorem next_unmarked (item : CheckpointItem) (unnamed : checkpointAssistantId item = none) :
    OwnerPhase.next threadId .unowned (.agetTuple (checkpointConfig threadId none ""))
      (.ok (some item)) = .unmarked := by
  simp only [OwnerPhase.next, if_true, Option.bind_some, unnamed]

theorem next_marked (item : CheckpointItem) (owner : String) (named : checkpointAssistantId item = some owner) :
    OwnerPhase.next threadId .unowned (.agetTuple (checkpointConfig threadId none ""))
      (.ok (some item)) = .marked owner := by
  simp only [OwnerPhase.next, if_true, Option.bind_some, named]

-- What resolving the owner tells.
def Resolved (outcome : Except ServerError (Option String)) (phase : OwnerPhase) : Prop :=
  match outcome with
  | .ok (some owner) => phase = .owned owner
  | .ok none => phase = .unmarked
  | .error _ => True

theorem get_thread_assistant_id_follows (saver : SaverKind) (persists : config.checkpointer = some saver)
    (exit : Post Api OwnerPhase (Option String)) :
    (ownerProtocol acts threadId).Follows .anything (getThreadAssistantId config threadId) Resolved exit .looking := by
  refine ⟨trivial, fun answer => ?_⟩
  cases answer with
  | error error => trivial
  | ok recorded =>
      cases (recorded : Option String) with
      | some owner => exact if_pos rfl
      | none =>
          rw [persists]
          have next : OwnerPhase.next threadId .looking (.getAssistantId threadId) (.ok none) = .unowned := if_pos rfl
          refine ⟨trivial, fun answer => ?_⟩
          rw [show (ownerProtocol acts threadId).next = OwnerPhase.next threadId from rfl, next]
          cases answer with
          | error error => trivial
          | ok found =>
              cases (found : Option CheckpointItem) with
              | none => exact if_pos rfl
              | some item =>
                  cases named : checkpointAssistantId item with
                  | none =>
                      rw [next_unmarked item named]
                      dsimp only [Coro.ofExcept, Coro.handle]
                      simp only [named]
                      exact (rfl : OwnerPhase.unmarked = _)
                  | some owner =>
                      rw [next_marked item owner named]
                      dsimp only [Coro.ofExcept, Coro.handle]
                      simp only [named]
                      refine ⟨⟨rfl, Or.inl rfl⟩, fun answer => ?_⟩
                      cases answer with
                      | error error => trivial
                      | ok value => exact (rfl : OwnerPhase.owned owner = _)

def ClaimedFor (assistantId : String) (outcome : Except ServerError Unit) (phase : OwnerPhase) : Prop :=
  match outcome with
  | .ok _ => phase = .owned assistantId
  | .error _ => True

theorem claim_thread_assistant_follows (saver : SaverKind) (persists : config.checkpointer = some saver)
    (assistantId : String) (exit : Post Api OwnerPhase Unit) :
    (ownerProtocol acts threadId).Follows .anything (claimThreadAssistant config threadId assistantId)
    (ClaimedFor assistantId) exit .looking := by
  refine Protocol.follows_bind _ _ _ _ _ _ _ ?_
  refine Protocol.follows_mono _ _ _ _ _ _ _ _ (fun outcome phase resolved => ?_) (fun outcome phase gone => gone.elim)
    (get_thread_assistant_id_follows config saver persists (fun _ _ => False))
  cases outcome with
  | error error => trivial
  | ok existing =>
      have claims (handle : ServerError → Coro Api Unit)
          (gives_up : ∀ error phase, (ownerProtocol acts threadId).Follows .anything (handle error)
            (ClaimedFor assistantId) exit phase)
          (free : phase = .unmarked ∨ phase = .owned assistantId) :
          (ownerProtocol acts threadId).Follows .anything
            ((perform (.claimAssistant threadId assistantId)).tryCatch handle)
            (ClaimedFor assistantId) exit phase := by
        refine ⟨⟨rfl, Or.inr free⟩, fun answer => ?_⟩
        cases answer with
        | error error => exact gives_up error _
        | ok value =>
            rcases free with rfl | rfl
            · exact (rfl : OwnerPhase.owned assistantId = _)
            · exact (rfl : OwnerPhase.owned assistantId = _)
      dsimp only
      split
      · rename_i fits
        refine claims _ (fun error phase => by cases error <;> trivial) ?_
        rcases fits with rfl | rfl
        · exact Or.inl resolved
        · exact Or.inr resolved
      · trivial

theorem graph_allowed (owner : String) (named : owner ≠ "") (runnableConfig : RunnableConfig)
    (marks : MarksThread runnableConfig threadId owner) :
    GraphAllowed (OwnedSteps threadId owner) (CarriesMarker owner) (some owner) runnableConfig :=
  ⟨.begin, .finish, .suspend, fun item carries => .aput runnableConfig item (carries named) marks⟩

-- The graphs carry the server's marker into what they write, save for copies.
def Marking (config : ServerConfig) : Prop := config.GraphsWrite (fun asNode => asNode ≠ copyNode) CarriesMarker

theorem run_admitted_awaits (marking : Marking config) (kind : RunKind) (request : RunCreate) (admitted : Admitted) :
    (runAdmitted platform config context kind threadId request admitted).Awaits
      (OwnedSteps threadId admitted.assistant.assistantId) := by
  have marks := build_runnable_config_marks threadId admitted.assistant.assistantId request.config request.checkpointId
  have graphs := graph_allowed admitted.assistant.assistantId admitted.assistant.named _ marks
  cases kind with
  | stream =>
      refine Coro.awaits_except_bind _ _ (fun graph found => Coro.awaits_bind _ _ ?_ (fun _ => trivial))
      have writes := graph_writes config _ _ marking _ graph found
      refine respond_awaits platform _ _ .send (run_with_lease_awaits platform config _ admitted.lease (.release _) ?_)
        (Coro.awaits_perform (I := Api) _ (.release _))
      exact stream_graph_response_allowed platform context admitted.assistant _ graph _ _ _ .plain graphs
        (fun _ _ => writes.astream _ _ _ _ _ marks)
  | invoke =>
      refine Coro.awaits_bind _ _ (Coro.awaits_finally _ _ ?_ (Coro.awaits_perform (I := Api) _ (.release _)))
        (fun _ => trivial)
      refine Coro.awaits_catch _ _ (with_timeout_awaits _ _ ?_) (fun error => ?_)
      · refine Coro.awaits_except_bind _ _ (fun graph found => Coro.awaits_bind _ _ ?_ (fun _ => trivial))
        have writes := graph_writes config _ _ marking _ graph found
        refine Coro.awaits_bind _ _ (mutating_awaits _ _ graphs _ (writes.ainvoke _ _ _ _ marks)) (fun result => ?_)
        split <;> trivial
      · split <;> trivial

theorem assistant_named (assistantId : String) (assistant : AssistantConfig)
    (found : getAssistantConfig config assistantId = .ok assistant) : assistant.assistantId = assistantId := by
  rw [getAssistantConfig] at found
  cases stored : config.getAssistant assistantId with
  | none =>
      rw [stored] at found
      cases found
  | some other =>
      rw [stored] at found
      cases found
      exact config.registered assistantId assistant stored

theorem claim_for_run_follows (saver : SaverKind) (persists : config.checkpointer = some saver) (request : RunCreate)
    (assistant : AssistantConfig) (exit : Post Api OwnerPhase Unit) :
    (ownerProtocol acts threadId).Follows .anything (claimForRun platform config context threadId request assistant)
      (ClaimedFor assistant.assistantId) exit .looking := by
  refine Protocol.follows_bind _ _ _ _ _ _ _ ?_
  have looks : (if request.ifNotExists = some .reject then do
      let exists_ ← threadExists platform config context threadId
      pure (!exists_)
    else pure false : Coro Api Bool).Uses Looks := by
    split
    · exact Coro.uses_bind (I := Api) Looks _ _ (thread_exists_looks platform config context threadId)
        (fun _ => trivial)
    · trivial
  refine looks_follow _ looks _ _ (fun outcome => ?_)
  cases outcome with
  | error error => trivial
  | ok missing =>
      dsimp only
      split
      · trivial
      · refine Protocol.follows_bind _ _ _ _ _ _ _ ?_
        refine looks_follow _ (get_or_create_thread_looks platform config context _ none) _ _ (fun outcome => ?_)
        cases outcome with
        | error error => trivial
        | ok thread => exact claim_thread_assistant_follows config saver persists assistant.assistantId exit

-- A run only answers once it owns its thread.
def EndsOwning (assistantId : String) (outcome : Except ServerError Unit) (phase : OwnerPhase) : Prop :=
  outcome = .ok () → phase = .owned assistantId

theorem run_follows (marking : Marking config) (saver : SaverKind) (persists : config.checkpointer = some saver)
    (kind : RunKind) (request : RunCreate) (may : acts request.assistantId) :
    (ownerProtocol acts threadId).Follows .anything
    (serve platform config context (runRequest kind threadId request)).void
      (EndsOwning request.assistantId) (EndsOwning request.assistantId) .looking := by
  have failed : ∀ error phase, EndsOwning request.assistantId (.error error) phase :=
    fun error phase ended => by cases ended
  refine Protocol.follows_handle _ _ _ _ _ _ _ ?_
  rw [serve_run_eq, admitRun]
  cases optionError kind request with
  | some error => exact failed error _
  | none =>
      dsimp only
      cases found : getAssistantConfig config request.assistantId with
      | error error => exact failed error _
      | ok assistant =>
          have named := assistant_named config request.assistantId assistant found
          rw [bind_assoc]
          refine Protocol.follows_bind _ _ _ _ _ _ _ (Protocol.follows_of_except _ _ _ _ _ _ ?_)
          dsimp only
          rw [bind_assoc]
          refine Protocol.follows_bind _ _ _ _ _ _ _ ?_
          refine Protocol.follows_mono _ _ _ _ _ _ _ _ (fun outcome phase claimed => ?_)
            (fun outcome phase gone => gone.elim)
            (claim_for_run_follows platform config context saver persists request assistant (fun _ _ => False))
          cases outcome with
          | error error => exact failed error phase
          | ok value =>
              cases show phase = .owned assistant.assistantId from claimed
              rw [← named] at may failed ⊢
              refine owned_follows assistant.assistantId may _ ?_ _ _ (fun outcome => ?_)
              · rw [bind_assoc]
                refine Coro.awaits_bind _ _ (Coro.awaits_of_except _) (fun payload => ?_)
                rw [bind_assoc]
                refine Coro.awaits_bind _ _ (acquire_run_lease_awaits assistant.assistantId (.acquire _ _))
                  (fun lease => ?_)
                exact run_admitted_awaits platform config context marking kind request ⟨assistant, payload, lease⟩
              · cases outcome with
                | error error => exact failed error _
                | ok response => exact fun _ => rfl

theorem graph_named (assistantId : String) (graph : GraphRuntime)
    (found : config.getGraphRuntime assistantId = .ok graph) :
    assistantId ≠ "" := by
  rw [ServerConfig.getGraphRuntime] at found
  cases stored : config.assistants.get? assistantId with
  | none =>
      rw [stored] at found
      cases found
  | some assistant =>
      rw [← config.registered assistantId assistant stored]
      exact assistant.named

-- An update runs the graph of the owner it has resolved.
theorem resolved_update_follows (marking : Marking config) (saver : SaverKind)
    (persists : config.checkpointer = some saver)
    (all : ∀ owner, acts owner) (request : StateUpdate) (written : request.asNode ≠ copyNode)
    (post exit : Post Api OwnerPhase PyObj) (posts : ∀ outcome phase, post outcome phase) :
    (ownerProtocol acts threadId).Follows .anything (updateUnderLease platform config context threadId request) post
      exit .looking := by
  refine Protocol.follows_bind _ _ _ _ _ _ _ ?_
  refine looks_follow _ (get_or_create_thread_looks platform config context _ none) _ _ (fun outcome => ?_)
  cases outcome with
  | error error => exact posts _ _
  | ok thread =>
      refine Protocol.follows_bind _ _ _ _ _ _ _ ?_
      refine Protocol.follows_mono _ _ _ _ _ _ _ _ (fun outcome phase resolved => ?_)
        (fun outcome phase gone => gone.elim)
        (get_thread_assistant_id_follows config saver persists (fun _ _ => False))
      cases outcome with
      | error error => exact posts _ _
      | ok owner =>
          cases owner with
          | none => exact posts _ _
          | some assistantId =>
              cases show phase = .owned assistantId from resolved
              refine owned_follows assistantId (all assistantId) _ ?_ _ _ (fun outcome => posts outcome _)
              dsimp only
              split
              · trivial
              · refine Coro.awaits_except_bind _ _ (fun graph found => ?_)
                have marks := update_config_marks threadId assistantId request.checkpoint
                have writes := graph_writes config _ _ marking assistantId graph found
                split
                · trivial
                · rename_i update offered
                  have named := graph_named config assistantId graph found
                  refine Coro.awaits_catch _ _ (with_timeout_awaits _ _ (mutating_awaits _ _
                    (graph_allowed assistantId named _ (marks _)) _
                    (writes.aupdateState update offered _ _ _ _ _ (marks _) written))) (fun error => ?_)
                  split <;> trivial

theorem acquire_stays (query : String) (mutation : Mutation) (answer : Except ServerError RunLease) :
    OwnerPhase.next threadId .looking (.acquire query mutation) answer = .looking := by
  cases answer <;> rfl

-- A lease is given back in whatever phase the work ends.
theorem under_lease_follows {α : Type} (program : Coro Api α) (lease : RunLease) (post exit : Post Api OwnerPhase α)
    (phase : OwnerPhase) (posts : ∀ outcome phase, post outcome phase)
    (follows : ∀ before after : Post Api OwnerPhase α, (∀ outcome phase, before outcome phase) →
      (ownerProtocol acts threadId).Follows .anything program before after phase) :
    (ownerProtocol acts threadId).Follows .anything (program.tryFinally (perform (.release lease))) post exit
      phase := by
  refine Protocol.follows_handle _ _ _ _ _ _ _ (follows _ _ (fun outcome reached => ?_))
  refine ⟨trivial, fun answer => ?_⟩
  cases answer with
  | error error => exact posts _ _
  | ok value => cases outcome <;> exact posts _ _

theorem state_update_follows (marking : Marking config) (saver : SaverKind)
    (persists : config.checkpointer = some saver)
    (all : ∀ owner, acts owner) (request : StateUpdate) (written : request.asNode ≠ copyNode)
    (post exit : Post Api OwnerPhase CheckpointReference) (posts : ∀ outcome phase, post outcome phase) :
    (ownerProtocol acts threadId).Follows .anything (updateState platform config context threadId request) post
      exit .looking := by
  rw [updateState, persists]
  refine Protocol.follows_bind _ _ _ _ _ _ _ ?_
  refine looks_follow _ (thread_exists_looks platform config context threadId) _ _ (fun outcome => ?_)
  cases outcome with
  | error error => exact posts _ _
  | ok exists_ =>
      dsimp only
      split
      · refine Protocol.follows_bind _ _ _ _ _ _ _ ⟨trivial, fun answer => ?_⟩
        rw [show (ownerProtocol acts threadId).next = OwnerPhase.next threadId from rfl, acquire_stays]
        cases answer with
        | error error => cases error <;> exact posts _ _
        | ok lease =>
            refine Protocol.follows_bind _ _ _ _ _ _ _
              (under_lease_follows _ lease _ _ _ (fun outcome phase => ?_) (fun _ _ =>
              resolved_update_follows platform config context marking saver persists all request written _ _))
            cases outcome with
            | error error => exact posts _ _
            | ok result => exact Protocol.follows_of_except _ _ _ _ _ _ (posts _ _)
      · exact posts _ _

theorem update_follows (marking : Marking config) (saver : SaverKind) (persists : config.checkpointer = some saver)
    (all : ∀ owner, acts owner) (request : StateUpdate) (written : request.asNode ≠ copyNode)
    (post exit : Post Api OwnerPhase Unit) (posts : ∀ outcome phase, post outcome phase) :
    (ownerProtocol acts threadId).Follows .anything
    (serve platform config context (.updateState threadId request)).void post exit
      .looking := by
  refine Protocol.follows_handle _ _ _ _ _ _ _ (Protocol.follows_bind _ _ _ _ _ _ _ ?_)
  refine state_update_follows platform config context marking saver persists all request written _ _
    (fun outcome phase => ?_)
  cases outcome <;> exact posts _ _

end Programs

end LangGraphServer
