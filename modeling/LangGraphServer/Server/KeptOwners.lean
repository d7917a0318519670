import LangGraphServer.Server.Lookups
import LangGraphServer.Server.OwnerSequences

set_option autoImplicit false

namespace LangGraphServer

open Collections Coroutine

structure ShutOut (threadId owner : String) (start : ServerState) (pool : Pool Api ServerState TaskId) : Prop where
  silent : pool.shared.log = start.log
  saved : pool.shared.saved = start.saved
  record : pool.shared.ownerOf threadId = start.ownerOf threadId ∨ pool.shared.ownerOf threadId = some owner
  unanswered : (⟨0, false⟩, .ret ()) ∉ pool.tasks

structure RunByOwner (threadId owner : String) (start : ServerState) (pool : Pool Api ServerState TaskId) : Prop where
  stored : Stored pool.shared threadId
  marked : MarkedBy pool.shared threadId owner
  record : pool.shared.ownerOf threadId = start.ownerOf threadId ∨ pool.shared.ownerOf threadId = some owner
  graphs : ∃ entries, pool.shared.log = start.log ++ entries ∧ ∀ entry ∈ entries, ∃ query,
    entry = .began query (some owner)

-- A thread's checkpoints name its owner, and requests on it heed them.
structure OwnershipKept (platform : Platform) (config : ServerConfig) (state : ServerState)
    (threadId owner : String) : Prop where
  marked : MarkedBy state threadId owner
  recorded : ∀ other, state.ownerOf threadId = some other → other = owner
  others : ∀ context kind body turns, body.assistantId ≠ owner →
    ShutOut threadId owner state (requestRun platform config state context (runRequest kind threadId body) turns)
  own : ∀ context kind body turns, body.assistantId = owner →
    RunByOwner threadId owner state (requestRun platform config state context (runRequest kind threadId body) turns)
  updates : ∀ context (body : StateUpdate) turns, body.asNode ≠ copyNode →
    RunByOwner threadId owner state (requestRun platform config state context (.updateState threadId body) turns)

section Owners

variable {platform : Platform} {config : ServerConfig} {acts : String → Prop} {threadId owner : String}
    {state now : ServerState}

theorem belongs_run_by_owner (pool : Pool Api ServerState TaskId)
    (belongs : Belongs acts threadId owner state pool.shared) :
    RunByOwner threadId owner state pool := by
  obtain ⟨stored, marked, owners, _, entries, log, all⟩ := belongs
  exact ⟨stored, marked, owners, entries, log, fun entry listed => (all entry listed).2⟩

theorem belongs_silent (belongs : Belongs acts threadId owner state now) (idle : ¬ acts owner) :
    now.log = state.log ∧ now.saved = state.saved := by
  obtain ⟨_, _, _, saved, entries, log, all⟩ := belongs
  refine ⟨?_, saved.resolve_right idle⟩
  cases entries with
  | nil => rw [log, List.append_nil]
  | cons entry rest => exact absurd (all entry List.mem_cons_self).1 idle

theorem ownership_kept (platform : Platform) (config : ServerConfig) (marking : Marking config) (saver : SaverKind)
    (persists : config.checkpointer = some saver)
    (state : ServerState) (sequence : InSequence platform config state) (threadId : String)
    (stored : Stored state threadId) :
    ∃ owner, OwnershipKept platform config state threadId owner := by
  have durable := sequence_durable platform config marking saver persists state sequence
  obtain ⟨owner, marked, recorded⟩ := durable threadId stored
  have belongs : ∀ (context : RequestContext) (kind : RunKind) (body : RunCreate) (turns : List (Turn Api)),
      Belongs (fun acting => acting = body.assistantId) threadId owner state
        (requestRun platform config state context (runRequest kind threadId body) turns).shared := by
    intro context kind body turns
    obtain ⟨census, heeds⟩ := run_heeds platform config marking saver persists state durable context kind
      threadId body turns
    exact moves_belong owner state _ durable stored marked heeds.moved
  refine ⟨owner, marked, recorded, fun context kind body turns other => ?_, fun context kind body turns _ => ?_,
    fun context body turns written => ?_⟩
  · have kept := belongs context kind body turns
    obtain ⟨log, saved⟩ := belongs_silent kept (fun same => other same.symm)
    refine ⟨log, saved, kept.owners, fun answered => ?_⟩
    obtain ⟨census, heeds⟩ := run_heeds platform config marking saver persists state durable context kind
      threadId body turns
    obtain ⟨phase, ends, known⟩ := heeds_ends platform state _ census heeds ⟨0, false⟩ rfl answered
    rw [ends rfl] at known
    exact other (durable_marks _ (moves_keep_durable state _ durable heeds.moved) kept.stored kept.marked _ known)
  · exact belongs_run_by_owner _ (belongs context kind body turns)
  · obtain ⟨census, heeds⟩ := update_heeds platform config marking saver persists state durable context threadId
      body written turns
    exact belongs_run_by_owner _ (moves_belong owner state _ durable stored marked heeds.moved)

end Owners

def savedByOwner : ServerState :=
  (requestRun smallPlatform (smallServerConfig savingGraph (some ⟨true⟩) none) (smallState 2 Nat.two_pos) smallContext
    (runRequest .invoke "t" (runBy "a")) (List.replicate 11 ⟨0, none⟩)).shared

-- The process restarts, and only the saver has kept anything.
def recordLost : ServerState := { smallState 2 Nat.two_pos with saved := savedByOwner.saved }

theorem record_lost_in_sequence : InSequence smallPlatform (smallServerConfig savingGraph (some ⟨true⟩) none)
    recordLost := by
  refine .lost savedByOwner recordLost ?_ (fun _ => Or.inr rfl) rfl
  refine .request (smallState 2 Nat.two_pos) (.fresh _ rfl) _ _ _ (fun copies => copies) ?_
  intro task listed
  have finished : (requestRun smallPlatform (smallServerConfig savingGraph (some ⟨true⟩) none)
      (smallState 2 Nat.two_pos) smallContext (runRequest .invoke "t" (runBy "a"))
        (List.replicate 11 ⟨0, none⟩)).tasks = [(⟨0, false⟩, .ret ())] := rfl
  rw [finished] at listed
  cases List.mem_singleton.mp listed
  trivial

theorem record_lost_stored : Stored recordLost "t" := by
  have kept : recordLost.items "t" =
      [savedOnce (buildRunnableConfig "t" "a" none none)] := rfl
  exact ⟨_, kept ▸ List.mem_singleton_self _, rfl⟩

theorem saving_graph_marks : Marking (smallServerConfig savingGraph (some ⟨true⟩) none) :=
  small_graphs_write savingGraph _ _ _ _ (saving_graph_writes _ _ (fun config threadId assistantId marks named =>
    (saved_once_marker config threadId assistantId marks).trans (if_neg named)))

theorem ownership_kept_after_loss :
    ∃ owner, OwnershipKept smallPlatform (smallServerConfig savingGraph (some ⟨true⟩) none) recordLost "t" owner :=
  ownership_kept smallPlatform (smallServerConfig savingGraph (some ⟨true⟩) none) saving_graph_marks
    ⟨true⟩ rfl recordLost record_lost_in_sequence "t"
    record_lost_stored

end LangGraphServer
