import LangGraphServer.Server.StoreRules

set_option autoImplicit false

namespace LangGraphServer

open Collections Coroutine

-- The tasks that race for one thread. A claim that returns is noted, and its run may then
-- write checkpoints.
inductive ClaimTask where
  | getOrCreate (metadata : Option Metadata)
  | resolve
  | claim (assistantId : String) (requestConfig : Option Config) (checkpointId : Option String)
      (graph : RunnableConfig → GraphCall)
  | setStatus (status : String) (moment : Moment)

def ClaimTask.program (platform : Platform) (config : ServerConfig) (context : RequestContext) (threadId : String) :
    ClaimTask → Coro Api Unit
  | .getOrCreate metadata => (getOrCreateThread platform config context (some threadId) metadata).void
  | .resolve => (getThreadAssistantId config threadId).void
  | .claim assistantId requestConfig checkpointId graph => do
      claimThreadAssistant config threadId assistantId
      perform (.note (.claimed threadId assistantId))
      let runnableConfig := buildRunnableConfig threadId assistantId requestConfig checkpointId
      ((graph runnableConfig).awaited runnableConfig).void
  | .setStatus status moment => setThreadStatus context threadId status moment

def claimTasks (platform : Platform) (config : ServerConfig) (threadId : String)
    (tasks : List (RequestContext × ClaimTask)) : List (TaskId × Coro Api Unit) :=
  tasks.zipIdx.map (fun task => (⟨task.2, false⟩, task.1.2.program platform config task.1.1 threadId))

structure SingleWinner (threadId : String) (marker : Option String) (state : ServerState) : Prop where
  recorded : ∀ assistantId, LogEntry.claimed threadId assistantId ∈ state.log →
    state.ownerOf threadId = some assistantId
  single : ∀ first second, LogEntry.claimed threadId first ∈ state.log →
    LogEntry.claimed threadId second ∈ state.log → first = second
  durable : ∀ assistantId owner, LogEntry.claimed threadId assistantId ∈ state.log → marker = some owner →
    assistantId = owner

section Race

variable (platform : Platform) (config : ServerConfig) (threadId : String) (marker : Option String)

structure RaceInvariant (state : ServerState) : Prop where
  untouched : state.ownerOf threadId = none → state.latestMarker config.checkpointer.isSome threadId = marker
  agrees : ∀ owner, state.ownerOf threadId = some owner → marker = none ∨ marker = some owner
  recorded : ∀ assistantId, LogEntry.claimed threadId assistantId ∈ state.log →
    state.ownerOf threadId = some assistantId

def KeepsOwner (before after : ServerState) : Prop :=
  ∀ owner, before.ownerOf threadId = some owner → after.ownerOf threadId = some owner

-- Nobody takes an owner away, and only a write that outlives its run is left behind.
def raceDiscipline : Discipline (serverMachine platform config.checkpointer.isSome) where
  inv := RaceInvariant config threadId marker
  rely := fun _ => KeepsOwner threadId
  guar := fun _ => KeepsOwner threadId
  permits := fun _ _ _ _ => True
  abandons := fun _ _ => True
  leaves := fun _ op state => match op with
    | .aput _ _ => ∃ owner, state.ownerOf threadId = some owner
    | .deleteCheckpoints _ => False
    | .release _ => False
    | _ => True
  rely_refl := fun _ _ _ owned => owned
  rely_trans := fun _ _ _ _ first second owner owned => second owner (first owner owned)

def RaceClaimable (claimed assistantId : String) (state : ServerState) : Prop :=
  claimed = threadId → state.ownerOf threadId = none → marker = none ∨ marker = some assistantId

def RaceOwned (assistantId : String) (state : ServerState) : Prop := state.ownerOf threadId = some assistantId

variable {config threadId marker}

theorem race_untouched (id : TaskId) (before after : ServerState) (inv : RaceInvariant config threadId marker before)
    (same : Untouched before after) : (raceDiscipline platform config threadId marker).Allows id before after := by
  constructor
  · constructor
    · rw [same.owners, untouched_latest_marker _ before after same]
      exact inv.untouched
    · rw [same.owners]
      exact inv.agrees
    · rw [same.owners, same.log]
      exact inv.recorded
  · intro owner owned
    exact (same.owners threadId).trans owned

theorem race_claim (claimed assistantId : String) (id : TaskId) (now : ServerState)
    (inv : RaceInvariant config threadId marker now) (may : RaceClaimable threadId marker claimed assistantId now) :
    (raceDiscipline platform config threadId marker).Allows id now
      (now.perform platform config.checkpointer.isSome id (.claimAssistant claimed assistantId)).1 := by
  rcases now.store.claim_assistant_cases claimed assistantId with ⟨_, _, owners⟩ | ⟨same, _⟩
  · have kept : KeepsOwner threadId now
        (now.perform platform config.checkpointer.isSome id (.claimAssistant claimed assistantId)).1 :=
      now.store.claim_assistant_keeps claimed assistantId threadId
    have after := owners threadId
    by_cases here : threadId = claimed
    · rw [if_pos here] at after
      constructor
      · constructor
        · intro missing
          cases missing.symm.trans after
        · intro owner owned
          cases after.symm.trans owned
          cases before : now.ownerOf threadId with
          | none => exact may here.symm before
          | some earlier =>
              have agreed := inv.agrees earlier before
              cases (kept earlier before).symm.trans after
              exact agreed
        · intro other entry
          exact kept other (inv.recorded other entry)
      · exact kept
    · rw [if_neg here] at after
      constructor
      · constructor
        · intro missing
          exact inv.untouched (after.symm.trans missing)
        · intro owner owned
          exact inv.agrees owner (after.symm.trans owned)
        · intro other entry
          exact kept other (inv.recorded other entry)
      · exact kept
  · have unchanged : (now.perform platform config.checkpointer.isSome id (.claimAssistant claimed assistantId)).1 =
      now := by
      simp only [ServerState.perform, same]
    rw [unchanged]
    exact race_untouched platform id now now inv (untouched_refl now)

theorem race_rules (id : TaskId) (assertion : ServerState → Prop)
    (lasts : ∀ before after, KeepsOwner threadId before after → assertion before → assertion after) :
    StoreRules (raceDiscipline platform config threadId marker) id assertion (RaceClaimable threadId marker) := by
  constructor
  · intro state now relied _ held
    exact lasts state now relied held
  · intro op plain
    apply plain_steps _ id assertion op plain
    · intro before after inv held same
      have allowed := race_untouched platform id before after inv same
      exact ⟨allowed, lasts before after allowed.guar held⟩
    · intro state
      cases plain with
      | getThread threadId => trivial
      | putThread thread => trivial
      | getAssistantId threadId => trivial
      | agetTuple lookup => trivial
      | alist lookup filter before limit => trivial
  · intro claimed assistantId
    constructor
    · intro now inv held _
      have allowed := race_claim platform claimed assistantId id now inv held.2
      exact ⟨allowed, lasts now _ allowed.guar held.1⟩
    · intro now error inv held _ _
      exact ⟨race_untouched platform id now now inv (untouched_refl now), trivial, held.1⟩
  · intro claimed assistantId state now relied _ may here unowned
    apply may here
    cases before : state.ownerOf threadId with
    | none => rfl
    | some owner => cases (relied owner before).symm.trans unowned
  · intro state claimed assistantId owned here unowned
    rw [here] at owned
    cases owned.symm.trans unowned
  · intro state claimed assistantId inv latest here unowned
    rw [here, inv.untouched unowned] at latest
    exact latest

theorem race_write (id : TaskId) (now after : ServerState) (assistantId : String)
    (inv : RaceInvariant config threadId marker now) (owned : now.ownerOf threadId = some assistantId)
    (owners : ∀ query, after.ownerOf query = now.ownerOf query) (log : after.log = now.log) :
    (raceDiscipline platform config threadId marker).Allows id now after := by
  constructor
  · constructor
    · intro missing
      cases (missing.symm.trans (owners threadId)).trans owned
    · rw [owners]
      exact inv.agrees
    · rw [owners, log]
      exact inv.recorded
  · intro owner before
    exact (owners threadId).trans before

theorem race_graph_steps (id : TaskId) (assistantId : String) (runnableConfig : RunnableConfig) (op : ServerOp)
    (graph : GraphOp runnableConfig (fun _ => True) op) :
    (raceDiscipline platform config threadId marker).Steps id op (RaceOwned threadId assistantId)
      (RaceOwned threadId assistantId) := by
  constructor
  · intro now inv owned _
    cases graph with
    | suspend => exact ⟨race_write platform id now now assistantId inv owned (fun _ => rfl) rfl, owned⟩
    | aput item _ =>
        obtain ⟨store, log, _⟩ := ServerState.aput_frame platform config.checkpointer.isSome id runnableConfig item now
        have owners : ∀ query, (now.perform platform config.checkpointer.isSome id
          (.aput runnableConfig item)).1.ownerOf query =
            now.ownerOf query := fun query => by rw [ServerState.ownerOf, ServerState.ownerOf, store]
        exact ⟨race_write platform id now _ assistantId inv owned owners log, (owners threadId).trans owned⟩
  · intro now error inv owned _ _
    cases graph with
    | suspend => exact ⟨race_write platform id now now assistantId inv owned (fun _ => rfl) rfl, trivial, owned⟩
    | aput item _ =>
        exact ⟨race_write platform id now now assistantId inv owned (fun _ => rfl) rfl, ⟨assistantId, owned⟩, owned⟩

theorem race_owned_stable (id : TaskId) (assistantId : String) :
    (raceDiscipline platform config threadId marker).Stable id (RaceOwned threadId assistantId) :=
  fun _ _ relied _ owned => relied assistantId owned

theorem race_task_safe (context : RequestContext) (task : ClaimTask) (id : TaskId) (state : ServerState) :
    (raceDiscipline platform config threadId marker).wp .anything id (task.program platform config context threadId)
      (fun _ _ => True) (fun _ _ => True) state := by
  have rules : StoreRules (raceDiscipline platform config threadId marker) id (fun _ => True)
      (RaceClaimable threadId marker) := race_rules platform id _ (fun _ _ _ held => held)
  cases task with
  | getOrCreate metadata =>
      apply Discipline.wp_void
      exact Discipline.carries_done _ _ state (rules.carries_plain _
        (get_or_create_thread_uses platform config context _ metadata)) trivial
  | resolve =>
      apply Discipline.wp_void
      apply Discipline.wp_imp _ _ _ _ _ state (rules.wp_get_thread_assistant_id threadId _ state trivial)
      intro outcome after held
      trivial
  | claim assistantId requestConfig checkpointId graph =>
      apply Discipline.wp_bind
      apply Discipline.wp_imp _ _ _ _ _ state (rules.wp_claim_thread_assistant threadId assistantId _ state trivial)
      intro outcome after claimed
      cases outcome with
      | error error => trivial
      | ok value =>
          have owned := claimed.2 rfl
          apply Discipline.wp_bind
          apply Discipline.wp_perform
          · intro now relied inv _
            have still := relied assistantId owned
            constructor
            · constructor
              · constructor
                · exact inv.untouched
                · exact inv.agrees
                · intro other entry
                  rcases List.mem_append.mp entry with earlier | new
                  · exact inv.recorded other earlier
                  · cases List.mem_singleton.mp new
                    exact still
              · intro owner before
                exact before
            · apply Discipline.wp_void
              exact Discipline.carries_done _ _ _ (Discipline.carries_uses _ _ _
                (race_owned_stable platform id assistantId) (race_graph_steps platform id assistantId _)
                (awaited_uses _ _ (graph _) (GraphCall.writes_any _))) still
          · intro now relied inv error possible _
            cases possible
  | setStatus status moment =>
      exact Discipline.carries_done _ _ state (rules.carries_plain _
        (set_thread_status_uses context threadId status moment)) trivial

theorem race_sound : (raceDiscipline platform config threadId marker).Sound := by
  constructor
  · intro first second
    exact ⟨fun before after allowed => allowed.guar, fun before after allowed => allowed.guar⟩
  · intro id op state inv leaves left listed
    cases op with
    | aput runnableConfig item =>
        obtain ⟨owner, owned⟩ := leaves
        rw [List.mem_singleton.mp listed]
        intro now relied kept
        have steps : (raceDiscipline platform config threadId marker).Steps ⟨id.request, true⟩
          (.aput runnableConfig item) (RaceOwned threadId owner) (RaceOwned threadId owner) :=
          race_graph_steps platform ⟨id.request, true⟩ owner runnableConfig _ (.aput item trivial)
        constructor
        · intro permitted
          exact ⟨(steps.goes now kept (relied owner owned) permitted).1, trivial⟩
        · intro error possible permitted
          obtain ⟨allowed, left, _⟩ := steps.strikes now error kept (relied owner owned) possible permitted
          exact ⟨allowed, left, trivial⟩
    | deleteCheckpoints query => exact leaves.elim
    | release lease => exact leaves.elim
    | getThread query => cases listed
    | putThread thread => cases listed
    | getAssistantId query => cases listed
    | claimAssistant query assistantId => cases listed
    | deleteThread query => cases listed
    | agetTuple lookup => cases listed
    | alist lookup filter before limit => cases listed
    | acquire query mutation => cases listed
    | send message => cases listed
    | suspend => cases listed
    | begin graphOf => cases listed
    | finish => cases listed
    | note entry => cases listed

end Race

theorem claim_has_one_winner (platform : Platform) (config : ServerConfig) (threadId : String)
    (tasks : List (RequestContext × ClaimTask)) (start : ServerState) (unowned : start.ownerOf threadId = none)
    (fresh : start.log = []) (turns : List (Turn Api)) :
    Transition.Always (serverMachine platform config.checkpointer.isSome).step
      (fun pool => SingleWinner threadId (start.latestMarker config.checkpointer.isSome threadId) pool.shared)
      ⟨start, claimTasks platform config threadId tasks⟩ turns := by
  let discipline := raceDiscipline platform config threadId (start.latestMarker config.checkpointer.isSome threadId)
  have safe : discipline.Safe ⟨start, claimTasks platform config threadId tasks⟩ := by
    constructor
    · constructor
      · intro _
        rfl
      · intro owner owned
        cases unowned.symm.trans owned
      · intro assistantId entry
        rw [fresh] at entry
        cases entry
    · intro task member
      obtain ⟨listed, _, rfl⟩ := List.mem_map.mp member
      exact race_task_safe platform listed.1.1 listed.1.2 _ start
    · apply List.pairwise_of_forall
      intro first second
      exact ⟨fun before after allowed => allowed.guar, fun before after allowed => allowed.guar⟩
  apply Transition.always_imp _ discipline.Safe
  · intro pool held
    constructor
    · exact held.inv.recorded
    · intro first second earlier later
      cases (held.inv.recorded first earlier).symm.trans (held.inv.recorded second later)
      rfl
    · intro assistantId owner claimed marked
      rcases held.inv.agrees assistantId (held.inv.recorded assistantId claimed) with unmarked | same
      · cases unmarked.symm.trans marked
      · cases same.symm.trans marked
        rfl
  · apply discipline.always_safe (race_sound platform) _ safe
    apply Transition.meets_of_forall
    intro pool turn
    exact ⟨fun _ _ _ _ => trivial, fun _ _ _ _ => trivial⟩

def smallRace : List (RequestContext × ClaimTask) :=
  [(smallContext, .getOrCreate none), (smallContext, .claim "a" none none (fun _ => .done (.dict []))),
    (smallContext, .claim "b" none none (fun _ => .done (.dict [])))]

def raceTurns : List (Turn Api) :=
  [⟨0, none⟩, ⟨0, none⟩, ⟨1, none⟩, ⟨0, none⟩, ⟨2, none⟩, ⟨1, none⟩, ⟨2, none⟩, ⟨2, none⟩, ⟨1, none⟩,
    ⟨2, none⟩, ⟨2, none⟩]

theorem claim_has_one_winner_small_race :
    Transition.Always (serverMachine smallPlatform true).step
        (fun pool => SingleWinner "t" none pool.shared)
        ⟨smallState 2 (by decide), claimTasks smallPlatform (smallServerConfig smallGraph (some ⟨true⟩) none) "t"
          smallRace⟩
        raceTurns ∧
      (Transition.run (serverMachine smallPlatform true).step
        ⟨smallState 2 (by decide), claimTasks smallPlatform (smallServerConfig smallGraph (some ⟨true⟩) none) "t"
          smallRace⟩
        raceTurns).shared.log = [.claimed "t" "b"] :=
  ⟨claim_has_one_winner smallPlatform (smallServerConfig smallGraph (some ⟨true⟩) none) "t" smallRace
    (smallState 2 (by decide)) rfl rfl raceTurns, by decide +kernel⟩

end LangGraphServer
