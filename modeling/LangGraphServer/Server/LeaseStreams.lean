import LangGraphServer.Server.LeaseTriples

set_option autoImplicit false

namespace LangGraphServer

open Collections Coroutine

section Streams

variable {config : ServerConfig} {scope : Scope} {platform : Platform} {request : Nat} {lease : RunLease}
    {mutation : Mutation} {assistantId : String} {consumer : Consumer Api ServerState} {gone : ServerState → Prop}

theorem carries_awaited (runnableConfig : RunnableConfig)
    (marks : MarksThread runnableConfig lease.threadId assistantId)
    (lasting : mutation ≠ .deletion) (call : GraphCall) (writes : call.Writes (WrittenUnder scope assistantId)) :
    (leaseDiscipline platform config scope).Carries consumer ⟨request, false⟩
      (Working scope request lease mutation assistantId true) (call.awaited runnableConfig)
      (Working scope request lease mutation assistantId true) gone :=
  Discipline.carries_uses _ _ _ (working_stable platform request lease mutation assistantId true lasting)
    (graph_steps platform runnableConfig marks) (awaited_uses runnableConfig _ call writes)

theorem carries_iterated (runnableConfig : RunnableConfig)
    (marks : MarksThread runnableConfig lease.threadId assistantId)
    (lasting : mutation ≠ .deletion) (stream : GraphStream) (writes : stream.Writes (WrittenUnder scope assistantId))
    (passes : consumer.Passes (Working scope request lease mutation assistantId true) (fun _ => False)) :
    (leaseDiscipline platform config scope).Carries consumer ⟨request, false⟩
      (Working scope request lease mutation assistantId true) (stream.iterated runnableConfig)
      (Working scope request lease mutation assistantId true) gone := by
  have stable : (leaseDiscipline platform config scope).Stable ⟨request, false⟩
      (Working scope request lease mutation assistantId true) := working_stable platform request lease mutation
        assistantId true lasting
  induction stream with
  | done => exact Discipline.carries_ret _ () (fun _ works => works)
  | fail error => exact Discipline.carries_raise _ _ (fun _ works => works)
  | suspend resume ih =>
      exact Discipline.carries_await _ _ _ stable (graph_steps platform runnableConfig marks _ .suspend)
        (fun answer => ih answer (writes answer))
  | write item resume ih =>
      exact Discipline.carries_await _ _ _ stable (graph_steps platform runnableConfig marks _ (.aput item writes.1))
        (fun answer => ih answer (writes.2 answer))
  | emit item next closing ih =>
      intro state works
      apply passes _ _ _ state works
      · exact ih writes.1
      · intro after ended
        exact ended.elim

theorem carries_mutating {α : Type} (graphOf : Option String) (program : Coro Api α) (lasting : mutation ≠ .deletion)
    (runs : ∀ named, mutation = .run named → named = assistantId)
    (inner : (leaseDiscipline platform config scope).Carries consumer ⟨request, false⟩
      (Working scope request lease mutation assistantId true) program
      (Working scope request lease mutation assistantId true) (fun _ => False)) :
    (leaseDiscipline platform config scope).Carries consumer ⟨request, false⟩
      (Working scope request lease mutation assistantId false) (mutating graphOf program)
      (Working scope request lease mutation assistantId false) gone := by
  apply Discipline.carries_silent _ _ _ (working_stable platform request lease mutation assistantId false lasting)
    (begin_steps platform graphOf runs)
  · intro now
    exact ⟨(), now.perform_begin_answers platform config.checkpointer.isSome ⟨request, false⟩ graphOf⟩
  · intro error
    rfl
  · intro value
    apply Discipline.carries_mono _ _ _ _ _ (fun _ works => works) (fun _ ended => False.elim ended)
    apply Discipline.carries_finally _ _ _ inner
    · exact Discipline.carries_perform _ _ (working_stable platform request lease mutation assistantId true lasting)
        (finish_steps platform)
    · intro state ended
      exact ended.elim

-- A consumer of a run's events. It may leave the run behind, but not while it is live.
structure Streams (scope : Scope) (request : Nat) (lease : RunLease) (mutation : Mutation) (assistantId : String)
    (consumer : Consumer Api ServerState) : Prop where
  idle : consumer.Passes (Working scope request lease mutation assistantId false) (LetGo scope request lease)
  live : consumer.Passes (Working scope request lease mutation assistantId true) (fun _ => False)

theorem streams_pass_on (post : ServerState → Prop)
    (streams : Streams scope request lease mutation assistantId consumer) :
    Streams scope request lease mutation assistantId ((leaseDiscipline platform config scope).eachItem consumer
      ⟨request, false⟩ (fun item => Coro.yieldItem (I := Api) .generatorExit item) (fun _ => post)
      (closedWith (LetGo scope request lease))) := by
  constructor
  · apply Discipline.passes_each_item
    intro item state works
    apply streams.idle item _ _ state works
    · exact fun after still => still
    · intro after ended now relied kept _
      have later := let_go_stable platform request lease after now relied kept ended
      exact ⟨later, later⟩
  · apply Discipline.passes_each_item
    intro item state works
    apply streams.live item _ _ state works
    · exact fun after still => still
    · exact fun after ended => ended.elim

theorem carries_pass_on (generator : Coro Api Unit) (pre post : ServerState → Prop)
    (generates : ∀ inner, Streams scope request lease mutation assistantId inner →
      (leaseDiscipline platform config scope).Carries inner ⟨request, false⟩ pre generator post
      (LetGo scope request lease))
    (streams : Streams scope request lease mutation assistantId consumer) :
    (leaseDiscipline platform config scope).Carries consumer ⟨request, false⟩ pre (passOn generator) post
      (LetGo scope request lease) :=
  Discipline.carries_for_each _ _ _ _ (generates _ (streams_pass_on post streams))

theorem carries_yield_event (text : String) (streams : Streams scope request lease mutation assistantId consumer) :
    (leaseDiscipline platform config scope).Carries consumer ⟨request, false⟩
      (Working scope request lease mutation assistantId false) (yieldEvent text)
      (Working scope request lease mutation assistantId false) (LetGo scope request lease) :=
  Discipline.carries_yield _ _ _ streams.idle

theorem carries_yield_formatted (formatted : Except ServerError String)
    (streams : Streams scope request lease mutation assistantId consumer) :
    (leaseDiscipline platform config scope).Carries consumer ⟨request, false⟩
      (Working scope request lease mutation assistantId false) (yieldFormatted formatted)
      (Working scope request lease mutation assistantId false) (LetGo scope request lease) := by
  cases formatted with
  | ok text => exact carries_yield_event text streams
  | error error => exact fun _ works => works

theorem closes_yield_formatted (formatted : Except ServerError String) (left : ServerState → Prop) (id : TaskId) :
    (leaseDiscipline platform config scope).Closes id left (yieldFormatted formatted) := by
  cases formatted with
  | ok text => exact fun _ _ => trivial
  | error error => exact fun _ ended => ended

theorem carries_stream_native_graph (context : RequestContext) (assistant : AssistantConfig) (graph : GraphRuntime)
    (payload : Metadata) (modes : List String) (requestConfig : Option Config) (checkpointId : Option String)
    (writes : graph.Writes (fun _ => True) (WrittenUnder scope))
    (runs : mutation = .run assistant.assistantId) (own : assistantId = assistant.assistantId)
    (streams : Streams scope request lease mutation assistantId consumer) :
    (leaseDiscipline platform config scope).Carries consumer ⟨request, false⟩
      (Working scope request lease mutation assistantId false)
      (streamNativeGraph platform context assistant graph payload lease.threadId modes requestConfig checkpointId)
      (Working scope request lease mutation assistantId false) (LetGo scope request lease) := by
  subst own
  have lasting : mutation ≠ .deletion := fun deletion => by cases runs.symm.trans deletion
  have marks := build_runnable_config_marks lease.threadId assistant.assistantId requestConfig checkpointId
  apply Discipline.carries_for_each _ _ _ (fun _ => False)
  apply carries_mutating _ _ lasting
  · intro named names
    cases names.symm.trans runs
    rfl
  · apply carries_iterated _ marks lasting _ (writes.astream _ _ _ _ _ marks)
    · apply Discipline.passes_each_item
      intro item state works
      cases item with
      | event text => exact works
      | raw item =>
          rw [streamItem]
          split
          · apply streams.live _ _ _ state works
            · exact fun after still => still
            · exact fun after ended => ended.elim
          · exact works
          · intro now relied kept leaving
            have still := working_stable platform request lease mutation assistant.assistantId true lasting state now
              relied kept works
            cases leaving _ still.found

theorem carries_plain_idle {α : Type} (lasting : mutation ≠ .deletion) (program : Coro Api α)
    (uses : program.Uses Plain) :
    (leaseDiscipline platform config scope).Carries consumer ⟨request, false⟩
      (Working scope request lease mutation assistantId false) program
      (Working scope request lease mutation assistantId false) gone :=
  (lease_rules platform ⟨request, false⟩ _ (working_stable platform request lease mutation assistantId false lasting)
    (working_survives false)).carries_plain program uses

theorem carries_plain_gone {α : Type} (program : Coro Api α) (uses : program.Uses Plain) :
    (leaseDiscipline platform config scope).Carries consumer ⟨request, true⟩ (LetGo scope request lease) program
      (LetGo scope request lease) gone :=
  (lease_rules platform ⟨request, true⟩ _ (let_go_stable platform request lease) let_go_survives).carries_plain
    program uses

theorem carries_stream_graph_response (context : RequestContext) (assistant : AssistantConfig) (inputData : Metadata)
    (graph : GraphRuntime) (modes : List String) (requestConfig : Option Config) (checkpointId : Option String)
    (writes : graph.Writes (fun _ => True) (WrittenUnder scope))
    (runs : mutation = .run assistant.assistantId) (own : assistantId = assistant.assistantId)
    (streams : Streams scope request lease mutation assistantId consumer) :
    (leaseDiscipline platform config scope).Carries consumer ⟨request, false⟩
      (Working scope request lease mutation assistantId false)
      (streamGraphResponse platform context assistant inputData lease.threadId graph modes requestConfig checkpointId)
      (Working scope request lease mutation assistantId false) (LetGo scope request lease) := by
  have lasting : mutation ≠ .deletion := fun deletion => by cases runs.symm.trans deletion
  have same : ∀ state, Working scope request lease mutation assistantId false state →
      Working scope request lease mutation assistantId false state := fun _ works => works
  apply Discipline.carries_bind _ _ _ (carries_yield_formatted _ streams) _ same
  intro _
  apply Discipline.carries_bind _ _ _
    (carries_plain_idle lasting _ (set_thread_status_uses context lease.threadId "busy" .busy)) _ same
  intro _
  apply Discipline.carries_finally _ _ _ _
    (carries_plain_idle lasting _ (set_thread_status_uses context lease.threadId "idle" .idle))
    (carries_plain_gone _ (set_thread_status_uses context lease.threadId "idle" .idle))
  apply Discipline.carries_catch _ _ _ _ same
  · intro error
    rw [streamFailure]
    split
    · exact carries_yield_formatted _ streams
    · split
      · exact carries_yield_formatted _ streams
      · exact Discipline.carries_raise _ _ same
  · intro error
    rw [streamFailure]
    split
    · exact closes_yield_formatted _ _ _
    · split
      · exact closes_yield_formatted _ _ _
      · exact fun _ ended => ended
  · apply Discipline.carries_bind _ _ _ (Discipline.carries_of_except _ _ same) _ same
    intro payload
    apply Discipline.carries_bind _ _ _ (carries_pass_on _ _ _ _ streams) _ same
    · intro inner passed
      exact carries_stream_native_graph context assistant graph payload _ requestConfig checkpointId
        writes runs own passed
    · intro _
      exact carries_yield_formatted _ streams

theorem carries_with_timeout {α : Type} (id : TaskId) (seconds : Option Rat) (program : Coro Api α)
    (pre post : ServerState → Prop) (carries : (leaseDiscipline platform config scope).Carries consumer id pre
      program post gone) :
    (leaseDiscipline platform config scope).Carries consumer id pre (withTimeout seconds program) post gone := by
  cases seconds with
  | none => exact carries
  | some seconds =>
      apply Discipline.carries_catch _ _ _ carries (fun _ reached => reached)
      · intro error
        split
        · exact Discipline.carries_raise _ _ (fun _ reached => reached)
        · exact Discipline.carries_raise _ _ (fun _ reached => reached)
      · intro error
        split
        · exact fun _ ended => ended
        · exact fun _ ended => ended

theorem carries_run_with_lease (generator : Coro Api Unit)
    (generates : ∀ inner, Streams scope request lease mutation assistantId inner →
      (leaseDiscipline platform config scope).Carries inner ⟨request, false⟩
        (Working scope request lease mutation assistantId false) generator
        (Working scope request lease mutation assistantId false) (LetGo scope request lease))
    (streams : Streams scope request lease mutation assistantId consumer) :
    (leaseDiscipline platform config scope).Carries consumer ⟨request, false⟩
      (Working scope request lease mutation assistantId false) (runWithLease platform config generator lease)
      (Ours scope request lease) (LetGo scope request lease) := by
  have same : ∀ state, Working scope request lease mutation assistantId false state →
      Working scope request lease mutation assistantId false state := fun _ works => works
  have passed : (leaseDiscipline platform config scope).Carries consumer ⟨request, false⟩
      (Working scope request lease mutation assistantId false) (passOn (passOn generator))
      (Working scope request lease mutation assistantId false) (LetGo scope request lease) :=
    carries_pass_on _ _ _ (fun inner passes => carries_pass_on _ _ _ generates passes) streams
  apply Discipline.carries_finally
  · apply Discipline.carries_catch _ _ _ (carries_with_timeout _ _ _ _ _ passed) same
    · intro error
      split
      · exact carries_yield_formatted _ streams
      · exact Discipline.carries_raise _ _ same
    · intro error
      split
      · exact closes_yield_formatted _ _ _
      · exact fun _ ended => ended
  · intro state works
    exact Discipline.carries_perform _ _ (ours_stable platform request lease) (release_steps platform) state
      (working_ours state works)
  · exact Discipline.carries_perform _ _ (let_go_stable platform request lease) (helper_release_steps platform)

def Left (request : Nat) (lease : RunLease) (mutation : Mutation) (live : Bool) (state : ServerState) : Prop :=
  state.progress.get? request = some ⟨lease, mutation, live, true⟩

theorem left_let_go (state : ServerState) (left : Left request lease mutation false state) :
    LetGo scope request lease state := ⟨_, left, rfl, rfl, fun alive => by cases alive⟩

theorem left_ours (state : ServerState) (left : Left request lease mutation false state) :
    Ours scope request lease state := ⟨_, left, rfl, fun alive => by cases alive⟩

theorem wp_send (live : Bool) (lasting : mutation ≠ .deletion) (message : AsgiMessage)
    (exit : Post Api ServerState Unit)
    (state : ServerState) (works : Working scope request lease mutation assistantId live state) :
    (leaseDiscipline platform config scope).wp consumer ⟨request, false⟩ (perform (.send message))
      (fun outcome after => match outcome with
        | .ok _ => Working scope request lease mutation assistantId live after
        | .error _ => Left request lease mutation live after) exit state := by
  apply Discipline.wp_perform
  · intro now relied inv _
    have still := working_stable platform request lease mutation assistantId live lasting state now relied inv works
    exact ⟨lease_untouched platform _ now now inv (untouched_refl now), still⟩
  · intro now relied inv error _ _
    have still := working_stable platform request lease mutation assistantId live lasting state now relied inv works
    obtain ⟨allowed, after⟩ := given_step platform ⟨request, false⟩ now _ inv still.found (fun helps => by cases helps)
    exact ⟨allowed, trivial, after⟩

theorem send_steps_ours (message : AsgiMessage) :
    (leaseDiscipline platform config scope).Steps ⟨request, false⟩ (.send message) (Ours scope request lease)
      (Ours scope request lease) := by
  constructor
  · intro now inv ours _
    exact ⟨lease_untouched platform _ now now inv (untouched_refl now), ours⟩
  · intro now error inv ours _ _
    obtain ⟨progress, found, own, settled⟩ := ours
    obtain ⟨allowed, after⟩ := given_step platform ⟨request, false⟩ now progress inv found (fun helps => by cases helps)
    exact ⟨allowed, trivial, _, after, own, settled⟩

theorem streams_send (lasting : mutation ≠ .deletion) :
    Streams scope request lease mutation assistantId ((leaseDiscipline platform config scope).eachItem .anything
      ⟨request, false⟩ sendItem (fun _ => Ours scope request lease) (closedWith (fun _ => False))) := by
  constructor
  · apply Discipline.passes_each_item
    intro item state works
    cases item with
    | raw item => exact works
    | event text =>
        apply Discipline.wp_imp _ _ _ _ _ state (wp_send false lasting (.body text) _ state works)
        intro outcome after sent
        cases outcome with
        | ok value => exact sent
        | error error =>
            intro now relied _ _
            obtain ⟨live, found, same⟩ := Undisturbed.kept relied _ sent
            have left : Left request lease mutation false now := by
              rcases same with still | ⟨_, ended⟩
              · rw [still] at found
                exact found
              · rw [ended] at found
                exact found
            exact ⟨left_let_go now left, left_ours now left⟩
  · apply Discipline.passes_each_item
    intro item state works
    cases item with
    | raw item => exact works
    | event text =>
        apply Discipline.wp_imp _ _ _ _ _ state (wp_send true lasting (.body text) _ state works)
        intro outcome after sent
        cases outcome with
        | ok value => exact sent
        | error error =>
            intro now relied _ leaving
            obtain ⟨live, found, same⟩ := Undisturbed.kept relied _ sent
            rcases same with still | ⟨deletion, _⟩
            · rw [still] at found
              cases leaving _ found
            · exact absurd deletion lasting

theorem carries_respond (body : Coro Api Unit) (lasting : mutation ≠ .deletion)
    (streams : ∀ inner, Streams scope request lease mutation assistantId inner →
      (leaseDiscipline platform config scope).Carries inner ⟨request, false⟩
        (Working scope request lease mutation assistantId false) body (Ours scope request lease)
        (LetGo scope request lease)) :
    (leaseDiscipline platform config scope).Carries .anything ⟨request, false⟩
      (Working scope request lease mutation assistantId false) (respond platform body (perform (.release lease)))
      (Ours scope request lease) (fun _ => False) := by
  have same : ∀ state, Ours scope request lease state → Ours scope request lease state := fun _ ours => ours
  have stable : (leaseDiscipline platform config scope).Stable ⟨request, false⟩ (Ours scope request lease) :=
    ours_stable platform request lease
  apply Discipline.carries_bind _ _ _ _ (fun _ => Discipline.carries_perform _ _ stable (release_steps platform)) same
  apply Discipline.carries_catch _ _ _ _ same
  · intro error
    split
    · exact Discipline.carries_ret _ () same
    · exact Discipline.carries_raise _ _ same
  · intro error
    exact Discipline.closes_nothing _ _
  · intro state works
    apply Discipline.wp_bind
    apply Discipline.wp_imp _ _ _ _ _ state (wp_send false lasting .start _ state works)
    intro outcome after sent
    cases outcome with
    | error error => exact left_ours after sent
    | ok value =>
        apply Discipline.carries_bind _ _ _ (Discipline.carries_for_each _ _ _ _ (streams _ (streams_send lasting)))
          _ same after sent
        intro _
        exact Discipline.carries_perform _ _ stable (send_steps_ours (.finish))

end Streams

end LangGraphServer
