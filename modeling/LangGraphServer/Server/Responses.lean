import LangGraphServer.Server.Footprint
import LangGraphServer.Server.RunTranscripts

set_option autoImplicit false

namespace LangGraphServer

open Collections Coroutine

def ServerOp.sent : ServerOp → Option AsgiMessage
  | .send message => some message
  | _ => none

def received {σ α : Type} (oracle : Coro.Oracle Api σ) (start : σ) (program : Coro Api α) : List AsgiMessage :=
  (Coro.asked oracle start program).filterMap ServerOp.sent

theorem graph_steps_silent (threadId : String) (op : ServerOp) (steps : GraphSteps threadId op) : op.sent = none := by
  cases steps <;> rfl

theorem stream_steps_silent (threadId : String) (op : ServerOp) (steps : StreamSteps threadId op) : op.sent = none := by
  cases steps with
  | graph steps => exact graph_steps_silent threadId op steps
  | plain plain => cases plain <;> rfl

section Responses

variable {σ : Type} (platform : Platform) (config : ServerConfig) (oracle : Coro.Oracle Api σ)

theorem with_timeout_passes {α : Type} (program : Coro Api α) (state : σ) (error : ServerError)
    (other : error ≠ .cancelled .timeout) (failed : (Coro.converse oracle state program).outcome = .error error) :
    Coro.converse oracle state (withTimeout config.runTimeoutSeconds program) = Coro.converse oracle state program := by
  cases config.runTimeoutSeconds with
  | none => rfl
  | some seconds =>
      rw [withTimeout, Coro.converse_catch_error (I := Api) oracle program _ state error failed, if_neg other]
      simp only [raise, Coro.converse, List.append_nil]
      rw [← failed]

theorem with_timeout_state (program : Coro Api Unit) (state : σ) :
    (Coro.converse oracle state (withTimeout config.runTimeoutSeconds program)).state =
      (Coro.converse oracle state program).state := by
  cases config.runTimeoutSeconds with
  | none => rfl
  | some seconds =>
      rw [withTimeout]
      cases ended : (Coro.converse oracle state program).outcome with
      | ok value => rw [Coro.converse_catch_ok (I := Api) oracle program _ state value ended]
      | error error =>
          rw [Coro.converse_catch_error (I := Api) oracle program _ state error ended]
          dsimp only
          split
          · rfl
          · rfl

theorem yield_formatted_state (formatted : Except ServerError String) (state : σ) :
    (Coro.converse oracle state (yieldFormatted formatted)).state = state := by
  cases formatted with
  | ok text => rfl
  | error error => rfl

theorem converse_perform (op : ServerOp) (state : σ) :
    Coro.converse oracle state (perform op) = ⟨[], (oracle state op).2, (oracle state op).1⟩ := by
  show Coro.converse oracle (oracle state op).1 (Coro.ofExcept (oracle state op).2) = _
  generalize (oracle state op).2 = answer
  cases answer with
  | ok value => rfl
  | error error => rfl

theorem run_with_lease_state (generator : Coro Api Unit) (lease : RunLease) (start : σ) :
    (Coro.converse oracle start (runWithLease platform config generator lease)).state =
      (oracle (Coro.converse oracle start generator).state (.release lease)).1 := by
  rw [runWithLease, Coro.converse_finally, converse_perform]
  have same := with_timeout_state config oracle (passOn (passOn generator)) start
  rw [converse_passed_on, converse_passed_on] at same
  cases ended : (Coro.converse oracle start
    (withTimeout config.runTimeoutSeconds (passOn (passOn generator)))).outcome with
  | ok value =>
      rw [Coro.converse_catch_ok (I := Api) oracle _ _ start value ended]
      exact congrArg (fun state => (oracle state (.release lease)).1) same
  | error error =>
      rw [Coro.converse_catch_error (I := Api) oracle _ _ start error ended]
      refine congrArg (fun state => (oracle state (.release lease)).1) (Eq.trans ?_ same)
      dsimp only
      split
      · exact yield_formatted_state oracle _ _
      · rfl

theorem run_with_lease_ends (generator : Coro Api Unit) (lease : RunLease) (start : σ)
    (ended : (Coro.converse oracle start generator).outcome = .ok ())
    (releases : ∀ state, (oracle state (.release lease)).2 = .ok ()) :
    (Coro.converse oracle start (runWithLease platform config generator lease)).outcome = .ok () ∧
      (Coro.converse oracle start (runWithLease platform config generator lease)).items =
        (Coro.converse oracle start generator).items := by
  have passed : Coro.converse oracle start (passOn (passOn generator)) = Coro.converse oracle start generator := by
    rw [converse_passed_on, converse_passed_on]
  have timed : Coro.converse oracle start (withTimeout config.runTimeoutSeconds (passOn (passOn generator))) =
      Coro.converse oracle start (passOn (passOn generator)) := by
    cases config.runTimeoutSeconds with
    | none => rfl
    | some seconds =>
        rw [withTimeout, Coro.converse_catch_ok (I := Api) oracle _ _ start () (by rw [passed, ended]), passed, ← ended]
  have ended' := ended
  rw [← passed, ← timed] at ended'
  rw [runWithLease, Coro.converse_finally, converse_perform, releases,
    Coro.converse_catch_ok (I := Api) oracle _ _ start () ended', timed, passed]
  exact ⟨rfl, List.append_nil _⟩

def bodyOf : StreamItem → List AsgiMessage
  | .event text => [.body text]
  | .raw _ => []

theorem send_item_taken (sends : ∀ state message, oracle state (.send message) = (state, .ok ()))
    (item : StreamItem) (state : σ) :
    (Coro.converse oracle state (sendItem item)).outcome = .ok () ∧
    (Coro.converse oracle state (sendItem item)).state = state := by
  cases item with
  | raw raw => exact ⟨rfl, rfl⟩
  | event text =>
      rw [sendItem, converse_perform, sends]
      exact ⟨rfl, rfl⟩

theorem send_item_gives (item : StreamItem) (state : σ) :
    (Coro.asked oracle state (sendItem item)).filterMap ServerOp.sent = bodyOf item := by
  cases item with
  | raw raw => rfl
  | event text =>
      show (_ :: Coro.asked oracle _ (Coro.ofExcept _)).filterMap ServerOp.sent = _
      generalize (oracle state (ServerOp.send (.body text))).2 = answer
      cases answer with
      | ok value => rfl
      | error error => rfl

def sending (body : Coro Api Unit) : Coro Api Unit := do
  perform (.send .start)
  body.forEach sendItem
  perform (.send .finish)

theorem received_handle {α β : Type} (program : Coro Api α) (next : Except ServerError α → Coro Api β) (state : σ) :
    received oracle state (program.handle next) = received oracle state program ++
      received oracle (Coro.converse oracle state program).state
        (next (Coro.converse oracle state program).outcome) := by
  rw [received, Coro.asked_handle, List.filterMap_append]
  rfl

theorem received_last {α β : Type} (program : Coro Api α) (next : Except ServerError α → Coro Api β)
    (silent : ∀ outcome now, received oracle now (next outcome) = []) (state : σ) :
    received oracle state (program.handle next) = received oracle state program := by
  rw [received_handle, silent, List.append_nil]

theorem received_silent {α : Type} (program : Coro Api α)
    (silent : program.Awaits (fun op : ServerOp => op.sent = none)) (state : σ) :
    received oracle state program = [] := by
  apply List.filterMap_eq_nil_iff.mpr
  intro op member
  exact Coro.asked_awaits (I := Api) oracle _ program silent state op member

theorem received_perform (op : ServerOp) (state : σ) : received oracle state (perform op) = op.sent.toList := by
  show (op :: Coro.asked oracle _ (Coro.ofExcept (oracle state op).2)).filterMap ServerOp.sent = _
  generalize (oracle state op).2 = answer
  cases given : op.sent with
  | none => cases answer <;> exact List.filterMap_cons_none given
  | some message => cases answer <;> exact List.filterMap_cons_some given

theorem sending_ends (sends : ∀ state message, oracle state (.send message) = (state, .ok ()))
    (body : Coro Api Unit) (state : σ) :
    (Coro.converse oracle state (sending body)).state = (Coro.converse oracle state body).state ∧
      (Coro.converse oracle state (sending body)).outcome = (Coro.converse oracle state body).outcome := by
  obtain ⟨outcome, after⟩ := Coro.converse_for_each_taken (I := Api) oracle body sendItem
    (send_item_taken oracle sends) state
  rw [map_unit] at outcome
  have sent : ∀ message now, Coro.converse oracle now (perform (.send message)) = ⟨[], .ok (), now⟩ := by
    intro message now
    rw [converse_perform, sends]
  rw [sending, Coro.converse_bind_ok (I := Api) oracle _ _ state ()
    (congrArg Coro.Dialogue.outcome (sent .start state)), sent]
  cases ended : (Coro.converse oracle state body).outcome with
  | ok value =>
      rw [ended] at outcome
      rw [Coro.converse_bind_ok (I := Api) oracle _ _ state () outcome, after, sent]
      exact ⟨rfl, rfl⟩
  | error error =>
      rw [ended] at outcome
      rw [Coro.converse_bind_error (I := Api) oracle _ _ state error outcome, after]
      exact ⟨rfl, rfl⟩

theorem sending_received (sends : ∀ state message, oracle state (.send message) = (state, .ok ()))
    (body : Coro Api Unit) (silent : body.Awaits (fun op : ServerOp => op.sent = none)) (state : σ)
    (ended : (Coro.converse oracle state body).outcome = .ok ()) :
    received oracle state (sending body) =
      .start :: ((Coro.converse oracle state body).items.flatMap bodyOf ++ [.finish]) := by
  have looped : received oracle state (body.forEach sendItem) = (Coro.converse oracle state body).items.flatMap
    bodyOf :=
    Coro.asked_for_each (I := Api) oracle ServerOp.sent bodyOf body sendItem silent (send_item_taken oracle sends)
      (send_item_gives oracle) state
  obtain ⟨outcome, _⟩ := Coro.converse_for_each_taken (I := Api) oracle body sendItem
    (send_item_taken oracle sends) state
  rw [ended] at outcome
  have rest : received oracle state (body.forEach sendItem >>= fun _ => perform (.send .finish)) =
      (Coro.converse oracle state body).items.flatMap bodyOf ++ [.finish] := by
    show received oracle state ((body.forEach sendItem).handle _) = _
    rw [received_handle, looped, outcome]
    exact congrArg (_ ++ ·) (received_perform oracle (.send .finish) _)
  show received oracle state ((perform (.send .start)).handle _) = _
  rw [received_handle, received_perform, converse_perform, sends]
  exact congrArg (AsgiMessage.start :: ·) rest

def absorbing (error : ServerError) : Coro Api Unit := if platform.absorbs error = true then pure () else raise error

theorem respond_parts (body background : Coro Api Unit) :
    respond platform body background = (sending body).tryCatch (absorbing platform) >>= fun _ => background := rfl

-- A response whose sending ends well runs its background task; one whose sending fails runs it
-- when the response absorbs the failure.
theorem respond_ends (sends : ∀ state message, oracle state (.send message) = (state, .ok ()))
    (body background : Coro Api Unit) (state : σ) (ended : (Coro.converse oracle state body).outcome = .ok ()) :
    (Coro.converse oracle state (respond platform body background)).state =
        (Coro.converse oracle (Coro.converse oracle state body).state background).state ∧
      (Coro.converse oracle state (respond platform body background)).outcome =
        (Coro.converse oracle (Coro.converse oracle state body).state background).outcome ∧
      received oracle state (respond platform body background) = received oracle state (sending body) ++
        received oracle (Coro.converse oracle state body).state background := by
  obtain ⟨after, outcome⟩ := sending_ends oracle sends body state
  rw [ended] at outcome
  have caught := Coro.converse_catch_ok (I := Api) oracle (sending body) (absorbing platform) state () outcome
  have whole := Coro.converse_bind_ok (I := Api) oracle _ (fun _ => background) state ()
    (congrArg Coro.Dialogue.outcome caught)
  rw [respond_parts, whole, caught, after]
  refine ⟨rfl, rfl, ?_⟩
  show received oracle state (((sending body).tryCatch (absorbing platform)).handle _) = _
  rw [received_handle, caught, Coro.tryCatch, received_handle, outcome, after]
  show _ ++ [] ++ _ = _
  rw [List.append_nil]

theorem respond_fails (sends : ∀ state message, oracle state (.send message) = (state, .ok ()))
    (body background : Coro Api Unit)
    (state : σ) (error : ServerError) (failed : (Coro.converse oracle state body).outcome = .error error) :
    (Coro.converse oracle state (respond platform body background)).state = (Coro.converse oracle state body).state ∨
      (Coro.converse oracle state (respond platform body background)).state =
        (Coro.converse oracle (Coro.converse oracle state body).state background).state := by
  obtain ⟨after, outcome⟩ := sending_ends oracle sends body state
  rw [failed] at outcome
  have caught := Coro.converse_catch_error (I := Api) oracle (sending body) (absorbing platform) state error outcome
  rw [after, absorbing] at caught
  rw [respond_parts]
  by_cases absorbed : platform.absorbs error = true
  · rw [if_pos absorbed] at caught
    have whole := Coro.converse_bind_ok (I := Api) oracle _ (fun _ => background) state ()
      (congrArg Coro.Dialogue.outcome caught)
    right
    rw [whole, caught]
    rfl
  · rw [if_neg absorbed] at caught
    have whole := Coro.converse_bind_error (I := Api) oracle _ (fun _ => background) state error
      (congrArg Coro.Dialogue.outcome caught)
    left
    rw [whole, caught]
    rfl

end Responses

end LangGraphServer
