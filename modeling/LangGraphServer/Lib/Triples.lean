import LangGraphServer.Lib.RelyGuarantee

set_option autoImplicit false

namespace Coroutine

variable {I : Interface} {State Id : Type}

-- A consumer that takes any item as long as the assertion holds. A generator that it
-- closes instead finds `gone`.
def Consumer.Passes (consumer : Consumer I State) (assertion gone : State → Prop) : Prop :=
  ∀ item more closed state, assertion state → (∀ after, assertion after → more after) →
    (∀ after, gone after → closed after) → consumer.accepts item more closed state

-- A generator that is closed ends with an exception.
def closedWith {α : Type} (gone : State → Prop) : Post I State α := fun outcome after => match outcome with
  | .ok _ => False
  | .error _ => gone after

namespace Discipline

variable {machine : Machine I State Id} (discipline : Discipline machine) {α β : Type}
    (consumer : Consumer I State) (id : Id)

-- However the program ends, it takes `pre` to `post`; when it is closed at a yield it
-- ends in `gone`.
def Carries (pre : State → Prop) (program : Coro I α) (post gone : State → Prop) : Prop :=
  ∀ state, pre state → discipline.wp consumer id program (fun _ => post) (closedWith gone) state

def Stable (assertion : State → Prop) : Prop :=
  ∀ state now, discipline.rely id state now → discipline.inv now → assertion state → assertion now

variable {consumer id} {pre mid post gone : State → Prop}

theorem wp_imp (program : Coro I α) (first second exit : Post I State α) (state : State)
    (safe : discipline.wp consumer id program first exit state) (imp : ∀ outcome after, first outcome after →
      second outcome after) :
    discipline.wp consumer id program second exit state :=
  discipline.wp_mono program consumer id first second exit exit state imp (fun _ _ closed => closed) safe

theorem carries_mono (program : Coro I α) (post' gone' : State → Prop)
    (carries : discipline.Carries consumer id pre program post gone)
    (imp : ∀ state, post state → post' state) (impGone : ∀ state, gone state → gone' state) :
    discipline.Carries consumer id pre program post' gone' := by
  intro state held
  apply discipline.wp_mono program consumer id _ _ _ _ state _ _ (carries state held)
  · intro outcome after
    exact imp after
  · intro outcome after closed
    cases outcome with
    | ok value => exact closed
    | error error => exact impGone after closed

theorem carries_done (program : Coro I α) (state : State)
    (carries : discipline.Carries consumer id pre program post (fun _ => False))
    (held : pre state) : discipline.wp consumer id program (fun _ _ => True) (fun _ _ => True) state :=
  discipline.wp_mono program consumer id _ _ _ _ state (fun _ _ _ => trivial) (fun _ _ _ => trivial)
    (carries state held)

theorem carries_ret (value : α) (imp : ∀ state, pre state → post state) :
    discipline.Carries consumer id pre (.ret value) post gone := fun state held => imp state held

theorem carries_raise (error : I.Error) (imp : ∀ state, pre state → post state) :
    discipline.Carries consumer id pre (.raise error : Coro I α) post gone := fun state held => imp state held

theorem carries_of_except (outcome : Except I.Error α) (imp : ∀ state, pre state → post state) :
    discipline.Carries consumer id pre (.ofExcept outcome) post gone := by
  cases outcome with
  | ok value => exact discipline.carries_ret value imp
  | error error => exact discipline.carries_raise error imp

theorem carries_void (program : Coro I α) (carries : discipline.Carries consumer id pre program post gone) :
    discipline.Carries consumer id pre program.void post gone := by
  intro state held
  apply discipline.wp_handle
  apply discipline.wp_mono program consumer id _ _ _ _ state _ _ (carries state held)
  · intro outcome after reached
    cases outcome with
    | ok value => exact reached
    | error error => exact reached
  · intro outcome after closed
    cases outcome with
    | ok value => exact closed.elim
    | error error => exact closed

theorem carries_except_bind (outcome : Except I.Error α) (next : α → Coro I β)
    (rest : ∀ value, outcome = .ok value → discipline.Carries consumer id pre (next value) post gone)
    (fails : ∀ state, pre state → post state) :
    discipline.Carries consumer id pre (.ofExcept outcome >>= next) post gone := by
  cases outcome with
  | ok value => exact rest value rfl
  | error error => exact discipline.carries_raise error fails

theorem carries_bind (program : Coro I α) (next : α → Coro I β)
    (first : discipline.Carries consumer id pre program mid gone)
    (rest : ∀ value, discipline.Carries consumer id mid (next value) post gone)
    (fails : ∀ state, mid state → post state) :
    discipline.Carries consumer id pre (program >>= next) post gone := by
  intro state held
  apply discipline.wp_bind
  apply discipline.wp_mono program consumer id _ _ _ _ state _ _ (first state held)
  · intro outcome after reached
    cases outcome with
    | ok value => exact rest value after reached
    | error error => exact fails after reached
  · intro outcome after closed
    cases outcome with
    | ok value => exact closed.elim
    | error error => exact closed

def Closes (id : Id) (gone : State → Prop) (program : Coro I α) : Prop :=
  ∀ state, gone state → discipline.wp .anything id program (closedWith gone) (closedWith gone) state

theorem closes_nothing (program : Coro I α) : discipline.Closes id (fun _ => False) program := fun _ held => held.elim

theorem carries_catch (program : Coro I α) (handler : I.Error → Coro I α)
    (first : discipline.Carries consumer id pre program mid gone) (returns : ∀ state, mid state → post state)
    (caught : ∀ error, discipline.Carries consumer id mid (handler error) post gone)
    (closing : ∀ error, discipline.Closes (machine.helper id) gone (handler error)) :
    discipline.Carries consumer id pre (program.tryCatch handler) post gone := by
  intro state held
  apply discipline.wp_handle
  apply discipline.wp_mono program consumer id _ _ _ _ state _ _ (first state held)
  · intro outcome after reached
    cases outcome with
    | ok value => exact returns after reached
    | error error => exact caught error after reached
  · intro outcome after closed
    cases outcome with
    | ok value => exact closed.elim
    | error error => exact closing error after closed

theorem wp_reraise (program : Coro I α) (handler : I.Error → Coro I α)
    (raises : ∀ error, ∃ other, handler error = .raise other) (after : Post I State α) (state : State)
    (alike : ∀ error other now, after (.error error) now → after (.error other) now)
    (safe : discipline.wp consumer id program after (closedWith (fun _ => False)) state) :
    discipline.wp consumer id (program.tryCatch handler) after (closedWith (fun _ => False)) state := by
  apply discipline.wp_handle
  apply discipline.wp_mono program consumer id _ _ _ _ state _ _ safe
  · intro outcome now reached
    cases outcome with
    | ok value => exact reached
    | error error =>
        obtain ⟨other, same⟩ := raises error
        show discipline.wp consumer id (handler error) after _ now
        rw [same]
        exact alike error other now reached
  · intro outcome now ended
    cases outcome with
    | ok value => exact ended.elim
    | error error => exact False.elim ended

theorem carries_finally (program : Coro I α) (cleanup : Coro I Unit)
    (first : discipline.Carries consumer id pre program mid gone)
    (cleans : discipline.Carries consumer id mid cleanup post gone)
    (closing : discipline.Carries .anything (machine.helper id) gone cleanup gone gone) :
    discipline.Carries consumer id pre (program.tryFinally cleanup) post gone := by
  intro state held
  apply discipline.wp_handle
  apply discipline.wp_mono program consumer id _ _ _ _ state _ _ (first state held)
  · intro outcome after reached
    apply discipline.wp_handle
    apply discipline.wp_mono cleanup consumer id _ _ _ _ after _ _ (cleans after reached)
    · intro cleaned later arrived
      cases cleaned with
      | ok value =>
          cases outcome with
          | ok value => exact arrived
          | error error => exact arrived
      | error error => exact arrived
    · intro cleaned later closed
      cases cleaned with
      | ok value => exact closed.elim
      | error error => exact closed
  · intro outcome after closed
    cases outcome with
    | ok value => exact closed.elim
    | error error =>
        apply discipline.wp_handle
        apply discipline.wp_mono cleanup .anything (machine.helper id) _ _ _ _ after _ _ (closing after closed)
        · intro cleaned later arrived
          cases cleaned with
          | ok value => exact arrived
          | error error => exact arrived
        · intro cleaned later ended
          cases cleaned with
          | ok value => exact ended.elim
          | error error => exact ended

theorem carries_yield (closed : I.Error) (item : I.Item) (passes : consumer.Passes pre gone) :
    discipline.Carries consumer id pre (Coro.yieldItem closed item) pre gone := by
  intro state held
  apply passes item _ _ state held
  · intro after reached
    exact reached
  · intro after ended
    exact ended

theorem carries_for_each (generator : Coro I α) (body : I.Item → Coro I Unit) (left : State → Prop)
    (iterates : discipline.Carries (discipline.eachItem consumer id body (fun _ => post) (closedWith gone)) id pre
      generator post left) :
    discipline.Carries consumer id pre (generator.forEach body) post gone := by
  intro state held
  apply discipline.wp_for_each
  apply discipline.wp_mono generator _ id _ _ _ _ state _ _ (iterates state held)
  · intro outcome after reached
    cases outcome with
    | ok value => exact reached
    | error error => exact reached
  · intro outcome after closed
    trivial

theorem passes_each_item (body : I.Item → Coro I Unit) (assertion left : State → Prop)
    (serves : ∀ item state, assertion state → discipline.wp consumer id (body item)
      (fun outcome after => match outcome with
        | .ok () => assertion after
        | .error _ => ∀ now, discipline.rely id after now → discipline.inv now → discipline.abandons id now →
            left now ∧ post now)
      (fun outcome after => match outcome with
        | .ok () => False
        | .error _ => ∀ now, discipline.rely (machine.helper id) after now → discipline.inv now →
            discipline.abandons (machine.helper id) now → left now ∧ gone now) state) :
    (discipline.eachItem consumer id body (fun _ => post) (closedWith gone)).Passes assertion left := by
  intro item more closed state held continues closes
  apply discipline.wp_mono (body item) consumer id _ _ _ _ state _ _ (serves item state held)
  · intro outcome after reached
    cases outcome with
    | ok value => exact continues after reached
    | error error =>
        intro now relied kept leaving
        obtain ⟨leaves, arrives⟩ := reached now relied kept leaving
        exact ⟨closes now leaves, arrives⟩
  · intro outcome after ended
    cases outcome with
    | ok value => exact ended
    | error error =>
        intro now relied kept leaving
        obtain ⟨leaves, arrives⟩ := ended now relied kept leaving
        exact ⟨closes now leaves, arrives⟩

structure Steps (id : Id) (op : I.Op) (pre post : State → Prop) : Prop where
  goes : ∀ now, discipline.inv now → pre now → discipline.permits id op none now →
    discipline.Allows id now (machine.perform id op now).1 ∧ post (machine.perform id op now).1
  strikes : ∀ now error, discipline.inv now → pre now → machine.interruptible id op error = true →
    discipline.permits id op (some error) now →
    discipline.Allows id now (machine.struck id op error now) ∧
      discipline.leaves id op (machine.struck id op error now) ∧ post (machine.struck id op error now)

theorem carries_perform (op : I.Op) (stable : discipline.Stable id pre) (steps : discipline.Steps id op pre post) :
    discipline.Carries consumer id pre (.perform op) post gone := by
  intro state held
  apply discipline.wp_perform
  · intro now relied kept permitted
    exact steps.goes now kept (stable state now relied kept held) permitted
  · intro now relied kept error possible permitted
    exact steps.strikes now error kept (stable state now relied kept held) possible permitted

theorem carries_uses (program : Coro I α) (allowed : I.Op → Prop) (stable : discipline.Stable id pre)
    (steps : ∀ op, allowed op → discipline.Steps id op pre pre) (uses : program.Uses allowed) :
    discipline.Carries consumer id pre program pre gone := by
  intro state held
  apply discipline.wp_uses program allowed pre consumer id _ state _ uses held
  constructor
  · exact stable
  · intro op now member kept reached permitted
    exact (steps op member).goes now kept reached permitted
  · intro op now error member kept reached possible permitted
    exact (steps op member).strikes now error kept reached possible permitted

theorem carries_await (op : I.Op) (resume : Except I.Error (I.Res op) → Coro I α) (stable : discipline.Stable id pre)
    (steps : discipline.Steps id op pre mid) (rest : ∀ answer, discipline.Carries consumer id mid
      (resume answer) post gone) :
    discipline.Carries consumer id pre (.await op resume) post gone := by
  intro state held now relied kept
  have still := stable state now relied kept held
  constructor
  · intro permitted
    obtain ⟨allowed, after⟩ := steps.goes now kept still permitted
    exact ⟨allowed, rest _ _ after⟩
  · intro error possible permitted
    obtain ⟨allowed, leaves, after⟩ := steps.strikes now error kept still possible permitted
    exact ⟨allowed, leaves, rest _ _ after⟩

theorem wp_silent (op : I.Op) (next : I.Res op → Coro I β) (after exit : Post I State β) (state : State)
    (stable : discipline.Stable id pre) (steps : discipline.Steps id op pre mid)
    (answers : ∀ now, ∃ value, (machine.perform id op now).2 = .ok value)
    (quiet : ∀ error, machine.interruptible id op error = false) (held : pre state)
    (rest : ∀ value now, mid now → discipline.wp consumer id (next value) after exit now) :
    discipline.wp consumer id (Coro.perform op >>= next) after exit state := by
  apply discipline.wp_bind
  apply discipline.wp_perform
  · intro now relied kept permitted
    obtain ⟨allowed, reached⟩ := steps.goes now kept (stable state now relied kept held) permitted
    obtain ⟨value, answered⟩ := answers now
    rw [answered]
    exact ⟨allowed, rest value _ reached⟩
  · intro now relied kept error possible
    cases (quiet error).symm.trans possible

theorem carries_silent (op : I.Op) (next : I.Res op → Coro I β) (stable : discipline.Stable id pre)
    (steps : discipline.Steps id op pre mid) (answers : ∀ now, ∃ value, (machine.perform id op now).2 = .ok value)
    (quiet : ∀ error, machine.interruptible id op error = false)
    (rest : ∀ value, discipline.Carries consumer id mid (next value) post gone) :
    discipline.Carries consumer id pre (Coro.perform op >>= next) post gone :=
  fun state held => discipline.wp_silent op next _ _ state stable steps answers quiet held rest

end Discipline

end Coroutine
