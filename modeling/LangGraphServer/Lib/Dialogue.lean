import LangGraphServer.Lib.Coroutine

set_option autoImplicit false

namespace Coroutine

namespace Coro

variable {I : Interface} {σ α β : Type}

-- What surrounds a coroutine: it answers every await, and may remember what it was asked.
abbrev Oracle (I : Interface) (σ : Type) := σ → (op : I.Op) → σ × Except I.Error (I.Res op)

-- A generator whose consumer asks for every item: what it yields, how it ends, and what has
-- become of its surroundings.
structure Dialogue (I : Interface) (σ α : Type) where
  items : List I.Item
  outcome : Except I.Error α
  state : σ

def converse (oracle : Oracle I σ) {α : Type} : σ → Coro I α → Dialogue I σ α
  | state, .ret value => ⟨[], .ok value, state⟩
  | state, .raise error => ⟨[], .error error, state⟩
  | state, .await op resume => converse oracle (oracle state op).1 (resume (oracle state op).2)
  | state, .yield item next _ =>
      let rest := converse oracle state next
      ⟨item :: rest.items, rest.outcome, rest.state⟩
  | state, .abandon _ rest => converse oracle state rest

def raised (error : Option I.Error) : Except I.Error Unit :=
  match error with
  | some error => .error error
  | none => .ok ()

section Converse

variable (oracle : Oracle I σ)

theorem converse_handle (program : Coro I α) (next : Except I.Error α → Coro I β) (state : σ) :
    converse oracle state (program.handle next) =
      ⟨(converse oracle state program).items ++
          (converse oracle (converse oracle state program).state (next (converse oracle state program).outcome)).items,
        (converse oracle (converse oracle state program).state (next (converse oracle state program).outcome)).outcome,
        (converse oracle (converse oracle state program).state
          (next (converse oracle state program).outcome)).state⟩ := by
  induction program generalizing state with
  | ret value => rfl
  | raise error => rfl
  | await op resume ih => exact ih (oracle state op).2 next (oracle state op).1
  | yield item more closing moreIh _ =>
      rw [handle, converse, moreIh]
      rfl
  | abandon left rest _ restIh => exact restIh next state

theorem converse_uses (allowed : I.Op → Prop) (program : Coro I α) (uses : program.Uses allowed) (state : σ) :
    (converse oracle state program).items = [] := by
  induction program generalizing state with
  | ret value => rfl
  | raise error => rfl
  | await op resume ih => exact ih _ (uses.2 _) _
  | yield item more closing => exact uses.elim
  | abandon left rest => exact uses.elim

theorem converse_for_each_items (generator : Coro I α) (body : I.Item → Coro I Unit) (made : I.Item → Prop)
    (makes : ∀ item state, ∀ yielded ∈ (converse oracle state (body item)).items, made yielded) (state : σ) :
    ∀ yielded ∈ (converse oracle state (generator.forEach body)).items, made yielded := by
  induction generator generalizing state with
  | ret value =>
      intro yielded member
      cases member
  | raise error =>
      intro yielded member
      cases member
  | await op resume ih => exact ih _ _
  | yield item more closing moreIh _ =>
      intro yielded member
      rw [forEach, converse_handle] at member
      rcases List.mem_append.mp member with first | rest
      · exact makes item state yielded first
      · generalize (converse oracle state (body item)).outcome = outcome at rest
        cases outcome with
        | ok value => exact moreIh _ yielded rest
        | error error => cases rest
  | abandon left rest _ restIh => exact restIh state

-- A loop whose body awaits nothing ends with what the body raises at the first item that it
-- refuses, and otherwise as its generator does.
theorem converse_for_each_outcome (generator : Coro I α) (body : I.Item → Coro I Unit)
    (refuses : I.Item → Option I.Error) (still : ∀ item state, (converse oracle state (body item)).state = state)
    (taken : ∀ item state, (converse oracle state (body item)).outcome = raised (refuses item)) (state : σ) :
    (converse oracle state (generator.forEach body)).outcome =
      match (converse oracle state generator).items.findSome? refuses with
      | some error => .error error
      | none => (converse oracle state generator).outcome.map (fun _ => ()) := by
  induction generator generalizing state with
  | ret value => rfl
  | raise error => rfl
  | await op resume ih => exact ih _ _
  | yield item more closing moreIh _ =>
      have answered := taken item state
      rw [forEach, converse_handle]
      simp only [converse]
      rw [still item state, List.findSome?_cons]
      cases refused : refuses item with
      | some error =>
          rw [refused] at answered
          rw [answered]
          rfl
      | none =>
          rw [refused] at answered
          rw [answered]
          exact moreIh state
  | abandon left rest _ restIh => exact restIh state

theorem converse_pass_on (closed : I.Error) (generator : Coro I α) (state : σ) :
    converse oracle state (generator.forEach (yieldItem closed)) =
      ⟨(converse oracle state generator).items, (converse oracle state generator).outcome.map (fun _ => ()),
        (converse oracle state generator).state⟩ := by
  induction generator generalizing state with
  | ret value => rfl
  | raise error => rfl
  | await op resume ih => exact ih _ _
  | yield item more closing moreIh _ =>
      have onwards : converse oracle state (forEach (yield item more closing) (yieldItem closed)) =
          ⟨item :: (converse oracle state (more.forEach (yieldItem closed))).items,
            (converse oracle state (more.forEach (yieldItem closed))).outcome,
            (converse oracle state (more.forEach (yieldItem closed))).state⟩ := rfl
      rw [onwards, moreIh]
      rfl
  | abandon left rest _ restIh => exact restIh state

theorem converse_void (program : Coro I α) (state : σ) :
    converse oracle state program.void =
      ⟨(converse oracle state program).items, (converse oracle state program).outcome.map (fun _ => ()),
        (converse oracle state program).state⟩ := by
  rw [void, converse_handle]
  cases (converse oracle state program).outcome with
  | ok value => rw [converse, List.append_nil]; rfl
  | error error => rw [converse, List.append_nil]; rfl

theorem converse_bind_ok (program : Coro I α) (next : α → Coro I β) (state : σ) (value : α)
    (ended : (converse oracle state program).outcome = .ok value) :
    converse oracle state (program >>= next) =
      ⟨(converse oracle state program).items ++ (converse oracle (converse oracle state program).state
        (next value)).items, (converse oracle (converse oracle state program).state (next value)).outcome,
        (converse oracle (converse oracle state program).state (next value)).state⟩ := by
  show converse oracle state (program.handle _) = _
  rw [converse_handle, ended]

theorem converse_bind_error (program : Coro I α) (next : α → Coro I β) (state : σ) (error : I.Error)
    (failed : (converse oracle state program).outcome = .error error) :
    converse oracle state (program >>= next) =
      ⟨(converse oracle state program).items, .error error, (converse oracle state program).state⟩ := by
  show converse oracle state (program.handle _) = _
  rw [converse_handle, failed]
  simp only [converse, List.append_nil]

theorem converse_catch_ok (program : Coro I α) (handler : I.Error → Coro I α) (state : σ) (value : α)
    (ended : (converse oracle state program).outcome = .ok value) :
    converse oracle state (program.tryCatch handler) =
      ⟨(converse oracle state program).items, .ok value, (converse oracle state program).state⟩ := by
  rw [tryCatch, converse_handle, ended]
  simp only [converse, List.append_nil]

theorem converse_catch_error (program : Coro I α) (handler : I.Error → Coro I α) (state : σ) (error : I.Error)
    (failed : (converse oracle state program).outcome = .error error) :
    converse oracle state (program.tryCatch handler) =
      ⟨(converse oracle state program).items ++ (converse oracle (converse oracle state program).state
        (handler error)).items, (converse oracle (converse oracle state program).state (handler error)).outcome,
        (converse oracle (converse oracle state program).state (handler error)).state⟩ := by
  rw [tryCatch, converse_handle, failed]

def leaving (cleaned : Except I.Error Unit) (outcome : Except I.Error α) : Except I.Error α :=
  match cleaned with
  | .ok () => outcome
  | .error error => .error error

theorem leaving_raised (cleaned outcome : Option I.Error) : leaving (raised cleaned) (raised outcome) = raised
    (cleaned.or outcome) := by
  cases cleaned <;> rfl

theorem converse_finally (program : Coro I α) (cleanup : Coro I Unit) (state : σ) :
    converse oracle state (program.tryFinally cleanup) =
      ⟨(converse oracle state program).items ++ (converse oracle (converse oracle state program).state cleanup).items,
        leaving (converse oracle (converse oracle state program).state cleanup).outcome
          (converse oracle state program).outcome,
        (converse oracle (converse oracle state program).state cleanup).state⟩ := by
  rw [tryFinally, converse_handle, converse_handle]
  cases (converse oracle (converse oracle state program).state cleanup).outcome with
  | error error => simp only [converse, leaving, List.append_nil]
  | ok value =>
      cases (converse oracle state program).outcome with
      | ok value => simp only [ofExcept, converse, leaving, List.append_nil]
      | error error => simp only [ofExcept, converse, leaving, List.append_nil]

theorem converse_keeps (allowed : I.Op → Prop) (inv : σ → Prop)
    (keeps : ∀ state op, allowed op → inv state → inv (oracle state op).1) (program : Coro I α)
    (awaits : program.Awaits allowed) (state : σ) (held : inv state) : inv (converse oracle state program).state := by
  induction program generalizing state with
  | ret value => exact held
  | raise error => exact held
  | await op resume ih => exact ih _ (awaits.2 _) _ (keeps state op awaits.1 held)
  | yield item more closing moreIh _ => exact moreIh awaits.1 state held
  | abandon left rest _ restIh => exact restIh awaits.2 state held

def thrown {α : Type} : σ → Coro I α → List I.Error
  | _, .ret _ => []
  | _, .raise _ => []
  | state, .await op resume => match (oracle state op).2 with
      | .ok _ => thrown (oracle state op).1 (resume (oracle state op).2)
      | .error error => error :: thrown (oracle state op).1 (resume (oracle state op).2)
  | state, .yield _ next _ => thrown state next
  | state, .abandon _ rest => thrown state rest

end Converse

-- A coroutine that is no generator, raises nothing of its own and catches nothing.
def Straight {α : Type} : Coro I α → Prop
  | .ret _ => True
  | .raise _ => False
  | .await _ resume => (∀ value, Straight (resume (.ok value))) ∧ ∀ error, resume (.error error) = .raise error
  | .yield _ _ _ => False
  | .abandon _ _ => False

theorem straight_bind (program : Coro I α) (next : α → Coro I β) (first : program.Straight)
    (rest : ∀ value, (next value).Straight) : (program >>= next).Straight := by
  induction program with
  | ret value => exact rest value
  | raise error => exact first.elim
  | await op resume ih =>
      refine ⟨fun value => ih (.ok value) next (first.1 value) rest, fun error => ?_⟩
      show Coro.handle (resume (.error error)) _ = _
      rw [first.2 error]
      rfl
  | yield item more closing => exact first.elim
  | abandon left rest => exact first.elim

theorem straight_perform (op : I.Op) : (perform op).Straight := ⟨fun _ => trivial, fun _ => rfl⟩

section Converse

variable (oracle : Oracle I σ)

theorem converse_straight (program : Coro I α) (straight : program.Straight) (state : σ) :
    (∃ value, (converse oracle state program).outcome = .ok value ∧ thrown oracle state program = []) ∨
      ∃ error, (converse oracle state program).outcome = .error error ∧ thrown oracle state program = [error] := by
  induction program generalizing state with
  | ret value => exact Or.inl ⟨value, rfl, rfl⟩
  | raise error => exact straight.elim
  | await op resume ih =>
      rw [converse, thrown]
      cases answered : (oracle state op).2 with
      | ok value => exact ih _ (straight.1 value) _
      | error error =>
          rw [straight.2 error]
          exact Or.inr ⟨error, rfl, rfl⟩
  | yield item more closing => exact straight.elim
  | abandon left rest => exact straight.elim

theorem converse_straight_unit (program : Coro I Unit) (straight : program.Straight) (state : σ) :
    (converse oracle state program).outcome = raised (thrown oracle state program).head? := by
  rcases converse_straight oracle program straight state with ⟨value, ended, quiet⟩ | ⟨error, failed, one⟩
  · rw [ended, quiet]
    rfl
  · rw [failed, one]
    rfl

theorem thrown_handle (program : Coro I α) (next : Except I.Error α → Coro I β) (state : σ) :
    thrown oracle state (program.handle next) = thrown oracle state program ++
      thrown oracle (converse oracle state program).state (next (converse oracle state program).outcome) := by
  induction program generalizing state with
  | ret value => rfl
  | raise error => rfl
  | await op resume ih =>
      have later := ih (oracle state op).2 next (oracle state op).1
      rw [handle, thrown, thrown]
      cases answered : (oracle state op).2 with
      | ok value =>
          rw [answered] at later
          refine later.trans ?_
          rw [converse, answered]
      | error error =>
          rw [answered] at later
          rw [converse, answered]
          exact congrArg (error :: ·) later
  | yield item more closing moreIh _ => exact moreIh next state
  | abandon left rest _ restIh => exact restIh next state

theorem converse_absorbs (absorbs : I.Error → Bool) (program : Coro I Unit) (straight : program.Straight) (state : σ) :
    (converse oracle state (program.tryCatch
      (fun error => if absorbs error = true then .ret () else .raise error))).outcome =
      raised ((thrown oracle state (program.tryCatch
        (fun error => if absorbs error = true then .ret () else .raise error))).find?
          (fun error => !absorbs error)) := by
  rw [tryCatch, thrown_handle, converse_handle]
  rcases converse_straight oracle program straight state with ⟨value, ended, quiet⟩ | ⟨error, failed, one⟩
  · rw [ended, quiet]
    rfl
  · rw [failed, one]
    by_cases absorbed : absorbs error = true
    · simp [absorbed, thrown, converse, raised]
    · simp [absorbed, thrown, converse, raised]

def asked {α : Type} : σ → Coro I α → List I.Op
  | _, .ret _ => []
  | _, .raise _ => []
  | state, .await op resume => op :: asked (oracle state op).1 (resume (oracle state op).2)
  | state, .yield _ next _ => asked state next
  | state, .abandon _ rest => asked state rest

theorem asked_handle (program : Coro I α) (next : Except I.Error α → Coro I β) (state : σ) :
    asked oracle state (program.handle next) = asked oracle state program ++
      asked oracle (converse oracle state program).state (next (converse oracle state program).outcome) := by
  induction program generalizing state with
  | ret value => rfl
  | raise error => rfl
  | await op resume ih => exact congrArg (op :: ·) (ih (oracle state op).2 next (oracle state op).1)
  | yield item more closing moreIh _ => exact moreIh next state
  | abandon left rest _ restIh => exact restIh next state

theorem asked_awaits (allowed : I.Op → Prop) (program : Coro I α) (awaits : program.Awaits allowed) (state : σ) :
    ∀ op ∈ asked oracle state program, allowed op := by
  induction program generalizing state with
  | ret value =>
      intro op member
      cases member
  | raise error =>
      intro op member
      cases member
  | await op resume ih =>
      intro other member
      rcases List.mem_cons.mp member with rfl | later
      · exact awaits.1
      · exact ih _ (awaits.2 _) _ other later
  | yield item more closing moreIh _ => exact moreIh awaits.1 state
  | abandon left rest _ restIh => exact restIh awaits.2 state

theorem converse_for_each_taken (generator : Coro I α) (body : I.Item → Coro I Unit)
    (takes : ∀ item state, (converse oracle state (body item)).outcome = .ok () ∧
      (converse oracle state (body item)).state = state)
    (state : σ) :
    (converse oracle state (generator.forEach body)).outcome = (converse oracle state generator).outcome.map
    (fun _ => ()) ∧
      (converse oracle state (generator.forEach body)).state = (converse oracle state generator).state := by
  induction generator generalizing state with
  | ret value => exact ⟨rfl, rfl⟩
  | raise error => exact ⟨rfl, rfl⟩
  | await op resume ih => exact ih _ _
  | yield item more closing moreIh _ =>
      obtain ⟨taken, still⟩ := takes item state
      rw [forEach, converse_handle, taken, still]
      exact moreIh state
  | abandon left rest _ restIh => exact restIh state

theorem converse_for_each_served (generator : Coro I α) (body : I.Item → Coro I Unit)
    (given : I.Item → List I.Item) (state : σ)
    (serves : ∀ item ∈ (converse oracle state generator).items, ∀ later, converse oracle later
      (body item) = ⟨given item, .ok (), later⟩) :
    converse oracle state (generator.forEach body) = ⟨(converse oracle state generator).items.flatMap given,
      (converse oracle state generator).outcome.map (fun _ => ()), (converse oracle state generator).state⟩ := by
  induction generator generalizing state with
  | ret value => rfl
  | raise error => rfl
  | await op resume ih => exact ih _ _ serves
  | yield item more closing moreIh _ =>
      obtain ⟨here, others⟩ := List.forall_mem_cons.mp serves
      rw [forEach, converse_handle, here state]
      have rest := moreIh state others
      show Dialogue.mk (given item ++ (converse oracle state (more.forEach body)).items)
        (converse oracle state (more.forEach body)).outcome (converse oracle state (more.forEach body)).state = _
      rw [rest, converse, List.flatMap_cons]
  | abandon left rest _ restIh => exact restIh state serves

-- What such a body asks for at each item, a generator that asks for nothing of the kind hands on
-- in the order of its items.
theorem asked_for_each {ρ : Type} (wanted : I.Op → Option ρ) (given : I.Item → List ρ) (generator : Coro I α)
    (body : I.Item → Coro I Unit) (apart : generator.Awaits (fun op => wanted op = none))
    (takes : ∀ item state, (converse oracle state (body item)).outcome = .ok () ∧
      (converse oracle state (body item)).state = state)
    (gives : ∀ item state, (asked oracle state (body item)).filterMap wanted = given item) (state : σ) :
    (asked oracle state (generator.forEach body)).filterMap wanted = (converse oracle state generator).items.flatMap
      given := by
  induction generator generalizing state with
  | ret value => rfl
  | raise error => rfl
  | await op resume ih =>
      rw [forEach, asked, List.filterMap_cons_none apart.1]
      exact ih _ (apart.2 _) _
  | yield item more closing moreIh _ =>
      obtain ⟨taken, still⟩ := takes item state
      rw [forEach, asked_handle, List.filterMap_append, gives, taken, still, converse, List.flatMap_cons]
      exact congrArg (given item ++ ·) (moreIh apart.1 state)
  | abandon left rest _ restIh => exact restIh apart.2 state

end Converse

end Coro

end Coroutine
