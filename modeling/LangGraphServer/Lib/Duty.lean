import LangGraphServer.Lib.Pool
import LangGraphServer.Lib.Run

set_option autoImplicit false

namespace Coroutine

universe u

variable {I : Interface} {State Id : Type} {α β : Type}

namespace Coro

-- Every way through the program awaits a duty, as long as the awaits are answered as
-- considered. When a generator is let go of, either half may see to it.
def Fulfils (duty : I.Op → Prop) (considered : (op : I.Op) → Except I.Error (I.Res op) → Prop) {α : Type} :
    Coro I α → Prop
  | .ret _ => False
  | .raise _ => False
  | .await op resume => duty op ∨ ∀ answer, considered op answer → Fulfils duty considered (resume answer)
  | .yield _ next exit => Fulfils duty considered next ∧ Fulfils duty considered exit
  | .abandon left rest => Fulfils duty considered left ∨ Fulfils duty considered rest

def Accountable {Debt : Type} (incurs : (op : I.Op) → Except I.Error (I.Res op) → Option Debt)
    (pays : Debt → I.Op → Prop) (considered : (op : I.Op) → Except I.Error (I.Res op) → Prop) {α : Type} :
    Coro I α → Prop
  | .ret _ => True
  | .raise _ => True
  | .await op resume => ∀ answer, considered op answer →
      (∀ debt, incurs op answer = some debt → (resume answer).Fulfils (pays debt) considered) ∧
        Accountable incurs pays considered (resume answer)
  | .yield _ next exit => Accountable incurs pays considered next ∧ Accountable incurs pays considered exit
  | .abandon left rest => Accountable incurs pays considered left ∧ Accountable incurs pays considered rest

section Fulfils

variable {duty : I.Op → Prop} {considered : (op : I.Op) → Except I.Error (I.Res op) → Prop}

theorem fulfils_handle (program : Coro I α) (next : Except I.Error α → Coro I β)
    (fulfils : program.Fulfils duty considered) : (program.handle next).Fulfils duty considered := by
  induction program with
  | ret value => exact fulfils.elim
  | raise error => exact fulfils.elim
  | await op resume ih =>
      rcases fulfils with now | later
      · exact Or.inl now
      · exact Or.inr (fun answer may => ih answer next (later answer may))
  | yield item more closing moreIh closingIh => exact ⟨moreIh next fulfils.1, closingIh next fulfils.2⟩
  | abandon left rest _ restIh =>
      rcases fulfils with leaves | goes
      · exact Or.inl leaves
      · exact Or.inr (restIh next goes)

theorem fulfils_after (program : Coro I α) (next : Except I.Error α → Coro I β)
    (fulfils : ∀ outcome, (next outcome).Fulfils duty considered) : (program.handle next).Fulfils duty considered := by
  induction program with
  | ret value => exact fulfils (.ok value)
  | raise error => exact fulfils (.error error)
  | await op resume ih => exact Or.inr (fun answer _ => ih answer next fulfils)
  | yield item more closing moreIh closingIh => exact ⟨moreIh next fulfils, closingIh next fulfils⟩
  | abandon left rest _ restIh => exact Or.inr (restIh next fulfils)

theorem fulfils_finally (program : Coro I α) (cleanup : Coro I Unit) (fulfils : cleanup.Fulfils duty considered) :
    (program.tryFinally cleanup).Fulfils duty considered :=
  fulfils_after program _ (fun _ => fulfils_handle cleanup _ fulfils)

theorem fulfils_perform (op : I.Op) (now : duty op) : (perform op).Fulfils duty considered := Or.inl now

theorem fulfils_for_each (generator : Coro I α) (body : I.Item → Coro I Unit)
    (fulfils : generator.Fulfils duty considered) : (generator.forEach body).Fulfils duty considered := by
  induction generator with
  | ret value => exact fulfils.elim
  | raise error => exact fulfils.elim
  | await op resume ih =>
      rcases fulfils with now | later
      · exact Or.inl now
      · exact Or.inr (fun answer may => ih answer (later answer may))
  | yield item more closing moreIh _ =>
      refine fulfils_after (body item) _ (fun outcome => ?_)
      cases outcome with
      | ok value => exact moreIh fulfils.1
      | error error => exact Or.inl (fulfils_handle closing _ fulfils.2)
  | abandon left rest _ restIh =>
      rcases fulfils with leaves | goes
      · exact Or.inl leaves
      · exact Or.inr (restIh goes)

end Fulfils

section Accountable

variable {Debt : Type} {incurs : (op : I.Op) → Except I.Error (I.Res op) → Option Debt} {pays : Debt → I.Op → Prop}
    {considered : (op : I.Op) → Except I.Error (I.Res op) → Prop}

theorem accountable_handle (program : Coro I α) (next : Except I.Error α → Coro I β)
    (first : program.Accountable incurs pays considered)
    (rest : ∀ outcome, (next outcome).Accountable incurs pays considered) :
    (program.handle next).Accountable incurs pays considered := by
  induction program with
  | ret value => exact rest (.ok value)
  | raise error => exact rest (.error error)
  | await op resume ih =>
      intro answer may
      exact ⟨fun debt incurred => fulfils_handle _ next ((first answer may).1 debt incurred),
        ih answer next (first answer may).2 rest⟩
  | yield item more closing moreIh closingIh => exact ⟨moreIh next first.1 rest, closingIh next first.2 rest⟩
  | abandon left goes _ goesIh => exact ⟨first.1, goesIh next first.2 rest⟩

theorem accountable_bind (program : Coro I α) (next : α → Coro I β) (first : program.Accountable incurs pays considered)
    (rest : ∀ value, (next value).Accountable incurs pays considered) :
    (program >>= next).Accountable incurs pays considered := by
  refine accountable_handle program _ first (fun outcome => ?_)
  cases outcome with
  | ok value => exact rest value
  | error error => trivial

theorem accountable_of_except (outcome : Except I.Error α) : (ofExcept outcome).Accountable incurs pays considered := by
  cases outcome <;> trivial

theorem accountable_catch (program : Coro I α) (handler : I.Error → Coro I α)
    (first : program.Accountable incurs pays considered)
    (rest : ∀ error, (handler error).Accountable incurs pays considered) :
    (program.tryCatch handler).Accountable incurs pays considered := by
  refine accountable_handle program _ first (fun outcome => ?_)
  cases outcome with
  | ok value => trivial
  | error error => exact rest error

theorem accountable_finally (program : Coro I α) (cleanup : Coro I Unit)
    (first : program.Accountable incurs pays considered) (cleans : cleanup.Accountable incurs pays considered) :
    (program.tryFinally cleanup).Accountable incurs pays considered := by
  refine accountable_handle program _ first (fun outcome => ?_)
  refine accountable_handle cleanup _ cleans (fun cleaned => ?_)
  cases cleaned with
  | ok value => exact accountable_of_except outcome
  | error error => trivial

theorem accountable_void (program : Coro I α) (first : program.Accountable incurs pays considered) :
    program.void.Accountable incurs pays considered := by
  refine accountable_handle program _ first (fun outcome => ?_)
  cases outcome <;> trivial

theorem accountable_for_each (generator : Coro I α) (body : I.Item → Coro I Unit)
    (generates : generator.Accountable incurs pays considered)
    (serves : ∀ item, (body item).Accountable incurs pays considered) :
    (generator.forEach body).Accountable incurs pays considered := by
  induction generator with
  | ret value => trivial
  | raise error => trivial
  | await op resume ih =>
      intro answer may
      exact ⟨fun debt incurred => fulfils_for_each _ body ((generates answer may).1 debt incurred),
        ih answer (generates answer may).2⟩
  | yield item more closing moreIh _ =>
      refine accountable_handle (body item) _ (serves item) (fun outcome => ?_)
      cases outcome with
      | ok value => exact moreIh generates.1
      | error error => exact ⟨accountable_void closing generates.2, trivial⟩
  | abandon left rest _ restIh => exact ⟨generates.1, restIh generates.2⟩

theorem accountable_perform (op : I.Op) (free : ∀ answer, incurs op answer = none) :
    (perform op).Accountable incurs pays considered := by
  intro answer _
  refine ⟨fun debt incurred => ?_, accountable_of_except answer⟩
  rw [free answer] at incurred
  cases incurred

theorem accountable_uses (allowed : I.Op → Prop) (free : ∀ op answer, allowed op → incurs op answer = none)
    (program : Coro I α) (uses : program.Uses allowed) : program.Accountable incurs pays considered := by
  induction program with
  | ret value => trivial
  | raise error => trivial
  | await op resume ih =>
      intro answer _
      refine ⟨fun debt incurred => ?_, ih answer (uses.2 answer)⟩
      rw [free op answer uses.1] at incurred
      cases incurred
  | yield item next closing => exact uses.elim
  | abandon left rest => exact uses.elim

end Accountable

theorem ended_fulfils_nothing {duty : I.Op → Prop} {considered : (op : I.Op) → Except I.Error (I.Res op) → Prop}
    (program : Coro I α) (ended : program.Ended) (fulfils : program.Fulfils duty considered) : False := by
  cases program with
  | ret value => exact fulfils
  | raise error => exact fulfils
  | await op resume => exact ended
  | yield item next closing => exact ended
  | abandon left rest => exact ended

end Coro

-- Debts that the tasks of a pool incur by what they are answered. A debt belongs to the
-- root of the task, and only a task of that root is answerable for it.
structure Ledger (machine : Machine I State Id) (Root Debt : Type) where
  root : Id → Root
  incurs : (op : I.Op) → Except I.Error (I.Res op) → Option Debt
  pays : Debt → I.Op → Prop
  considered : (op : I.Op) → Except I.Error (I.Res op) → Prop
  owed : Root → Debt → State → Prop
  inv : State → Prop
  root_helper : ∀ id, root (machine.helper id) = root id
  inv_perform : ∀ id op state, inv state → inv (machine.perform id op state).1
  inv_struck : ∀ id op error state, inv state → inv (machine.struck id op error state)
  answers : ∀ id op state, considered op (machine.perform id op state).2
  performed : ∀ id op state owner debt, inv state → owed owner debt (machine.perform id op state).1 →
    (owner = root id ∧ incurs op (machine.perform id op state).2 = some debt) ∨ (owed owner debt state ∧ ¬ pays debt op)
  struck : ∀ id op error state owner debt, owed owner debt (machine.struck id op error state) → owed owner debt state
  leftover_pays : ∀ id op debt, pays debt op → ∃ left ∈ machine.leftover id op, left.Fulfils (pays debt) considered
  leftover_accountable : ∀ id op, ∀ left ∈ machine.leftover id op, left.Accountable incurs pays considered

namespace Ledger

variable {machine : Machine I State Id} {Root Debt : Type} (ledger : Ledger machine Root Debt)

structure Covered (pool : Pool I State Id) : Prop where
  inv : ledger.inv pool.shared
  accountable : ∀ task ∈ pool.tasks, task.2.Accountable ledger.incurs ledger.pays ledger.considered
  covered : ∀ owner debt, ledger.owed owner debt pool.shared →
    ∃ task ∈ pool.tasks, ledger.root task.1 = owner ∧ task.2.Fulfils (ledger.pays debt) ledger.considered

def Considered (pool : Pool I State Id) (turn : Turn I) : Prop :=
  ∀ id op resume error, pool.tasks[turn.task]? = some (id, .await op resume) → turn.failure = some error →
    machine.interruptible id op error = true → ledger.considered op (.error error)

theorem mem_set_or_eq {Task : Type u} (tasks : List Task) (position : Nat) (found next task : Task)
    (here : tasks[position]? = some found) (member : task ∈ tasks) : task = found ∨ task ∈ tasks.set position next := by
  obtain ⟨index, within, rfl⟩ := List.mem_iff_getElem.mp member
  by_cases same : position = index
  · subst same
    rw [List.getElem?_eq_getElem within, Option.some.injEq] at here
    exact Or.inl here
  · refine Or.inr (List.mem_iff_getElem.mpr ⟨index, by rwa [List.length_set], ?_⟩)
    rw [List.getElem_set, if_neg same]

theorem covered_of_move (pool : Pool I State Id) (position : Nat) (id : Id) (program next : Coro I Unit) (after : State)
    (spawned : List (Coro I Unit)) (earlier : ledger.Covered pool) (found : pool.tasks[position]? = some (id, program))
    (inv : ledger.inv after) (accountable : next.Accountable ledger.incurs ledger.pays ledger.considered)
    (spawnedAccountable : ∀ left ∈ spawned, left.Accountable ledger.incurs ledger.pays ledger.considered)
    (covers : ∀ owner debt, ledger.owed owner debt after →
      (owner = ledger.root id ∧ next.Fulfils (ledger.pays debt) ledger.considered) ∨
      (ledger.owed owner debt pool.shared ∧ (program.Fulfils (ledger.pays debt) ledger.considered →
        next.Fulfils (ledger.pays debt) ledger.considered ∨
          ∃ left ∈ spawned, left.Fulfils (ledger.pays debt) ledger.considered))) :
    ledger.Covered ⟨after, pool.tasks.set position (id, next) ++ spawned.map
      (fun left => (machine.helper id, left))⟩ := by
  obtain ⟨within, _⟩ := List.getElem?_eq_some_iff.mp found
  have moved : (id, next) ∈ pool.tasks.set position (id, next) := List.mem_set within _
  refine ⟨inv, fun task member => ?_, fun owner debt owes => ?_⟩
  · rcases List.mem_append.mp member with old | new
    · rcases List.mem_or_eq_of_mem_set old with listed | rfl
      · exact earlier.accountable task listed
      · exact accountable
    · obtain ⟨left, listed, rfl⟩ := List.mem_map.mp new
      exact spawnedAccountable left listed
  · rcases covers owner debt owes with ⟨own, fulfils⟩ | ⟨before, passes⟩
    · exact ⟨_, List.mem_append_left _ moved, own.symm, fulfils⟩
    · obtain ⟨task, listed, own, fulfils⟩ := earlier.covered owner debt before
      rcases mem_set_or_eq pool.tasks position (id, program) (id, next) task found listed with rfl | kept
      · rcases passes fulfils with goes | ⟨left, among, leaves⟩
        · exact ⟨_, List.mem_append_left _ moved, own, goes⟩
        · exact ⟨_, List.mem_append_right _ (List.mem_map_of_mem among), (ledger.root_helper id).trans own, leaves⟩
      · exact ⟨task, List.mem_append_left _ kept, own, fulfils⟩

theorem covered_step (pool : Pool I State Id) (turn : Turn I) (earlier : ledger.Covered pool)
    (considered : ledger.Considered pool turn) : ledger.Covered (machine.step pool turn) := by
  rw [Machine.step]
  split
  · rename_i id op resume found
    have here := earlier.accountable _ (List.mem_of_getElem? found)
    cases failing : turn.failure with
    | none =>
        obtain ⟨pays, accountable⟩ := here _ (ledger.answers id op pool.shared)
        have moved := ledger.covered_of_move pool turn.task id _ (resume (machine.perform id op pool.shared).2)
          (machine.perform id op pool.shared).1 [] earlier found (ledger.inv_perform id op pool.shared earlier.inv)
          accountable (by simp) (fun owner debt owes => by
            rcases ledger.performed id op pool.shared owner debt earlier.inv owes
              with ⟨own, incurred⟩ | ⟨before, unpaid⟩
            · exact Or.inl ⟨own, pays debt incurred⟩
            · refine Or.inr ⟨before, fun fulfils => Or.inl ?_⟩
              rcases fulfils with now | later
              · exact absurd now unpaid
              · exact later _ (ledger.answers id op pool.shared))
        rw [List.map_nil, List.append_nil] at moved
        exact moved
    | some error =>
        by_cases possible : machine.interruptible id op error = true
        · simp only [possible, if_true]
          have may := considered id op resume error found failing possible
          refine ledger.covered_of_move pool turn.task id _ (resume (.error error)) _
            (machine.leftover id op) earlier found
            (ledger.inv_struck id op error pool.shared earlier.inv) (here _ may).2 (ledger.leftover_accountable id op)
            (fun owner debt owes => Or.inr ⟨ledger.struck id op error pool.shared owner debt owes, fun fulfils => ?_⟩)
          rcases fulfils with now | later
          · exact Or.inr (ledger.leftover_pays id op debt now)
          · exact Or.inl (later _ may)
        · simp only [possible]
          exact earlier
  · rename_i id left rest found
    obtain ⟨leaves, goes⟩ := earlier.accountable _ (List.mem_of_getElem? found)
    refine ledger.covered_of_move pool turn.task id _ rest pool.shared [left] earlier found earlier.inv goes ?_
      (fun owner debt owes => Or.inr ⟨owes, fun fulfils => ?_⟩)
    · intro program listed
      rw [List.mem_singleton.mp listed]
      exact leaves
    · rcases fulfils with now | later
      · exact Or.inr ⟨left, List.mem_singleton_self left, now⟩
      · exact Or.inl later
  · exact earlier

theorem always_covered (start : Pool I State Id) (initial : ledger.Covered start) (turns : List (Turn I))
    (considered : Transition.Meets machine.step ledger.Considered start turns) :
    Transition.Always machine.step ledger.Covered start turns :=
  Transition.always_of_keeps machine.step ledger.Considered ledger.Covered ledger.covered_step start initial
    turns considered

end Ledger

end Coroutine
