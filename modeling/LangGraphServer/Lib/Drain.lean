import LangGraphServer.Lib.Dialogue

set_option autoImplicit false

namespace Coroutine

namespace Coro

variable {I : Interface} {α β : Type}

-- A generator whose consumer asks for every item: what it yields, how it ends, and how many
-- of its awaits were answered so far.
structure Drained (I : Interface) (α : Type) where
  items : List I.Item
  outcome : Except I.Error α
  answered : Nat

def drain (answers : Nat → (op : I.Op) → Except I.Error (I.Res op)) {α : Type} : Nat → Coro I α → Drained I α
  | answered, .ret value => ⟨[], .ok value, answered⟩
  | answered, .raise error => ⟨[], .error error, answered⟩
  | answered, .await op resume => drain answers (answered + 1) (resume (answers answered op))
  | answered, .yield item next _ =>
      let rest := drain answers answered next
      ⟨item :: rest.items, rest.outcome, rest.answered⟩
  | answered, .abandon _ rest => drain answers answered rest

variable (answers : Nat → (op : I.Op) → Except I.Error (I.Res op))

-- Draining is conversing with somebody who only counts.
theorem drain_converse (program : Coro I α) (answered : Nat) :
    (⟨(drain answers answered program).items, (drain answers answered program).outcome,
        (drain answers answered program).answered⟩ : Dialogue I Nat α) =
      converse (fun count op => (count + 1, answers count op)) answered program := by
  induction program generalizing answered with
  | ret value => rfl
  | raise error => rfl
  | await op resume ih => exact ih (answers answered op) (answered + 1)
  | yield item more closing moreIh _ =>
      rw [converse, ← moreIh]
      rfl
  | abandon left rest _ restIh => exact restIh answered

theorem drain_handle (program : Coro I α) (next : Except I.Error α → Coro I β) (answered : Nat) :
    drain answers answered (program.handle next) =
      ⟨(drain answers answered program).items ++
          (drain answers (drain answers answered program).answered
            (next (drain answers answered program).outcome)).items,
        (drain answers (drain answers answered program).answered
          (next (drain answers answered program).outcome)).outcome,
        (drain answers (drain answers answered program).answered
          (next (drain answers answered program).outcome)).answered⟩ := by
  have both := converse_handle (fun count op => (count + 1, answers count op)) program next answered
  rw [← drain_converse, ← drain_converse, ← drain_converse, Dialogue.mk.injEq] at both
  obtain ⟨items, outcome, count⟩ := both
  cases whole : drain answers answered (program.handle next) with
  | mk wholeItems wholeOutcome wholeCount =>
      rw [whole] at items outcome count
      rw [Drained.mk.injEq]
      exact ⟨items, outcome, count⟩

theorem drain_for_each (body : I.Item → Coro I Unit) (emits : I.Item → List I.Item) (generator : Coro I α)
    (answered : Nat) (serves : ∀ item ∈ (drain answers answered generator).items, ∀ later, drain answers later
      (body item) = ⟨emits item, .ok (), later⟩) :
    drain answers answered (generator.forEach body) =
      ⟨(drain answers answered generator).items.flatMap emits,
        (drain answers answered generator).outcome.map (fun _ => ()), (drain answers answered generator).answered⟩ := by
  induction generator generalizing answered with
  | ret value => rfl
  | raise error => rfl
  | await op resume ih => exact ih (answers answered op) (answered + 1) serves
  | yield item more closing moreIh _ =>
      have here := serves item List.mem_cons_self
      have rest := moreIh answered (fun later member => serves later (List.mem_cons_of_mem item member))
      rw [forEach, drain_handle, here]
      simp only
      rw [rest]
      simp only [drain, List.flatMap_cons]
  | abandon left rest _ restIh => exact restIh answered serves

end Coro

end Coroutine
