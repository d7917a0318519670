import Mathlib.Data.List.Forall2
import LangGraphServer.Lib.Pool
import LangGraphServer.Lib.Protocol

set_option autoImplicit false

namespace Coroutine

universe u v

theorem forall₂_set {A : Type u} {B : Type v} (related : A → B → Prop) (first : List A) (second : List B)
    (position : Nat) (left : A) (right : B) (all : List.Forall₂ related first second) (here : related left right) :
    List.Forall₂ related (first.set position left) (second.set position right) := by
  induction all generalizing position with
  | nil => exact List.Forall₂.nil
  | cons head tail ih =>
      cases position with
      | zero => exact List.Forall₂.cons here tail
      | succ position => exact List.Forall₂.cons head (ih position)

theorem forall₂_getElem? {A : Type u} {B : Type v} (related : A → B → Prop) (first : List A) (second : List B)
    (all : List.Forall₂ related first second) (position : Nat) (left : A) (found : first[position]? = some left) :
    ∃ right, second[position]? = some right ∧ related left right := by
  induction all generalizing position with
  | nil => cases found
  | cons head tail ih =>
      cases position with
      | zero =>
          rw [List.getElem?_cons_zero, Option.some.injEq] at found
          exact ⟨_, List.getElem?_cons_zero, found ▸ head⟩
      | succ position =>
          rw [List.getElem?_cons_succ] at found ⊢
          exact ih position found

theorem mem_appended {A : Type u} (first second : List A) (position : Nat) (entry : A)
    (found : (first ++ second)[position]? = some entry) :
    first[position]? = some entry ∨ (first.length ≤ position ∧ second[position - first.length]? = some entry) := by
  by_cases within : position < first.length
  · rw [List.getElem?_append_left within] at found
    exact Or.inl found
  · rw [List.getElem?_append_right (Nat.le_of_not_lt within)] at found
    exact Or.inr ⟨Nat.le_of_not_lt within, found⟩

theorem set_entries {A : Type u} (entries : List A) (position other : Nat) (fresh entry : A)
    (found : (entries.set position fresh)[other]? = some entry) :
    (other = position ∧ entry = fresh) ∨ (other ≠ position ∧ entries[other]? = some entry) := by
  by_cases same : position = other
  · subst same
    obtain ⟨within, read⟩ := List.getElem?_eq_some_iff.mp found
    rw [List.getElem_set_self] at read
    exact Or.inl ⟨rfl, read.symm⟩
  · rw [List.getElem?_set_ne same] at found
    exact Or.inr ⟨Ne.symm same, found⟩

theorem replaced_entries {A : Type u} (entries spawned : List A) (position other : Nat) (fresh entry : A)
    (found : (entries.set position fresh ++ spawned)[other]? = some entry) :
    (other = position ∧ entry = fresh) ∨ (other ≠ position ∧ entries[other]? = some entry) ∨
      (entries.length ≤ other ∧ entry ∈ spawned) := by
  rcases mem_appended _ _ _ _ found with old | ⟨beyond, new⟩
  · exact (set_entries _ _ _ _ _ old).imp_right Or.inl
  · rw [List.length_set] at beyond
    exact Or.inr (Or.inr ⟨beyond, List.mem_of_getElem? new⟩)

theorem set_entry {A : Type u} (entries : List A) (position : Nat) (fresh entry : A)
    (found : entries[position]? = some entry) :
    (entries.set position fresh)[position]? = some fresh :=
  List.getElem?_set_self (List.getElem?_eq_some_iff.mp found).1

theorem replaced_entry {A : Type u} (entries spawned : List A) (position : Nat) (fresh entry : A)
    (found : entries[position]? = some entry) : (entries.set position fresh ++ spawned)[position]? = some fresh := by
  rw [List.getElem?_append_left (by rw [List.length_set]; exact (List.getElem?_eq_some_iff.mp found).1)]
  exact set_entry entries position fresh entry found

variable {I : Interface} {State Id : Type}

-- What the tasks of a pool are held to. A helper keeps to the protocol of its task.
structure Order (machine : Machine I State Id) (Phase : Type) where
  protocol : Id → Protocol I Phase
  done : Id → Post I Phase Unit
  protocol_helper : ∀ id, protocol (machine.helper id) = protocol id
  done_helper : ∀ id outcome phase, (protocol id).ends phase → done (machine.helper id) outcome phase

namespace Order

variable {machine : Machine I State Id} {Phase : Type} (order : Order machine Phase)

structure Kept (task : Id × Coro I Unit) (entry : Id × Phase) : Prop where
  owner : entry.1 = task.1
  follows : (order.protocol task.1).Follows .anything task.2 (order.done task.1) (order.done task.1) entry.2

-- A census tells for every task of a pool which phase it is in.
def Counts (census : List (Id × Phase)) (tasks : List (Id × Coro I Unit)) : Prop := List.Forall₂ order.Kept tasks census

inductive Turned (pool : Pool I State Id) (census : List (Id × Phase)) (turn : Turn I)
    (after : Pool I State Id) : Prop where
  | idle (same : after = pool)
      (stuck : ∀ id op resume, pool.tasks[turn.task]? = some (id, .await op resume) → turn.failure ≠ none)
  | performed (id : Id) (op : I.Op) (resume : Except I.Error (I.Res op) → Coro I Unit) (phase : Phase)
      (found : pool.tasks[turn.task]? = some (id, .await op resume)) (entry : census[turn.task]? = some (id, phase))
      (calm : turn.failure = none) (allowed : (order.protocol id).allows phase op)
      (shared : after.shared = (machine.perform id op pool.shared).1)
      (counts : order.Counts (census.set turn.task
        (id, (order.protocol id).next phase op (machine.perform id op pool.shared).2))
        after.tasks)
  | struck (id : Id) (op : I.Op) (resume : Except I.Error (I.Res op) → Coro I Unit) (phase : Phase) (error : I.Error)
      (found : pool.tasks[turn.task]? = some (id, .await op resume)) (entry : census[turn.task]? = some (id, phase))
      (failing : turn.failure = some error) (possible : machine.interruptible id op error = true)
      (allowed : (order.protocol id).allows phase op)
      (shared : after.shared = machine.struck id op error pool.shared)
      (counts : ∀ phases : List Phase,
        List.Forall₂ (fun left phase => (order.protocol id).Follows .anything left (fun _ => (order.protocol id).ends)
          (fun _ => (order.protocol id).ends) phase) (machine.leftover id op) phases →
        order.Counts (census.set turn.task (id, (order.protocol id).next phase op (.error error)) ++
          phases.map (fun phase => (machine.helper id, phase))) after.tasks)
  | abandoned (id : Id) (left rest : Coro I Unit) (phase : Phase)
      (found : pool.tasks[turn.task]? = some (id, .abandon left rest)) (entry : census[turn.task]? = some (id, phase))
      (shared : after.shared = pool.shared)
      (counts : (order.protocol id).lets phase → ∃ theirs mine, (order.protocol id).splits phase theirs mine ∧
        order.Counts (census.set turn.task (id, mine) ++ [(machine.helper id, theirs)]) after.tasks)

theorem counts_helpers (id : Id) (leftovers : List (Coro I Unit)) (phases : List Phase)
    (follow : List.Forall₂ (fun left phase => (order.protocol id).Follows .anything left
      (fun _ => (order.protocol id).ends) (fun _ => (order.protocol id).ends) phase) leftovers phases) :
    order.Counts (phases.map (fun phase => (machine.helper id, phase)))
      (leftovers.map (fun left => (machine.helper id, left))) := by
  induction follow with
  | nil => exact List.Forall₂.nil
  | cons head tail ih =>
      refine List.Forall₂.cons ⟨rfl, ?_⟩ ih
      rw [order.protocol_helper]
      exact Protocol.follows_mono _ _ _ _ _ _ _ _ (fun outcome phase => order.done_helper id outcome phase)
        (fun outcome phase => order.done_helper id outcome phase) head

theorem turned (pool : Pool I State Id) (census : List (Id × Phase)) (counts : order.Counts census pool.tasks)
    (turn : Turn I) : order.Turned pool census turn (machine.step pool turn) := by
  have located : ∀ id program, pool.tasks[turn.task]? = some (id, program) →
    ∃ phase, census[turn.task]? = some (id, phase) ∧
      (order.protocol id).Follows .anything program (order.done id) (order.done id) phase := by
    intro id program found
    obtain ⟨⟨owner, phase⟩, entry, kept⟩ := forall₂_getElem? _ _ _ counts _ _ found
    obtain ⟨same, follows⟩ := kept
    cases same
    exact ⟨phase, entry, follows⟩
  rw [Machine.step]
  split
  · rename_i id op resume found
    obtain ⟨phase, entry, allowed, follows⟩ := located id _ found
    cases failing : turn.failure with
    | none =>
        exact .performed id op resume phase found entry failing allowed rfl
          (forall₂_set _ _ _ _ _ _ counts ⟨rfl, follows _⟩)
    | some error =>
        by_cases possible : machine.interruptible id op error = true
        · simp only [possible, if_true]
          refine .struck id op resume phase error found entry failing possible allowed rfl (fun phases follow => ?_)
          exact List.rel_append (forall₂_set _ _ _ _ _ _ counts ⟨rfl, follows _⟩)
            (order.counts_helpers id _ phases follow)
        · simp only [possible]
          exact .idle rfl (fun _ _ _ _ => by rw [failing]; simp)
  · rename_i id left rest found
    obtain ⟨phase, entry, follows⟩ := located id _ found
    refine .abandoned id left rest phase found entry rfl (fun lets => ?_)
    obtain ⟨theirs, mine, splits, leaves, goes⟩ := follows lets
    refine ⟨theirs, mine, splits, List.rel_append (forall₂_set _ _ _ _ _ _ counts ⟨rfl, goes⟩) ?_⟩
    exact order.counts_helpers id [left] [theirs] (List.Forall₂.cons leaves List.Forall₂.nil)
  · rename_i other _
    exact .idle rfl (fun id op resume found => (other id op resume found).elim)

end Order

end Coroutine
