import Mathlib.Logic.Basic

set_option autoImplicit false

namespace Transition

universe u v

variable {State : Type u} {Input : Type v}

def run (step : State → Input → State) (start : State) (inputs : List Input) : State :=
  inputs.foldl step start

-- Both predicates walk the run: `Meets` looks at each input in the state it is taken
-- in, `Always` at every state the run passes through, the first and the last included.
def Meets (step : State → Input → State) (cond : State → Input → Prop) : State → List Input → Prop
  | _, [] => True
  | state, input :: rest => cond state input ∧ Meets step cond (step state input) rest

def Always (step : State → Input → State) (holds : State → Prop) : State → List Input → Prop
  | state, [] => holds state
  | state, input :: rest => holds state ∧ Always step holds (step state input) rest

instance decidableMeets (step : State → Input → State) (cond : State → Input → Prop)
    [∀ state input, Decidable (cond state input)] : ∀ start inputs, Decidable (Meets step cond start inputs)
  | _, [] => .isTrue trivial
  | start, input :: rest =>
      have := decidableMeets step cond (step start input) rest
      inferInstanceAs (Decidable (cond start input ∧ Meets step cond (step start input) rest))

theorem meets_of_forall (step : State → Input → State) (cond : State → Input → Prop)
    (all : ∀ state input, cond state input) (start : State) (inputs : List Input) : Meets step cond start inputs := by
  induction inputs generalizing start with
  | nil => trivial
  | cons input rest ih => exact ⟨all start input, ih (step start input)⟩

theorem meets_of_mem (step : State → Input → State) (cond : Input → Prop) (start : State) (inputs : List Input)
    (all : ∀ input ∈ inputs, cond input) : Meets step (fun _ input => cond input) start inputs := by
  induction inputs generalizing start with
  | nil => trivial
  | cons input rest ih =>
      exact ⟨all input List.mem_cons_self, ih (step start input)
        (fun later member => all later (List.mem_cons_of_mem _ member))⟩

theorem meets_imp (step : State → Input → State) (strong weak : State → Input → Prop)
    (imp : ∀ state input, strong state input → weak state input) (start : State) (inputs : List Input)
    (meets : Meets step strong start inputs) : Meets step weak start inputs := by
  induction inputs generalizing start with
  | nil => trivial
  | cons input rest ih => exact ⟨imp start input meets.1, ih (step start input) meets.2⟩

theorem meets_and (step : State → Input → State) (first second : State → Input → Prop) (start : State)
    (inputs : List Input) (left : Meets step first start inputs) (right : Meets step second start inputs) :
    Meets step (fun state input => first state input ∧ second state input) start inputs := by
  induction inputs generalizing start with
  | nil => trivial
  | cons input rest ih => exact ⟨⟨left.1, right.1⟩, ih (step start input) left.2 right.2⟩

theorem run_append (step : State → Input → State) (start : State) (first second : List Input) :
    run step start (first ++ second) = run step (run step start first) second := List.foldl_append

theorem meets_append (step : State → Input → State) (cond : State → Input → Prop) (start : State)
    (first second : List Input) :
    Meets step cond start (first ++ second) ↔ Meets step cond start first ∧
      Meets step cond (run step start first) second := by
  induction first generalizing start with
  | nil => exact ⟨fun meets => ⟨trivial, meets⟩, fun both => both.2⟩
  | cons input rest ih => exact (and_congr Iff.rfl (ih (step start input))).trans and_assoc.symm

theorem run_keeps (step : State → Input → State) (inv : State → Prop)
    (keeps : ∀ state input, inv state → inv (step state input))
    (start : State) (initial : inv start) (inputs : List Input) : inv (run step start inputs) := by
  induction inputs generalizing start with
  | nil => exact initial
  | cons input rest ih => exact ih (step start input) (keeps start input initial)

theorem always_of_keeps (step : State → Input → State) (cond : State → Input → Prop) (inv : State → Prop)
    (keeps : ∀ state input, inv state → cond state input → inv (step state input))
    (start : State) (initial : inv start) (inputs : List Input) (meets : Meets step cond start inputs) :
    Always step inv start inputs := by
  induction inputs generalizing start with
  | nil => exact initial
  | cons input rest ih =>
      exact ⟨initial, ih (step start input) (keeps start input initial meets.1) meets.2⟩

theorem run_of_keeps (step : State → Input → State) (cond : State → Input → Prop) (inv : State → Prop)
    (keeps : ∀ state input, inv state → cond state input → inv (step state input))
    (start : State) (initial : inv start) (inputs : List Input) (meets : Meets step cond start inputs) :
    inv (run step start inputs) := by
  induction inputs generalizing start with
  | nil => exact initial
  | cons input rest ih => exact ih (step start input) (keeps start input initial meets.1) meets.2

theorem meets_of_keeps (step : State → Input → State) (cond shown : State → Input → Prop) (inv : State → Prop)
    (keeps : ∀ state input, inv state → cond state input → inv (step state input))
    (shows : ∀ state input, inv state → cond state input → shown state input)
    (start : State) (initial : inv start) (inputs : List Input) (meets : Meets step cond start inputs) :
    Meets step shown start inputs := by
  induction inputs generalizing start with
  | nil => trivial
  | cons input rest ih =>
      exact ⟨shows start input initial meets.1, ih (step start input) (keeps start input initial meets.1) meets.2⟩

theorem always_of_invariant (step : State → Input → State) (inv : State → Prop)
    (keeps : ∀ state input, inv state → inv (step state input))
    (start : State) (initial : inv start) (inputs : List Input) : Always step inv start inputs := by
  induction inputs generalizing start with
  | nil => exact initial
  | cons input rest ih => exact ⟨initial, ih (step start input) (keeps start input initial)⟩

theorem always_imp (step : State → Input → State) (strong weak : State → Prop)
    (imp : ∀ state, strong state → weak state) (start : State) (inputs : List Input)
    (always : Always step strong start inputs) : Always step weak start inputs := by
  induction inputs generalizing start with
  | nil => exact imp start always
  | cons input rest ih => exact ⟨imp start always.1, ih (step start input) always.2⟩

theorem always_last (step : State → Input → State) (holds : State → Prop) (start : State) (inputs : List Input)
    (always : Always step holds start inputs) : holds (run step start inputs) := by
  induction inputs generalizing start with
  | nil => exact always
  | cons input rest ih => exact ih (step start input) always.2

theorem always_iff_meets (step : State → Input → State) (cond : State → Input → Prop) (inv good : State → Prop)
    (keeps : ∀ state input, inv state → inv (step state input))
    (exact_step : ∀ state input, inv state → good state → (good (step state input) ↔ cond state input))
    (start : State) (initial : inv start) (first : good start) (inputs : List Input) :
    Always step good start inputs ↔ Meets step cond start inputs := by
  induction inputs generalizing start with
  | nil => exact ⟨fun _ => trivial, fun _ => first⟩
  | cons input rest ih =>
      have next := keeps start input initial
      constructor
      · intro always
        have after : good (step start input) := by
          cases rest with
          | nil => exact always.2
          | cons later tail => exact always.2.1
        exact ⟨(exact_step start input initial first).mp after, (ih _ next after).mp always.2⟩
      · intro meets
        have after := (exact_step start input initial first).mpr meets.1
        exact ⟨first, (ih _ next after).mpr meets.2⟩

section Lockstep

variable {Other : Type u} {Answer Reply : Type v} (first : State → Input → State × Answer)
    (second : Other → Input → Other × Reply)

def AnsweredAlike (matching : Input → Answer → Reply → Prop) : State → Other → List Input → Prop
  | _, _, [] => True
  | state, other, input :: rest =>
      matching input (first state input).2 (second other input).2 ∧
        AnsweredAlike matching (first state input).1 (second other input).1 rest

-- Related states that answer alike and stay related, under the condition, do so in every run.
theorem answered_of_simulation (matching : Input → Answer → Reply → Prop) (cond : State → Input → Prop)
    (related : State → Other → Prop)
    (matched : ∀ state other input, related state other → cond state input →
      matching input (first state input).2 (second other input).2 ∧ related (first state input).1
        (second other input).1)
    (start : State) (beside : Other) (initial : related start beside) (inputs : List Input)
    (meets : Meets (fun state input => (first state input).1) cond start inputs) :
    AnsweredAlike first second matching start beside inputs ∧
      related (run (fun state input => (first state input).1) start inputs)
        (run (fun other input => (second other input).1) beside inputs) := by
  induction inputs generalizing start beside with
  | nil => exact ⟨trivial, initial⟩
  | cons input rest ih =>
      obtain ⟨now, next⟩ := matched start beside input initial meets.1
      obtain ⟨later, last⟩ := ih (first start input).1 (second beside input).1 next meets.2
      exact ⟨⟨now, later⟩, last⟩

end Lockstep

end Transition
