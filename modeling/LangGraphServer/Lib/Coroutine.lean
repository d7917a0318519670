set_option autoImplicit false

namespace Coroutine

structure Interface where
  Op : Type
  Res : Op → Type
  Error : Type
  Item : Type

-- `await` is a scheduling point. A generator waits at a `yield` either for the next
-- request (`next`) or for the exception that closes it (`exit`). `abandon` lets go of a
-- generator that is still waiting; it is closed later, by somebody else.
inductive Coro (I : Interface) : Type → Type 1 where
  | ret {α : Type} (value : α) : Coro I α
  | raise {α : Type} (error : I.Error) : Coro I α
  | await {α : Type} (op : I.Op) (resume : Except I.Error (I.Res op) → Coro I α) : Coro I α
  | yield {α : Type} (item : I.Item) (next exit : Coro I α) : Coro I α
  | abandon {α : Type} (left : Coro I Unit) (rest : Coro I α) : Coro I α

namespace Coro

variable {I : Interface} {α β γ : Type}

def handle {α β : Type} : Coro I α → (Except I.Error α → Coro I β) → Coro I β
  | .ret value, next => next (.ok value)
  | .raise error, next => next (.error error)
  | .await op resume, next => .await op (fun answer => handle (resume answer) next)
  | .yield item more exit, next => .yield item (handle more next) (handle exit next)
  | .abandon left rest, next => .abandon left (handle rest next)

def ofExcept : Except I.Error α → Coro I α
  | .ok value => .ret value
  | .error error => .raise error

def bind (program : Coro I α) (next : α → Coro I β) : Coro I β :=
  handle program (fun outcome => match outcome with
    | .ok value => next value
    | .error error => .raise error)

instance : Monad (Coro I) where
  pure := .ret
  bind := bind

theorem handle_assoc (program : Coro I α) (next : Except I.Error α → Coro I β) (last : Except I.Error β → Coro I γ) :
    (program.handle next).handle last = program.handle (fun outcome => (next outcome).handle last) := by
  induction program with
  | ret value => rfl
  | raise error => rfl
  | await op resume ih =>
      simp only [handle]
      congr 1
      funext answer
      exact ih answer next
  | yield item more closing moreIh closingIh => simp only [handle, moreIh, closingIh]
  | abandon left rest _ restIh => simp only [handle, restIh]

theorem handle_of_except (program : Coro I α) : program.handle ofExcept = program := by
  induction program with
  | ret value => rfl
  | raise error => rfl
  | await op resume ih =>
      simp only [handle]
      congr 1
      funext answer
      exact ih answer
  | yield item more closing moreIh closingIh => simp only [handle, moreIh, closingIh]
  | abandon left rest _ restIh => simp only [handle, restIh]

instance : LawfulMonad (Coro I) := LawfulMonad.mk' (Coro I)
  (fun program => handle_of_except program)
  (fun _ _ => rfl)
  (fun program next last => by
    refine (handle_assoc program _ _).trans ?_
    refine congrArg (handle program) (funext fun outcome => ?_)
    cases outcome with
    | ok value => rfl
    | error error => rfl)

def perform (op : I.Op) : Coro I (I.Res op) := .await op ofExcept

def tryCatch (program : Coro I α) (handler : I.Error → Coro I α) : Coro I α :=
  handle program (fun outcome => match outcome with
    | .ok value => .ret value
    | .error error => handler error)

-- An exception in the cleanup replaces the outcome of the program.
def tryFinally (program : Coro I α) (cleanup : Coro I Unit) : Coro I α :=
  handle program (fun outcome => handle cleanup (fun cleaned => match cleaned with
    | .ok () => ofExcept outcome
    | .error error => .raise error))

def yieldItem (closed : I.Error) (item : I.Item) : Coro I Unit := .yield item (.ret ()) (.raise closed)

def void (program : Coro I α) : Coro I Unit :=
  handle program (fun outcome => match outcome with
    | .ok _ => .ret ()
    | .error error => .raise error)

-- `async for item in generator: body`. Leaving the loop by an exception of the body does
-- not close the generator.
def forEach {α : Type} : Coro I α → (I.Item → Coro I Unit) → Coro I Unit
  | .ret _, _ => .ret ()
  | .raise error, _ => .raise error
  | .await op resume, body => .await op (fun answer => forEach (resume answer) body)
  | .yield item next exit, body => handle (body item) (fun outcome => match outcome with
      | .ok () => forEach next body
      | .error error => .abandon (void exit) (.raise error))
  | .abandon left rest, body => .abandon left (forEach rest body)

def Ended {α : Type} : Coro I α → Prop
  | .ret _ => True
  | .raise _ => True
  | _ => False

instance {α : Type} : (program : Coro I α) → Decidable program.Ended
  | .ret _ => .isTrue trivial
  | .raise _ => .isTrue trivial
  | .await _ _ => .isFalse id
  | .yield _ _ _ => .isFalse id
  | .abandon _ _ => .isFalse id

-- A coroutine that is no generator and awaits only certain operations.
def Uses {α : Type} (allowed : I.Op → Prop) : Coro I α → Prop
  | .ret _ => True
  | .raise _ => True
  | .await op resume => allowed op ∧ ∀ answer, Uses allowed (resume answer)
  | .yield _ _ _ => False
  | .abandon _ _ => False

theorem uses_handle (allowed : I.Op → Prop) (program : Coro I α) (next : Except I.Error α → Coro I β)
    (first : program.Uses allowed) (rest : ∀ outcome, (next outcome).Uses allowed) :
    (program.handle next).Uses allowed := by
  induction program with
  | ret value => exact rest (.ok value)
  | raise error => exact rest (.error error)
  | await op resume ih => exact ⟨first.1, fun answer => ih answer next (first.2 answer) rest⟩
  | yield item next closing => exact first.elim
  | abandon left rest => exact first.elim

theorem uses_bind (allowed : I.Op → Prop) (program : Coro I α) (next : α → Coro I β)
    (first : program.Uses allowed) (rest : ∀ value, (next value).Uses allowed) :
    (program >>= next).Uses allowed := by
  apply uses_handle allowed program _ first
  intro outcome
  cases outcome with
  | ok value => exact rest value
  | error error => trivial

theorem uses_try_catch (allowed : I.Op → Prop) (program : Coro I α) (handler : I.Error → Coro I α)
    (first : program.Uses allowed) (rest : ∀ error, (handler error).Uses allowed) :
    (program.tryCatch handler).Uses allowed := by
  apply uses_handle allowed program _ first
  intro outcome
  cases outcome with
  | ok value => trivial
  | error error => exact rest error

theorem uses_finally (allowed : I.Op → Prop) (program : Coro I α) (cleanup : Coro I Unit)
    (first : program.Uses allowed) (cleans : cleanup.Uses allowed) : (program.tryFinally cleanup).Uses allowed := by
  apply uses_handle allowed program _ first
  intro outcome
  apply uses_handle allowed cleanup _ cleans
  intro cleaned
  cases cleaned with
  | ok value => cases outcome <;> trivial
  | error error => trivial

theorem uses_of_except (allowed : I.Op → Prop) (outcome : Except I.Error α) : (ofExcept outcome).Uses allowed := by
  cases outcome with
  | ok value => trivial
  | error error => trivial

theorem uses_perform (allowed : I.Op → Prop) (op : I.Op) (member : allowed op) :
    (perform op).Uses allowed := ⟨member, uses_of_except allowed⟩

theorem uses_mono (small large : I.Op → Prop) (imp : ∀ op, small op → large op) (program : Coro I α)
    (uses : program.Uses small) : program.Uses large := by
  induction program with
  | ret value => trivial
  | raise error => trivial
  | await op resume ih => exact ⟨imp op uses.1, fun answer => ih answer (uses.2 answer)⟩
  | yield item next closing => exact uses.elim
  | abandon left rest => exact uses.elim

def Awaits {α : Type} (allowed : I.Op → Prop) : Coro I α → Prop
  | .ret _ => True
  | .raise _ => True
  | .await op resume => allowed op ∧ ∀ answer, Awaits allowed (resume answer)
  | .yield _ next exit => Awaits allowed next ∧ Awaits allowed exit
  | .abandon left rest => Awaits allowed left ∧ Awaits allowed rest

variable {allowed : I.Op → Prop}

theorem awaits_uses (small : I.Op → Prop) (imp : ∀ op, small op → allowed op) (program : Coro I α)
    (uses : program.Uses small) : program.Awaits allowed := by
  induction program with
  | ret value => trivial
  | raise error => trivial
  | await op resume ih => exact ⟨imp op uses.1, fun answer => ih answer (uses.2 answer)⟩
  | yield item next closing => exact uses.elim
  | abandon left rest => exact uses.elim

theorem awaits_mono (small : I.Op → Prop) (imp : ∀ op, small op → allowed op) (program : Coro I α)
    (awaits : program.Awaits small) : program.Awaits allowed := by
  induction program with
  | ret value => trivial
  | raise error => trivial
  | await op resume ih => exact ⟨imp op awaits.1, fun answer => ih answer (awaits.2 answer)⟩
  | yield item more closing moreIh closingIh => exact ⟨moreIh awaits.1, closingIh awaits.2⟩
  | abandon left rest leftIh restIh => exact ⟨leftIh awaits.1, restIh awaits.2⟩

theorem awaits_of_except (outcome : Except I.Error α) : (ofExcept outcome).Awaits allowed := by
  cases outcome <;> trivial

theorem awaits_perform (op : I.Op) (member : allowed op) : (perform op).Awaits allowed := ⟨member, awaits_of_except⟩

theorem awaits_handle (program : Coro I α) (next : Except I.Error α → Coro I β) (first : program.Awaits allowed)
    (rest : ∀ outcome, (next outcome).Awaits allowed) : (program.handle next).Awaits allowed := by
  induction program with
  | ret value => exact rest (.ok value)
  | raise error => exact rest (.error error)
  | await op resume ih => exact ⟨first.1, fun answer => ih answer next (first.2 answer) rest⟩
  | yield item more closing moreIh closingIh => exact ⟨moreIh next first.1 rest, closingIh next first.2 rest⟩
  | abandon left goes _ goesIh => exact ⟨first.1, goesIh next first.2 rest⟩

theorem awaits_bind (program : Coro I α) (next : α → Coro I β) (first : program.Awaits allowed)
    (rest : ∀ value, (next value).Awaits allowed) : (program >>= next).Awaits allowed := by
  refine awaits_handle program _ first (fun outcome => ?_)
  cases outcome with
  | ok value => exact rest value
  | error error => trivial

theorem awaits_except_bind (outcome : Except I.Error α) (next : α → Coro I β)
    (rest : ∀ value, outcome = .ok value → (next value).Awaits allowed) :
    (ofExcept outcome >>= next).Awaits allowed := by
  cases outcome with
  | ok value => exact rest value rfl
  | error error => trivial

theorem awaits_catch (program : Coro I α) (handler : I.Error → Coro I α) (first : program.Awaits allowed)
    (rest : ∀ error, (handler error).Awaits allowed) : (program.tryCatch handler).Awaits allowed := by
  refine awaits_handle program _ first (fun outcome => ?_)
  cases outcome with
  | ok value => trivial
  | error error => exact rest error

theorem awaits_finally (program : Coro I α) (cleanup : Coro I Unit) (first : program.Awaits allowed)
    (cleans : cleanup.Awaits allowed) : (program.tryFinally cleanup).Awaits allowed := by
  refine awaits_handle program _ first (fun outcome => awaits_handle cleanup _ cleans (fun cleaned => ?_))
  cases cleaned with
  | ok value => exact awaits_of_except outcome
  | error error => trivial

theorem awaits_void (program : Coro I α) (first : program.Awaits allowed) : program.void.Awaits allowed := by
  refine awaits_handle program _ first (fun outcome => ?_)
  cases outcome <;> trivial

theorem awaits_for_each (generator : Coro I α) (body : I.Item → Coro I Unit) (generates : generator.Awaits allowed)
    (serves : ∀ item, (body item).Awaits allowed) : (generator.forEach body).Awaits allowed := by
  induction generator with
  | ret value => trivial
  | raise error => trivial
  | await op resume ih => exact ⟨generates.1, fun answer => ih answer (generates.2 answer)⟩
  | yield item more closing moreIh _ =>
      refine awaits_handle (body item) _ (serves item) (fun outcome => ?_)
      cases outcome with
      | ok value => exact moreIh generates.1
      | error error => exact ⟨awaits_void closing generates.2, trivial⟩
  | abandon left rest _ restIh => exact ⟨generates.1, restIh generates.2⟩

end Coro

end Coroutine
