import LangGraphServer.Lib.Scoped
import LangGraphServer.Server.Models

set_option autoImplicit false

namespace LangGraphServer

open Scoped

inductive AppConfig (C : Type) where
  | config (config : C)
  | foreign (object : PyObj)

-- A checkpointer, as far as `getattr` and `callable` tell.
structure CheckpointerObject where
  identity : Nat
  aenter : Bool
  aexit : Bool
  aclose : Bool

inductive LifeCall where
  | aenter (checkpointer : Nat)
  | aexit (checkpointer : Nat) (outcome : Except ServerError Unit)
  | aclose (checkpointer : Nat)

def CheckpointerObject.manages (object : CheckpointerObject) : Bool := object.aenter && object.aexit

-- What happens over the life of an application. A request comes through a router that may
-- be bound to a configuration, and finds one.
inductive LifeEvent (C : Type) where
  | entering (checkpointer : Nat) (entered : Bool)
  | exiting (checkpointer : Nat)
  | closing (checkpointer : Nat)
  | served (bound : Option C) (found : Except ServerError C)

-- The events are a ghost.
structure Application (C : Type) where
  langgraphConfig : Option (AppConfig C)
  events : List (LifeEvent C)

inductive Life (C : Type) where
  | done
  | fail (error : ServerError)
  | request (bound : Option C) (rest : Life C)
  | caught (inner rest : Life C)
  | within (config : C) (inner rest : Life C)

section Lifespans

variable {C : Type}

def getServerConfig (requestConfig appConfig : Option (AppConfig C)) : Except ServerError C :=
  match requestConfig.or appConfig with
  | some (.config config) => .ok config
  | _ => .error (.raised "RuntimeError" "LangGraph server config is not initialized")

def Application.recorded (app : Application C) (event : LifeEvent C) : Application C :=
    { app with events := app.events ++ [event] }

-- What the checkpointers do is not known; it may depend on all that happened.
variable (answers : List (LifeEvent C) → LifeCall → Except ServerError Bool)
    (checkpointer : C → Option CheckpointerObject)

def asked (call : LifeCall) (event : Bool → LifeEvent C) (app : Application C) :
    Except ServerError Bool × Application C :=
  (answers app.events call, app.recorded (event (answers app.events call).toBool))

-- `__aenter__` says whether it returns the checkpointer itself.
def CheckpointerObject.manager (object : CheckpointerObject) : Manager (Application C) ServerError Bool where
  enter := asked answers (.aenter object.identity) (.entering object.identity)
  leave outcome := asked answers (.aexit object.identity outcome) (fun _ => .exiting object.identity)

def CheckpointerObject.close (object : CheckpointerObject) : Action (Application C) ServerError := fun app =>
  if object.aclose = true then
    let (answer, after) := asked answers (.aclose object.identity) (fun _ => .closing object.identity) app
    (answer.map (fun _ => ()), after)
  else (.ok (), app)

def checkpointerLifespan (given : Option CheckpointerObject) : Generator (Application C) ServerError := fun body app =>
  match given with
  | none => ((body app).1.map (fun _ => true), (body app).2)
  | some object =>
      if object.manages = true then
        (object.manager answers).around id (fun entered => if entered = true then body else fun inside =>
          (.error (.raised "RuntimeError" "checkpointer context manager must return itself"), inside)) app
      else tryFinally (fun start => ((body start).1.map (fun _ => true), (body start).2)) (object.close answers) app

def didNotYield : ServerError := .raised "RuntimeError" "generator didn't yield"

def restored (previous : Option (AppConfig C)) : Action (Application C) ServerError := fun app =>
  match previous with
  | some config => (.ok (), { app with langgraphConfig := some config })
  | none => match app.langgraphConfig with
    | some _ => (.ok (), { app with langgraphConfig := none })
    | none => (.error (.raised "KeyError" "langgraph_config"), app)

def langgraphLifespan (config : C) (body : Action (Application C) ServerError) : Action (Application C) ServerError :=
    fun app =>
  tryFinally (contextManager didNotYield (checkpointerLifespan answers (checkpointer config)) body)
    (restored app.langgraphConfig) { app with langgraphConfig := some (.config config) }

def Life.run : Life C → Action (Application C) ServerError
  | .done, app => (.ok (), app)
  | .fail error, app => (.error error, app)
  | .request bound rest, app =>
      rest.run (app.recorded (.served bound (getServerConfig (bound.map .config) app.langgraphConfig)))
  | .caught inner rest, app => rest.run (inner.run app).2
  | .within config inner rest, app =>
      match langgraphLifespan answers checkpointer config inner.run app with
      | (.ok _, after) => rest.run after
      | (.error error, after) => (.error error, after)

-- What a request finds: the configuration its router is bound to, otherwise the current one,
-- otherwise an error.
inductive Finds : Option C → Option (AppConfig C) → Except ServerError C → Prop where
  | bound (config : C) (current : Option (AppConfig C)) : Finds (some config) current (.ok config)
  | current (config : C) : Finds none (some (.config config)) (.ok config)
  | nothing (current : Option (AppConfig C)) : (∀ config, current ≠ some (.config config)) →
      Finds none current (.error (.raised "RuntimeError" "LangGraph server config is not initialized"))

theorem get_server_config_finds (bound : Option C) (current : Option (AppConfig C)) :
    Finds bound current (getServerConfig (bound.map .config) current) := by
  cases bound with
  | some config => exact .bound config current
  | none =>
      cases current with
      | none => exact .nothing none (fun config same => by cases same)
      | some present =>
          cases present with
          | config config => exact .current config
          | foreign object => exact .nothing _ (fun config same => by cases same)

-- What happens around the code of a lifespan. A checkpointer that is entered is left after
-- all that happens within, and one that can only be closed is closed then.
inductive Around (given : Option CheckpointerObject) (held : List (LifeEvent C)) : List (LifeEvent C) → Prop where
  | bare (idle : ∀ object, given = some object → object.manages = false ∧ object.aclose = false) :
      Around given held held
  | managed (object : CheckpointerObject) (same : given = some object) (manages : object.manages = true) :
      Around given held (.entering object.identity true :: (held ++ [.exiting object.identity]))
  | closed (object : CheckpointerObject) (same : given = some object)
      (closes : object.manages = false ∧ object.aclose = true) : Around given held (held ++ [.closing object.identity])

-- The events of a life while a configuration is the current one: within a lifespan it is the
-- lifespan's own. The code of a lifespan does not run where the checkpointer is not entered
-- or another object is, and what follows a lifespan does not where it raises.
inductive Nested : Life C → Option (AppConfig C) → List (LifeEvent C) → Prop where
  | done (current : Option (AppConfig C)) : Nested .done current []
  | fail (error : ServerError) (current : Option (AppConfig C)) : Nested (.fail error) current []
  | request (bound : Option C) (rest : Life C) (current : Option (AppConfig C)) (found : Except ServerError C)
      (events : List (LifeEvent C)) (finds : Finds bound current found) (later : Nested rest current events) :
      Nested (.request bound rest) current (.served bound found :: events)
  | caught (inner rest : Life C) (current : Option (AppConfig C)) (held events : List (LifeEvent C))
      (first : Nested inner current held) (later : Nested rest current events) :
      Nested (.caught inner rest) current (held ++ events)
  | refused (config : C) (inner rest : Life C) (current : Option (AppConfig C)) (object : CheckpointerObject)
      (given : checkpointer config = some object) (manages : object.manages = true) :
      Nested (.within config inner rest) current [.entering object.identity false]
  | foreign (config : C) (inner rest : Life C) (current : Option (AppConfig C)) (object : CheckpointerObject)
      (given : checkpointer config = some object) (manages : object.manages = true) :
      Nested (.within config inner rest) current [.entering object.identity true, .exiting object.identity]
  | raised (config : C) (inner rest : Life C) (current : Option (AppConfig C)) (held lived : List (LifeEvent C))
      (within : Nested inner (some (.config config)) held) (around : Around (checkpointer config) held lived) :
      Nested (.within config inner rest) current lived
  | lived (config : C) (inner rest : Life C) (current : Option (AppConfig C)) (held lived events : List (LifeEvent C))
      (within : Nested inner (some (.config config)) held) (around : Around (checkpointer config) held lived)
      (later : Nested rest current events) : Nested (.within config inner rest) current (lived ++ events)

structure Leaves (life : Life C) (app after : Application C) : Prop where
  config : after.langgraphConfig = app.langgraphConfig
  nested : ∃ events, after.events = app.events ++ events ∧ Nested checkpointer life app.langgraphConfig events

variable {checkpointer}

-- What a lifespan did before it puts the configuration back. If it did not raise, its code ran.
structure Lived (checkpointer : C → Option CheckpointerObject) (config : C) (inner : Life C)
    (app : Application C) (reached : Prop) (after : Application C) : Prop where
  current : after.langgraphConfig = some (.config config)
  nested : ∃ lived, after.events = app.events ++ lived ∧
    (∀ rest, Nested checkpointer (.within config inner rest) app.langgraphConfig lived) ∧
    (reached → ∃ held, Nested checkpointer inner (some (.config config)) held ∧
      Around (checkpointer config) held lived)

theorem asked_answer (call : LifeCall) (event : Bool → LifeEvent C) (app after : Application C)
    (answer : Except ServerError Bool)
    (outcome : asked answers call event app = (answer, after)) : after = app.recorded (event answer.toBool) := by
  cases outcome
  rfl

theorem lived_around (config : C) (inner : Life C) (app after : Application C) (reached : Prop)
    (same : after.langgraphConfig = some (.config config)) (held lived : List (LifeEvent C))
    (made : after.events = app.events ++ lived) (within : Nested checkpointer inner (some (.config config)) held)
    (around : Around (checkpointer config) held lived) : Lived checkpointer config inner app reached after :=
  ⟨same, lived, made, fun rest => .raised config inner rest _ held lived within around, fun _ => ⟨held, within, around⟩⟩

theorem managed_lived (config : C) (inner : Life C) (object : CheckpointerObject)
    (given : checkpointer config = some object) (manages : object.manages = true)
    (body other : Action (Application C) ServerError)
    (leaves : ∀ start, Leaves checkpointer inner start (body start).2) (idle : ∀ start, (other start).2 = start)
    (app : Application C) (outcome : Except ServerError Bool × Application C)
    (ran : (object.manager answers).around id (fun entered => if entered = true then body else other)
      { app with langgraphConfig := some (.config config) } = outcome) :
    Lived checkpointer config inner app (outcome.1 = .ok true) outcome.2 := by
  subst ran
  rcases around_leaves (object.manager answers) id (fun entered => if entered = true then body else other)
    { app with langgraphConfig := some (.config config) } with
    ⟨error, entered, entering, left⟩ | ⟨value, entered, entering, left, yields⟩
  · rw [left, asked_answer answers _ _ _ entered _ entering]
    exact ⟨rfl, [.entering object.identity false], rfl, fun rest => .refused config inner rest _ object given manages,
      fun reached => by cases reached⟩
  · have started : entered = ({ app with langgraphConfig := some (.config config) } : Application C).recorded
        (.entering object.identity true) := asked_answer answers _ _ _ entered _ entering
    subst started
    rw [left]
    cases value with
    | false =>
        simp only [Bool.false_eq_true, if_false, idle]
        refine ⟨rfl, [.entering object.identity true, .exiting object.identity], ?_,
          fun rest => .foreign config inner rest _ object given manages, fun reached => ?_⟩
        · exact List.append_assoc _ _ _
        · cases yields true reached
    | true =>
        obtain ⟨same, events, made, nested⟩ := leaves
          (({ app with langgraphConfig := some (.config config) } : Application C).recorded
            (.entering object.identity true))
        refine lived_around config inner app _ _ same events _ ?_ nested (.managed object given manages)
        refine (congrArg (· ++ [LifeEvent.exiting object.identity]) made).trans ?_
        simp [Application.recorded]

theorem checkpointer_lifespan_lived (config : C) (inner : Life C) (body : Action (Application C) ServerError)
    (leaves : ∀ start, Leaves checkpointer inner start (body start).2) (app : Application C) :
    Lived checkpointer config inner app
      ((checkpointerLifespan answers (checkpointer config) body
        { app with langgraphConfig := some (.config config) }).1 = .ok true)
      (checkpointerLifespan answers (checkpointer config) body
        { app with langgraphConfig := some (.config config) }).2 := by
  obtain ⟨same, events, made, nested⟩ := leaves { app with langgraphConfig := some (.config config) }
  cases given : checkpointer config with
  | none =>
      refine lived_around config inner app _ _ same events events made nested (.bare (fun object found => ?_))
      rw [given] at found
      cases found
  | some object =>
      rw [checkpointerLifespan]
      cases manages : object.manages with
      | true => exact managed_lived answers config inner object given manages body _ leaves (fun _ => rfl) app _ rfl
      | false =>
          rw [if_neg Bool.false_ne_true, try_finally_leaves, CheckpointerObject.close]
          cases closes : object.aclose with
          | true =>
              refine lived_around config inner app _ _ same events (events ++ [.closing object.identity]) ?_ nested
                (.closed object given ⟨manages, closes⟩)
              simp [asked, Application.recorded, made]
          | false =>
              refine lived_around config inner app _ _ same events events made nested (.bare (fun other found => ?_))
              rw [given] at found
              cases found
              exact ⟨manages, closes⟩

theorem restored_leaves (app after : Application C) (config : C)
    (same : after.langgraphConfig = some (.config config)) :
    (restored app.langgraphConfig after).2 = { after with langgraphConfig := app.langgraphConfig } := by
  cases app.langgraphConfig with
  | some config => rfl
  | none => simp only [restored, same]

theorem lifespan_leaves (config : C) (inner : Life C) (body : Action (Application C) ServerError)
    (leaves : ∀ start, Leaves checkpointer inner start (body start).2) (app : Application C) :
    (langgraphLifespan answers checkpointer config body app).2.langgraphConfig = app.langgraphConfig ∧
      ∃ lived, (langgraphLifespan answers checkpointer config body app).2.events = app.events ++ lived ∧
        (∀ rest, Nested checkpointer (.within config inner rest) app.langgraphConfig lived) ∧
        ((langgraphLifespan answers checkpointer config body app).1 = .ok () →
          ∃ held, Nested checkpointer inner (some (.config config)) held ∧
            Around (checkpointer config) held lived) := by
  obtain ⟨same, lived, made, nested, reached⟩ := checkpointer_lifespan_lived answers config inner body leaves app
  have left := try_finally_leaves
    (contextManager didNotYield (checkpointerLifespan answers (checkpointer config)) body)
    (restored app.langgraphConfig) { app with langgraphConfig := some (.config config) }
  rw [context_manager_leaves, restored_leaves app _ config same] at left
  rw [langgraphLifespan, left]
  refine ⟨rfl, lived, made, nested, fun ended => reached ?_⟩
  exact context_manager_ended _ _ _ _ (try_finally_ended _ _ _ _ ended)

theorem life_leaves (life : Life C) (app : Application C) :
    Leaves checkpointer life app (life.run answers checkpointer app).2 := by
  induction life generalizing app with
  | done => exact ⟨rfl, [], (List.append_nil _).symm, .done _⟩
  | fail error => exact ⟨rfl, [], (List.append_nil _).symm, .fail error _⟩
  | request bound rest ih =>
      obtain ⟨same, events, made, nested⟩ := ih
        (app.recorded (.served bound (getServerConfig (bound.map .config) app.langgraphConfig)))
      refine ⟨same, _, made.trans (List.append_assoc _ _ _), ?_⟩
      exact .request bound rest _ _ events (get_server_config_finds bound app.langgraphConfig) nested
  | caught inner rest ihInner ihRest =>
      obtain ⟨same, held, made, nested⟩ := ihInner app
      obtain ⟨again, events, later, following⟩ := ihRest (inner.run answers checkpointer app).2
      refine ⟨again.trans same, held ++ events, ?_, .caught inner rest _ held events nested (same ▸ following)⟩
      rw [Life.run, later, made, List.append_assoc]
  | within config inner rest ihInner ihRest =>
      obtain ⟨same, lived, made, nested, reached⟩ :=
        lifespan_leaves answers config inner (inner.run answers checkpointer) ihInner app
      rw [Life.run]
      split
      · rename_i after ended
        rw [ended] at same made reached
        obtain ⟨held, within, around⟩ := reached rfl
        obtain ⟨again, events, later, following⟩ := ihRest after
        refine ⟨again.trans same, lived ++ events, ?_, ?_⟩
        · rw [later, made, List.append_assoc]
        · exact .lived config inner rest _ held lived events within around (same ▸ following)
      · rename_i error after raised
        rw [raised] at same made
        exact ⟨same, lived, made, nested rest⟩

def LifeEvent.enters (identity : Nat) : LifeEvent C → Bool
  | .entering checkpointer true => decide (checkpointer = identity)
  | _ => false

def LifeEvent.exits (identity : Nat) : LifeEvent C → Bool
  | .exiting checkpointer => decide (checkpointer = identity)
  | _ => false

theorem around_balanced (given : Option CheckpointerObject) (held lived : List (LifeEvent C))
    (around : Around given held lived) (identity : Nat)
    (balanced : held.countP (LifeEvent.enters identity) = held.countP (LifeEvent.exits identity)) :
    lived.countP (LifeEvent.enters identity) = lived.countP (LifeEvent.exits identity) := by
  cases around with
  | bare idle => exact balanced
  | managed object same manages => simp [LifeEvent.enters, LifeEvent.exits, List.countP_cons, balanced]
  | closed object same closes => simp [LifeEvent.enters, LifeEvent.exits, balanced]

theorem nested_balanced (life : Life C) (current : Option (AppConfig C)) (events : List (LifeEvent C))
    (nested : Nested checkpointer life current events) (identity : Nat) :
    events.countP (LifeEvent.enters identity) = events.countP (LifeEvent.exits identity) := by
  induction nested with
  | done current => rfl
  | fail error current => rfl
  | request bound rest current found events _ _ ih => simpa [LifeEvent.enters, LifeEvent.exits] using ih
  | caught inner rest current held events _ _ ihFirst ihLater => simp [ihFirst, ihLater]
  | refused config inner rest current object => rfl
  | foreign config inner rest current object =>
      simp [LifeEvent.enters, LifeEvent.exits, List.countP_cons]
  | raised config inner rest current held lived _ around ih => exact around_balanced _ held lived around identity ih
  | lived config inner rest current held lived events _ around _ ihWithin ihLater =>
      rw [List.countP_append, List.countP_append, around_balanced _ held lived around identity ihWithin, ihLater]

-- In every prefix nothing is left that was not entered.
def Ordered (identity : Nat) (events : List (LifeEvent C)) : Prop :=
  ∀ front, front <+: events → front.countP (LifeEvent.exits identity) ≤ front.countP (LifeEvent.enters identity)

theorem ordered_append (identity : Nat) (first second : List (LifeEvent C)) (ordered : Ordered identity first)
    (balanced : first.countP (LifeEvent.enters identity) = first.countP (LifeEvent.exits identity))
    (later : Ordered identity second) : Ordered identity (first ++ second) := by
  rintro front ⟨rest, whole⟩
  rcases List.append_eq_append_iff.mp whole with ⟨more, rfl, _⟩ | ⟨after, rfl, rfl⟩
  · exact ordered front ⟨more, rfl⟩
  · rw [List.countP_append, List.countP_append, balanced]
    exact Nat.add_le_add_left (later after ⟨rest, rfl⟩) _

theorem ordered_cons (identity : Nat) (event : LifeEvent C) (events : List (LifeEvent C))
    (quiet : event.exits identity = false) (ordered : Ordered identity events) :
    Ordered identity (event :: events) := by
  intro front early
  rcases List.prefix_cons_iff.mp early with rfl | ⟨later, rfl, shorter⟩
  · exact Nat.zero_le _
  · rw [List.countP_cons_of_neg (by simp [quiet])]
    exact (ordered later shorter).trans ((List.sublist_cons_self event later).countP_le)

theorem ordered_managed (identity checkpointer : Nat) (held : List (LifeEvent C)) (ordered : Ordered identity held)
    (balanced : held.countP (LifeEvent.enters identity) = held.countP (LifeEvent.exits identity)) :
    Ordered identity (.entering checkpointer true :: (held ++ [.exiting checkpointer])) := by
  intro front early
  rcases List.prefix_cons_iff.mp early with rfl | ⟨opened, rfl, shorter⟩
  · exact Nat.zero_le _
  · have closing : (LifeEvent.entering checkpointer true :: opened).countP (LifeEvent.exits identity) =
        opened.countP (LifeEvent.exits identity) := by simp [LifeEvent.exits]
    rw [closing, List.countP_cons]
    rcases List.prefix_concat_iff.mp shorter with rfl | inside
    · by_cases own : checkpointer = identity <;> simp [LifeEvent.enters, LifeEvent.exits, own, balanced]
    · exact Nat.le_add_right_of_le (ordered opened inside)

theorem around_ordered (given : Option CheckpointerObject) (held lived : List (LifeEvent C))
    (around : Around given held lived) (identity : Nat) (ordered : Ordered identity held)
    (balanced : held.countP (LifeEvent.enters identity) = held.countP (LifeEvent.exits identity)) :
    Ordered identity lived := by
  cases around with
  | bare idle => exact ordered
  | managed object same manages => exact ordered_managed identity object.identity held ordered balanced
  | closed object same closes =>
      exact ordered_append identity held _ ordered balanced (ordered_cons identity _ [] rfl (fun front early => by
        simp [List.prefix_nil.mp early]))

theorem nested_ordered (life : Life C) (current : Option (AppConfig C)) (events : List (LifeEvent C))
    (nested : Nested checkpointer life current events) (identity : Nat) : Ordered identity events := by
  have nothing : Ordered identity ([] : List (LifeEvent C)) := fun front early => by simp [List.prefix_nil.mp early]
  induction nested with
  | done current => exact nothing
  | fail error current => exact nothing
  | request bound rest current found events _ _ ih => exact ordered_cons identity _ events rfl ih
  | caught inner rest current held events first _ ihFirst ihLater =>
      exact ordered_append identity held events ihFirst (nested_balanced inner current held first identity) ihLater
  | refused config inner rest current object => exact ordered_cons identity _ [] rfl nothing
  | foreign config inner rest current object => exact ordered_managed identity object.identity [] nothing rfl
  | raised config inner rest current held lived within around ih =>
      exact around_ordered _ held lived around identity ih (nested_balanced inner _ held within identity)
  | lived config inner rest current held lived events within around _ ihWithin ihLater =>
      have balanced := nested_balanced inner _ held within identity
      exact ordered_append identity lived events (around_ordered _ held lived around identity ihWithin balanced)
        (around_balanced _ held lived around identity balanced) ihLater

structure WellNested (checkpointer : C → Option CheckpointerObject) (life : Life C) (app after : Application C)
    (events : List (LifeEvent C)) : Prop where
  config : after.langgraphConfig = app.langgraphConfig
  recorded : after.events = app.events ++ events
  nested : Nested checkpointer life app.langgraphConfig events
  balanced : ∀ identity, events.countP (LifeEvent.enters identity) = events.countP (LifeEvent.exits identity)
  ordered : ∀ identity, Ordered identity events

end Lifespans

-- However the checkpointers behave and whatever fails, lifespans leave the application as
-- they found it.
theorem lifespans_nest {C : Type} (answers : List (LifeEvent C) → LifeCall → Except ServerError Bool)
    (checkpointer : C → Option CheckpointerObject) (life : Life C) (app : Application C) :
    ∃ events, WellNested checkpointer life app (life.run answers checkpointer app).2 events := by
  obtain ⟨same, events, made, nested⟩ := @life_leaves C answers checkpointer life app
  exact ⟨events, same, made, nested, nested_balanced life _ events nested, nested_ordered life _ events nested⟩

end LangGraphServer
