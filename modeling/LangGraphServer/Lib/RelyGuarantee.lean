import Mathlib.Data.List.Pairwise
import LangGraphServer.Lib.Pool
import LangGraphServer.Lib.Run

set_option autoImplicit false

namespace Coroutine

universe u

variable {I : Interface} {State Id : Type}

abbrev Post (I : Interface) (State α : Type) := Except I.Error α → State → Prop

-- What the consumer of a generator makes of an item: `more` is what the generator does
-- when asked for the next item, `closed` what it does when it is closed instead.
structure Consumer (I : Interface) (State : Type) where
  accepts : I.Item → (State → Prop) → (State → Prop) → State → Prop
  mono : ∀ item more more' closed closed' state, (∀ after, more after → more' after) →
    (∀ after, closed after → closed' after) → accepts item more closed state → accepts item more' closed' state

def Consumer.anything : Consumer I State := ⟨fun _ _ _ _ => True, fun _ _ _ _ _ _ _ _ _ => trivial⟩

-- Rely–guarantee reasoning about a machine. `permits` and `abandons` say which turns are
-- considered at all, `leaves` when an interrupted operation may leave its work behind.
structure Discipline (machine : Machine I State Id) where
  inv : State → Prop
  rely : Id → State → State → Prop
  guar : Id → State → State → Prop
  permits : Id → I.Op → Option I.Error → State → Prop
  abandons : Id → State → Prop
  leaves : Id → I.Op → State → Prop
  rely_refl : ∀ id state, rely id state state
  rely_trans : ∀ id first second third, rely id first second → rely id second third → rely id first third

namespace Discipline

variable {machine : Machine I State Id} (discipline : Discipline machine)

structure Allows (id : Id) (before after : State) : Prop where
  inv : discipline.inv after
  guar : discipline.guar id before after

-- The weakest precondition under interference. Others may act before every await; the
-- second postcondition is for a generator that is closed at one of its yields.
def wp : {α : Type} → Consumer I State → Id → Coro I α → Post I State α → Post I State α → State → Prop
  | _, _, _, .ret value, post, _, state => post (.ok value) state
  | _, _, _, .raise error, post, _, state => post (.error error) state
  | _, consumer, id, .await op resume, post, exit, state =>
      ∀ now, discipline.rely id state now → discipline.inv now →
        (discipline.permits id op none now →
          discipline.Allows id now (machine.perform id op now).1 ∧
            wp consumer id (resume (machine.perform id op now).2) post exit (machine.perform id op now).1) ∧
        (∀ error, machine.interruptible id op error = true → discipline.permits id op (some error) now →
          discipline.Allows id now (machine.struck id op error now) ∧
            discipline.leaves id op (machine.struck id op error now) ∧
            wp consumer id (resume (.error error)) post exit (machine.struck id op error now))
  | _, consumer, id, .yield item next closing, post, exit, state =>
      consumer.accepts item (wp consumer id next post exit)
        (wp .anything (machine.helper id) closing exit exit) state
  | _, consumer, id, .abandon left rest, post, exit, state =>
      ∀ now, discipline.rely id state now → discipline.inv now → discipline.abandons id now →
        wp .anything (machine.helper id) left (fun _ _ => True) (fun _ _ => True) now ∧
          wp consumer id rest post exit now

theorem wp_mono {α : Type} (program : Coro I α) (consumer : Consumer I State) (id : Id)
    (post post' exit exit' : Post I State α) (state : State)
    (imp : ∀ outcome after, post outcome after → post' outcome after)
    (impExit : ∀ outcome after, exit outcome after → exit' outcome after)
    (safe : discipline.wp consumer id program post exit state) :
      discipline.wp consumer id program post' exit' state := by
  induction program generalizing consumer id state with
  | ret value => exact imp (.ok value) state safe
  | raise error => exact imp (.error error) state safe
  | await op resume ih =>
      intro now relied kept
      obtain ⟨goes, strikes⟩ := safe now relied kept
      constructor
      · intro permitted
        obtain ⟨allowed, rest⟩ := goes permitted
        apply And.intro allowed
        apply ih
        · exact imp
        · exact impExit
        · exact rest
      · intro error possible permitted
        obtain ⟨allowed, leaves, rest⟩ := strikes error possible permitted
        apply And.intro allowed
        apply And.intro leaves
        apply ih
        · exact imp
        · exact impExit
        · exact rest
  | yield item next closing nextIh closingIh =>
      apply consumer.mono item _ _ _ _ state _ _ safe
      · intro after continues
        apply nextIh
        · exact imp
        · exact impExit
        · exact continues
      · intro after closes
        apply closingIh
        · exact impExit
        · exact impExit
        · exact closes
  | abandon left rest _ restIh =>
      intro now relied kept leaving
      obtain ⟨leftSafe, restSafe⟩ := safe now relied kept leaving
      apply And.intro leftSafe
      apply restIh
      · exact imp
      · exact impExit
      · exact restSafe

theorem wp_rely {α : Type} (program : Coro I α) (id : Id) (post : Post I State α) (exit : Post I State α)
    (state now : State) (relied : discipline.rely id state now)
    (closed : ∀ outcome, post outcome state → post outcome now)
    (safe : discipline.wp .anything id program post exit state) : discipline.wp .anything id program post exit now := by
  cases program with
  | ret value => exact closed (.ok value) safe
  | raise error => exact closed (.error error) safe
  | await op resume =>
      intro later further
      exact safe later (discipline.rely_trans id state now later relied further)
  | yield item next closing => trivial
  | abandon left rest =>
      intro later further
      exact safe later (discipline.rely_trans id state now later relied further)

theorem wp_handle {α β : Type} (program : Coro I α) (next : Except I.Error α → Coro I β)
    (consumer : Consumer I State) (id : Id) (post exit : Post I State β) (state : State)
    (safe : discipline.wp consumer id program
      (fun outcome => discipline.wp consumer id (next outcome) post exit)
      (fun outcome => discipline.wp .anything (machine.helper id) (next outcome) exit exit) state) :
    discipline.wp consumer id (program.handle next) post exit state := by
  induction program generalizing consumer id state post with
  | ret value => exact safe
  | raise error => exact safe
  | await op resume ih =>
      intro now relied kept
      obtain ⟨goes, strikes⟩ := safe now relied kept
      constructor
      · intro permitted
        obtain ⟨allowed, rest⟩ := goes permitted
        apply And.intro allowed
        apply ih
        exact rest
      · intro error possible permitted
        obtain ⟨allowed, leaves, rest⟩ := strikes error possible permitted
        apply And.intro allowed
        apply And.intro leaves
        apply ih
        exact rest
  | yield item more closing moreIh closingIh =>
      apply consumer.mono item _ _ _ _ state _ _ safe
      · intro after continues
        apply moreIh
        exact continues
      · intro after closes
        apply closingIh
        rw [machine.helper_idem]
        exact closes
  | abandon left rest _ restIh =>
      intro now relied kept leaving
      obtain ⟨leftSafe, restSafe⟩ := safe now relied kept leaving
      apply And.intro leftSafe
      apply restIh
      exact restSafe

theorem wp_bind {α β : Type} (program : Coro I α) (next : α → Coro I β) (consumer : Consumer I State) (id : Id)
    (post exit : Post I State β) (state : State)
    (safe : discipline.wp consumer id program
      (fun outcome after => match outcome with
        | .ok value => discipline.wp consumer id (next value) post exit after
        | .error error => post (.error error) after)
      (fun outcome after => match outcome with
        | .ok value => discipline.wp .anything (machine.helper id) (next value) exit exit after
        | .error error => exit (.error error) after) state) :
    discipline.wp consumer id (program >>= next) post exit state := by
  apply discipline.wp_handle
  apply discipline.wp_mono program consumer id _ _ _ _ state _ _ safe
  · intro outcome after held
    cases outcome with
    | ok value => exact held
    | error error => exact held
  · intro outcome after held
    cases outcome with
    | ok value => exact held
    | error error => exact held

theorem wp_perform (op : I.Op) (consumer : Consumer I State) (id : Id) (post exit : Post I State (I.Res op))
    (state : State)
    (goes : ∀ now, discipline.rely id state now → discipline.inv now → discipline.permits id op none now →
      discipline.Allows id now (machine.perform id op now).1 ∧
        post (machine.perform id op now).2 (machine.perform id op now).1)
    (strikes : ∀ now, discipline.rely id state now → discipline.inv now → ∀ error,
      machine.interruptible id op error = true → discipline.permits id op (some error) now →
        discipline.Allows id now (machine.struck id op error now) ∧
          discipline.leaves id op (machine.struck id op error now) ∧
          post (.error error) (machine.struck id op error now)) :
    discipline.wp consumer id (.perform op) post exit state := by
  intro now relied kept
  constructor
  · intro permitted
    obtain ⟨allowed, held⟩ := goes now relied kept permitted
    apply And.intro allowed
    generalize (machine.perform id op now).2 = outcome at held
    cases outcome with
    | ok value => exact held
    | error error => exact held
  · exact strikes now relied kept

-- `async for`: the items go to the body, and what the body makes of them is what the
-- generator's consumer does.
def eachItem (consumer : Consumer I State) (id : Id) (body : I.Item → Coro I Unit) (post exit : Post I State Unit) :
    Consumer I State where
  accepts item more closed state := discipline.wp consumer id (body item)
    (fun outcome after => match outcome with
      | .ok () => more after
      | .error error => ∀ now, discipline.rely id after now → discipline.inv now → discipline.abandons id now →
          closed now ∧ post (.error error) now)
    (fun outcome after => match outcome with
      | .ok () => False
      | .error error => ∀ now, discipline.rely (machine.helper id) after now → discipline.inv now →
          discipline.abandons (machine.helper id) now → closed now ∧ exit (.error error) now) state
  mono item more more' closed closed' state continues closes := by
    apply discipline.wp_mono
    · intro outcome after held
      cases outcome with
      | ok value => exact continues after held
      | error error => exact fun now relied kept leaving =>
          ⟨closes now (held now relied kept leaving).1, (held now relied kept leaving).2⟩
    · intro outcome after held
      cases outcome with
      | ok value => exact held
      | error error => exact fun now relied kept leaving =>
          ⟨closes now (held now relied kept leaving).1, (held now relied kept leaving).2⟩

theorem wp_void {α : Type} (program : Coro I α) (id : Id) (state : State)
    (safe : discipline.wp .anything id program (fun _ _ => True) (fun _ _ => True) state) :
    discipline.wp .anything id program.void (fun _ _ => True) (fun _ _ => True) state := by
  apply discipline.wp_handle
  apply discipline.wp_mono program .anything id _ _ _ _ state _ _ safe
  · intro outcome after _
    cases outcome with
    | ok value => trivial
    | error error => trivial
  · intro outcome after _
    cases outcome with
    | ok value => trivial
    | error error => trivial

theorem wp_for_each {α : Type} (generator : Coro I α) (body : I.Item → Coro I Unit) (consumer : Consumer I State)
    (id : Id) (post exit : Post I State Unit) (state : State)
    (safe : discipline.wp (discipline.eachItem consumer id body post exit) id generator
      (fun outcome after => match outcome with
        | .ok _ => post (.ok ()) after
        | .error error => post (.error error) after)
      (fun _ _ => True) state) :
    discipline.wp consumer id (generator.forEach body) post exit state := by
  induction generator generalizing state with
  | ret value => exact safe
  | raise error => exact safe
  | await op resume ih =>
      intro now relied kept
      obtain ⟨goes, strikes⟩ := safe now relied kept
      constructor
      · intro permitted
        obtain ⟨allowed, rest⟩ := goes permitted
        exact ⟨allowed, ih _ _ rest⟩
      · intro error possible permitted
        obtain ⟨allowed, leaves, rest⟩ := strikes error possible permitted
        exact ⟨allowed, leaves, ih _ _ rest⟩
  | yield item next closing nextIh _ =>
      apply discipline.wp_handle
      apply discipline.wp_mono (body item) consumer id _ _ _ _ state _ _ safe
      · intro outcome after held
        cases outcome with
        | ok value => exact nextIh after held
        | error error =>
            intro now relied kept leaving
            obtain ⟨closes, raised⟩ := held now relied kept leaving
            exact ⟨discipline.wp_void closing (machine.helper id) now closes, raised⟩
      · intro outcome after held
        cases outcome with
        | ok value => exact held.elim
        | error error =>
            intro now relied kept leaving
            obtain ⟨closes, raised⟩ := held now relied kept leaving
            rw [machine.helper_idem]
            exact ⟨discipline.wp_void closing (machine.helper id) now closes, raised⟩
  | abandon left rest _ restIh =>
      intro now relied kept leaving
      obtain ⟨leftSafe, restSafe⟩ := safe now relied kept leaving
      exact ⟨leftSafe, restIh now restSafe⟩

structure Keeps (id : Id) (allowed : I.Op → Prop) (assertion : State → Prop) : Prop where
  stable : ∀ state now, discipline.rely id state now → discipline.inv now → assertion state → assertion now
  goes : ∀ op now, allowed op → discipline.inv now → assertion now → discipline.permits id op none now →
    discipline.Allows id now (machine.perform id op now).1 ∧ assertion (machine.perform id op now).1
  strikes : ∀ op now error, allowed op → discipline.inv now → assertion now →
    machine.interruptible id op error = true → discipline.permits id op (some error) now →
    discipline.Allows id now (machine.struck id op error now) ∧
      discipline.leaves id op (machine.struck id op error now) ∧ assertion (machine.struck id op error now)

theorem wp_uses {α : Type} (program : Coro I α) (allowed : I.Op → Prop) (assertion : State → Prop)
    (consumer : Consumer I State) (id : Id) (exit : Post I State α) (state : State)
    (keeps : discipline.Keeps id allowed assertion) (uses : program.Uses allowed) (held : assertion state) :
    discipline.wp consumer id program (fun _ => assertion) exit state := by
  induction program generalizing state with
  | ret value => exact held
  | raise error => exact held
  | await op resume ih =>
      intro now relied kept
      have still := keeps.stable state now relied kept held
      constructor
      · intro permitted
        obtain ⟨allowed, next⟩ := keeps.goes op now uses.1 kept still permitted
        exact ⟨allowed, ih _ exit _ (uses.2 _) next⟩
      · intro error possible permitted
        obtain ⟨allowed, leaves, next⟩ := keeps.strikes op now error uses.1 kept still possible permitted
        exact ⟨allowed, leaves, ih _ exit _ (uses.2 _) next⟩
  | yield item next closing => exact uses.elim
  | abandon left rest => exact uses.elim

def Apart (first second : Id) : Prop :=
  (∀ before after, discipline.Allows first before after → discipline.rely second before after) ∧
    ∀ before after, discipline.Allows second before after → discipline.rely first before after

structure Sound : Prop where
  helpers_apart : ∀ first second, discipline.Apart (machine.helper first) second
  leftovers : ∀ id op state, discipline.inv state → discipline.leaves id op state →
    ∀ left ∈ machine.leftover id op,
      discipline.wp .anything (machine.helper id) left (fun _ _ => True) (fun _ _ => True) state

structure Safe (pool : Pool I State Id) : Prop where
  inv : discipline.inv pool.shared
  tasks : ∀ task ∈ pool.tasks,
    discipline.wp .anything task.1 task.2 (fun _ _ => True) (fun _ _ => True) pool.shared
  apart : (pool.tasks.map Prod.fst).Pairwise discipline.Apart

structure Permitted (pool : Pool I State Id) (turn : Turn I) : Prop where
  awaits : ∀ id op resume, pool.tasks[turn.task]? = some (id, .await op resume) →
    discipline.permits id op turn.failure pool.shared
  abandons : ∀ id left rest, pool.tasks[turn.task]? = some (id, .abandon left rest) →
    discipline.abandons id pool.shared

theorem safe_of_move (pool : Pool I State Id) (position : Nat) (id : Id) (program next : Coro I Unit)
    (after : State) (spawned : List (Coro I Unit)) (sound : discipline.Sound) (safe : discipline.Safe pool)
    (found : pool.tasks[position]? = some (id, program)) (inv : discipline.inv after)
    (relied : ∀ other, discipline.Apart id other → discipline.rely other pool.shared after)
    (nextSafe : discipline.wp .anything id next (fun _ _ => True) (fun _ _ => True) after)
    (spawnedSafe : ∀ left ∈ spawned,
      discipline.wp .anything (machine.helper id) left (fun _ _ => True) (fun _ _ => True) after) :
    discipline.Safe ⟨after, pool.tasks.set position (id, next) ++
      spawned.map (fun left => (machine.helper id, left))⟩ := by
  obtain ⟨bound, here⟩ := List.getElem?_eq_some_iff.mp found
  have ids : (pool.tasks.set position (id, next)).map Prod.fst = pool.tasks.map Prod.fst := by
    apply List.ext_getElem
    · simp
    · intro index left right
      rw [List.getElem_map, List.getElem_map, List.getElem_set]
      split
      · rename_i same
        subst same
        rw [here]
      · rfl
  constructor
  · exact inv
  · intro task member
    rcases List.mem_append.mp member with old | new
    · obtain ⟨index, within, rfl⟩ := List.mem_iff_getElem.mp old
      rw [List.getElem_set]
      rw [List.length_set] at within
      by_cases same : position = index
      · rw [if_pos same]
        exact nextSafe
      · rw [if_neg same]
        have distinct := List.pairwise_iff_getElem.mp safe.apart
        have boundHere : position < (pool.tasks.map Prod.fst).length := by simpa using bound
        have boundThere : index < (pool.tasks.map Prod.fst).length := by simpa using within
        have idHere : (pool.tasks.map Prod.fst)[position] = id := by
          rw [List.getElem_map, here]
        have idThere : (pool.tasks.map Prod.fst)[index] = pool.tasks[index].1 :=
          List.getElem_map _
        have apart : discipline.Apart id pool.tasks[index].1 := by
          rcases Nat.lt_or_gt_of_ne same with before | later
          · have both := distinct position index boundHere boundThere before
            rw [idHere, idThere] at both
            exact both
          · have both := distinct index position boundThere boundHere later
            rw [idHere, idThere] at both
            exact ⟨both.2, both.1⟩
        apply discipline.wp_rely _ _ _ _ _ _ (relied _ apart) (fun _ _ => trivial)
        exact safe.tasks _ (List.getElem_mem within)
    · obtain ⟨left, listed, rfl⟩ := List.mem_map.mp new
      exact spawnedSafe left listed
  · rw [List.map_append, ids, List.pairwise_append]
    apply And.intro safe.apart
    have fresh : ∀ other ∈ (spawned.map (fun left => (machine.helper id, left))).map Prod.fst,
        other = machine.helper id := by
      intro other member
      simp only [List.map_map, List.mem_map, Function.comp_apply] at member
      obtain ⟨_, _, same⟩ := member
      exact same.symm
    constructor
    · apply List.pairwise_of_forall_mem_list
      intro first firstMember second secondMember
      rw [fresh first firstMember, fresh second secondMember]
      exact sound.helpers_apart id (machine.helper id)
    · intro first _ second secondMember
      rw [fresh second secondMember]
      have both := sound.helpers_apart id first
      exact ⟨both.2, both.1⟩

theorem step_safe (sound : discipline.Sound) (pool : Pool I State Id) (turn : Turn I)
    (safe : discipline.Safe pool) (permitted : discipline.Permitted pool turn) :
    discipline.Safe (machine.step pool turn) := by
  rw [Machine.step]
  split
  · rename_i id op resume found
    have here := safe.tasks _ (List.mem_of_getElem? found)
    obtain ⟨goes, strikes⟩ := here pool.shared (discipline.rely_refl id pool.shared) safe.inv
    have allowedTurn := permitted.awaits id op resume found
    cases failing : turn.failure with
    | none =>
        rw [failing] at allowedTurn
        obtain ⟨allowed, rest⟩ := goes allowedTurn
        have moved := discipline.safe_of_move pool turn.task id _ (resume (machine.perform id op pool.shared).2)
          (machine.perform id op pool.shared).1 [] sound safe found allowed.inv
          (fun other apart => apart.1 _ _ allowed) rest (by simp)
        rw [List.map_nil, List.append_nil] at moved
        exact moved
    | some error =>
        rw [failing] at allowedTurn
        by_cases possible : machine.interruptible id op error = true
        · simp only [possible, if_true]
          obtain ⟨allowed, leaves, rest⟩ := strikes error possible allowedTurn
          exact discipline.safe_of_move pool turn.task id _ (resume (.error error)) _ (machine.leftover id op) sound
            safe found allowed.inv (fun other apart => apart.1 _ _ allowed) rest
            (sound.leftovers id op _ allowed.inv leaves)
        · simp only [possible]
          exact safe
  · rename_i id left rest found
    have here := safe.tasks _ (List.mem_of_getElem? found)
    obtain ⟨leftSafe, restSafe⟩ := here pool.shared (discipline.rely_refl id pool.shared) safe.inv
      (permitted.abandons id left rest found)
    exact discipline.safe_of_move pool turn.task id _ rest pool.shared [left] sound safe found safe.inv
      (fun other _ => discipline.rely_refl other pool.shared) restSafe
      (by intro program member; rw [List.mem_singleton.mp member]; exact leftSafe)
  · exact safe

-- The run rule: what the invariant gives holds in every state of every run whose turns
-- are all permitted.
theorem always_safe (sound : discipline.Sound) (start : Pool I State Id) (safe : discipline.Safe start)
    (turns : List (Turn I)) (permitted : Transition.Meets machine.step discipline.Permitted start turns) :
    Transition.Always machine.step discipline.Safe start turns :=
  Transition.always_of_keeps machine.step discipline.Permitted discipline.Safe
    (fun pool turn earlier allowed => discipline.step_safe sound pool turn earlier allowed) start safe turns permitted

end Discipline

end Coroutine
