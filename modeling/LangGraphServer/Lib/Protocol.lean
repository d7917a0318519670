import LangGraphServer.Lib.Triples

set_option autoImplicit false

namespace Coroutine

universe u

variable {I : Interface} {α β : Type}

-- A protocol says in which phase a task may await what. When a generator is let go of, its
-- phase is split between the generator and the task that goes on; only some phases are
-- considered there.
structure Protocol (I : Interface) (Phase : Type) where
  allows : Phase → I.Op → Prop
  next : Phase → (op : I.Op) → Except I.Error (I.Res op) → Phase
  lets : Phase → Prop
  splits : Phase → Phase → Phase → Prop
  ends : Phase → Prop

namespace Protocol

variable {Phase : Type} (protocol : Protocol I Phase)

-- Whatever its awaits are answered, the program keeps to the protocol. The second
-- postcondition is for a generator that is closed at one of its yields.
def Follows : {α : Type} → Consumer I Phase → Coro I α → Post I Phase α → Post I Phase α → Phase → Prop
  | _, _, .ret value, post, _, phase => post (.ok value) phase
  | _, _, .raise error, post, _, phase => post (.error error) phase
  | _, consumer, .await op resume, post, exit, phase =>
      protocol.allows phase op ∧
        ∀ answer, Follows consumer (resume answer) post exit (protocol.next phase op answer)
  | _, consumer, .yield item next closing, post, exit, phase =>
      consumer.accepts item (Follows consumer next post exit) (Follows .anything closing exit exit) phase
  | _, consumer, .abandon left rest, post, exit, phase =>
      protocol.lets phase → ∃ theirs mine, protocol.splits phase theirs mine ∧
        Follows .anything left (fun _ => protocol.ends) (fun _ => protocol.ends) theirs ∧
          Follows consumer rest post exit mine

variable (consumer : Consumer I Phase)

theorem follows_mono (program : Coro I α) (post post' exit exit' : Post I Phase α) (phase : Phase)
    (imp : ∀ outcome after, post outcome after → post' outcome after)
    (impExit : ∀ outcome after, exit outcome after → exit' outcome after)
    (follows : protocol.Follows consumer program post exit phase) :
      protocol.Follows consumer program post' exit' phase := by
  induction program generalizing consumer phase with
  | ret value => exact imp (.ok value) phase follows
  | raise error => exact imp (.error error) phase follows
  | await op resume ih =>
      exact ⟨follows.1, fun answer => ih answer consumer post post' exit exit' _ imp impExit (follows.2 answer)⟩
  | yield item next closing nextIh closingIh =>
      refine consumer.mono item _ _ _ _ phase (fun after more => ?_) (fun after closed => ?_) follows
      · exact nextIh consumer post post' exit exit' after imp impExit more
      · exact closingIh .anything exit exit' exit exit' after impExit impExit closed
  | abandon left rest _ restIh =>
      intro lets
      obtain ⟨theirs, mine, splits, leaves, goes⟩ := follows lets
      exact ⟨theirs, mine, splits, leaves, restIh consumer post post' exit exit' mine imp impExit goes⟩

theorem follows_handle (program : Coro I α) (next : Except I.Error α → Coro I β) (post exit : Post I Phase β)
    (phase : Phase)
    (follows : protocol.Follows consumer program
      (fun outcome => protocol.Follows consumer (next outcome) post exit)
      (fun outcome => protocol.Follows .anything (next outcome) exit exit) phase) :
    protocol.Follows consumer (program.handle next) post exit phase := by
  induction program generalizing consumer post phase with
  | ret value => exact follows
  | raise error => exact follows
  | await op resume ih => exact ⟨follows.1, fun answer => ih answer consumer next post _ (follows.2 answer)⟩
  | yield item more closing moreIh closingIh =>
      refine consumer.mono item _ _ _ _ phase (fun after goes => ?_) (fun after closed => ?_) follows
      · exact moreIh consumer next post after goes
      · exact closingIh .anything next exit after closed
  | abandon left rest _ restIh =>
      intro lets
      obtain ⟨theirs, mine, splits, leaves, goes⟩ := follows lets
      exact ⟨theirs, mine, splits, leaves, restIh consumer next post mine goes⟩

theorem follows_bind (program : Coro I α) (next : α → Coro I β) (post exit : Post I Phase β) (phase : Phase)
    (follows : protocol.Follows consumer program
      (fun outcome after => match outcome with
        | .ok value => protocol.Follows consumer (next value) post exit after
        | .error error => post (.error error) after)
      (fun outcome after => match outcome with
        | .ok value => protocol.Follows .anything (next value) exit exit after
        | .error error => exit (.error error) after) phase) :
    protocol.Follows consumer (program >>= next) post exit phase := by
  refine protocol.follows_handle consumer program _ post exit phase ?_
  refine protocol.follows_mono consumer program _ _ _ _ phase (fun outcome after held => ?_)
    (fun outcome after held => ?_) follows
  · cases outcome <;> exact held
  · cases outcome <;> exact held

theorem follows_perform (op : I.Op) (post exit : Post I Phase (I.Res op)) (phase : Phase)
    (allowed : protocol.allows phase op) (answered : ∀ answer, post answer (protocol.next phase op answer)) :
    protocol.Follows consumer (.perform op) post exit phase := by
  refine ⟨allowed, fun answer => ?_⟩
  cases answer with
  | ok value => exact answered (.ok value)
  | error error => exact answered (.error error)

theorem follows_of_except (outcome : Except I.Error α) (post exit : Post I Phase α) (phase : Phase)
    (held : post outcome phase) : protocol.Follows consumer (.ofExcept outcome) post exit phase := by
  cases outcome <;> exact held

def eachItem (body : I.Item → Coro I Unit) (post exit : Post I Phase Unit) : Consumer I Phase where
  accepts item more closed phase := protocol.Follows consumer (body item)
    (fun outcome after => match outcome with
      | .ok () => more after
      | .error error => protocol.lets after → ∃ theirs mine, protocol.splits after theirs mine ∧
          closed theirs ∧ post (.error error) mine)
    (fun outcome after => match outcome with
      | .ok () => False
      | .error error => protocol.lets after → ∃ theirs mine, protocol.splits after theirs mine ∧
          closed theirs ∧ exit (.error error) mine) phase
  mono item more more' closed closed' phase continues closes := by
    refine protocol.follows_mono consumer _ _ _ _ _ phase (fun outcome after held => ?_) (fun outcome after held => ?_)
    · cases outcome with
      | ok value => exact continues after held
      | error error =>
          intro lets
          obtain ⟨theirs, mine, splits, closed, rest⟩ := held lets
          exact ⟨theirs, mine, splits, closes theirs closed, rest⟩
    · cases outcome with
      | ok value => exact held
      | error error =>
          intro lets
          obtain ⟨theirs, mine, splits, closed, rest⟩ := held lets
          exact ⟨theirs, mine, splits, closes theirs closed, rest⟩

theorem follows_void (program : Coro I α) (phase : Phase)
    (follows : protocol.Follows .anything program (fun _ => protocol.ends) (fun _ => protocol.ends) phase) :
    protocol.Follows .anything program.void (fun _ => protocol.ends) (fun _ => protocol.ends) phase := by
  refine protocol.follows_handle .anything program _ _ _ phase ?_
  refine protocol.follows_mono .anything program _ _ _ _ phase (fun outcome after held => ?_)
    (fun outcome after held => ?_) follows
  · cases outcome <;> exact held
  · cases outcome <;> exact held

theorem follows_for_each (generator : Coro I α) (body : I.Item → Coro I Unit) (post exit : Post I Phase Unit)
    (phase : Phase)
    (follows : protocol.Follows (protocol.eachItem consumer body post exit) generator
      (fun outcome after => match outcome with
        | .ok _ => post (.ok ()) after
        | .error error => post (.error error) after)
      (fun _ => protocol.ends) phase) :
    protocol.Follows consumer (generator.forEach body) post exit phase := by
  induction generator generalizing phase with
  | ret value => exact follows
  | raise error => exact follows
  | await op resume ih => exact ⟨follows.1, fun answer => ih answer _ (follows.2 answer)⟩
  | yield item more closing moreIh _ =>
      refine protocol.follows_handle consumer (body item) _ _ _ phase ?_
      refine protocol.follows_mono consumer (body item) _ _ _ _ phase (fun outcome after held => ?_)
        (fun outcome after held => ?_) follows
      · cases outcome with
        | ok value => exact moreIh after held
        | error error =>
            intro lets
            obtain ⟨theirs, mine, splits, closed, rest⟩ := held lets
            exact ⟨theirs, mine, splits, protocol.follows_void closing theirs closed, rest⟩
      · cases outcome with
        | ok value => exact held.elim
        | error error =>
            intro lets
            obtain ⟨theirs, mine, splits, closed, rest⟩ := held lets
            exact ⟨theirs, mine, splits, protocol.follows_void closing theirs closed, rest⟩
  | abandon left rest _ restIh =>
      intro lets
      obtain ⟨theirs, mine, splits, leaves, goes⟩ := follows lets
      exact ⟨theirs, mine, splits, leaves, restIh mine goes⟩

-- The protocol of those of whom only certain operations are asked. They have no phases.
def within (allowed : I.Op → Prop) : Protocol I Phase where
  allows _ op := allowed op
  next phase _ _ := phase
  lets _ := True
  splits phase theirs mine := theirs = phase ∧ mine = phase
  ends _ := True

theorem follows_uses (allowed : I.Op → Prop) (kind : Phase → Prop)
    (stays : ∀ phase op, kind phase → allowed op → protocol.allows phase op ∧
      ∀ answer, kind (protocol.next phase op answer))
    (program : Coro I α) (phase : Phase) (held : kind phase) (uses : program.Uses allowed) (post exit : Post I Phase α)
    (posts : ∀ outcome reached, kind reached → post outcome reached) :
    protocol.Follows consumer program post exit phase := by
  induction program generalizing phase with
  | ret value => exact posts _ phase held
  | raise error => exact posts _ phase held
  | await op resume ih =>
      obtain ⟨may, same⟩ := stays phase op held uses.1
      exact ⟨may, fun answer => ih answer _ (same answer) (uses.2 answer) post exit posts⟩
  | yield item next closing => exact uses.elim
  | abandon left rest => exact uses.elim

theorem follows_awaits (allowed : I.Op → Prop) (kind : Phase → Prop)
    (stays : ∀ phase op, kind phase → allowed op → protocol.allows phase op ∧
      ∀ answer, kind (protocol.next phase op answer))
    (shares : ∀ phase, kind phase → ∃ theirs mine, protocol.splits phase theirs mine ∧ kind theirs ∧ kind mine)
    (ends : ∀ phase, kind phase → protocol.ends phase) (program : Coro I α) (phase : Phase) (held : kind phase)
    (awaits : program.Awaits allowed) (post exit : Post I Phase α) (posts : ∀ outcome reached, kind reached →
      post outcome reached) :
    protocol.Follows .anything program post exit phase := by
  induction program generalizing phase with
  | ret value => exact posts _ phase held
  | raise error => exact posts _ phase held
  | await op resume ih =>
      obtain ⟨may, same⟩ := stays phase op held awaits.1
      exact ⟨may, fun answer => ih answer _ (same answer) (awaits.2 answer) post exit posts⟩
  | yield item next closing => trivial
  | abandon left rest leftIh restIh =>
      intro _
      obtain ⟨theirs, mine, splits, first, second⟩ := shares phase held
      exact ⟨theirs, mine, splits, leftIh theirs first awaits.1 _ _ (fun _ => ends), restIh mine second awaits.2
        post exit posts⟩

theorem follows_within (allowed : I.Op → Prop) (program : Coro I α) (phase : Phase) (awaits : program.Awaits allowed)
    (post exit : Post I Phase α) (posts : ∀ outcome, post outcome phase) :
    (within allowed).Follows .anything program post exit phase := by
  refine follows_awaits _ allowed (fun reached => reached = phase) ?_ ?_ (fun _ _ => trivial) program phase rfl
    awaits post exit ?_
  · rintro _ op rfl may
    exact ⟨may, fun _ => rfl⟩
  · rintro _ rfl
    exact ⟨_, _, ⟨rfl, rfl⟩, rfl, rfl⟩
  · rintro outcome _ rfl
    exact posts outcome

-- However the program ends, it takes `pre` to `mid`; a generator that is closed instead
-- ends in `shut`.
def Leads (pre : Phase → Prop) (program : Coro I α) (mid shut : Phase → Prop) : Prop :=
  ∀ phase, pre phase → protocol.Follows consumer program (fun _ => mid) (closedWith shut) phase

variable {consumer} {pre mid last shut : Phase → Prop}

theorem leads_ret (value : α) (imp : ∀ phase, pre phase → mid phase) :
    protocol.Leads consumer pre (.ret value) mid shut := imp

theorem leads_raise (error : I.Error) (imp : ∀ phase, pre phase → mid phase) :
    protocol.Leads consumer pre (.raise error : Coro I α) mid shut := imp

theorem leads_of_except (outcome : Except I.Error α) (imp : ∀ phase, pre phase → mid phase) :
    protocol.Leads consumer pre (.ofExcept outcome) mid shut :=
  fun phase held => protocol.follows_of_except consumer outcome _ _ phase (imp phase held)

theorem leads_bind (program : Coro I α) (next : α → Coro I β) (first : protocol.Leads consumer pre program mid shut)
    (rest : ∀ value, protocol.Leads consumer mid (next value) last shut) (fails : ∀ phase, mid phase → last phase) :
    protocol.Leads consumer pre (program >>= next) last shut := by
  intro phase held
  refine protocol.follows_bind consumer program next _ _ phase ?_
  refine protocol.follows_mono consumer program _ _ _ _ phase (fun outcome reached arrived => ?_)
    (fun outcome reached closed => ?_) (first phase held)
  · cases outcome with
    | ok value => exact rest value reached arrived
    | error error => exact fails reached arrived
  · cases outcome with
    | ok value => exact closed.elim
    | error error => exact closed

theorem leads_catch (program : Coro I α) (handler : I.Error → Coro I α)
    (first : protocol.Leads consumer pre program mid shut)
    (returns : ∀ phase, mid phase → last phase)
    (caught : ∀ error, protocol.Leads consumer mid (handler error) last shut)
    (closing : ∀ error phase, shut phase →
      protocol.Follows .anything (handler error) (closedWith shut) (closedWith shut) phase) :
    protocol.Leads consumer pre (program.tryCatch handler) last shut := by
  intro phase held
  refine protocol.follows_handle consumer program _ _ _ phase ?_
  refine protocol.follows_mono consumer program _ _ _ _ phase (fun outcome reached arrived => ?_)
    (fun outcome reached closed => ?_) (first phase held)
  · cases outcome with
    | ok value => exact returns reached arrived
    | error error => exact caught error reached arrived
  · cases outcome with
    | ok value => exact closed.elim
    | error error => exact closing error reached closed

theorem leads_finally (program : Coro I α) (cleanup : Coro I Unit) (gone : Phase → Prop)
    (first : protocol.Leads consumer pre program mid gone) (cleans : protocol.Leads consumer mid cleanup last shut)
    (closing : protocol.Leads .anything gone cleanup shut shut) :
    protocol.Leads consumer pre (program.tryFinally cleanup) last shut := by
  intro phase held
  refine protocol.follows_handle consumer program _ _ _ phase ?_
  refine protocol.follows_mono consumer program _ _ _ _ phase (fun outcome reached arrived => ?_)
    (fun outcome reached closed => ?_) (first phase held)
  · refine protocol.follows_handle consumer cleanup _ _ _ reached ?_
    refine protocol.follows_mono consumer cleanup _ _ _ _ reached (fun cleaned later ended => ?_)
      (fun cleaned later ended => ?_) (cleans reached arrived)
    · cases cleaned with
      | ok value => cases outcome <;> exact ended
      | error error => exact ended
    · cases cleaned with
      | ok value => exact ended.elim
      | error error => exact ended
  · cases outcome with
    | ok value => exact closed.elim
    | error error =>
        refine protocol.follows_handle .anything cleanup _ _ _ reached ?_
        refine protocol.follows_mono .anything cleanup _ _ _ _ reached (fun cleaned later ended => ?_)
          (fun cleaned later ended => ?_) (closing reached closed)
        · cases cleaned <;> exact ended
        · cases cleaned with
          | ok value => exact ended.elim
          | error error => exact ended

theorem leads_perform (op : I.Op) (allowed : ∀ phase, pre phase → protocol.allows phase op)
    (answered : ∀ phase answer, pre phase → mid (protocol.next phase op answer)) :
    protocol.Leads consumer pre (.perform op) mid shut :=
  fun phase held => protocol.follows_perform consumer op _ _ phase (allowed phase held)
    (fun answer => answered phase answer held)

theorem leads_uses (program : Coro I α) (allowed : I.Op → Prop)
    (stays : ∀ op phase, allowed op → pre phase → protocol.allows phase op ∧
      ∀ answer, pre (protocol.next phase op answer))
    (uses : program.Uses allowed) : protocol.Leads consumer pre program pre shut :=
  fun phase held => protocol.follows_uses consumer allowed pre (fun reached op kind may => stays op reached may kind)
    program phase held uses _ _ (fun _ _ kind => kind)

theorem leads_for_each (generator : Coro I α) (body : I.Item → Coro I Unit) (gone : Phase → Prop)
    (iterates : protocol.Leads (protocol.eachItem consumer body (fun _ => mid) (closedWith shut)) pre
      generator mid gone)
    (ends : ∀ phase, gone phase → protocol.ends phase) :
    protocol.Leads consumer pre (generator.forEach body) mid shut := by
  intro phase held
  refine protocol.follows_for_each consumer generator body _ _ phase ?_
  refine protocol.follows_mono _ generator _ _ _ _ phase (fun outcome reached arrived => ?_)
    (fun outcome reached closed => ?_) (iterates phase held)
  · cases outcome <;> exact arrived
  · cases outcome with
    | ok value => exact closed.elim
    | error error => exact ends reached closed

end Protocol

end Coroutine
