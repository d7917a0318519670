import LangGraphServer.Lib.Protocol

set_option autoImplicit false

namespace Coroutine

variable {I : Interface} {Phase : Type} {α β : Type}

namespace Protocol

variable (protocol : Protocol I Phase)

-- The phase of a generator is its own: who reads it waits in the phase that the generator
-- is in, and closing it goes on from there.
def Minds : {α : Type} → Post I Phase α → Coro I α → Phase → Prop
  | _, post, .ret value, phase => post (.ok value) phase
  | _, post, .raise error, phase => post (.error error) phase
  | _, post, .await op resume, phase =>
      protocol.allows phase op ∧ ∀ answer, Minds post (resume answer) (protocol.next phase op answer)
  | _, post, .yield _ next exit, phase => Minds post next phase ∧ Minds post exit phase
  | _, post, .abandon left rest, phase => ∃ theirs mine, protocol.splits phase theirs mine ∧
      Minds (fun _ => protocol.ends) left theirs ∧ Minds post rest mine

-- A phase of those who have nothing to see to. Of two that part, one may keep the phase.
structure Idle (nothing : Phase) : Prop where
  ends : protocol.ends nothing
  leaves : ∀ phase, protocol.splits phase phase nothing
  keeps : ∀ phase, protocol.splits phase nothing phase

def Neutral (op : I.Op) : Prop := ∀ phase, protocol.allows phase op ∧ ∀ answer, protocol.next phase op answer = phase

variable {protocol} {nothing : Phase} {kind : Phase → Prop}

theorem minds_mono (program : Coro I α) (mid post : Post I Phase α) (phase : Phase)
    (minds : protocol.Minds mid program phase)
    (imp : ∀ outcome reached, mid outcome reached → post outcome reached) : protocol.Minds post program phase := by
  induction program generalizing phase with
  | ret value => exact imp _ phase minds
  | raise error => exact imp _ phase minds
  | await op resume ih => exact ⟨minds.1, fun answer => ih answer mid post _ (minds.2 answer) imp⟩
  | yield item next closing nextIh closingIh =>
      exact ⟨nextIh mid post phase minds.1 imp, closingIh mid post phase minds.2 imp⟩
  | abandon left rest _ restIh =>
      obtain ⟨theirs, mine, splits, leaves, goes⟩ := minds
      exact ⟨theirs, mine, splits, leaves, restIh mid post mine goes imp⟩

theorem minds_handle (program : Coro I α) (next : Except I.Error α → Coro I β) (post : Post I Phase β) (phase : Phase)
    (minds : protocol.Minds (fun outcome => protocol.Minds post (next outcome)) program phase) :
    protocol.Minds post (program.handle next) phase := by
  induction program generalizing phase with
  | ret value => exact minds
  | raise error => exact minds
  | await op resume ih => exact ⟨minds.1, fun answer => ih answer next _ (minds.2 answer)⟩
  | yield item more closing moreIh closingIh => exact ⟨moreIh next phase minds.1, closingIh next phase minds.2⟩
  | abandon left goes _ goesIh =>
      obtain ⟨theirs, mine, splits, leaves, goes⟩ := minds
      exact ⟨theirs, mine, splits, leaves, goesIh next mine goes⟩

theorem minds_of_except (outcome : Except I.Error α) (post : Post I Phase α) (phase : Phase)
    (held : post outcome phase) :
    protocol.Minds post (.ofExcept outcome) phase := by
  cases outcome <;> exact held

theorem minds_bind (program : Coro I α) (next : α → Coro I β) (mid : Post I Phase α)
    (post : Post I Phase β) (phase : Phase) (first : protocol.Minds mid program phase)
    (rest : ∀ value reached, mid (.ok value) reached → protocol.Minds post (next value) reached)
    (fails : ∀ error reached, mid (.error error) reached → post (.error error) reached) :
    protocol.Minds post (program >>= next) phase := by
  refine minds_handle program _ post phase (minds_mono program mid _ phase first (fun outcome reached arrived => ?_))
  cases outcome with
  | ok value => exact rest value reached arrived
  | error error => exact fails error reached arrived

theorem minds_catch (program : Coro I α) (handler : I.Error → Coro I α) (mid post : Post I Phase α) (phase : Phase)
    (first : protocol.Minds mid program phase) (returns : ∀ value reached, mid (.ok value) reached →
      post (.ok value) reached)
    (caught : ∀ error reached, mid (.error error) reached → protocol.Minds post (handler error) reached) :
    protocol.Minds post (program.tryCatch handler) phase := by
  refine minds_handle program _ post phase (minds_mono program mid _ phase first (fun outcome reached arrived => ?_))
  cases outcome with
  | ok value => exact returns value reached arrived
  | error error => exact caught error reached arrived

theorem minds_finally (program : Coro I α) (cleanup : Coro I Unit) (mid last : Phase → Prop) (phase : Phase)
    (first : protocol.Minds (fun _ => mid) program phase)
    (cleans : ∀ reached, mid reached → protocol.Minds (fun _ => last) cleanup reached) :
    protocol.Minds (fun _ => last) (program.tryFinally cleanup) phase := by
  refine minds_handle program _ _ phase (minds_mono program _ _ phase first (fun outcome reached arrived => ?_))
  refine minds_handle cleanup _ _ reached (minds_mono cleanup _ _ reached (cleans reached arrived)
    (fun cleaned later ended => ?_))
  cases cleaned with
  | ok value => exact minds_of_except outcome _ later ended
  | error error => exact ended

theorem minds_void (program : Coro I α) (last : Phase → Prop) (phase : Phase)
    (minds : protocol.Minds (fun _ => last) program phase) :
    protocol.Minds (fun _ => last) program.void phase := by
  refine minds_handle program _ _ phase (minds_mono program _ _ phase minds (fun outcome reached arrived => ?_))
  cases outcome <;> exact arrived

theorem minds_awaits (idle : protocol.Idle nothing) (allowed : I.Op → Prop) (free : kind nothing)
    (ends : ∀ phase, kind phase → protocol.ends phase)
    (stays : ∀ phase op, kind phase → allowed op → protocol.allows phase op ∧
      ∀ answer, kind (protocol.next phase op answer))
    (program : Coro I α) (awaits : program.Awaits allowed) (phase : Phase) (held : kind phase) :
    protocol.Minds (fun _ => kind) program phase := by
  induction program generalizing phase with
  | ret value => exact held
  | raise error => exact held
  | await op resume ih =>
      obtain ⟨may, same⟩ := stays phase op held awaits.1
      exact ⟨may, fun answer => ih answer (awaits.2 answer) _ (same answer)⟩
  | yield item more closing moreIh closingIh => exact ⟨moreIh awaits.1 phase held, closingIh awaits.2 phase held⟩
  | abandon left rest leftIh restIh =>
      refine ⟨nothing, phase, idle.keeps phase, ?_, restIh awaits.2 phase held⟩
      exact minds_mono left _ _ nothing (leftIh awaits.1 nothing free) (fun _ => ends)

theorem minds_neutral (idle : protocol.Idle nothing) (program : Coro I α) (awaits : program.Awaits protocol.Neutral)
    (post : Post I Phase α) (phase : Phase) (posts : ∀ outcome, post outcome phase) :
      protocol.Minds post program phase := by
  induction program generalizing phase with
  | ret value => exact posts _
  | raise error => exact posts _
  | await op resume ih =>
      obtain ⟨may, stays⟩ := awaits.1 phase
      refine ⟨may, fun answer => ?_⟩
      rw [stays answer]
      exact ih answer (awaits.2 answer) post phase posts
  | yield item more closing moreIh closingIh =>
      exact ⟨moreIh awaits.1 post phase posts, closingIh awaits.2 post phase posts⟩
  | abandon left rest leftIh restIh =>
      exact ⟨nothing, phase, idle.keeps phase, leftIh awaits.1 _ nothing (fun _ => idle.ends),
        restIh awaits.2 post phase posts⟩

-- A loop whose body is neutral reads its generator to the end, or leaves it to be closed
-- in the phase that it is in.
theorem minds_for_each (idle : protocol.Idle nothing) (generator : Coro I α) (body : I.Item → Coro I Unit)
    (last : Phase → Prop) (phase : Phase) (iterates : protocol.Minds (fun _ => last) generator phase)
    (serves : ∀ item, (body item).Awaits protocol.Neutral) (leaves : last nothing)
    (ends : ∀ reached, last reached → protocol.ends reached) : protocol.Minds (fun _ => last)
    (generator.forEach body) phase := by
  induction generator generalizing phase with
  | ret value => exact iterates
  | raise error => exact iterates
  | await op resume ih => exact ⟨iterates.1, fun answer => ih answer _ (iterates.2 answer)⟩
  | yield item more closing moreIh _ =>
      refine minds_handle (body item) _ _ phase (minds_neutral idle (body item) (serves item) _ phase
        (fun outcome => ?_))
      cases outcome with
      | ok value => exact moreIh phase iterates.1
      | error error =>
          refine ⟨phase, nothing, idle.leaves phase, minds_void closing _ phase ?_, leaves⟩
          exact minds_mono closing _ _ phase iterates.2 (fun _ => ends)
  | abandon left rest _ restIh =>
      obtain ⟨theirs, mine, splits, leaving, goes⟩ := iterates
      exact ⟨theirs, mine, splits, leaving, restIh mine goes⟩

theorem minds_follows (program : Coro I α) (mid post exit : Post I Phase α) (phase : Phase)
    (minds : protocol.Minds mid program phase)
    (posts : ∀ outcome reached, mid outcome reached → post outcome reached) :
    protocol.Follows .anything program post exit phase := by
  induction program generalizing phase with
  | ret value => exact posts _ phase minds
  | raise error => exact posts _ phase minds
  | await op resume ih => exact ⟨minds.1, fun answer => ih answer mid post exit _ (minds.2 answer) posts⟩
  | yield item next closing => trivial
  | abandon left rest leftIh restIh =>
      intro _
      obtain ⟨theirs, mine, splits, leaves, goes⟩ := minds
      exact ⟨theirs, mine, splits, leftIh _ _ _ theirs leaves (fun _ _ ended => ended),
        restIh mid post exit mine goes posts⟩

end Protocol

end Coroutine
