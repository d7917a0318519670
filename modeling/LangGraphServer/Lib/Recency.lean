import Mathlib.Data.List.Dedup
import Mathlib.Data.List.Infix
import Mathlib.Order.Basic

set_option autoImplicit false

namespace Collections

universe u v

variable {K : Type u}

-- The least that can be taken off the front of a list so that enough is taken.
structure ShortestPrefix (order : List K) (enough : List K → Prop) (taken : List K) : Prop where
  isPrefix : taken <+: order
  satisfied : enough taken
  least : ∀ fewer, fewer <+: order → enough fewer → taken.length ≤ fewer.length

theorem shortest_prefix_of_early (order : List K) (enough : List K → Prop) (taken : List K) (front : taken <+: order)
    (done : enough taken) (early : ∀ fewer, fewer <+: taken → fewer.length < taken.length → ¬ enough fewer) :
    ShortestPrefix order enough taken := by
  refine ⟨front, done, fun fewer shorter satisfied => ?_⟩
  by_contra less
  rw [Nat.not_le] at less
  exact early fewer (List.prefix_of_prefix_length_le shorter front (Nat.le_of_lt less)) less satisfied

-- What was taken off the front of a list one by one: never once there was enough, and enough
-- where the taking was granted.
structure TakenFromFront (order : List K) (enough : List K → Prop) (granted : Prop) (taken : List K) : Prop where
  isPrefix : taken <+: order
  early : ∀ fewer, fewer <+: taken → fewer.length < taken.length → ¬ enough fewer
  satisfied : granted → enough taken

theorem TakenFromFront.shortest (order : List K) (enough : List K → Prop) (granted : Prop) (taken : List K)
    (front : TakenFromFront order enough granted taken) (done : granted) : ShortestPrefix order enough taken :=
  shortest_prefix_of_early order enough taken front.isPrefix (front.satisfied done) front.early

-- Two loops that take from the same end, each with a test of its own.
theorem early_append (first second : List K → Prop) (taken more : List K)
    (firstEarly : ∀ fewer, fewer <+: taken → fewer.length < taken.length → ¬ first fewer)
    (secondEarly : ∀ fewer, fewer <+: more → fewer.length < more.length → ¬ second (taken ++ fewer))
    (fewer : List K) (shorter : fewer <+: taken ++ more) (less : fewer.length < (taken ++ more).length) :
    ¬ (first fewer ∧ second fewer) := by
  intro satisfied
  by_cases inside : fewer.length < taken.length
  · have start := List.prefix_of_prefix_length_le shorter (List.prefix_append taken more) (Nat.le_of_lt inside)
    exact firstEarly fewer start inside satisfied.1
  · rw [Nat.not_lt] at inside
    obtain ⟨rest, rfl⟩ := List.prefix_of_prefix_length_le (List.prefix_append taken more) shorter inside
    rw [List.length_append, List.length_append] at less
    exact secondEarly rest ((List.prefix_append_right_inj taken).mp shorter) (by omega) satisfied.2

-- In a list in order, what lies below a bound comes first.
theorem filter_prefix_of_pairwise (relation : K → K → Prop) (rows : List K) (below : K → Bool)
    (ordered : rows.Pairwise relation)
    (downward : ∀ first second, relation first second → below second = true → below first = true) :
    rows.filter below <+: rows := by
  induction rows with
  | nil => exact List.prefix_refl []
  | cons row rest ih =>
      obtain ⟨smallest, restOrdered⟩ := List.pairwise_cons.mp ordered
      cases kept : below row with
      | true =>
          rw [List.filter_cons_of_pos kept]
          exact (List.prefix_cons_inj row).mpr (ih restOrdered)
      | false =>
          have nothing : rest.filter below = [] := by
            rw [List.filter_eq_nil_iff]
            intro later member low
            have lower := downward row later (smallest later member) low
            simp [kept] at lower
          rw [List.filter_cons_of_neg (by simp [kept]), nothing]
          exact List.nil_prefix

variable [DecidableEq K]

-- `dedup` keeps the last occurrence, so a further access moves its key to the end.
theorem dedup_concat (accesses : List K) (key : K) :
    (accesses ++ [key]).dedup = accesses.dedup.filter (fun other => decide (other ≠ key)) ++ [key] := by
  induction accesses with
  | nil => simp
  | cons access rest ih =>
      by_cases again : access ∈ rest
      · rw [List.cons_append, List.dedup_cons_of_mem (List.mem_append_left _ again), ih, List.dedup_cons_of_mem again]
      · by_cases same : access = key
        · subst same
          rw [List.cons_append, List.dedup_cons_of_mem (by simp), ih, List.dedup_cons_of_notMem again,
            List.filter_cons_of_neg (by simp)]
        · have absent : access ∉ rest ++ [key] := by simp [again, same]
          rw [List.cons_append, List.dedup_cons_of_notMem absent, ih, List.dedup_cons_of_notMem again,
            List.filter_cons_of_pos (by simp [same]), List.cons_append]

end Collections
