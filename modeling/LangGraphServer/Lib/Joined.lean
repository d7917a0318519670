set_option autoImplicit false

namespace Joined

variable {α : Type} [DecidableEq α]

-- Pieces joined by a separator that starts with a mark are read back by splitting at the
-- mark and dropping the rest of the separator.
def readBack (mark : α) (gap : Nat) (text : List α) : List (List α) :=
  match text.splitOn mark with
  | [] => []
  | first :: rest => first :: rest.map (List.drop gap)

omit [DecidableEq α] in
theorem intercalate_marked (mark : α) (tail first : List α) (rest : List (List α)) :
    (mark :: tail).intercalate (first :: rest) = [mark].intercalate
    (first :: rest.map (fun piece => tail ++ piece)) := by
  induction rest generalizing first with
  | nil => simp
  | cons second others ih =>
      have onwards := ih (tail ++ second)
      rw [List.map_cons, List.intercalate_cons_cons, List.intercalate_cons_cons, ← onwards]
      cases others with
      | nil => simp
      | cons third more => simp [List.intercalate_cons_cons]

theorem read_back_joined (mark : α) (tail : List α) (pieces : List (List α)) (some_ : pieces ≠ [])
    (clean : ∀ piece ∈ pieces, mark ∉ piece) (apart : mark ∉ tail) :
    readBack mark tail.length ((mark :: tail).intercalate pieces) = pieces := by
  cases pieces with
  | nil => exact absurd rfl some_
  | cons first rest =>
      obtain ⟨here, others⟩ := List.forall_mem_cons.mp clean
      have split : ([mark].intercalate (first :: rest.map (fun piece => tail ++ piece))).splitOn mark =
          first :: rest.map (fun piece => tail ++ piece) := by
        refine List.splitOn_intercalate mark (fun piece listed => ?_) (List.cons_ne_nil _ _)
        rcases List.mem_cons.mp listed with rfl | later
        · exact here
        · obtain ⟨given, member, rfl⟩ := List.mem_map.mp later
          simp [apart, others given member]
      rw [intercalate_marked, readBack, split]
      simp [Function.comp_def]

end Joined
