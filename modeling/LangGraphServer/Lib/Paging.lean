import Mathlib.Data.List.Perm.Basic
import Mathlib.Order.Lattice

set_option autoImplicit false

namespace Paging

section Slices

variable {α : Type} (limit : Nat) (items : List α)

-- One page of a listing that is read by offset.
def slice (offset : Nat) : List α := (items.drop offset).take limit

theorem slices_before (turns : Nat) :
    ((List.range turns).flatMap (fun turn => slice limit items (turn * limit))) = items.take (turns * limit) := by
  induction turns with
  | zero => simp
  | succ turns ih =>
      rw [List.range_succ, List.flatMap_append, ih, Nat.add_mul, Nat.one_mul, List.take_add]
      simp [slice]

theorem slices_whole (positive : 0 < limit) :
    ((List.range (items.length / limit + 1)).flatMap (fun turn => slice limit items (turn * limit))) = items := by
  rw [slices_before]
  refine List.take_of_length_le (Nat.le_of_lt ?_)
  exact Nat.lt_mul_of_div_lt (Nat.lt_succ_self _) positive

theorem slice_full (turn : Nat) (early : turn < items.length / limit) :
    (slice limit items (turn * limit)).length = limit := by
  have whole : (turn + 1) * limit ≤ items.length := Nat.le_trans (Nat.mul_le_mul_right limit early)
    (Nat.div_mul_le_self _ _)
  rw [Nat.add_mul, Nat.one_mul] at whole
  rw [slice, List.length_take, List.length_drop]
  omega

theorem slice_last (positive : 0 < limit) : (slice limit items (items.length / limit * limit)).length < limit := by
  have rest := Nat.mod_lt items.length positive
  have split := Nat.div_add_mod' items.length limit
  rw [slice, List.length_take, List.length_drop]
  omega

end Slices

variable {α κ : Type} [LinearOrder κ] (key : α → κ)

def newestFirst (items : List α) : List α := items.mergeSort (fun item other => decide (key other ≤ key item))

def below (bound : Option κ) (item : α) : Bool := bound.all (fun edge => decide (key item < edge))

-- One page of a listing, newest first: what comes before a bound, up to a limit.
def page (limit : Nat) (bound : Option κ) (items : List α) : List α :=
    (newestFirst key (items.filter (below key bound))).take limit

def KeysApart (items : List α) : Prop := items.Pairwise (fun item other => key item ≠ key other)

def Descending (items : List α) : Prop := items.Pairwise (fun item other => key other < key item)

variable {key}

theorem newest_first_mem (items : List α) (item : α) : item ∈ newestFirst key items ↔ item ∈ items := List.mem_mergeSort

theorem newest_first_descends (items : List α) (distinct : KeysApart key items) :
    Descending key (newestFirst key items) := by
  have sorted : (newestFirst key items).Pairwise (fun item other => decide (key other ≤ key item) = true) := by
    refine List.pairwise_mergeSort (fun first second third before later => ?_) (fun first second => ?_) items
    · rw [decide_eq_true_iff] at before later ⊢
      exact le_trans later before
    · rw [Bool.or_eq_true, decide_eq_true_iff, decide_eq_true_iff]
      exact le_total _ _
  have apart : KeysApart key (newestFirst key items) :=
    (List.mergeSort_perm items _).symm.pairwise distinct (fun differ same => differ same.symm)
  refine (sorted.and apart).imp (fun both => ?_)
  exact lt_of_le_of_ne (of_decide_eq_true both.1) (fun same => both.2 same.symm)

theorem descending_apart (items : List α) (descends : Descending key items) : items.Nodup := by
  refine List.Pairwise.imp ?_ descends
  rintro item _ later rfl
  exact lt_irrefl _ later

theorem descending_unique (first second : List α) (descends : Descending key first)
    (descendsToo : Descending key second) (same : ∀ item, item ∈ first ↔ item ∈ second) : first = second := by
  refine List.Perm.eq_of_pairwise (fun item other _ _ before after => ?_) descends descendsToo ?_
  · exact absurd (lt_trans before after) (lt_irrefl _)
  · exact (List.perm_ext_iff_of_nodup (descending_apart first descends) (descending_apart second descendsToo)).mpr same

theorem newest_first_filter (items : List α) (keep : α → Bool) (distinct : KeysApart key items) :
    newestFirst key (items.filter keep) = (newestFirst key items).filter keep := by
  refine descending_unique _ _ (newest_first_descends _ (distinct.filter keep))
    ((newest_first_descends items distinct).filter keep)
    (fun item => ?_)
  rw [newest_first_mem, List.mem_filter, List.mem_filter, newest_first_mem]

theorem descending_page (limit : Nat) (bound : Option κ) (items : List α) (descends : Descending key items) :
    page key limit bound items = (items.filter (below key bound)).take limit := by
  have apart : KeysApart key items := List.Pairwise.imp (fun later => ne_of_gt later) descends
  refine congrArg (List.take limit) (descending_unique _ _ (newest_first_descends _ (apart.filter _))
    (descends.filter _) (fun item => ?_))
  exact newest_first_mem _ item

theorem descending_rest (items : List α) (descends : Descending key items) (limit : Nat) (oldest : α)
    (found : (items.take limit).getLast? = some oldest) :
    items.drop limit = items.filter (below key (some (key oldest))) := by
  obtain ⟨newer, split⟩ := List.getLast?_eq_some_iff.mp found
  have whole : items = newer ++ (oldest :: items.drop limit) := by
    rw [List.append_cons, ← split, List.take_append_drop]
  have ordered := descends
  rw [whole] at ordered
  obtain ⟨_, later, across⟩ := List.pairwise_append.mp ordered
  obtain ⟨behind, _⟩ := List.pairwise_cons.mp later
  have none : newer.filter (below key (some (key oldest))) = [] := by
    rw [List.filter_eq_nil_iff]
    intro item listed kept
    exact lt_asymm (of_decide_eq_true kept) (across item listed oldest List.mem_cons_self)
  have all : (items.drop limit).filter (below key (some (key oldest))) = items.drop limit := by
    rw [List.filter_eq_self]
    exact fun item listed => decide_eq_true (behind item listed)
  conv => rhs; rw [whole]
  rw [List.filter_append, none, List.nil_append, List.filter_cons_of_neg (by simp [below]), all]

variable (key) (limit : Nat)

-- A reader turns pages until one is not full, each time from the last element on that it
-- has seen. Meanwhile the stock may change, but not below that element.
inductive PageTurns : Nat → Option κ → List α → List α → Prop where
  | last (bound : Option κ) (stock : List α) (short : (page key limit bound stock).length < limit) :
      PageTurns 1 bound stock (page key limit bound stock)
  | more (pages : Nat) (bound : Option κ) (stock next rest : List α) (oldest : α)
    (full : (page key limit bound stock).length = limit)
      (found : (page key limit bound stock).getLast? = some oldest) (distinct : KeysApart key next)
      (older : ∀ item, key item < key oldest → (item ∈ next ↔ item ∈ stock))
        (reads : PageTurns pages (some (key oldest)) next rest) :
      PageTurns (pages + 1) bound stock (page key limit bound stock ++ rest)

variable {key limit}

theorem pages_counted (pages : Nat) (bound : Option κ) (stock reading : List α)
    (reads : PageTurns key limit pages bound stock reading) :
    pages = reading.length / limit + 1 := by
  induction reads with
  | last bound stock short => rw [Nat.div_eq_of_lt short]
  | more pages bound stock next rest oldest full found _ _ _ ih =>
      have positive : 0 < limit := by
        rw [← full]
        exact List.length_pos_of_mem (List.mem_of_getLast? found)
      rw [List.length_append, full, Nat.add_div_left _ positive, ih]

-- The pages are the whole listing as it was at the first one, each element once.
theorem reads_everything (pages : Nat) (bound : Option κ) (stock reading : List α)
    (reads : PageTurns key limit pages bound stock reading)
    (distinct : KeysApart key stock) : reading = newestFirst key (stock.filter (below key bound)) := by
  induction reads with
  | last bound stock short =>
      rw [page, List.length_take] at short
      exact List.take_of_length_le (by omega)
  | more pages bound stock next rest oldest _ found apart older _ ih =>
      have listed := List.mem_of_getLast? found
      obtain ⟨_, bounded⟩ := List.mem_filter.mp ((newest_first_mem _ oldest).mp (List.mem_of_mem_take listed))
      have within : (stock.filter (below key bound)).filter (below key (some (key oldest))) =
        stock.filter (below key (some (key oldest))) := by
        rw [List.filter_filter]
        refine List.filter_congr (fun item _ => ?_)
        cases bound with
        | none => exact Bool.and_true _
        | some edge =>
            by_cases lower : key item < key oldest
            · have under := lt_trans lower (of_decide_eq_true bounded)
              simp [below, lower, under]
            · simp [below, lower]
      have unchanged : newestFirst key (next.filter (below key (some (key oldest)))) =
          newestFirst key (stock.filter (below key (some (key oldest)))) := by
        refine descending_unique _ _ (newest_first_descends _ (apart.filter _))
          (newest_first_descends _ (distinct.filter _)) (fun item => ?_)
        rw [newest_first_mem, newest_first_mem, List.mem_filter, List.mem_filter]
        refine and_congr_left (fun lower => older item (of_decide_eq_true lower))
      rw [ih apart, unchanged, ← within, newest_first_filter _ _ (distinct.filter _),
        ← descending_rest _ (newest_first_descends _ (distinct.filter _)) limit oldest found]
      exact List.take_append_drop _ _

end Paging
