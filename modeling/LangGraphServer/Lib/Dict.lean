import Mathlib.Data.List.Nodup
import Mathlib.Algebra.BigOperators.Group.List.Basic
import Mathlib.Algebra.Ring.Nat

set_option autoImplicit false

namespace Collections

-- A dictionary with unique keys that iterates in insertion order. Assigning to a
-- present key keeps its place; a key moves to the end by being removed and assigned.
@[ext] structure Dict (K V : Type) where
  entries : List (K × V)
  unique : (entries.map Prod.fst).Nodup

namespace Dict

variable {K V : Type}

def empty : Dict K V := ⟨[], List.nodup_nil⟩

def keys (dict : Dict K V) : List K := dict.entries.map Prod.fst

def size (dict : Dict K V) : Nat := dict.entries.length

def total (dict : Dict K V) (weight : V → Nat) : Nat := (dict.entries.map (fun row => weight row.2)).sum

def restrict (dict : Dict K V) (keep : K → Bool) : Dict K V :=
  ⟨dict.entries.filter (fun row => keep row.1), (List.filter_sublist.map Prod.fst).nodup dict.unique⟩

@[simp] theorem keys_empty : (empty : Dict K V).keys = [] := rfl

theorem keys_length (dict : Dict K V) : dict.keys.length = dict.size := by
  simp [keys, size]

theorem size_total (dict : Dict K V) : dict.size = dict.total (fun _ => 1) := by
  rw [size, total, List.map_const', List.sum_replicate_nat, Nat.mul_one]

theorem keys_nodup (dict : Dict K V) : dict.keys.Nodup := dict.unique

theorem keys_restrict (dict : Dict K V) (keep : K → Bool) :
    (dict.restrict keep).keys = dict.keys.filter keep := by
  simp [keys, restrict, List.filter_map, Function.comp_def]

theorem mem_keys_restrict (dict : Dict K V) (keep : K → Bool) (query : K) :
    query ∈ (dict.restrict keep).keys ↔ query ∈ dict.keys ∧ keep query = true := by
  rw [keys_restrict, List.mem_filter]

theorem total_restrict_le (dict : Dict K V) (keep : K → Bool) (weight : V → Nat) :
    (dict.restrict keep).total weight ≤ dict.total weight := by
  simp only [restrict, total]
  induction dict.entries with
  | nil => exact Nat.le_refl _
  | cons row rest ih =>
      by_cases kept : keep row.1 = true
      · rw [List.filter_cons_of_pos (by exact kept), List.map_cons, List.map_cons, List.sum_cons, List.sum_cons]
        exact Nat.add_le_add_left ih (weight row.2)
      · rw [List.filter_cons_of_neg (by exact kept), List.map_cons, List.sum_cons]
        exact Nat.le_trans ih (Nat.le_add_left _ _)

variable [DecidableEq K]

def get? (dict : Dict K V) (key : K) : Option V := dict.entries.lookup key

def pop (dict : Dict K V) (key : K) : Dict K V := dict.restrict (fun k => decide (k ≠ key))

def assign (key : K) (value : V) : List (K × V) → List (K × V)
  | [] => [(key, value)]
  | (k, v) :: rest => if k = key then (k, value) :: rest else (k, v) :: assign key value rest

theorem assign_keys (key : K) (value : V) (rows : List (K × V)) :
    (assign key value rows).map Prod.fst =
      if key ∈ rows.map Prod.fst then rows.map Prod.fst else rows.map Prod.fst ++ [key] := by
  induction rows with
  | nil => simp [assign]
  | cons row rest ih =>
      obtain ⟨k, v⟩ := row
      by_cases same : k = key
      · simp [assign, same]
      · by_cases later : key ∈ rest.map Prod.fst <;> simp_all [assign, Ne.symm same]

theorem assign_unique (key : K) (value : V) (rows : List (K × V)) (unique : (rows.map Prod.fst).Nodup) :
    ((assign key value rows).map Prod.fst).Nodup := by
  rw [assign_keys]
  by_cases present : key ∈ rows.map Prod.fst
  · rwa [if_pos present]
  · rw [if_neg present, List.nodup_append]
    refine ⟨unique, List.nodup_singleton key, ?_⟩
    intro a member b last same
    rw [List.mem_singleton] at last
    exact present (last ▸ same ▸ member)

def set (dict : Dict K V) (key : K) (value : V) : Dict K V :=
  ⟨assign key value dict.entries, assign_unique key value dict.entries dict.unique⟩

theorem assign_absent (key : K) (value : V) (rows : List (K × V)) (absent : key ∉ rows.map Prod.fst) :
    assign key value rows = rows ++ [(key, value)] := by
  induction rows with
  | nil => rfl
  | cons row rest ih =>
      rw [List.map_cons, List.mem_cons, not_or] at absent
      rw [assign, if_neg (Ne.symm absent.1), ih absent.2, List.cons_append]

theorem entries_pop_set (dict : Dict K V) (key : K) (value : V) : ((dict.pop key).set key value).entries =
    dict.entries.filter (fun row => decide (row.1 ≠ key)) ++ [(key, value)] := by
  apply assign_absent
  intro member
  obtain ⟨row, listed, same⟩ := List.mem_map.mp member
  simpa [same] using (List.mem_filter.mp listed).2

def setAll (dict : Dict K V) (rows : List (K × V)) : Dict K V :=
  rows.foldl (fun current row => current.set row.1 row.2) dict

theorem lookup_row (key query : K) (value : V) (rest : List (K × V)) :
    ((key, value) :: rest).lookup query = if query = key then some value else rest.lookup query := by
  by_cases hit : query = key
  · simp [hit]
  · have missed : (query == key) = false := beq_eq_false_iff_ne.mpr hit
    rw [List.lookup_cons, missed, if_neg hit]

@[simp] theorem get_empty (key : K) : (empty : Dict K V).get? key = none := rfl

theorem lookup_assign (key query : K) (value : V) (rows : List (K × V)) :
    (assign key value rows).lookup query = if query = key then some value else rows.lookup query := by
  induction rows with
  | nil => rw [assign, lookup_row]
  | cons row rest ih =>
      obtain ⟨k, v⟩ := row
      by_cases same : k = key
      · rw [assign, if_pos same, lookup_row, lookup_row, same]
        by_cases hit : query = key <;> simp [hit]
      · rw [assign, if_neg same, lookup_row, lookup_row, ih]
        by_cases first : query = k
        · have different : query ≠ key := first ▸ same
          simp [first, same]
        · simp [first]

theorem get_set (dict : Dict K V) (key query : K) (value : V) :
    (dict.set key value).get? query = if query = key then some value else dict.get? query :=
  lookup_assign key query value dict.entries

theorem keys_set (dict : Dict K V) (key : K) (value : V) :
    (dict.set key value).keys = if key ∈ dict.keys then dict.keys else dict.keys ++ [key] :=
  assign_keys key value dict.entries

theorem mem_keys_set (dict : Dict K V) (key query : K) (value : V) :
    query ∈ (dict.set key value).keys ↔ query = key ∨ query ∈ dict.keys := by
  rw [keys_set]
  by_cases present : key ∈ dict.keys
  · rw [if_pos present]
    constructor
    · exact Or.inr
    · rintro (rfl | member)
      · exact present
      · exact member
  · rw [if_neg present, List.mem_append, List.mem_singleton, or_comm]

theorem mem_entries (dict : Dict K V) (key : K) (value : V) :
    (key, value) ∈ dict.entries ↔ dict.get? key = some value := by
  obtain ⟨rows, unique⟩ := dict
  simp only [get?]
  induction rows with
  | nil => simp
  | cons row rest ih =>
      obtain ⟨k, v⟩ := row
      simp only [List.map_cons, List.nodup_cons] at unique
      rw [List.mem_cons, Prod.mk.injEq, lookup_row]
      by_cases first : key = k
      · subst key
        have absent : (k, value) ∉ rest := fun member =>
          unique.1 (List.mem_map.mpr ⟨(k, value), member, rfl⟩)
        simp [absent, eq_comm]
      · simp only [first, false_and, false_or, if_false]
        exact ih unique.2

theorem mem_keys (dict : Dict K V) (key : K) : key ∈ dict.keys ↔ ∃ value, dict.get? key = some value := by
  simp only [keys, List.mem_map, Prod.exists, exists_and_right, exists_eq_right]
  exact exists_congr (fun value => mem_entries dict key value)

theorem get_none (dict : Dict K V) (key : K) : dict.get? key = none ↔ key ∉ dict.keys := by
  rw [mem_keys, ← Option.isSome_iff_exists, Bool.not_eq_true, Option.isSome_eq_false_iff, Option.isNone_iff_eq_none]

theorem lookup_filter (keep : K → Bool) (query : K) (rows : List (K × V)) :
    (rows.filter (fun row => keep row.1)).lookup query = if keep query then rows.lookup query else none := by
  induction rows with
  | nil => simp
  | cons row rest ih =>
      obtain ⟨k, v⟩ := row
      rw [lookup_row]
      by_cases hit : query = k
      · subst query
        cases kept : keep k
        · rw [List.filter_cons_of_neg (by simp [kept]), ih, kept]
          rfl
        · rw [List.filter_cons_of_pos (by simpa using kept), lookup_row, if_pos rfl, if_pos rfl, if_pos rfl]
      · cases kept : keep k
        · rw [List.filter_cons_of_neg (by simp [kept]), ih, if_neg hit]
        · rw [List.filter_cons_of_pos (by simpa using kept), lookup_row, if_neg hit, if_neg hit, ih]

theorem get_restrict (dict : Dict K V) (keep : K → Bool) (query : K) :
    (dict.restrict keep).get? query = if keep query then dict.get? query else none :=
  lookup_filter keep query dict.entries

-- Assigning what is there changes nothing.
theorem assign_same (key : K) (value : V) (rows : List (K × V)) (found : rows.lookup key = some value) :
    assign key value rows = rows := by
  induction rows with
  | nil => cases found
  | cons row rest ih =>
      obtain ⟨k, v⟩ := row
      rw [lookup_row] at found
      by_cases hit : k = key
      · rw [if_pos hit.symm, Option.some.injEq] at found
        rw [assign, if_pos hit, found]
      · rw [if_neg (fun same => hit same.symm)] at found
        rw [assign, if_neg hit, ih found]

theorem set_same (dict : Dict K V) (key : K) (value : V) (found : dict.get? key = some value) :
    dict.set key value = dict :=
  Dict.ext (assign_same key value dict.entries found)

theorem set_all_same (rows : List (K × V)) (dict : Dict K V) (found : ∀ row ∈ rows, dict.get? row.1 = some row.2) :
    dict.setAll rows = dict := by
  induction rows with
  | nil => rfl
  | cons row rest ih =>
      have first := dict.set_same row.1 row.2 (found row List.mem_cons_self)
      rw [setAll, List.foldl_cons, first]
      exact ih (fun later member => found later (List.mem_cons_of_mem row member))

theorem rows_ext (first second : List (K × V)) (unique : (first.map Prod.fst).Nodup)
    (ordered : first.map Prod.fst = second.map Prod.fst) (same : ∀ key, first.lookup key = second.lookup key) :
    first = second := by
  induction first generalizing second with
  | nil => exact (List.map_eq_nil_iff.mp ordered.symm).symm
  | cons row rest ih =>
      cases second with
      | nil => cases ordered
      | cons other others =>
          obtain ⟨k, v⟩ := row
          obtain ⟨l, w⟩ := other
          simp only [List.map_cons, List.cons.injEq] at ordered
          simp only [List.map_cons, List.nodup_cons] at unique
          obtain ⟨rfl, behind⟩ := ordered
          have value := same k
          rw [lookup_row, lookup_row, if_pos rfl, if_pos rfl, Option.some.injEq] at value
          have tail := ih others unique.2 behind (fun key => by
            have here := same key
            rw [lookup_row, lookup_row] at here
            by_cases hit : key = k
            · subst hit
              have absent : ∀ rows : List (K × V), key ∉ rows.map Prod.fst → rows.lookup key = none := by
                intro rows missing
                rw [List.lookup_eq_none_iff]
                intro row member
                rw [bne_iff_ne]
                rintro rfl
                exact missing (List.mem_map_of_mem member)
              rw [absent rest unique.1, absent others (behind ▸ unique.1)]
            · rw [if_neg hit, if_neg hit] at here
              exact here)
          rw [value, tail]

theorem ext_get (first second : Dict K V) (ordered : first.keys = second.keys)
    (same : ∀ key, first.get? key = second.get? key) : first = second :=
  Dict.ext (rows_ext first.entries second.entries first.unique ordered same)

theorem get_pop (dict : Dict K V) (key query : K) :
    (dict.pop key).get? query = if query = key then none else dict.get? query := by
  rw [pop, get_restrict]
  by_cases hit : query = key <;> simp [hit]

theorem mem_keys_pop (dict : Dict K V) (key query : K) :
    query ∈ (dict.pop key).keys ↔ query ∈ dict.keys ∧ query ≠ key := by
  simp [pop, mem_keys_restrict]

theorem size_pop_absent (dict : Dict K V) (key : K) (absent : key ∉ dict.keys) : (dict.pop key).size = dict.size := by
  have kept : dict.entries.filter (fun row => decide (row.1 ≠ key)) = dict.entries := by
    rw [List.filter_eq_self]
    intro row member
    rw [decide_eq_true_iff]
    rintro rfl
    exact absent (List.mem_map_of_mem member)
  exact congrArg List.length kept

theorem get_set_all_absent (rows : List (K × V)) (dict : Dict K V) (query : K)
    (absent : query ∉ rows.map Prod.fst) : (dict.setAll rows).get? query = dict.get? query := by
  induction rows generalizing dict with
  | nil => rfl
  | cons row rest ih =>
      simp only [List.map_cons, List.mem_cons, not_or] at absent
      have step := ih (dict.set row.1 row.2) absent.2
      rw [get_set, if_neg absent.1] at step
      exact step

theorem mem_keys_set_all (rows : List (K × V)) (dict : Dict K V) (query : K) :
    query ∈ (dict.setAll rows).keys ↔ query ∈ rows.map Prod.fst ∨ query ∈ dict.keys := by
  induction rows generalizing dict with
  | nil => simp [setAll]
  | cons row rest ih =>
      have tail := ih (dict.set row.1 row.2)
      rw [mem_keys_set, ← or_assoc, or_comm (a := query ∈ rest.map Prod.fst)] at tail
      rw [List.map_cons, List.mem_cons]
      exact tail

theorem get_set_all_congr (rows : List (K × V)) (first second : Dict K V) (query : K)
    (same : first.get? query = second.get? query) :
    (first.setAll rows).get? query = (second.setAll rows).get? query := by
  induction rows generalizing first second with
  | nil => exact same
  | cons row rest ih =>
      refine ih (first.set row.1 row.2) (second.set row.1 row.2) ?_
      rw [get_set, get_set, same]

theorem get_set_all_grows (rows : List (K × V)) (dict : Dict K V) (query : K)
    (absent : (dict.setAll rows).get? query = none) : dict.get? query = none := by
  induction rows generalizing dict with
  | nil => exact absent
  | cons row rest ih =>
      have before := ih (dict.set row.1 row.2) absent
      rw [get_set] at before
      split at before
      · cases before
      · exact before

-- Of the rows with a key the last one counts.
theorem get_set_all_last (rows : List (K × V)) (dict : Dict K V) (key : K) (value : V) :
    (dict.setAll rows).get? key = some value ↔
      (∃ before after, rows = before ++ (key, value) :: after ∧ ∀ row ∈ after, row.1 ≠ key) ∨
        ((∀ row ∈ rows, row.1 ≠ key) ∧ dict.get? key = some value) := by
  induction rows generalizing dict with
  | nil => simp [setAll]
  | cons row rest ih =>
      have tail := ih (dict.set row.1 row.2)
      rw [get_set] at tail
      refine tail.trans ⟨?_, ?_⟩
      · rintro (⟨before, after, rfl, last⟩ | ⟨absent, found⟩)
        · exact Or.inl ⟨row :: before, after, rfl, last⟩
        · by_cases own : key = row.1
          · rw [if_pos own, Option.some.injEq] at found
            exact Or.inl ⟨[], rest, by rw [own, ← found]; rfl, absent⟩
          · rw [if_neg own] at found
            exact Or.inr ⟨List.forall_mem_cons.mpr ⟨Ne.symm own, absent⟩, found⟩
      · rintro (⟨before, after, whole, last⟩ | ⟨absent, found⟩)
        · cases before with
          | nil =>
              obtain ⟨rfl, rfl⟩ := List.cons.inj whole
              exact Or.inr ⟨last, if_pos rfl⟩
          | cons first before =>
              obtain ⟨_, rfl⟩ := List.cons.inj whole
              exact Or.inl ⟨before, after, rfl, last⟩
        · obtain ⟨different, others⟩ := List.forall_mem_cons.mp absent
          exact Or.inr ⟨others, by rw [if_neg (Ne.symm different)]; exact found⟩

theorem get_set_all (rows : List (K × V)) (dict : Dict K V) (key : K) (value : V)
    (unique : (rows.map Prod.fst).Nodup) (member : (key, value) ∈ rows) :
    (dict.setAll rows).get? key = some value := by
  induction rows generalizing dict with
  | nil => simp at member
  | cons row rest ih =>
      simp only [List.map_cons, List.nodup_cons] at unique
      rcases List.mem_cons.mp member with same | later
      · subst row
        have kept := get_set_all_absent rest (dict.set key value) key unique.1
        rw [get_set, if_pos rfl] at kept
        exact kept
      · exact ih (dict.set row.1 row.2) unique.2 later

-- Assigning translated rows to a translated dictionary commutes with looking up.
theorem get_set_all_map {L W : Type} [DecidableEq L] (rows : List (K × V)) (dict : Dict K V) (other : Dict L W)
    (key : K → L) (value : V → W) (injective : Function.Injective key)
    (same : ∀ query, other.get? (key query) = (dict.get? query).map value) (query : K) :
    (other.setAll (rows.map (fun row => (key row.1, value row.2)))).get? (key query) =
      ((dict.setAll rows).get? query).map value := by
  induction rows generalizing dict other with
  | nil => exact same query
  | cons row rest ih =>
      refine ih (dict.set row.1 row.2) (other.set (key row.1) (value row.2)) (fun asked => ?_)
      rw [get_set, get_set, same asked]
      by_cases hit : asked = row.1
      · simp [hit]
      · rw [if_neg (fun equal => hit (injective equal)), if_neg hit]

theorem assign_total (key : K) (value : V) (weight : V → Nat) (rows : List (K × V)) :
    ((assign key value rows).map (fun row => weight row.2)).sum + ((rows.lookup key).elim 0 weight) =
      (rows.map (fun row => weight row.2)).sum + weight value := by
  induction rows with
  | nil => simp [assign]
  | cons row rest ih =>
      obtain ⟨k, v⟩ := row
      rw [lookup_row]
      by_cases same : k = key
      · rw [assign, if_pos same, if_pos same.symm]
        simp only [List.map_cons, List.sum_cons, Option.elim_some]
        omega
      · rw [assign, if_neg same, if_neg (Ne.symm same)]
        simp only [List.map_cons, List.sum_cons]
        omega

theorem total_set (dict : Dict K V) (key : K) (value : V) (weight : V → Nat) :
    (dict.set key value).total weight + (dict.get? key).elim 0 weight = dict.total weight + weight value :=
  assign_total key value weight dict.entries

theorem total_pop (dict : Dict K V) (key : K) (weight : V → Nat) :
    (dict.pop key).total weight + (dict.get? key).elim 0 weight = dict.total weight := by
  obtain ⟨rows, unique⟩ := dict
  simp only [pop, restrict, total, get?]
  induction rows with
  | nil => rfl
  | cons row rest ih =>
      obtain ⟨k, v⟩ := row
      simp only [List.map_cons, List.nodup_cons] at unique
      have tail := ih unique.2
      rw [lookup_row]
      by_cases same : k = key
      · have absent : rest.lookup key = none := by
          rw [same] at unique
          exact (get_none (⟨rest, unique.2⟩ : Dict K V) key).mpr unique.1
        rw [absent, Option.elim_none] at tail
        rw [if_pos same.symm, List.filter_cons_of_neg (by simp [same])]
        simp only [Option.elim_some, List.map_cons, List.sum_cons]
        omega
      · rw [if_neg (Ne.symm same), List.filter_cons_of_pos (by simp [same])]
        simp only [List.map_cons, List.sum_cons]
        omega

theorem total_set_le (dict : Dict K V) (key : K) (value : V) (weight : V → Nat) :
    (dict.set key value).total weight ≤ dict.total weight + weight value := by
  have balance := total_set dict key value weight
  omega

theorem total_set_all_le (rows : List (K × V)) (dict : Dict K V) (weight : V → Nat) :
    (dict.setAll rows).total weight ≤ dict.total weight + (rows.map (fun row => weight row.2)).sum := by
  induction rows generalizing dict with
  | nil => exact Nat.le_refl _
  | cons row rest ih =>
      have head := total_set_le dict row.1 row.2 weight
      have tail := ih (dict.set row.1 row.2)
      rw [List.map_cons, List.sum_cons]
      exact Nat.le_trans tail (by omega)

theorem size_pop (dict : Dict K V) (key : K) (present : key ∈ dict.keys) :
    (dict.pop key).size + 1 = dict.size := by
  obtain ⟨value, found⟩ := (mem_keys dict key).mp present
  have balance := total_pop dict key (fun _ => 1)
  rw [found, Option.elim_some] at balance
  rw [size_total, size_total, balance]

theorem size_pop_le (dict : Dict K V) (key : K) : (dict.pop key).size ≤ dict.size := by
  have balance := total_pop dict key (fun _ => 1)
  rw [size_total, size_total]
  omega

theorem size_set (dict : Dict K V) (key : K) (value : V) :
    (dict.set key value).size = if key ∈ dict.keys then dict.size else dict.size + 1 := by
  rw [← keys_length, ← keys_length, keys_set]
  split <;> simp

-- Two dictionaries with the same lookups hold the same rows, in some order.
theorem total_congr (first second : Dict K V) (same : ∀ key, first.get? key = second.get? key) (weight : V → Nat) :
    first.total weight = second.total weight := by
  have rows : first.entries.Perm second.entries := by
    refine (List.perm_ext_iff_of_nodup first.unique.of_map second.unique.of_map).mpr ?_
    rintro ⟨key, value⟩
    rw [mem_entries, mem_entries, same]
  exact (rows.map (fun row => weight row.2)).sum_eq

end Dict

end Collections
