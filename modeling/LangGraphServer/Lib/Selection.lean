import Mathlib.Data.List.Forall2

set_option autoImplicit false

namespace Selection

variable {α β γ : Type}

-- The first elements that a listing keeps, up to a limit.
def select (keep : α → Bool) (limit : Nat) (items : List α) : List α := (items.filter keep).take limit

-- Two listings walked side by side until the limit is filled: what stands at one place is
-- kept in both or in neither.
def SameKept (first : α → Bool) (second : β → Bool) : Nat → List α → List β → Prop
  | 0, _, _ => True
  | limit + 1, item :: rest, other :: others =>
      first item = second other ∧ SameKept first second (if first item = true then limit else limit + 1) rest others
  | _ + 1, _, _ => True

theorem select_keeps (keep : α → Bool) (limit : Nat) (item : α) (rest : List α) (kept : keep item = true) :
    select keep (limit + 1) (item :: rest) = item :: select keep limit rest := by
  rw [select, List.filter_cons_of_pos kept, List.take_succ_cons]
  rfl

theorem select_drops (keep : α → Bool) (limit : Nat) (item : α) (rest : List α) (dropped : ¬ keep item = true) :
    select keep limit (item :: rest) = select keep limit rest := by
  rw [select, List.filter_cons_of_neg dropped]
  rfl

theorem select_mem (keep : α → Bool) (limit : Nat) (items : List α) (item : α)
    (selected : item ∈ select keep limit items) :
    item ∈ items :=
  (List.mem_filter.mp (List.mem_of_mem_take selected)).1

theorem same_kept_of_agree (first : α → Bool) (second : β → Bool) (limit : Nat) (items : List α) (others : List β)
    (agree : List.Forall₂ (fun item other => first item = second other) items others) :
    SameKept first second limit items others := by
  induction agree generalizing limit with
  | nil => cases limit <;> trivial
  | cons same rest ih =>
      cases limit with
      | zero => trivial
      | succ limit => exact ⟨same, ih _⟩

theorem same_kept_selects (related : α → β → Prop) (first : α → Bool) (second : β → Bool) (limit : Nat) (items : List α)
    (others : List β) (alike : List.Forall₂ related items others) (same : SameKept first second limit items others) :
    List.Forall₂ related (select first limit items) (select second limit others) := by
  induction alike generalizing limit with
  | nil => simp [select]
  | @cons item other rest more head _ ih =>
      cases limit with
      | zero => simp [select]
      | succ limit =>
          obtain ⟨agree, behind⟩ := same
          by_cases kept : first item = true
          · rw [if_pos kept] at behind
            rw [select_keeps first limit item rest kept, select_keeps second limit other more (agree ▸ kept)]
            exact .cons head (ih limit behind)
          · rw [if_neg kept] at behind
            rw [select_drops first _ item rest kept, select_drops second _ other more (agree ▸ kept)]
            exact ih (limit + 1) behind

theorem labels_same (label : α → γ) (otherLabel : β → γ) (items : List α) (others : List β)
    (alike : List.Forall₂ (fun item other => label item = otherLabel other) items others) :
    items.map label = others.map otherLabel := by
  induction alike with
  | nil => rfl
  | cons same _ ih => rw [List.map_cons, List.map_cons, same, ih]

theorem same_kept_iff (label : α → γ) (otherLabel : β → γ) (first : α → Bool) (second : β → Bool) (limit : Nat)
    (items : List α) (others : List β)
    (alike : List.Forall₂ (fun item other => label item = otherLabel other) items others)
    (distinct : (items.map label).Nodup) :
    (select first limit items).map label = (select second limit others).map otherLabel ↔
      SameKept first second limit items others := by
  induction alike generalizing limit with
  | nil => cases limit <;> simp [select, SameKept]
  | @cons item other rest more head tail ih =>
      cases limit with
      | zero => simp [select, SameKept]
      | succ limit =>
          rw [List.map_cons, List.nodup_cons] at distinct
          have absent : otherLabel other ∉ (more.map otherLabel) := by
            rw [← head, ← labels_same label otherLabel rest more tail]
            exact distinct.1
          rw [SameKept]
          by_cases kept : first item = true
          · by_cases keptToo : second other = true
            · rw [select_keeps first limit item rest kept, select_keeps second limit other more keptToo, List.map_cons,
                List.map_cons, head, List.cons_inj_right, ih limit distinct.2, kept, keptToo, if_pos rfl]
              exact (and_iff_right rfl).symm
            · refine iff_of_false (fun same => absent ?_) (fun same => keptToo (same.1 ▸ kept))
              rw [select_keeps first limit item rest kept, select_drops second _ other more keptToo,
                List.map_cons, head] at same
              obtain ⟨selected, listed, labelled⟩ := List.mem_map.mp (same ▸ List.mem_cons_self)
              exact List.mem_map.mpr ⟨selected, select_mem second _ more selected listed, labelled⟩
          · by_cases keptToo : second other = true
            · refine iff_of_false (fun same => distinct.1 ?_) (fun same => kept (same.1 ▸ keptToo))
              rw [select_drops first _ item rest kept, select_keeps second limit other more keptToo,
                List.map_cons, ← head] at same
              obtain ⟨selected, listed, labelled⟩ := List.mem_map.mp (same ▸ List.mem_cons_self)
              exact List.mem_map.mpr ⟨selected, select_mem first _ rest selected listed, labelled⟩
            · rw [select_drops first _ item rest kept, select_drops second _ other more keptToo,
                ih (limit + 1) distinct.2, if_neg kept, Bool.eq_false_iff.mpr kept, Bool.eq_false_iff.mpr keptToo]
              exact (and_iff_right rfl).symm

theorem forall₂_merge_sort (related : α → β → Prop) (before : α → α → Bool) (otherBefore : β → β → Bool)
    (items : List α) (others : List β) (alike : List.Forall₂ related items others)
    (agree : ∀ item other another third, related item other → related another third →
      before item another = otherBefore other third) :
    List.Forall₂ related (items.mergeSort before) (others.mergeSort otherBefore) := by
  obtain ⟨sameLength, zipped⟩ := List.forall₂_iff_zip.mp alike
  have firsts : (items.zip others).map Prod.fst = items := List.map_fst_zip (Nat.le_of_eq sameLength)
  have seconds : (items.zip others).map Prod.snd = others := List.map_snd_zip (Nat.le_of_eq sameLength.symm)
  have sortedFirsts : ((items.zip others).mergeSort (fun pair another => before pair.1 another.1)).map Prod.fst =
      items.mergeSort before := by
    have sorted := List.map_mergeSort (r := fun pair another => before pair.1 another.1) (s := before) (f := Prod.fst)
      (l := items.zip others) (fun _ _ _ _ => rfl)
    rw [sorted, firsts]
  have sortedSeconds : ((items.zip others).mergeSort (fun pair another => before pair.1 another.1)).map Prod.snd =
      others.mergeSort otherBefore := by
    have sorted := List.map_mergeSort (r := fun pair another => before pair.1 another.1)
      (s := otherBefore) (f := Prod.snd)
      (l := items.zip others) (fun pair listed another listedToo => agree _ _ _ _ (zipped listed) (zipped listedToo))
    rw [sorted, seconds]
  rw [← sortedFirsts, ← sortedSeconds, List.forall₂_map_left_iff, List.forall₂_map_right_iff, List.forall₂_same]
  exact fun pair listed => zipped (List.mem_mergeSort.mp listed)

-- Where sorting leaves no choice, it does not matter whether elements are dropped before it or after.
theorem filter_merge_sort (before : α → α → Bool) (keep : α → Bool) (items : List α)
    (trans : ∀ a b c, before a b = true → before b c = true → before a c = true)
    (total : ∀ a b, before a b = true ∨ before b a = true)
    (decided : ∀ a ∈ items, ∀ b ∈ items, before a b = true → before b a = true → a = b) :
    (items.filter keep).mergeSort before = (items.mergeSort before).filter keep := by
  have linear : ∀ a b, (before a b || before b a) = true := fun a b => by
    rw [Bool.or_eq_true]
    exact total a b
  refine List.Perm.eq_of_pairwise (fun a b inFirst inSecond => ?_) (List.pairwise_mergeSort trans linear _)
    ((List.pairwise_mergeSort trans linear items).filter keep) ?_
  · have first := (List.mem_filter.mp (List.mem_mergeSort.mp inFirst)).1
    have second := List.mem_mergeSort.mp (List.mem_filter.mp inSecond).1
    exact decided a first b second
  · exact (List.mergeSort_perm _ before).trans ((List.mergeSort_perm items before).symm.filter keep)

end Selection
