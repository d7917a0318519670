import Mathlib.Data.List.Perm.Subperm
import Mathlib.Order.Lattice
import LangGraphServer.Lib.Dict

set_option autoImplicit false

namespace Expiring

open Collections

-- A table whose entries expire, and which may drop some to make room. Looking an entry up
-- may change in which order they are dropped.
structure Cache (K V T : Type) where
  Table : Type
  empty : Table
  find : Table → T → K → Option V
  get : Table → T → K → Table
  assign : Table → T → K → V → Table
  pop : Table → T → K → Table

variable {K V T : Type} [DecidableEq K] [LinearOrder T]

namespace Cache

-- What such a table promises: an entry is found up to its deadline unless it has been dropped
-- for another one, at most `limit` are found at a time, and none is dropped while there is room.
structure Lawful (cache : Cache K V T) (deadline : T → T) (limit : Nat) : Prop where
  empty : ∀ now query, cache.find cache.empty now query = none
  later : ∀ table now later query, now ≤ later →
    cache.find table later query = cache.find table now query ∨ cache.find table later query = none
  get : ∀ table now later key query, now ≤ later → cache.find (cache.get table now key) later query =
    cache.find table later query
  assigned : ∀ table now later key value, now ≤ later →
    cache.find (cache.assign table now key value) later key = if later < deadline now then some value else none
  others : ∀ table now later key value query, query ≠ key → now ≤ later →
    cache.find (cache.assign table now key value) later query = cache.find table later query ∨
      cache.find (cache.assign table now key value) later query = none
  pop : ∀ table now later key query, now ≤ later →
    cache.find (cache.pop table now key) later query = if query = key then none else cache.find table later query
  bounded : ∀ table now (found : List K), found.Nodup → (∀ query ∈ found, (cache.find table now query).isSome = true) →
    found.length ≤ limit
  room : ∀ table now later key value query (known : List K), known.length < limit →
    (∀ other, other ≠ key → (cache.find table now other).isSome = true → other ∈ known) → query ≠ key → now ≤ later →
    cache.find (cache.assign table now key value) later query = cache.find table later query

end Cache

section LeastRecent

variable (K V T) (limit : Nat)

structure LeastRecent where
  entries : Dict K (V × T)
  bounded : entries.size ≤ limit

variable {K V T limit}

def fresh (now : T) (row : V × T) : Bool := decide (now < row.2)

def found (entries : Dict K (V × T)) (now : T) (query : K) : Option V :=
  ((entries.get? query).filter (fresh now)).map Prod.fst

def moved (entries : Dict K (V × T)) (now : T) (key : K) : Dict K (V × T) :=
  match (entries.get? key).filter (fresh now) with
  | some row => (entries.pop key).set key row
  | none => entries

def unexpired (entries : Dict K (V × T)) (now : T) : Dict K (V × T) :=
  entries.restrict (fun key => (entries.get? key).any (fresh now))

def makeRoom (limit : Nat) (entries : Dict K (V × T)) (key : K) : Dict K (V × T) :=
  if key ∈ entries.keys ∨ entries.size < limit then entries
  else match entries.keys with
    | oldest :: _ => entries.pop oldest
    | [] => entries

def assigned (deadline : T → T) (limit : Nat) (entries : Dict K (V × T)) (now : T) (key : K) (value : V) :
    Dict K (V × T) :=
  ((makeRoom limit (unexpired entries now) key).pop key).set key (value, deadline now)

theorem found_row (entries : Dict K (V × T)) (now : T) (query : K) (row : V × T)
    (here : entries.get? query = some row) :
    found entries now query = if now < row.2 then some row.1 else none := by
  rw [found, here, Option.filter_some, fresh]
  by_cases lasts : now < row.2
  · rw [if_pos (decide_eq_true lasts), if_pos lasts]
    rfl
  · rw [if_neg (fun kept => lasts (of_decide_eq_true kept)), if_neg lasts]
    rfl

theorem found_none (entries : Dict K (V × T)) (now : T) (query : K) (missing : entries.get? query = none) :
    found entries now query = none := by
  rw [found, missing]
  rfl

theorem found_later (entries : Dict K (V × T)) (now later : T) (query : K) (ordered : now ≤ later) :
    found entries later query = found entries now query ∨ found entries later query = none := by
  cases here : entries.get? query with
  | none => exact Or.inr (found_none entries later query here)
  | some row =>
      rw [found_row entries now query row here, found_row entries later query row here]
      by_cases lasts : later < row.2
      · rw [if_pos lasts, if_pos (lt_of_le_of_lt ordered lasts)]
        exact Or.inl rfl
      · exact Or.inr (if_neg lasts)

theorem get_moved (entries : Dict K (V × T)) (now : T) (key query : K) :
    (moved entries now key).get? query = entries.get? query := by
  rw [moved]
  split
  · rename_i row present
    obtain ⟨here, _⟩ := Option.filter_eq_some_iff.mp present
    rw [Dict.get_set, Dict.get_pop]
    by_cases own : query = key
    · rw [if_pos own, own, here]
    · rw [if_neg own, if_neg own]
  · rfl

theorem found_unexpired (entries : Dict K (V × T)) (now later : T) (query : K) (ordered : now ≤ later) :
    found (unexpired entries now) later query = found entries later query := by
  have kept : (unexpired entries now).get? query =
      if (entries.get? query).any (fresh now) = true then entries.get? query else none := entries.get_restrict _ query
  cases here : entries.get? query with
  | none =>
      rw [here, ite_self] at kept
      rw [found_none _ later query kept, found_none _ later query here]
  | some row =>
      rw [here, Option.any_some] at kept
      by_cases lastsNow : now < row.2
      · rw [if_pos (show fresh now row = true from decide_eq_true lastsNow)] at kept
        rw [found_row _ later query row kept, found_row _ later query row here]
      · rw [if_neg (fun lasts : fresh now row = true => lastsNow (of_decide_eq_true lasts))] at kept
        rw [found_none _ later query kept, found_row _ later query row here,
          if_neg (fun lasts => lastsNow (lt_of_le_of_lt ordered lasts))]

omit [LinearOrder T] in
theorem get_make_room (limit : Nat) (entries : Dict K (V × T)) (key query : K) :
    (makeRoom limit entries key).get? query = entries.get? query ∨ (makeRoom limit entries key).get? query = none := by
  rw [makeRoom]
  split
  · exact Or.inl rfl
  · split
    · rename_i oldest _ _
      rw [Dict.get_pop]
      by_cases own : query = oldest
      · exact Or.inr (if_pos own)
      · exact Or.inl (if_neg own)
    · exact Or.inl rfl

theorem found_assigned (deadline : T → T) (limit : Nat) (entries : Dict K (V × T)) (now later : T)
    (key : K) (value : V) :
    found (assigned deadline limit entries now key value) later key = if later < deadline now then some
      value else none := by
  refine found_row _ later key (value, deadline now) ?_
  rw [assigned, Dict.get_set, if_pos rfl]

theorem found_other (deadline : T → T) (limit : Nat) (entries : Dict K (V × T)) (now later : T)
    (key query : K) (value : V)
    (other : query ≠ key) : found (assigned deadline limit entries now key value) later query =
      found (makeRoom limit (unexpired entries now) key) later query := by
  rw [found, found, assigned, Dict.get_set, if_neg other, Dict.get_pop, if_neg other]

omit [LinearOrder T] in
theorem make_room_size (limit : Nat) (entries : Dict K (V × T)) (key : K) (positive : 0 < limit)
    (bounded : entries.size ≤ limit) :
    ((makeRoom limit entries key).pop key).size < limit := by
  rw [makeRoom]
  split
  · rename_i fits
    rcases fits with present | smaller
    · have fewer := entries.size_pop key present
      omega
    · exact Nat.lt_of_le_of_lt (entries.size_pop_le key) smaller
  · split
    · rename_i oldest rest listed
      have present : oldest ∈ entries.keys := by
        rw [listed]
        exact List.mem_cons_self
      have fewer := entries.size_pop oldest present
      have less := (entries.pop oldest).size_pop_le key
      omega
    · rename_i listed
      have none : entries.size = 0 := by
        rw [← Dict.keys_length, listed]
        rfl
      have less := entries.size_pop_le key
      omega

theorem assigned_size (deadline : T → T) (limit : Nat) (entries : Dict K (V × T)) (now : T) (key : K) (value : V)
    (positive : 0 < limit)
    (bounded : entries.size ≤ limit) : (assigned deadline limit entries now key value).size ≤ limit := by
  have kept : (unexpired entries now).size ≤ limit := by
    rw [unexpired, Dict.size_total]
    exact Nat.le_trans (entries.total_restrict_le _ _) (by rw [← Dict.size_total]; exact bounded)
  have room := make_room_size limit (unexpired entries now) key positive kept
  rw [assigned, Dict.size_set]
  split <;> omega

theorem moved_size (entries : Dict K (V × T)) (now : T) (key : K) : (moved entries now key).size = entries.size := by
  rw [moved]
  split
  · rename_i row present
    obtain ⟨here, _⟩ := Option.filter_eq_some_iff.mp present
    have listed : key ∈ entries.keys := (entries.mem_keys key).mpr ⟨row, here⟩
    have absent : key ∉ (entries.pop key).keys := fun listed => ((entries.mem_keys_pop key key).mp listed).2 rfl
    rw [Dict.size_set, if_neg absent]
    exact entries.size_pop key listed
  · rfl

variable (K V) in
-- Of the entries that have not expired, the least recently used one is dropped first.
def leastRecent (deadline : T → T) (limit : Nat) (positive : 0 < limit) : Cache K V T where
  Table := LeastRecent K V T limit
  empty := ⟨Dict.empty, Nat.zero_le _⟩
  find table now query := found table.entries now query
  get table now key := ⟨moved table.entries now key, (moved_size table.entries now key).trans_le table.bounded⟩
  assign table now key value := ⟨assigned deadline limit table.entries now key value,
    assigned_size deadline limit table.entries now key value positive table.bounded⟩
  pop table _ key := ⟨table.entries.pop key, Nat.le_trans (table.entries.size_pop_le key) table.bounded⟩

theorem least_recent_lawful (deadline : T → T) (limit : Nat) (positive : 0 < limit) :
    (leastRecent K V deadline limit positive).Lawful deadline limit := by
  constructor
  · exact fun _ _ => rfl
  · exact fun table now later query ordered => found_later table.entries now later query ordered
  · intro table now later key query _
    show found (moved table.entries now key) later query = found table.entries later query
    rw [found, found, get_moved]
  · exact fun table now later key value _ => found_assigned deadline limit table.entries now later key value
  · intro table now later key value query other ordered
    show found (assigned deadline limit table.entries now key value) later query = found table.entries later query ∨
      found (assigned deadline limit table.entries now key value) later query = none
    rw [found_other deadline limit table.entries now later key query value other,
      ← found_unexpired table.entries now later query ordered, found, found]
    rcases get_make_room limit (unexpired table.entries now) key query with same | dropped
    · exact Or.inl (by rw [same])
    · exact Or.inr (by rw [dropped]; rfl)
  · intro table now later key query _
    show found (table.entries.pop key) later query = if query = key then none else found table.entries later query
    rw [found, found, Dict.get_pop]
    by_cases own : query = key
    · rw [if_pos own, if_pos own]
      rfl
    · rw [if_neg own, if_neg own]
  · intro table now listed apart present
    have inside : ∀ query ∈ listed, query ∈ table.entries.keys := by
      intro query member
      have some_ : (found table.entries now query).isSome = true := present query member
      rw [found, Option.isSome_map] at some_
      obtain ⟨row, kept⟩ := Option.isSome_iff_exists.mp some_
      exact (table.entries.mem_keys query).mpr ⟨row, (Option.filter_eq_some_iff.mp kept).1⟩
    have fewer := (List.subperm_of_subset apart inside).length_le
    rw [Dict.keys_length] at fewer
    exact Nat.le_trans fewer table.bounded
  · intro table now later key value query known fits all other ordered
    show found (assigned deadline limit table.entries now key value) later query = found table.entries later query
    have roomy : makeRoom limit (unexpired table.entries now) key = unexpired table.entries now := by
      rw [makeRoom, if_pos]
      by_cases present : key ∈ (unexpired table.entries now).keys
      · exact Or.inl present
      · refine Or.inr ?_
        have inside : ∀ other ∈ (unexpired table.entries now).keys, other ∈ known := by
          intro other member
          refine all other (fun same => present (same ▸ member)) ?_
          obtain ⟨listed, lasts⟩ := (Dict.mem_keys_restrict _ _ _).mp member
          obtain ⟨row, here⟩ := (table.entries.mem_keys other).mp listed
          rw [here, Option.any_some] at lasts
          show (found table.entries now other).isSome = true
          rw [found, here, Option.isSome_map, Option.filter_some, if_pos lasts]
          rfl
        have fewer := (List.subperm_of_subset (unexpired table.entries now).keys_nodup inside).length_le
        rw [Dict.keys_length] at fewer
        omega
    rw [found_other deadline limit table.entries now later key query value other, roomy,
      found_unexpired table.entries now later query ordered]

end LeastRecent

end Expiring
