import Mathlib.Data.Nat.Digits.Defs
import Mathlib.Tactic.Ring

set_option autoImplicit false

namespace Decimal

section Strip

variable {α : Type} (blank : α → Bool)

def strip (text : List α) : List α := ((text.dropWhile blank).reverse.dropWhile blank).reverse

theorem drop_while_of_all (margin rest : List α) (blanks : ∀ item ∈ margin, blank item = true)
    (sharp : ∀ item ∈ rest.head?, blank item = false) : (margin ++ rest).dropWhile blank = rest := by
  rw [List.dropWhile_append_of_pos blanks]
  cases rest with
  | nil => rfl
  | cons item others => rw [List.dropWhile_cons_of_neg (by rw [sharp item rfl]; exact Bool.false_ne_true)]

-- What is between two margins is found where it begins and ends with something else.
theorem strip_margins (before core after : List α) (left : ∀ item ∈ before, blank item = true)
    (right : ∀ item ∈ after, blank item = true) (first : ∀ item ∈ core.head?, blank item = false)
    (last : ∀ item ∈ core.getLast?, blank item = false) (filled : core ≠ []) :
    strip blank (before ++ core ++ after) = core := by
  have head : (core ++ after).head? = core.head? := by
    cases core with
    | nil => exact absurd rfl filled
    | cons item others => rfl
  rw [strip, List.append_assoc, drop_while_of_all blank before (core ++ after) left (head ▸ first), List.reverse_append,
    drop_while_of_all blank after.reverse core.reverse (fun item member => right item (List.mem_reverse.mp member))
      (List.head?_reverse ▸ last), List.reverse_reverse]

theorem strip_between (text : List α) : ∃ before after, text = before ++ strip blank text ++ after ∧
    (∀ item ∈ before, blank item = true) ∧ (∀ item ∈ after, blank item = true) := by
  refine ⟨text.takeWhile blank, ((text.dropWhile blank).reverse.takeWhile blank).reverse, ?_,
    fun item member => List.all_eq_true.mp List.all_takeWhile item member, fun item member => ?_⟩
  · rw [strip, List.append_assoc, ← List.reverse_append, List.takeWhile_append_dropWhile, List.reverse_reverse,
      List.takeWhile_append_dropWhile]
  · exact List.all_eq_true.mp List.all_takeWhile item (List.mem_reverse.mp member)

end Strip

def isSpaceByte (byte : UInt8) : Bool := decide (byte = 32 ∨ (9 ≤ byte ∧ byte ≤ 13))

def isDigitByte (byte : UInt8) : Bool := decide (48 ≤ byte ∧ byte ≤ 57)

-- Digits with single underscores between them, and at most 4300 of them.
def readDigits (value count : Nat) (afterDigit : Bool) : List UInt8 → Option Nat
  | [] => if afterDigit = true ∧ count ≤ 4300 then some value else none
  | byte :: rest =>
      if isDigitByte byte then readDigits (value * 10 + (byte.toNat - 48)) (count + 1) true rest
      else if byte = 95 ∧ afterDigit = true then readDigits value count false rest
      else none

-- `int(value)` for bytes; `none` is its `ValueError`.
def intOfBytes (value : List UInt8) : Option Int :=
  match strip isSpaceByte value with
  | 43 :: digits => (readDigits 0 0 false digits).map Int.ofNat
  | 45 :: digits => (readDigits 0 0 false digits).map (fun size => - Int.ofNat size)
  | digits => (readDigits 0 0 false digits).map Int.ofNat

-- The number that the digits spell, the most significant first.
def number (digits : List UInt8) : Nat := Nat.ofDigits 10 (digits.reverse.map (fun byte => byte.toNat - 48))

-- Groups of digits that single underscores join.
structure Grouped (groups : List (List UInt8)) (text : List UInt8) : Prop where
  joined : text = List.intercalate [95] groups
  some : groups ≠ []
  digits : ∀ group ∈ groups, group ≠ [] ∧ ∀ byte ∈ group, 48 ≤ byte ∧ byte ≤ 57
  few : groups.flatten.length ≤ 4300

-- What Python's grammar of integers says that the bytes stand for.
inductive IntegerLiteral (text : List UInt8) : Int → Prop where
  | spelled (before sign body after : List UInt8) (groups : List (List UInt8)) :
      text = before ++ (sign ++ body) ++ after →
      (∀ byte ∈ before ++ after, byte = 32 ∨ (9 ≤ byte ∧ byte ≤ 13)) →
      sign = [] ∨ sign = [43] ∨ sign = [45] → Grouped groups body →
      IntegerLiteral text (if sign = [45] then - (number groups.flatten : Int) else number groups.flatten)

def extended (value : Nat) (digits : List UInt8) : Nat :=
  digits.foldl (fun read byte => read * 10 + (byte.toNat - 48)) value

theorem extended_number (digits : List UInt8) : extended 0 digits = number digits := by
  rw [number, Nat.ofDigits_eq_foldr, List.foldr_map, List.foldr_reverse, extended]
  congr 1
  funext read byte
  rw [Nat.cast_id, Nat.add_comm, Nat.mul_comm]

theorem digit_byte_iff (byte : UInt8) : isDigitByte byte = true ↔ 48 ≤ byte ∧ byte ≤ 57 := decide_eq_true_iff

theorem intercalate_cons (group : List UInt8) (groups : List (List UInt8)) :
    List.intercalate [95] (group :: groups) = group ++ groups.flatMap (fun other => 95 :: other) := by
  induction groups generalizing group with
  | nil => rw [List.intercalate_singleton, List.flatMap_nil, List.append_nil]
  | cons other others ih =>
      rw [List.intercalate_cons_cons, ih, List.flatMap_cons, List.append_assoc, List.singleton_append, List.cons_append]

-- What is still read of a literal: the rest of a group, then further groups after their
-- underscores.
structure Remains (value count : Nat) (afterDigit : Bool) (text : List UInt8) (result : Nat) (first : List UInt8)
    (groups : List (List UInt8)) : Prop where
  joined : text = first ++ groups.flatMap (fun other => 95 :: other)
  begun : afterDigit = false → first ≠ []
  digits : ∀ byte ∈ first, isDigitByte byte = true
  others : ∀ group ∈ groups, group ≠ [] ∧ ∀ byte ∈ group, isDigitByte byte = true
  few : count + (first ++ groups.flatten).length ≤ 4300
  total : result = extended value (first ++ groups.flatten)

theorem read_digits_iff (text : List UInt8) (value count : Nat) (afterDigit : Bool) (result : Nat) :
    readDigits value count afterDigit text = some result ↔
      ∃ first groups, Remains value count afterDigit text result first groups := by
  induction text generalizing value count afterDigit with
  | nil =>
      rw [readDigits]
      constructor
      · intro ended
        split at ended
        · rename_i fine
          cases ended
          exact ⟨[], [], rfl, fun blank => (by rw [fine.1] at blank; cases blank), by simp, by simp, by
            simpa using fine.2, rfl⟩
        · cases ended
      · rintro ⟨first, groups, remains⟩
        obtain ⟨rfl, nothing⟩ := List.append_eq_nil_iff.mp remains.joined.symm
        have none_left : groups = [] := by
          cases groups with
          | nil => rfl
          | cons group others => simp at nothing
        subst none_left
        have few := remains.few
        rw [List.flatten_nil, List.append_nil, List.length_nil, Nat.add_zero] at few
        have after : afterDigit = true := by
          cases afterDigit with
          | true => rfl
          | false => exact absurd rfl (remains.begun rfl)
        rw [if_pos ⟨after, few⟩, remains.total]
        rfl
  | cons byte rest ih =>
      rw [readDigits]
      by_cases digit : isDigitByte byte = true
      · rw [if_pos digit, ih]
        constructor
        · rintro ⟨first, groups, remains⟩
          refine ⟨byte :: first, groups, by rw [remains.joined, List.cons_append], fun _ => List.cons_ne_nil _ _,
            List.forall_mem_cons.mpr ⟨digit, remains.digits⟩, remains.others, ?_, remains.total⟩
          have few := remains.few
          rw [List.cons_append, List.length_cons]
          omega
        · rintro ⟨first, groups, remains⟩
          cases first with
          | nil =>
              -- an underscore is no digit
              have joined := remains.joined
              cases groups with
              | nil => cases joined
              | cons group others =>
                  rw [List.nil_append, List.flatMap_cons, List.cons_append] at joined
                  rw [(List.cons.inj joined).1] at digit
                  exact absurd digit (by decide)
          | cons head first =>
              obtain ⟨rfl, joined⟩ := List.cons.inj remains.joined
              refine ⟨first, groups, joined, fun blank => (by cases blank), fun other member =>
                remains.digits other (List.mem_cons_of_mem _ member), remains.others, ?_, remains.total⟩
              have few := remains.few
              rw [List.cons_append, List.length_cons] at few
              omega
      · rw [if_neg digit]
        constructor
        · intro read
          split at read
          · rename_i underscore
            obtain ⟨rfl, rfl⟩ := underscore
            obtain ⟨first, groups, remains⟩ := (ih value count false).mp read
            refine ⟨[], first :: groups, ?_, fun blank => (by cases blank), by simp, ?_, remains.few, remains.total⟩
            · rw [remains.joined, List.nil_append, List.flatMap_cons, List.cons_append]
            · exact List.forall_mem_cons.mpr ⟨⟨remains.begun rfl, remains.digits⟩, remains.others⟩
          · cases read
        · rintro ⟨first, groups, remains⟩
          cases first with
          | cons head first =>
              obtain ⟨rfl, _⟩ := List.cons.inj remains.joined
              exact absurd (remains.digits byte List.mem_cons_self) digit
          | nil =>
              have joined := remains.joined
              cases groups with
              | nil => cases joined
              | cons group others =>
                  rw [List.nil_append, List.flatMap_cons, List.cons_append] at joined
                  obtain ⟨rfl, text⟩ := List.cons.inj joined
                  have after : afterDigit = true := by
                    cases afterDigit with
                    | true => rfl
                    | false => exact absurd rfl (remains.begun rfl)
                  obtain ⟨filled, behind⟩ := List.forall_mem_cons.mp remains.others
                  rw [if_pos ⟨rfl, after⟩, ih]
                  exact ⟨group, others, text, fun _ => filled.1, filled.2, behind, remains.few, remains.total⟩

-- A text is read as a number exactly when groups of digits spell that number.
theorem read_digits_grouped (text : List UInt8) (result : Nat) :
    readDigits 0 0 false text = some result ↔ ∃ groups, Grouped groups text ∧ result = number groups.flatten := by
  rw [read_digits_iff]
  constructor
  · rintro ⟨first, groups, remains⟩
    refine ⟨first :: groups, ⟨?_, List.cons_ne_nil _ _, ?_, ?_⟩, ?_⟩
    · rw [intercalate_cons]
      exact remains.joined
    · simp only [← digit_byte_iff]
      exact List.forall_mem_cons.mpr ⟨⟨remains.begun rfl, remains.digits⟩, remains.others⟩
    · have few := remains.few
      rw [Nat.zero_add] at few
      exact few
    · rw [← extended_number]
      exact remains.total
  · rintro ⟨groups, grouped, total⟩
    cases groups with
    | nil => exact absurd rfl grouped.some
    | cons first groups =>
        have digits := grouped.digits
        simp only [← digit_byte_iff] at digits
        obtain ⟨filled, others⟩ := List.forall_mem_cons.mp digits
        refine ⟨first, groups, ?_, fun _ => filled.1, filled.2, others, ?_, ?_⟩
        · rw [← intercalate_cons]
          exact grouped.joined
        · rw [Nat.zero_add]
          exact grouped.few
        · rw [total, ← extended_number]
          rfl

-- No byte of a literal is blank, nor a sign, and there is one.
theorem grouped_bytes (groups : List (List UInt8)) (text : List UInt8) (grouped : Grouped groups text) :
    text ≠ [] ∧ ∀ byte ∈ text, byte = 95 ∨ (48 ≤ byte ∧ byte ≤ 57) := by
  obtain ⟨joined, some, digits, _⟩ := grouped
  subst joined
  cases groups with
  | nil => exact absurd rfl some
  | cons first groups =>
      obtain ⟨⟨filled, own⟩, others⟩ := List.forall_mem_cons.mp digits
      rw [intercalate_cons]
      refine ⟨fun nothing => filled (List.append_eq_nil_iff.mp nothing).1, fun byte member => ?_⟩
      rcases List.mem_append.mp member with inside | later
      · exact Or.inr (own byte inside)
      · obtain ⟨group, listed, inside⟩ := List.mem_flatMap.mp later
        exact (List.mem_cons.mp inside).imp_right (fun held => (others group listed).2 byte held)

theorem sharp_byte (byte : UInt8) (sharp : (byte = 43 ∨ byte = 45) ∨ byte = 95 ∨ (48 ≤ byte ∧ byte ≤ 57)) :
    isSpaceByte byte = false := by
  rw [isSpaceByte, decide_eq_false_iff_not]
  simp only [← UInt8.toNat_inj, UInt8.le_iff_toNat_le, UInt8.reduceToNat] at sharp ⊢
  omega

-- `int(value)` is what Python's grammar says.
theorem int_of_bytes_iff (text : List UInt8) (result : Int) :
    intOfBytes text = some result ↔ IntegerLiteral text result := by
  constructor
  · intro read
    obtain ⟨before, after, whole, left, right⟩ := strip_between isSpaceByte text
    have blanks : ∀ byte ∈ before ++ after, byte = 32 ∨ (9 ≤ byte ∧ byte ≤ 13) := fun byte member =>
      of_decide_eq_true ((List.mem_append.mp member).elim (left byte) (right byte))
    have spelled (sign digits : List UInt8) (size : Nat) (cut : strip isSpaceByte text = sign ++ digits)
        (signed : sign = [] ∨ sign = [43] ∨ sign = [45]) (found : readDigits 0 0 false digits = some size) :
        IntegerLiteral text (if sign = [45] then - (size : Int) else size) := by
      obtain ⟨groups, grouped, rfl⟩ := (read_digits_grouped digits size).mp found
      exact .spelled before sign digits after groups (cut ▸ whole) blanks signed grouped
    rw [intOfBytes] at read
    split at read
    next digits cut =>
      obtain ⟨size, found, rfl⟩ := Option.map_eq_some_iff.mp read
      exact spelled [43] digits size cut (Or.inr (Or.inl rfl)) found
    next digits cut =>
      obtain ⟨size, found, rfl⟩ := Option.map_eq_some_iff.mp read
      exact spelled [45] digits size cut (Or.inr (Or.inr rfl)) found
    next digits _ _ =>
      obtain ⟨size, found, rfl⟩ := Option.map_eq_some_iff.mp read
      exact spelled [] _ size rfl (Or.inl rfl) found
  · rintro ⟨before, sign, body, after, groups, rfl, blanks, signed, grouped⟩
    obtain ⟨filled, bytes⟩ := grouped_bytes groups body grouped
    have found := (read_digits_grouped body _).mpr ⟨groups, grouped, rfl⟩
    have sharp : ∀ byte ∈ sign ++ body, isSpaceByte byte = false := by
      intro byte member
      apply sharp_byte
      rcases List.mem_append.mp member with inside | inside
      · rcases signed with rfl | rfl | rfl
        · cases inside
        · exact Or.inl (Or.inl (List.mem_singleton.mp inside))
        · exact Or.inl (Or.inr (List.mem_singleton.mp inside))
      · exact Or.inr (bytes byte inside)
    have cut : strip isSpaceByte (before ++ (sign ++ body) ++ after) = sign ++ body := by
      apply strip_margins
      · exact fun byte member => decide_eq_true (blanks byte (List.mem_append_left _ member))
      · exact fun byte member => decide_eq_true (blanks byte (List.mem_append_right _ member))
      · exact fun byte first => sharp byte (List.mem_of_mem_head? first)
      · exact fun byte last => sharp byte (List.mem_of_mem_getLast? last)
      · exact fun nothing => filled (List.append_eq_nil_iff.mp nothing).2
    rw [intOfBytes, cut]
    rcases signed with rfl | rfl | rfl
    · cases body with
      | nil => exact absurd rfl filled
      | cons head rest =>
          have first := bytes head List.mem_cons_self
          rw [List.nil_append]
          split
          next cut =>
            obtain ⟨rfl, _⟩ := List.cons.inj cut
            exact absurd first (by decide)
          next cut =>
            obtain ⟨rfl, _⟩ := List.cons.inj cut
            exact absurd first (by decide)
          next => rw [found]; rfl
    · simp only [List.singleton_append, found]
      rfl
    · simp only [List.singleton_append, found]
      rfl

end Decimal
