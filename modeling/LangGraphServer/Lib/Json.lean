import Mathlib.Data.Nat.Digits.Defs

set_option autoImplicit false

namespace JsonText

-- A JSON value. Its floats are what the format of floats says they are.
inductive Json (F : Type) where
  | null
  | bool (value : Bool)
  | int (value : Int)
  | float (value : F)
  | str (text : String)
  | list (items : List (Json F))
  | dict (entries : List (String × Json F))

def isDigit (letter : Char) : Bool := decide (48 ≤ letter.toNat ∧ letter.toNat ≤ 57)

def isNumberLetter (letter : Char) : Bool :=
  isDigit letter || decide (letter = '-' ∨ letter = '+' ∨ letter = '.' ∨ letter = 'e' ∨ letter = 'E')

-- Texts of floats read back as they were, and none of them looks like an integer.
structure FloatFormat (F : Type) where
  text : F → List Char
  value : List Char → Option F
  letters : ∀ number, ∀ letter ∈ text number, isNumberLetter letter = true
  marked : ∀ number, (text number).all (fun letter => isDigit letter || decide (letter = '-')) = false
  reads : ∀ number, value (text number) = some number

def digitLetter (digit : Nat) : Char := Char.ofNat (48 + digit)

def natText (number : Nat) : List Char :=
  if number = 0 then ['0'] else (Nat.digits 10 number).reverse.map digitLetter

def intText : Int → List Char
  | .ofNat number => natText number
  | .negSucc number => '-' :: natText (number + 1)

def hexLetter (digit : Nat) : Char := if digit < 10 then Char.ofNat (48 + digit) else Char.ofNat (87 + digit)

def unicodeEscape (code : Nat) : List Char :=
  ['\\', 'u', hexLetter (code / 4096), hexLetter (code / 256 % 16), hexLetter (code / 16 % 16), hexLetter (code % 16)]

def escape (letter : Char) : List Char :=
  if letter = '"' then ['\\', '"']
  else if letter = '\\' then ['\\', '\\']
  else if letter = '\n' then ['\\', 'n']
  else if letter = '\r' then ['\\', 'r']
  else if letter = '\t' then ['\\', 't']
  else if letter = '\x08' then ['\\', 'b']
  else if letter = '\x0c' then ['\\', 'f']
  else if 32 ≤ letter.toNat ∧ letter.toNat ≤ 126 then [letter]
  else if letter.toNat < 65536 then unicodeEscape letter.toNat
  else unicodeEscape (55296 + (letter.toNat - 65536) / 1024) ++ unicodeEscape (56320 + (letter.toNat - 65536) % 1024)

def quoted (text : String) : List Char := '"' :: (text.toList.flatMap escape ++ ['"'])

section Writer

variable {F : Type} (format : FloatFormat F)

mutual

def write : Json F → List Char
  | .null => ['n', 'u', 'l', 'l']
  | .bool true => ['t', 'r', 'u', 'e']
  | .bool false => ['f', 'a', 'l', 's', 'e']
  | .int value => intText value
  | .float value => format.text value
  | .str text => quoted text
  | .list items => '[' :: writeItems items
  | .dict entries => '\x7b' :: writeEntries entries

def writeItems : List (Json F) → List Char
  | [] => [']']
  | item :: rest => write item ++ writeMoreItems rest

def writeMoreItems : List (Json F) → List Char
  | [] => [']']
  | item :: rest => ',' :: (write item ++ writeMoreItems rest)

def writeEntries : List (String × Json F) → List Char
  | [] => ['\x7d']
  | (key, value) :: rest => quoted key ++ ':' :: (write value ++ writeMoreEntries rest)

def writeMoreEntries : List (String × Json F) → List Char
  | [] => ['\x7d']
  | (key, value) :: rest => ',' :: (quoted key ++ ':' :: (write value ++ writeMoreEntries rest))

end

end Writer

def isSpace (letter : Char) : Bool := decide (letter = ' ' ∨ letter = '\t' ∨ letter = '\n' ∨ letter = '\r')

def skipSpace (text : List Char) : List Char := text.dropWhile isSpace

def expect (word text : List Char) : Option (List Char) :=
  if word.isPrefixOf text then some (text.drop word.length) else none

def readNat (digits : List Char) : Option Nat :=
  if digits ≠ [] ∧ digits.all isDigit = true then some
    (digits.foldl (fun number letter => number * 10 + (letter.toNat - 48)) 0)
  else none

def readInt : List Char → Option Int
  | '-' :: digits => (readNat digits).map (fun number => - Int.ofNat number)
  | digits => (readNat digits).map Int.ofNat

def hexDigit (letter : Char) : Option Nat :=
  if 48 ≤ letter.toNat ∧ letter.toNat ≤ 57 then some (letter.toNat - 48)
  else if 97 ≤ letter.toNat ∧ letter.toNat ≤ 102 then some (letter.toNat - 87)
  else if 65 ≤ letter.toNat ∧ letter.toNat ≤ 70 then some (letter.toNat - 55)
  else none

def readCode : List Char → Option (Nat × List Char)
  | first :: second :: third :: fourth :: rest =>
      match hexDigit first, hexDigit second, hexDigit third, hexDigit fourth with
      | some a, some b, some c, some d => some (a * 4096 + b * 256 + c * 16 + d, rest)
      | _, _, _, _ => none
  | _ => none

-- A pair of surrogates is one letter; a surrogate alone is none.
def readUnicode (text : List Char) : Option (Char × List Char) :=
  match readCode text with
  | none => none
  | some (code, rest) =>
      if 55296 ≤ code ∧ code < 56320 then
        match (expect ['\\', 'u'] rest).bind readCode with
        | some (low, rest) =>
            if 56320 ≤ low ∧ low < 57344 then some (Char.ofNat (65536 + (code - 55296) * 1024 + (low - 56320)), rest)
              else none
        | none => none
      else if 56320 ≤ code ∧ code < 57344 then none
      else some (Char.ofNat code, rest)

def simpleEscape (kind : Char) : Option Char :=
  if kind = '"' then some '"'
  else if kind = '\\' then some '\\'
  else if kind = '/' then some '/'
  else if kind = 'n' then some '\n'
  else if kind = 'r' then some '\r'
  else if kind = 't' then some '\t'
  else if kind = 'b' then some '\x08'
  else if kind = 'f' then some '\x0c'
  else none

def readLetter : List Char → Option (Char × List Char)
  | [] => none
  | letter :: rest =>
      if letter = '\\' then
        match rest with
        | [] => none
        | kind :: rest => if kind = 'u' then readUnicode rest else (simpleEscape kind).map (fun meant => (meant, rest))
      else if letter.toNat < 32 then none
      else some (letter, rest)

def readLetters : Nat → List Char → Option (List Char × List Char)
  | 0, _ => none
  | _ + 1, [] => none
  | fuel + 1, letter :: rest =>
      if letter = '"' then some ([], rest)
      else (readLetter (letter :: rest)).bind (fun first =>
        (readLetters fuel first.2).map (fun more => (first.1 :: more.1, more.2)))

def readString (text : List Char) : Option (String × List Char) :=
  match text with
  | '"' :: rest => (readLetters (rest.length + 1) rest).map (fun read => (String.ofList read.1, read.2))
  | _ => none

section Reader

variable {F : Type} (format : FloatFormat F)

def readNumber (text : List Char) : Option (Json F × List Char) :=
  let token := text.takeWhile isNumberLetter
  let rest := text.dropWhile isNumberLetter
  if token.all (fun letter => isDigit letter || decide (letter = '-')) then (readInt token).map
    (fun value => (.int value, rest))
  else (format.value token).map (fun value => (.float value, rest))

-- Every call has fuel for the text that it reads.
mutual

def readValue : Nat → List Char → Option (Json F × List Char)
  | 0, _ => none
  | fuel + 1, text =>
      match skipSpace text with
      | [] => none
      | head :: rest =>
          if head = 'n' then (expect ['u', 'l', 'l'] rest).map (fun rest => (.null, rest))
          else if head = 't' then (expect ['r', 'u', 'e'] rest).map (fun rest => (.bool true, rest))
          else if head = 'f' then (expect ['a', 'l', 's', 'e'] rest).map (fun rest => (.bool false, rest))
          else if head = '"' then (readString (head :: rest)).map (fun read => (.str read.1, read.2))
          else if head = '[' then (readItems fuel rest).map (fun read => (.list read.1, read.2))
          else if head = '\x7b' then (readEntries fuel rest).map (fun read => (.dict read.1, read.2))
          else readNumber format (head :: rest)

def readItems : Nat → List Char → Option (List (Json F) × List Char)
  | 0, _ => none
  | fuel + 1, text =>
      match expect [']'] (skipSpace text) with
      | some rest => some ([], rest)
      | none => (readValue fuel text).bind (fun first =>
          (readMoreItems fuel first.2).map (fun more => (first.1 :: more.1, more.2)))

def readMoreItems : Nat → List Char → Option (List (Json F) × List Char)
  | 0, _ => none
  | fuel + 1, text =>
      match expect [']'] (skipSpace text) with
      | some rest => some ([], rest)
      | none => (expect [','] (skipSpace text)).bind (fun text => (readValue fuel text).bind (fun first =>
          (readMoreItems fuel first.2).map (fun more => (first.1 :: more.1, more.2))))

def readEntry : Nat → List Char → Option ((String × Json F) × List Char)
  | 0, _ => none
  | fuel + 1, text => (readString (skipSpace text)).bind (fun key => (expect [':'] (skipSpace key.2)).bind (fun text =>
      (readValue fuel text).map (fun value => ((key.1, value.1), value.2))))

def readEntries : Nat → List Char → Option (List (String × Json F) × List Char)
  | 0, _ => none
  | fuel + 1, text =>
      match expect ['\x7d'] (skipSpace text) with
      | some rest => some ([], rest)
      | none => (readEntry fuel text).bind (fun first =>
          (readMoreEntries fuel first.2).map (fun more => (first.1 :: more.1, more.2)))

def readMoreEntries : Nat → List Char → Option (List (String × Json F) × List Char)
  | 0, _ => none
  | fuel + 1, text =>
      match expect ['\x7d'] (skipSpace text) with
      | some rest => some ([], rest)
      | none => (expect [','] (skipSpace text)).bind (fun text => (readEntry fuel text).bind (fun first =>
          (readMoreEntries fuel first.2).map (fun more => (first.1 :: more.1, more.2))))

end

def loads (text : List Char) : Option (Json F) :=
  match readValue format (text.length + 1) text with
  | some (value, rest) => if skipSpace rest = [] then some value else none
  | none => none

end Reader

theorem expect_append (word rest : List Char) : expect word (word ++ rest) = some rest := by
  rw [expect, if_pos (List.isPrefixOf_iff_prefix.mpr (List.prefix_append word rest)), List.drop_left]

theorem expect_other (letter head : Char) (rest : List Char) (different : head ≠ letter) :
    expect [letter] (head :: rest) = none := by
  rw [expect, if_neg]
  intro isPrefix
  have same := (List.cons_prefix_cons.mp (List.isPrefixOf_iff_prefix.mp isPrefix)).1
  exact different same.symm

theorem skip_space_word (head : Char) (rest : List Char) (word : isSpace head = false) :
    skipSpace (head :: rest) = head :: rest := by
  rw [skipSpace, List.dropWhile_cons_of_neg (by rw [word]; exact Bool.false_ne_true)]

theorem hex_digit_letter (digit : Nat) (small : digit < 16) : hexDigit (hexLetter digit) = some digit := by
  have all : ∀ digit < 16, hexDigit (hexLetter digit) = some digit := by decide
  exact all digit small

theorem read_code_escape (code : Nat) (small : code < 65536) (rest : List Char) :
    readCode (hexLetter (code / 4096) :: hexLetter (code / 256 % 16) :: hexLetter (code / 16 % 16) ::
      hexLetter (code % 16) :: rest) = some (code, rest) := by
  rw [readCode, hex_digit_letter (code / 4096) (by omega), hex_digit_letter (code / 256 % 16) (by omega),
    hex_digit_letter (code / 16 % 16) (by omega), hex_digit_letter (code % 16) (by omega)]
  simp only [Option.some.injEq, Prod.mk.injEq, and_true]
  omega

theorem unicode_escape_append (code : Nat) (rest : List Char) : unicodeEscape code ++ rest =
    '\\' :: 'u' :: hexLetter (code / 4096) :: hexLetter (code / 256 % 16) :: hexLetter (code / 16 % 16) ::
      hexLetter (code % 16) :: rest := rfl

theorem read_letter_unicode (text : List Char) : readLetter ('\\' :: 'u' :: text) = readUnicode text := rfl

theorem read_letter_plain (letter : Char) (rest : List Char) (plain : letter ≠ '\\') (visible : 32 ≤ letter.toNat) :
    readLetter (letter :: rest) = some (letter, rest) := by
  simp only [readLetter]
  rw [if_neg plain, if_neg (Nat.not_lt.mpr visible)]

theorem read_unicode_plain (letter : Char) (small : letter.toNat < 65536) (rest : List Char) :
    readLetter (unicodeEscape letter.toNat ++ rest) = some (letter, rest) := by
  have scalar : letter.toNat < 55296 ∨ 57343 < letter.toNat := by
    rcases letter.valid with low | high
    · exact Or.inl low
    · exact Or.inr high.1
  rw [unicode_escape_append, read_letter_unicode, readUnicode, read_code_escape letter.toNat small rest]
  simp only
  rw [if_neg (by omega), if_neg (by omega), Char.ofNat_toNat]

theorem read_unicode_pair (high low : Nat) (highStarts : 55296 ≤ high) (highEnds : high < 56320)
    (lowStarts : 56320 ≤ low) (lowEnds : low < 57344) (rest : List Char) :
    readLetter (unicodeEscape high ++ (unicodeEscape low ++ rest)) =
      some (Char.ofNat (65536 + (high - 55296) * 1024 + (low - 56320)), rest) := by
  rw [unicode_escape_append high, read_letter_unicode, readUnicode, read_code_escape high (by omega)]
  simp only
  have marker : ∀ text, expect ['\\', 'u'] ('\\' :: 'u' :: text) = some text :=
    fun text => expect_append ['\\', 'u'] text
  rw [if_pos ⟨highStarts, highEnds⟩, unicode_escape_append low, marker, Option.bind_some,
    read_code_escape low (by omega) rest]
  simp only
  rw [if_pos ⟨lowStarts, lowEnds⟩]

theorem read_unicode_astral (letter : Char) (large : 65536 ≤ letter.toNat) (rest : List Char) :
    readLetter (unicodeEscape (55296 + (letter.toNat - 65536) / 1024) ++
      (unicodeEscape (56320 + (letter.toNat - 65536) % 1024) ++ rest)) = some (letter, rest) := by
  have bound : letter.toNat < 1114112 := by
    rcases letter.valid with low | high
    · exact Nat.lt_trans low (by decide)
    · exact high.2
  have pair := read_unicode_pair (55296 + (letter.toNat - 65536) / 1024) (56320 + (letter.toNat - 65536) % 1024)
    (by omega) (by omega) (by omega) (by omega) rest
  have whole : 65536 + (55296 + (letter.toNat - 65536) / 1024 - 55296) * 1024 +
      (56320 + (letter.toNat - 65536) % 1024 - 56320) = letter.toNat := by omega
  rw [whole, Char.ofNat_toNat] at pair
  exact pair

theorem read_letter_escape (letter : Char) (rest : List Char) :
    readLetter (escape letter ++ rest) = some (letter, rest) := by
  rw [escape]
  by_cases quote : letter = '"'
  · subst quote
    rfl
  · rw [if_neg quote]
    by_cases backslash : letter = '\\'
    · subst backslash
      rfl
    · rw [if_neg backslash]
      by_cases newline : letter = '\n'
      · subst newline
        rfl
      · rw [if_neg newline]
        by_cases carriage : letter = '\r'
        · subst carriage
          rfl
        · rw [if_neg carriage]
          by_cases tab : letter = '\t'
          · subst tab
            rfl
          · rw [if_neg tab]
            by_cases bell : letter = '\x08'
            · subst bell
              rfl
            · rw [if_neg bell]
              by_cases form : letter = '\x0c'
              · subst form
                rfl
              · rw [if_neg form]
                by_cases printable : 32 ≤ letter.toNat ∧ letter.toNat ≤ 126
                · rw [if_pos printable, List.singleton_append]
                  exact read_letter_plain letter rest backslash printable.1
                · rw [if_neg printable]
                  by_cases small : letter.toNat < 65536
                  · rw [if_pos small]
                    exact read_unicode_plain letter small rest
                  · rw [if_neg small, List.append_assoc]
                    exact read_unicode_astral letter (Nat.le_of_not_lt small) rest

theorem escape_starts (letter : Char) : ∃ head rest, escape letter = head :: rest ∧ head ≠ '"' := by
  rw [escape]
  by_cases quote : letter = '"'
  · rw [if_pos quote]
    exact ⟨_, _, rfl, by decide⟩
  · rw [if_neg quote]
    split
    · exact ⟨_, _, rfl, by decide⟩
    · split
      · exact ⟨_, _, rfl, by decide⟩
      · split
        · exact ⟨_, _, rfl, by decide⟩
        · split
          · exact ⟨_, _, rfl, by decide⟩
          · split
            · exact ⟨_, _, rfl, by decide⟩
            · split
              · exact ⟨_, _, rfl, by decide⟩
              · split
                · exact ⟨_, _, rfl, quote⟩
                · split
                  · exact ⟨_, _, rfl, by decide⟩
                  · exact ⟨_, _, rfl, by decide⟩

theorem read_letters_escaped (text : List Char) (fuel : Nat) (enough : text.length < fuel) (rest : List Char) :
    readLetters fuel (text.flatMap escape ++ '"' :: rest) = some (text, rest) := by
  induction text generalizing fuel with
  | nil =>
      cases fuel with
      | zero => exact absurd enough (Nat.not_lt_zero _)
      | succ fuel => rw [List.flatMap_nil, List.nil_append, readLetters, if_pos rfl]
  | cons letter later ih =>
      cases fuel with
      | zero => exact absurd enough (Nat.not_lt_zero _)
      | succ fuel =>
          obtain ⟨head, tail, starts, different⟩ := escape_starts letter
          have first := read_letter_escape letter (later.flatMap escape ++ '"' :: rest)
          rw [starts, List.cons_append] at first
          rw [List.flatMap_cons, List.append_assoc, starts, List.cons_append, readLetters, if_neg different, first,
            Option.bind_some, ih fuel (Nat.lt_of_succ_lt_succ enough), Option.map_some]

theorem read_string_quoted (text : String) (rest : List Char) : readString (quoted text ++ rest) =
    some (text, rest) := by
  have counted : ∀ letters : List Char, letters.length ≤ (letters.flatMap escape).length := by
    intro letters
    induction letters with
    | nil => exact Nat.le_refl _
    | cons letter later ih =>
        obtain ⟨head, tail, starts, _⟩ := escape_starts letter
        rw [List.flatMap_cons, List.length_append, starts, List.length_cons, List.length_cons]
        omega
  have enough := counted text.toList
  rw [quoted, List.cons_append, List.append_assoc, List.singleton_append, readString, read_letters_escaped]
  · rw [Option.map_some, String.ofList_toList]
  · rw [List.length_append, List.length_cons]
    omega

-- Numbers. A written number ends where another letter follows.

def Stops (rest : List Char) : Prop := ∀ head tail, rest = head :: tail → isNumberLetter head = false

theorem stops_letter (head : Char) (rest : List Char) (other : isNumberLetter head = false) : Stops (head :: rest) := by
  intro first tail same
  cases same
  exact other

theorem token_splits (token rest : List Char) (letters : ∀ letter ∈ token, isNumberLetter letter = true)
    (stops : Stops rest) :
    (token ++ rest).takeWhile isNumberLetter = token ∧ (token ++ rest).dropWhile isNumberLetter = rest := by
  rw [List.takeWhile_append_of_pos letters, List.dropWhile_append_of_pos letters]
  cases rest with
  | nil => exact ⟨List.append_nil token, rfl⟩
  | cons head tail =>
      have other := stops head tail rfl
      rw [List.takeWhile_cons_of_neg (by rw [other]; exact Bool.false_ne_true),
        List.dropWhile_cons_of_neg (by rw [other]; exact Bool.false_ne_true)]
      exact ⟨List.append_nil token, rfl⟩

theorem digit_letter_spec (digit : Nat) (small : digit < 10) :
    isDigit (digitLetter digit) = true ∧ (digitLetter digit).toNat - 48 = digit := by
  have all : ∀ digit < 10, isDigit (digitLetter digit) = true ∧ (digitLetter digit).toNat - 48 = digit := by decide
  exact all digit small

theorem fold_digits (digits : List Nat) (small : ∀ digit ∈ digits, digit < 10) :
    digits.foldr (fun digit number => number * 10 + ((digitLetter digit).toNat - 48)) 0 = Nat.ofDigits 10 digits := by
  induction digits with
  | nil => rfl
  | cons digit rest ih =>
      rw [List.foldr_cons, ih (fun later member => small later (List.mem_cons_of_mem digit member)),
        (digit_letter_spec digit (small digit List.mem_cons_self)).2, Nat.ofDigits_cons]
      omega

theorem nat_text_digits (number : Nat) : natText number ≠ [] ∧ ∀ letter ∈ natText number, isDigit letter = true := by
  rw [natText]
  by_cases zero : number = 0
  · rw [if_pos zero]
    refine ⟨List.cons_ne_nil _ _, fun letter member => ?_⟩
    rw [List.mem_singleton.mp member]
    rfl
  · rw [if_neg zero]
    refine ⟨?_, fun letter member => ?_⟩
    · rw [ne_eq, List.map_eq_nil_iff, List.reverse_eq_nil_iff]
      exact Nat.digits_ne_nil_iff_ne_zero.mpr zero
    · obtain ⟨digit, listed, rfl⟩ := List.mem_map.mp member
      exact (digit_letter_spec digit (Nat.digits_lt_base (by decide) (List.mem_reverse.mp listed))).1

theorem read_nat_text (number : Nat) : readNat (natText number) = some number := by
  obtain ⟨filled, digits⟩ := nat_text_digits number
  rw [readNat, if_pos ⟨filled, List.all_eq_true.mpr digits⟩, natText]
  by_cases zero : number = 0
  · rw [if_pos zero, zero]
    rfl
  · rw [if_neg zero, List.foldl_map, List.foldl_reverse,
      fold_digits _ (fun digit member => Nat.digits_lt_base (by decide) member), Nat.ofDigits_digits]

theorem int_text_letters (value : Int) : intText value ≠ [] ∧
    ∀ letter ∈ intText value, (isDigit letter || decide (letter = '-')) = true := by
  cases value with
  | ofNat number =>
      obtain ⟨filled, digits⟩ := nat_text_digits number
      exact ⟨filled, fun letter member => by rw [digits letter member, Bool.true_or]⟩
  | negSucc number =>
      obtain ⟨_, digits⟩ := nat_text_digits (number + 1)
      refine ⟨List.cons_ne_nil _ _, fun letter member => ?_⟩
      rcases List.mem_cons.mp member with rfl | member
      · rfl
      · rw [digits letter member, Bool.true_or]

theorem read_int_text (value : Int) : readInt (intText value) = some value := by
  cases value with
  | ofNat number =>
      obtain ⟨filled, digits⟩ := nat_text_digits number
      rw [intText]
      cases written : natText number with
      | nil => exact absurd written filled
      | cons head tail =>
          have first := digits head (by rw [written]; exact List.mem_cons_self)
          have unsigned : head ≠ '-' := by
            rintro rfl
            cases first
          rw [readInt]
          · rw [← written, read_nat_text]
            rfl
          · intro tail same
            cases same
            exact unsigned rfl
  | negSucc number =>
      rw [intText, readInt, read_nat_text]
      rfl

section RoundTrip

variable {F : Type} (format : FloatFormat F)

theorem number_letter_of_int (letter : Char) (member : (isDigit letter || decide (letter = '-')) = true) :
    isNumberLetter letter = true := by
  rw [isNumberLetter]
  rcases Bool.or_eq_true_iff.mp member with digit | sign
  · rw [digit, Bool.true_or]
  · rw [of_decide_eq_true sign]
    rfl

theorem read_int_number (value : Int) (rest : List Char) (stops : Stops rest) :
    readNumber format (intText value ++ rest) = some (.int value, rest) := by
  obtain ⟨_, letters⟩ := int_text_letters value
  obtain ⟨token, behind⟩ := token_splits (intText value) rest
    (fun letter member => number_letter_of_int letter (letters letter member)) stops
  simp only [readNumber]
  rw [token, behind, if_pos (List.all_eq_true.mpr letters), read_int_text]
  rfl

theorem read_float_number (value : F) (rest : List Char) (stops : Stops rest) :
    readNumber format (format.text value ++ rest) = some (.float value, rest) := by
  obtain ⟨token, behind⟩ := token_splits (format.text value) rest (format.letters value) stops
  simp only [readNumber]
  rw [token, behind, if_neg (by rw [format.marked value]; exact Bool.false_ne_true), format.reads]
  rfl

-- What a value starts with tells it from the end of a list or an object.
structure Starts (head : Char) : Prop where
  word : isSpace head = false
  listed : head ≠ ']'
  mapped : head ≠ '\x7d'

theorem number_starts (head : Char) (number : isNumberLetter head = true) : Starts head := by
  refine ⟨?_, ?_, ?_⟩
  · cases space : isSpace head with
    | false => rfl
    | true =>
        rw [isSpace, decide_eq_true_iff] at space
        rcases space with rfl | rfl | rfl | rfl <;> cases number
  · rintro rfl
    cases number
  · rintro rfl
    cases number

theorem write_starts (value : Json F) : ∃ head tail, write format value = head :: tail ∧ Starts head := by
  cases value with
  | null => exact ⟨_, _, by rw [write], by decide, by decide, by decide⟩
  | bool value =>
      cases value with
      | true => exact ⟨_, _, by rw [write], by decide, by decide, by decide⟩
      | false => exact ⟨_, _, by rw [write], by decide, by decide, by decide⟩
  | int value =>
      obtain ⟨filled, letters⟩ := int_text_letters value
      obtain ⟨head, tail, written⟩ := List.exists_cons_of_ne_nil filled
      exact ⟨head, tail, by rw [write, written],
        number_starts head (number_letter_of_int head (letters head (by rw [written]; exact List.mem_cons_self)))⟩
  | float value =>
      have filled : format.text value ≠ [] := by
        intro empty
        have marked := format.marked value
        rw [empty] at marked
        cases marked
      obtain ⟨head, tail, written⟩ := List.exists_cons_of_ne_nil filled
      exact ⟨head, tail, by rw [write, written],
        number_starts head (format.letters value head (by rw [written]; exact List.mem_cons_self))⟩
  | str text => exact ⟨_, _, by rw [write, quoted], by decide, by decide, by decide⟩
  | list items => exact ⟨_, _, by rw [write], by decide, by decide, by decide⟩
  | dict entries => exact ⟨_, _, by rw [write], by decide, by decide, by decide⟩

theorem read_value_number (token rest : List Char) (filled : token ≠ [])
    (letters : ∀ letter ∈ token, isNumberLetter letter = true) (fuel : Nat) :
    readValue format (fuel + 1) (token ++ rest) = readNumber format (token ++ rest) := by
  obtain ⟨head, tail, rfl⟩ := List.exists_cons_of_ne_nil filled
  have number := letters head List.mem_cons_self
  have different : ∀ letter, isNumberLetter letter = false → head ≠ letter := by
    rintro letter other rfl
    rw [number] at other
    cases other
  rw [readValue, List.cons_append, skip_space_word head _ (number_starts head number).word]
  simp only
  rw [if_neg (different 'n' rfl), if_neg (different 't' rfl), if_neg (different 'f' rfl), if_neg (different '"' rfl),
    if_neg (different '[' rfl), if_neg (different '\x7b' rfl)]

-- What is written is read back, whatever follows it; the induction is on the value, and the
-- fuel covers the text.
mutual

theorem read_value_write : ∀ (value : Json F) (fuel : Nat), (write format value).length < fuel → ∀ rest, Stops rest →
    readValue format fuel (write format value ++ rest) = some (value, rest)
  | _, 0, enough, _, _ => absurd enough (Nat.not_lt_zero _)
  | .null, fuel + 1, _, rest, _ => by
      rw [write, readValue]
      rfl
  | .bool true, fuel + 1, _, rest, _ => by
      rw [write, readValue]
      rfl
  | .bool false, fuel + 1, _, rest, _ => by
      rw [write, readValue]
      rfl
  | .int value, fuel + 1, _, rest, stops => by
      obtain ⟨filled, letters⟩ := int_text_letters value
      rw [write, read_value_number format (intText value) rest filled
        (fun letter member => number_letter_of_int letter (letters letter member)) fuel]
      exact read_int_number format value rest stops
  | .float value, fuel + 1, _, rest, stops => by
      have filled : format.text value ≠ [] := by
        intro empty
        have marked := format.marked value
        rw [empty] at marked
        cases marked
      rw [write, read_value_number format (format.text value) rest filled (format.letters value) fuel]
      exact read_float_number format value rest stops
  | .str text, fuel + 1, _, rest, _ => by
      have read := read_string_quoted text rest
      rw [write, readValue]
      rw [quoted, List.cons_append] at read ⊢
      rw [skip_space_word '"' _ rfl]
      simp only
      rw [if_neg (by decide), if_neg (by decide), if_neg (by decide), if_pos trivial, read]
      rfl
  | .list items, fuel + 1, enough, rest, _ => by
      rw [write, List.length_cons] at enough
      have read := read_items_write items fuel (Nat.lt_of_succ_lt_succ enough) rest
      rw [write, readValue, List.cons_append, skip_space_word '[' _ rfl]
      simp only
      rw [if_neg (by decide), if_neg (by decide), if_neg (by decide), if_neg (by decide), if_pos trivial, read]
      rfl
  | .dict entries, fuel + 1, enough, rest, _ => by
      rw [write, List.length_cons] at enough
      have read := read_entries_write entries fuel (Nat.lt_of_succ_lt_succ enough) rest
      rw [write, readValue, List.cons_append, skip_space_word '\x7b' _ rfl]
      simp only
      rw [if_neg (by decide), if_neg (by decide), if_neg (by decide), if_neg (by decide), if_neg (by decide),
        if_pos trivial, read]
      rfl

theorem read_items_write : ∀ (items : List (Json F)) (fuel : Nat), (writeItems format items).length < fuel → ∀ rest,
    readItems format fuel (writeItems format items ++ rest) = some (items, rest)
  | _, 0, enough, _ => absurd enough (Nat.not_lt_zero _)
  | [], fuel + 1, _, rest => by
      rw [writeItems, readItems]
      rfl
  | item :: more, fuel + 1, enough, rest => by
      rw [writeItems, List.length_append] at enough
      obtain ⟨head, tail, written, starts⟩ := write_starts format item
      have short : (writeMoreItems format more).length < fuel := by
        rw [written, List.length_cons] at enough
        omega
      have first := read_value_write item fuel (by
        cases more with
        | nil =>
            rw [writeMoreItems, List.length_singleton] at enough
            omega
        | cons next later =>
            rw [writeMoreItems, List.length_cons] at enough
            omega) (writeMoreItems format more ++ rest) (more_items_stop more rest)
      have later := read_more_items_write more fuel short rest
      rw [writeItems, readItems, List.append_assoc]
      rw [show expect [']'] (skipSpace (write format item ++ (writeMoreItems format more ++ rest))) = none from by
        rw [written, List.cons_append, skip_space_word head _ starts.word, expect_other ']' head _ starts.listed]]
      simp only
      rw [first, Option.bind_some, later]
      rfl

theorem more_items_stop : ∀ (items : List (Json F)) (rest : List Char), Stops (writeMoreItems format items ++ rest)
  | [], rest => by
      rw [writeMoreItems]
      exact stops_letter ']' rest rfl
  | item :: more, rest => by
      rw [writeMoreItems]
      exact stops_letter ',' _ rfl

theorem read_more_items_write : ∀ (items : List (Json F)) (fuel : Nat), (writeMoreItems format items).length < fuel →
    ∀ rest, readMoreItems format fuel (writeMoreItems format items ++ rest) = some (items, rest)
  | _, 0, enough, _ => absurd enough (Nat.not_lt_zero _)
  | [], fuel + 1, _, rest => by
      rw [writeMoreItems, readMoreItems]
      rfl
  | item :: more, fuel + 1, enough, rest => by
      rw [writeMoreItems, List.length_cons, List.length_append] at enough
      have first := read_value_write item fuel (by omega) (writeMoreItems format more ++ rest)
        (more_items_stop more rest)
      have later := read_more_items_write more fuel (by omega) rest
      rw [writeMoreItems, readMoreItems, List.cons_append, List.append_assoc, skip_space_word ',' _ rfl,
        expect_other ']' ',' _ (by decide)]
      simp only
      rw [show expect [','] (',' :: (write format item ++ (writeMoreItems format more ++ rest))) =
        some (write format item ++ (writeMoreItems format more ++ rest)) from expect_append [','] _,
        Option.bind_some, first, Option.bind_some, later]
      rfl

theorem read_entry_write : ∀ (entry : String × Json F) (fuel : Nat),
    (quoted entry.1 ++ ':' :: write format entry.2).length < fuel →
    ∀ rest, Stops rest → readEntry format fuel (quoted entry.1 ++ ':' :: (write format entry.2 ++ rest)) =
      some (entry, rest)
  | _, 0, enough, _, _ => absurd enough (Nat.not_lt_zero _)
  | (key, value), fuel + 1, enough, rest, stops => by
      rw [List.length_append, List.length_cons] at enough
      simp only at enough
      have named := read_string_quoted key (':' :: (write format value ++ rest))
      have filled := read_value_write value fuel (by omega) rest stops
      rw [readEntry]
      rw [show skipSpace (quoted key ++ ':' :: (write format value ++ rest)) = quoted key ++ ':' ::
        (write format value ++ rest) from by
        rw [quoted, List.cons_append, skip_space_word '"' _ rfl], named, Option.bind_some]
      simp only
      rw [skip_space_word ':' _ rfl, show expect [':'] (':' :: (write format value ++ rest)) =
        some (write format value ++ rest) from expect_append [':'] _, Option.bind_some, filled]
      rfl

theorem read_entries_write : ∀ (entries : List (String × Json F)) (fuel : Nat),
    (writeEntries format entries).length < fuel →
    ∀ rest, readEntries format fuel (writeEntries format entries ++ rest) = some (entries, rest)
  | _, 0, enough, _ => absurd enough (Nat.not_lt_zero _)
  | [], fuel + 1, _, rest => by
      rw [writeEntries, readEntries]
      rfl
  | (key, value) :: more, fuel + 1, enough, rest => by
      rw [writeEntries, List.length_append, List.length_cons, List.length_append] at enough
      have ends : 1 ≤ (writeMoreEntries format more).length := by
        cases more with
        | nil => rw [writeMoreEntries, List.length_singleton]
        | cons next later =>
            obtain ⟨name, item⟩ := next
            rw [writeMoreEntries, List.length_cons]
            omega
      have first := read_entry_write (key, value) fuel (by
        rw [List.length_append, List.length_cons]
        simp only
        omega) (writeMoreEntries format more ++ rest) (more_entries_stop more rest)
      have later := read_more_entries_write more fuel (by omega) rest
      simp only at first
      rw [writeEntries, readEntries, List.append_assoc, List.cons_append, List.append_assoc]
      rw [show expect ['\x7d']
        (skipSpace (quoted key ++ ':' :: (write format value ++ (writeMoreEntries format more ++ rest)))) =
          none from by
        rw [quoted, List.cons_append, skip_space_word '"' _ rfl, expect_other '\x7d' '"' _ (by decide)]]
      simp only
      rw [first, Option.bind_some, later]
      rfl

theorem more_entries_stop : ∀ (entries : List (String × Json F)) (rest : List Char),
    Stops (writeMoreEntries format entries ++ rest)
  | [], rest => by
      rw [writeMoreEntries]
      exact stops_letter '\x7d' rest rfl
  | (key, value) :: more, rest => by
      rw [writeMoreEntries]
      exact stops_letter ',' _ rfl

theorem read_more_entries_write : ∀ (entries : List (String × Json F)) (fuel : Nat),
    (writeMoreEntries format entries).length < fuel → ∀ rest,
    readMoreEntries format fuel (writeMoreEntries format entries ++ rest) = some (entries, rest)
  | _, 0, enough, _ => absurd enough (Nat.not_lt_zero _)
  | [], fuel + 1, _, rest => by
      rw [writeMoreEntries, readMoreEntries]
      rfl
  | (key, value) :: more, fuel + 1, enough, rest => by
      rw [writeMoreEntries, List.length_cons, List.length_append, List.length_cons, List.length_append] at enough
      have first := read_entry_write (key, value) fuel (by
        rw [List.length_append, List.length_cons]
        simp only
        omega) (writeMoreEntries format more ++ rest) (more_entries_stop more rest)
      have later := read_more_entries_write more fuel (by omega) rest
      simp only at first
      rw [writeMoreEntries, readMoreEntries, List.cons_append, List.append_assoc, List.cons_append, List.append_assoc,
        skip_space_word ',' _ rfl, expect_other '\x7d' ',' _ (by decide)]
      simp only
      rw [show expect [','] (',' ::
        (quoted key ++ ':' :: (write format value ++ (writeMoreEntries format more ++ rest)))) =
        some (quoted key ++ ':' :: (write format value ++ (writeMoreEntries format more ++ rest))) from
          expect_append [','] _,
        Option.bind_some, first, Option.bind_some, later]
      rfl

end

theorem loads_write (value : Json F) : loads format (write format value) = some value := by
  have read := read_value_write format value ((write format value).length + 1) (Nat.lt_succ_self _) []
    (fun head tail wrong => (by cases wrong))
  rw [List.append_nil] at read
  rw [loads, read]
  rfl

end RoundTrip

-- A written value is printable ASCII text: it has no line ends of its own.

def Printable (text : List Char) : Prop := ∀ letter ∈ text, 32 ≤ letter.toNat ∧ letter.toNat ≤ 126

theorem printable_of_all (text : List Char)
    (all : text.all (fun letter => decide (32 ≤ letter.toNat ∧ letter.toNat ≤ 126)) = true) :
    Printable text := fun letter member => of_decide_eq_true (List.all_eq_true.mp all letter member)

theorem printable_nil : Printable [] := fun _ member => (by cases member)

theorem printable_cons (letter : Char) (rest : List Char) (first : 32 ≤ letter.toNat ∧ letter.toNat ≤ 126)
    (later : Printable rest) : Printable (letter :: rest) := by
  intro other member
  rcases List.mem_cons.mp member with rfl | member
  · exact first
  · exact later other member

theorem printable_append (first second : List Char) (printable : Printable first) (later : Printable second) :
    Printable (first ++ second) := by
  intro letter member
  rcases List.mem_append.mp member with member | member
  · exact printable letter member
  · exact later letter member

theorem number_letter_printable (letter : Char) (number : isNumberLetter letter = true) :
    32 ≤ letter.toNat ∧ letter.toNat ≤ 126 := by
  rw [isNumberLetter] at number
  rcases Bool.or_eq_true_iff.mp number with digit | sign
  · rw [isDigit, decide_eq_true_iff] at digit
    omega
  · rw [decide_eq_true_iff] at sign
    rcases sign with rfl | rfl | rfl | rfl | rfl <;> decide

theorem unicode_escape_printable (code : Nat) (small : code < 65536) : Printable (unicodeEscape code) := by
  have hex : ∀ digit < 16, 32 ≤ (hexLetter digit).toNat ∧ (hexLetter digit).toNat ≤ 126 := by decide
  refine printable_cons _ _ (by decide) (printable_cons _ _ (by decide) (printable_cons _ _ (hex _ (by omega))
    (printable_cons _ _ (hex _ (by omega))
      (printable_cons _ _ (hex _ (by omega)) (printable_cons _ _ (hex _ (by omega)) ?_)))))
  exact printable_nil

theorem escape_printable (letter : Char) : Printable (escape letter) := by
  have simple : ∀ kind : Char, 32 ≤ kind.toNat ∧ kind.toNat ≤ 126 → Printable ['\\', kind] := fun kind visible =>
    printable_cons _ _ (by decide) (printable_cons _ _ visible printable_nil)
  have bound : letter.toNat < 1114112 := by
    rcases letter.valid with low | high
    · exact Nat.lt_trans low (by decide)
    · exact high.2
  rw [escape]
  split
  · exact simple '"' (by decide)
  · split
    · exact simple '\\' (by decide)
    · split
      · exact simple 'n' (by decide)
      · split
        · exact simple 'r' (by decide)
        · split
          · exact simple 't' (by decide)
          · split
            · exact simple 'b' (by decide)
            · split
              · exact simple 'f' (by decide)
              · split
                · rename_i visible
                  exact printable_cons _ _ visible printable_nil
                · split
                  · rename_i small
                    exact unicode_escape_printable letter.toNat small
                  · exact printable_append _ _ (unicode_escape_printable _ (by omega))
                      (unicode_escape_printable _ (by omega))

theorem quoted_printable (text : String) : Printable (quoted text) := by
  refine printable_cons _ _ (by decide) (printable_append _ _ (fun letter member => ?_) ?_)
  · obtain ⟨source, _, escaped⟩ := List.mem_flatMap.mp member
    exact escape_printable source letter escaped
  · exact printable_cons _ _ (by decide) printable_nil

section Printed

variable {F : Type} (format : FloatFormat F)

mutual

theorem write_printable : ∀ value : Json F, Printable (write format value)
  | .null => by
      rw [write]
      exact printable_of_all _ rfl
  | .bool true => by
      rw [write]
      exact printable_of_all _ rfl
  | .bool false => by
      rw [write]
      exact printable_of_all _ rfl
  | .int value => by
      rw [write]
      exact fun letter member => number_letter_printable letter
        (number_letter_of_int letter ((int_text_letters value).2 letter member))
  | .float value => by
      rw [write]
      exact fun letter member => number_letter_printable letter (format.letters value letter member)
  | .str text => by
      rw [write]
      exact quoted_printable text
  | .list items => by
      rw [write]
      exact printable_cons _ _ (by decide) (write_items_printable items)
  | .dict entries => by
      rw [write]
      exact printable_cons _ _ (by decide) (write_entries_printable entries)

theorem write_items_printable : ∀ items : List (Json F), Printable (writeItems format items)
  | [] => by
      rw [writeItems]
      exact printable_cons _ _ (by decide) printable_nil
  | item :: rest => by
      rw [writeItems]
      exact printable_append _ _ (write_printable item) (write_more_items_printable rest)

theorem write_more_items_printable : ∀ items : List (Json F), Printable (writeMoreItems format items)
  | [] => by
      rw [writeMoreItems]
      exact printable_cons _ _ (by decide) printable_nil
  | item :: rest => by
      rw [writeMoreItems]
      exact printable_cons _ _ (by decide)
        (printable_append _ _ (write_printable item) (write_more_items_printable rest))

theorem write_entries_printable : ∀ entries : List (String × Json F), Printable (writeEntries format entries)
  | [] => by
      rw [writeEntries]
      exact printable_cons _ _ (by decide) printable_nil
  | (key, value) :: rest => by
      rw [writeEntries]
      exact printable_append _ _ (quoted_printable key) (printable_cons _ _ (by decide)
        (printable_append _ _ (write_printable value) (write_more_entries_printable rest)))

theorem write_more_entries_printable : ∀ entries : List (String × Json F), Printable (writeMoreEntries format entries)
  | [] => by
      rw [writeMoreEntries]
      exact printable_cons _ _ (by decide) printable_nil
  | (key, value) :: rest => by
      rw [writeMoreEntries]
      exact printable_cons _ _ (by decide) (printable_append _ _ (quoted_printable key) (printable_cons _ _ (by decide)
        (printable_append _ _ (write_printable value) (write_more_entries_printable rest))))

end

end Printed

end JsonText
