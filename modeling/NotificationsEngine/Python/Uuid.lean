import NotificationsEngine.Library.Positional
import NotificationsEngine.Python.Text

/-!
# Texts of UUIDs

`str(id)` and `uuid.UUID(text)` of Python's `uuid` module.  The constructor
takes more than what `str` writes: capital letters, braces, URN prefixes,
hyphens anywhere, and whatever else `int(text, 16)` reads.
-/

namespace NotificationsEngine.Uuid

open Positional

/-! ## Writing -/

def hexLetter (digit : ℕ) : CodePoint := letter (Nat.digitChar digit)

def hyphen : CodePoint := letter '-'

/-- `"%032x" % id.int`. -/
def hex (id : UUID) : Str := (digits 16 32 id.toNat).map hexLetter

/-- `"%s-%s-%s-%s-%s" % (hex[:8], hex[8:12], hex[12:16], hex[16:20], hex[20:])`. -/
def hyphenate (hex : Str) : Str :=
  hex.take 8 ++ [hyphen] ++ (hex.drop 8).take 4 ++ [hyphen] ++ (hex.drop 12).take 4 ++ [hyphen] ++
    (hex.drop 16).take 4 ++ [hyphen] ++ hex.drop 20

def str (id : UUID) : Str := hyphenate (hex id)

/-! ## Reading -/

/-- `text.replace(old, "")` after `skip` more code points of a match. -/
def removeFrom (old : Str) (skip : ℕ) : Str → Str
  | [] => []
  | c :: rest =>
      match skip with
      | skip + 1 => removeFrom old skip rest
      | 0 =>
          if old.isPrefixOf (c :: rest) then removeFrom old (old.length - 1) rest
          else c :: removeFrom old 0 rest

/-- `text.replace(old, "")` of a non-empty `old`. -/
def remove (old text : Str) : Str := removeFrom old 0 text

/-- White space around an integer, which does not include the separators 28 to 31. -/
def isIntSpace (c : CodePoint) : Bool := isSpace c && !(28 ≤ c.val && c.val ≤ 31)

def hexDigit (c : CodePoint) : Option ℕ :=
  match decimalDigit c with
  | some digit => some digit
  | none =>
      if 97 ≤ c.val ∧ c.val ≤ 102 then some (c.val - 87)
      else if 65 ≤ c.val ∧ c.val ≤ 70 then some (c.val - 55)
      else none

/-- Hexadecimal digits with single underscores in between, read on after `value`. -/
def readHex (value : ℕ) (owed : Bool) : Str → Option ℕ
  | [] => if owed then none else some value
  | c :: rest =>
      match hexDigit c with
      | some digit => readHex (16 * value + digit) false rest
      | none => if c = underscore ∧ owed = false then readHex value true rest else none

/-- The text behind `0x`, if it is there, and an underscore that may follow it. -/
def dropPrefix : Str → Str
  | zero :: x :: rest =>
      if decimalDigit zero = some 0 ∧ (x = letter 'x' ∨ x = letter 'X') then
        match rest with
        | c :: more => if c = underscore then more else c :: more
        | [] => []
      else zero :: x :: rest
  | text => text

/-- `int(text, 16)`; `none` where it raises `ValueError`. -/
def intBase16 (text : Str) : Option Int :=
  match Tokens.trim isIntSpace text with
  | [] => none
  | c :: rest =>
      if c.val = 45 then (readHex 0 true (dropPrefix rest)).map fun (number : ℕ) => -(number : Int)
      else if c.val = 43 then (readHex 0 true (dropPrefix rest)).map Int.ofNat
      else (readHex 0 true (dropPrefix (c :: rest))).map Int.ofNat

def isBrace (c : CodePoint) : Bool := c = letter '{' || c = letter '}'

/-- `uuid.UUID(text)`; `none` where it raises `ValueError`. -/
def parse (text : Str) : Option UUID :=
  let hex := remove (.ofString "uuid:") (remove (.ofString "urn:") text)
  let hex := remove [hyphen] (Tokens.trim isBrace hex)
  if hex.length ≠ 32 then none
  else
    match intBase16 hex with
    | some number => if 0 ≤ number ∧ number < 2 ^ 128 then some (.ofInt 128 number) else none
    | none => none

/-! ## Reading what was written -/

/-- A hexadecimal digit in lower case is read as itself, and is nothing else that is looked for. -/
theorem hexLetter_spec : ∀ digit, digit < 16 →
    hexDigit (hexLetter digit) = some digit ∧ isIntSpace (hexLetter digit) = false ∧
      isBrace (hexLetter digit) = false ∧
      hexLetter digit ∉ [hyphen, letter 'u', letter 'x', letter 'X'] ∧
      (hexLetter digit).val ∉ [43, 45] := by
  decide

theorem of_mem_hex {id : UUID} {c : CodePoint} (member : c ∈ hex id) :
    ∃ digit < 16, c = hexLetter digit := by
  obtain ⟨digit, written, rfl⟩ := List.mem_map.mp member
  exact ⟨digit, lt_of_mem_digits (by decide) written, rfl⟩

theorem length_hex (id : UUID) : (hex id).length = 32 := by
  rw [hex, List.length_map, length_digits]

/-- Only hexadecimal digits and hyphens are written. -/
theorem of_mem_str {id : UUID} {c : CodePoint} (member : c ∈ str id) :
    c = hyphen ∨ ∃ digit < 16, c = hexLetter digit := by
  simp only [str, hyphenate, List.mem_append, List.mem_singleton] at member
  rcases member with
    (((((((first | dash) | second) | dash) | third) | dash) | fourth) | dash) | last
  · exact .inr (of_mem_hex (List.mem_of_mem_take first))
  · exact .inl dash
  · exact .inr (of_mem_hex (List.mem_of_mem_drop (List.mem_of_mem_take second)))
  · exact .inl dash
  · exact .inr (of_mem_hex (List.mem_of_mem_drop (List.mem_of_mem_take third)))
  · exact .inl dash
  · exact .inr (of_mem_hex (List.mem_of_mem_drop (List.mem_of_mem_take fourth)))
  · exact .inl dash
  · exact .inr (of_mem_hex (List.mem_of_mem_drop last))

/-- Nothing is removed from a text that lacks the first code point of what is looked for. -/
theorem remove_of_absent {first : CodePoint} {rest text : Str} (absent : first ∉ text) :
    remove (first :: rest) text = text := by
  rw [remove]
  induction text with
  | nil => rfl
  | cons c more ih =>
      have other : first ≠ c := fun same => absent (same ▸ List.mem_cons_self)
      have mismatch : (first :: rest).isPrefixOf (c :: more) = false := by
        simp [List.isPrefixOf, other]
      rw [removeFrom, mismatch, if_neg Bool.false_ne_true,
        ih fun member => absent (List.mem_cons_of_mem c member)]

/-- Removing one code point keeps the others. -/
theorem remove_singleton (old : CodePoint) (text : Str) :
    remove [old] text = text.filter (· ≠ old) := by
  rw [remove]
  induction text with
  | nil => rfl
  | cons c more ih =>
      by_cases same : old = c
      · subst same
        simpa [removeFrom, List.isPrefixOf] using ih
      · simpa [removeFrom, List.isPrefixOf, same, Ne.symm same] using ih

/-- The hyphens come off again. -/
theorem remove_hyphenate {hex : Str} (solid : hyphen ∉ hex) :
    remove [hyphen] (hyphenate hex) = hex := by
  have kept : ∀ part : Str, (∀ c ∈ part, c ∈ hex) → part.filter (· ≠ hyphen) = part := by
    intro part sub
    refine List.filter_eq_self.mpr fun c member => ?_
    simpa using fun same : c = hyphen => solid (same ▸ sub c member)
  have first := kept (hex.take 8) fun c => List.mem_of_mem_take
  have second := kept ((hex.drop 8).take 4) fun c member =>
    List.mem_of_mem_drop (List.mem_of_mem_take member)
  have third := kept ((hex.drop 12).take 4) fun c member =>
    List.mem_of_mem_drop (List.mem_of_mem_take member)
  have fourth := kept ((hex.drop 16).take 4) fun c member =>
    List.mem_of_mem_drop (List.mem_of_mem_take member)
  have last := kept (hex.drop 20) fun c => List.mem_of_mem_drop
  have dash : [hyphen].filter (· ≠ hyphen) = [] := by simp
  rw [remove_singleton, hyphenate]
  simp only [List.filter_append, first, second, third, fourth, last, dash, List.append_nil]
  calc hex.take 8 ++ (hex.drop 8).take 4 ++ (hex.drop 12).take 4 ++ (hex.drop 16).take 4 ++
        hex.drop 20
      = hex.take 20 ++ hex.drop 20 := by simp only [← List.take_add]
    _ = hex := List.take_append_drop 20 hex

/-- Hexadecimal digits are read as the number that they stand for. -/
theorem readHex_digits (digits : List ℕ) (small : ∀ digit ∈ digits, digit < 16) (start : ℕ)
    (owed : Bool) (present : digits ≠ [] ∨ owed = false) :
    readHex start owed (digits.map hexLetter) = some (value 16 start digits) := by
  induction digits generalizing start owed with
  | nil =>
      rw [present.resolve_left (· rfl)]
      rfl
  | cons digit rest ih =>
      have read := (hexLetter_spec digit (small digit List.mem_cons_self)).1
      rw [List.map_cons, readHex, read]
      exact ih (fun other member => small other (List.mem_cons_of_mem digit member)) _ _ (.inr rfl)

theorem dropPrefix_of_plain {text : Str} (plain : letter 'x' ∉ text ∧ letter 'X' ∉ text) :
    dropPrefix text = text := by
  unfold dropPrefix
  split
  · next zero x rest =>
      refine if_neg fun found => ?_
      rcases found.2 with rfl | rfl
      · exact plain.1 (by simp)
      · exact plain.2 (by simp)
  · rfl

theorem intBase16_hex (id : UUID) : intBase16 (hex id) = some (id.toNat : Int) := by
  have small : ∀ digit ∈ digits 16 32 id.toNat, digit < 16 :=
    fun digit => lt_of_mem_digits (by decide)
  have bounded : id.toNat % 16 ^ 32 = id.toNat := Nat.mod_eq_of_lt id.isLt
  have number := readHex_digits (digits 16 32 id.toNat) small 0 true (.inl (by simp [digits]))
  rw [value_digits, bounded] at number
  have unspaced : Tokens.trim isIntSpace (hex id) = hex id := by
    refine Tokens.trim_eq_self fun c member => ?_
    obtain ⟨digit, small, rfl⟩ := of_mem_hex member
    exact (hexLetter_spec digit small).2.1
  have unmarked : dropPrefix (hex id) = hex id := by
    refine dropPrefix_of_plain ⟨fun member => ?_, fun member => ?_⟩
    all_goals
      obtain ⟨digit, small, same⟩ := of_mem_hex member
      exact (hexLetter_spec digit small).2.2.2.1 (by simp [← same])
  have unsigned : ∀ c ∈ hex id, c.val ≠ 43 ∧ c.val ≠ 45 := by
    intro c member
    obtain ⟨digit, small, rfl⟩ := of_mem_hex member
    simpa using (hexLetter_spec digit small).2.2.2.2
  rw [intBase16, unspaced]
  cases written : hex id with
  | nil => exact absurd (length_hex id) (by simp [written])
  | cons c rest =>
      have sign := unsigned c (by simp [written])
      dsimp only
      rw [if_neg sign.2, if_neg sign.1, ← written, unmarked]
      exact congrArg (Option.map Int.ofNat) number

/-- `uuid.UUID(str(id)) == id`. -/
@[simp] theorem parse_str (id : UUID) : parse (str id) = some id := by
  have noU : letter 'u' ∉ str id := by
    intro member
    rcases of_mem_str member with dash | ⟨digit, small, same⟩
    · exact absurd dash (by decide)
    · exact (hexLetter_spec digit small).2.2.2.1 (by simp [← same])
  have unwrapped : Tokens.trim isBrace (str id) = str id := by
    refine Tokens.trim_eq_self fun c member => ?_
    rcases of_mem_str member with rfl | ⟨digit, small, rfl⟩
    · rfl
    · exact (hexLetter_spec digit small).2.2.1
  have solid : hyphen ∉ hex id := by
    intro member
    obtain ⟨digit, small, same⟩ := of_mem_hex member
    exact (hexLetter_spec digit small).2.2.2.1 (by simp [← same])
  have urn : remove (.ofString "urn:") (str id) = str id := remove_of_absent noU
  have uuid : remove (.ofString "uuid:") (str id) = str id := remove_of_absent noU
  have bare : remove [hyphen] (str id) = hex id := remove_hyphenate solid
  have inRange : (0 : Int) ≤ id.toNat ∧ (id.toNat : Int) < 2 ^ 128 :=
    ⟨Int.natCast_nonneg _, by exact_mod_cast id.isLt⟩
  rw [parse, urn, uuid, unwrapped, bare]
  simp only [length_hex, ne_eq, not_true_eq_false, if_false, intBase16_hex, inRange, and_self,
    if_true, BitVec.ofInt_natCast, BitVec.ofNat_toNat, BitVec.setWidth_eq]

theorem str_injective : Function.Injective str := by
  intro id other same
  have read := congrArg parse same
  rw [parse_str, parse_str] at read
  exact Option.some.inj read

end NotificationsEngine.Uuid
