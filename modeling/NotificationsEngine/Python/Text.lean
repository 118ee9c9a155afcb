import NotificationsEngine.Library.Decimal
import NotificationsEngine.Library.Tokens
import NotificationsEngine.Store.Notification

/-!
# Python's strings

What the code uses of `str` and `int`, on code points: stripping, reading an
integer, and surrogates.
-/

namespace NotificationsEngine

/-! ## Spaces -/

/-- `str.isspace` of one code point. -/
def isSpace (c : CodePoint) : Bool :=
  (9 ≤ c.val && c.val ≤ 13) || (28 ≤ c.val && c.val ≤ 32) || c.val = 0x85 || c.val = 0xA0 ||
    c.val = 0x1680 || (0x2000 ≤ c.val && c.val ≤ 0x200A) || c.val = 0x2028 || c.val = 0x2029 ||
    c.val = 0x202F || c.val = 0x205F || c.val = 0x3000

def strip (text : Str) : Str :=
  ((text.dropWhile isSpace).reverse.dropWhile isSpace).reverse

/-! ## Integers -/

/-- The zeros of the decimal digits of Unicode 15; the nine other digits follow each. -/
def zeros : List Nat :=
  [0x30, 0x660, 0x6F0, 0x7C0, 0x966, 0x9E6, 0xA66, 0xAE6, 0xB66, 0xBE6, 0xC66, 0xCE6, 0xD66,
    0xDE6, 0xE50, 0xED0, 0xF20, 0x1040, 0x1090, 0x17E0, 0x1810, 0x1946, 0x19D0, 0x1A80, 0x1A90,
    0x1B50, 0x1BB0, 0x1C40, 0x1C50, 0xA620, 0xA8D0, 0xA900, 0xA9D0, 0xA9F0, 0xAA50, 0xABF0,
    0xFF10, 0x104A0, 0x10D30, 0x11066, 0x110F0, 0x11136, 0x111D0, 0x112F0, 0x11450, 0x114D0,
    0x11650, 0x116C0, 0x11730, 0x118E0, 0x11950, 0x11C50, 0x11D50, 0x11DA0, 0x11F50, 0x16A60,
    0x16AC0, 0x16B50, 0x1D7CE, 0x1D7D8, 0x1D7E2, 0x1D7EC, 0x1D7F6, 0x1E140, 0x1E2F0, 0x1E4F0,
    0x1E950, 0x1FBF0]

/-- `unicodedata.decimal`. -/
def decimalDigit (c : CodePoint) : Option Nat :=
  (zeros.find? fun first => first ≤ c.val && c.val ≤ first + 9).map (c.val - ·)

def underscore : CodePoint := ⟨95, by decide⟩

/-- Decimal digits of any script, with single underscores in between. -/
def readDigits (text : Str) : Option Nat := Decimal.read decimalDigit underscore text

/-- `int(text)` of a stripped text of any length; `none` where it raises `ValueError`. -/
def int : Str → Option Int
  | [] => none
  | c :: rest =>
      if c.val = 45 then (readDigits rest).map fun (number : Nat) => -(number : Int)
      else if c.val = 43 then (readDigits rest).map Int.ofNat
      else (readDigits (c :: rest)).map Int.ofNat

/-- The code point of a character, as in `Str.ofString`. -/
def letter (character : Char) : CodePoint := ⟨character.toNat % 0x110000, Nat.mod_lt _ (by decide)⟩

theorem ofString_toString (number : Nat) :
    Str.ofString (toString number) = Decimal.numeral letter number := by
  change (Nat.repr number).toList.map _ = _
  rw [Nat.toList_repr]
  rfl

/-- A digit is read as itself, and is no space, comma or sign. -/
theorem letter_digitChar : ∀ d, d < 10 →
    decimalDigit (letter (Nat.digitChar d)) = some d ∧
      isSpace (letter (Nat.digitChar d)) = false ∧
      (letter (Nat.digitChar d)).val ∉ [43, 44, 45] := by
  decide

theorem of_mem_numeral {number : Nat} {c : CodePoint}
    (member : c ∈ Decimal.numeral letter number) :
    isSpace c = false ∧ c.val ∉ [43, 44, 45] := by
  obtain ⟨d, small, rfl⟩ := Decimal.mem_numeral member
  exact (letter_digitChar d small).2

theorem solid_numeral (number : Nat) :
    Tokens.Solid isSpace (Decimal.numeral letter number) where
  ne_nil := Decimal.numeral_ne_nil number
  head _ first := (of_mem_numeral (List.mem_of_mem_head? first)).1
  last _ final := (of_mem_numeral (List.mem_of_mem_getLast? final)).1

theorem int_numeral (number : Nat) :
    int (Decimal.numeral letter number) = some (Int.ofNat number) := by
  have digits : readDigits (Decimal.numeral letter number) = some number :=
    Decimal.read_numeral (fun d small => (letter_digitChar d small).1) number
  have unsigned : ∀ c ∈ Decimal.numeral letter number, c.val ∉ [43, 44, 45] :=
    fun c member => (of_mem_numeral member).2
  cases written : Decimal.numeral letter number with
  | nil => exact absurd written (Decimal.numeral_ne_nil number)
  | cons c rest =>
      rw [written] at digits unsigned
      have sign := unsigned c List.mem_cons_self
      simp only [List.mem_cons, List.not_mem_nil, or_false, not_or] at sign
      rw [int, if_neg sign.2.2, if_neg sign.1, digits, Option.map_some]

/-! ## Surrogates -/

/-- A lone surrogate, which Pydantic takes in no `str` with a length constraint. -/
def isSurrogate (c : CodePoint) : Bool := 0xD800 ≤ c.val && c.val ≤ 0xDFFF

end NotificationsEngine
