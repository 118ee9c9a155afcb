import NotificationsEngine.Library.Decimal
import NotificationsEngine.Library.Positional
import Mathlib.Data.List.TakeWhile

/-!
# JSON records

Objects of strings and integers, one a line, written in printable ASCII and read
again.  Beyond sixteen bits a code point is escaped as two UTF-16 units, and a
reader joins such units again.
-/

namespace JsonRecord

open Positional

abbrev CodePoint := Fin 0x110000

abbrev Text := List CodePoint

def codePoint (number : ℕ) : CodePoint := ⟨number % 0x110000, Nat.mod_lt number (Nat.succ_pos _)⟩

abbrev Line := List ℕ

inductive Value where
  | string (text : Text)
  | integer (number : ℤ)
  deriving DecidableEq

abbrev Object := List (Text × Value)

/-! ## Writing -/

def units (c : ℕ) : List ℕ :=
  if c < 0x10000 then [c]
  else [0xD800 + (c - 0x10000) / 0x400, 0xDC00 + (c - 0x10000) % 0x400]

def hexLetter (digit : ℕ) : ℕ := if digit < 10 then 48 + digit else 87 + digit

/-- Units with a short escape, each with the letter behind the backslash. -/
def shortEscapes : List (ℕ × ℕ) :=
  [(34, 34), (92, 92), (8, 98), (9, 116), (10, 110), (12, 102), (13, 114)]

def shortEscape (unit : ℕ) : Option ℕ :=
  (shortEscapes.find? fun pair => pair.1 = unit).map (·.2)

def isPrintable (c : ℕ) : Bool := 32 ≤ c && c ≤ 126

def escape (unit : ℕ) : Line :=
  match shortEscape unit with
  | some letter => [92, letter]
  | none =>
      if isPrintable unit then [unit] else 92 :: 117 :: (digits 16 4 unit).map hexLetter

def body (text : Text) : List ℕ := text.flatMap fun c => units c.val

def quote (text : Text) : Line := 34 :: ((body text).flatMap escape ++ [34])

def writeInteger : ℤ → Line
  | .ofNat number => Decimal.numeral Char.toNat number
  | .negSucc number => 45 :: Decimal.numeral Char.toNat (number + 1)

def Value.write : Value → Line
  | string text => quote text
  | integer number => writeInteger number

def writeMember (member : Text × Value) : Line := quote member.1 ++ 58 :: 32 :: member.2.write

def writeMore (members : Object) : Line :=
  members.flatMap (fun member => 44 :: 32 :: writeMember member) ++ [125]

def writeObject : Object → Line
  | [] => [123, 125]
  | first :: members => 123 :: (writeMember first ++ writeMore members)

def writeLines (objects : List Object) : Line :=
  objects.flatMap fun object => writeObject object ++ [10]

/-! ## Reading -/

def isHigh (unit : ℕ) : Bool := 0xD800 ≤ unit && unit ≤ 0xDBFF

def isLow (unit : ℕ) : Bool := 0xDC00 ≤ unit && unit ≤ 0xDFFF

/-- A high unit and a low one behind it are one code point. -/
def join : List ℕ → Text
  | high :: low :: rest =>
      if isHigh high && isLow low then
        codePoint (0x10000 + (high - 0xD800) * 0x400 + (low - 0xDC00)) :: join rest
      else codePoint high :: join (low :: rest)
  | [unit] => [codePoint unit]
  | [] => []

def hexDigit (c : ℕ) : Option ℕ :=
  if 48 ≤ c ∧ c ≤ 57 then some (c - 48)
  else if 97 ≤ c ∧ c ≤ 102 then some (c - 87)
  else if 65 ≤ c ∧ c ≤ 70 then some (c - 55)
  else none

/-- The unit that a letter behind a backslash stands for; a slash may be escaped too. -/
def unescape (letter : ℕ) : Option ℕ :=
  (((47, 47) :: shortEscapes).find? fun pair => pair.2 = letter).map (·.1)

def readUnits : Line → Option (List ℕ × Line)
  | [] => none
  | c :: rest =>
      if c = 34 then some ([], rest)
      else if c = 92 then
        match rest with
        | [] => none
        | letter :: rest =>
            if letter = 117 then
              match rest with
              | first :: second :: third :: fourth :: rest =>
                  match [first, second, third, fourth].mapM hexDigit with
                  | none => none
                  | some digits =>
                      (readUnits rest).map fun (units, left) => (value 16 0 digits :: units, left)
              | _ => none
            else
              match unescape letter with
              | none => none
              | some unit => (readUnits rest).map fun (units, left) => (unit :: units, left)
      else if c < 32 then none
      else (readUnits rest).map fun (units, left) => (c :: units, left)

def digit (c : ℕ) : Option ℕ := if 48 ≤ c ∧ c ≤ 57 then some (c - 48) else none

def isDigit (c : ℕ) : Bool := (digit c).isSome

/-- A numeral without leading zeros, with what follows it. -/
def readNatural (text : Line) : Option (ℕ × Line) :=
  let numeral := text.takeWhile isDigit
  if numeral.head? = some 48 ∧ numeral ≠ [48] then none
  else (Decimal.read digit 0 numeral).map fun number => (number, text.dropWhile isDigit)

def readValue : Line → Option (Value × Line)
  | [] => none
  | c :: rest =>
      if c = 34 then (readUnits rest).map fun (units, left) => (.string (join units), left)
      else if c = 45 then (readNatural rest).map fun (number, left) => (.integer (-number), left)
      else (readNatural (c :: rest)).map fun (number, left) => (.integer number, left)

def isSpace (c : ℕ) : Bool := c = 32 || c = 9 || c = 10 || c = 13

def skip (text : Line) : Line := text.dropWhile isSpace

def expect (mark : ℕ) (text : Line) : Option Line :=
  match skip text with
  | [] => none
  | c :: rest => if c = mark then some rest else none

def readMember (text : Line) : Option ((Text × Value) × Line) := do
  let name ← expect 34 text
  let (units, rest) ← readUnits name
  let rest ← expect 58 rest
  let (value, rest) ← readValue (skip rest)
  return ((join units, value), rest)

def readMembers : ℕ → Line → Option (Object × Line)
  | 0, _ => none
  | fuel + 1, text => do
      let (member, rest) ← readMember text
      match expect 125 rest with
      | some left => return ([member], left)
      | none =>
          let more ← expect 44 rest
          let (members, left) ← readMembers fuel more
          return (member :: members, left)

def readObject (text : Line) : Option Object := do
  let rest ← expect 123 text
  match expect 125 rest with
  | some left => if skip left = [] then return [] else none
  | none =>
      let (members, left) ← readMembers rest.length rest
      if skip left = [] then return members else none

/-- The objects of the lines that are not empty. -/
def readLines (text : Line) : Option (List Object) :=
  ((text.splitOn 10).filter fun line => !line.isEmpty).mapM readObject

/-! ## Strings -/

theorem hexDigit_hexLetter : ∀ digit < 16, hexDigit (hexLetter digit) = some digit := by
  decide

theorem mapM_hexDigit {digits : List ℕ} (small : ∀ digit ∈ digits, digit < 16) :
    (digits.map hexLetter).mapM hexDigit = some digits := by
  induction digits with
  | nil => rfl
  | cons digit rest ih =>
      have first := hexDigit_hexLetter digit (small digit List.mem_cons_self)
      have more := ih fun other member => small other (List.mem_cons_of_mem digit member)
      rw [List.map_cons, List.mapM_cons, first, Option.bind_eq_bind, Option.bind_some, more]
      rfl

/-- A short escape is read as its unit, and is no escape by number. -/
theorem unescape_of_short {unit letter : ℕ} (short : shortEscape unit = some letter) :
    unescape letter = some unit ∧ letter ≠ 117 := by
  have table : ∀ pair ∈ shortEscapes, unescape pair.2 = some pair.1 ∧ pair.2 ≠ 117 := by decide
  obtain ⟨pair, found, rfl⟩ := Option.map_eq_some_iff.mp short
  have same : pair.1 = unit := by simpa using List.find?_some found
  rw [← same]
  exact table pair (List.mem_of_find?_eq_some found)

theorem plain_of_not_short {unit : ℕ} (long : shortEscape unit = none) :
    unit ≠ 34 ∧ unit ≠ 92 := by
  have absent := List.find?_eq_none.mp (Option.map_eq_none_iff.mp long)
  have mark := absent (34, 34) (by decide)
  have backslash := absent (92, 92) (by decide)
  simp only [decide_eq_true_eq] at mark backslash
  exact ⟨Ne.symm mark, Ne.symm backslash⟩

/-- Every unit of sixteen bits is read back from its escape. -/
theorem readUnits_escape {unit : ℕ} (small : unit < 0x10000) (rest : Line) :
    readUnits (escape unit ++ rest) =
      (readUnits rest).map fun (units, left) => (unit :: units, left) := by
  unfold escape
  cases short : shortEscape unit with
  | some letter =>
      obtain ⟨reads, other⟩ := unescape_of_short short
      change readUnits (92 :: letter :: rest) = _
      rw [readUnits.eq_def]
      simp only [reads, other, if_false, if_true, show (92 : ℕ) ≠ 34 by decide]
  | none =>
      obtain ⟨mark, backslash⟩ := plain_of_not_short short
      cases printable : isPrintable unit with
      | true =>
          have visible : ¬ unit < 32 := by
            simp only [isPrintable, Bool.and_eq_true, decide_eq_true_eq] at printable
            omega
          change readUnits (unit :: rest) = _
          rw [readUnits.eq_def]
          simp only [mark, backslash, visible, if_false]
      | false =>
          have value : value 16 0 (digits 16 4 unit) = unit := by
            rw [value_digits]
            exact Nat.mod_eq_of_lt small
          have width := length_digits 16 4 unit
          have hexadecimal : ∀ digit ∈ digits 16 4 unit, digit < 16 :=
            fun digit member => lt_of_mem_digits (by decide) member
          generalize digits 16 4 unit = numeral at value width hexadecimal
          obtain ⟨a, b, c, d, rfl⟩ : ∃ a b c d, numeral = [a, b, c, d] := by
            match numeral, width with
            | [a, b, c, d], _ => exact ⟨a, b, c, d, rfl⟩
          have read := mapM_hexDigit hexadecimal
          simp only [List.map_cons, List.map_nil] at read
          change readUnits (92 :: 117 :: hexLetter a :: hexLetter b :: hexLetter c ::
            hexLetter d :: rest) = _
          rw [readUnits.eq_def]
          simp only [if_true, if_false, show (92 : ℕ) ≠ 34 by decide, read, value]

theorem readUnits_flatMap {units : List ℕ} (small : ∀ unit ∈ units, unit < 0x10000)
    (rest : Line) : readUnits (units.flatMap escape ++ 34 :: rest) = some (units, rest) := by
  induction units with
  | nil =>
      change readUnits (34 :: rest) = _
      rw [readUnits.eq_def]
      rfl
  | cons unit more ih =>
      have later := ih fun other member => small other (List.mem_cons_of_mem unit member)
      rw [List.flatMap_cons, List.append_assoc, readUnits_escape (small unit List.mem_cons_self),
        later]
      rfl

theorem units_of_narrow {c : ℕ} (narrow : c < 0x10000) : units c = [c] := if_pos narrow

theorem units_lt {c unit : ℕ} (small : c < 0x110000) (member : unit ∈ units c) :
    unit < 0x10000 := by
  unfold units at member
  split at member
  · next narrow =>
      rw [List.mem_singleton.mp member]
      exact narrow
  · next wide =>
      rcases List.mem_pair.mp member with high | low
      · omega
      · omega

/-- The two units of a wide code point are joined to it. -/
theorem join_wide {c : ℕ} (small : c < 0x110000) (wide : ¬ c < 0x10000) (rest : List ℕ) :
    join (units c ++ rest) = codePoint c :: join rest := by
  have high : isHigh (0xD800 + (c - 0x10000) / 0x400) = true := by
    simp only [isHigh, Bool.and_eq_true, decide_eq_true_eq]
    omega
  have low : isLow (0xDC00 + (c - 0x10000) % 0x400) = true := by
    simp only [isLow, Bool.and_eq_true, decide_eq_true_eq]
    omega
  have whole : 0x10000 + (0xD800 + (c - 0x10000) / 0x400 - 0xD800) * 0x400 +
      (0xDC00 + (c - 0x10000) % 0x400 - 0xDC00) = c := by
    omega
  rw [units, if_neg wide]
  change join (_ :: _ :: rest) = _
  rw [join, high, low, Bool.true_and, if_pos rfl, whole]

/-- A unit that forms no pair with the next one stays. -/
theorem join_cons {unit : ℕ} {rest : List ℕ}
    (apart : ∀ next, rest.head? = some next → (isHigh unit && isLow next) = false) :
    join (unit :: rest) = codePoint unit :: join rest := by
  cases rest with
  | nil => rfl
  | cons next more =>
      rw [join, apart next rfl, if_neg Bool.false_ne_true]

/-- The first unit of a wide code point is no low one. -/
theorem head_units {c unit : ℕ} (small : c < 0x110000) (low : isLow unit = true)
    (first : (units c).head? = some unit) : unit = c := by
  unfold units at first
  split at first
  · exact (Option.some.inj first).symm
  · have same := Option.some.inj first
    simp only [isLow, Bool.and_eq_true, decide_eq_true_eq] at low
    omega

/-- Splitting code points into units changes nothing that joining does not undo. -/
theorem join_units {text : List ℕ} (small : ∀ c ∈ text, c < 0x110000) :
    join (text.flatMap units) = join text := by
  induction text using join.induct with
  | case1 high low rest paired ih =>
      obtain ⟨first, second⟩ := Bool.and_eq_true_iff.mp paired
      have narrow : high < 0x10000 ∧ low < 0x10000 := by
        simp only [isHigh, isLow, Bool.and_eq_true, decide_eq_true_eq] at first second
        omega
      have later := ih fun c member => small c (by simp [member])
      have halves : (high :: low :: rest).flatMap units = high :: low :: rest.flatMap units := by
        rw [List.flatMap_cons, List.flatMap_cons, units_of_narrow narrow.1,
          units_of_narrow narrow.2]
        rfl
      rw [halves, join, if_pos paired, join, if_pos paired, later]
  | case2 high low rest apart ih =>
      have later := ih fun c member => small c (List.mem_cons_of_mem high member)
      have whole : join (high :: low :: rest) = codePoint high :: join (low :: rest) := by
        rw [join, if_neg apart]
      rw [whole, ← later, List.flatMap_cons]
      by_cases narrow : high < 0x10000
      · rw [units_of_narrow narrow]
        refine join_cons fun next first => ?_
        rw [List.flatMap_cons] at first
        cases known : isLow next with
        | false => rw [Bool.and_false]
        | true =>
            have head : (units low).head? = some next := by
              rw [← first]
              unfold units
              split <;> rfl
            have same := head_units (small low (by simp)) known head
            rw [same] at known
            rw [Bool.and_true]
            simpa [known] using apart
      · exact join_wide (small high List.mem_cons_self) narrow _
  | case3 unit =>
      by_cases narrow : unit < 0x10000
      · rw [List.flatMap_cons, units_of_narrow narrow]
        rfl
      · rw [List.flatMap_cons, join_wide (small unit List.mem_cons_self) narrow]
        rfl
  | case4 => rfl

/-- A text as it is read back: its pairs of surrogates are joined. -/
def joined (text : Text) : Text := join (text.map (·.val))

/-- What was quoted is read back. -/
theorem readUnits_quote (text : Text) (rest : Line) :
    readUnits ((body text).flatMap escape ++ [34] ++ rest) = some (body text, rest) := by
  rw [List.append_assoc]
  refine readUnits_flatMap (fun unit member => ?_) rest
  obtain ⟨c, -, part⟩ := List.mem_flatMap.mp member
  exact units_lt c.isLt part

theorem join_body (text : Text) : join (body text) = joined text := by
  have split : body text = (text.map (·.val)).flatMap units := by
    rw [body, List.flatMap_map]
  rw [split, joined]
  refine join_units fun c member => ?_
  obtain ⟨point, -, rfl⟩ := List.mem_map.mp member
  exact point.isLt

/-- A text without high surrogates is read back as it is. -/
theorem joined_eq_self {text : Text} (plain : ∀ c ∈ text, isHigh c.val = false) :
    joined text = text := by
  rw [joined]
  induction text with
  | nil => rfl
  | cons c rest ih =>
      have later := ih fun other member => plain other (List.mem_cons_of_mem c member)
      have first := plain c List.mem_cons_self
      rw [List.map_cons, join_cons fun next _ => by rw [first, Bool.false_and], later]
      congr 1
      exact Fin.ext (Nat.mod_eq_of_lt c.isLt)

/-! ## Integers -/

theorem digit_digitChar : ∀ d < 10, digit (Nat.digitChar d).toNat = some d := by
  decide

theorem isDigit_numeral {number c : ℕ} (member : c ∈ Decimal.numeral Char.toNat number) :
    isDigit c = true := by
  obtain ⟨d, small, rfl⟩ := Decimal.mem_numeral member
  rw [isDigit, digit_digitChar d small]
  rfl

/-- No numeral but that of zero starts with a zero. -/
theorem head_numeral {number : ℕ} (zero : (Decimal.numeral Char.toNat number).head? = some 48) :
    Decimal.numeral Char.toNat number = [48] := by
  have digits : ∀ d < 10, (Nat.digitChar d).toNat = 48 → d = 0 := by decide
  have nonzero : ∀ number, 0 < number →
      (Decimal.numeral Char.toNat number).head? ≠ some 48 := by
    intro number
    induction number using Nat.strongRecOn with
    | ind number ih =>
        intro positive first
        rw [Decimal.numeral, Nat.toDigits_eq_if (by decide)] at first
        split at first
        · next small =>
            have none_left := digits number small (Option.some.inj first)
            omega
        · next large =>
            refine ih (number / 10) (by omega) (by omega) ?_
            rw [Decimal.numeral]
            rw [List.map_append, List.head?_append_of_ne_nil] at first
            · exact first
            · exact Decimal.numeral_ne_nil (number / 10)
  cases number with
  | zero => rfl
  | succ number => exact absurd zero (nonzero _ (Nat.succ_pos number))

def Stops (rest : Line) : Prop := ∀ c, rest.head? = some c → isDigit c = false

theorem readNatural_numeral (number : ℕ) {rest : Line} (stops : Stops rest) :
    readNatural (Decimal.numeral Char.toNat number ++ rest) = some (number, rest) := by
  have digits : ∀ c ∈ Decimal.numeral Char.toNat number, isDigit c = true :=
    fun c member => isDigit_numeral member
  have taken : (Decimal.numeral Char.toNat number ++ rest).takeWhile isDigit =
      Decimal.numeral Char.toNat number := by
    rw [List.takeWhile_append_of_pos digits]
    cases rest with
    | nil => simp
    | cons c more => simp [stops c rfl]
  have dropped : (Decimal.numeral Char.toNat number ++ rest).dropWhile isDigit = rest := by
    rw [List.dropWhile_append_of_pos digits]
    cases rest with
    | nil => rfl
    | cons c more => simp [stops c rfl]
  have value : Decimal.read digit 0 (Decimal.numeral Char.toNat number) = some number :=
    Decimal.read_numeral digit_digitChar number
  rw [readNatural, taken, dropped, if_neg, value, Option.map_some]
  rintro ⟨zero, other⟩
  exact other (head_numeral zero)

/-! ## Values -/

def Value.joined : Value → Value
  | string text => .string (JsonRecord.joined text)
  | integer number => .integer number

theorem readValue_write (value : Value) {rest : Line} (stops : Stops rest) :
    readValue (value.write ++ rest) = some (value.joined, rest) := by
  cases value with
  | string text =>
      change readValue (34 :: ((body text).flatMap escape ++ [34] ++ rest)) = _
      rw [readValue, if_pos rfl, readUnits_quote, Value.joined, ← join_body]
      rfl
  | integer number =>
      cases number with
      | ofNat number =>
          have digits : ∀ c ∈ Decimal.numeral Char.toNat number, isDigit c = true :=
            fun c member => isDigit_numeral member
          have read := readNatural_numeral number stops
          change readValue (Decimal.numeral Char.toNat number ++ rest) = _
          cases written : Decimal.numeral Char.toNat number with
          | nil => exact absurd written (Decimal.numeral_ne_nil number)
          | cons c more =>
              rw [written] at read digits
              have first := digits c List.mem_cons_self
              have mark : c ≠ 34 := by
                rintro rfl
                cases first
              have minus : c ≠ 45 := by
                rintro rfl
                cases first
              rw [List.cons_append, readValue, if_neg mark, if_neg minus]
              rw [List.cons_append] at read
              rw [read]
              rfl
      | negSucc number =>
          change readValue (45 :: (Decimal.numeral Char.toNat (number + 1) ++ rest)) = _
          rw [readValue, if_neg (by decide), if_pos rfl, readNatural_numeral _ stops]
          rfl

/-! ## Objects -/

theorem expect_mark {mark : ℕ} (solid : isSpace mark = false) (rest : Line) :
    expect mark (mark :: rest) = some rest := by
  have kept : skip (mark :: rest) = mark :: rest :=
    List.dropWhile_cons_of_neg (by simp [solid])
  rw [expect, kept]
  exact if_pos rfl

theorem expect_other {mark c : ℕ} (solid : isSpace c = false) (other : c ≠ mark) (rest : Line) :
    expect mark (c :: rest) = none := by
  have kept : skip (c :: rest) = c :: rest := List.dropWhile_cons_of_neg (by simp [solid])
  rw [expect, kept]
  exact if_neg other

theorem isSpace_of_isDigit {c : ℕ} (numeric : isDigit c = true) : isSpace c = false := by
  unfold isDigit digit at numeric
  unfold isSpace
  grind

/-- A value starts with no space. -/
theorem skip_write (value : Value) (rest : Line) :
    skip (value.write ++ rest) = value.write ++ rest := by
  cases value with
  | string text => rfl
  | integer number =>
      cases number with
      | ofNat number =>
          change skip (Decimal.numeral Char.toNat number ++ rest) = _
          cases written : Decimal.numeral Char.toNat number with
          | nil => exact absurd written (Decimal.numeral_ne_nil number)
          | cons c more =>
              have first : isDigit c = true :=
                isDigit_numeral (written ▸ List.mem_cons_self : c ∈ Decimal.numeral _ number)
              rw [Value.write, writeInteger, written]
              exact List.dropWhile_cons_of_neg (by simp [isSpace_of_isDigit first])
      | negSucc number => rfl

def joinedMember (member : Text × Value) : Text × Value := (joined member.1, member.2.joined)

theorem readMember_write (member : Text × Value) {rest : Line} (stops : Stops rest) :
    readMember (writeMember member ++ rest) = some (joinedMember member, rest) := by
  have name := readUnits_quote member.1 (58 :: 32 :: (member.2.write ++ rest))
  have blank : skip (32 :: (member.2.write ++ rest)) = member.2.write ++ rest :=
    skip_write member.2 rest
  have text : writeMember member ++ rest = 34 :: ((body member.1).flatMap escape ++ [34] ++
      58 :: 32 :: (member.2.write ++ rest)) := by
    simp only [writeMember, quote, List.cons_append, List.append_assoc, List.nil_append]
  rw [text, readMember, expect_mark rfl, Option.bind_eq_bind, Option.bind_some, name]
  simp only [Option.bind_eq_bind, Option.bind_some, expect_mark (show isSpace 58 = false from rfl),
    blank, readValue_write member.2 stops, join_body]
  rfl

theorem stops_writeMore (members : Object) (rest : Line) : Stops (writeMore members ++ rest) := by
  intro c first
  cases members with
  | nil =>
      cases first
      rfl
  | cons member more =>
      cases first
      rfl

theorem readMembers_blank (fuel : ℕ) (rest : Line) :
    readMembers fuel (32 :: rest) = readMembers fuel rest := by
  have same : expect 34 (32 :: rest) = expect 34 rest := rfl
  cases fuel with
  | zero => rfl
  | succ fuel => rw [readMembers, readMembers, readMember, readMember, same]

/-- The members are read with the fuel that their number asks for. -/
theorem readMembers_write (first : Text × Value) (members : Object) (rest : Line) (fuel : ℕ)
    (enough : members.length < fuel) :
    readMembers fuel (writeMember first ++ (writeMore members ++ rest)) =
      some ((first :: members).map joinedMember, rest) := by
  induction members generalizing first fuel with
  | nil =>
      obtain ⟨fuel, rfl⟩ : ∃ less, fuel = less + 1 := ⟨fuel - 1, by simp at enough; omega⟩
      have read := readMember_write first (stops_writeMore [] rest)
      have closes : expect 125 (writeMore [] ++ rest) = some rest := expect_mark rfl rest
      rw [readMembers, read, Option.bind_eq_bind, Option.bind_some]
      dsimp only
      rw [closes]
      rfl
  | cons second members ih =>
      obtain ⟨fuel, rfl⟩ : ∃ less, fuel = less + 1 := ⟨fuel - 1, by simp at enough; omega⟩
      have read := readMember_write first (stops_writeMore (second :: members) rest)
      have goes : writeMore (second :: members) ++ rest =
          44 :: 32 :: (writeMember second ++ (writeMore members ++ rest)) := by
        simp only [writeMore, List.flatMap_cons, List.cons_append, List.append_assoc]
      have blank : readMembers fuel (32 :: (writeMember second ++ (writeMore members ++ rest))) =
          some ((second :: members).map joinedMember, rest) := by
        rw [readMembers_blank]
        exact ih second fuel (Nat.lt_of_succ_lt_succ enough)
      rw [readMembers, read, Option.bind_eq_bind, Option.bind_some, goes]
      dsimp only
      rw [expect_other rfl (by decide), expect_mark rfl, Option.bind_eq_bind, Option.bind_some,
        blank]
      rfl

/-- There are fewer members than code points. -/
theorem length_lt_writeMore (members : Object) : members.length < (writeMore members).length := by
  induction members with
  | nil => exact Nat.zero_lt_one
  | cons member members ih =>
      have one_more : (writeMore (member :: members)).length =
          (44 :: 32 :: writeMember member).length + (writeMore members).length := by
        simp only [writeMore, List.flatMap_cons, List.length_append, Nat.add_assoc]
      rw [one_more, List.length_cons]
      simp only [List.length_cons]
      omega

/-- An object is read back from its text. -/
theorem readObject_write (object : Object) :
    readObject (writeObject object) = some (object.map joinedMember) := by
  cases object with
  | nil => rfl
  | cons first members =>
      have more := length_lt_writeMore members
      have read := readMembers_write first members []
        (writeMember first ++ writeMore members).length (by rw [List.length_append]; omega)
      have opens : expect 123 (writeObject (first :: members)) =
          some (writeMember first ++ writeMore members) := expect_mark rfl _
      have quoted : expect 125 (writeMember first ++ writeMore members) = none :=
        expect_other rfl (by decide) _
      rw [List.append_nil] at read
      rw [readObject, opens, Option.bind_eq_bind, Option.bind_some, quoted]
      dsimp only
      rw [read]
      rfl

/-! ## Lines -/

/-- An escape is printable ASCII. -/
theorem isPrintable_escape {unit c : ℕ} (member : c ∈ escape unit) : isPrintable c = true := by
  have letters : ∀ pair ∈ shortEscapes, isPrintable pair.2 = true := by decide
  have hexadecimal : ∀ digit < 16, isPrintable (hexLetter digit) = true := by decide
  unfold escape at member
  cases short : shortEscape unit with
  | some letter =>
      obtain ⟨pair, found, rfl⟩ := Option.map_eq_some_iff.mp short
      simp only [short] at member
      rcases List.mem_pair.mp member with rfl | rfl
      · rfl
      · exact letters pair (List.mem_of_find?_eq_some found)
  | none =>
      simp only [short] at member
      split at member
      · next printable =>
          rw [List.mem_singleton.mp member]
          exact printable
      · rcases List.mem_cons.mp member with rfl | member
        · rfl
        · rcases List.mem_cons.mp member with rfl | member
          · rfl
          · obtain ⟨digit, written, rfl⟩ := List.mem_map.mp member
            exact hexadecimal digit (lt_of_mem_digits (by decide) written)

theorem isPrintable_quote {text : Text} {c : ℕ} (member : c ∈ quote text) :
    isPrintable c = true := by
  rcases List.mem_cons.mp member with rfl | member
  · rfl
  · rcases List.mem_append.mp member with inside | last
    · obtain ⟨unit, -, escaped⟩ := List.mem_flatMap.mp inside
      exact isPrintable_escape escaped
    · rw [List.mem_singleton.mp last]
      rfl

theorem isPrintable_of_isDigit {c : ℕ} (numeric : isDigit c = true) : isPrintable c = true := by
  unfold isDigit digit at numeric
  unfold isPrintable
  grind

theorem isPrintable_write {value : Value} {c : ℕ} (member : c ∈ value.write) :
    isPrintable c = true := by
  cases value with
  | string text => exact isPrintable_quote member
  | integer number =>
      cases number with
      | ofNat number => exact isPrintable_of_isDigit (isDigit_numeral member)
      | negSucc number =>
          rcases List.mem_cons.mp member with rfl | digits
          · rfl
          · exact isPrintable_of_isDigit (isDigit_numeral digits)

theorem isPrintable_writeMember {pair : Text × Value} {c : ℕ} (member : c ∈ writeMember pair) :
    isPrintable c = true := by
  rcases List.mem_append.mp member with name | value
  · exact isPrintable_quote name
  · rcases List.mem_cons.mp value with rfl | value
    · rfl
    · rcases List.mem_cons.mp value with rfl | value
      · rfl
      · exact isPrintable_write value

/-- Whatever the values are, an object is written in printable ASCII. -/
theorem isPrintable_writeObject {object : Object} {c : ℕ} (member : c ∈ writeObject object) :
    isPrintable c = true := by
  cases object with
  | nil => rcases List.mem_pair.mp member with rfl | rfl <;> rfl
  | cons first members =>
      rcases List.mem_cons.mp member with rfl | member
      · rfl
      · rcases List.mem_append.mp member with before | more
        · exact isPrintable_writeMember before
        · rcases List.mem_append.mp more with inside | last
          · obtain ⟨pair, -, written⟩ := List.mem_flatMap.mp inside
            rcases List.mem_cons.mp written with rfl | written
            · rfl
            · rcases List.mem_cons.mp written with rfl | written
              · rfl
              · exact isPrintable_writeMember written
          · rw [List.mem_singleton.mp last]
            rfl

theorem newline_not_mem (object : Object) : 10 ∉ writeObject object := by
  intro member
  cases isPrintable_writeObject member

/-- A line ends where an object ends. -/
theorem count_newline (objects : List Object) : (writeLines objects).count 10 = objects.length := by
  induction objects with
  | nil => rfl
  | cons object objects ih =>
      have line : writeLines (object :: objects) =
          writeObject object ++ [10] ++ writeLines objects := List.flatMap_cons
      rw [line, List.count_append, List.count_append, ih,
        List.count_eq_zero.mpr (newline_not_mem object), List.length_cons]
      exact Nat.add_comm _ _

theorem splitOn_writeLines (objects : List Object) :
    (writeLines objects).splitOn 10 = objects.map writeObject ++ [[]] := by
  induction objects with
  | nil => rfl
  | cons object objects ih =>
      have line : writeLines (object :: objects) =
          writeObject object ++ 10 :: writeLines objects := by
        simp [writeLines]
      rw [line, List.splitOn_append_cons_self_of_not_mem (newline_not_mem object), ih]
      rfl

/-- The lines are read back, each as one object. -/
theorem readLines_write (objects : List Object) :
    readLines (writeLines objects) = some (objects.map fun object => object.map joinedMember) := by
  have some_text : ∀ line ∈ objects.map writeObject, (!line.isEmpty) = true := by
    intro line member
    obtain ⟨object, -, rfl⟩ := List.mem_map.mp member
    cases object <;> rfl
  rw [readLines, splitOn_writeLines, List.filter_append, List.filter_eq_self.mpr some_text]
  change ((objects.map writeObject) ++ []).mapM readObject = _
  rw [List.append_nil]
  induction objects with
  | nil => rfl
  | cons object objects ih =>
      have later := ih fun line member => some_text line (List.mem_cons_of_mem _ member)
      rw [List.map_cons, List.mapM_cons, readObject_write, Option.bind_eq_bind, Option.bind_some,
        later]
      rfl

end JsonRecord
