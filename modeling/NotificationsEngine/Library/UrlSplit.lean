import Mathlib.Data.List.TakeWhile

/-!
# Splitting a URL

`urllib.parse.urlsplit` of Python 3.12 on a string of code points.  The checks
of the authority (bracketed hosts, characters that normalise to a delimiter)
are a parameter: where they refuse it, `urlsplit` raises `ValueError`.
-/

namespace UrlSplit

abbrev Text := List (Fin 0x110000)

theorem toNat_lt (character : Char) : character.toNat < 0x110000 := by
  rcases character.valid with low | ⟨-, high⟩
  · exact Nat.lt_trans low (by decide)
  · exact high

def code (character : Char) : Fin 0x110000 := ⟨character.toNat, toNat_lt character⟩

/-- Stripped from the left end: a C0 control or a space. -/
def isControlOrSpace (c : Fin 0x110000) : Bool := c.val ≤ 32

/-- Removed everywhere: a tab, a carriage return or a newline. -/
def isUnsafe (c : Fin 0x110000) : Bool := c.val = 9 || c.val = 13 || c.val = 10

def isAsciiAlpha (c : Fin 0x110000) : Bool :=
  (65 ≤ c.val && c.val ≤ 90) || (97 ≤ c.val && c.val ≤ 122)

def isSchemeChar (c : Fin 0x110000) : Bool :=
  isAsciiAlpha c || (48 ≤ c.val && c.val ≤ 57) || c = code '+' || c = code '-' || c = code '.'

def toLower (c : Fin 0x110000) : Fin 0x110000 :=
  if upper : 65 ≤ c.val ∧ c.val ≤ 90 then ⟨c.val + 32, by omega⟩ else c

def inAuthority (c : Fin 0x110000) : Bool := c ≠ code '/' && c ≠ code '?' && c ≠ code '#'

def inPath (c : Fin 0x110000) : Bool := c ≠ code '#' && c ≠ code '?'

structure SplitResult where
  scheme : Text
  netloc : Text
  path : Text
  query : Text
  fragment : Text

def splitScheme (url : Text) : Text × Text :=
  let scheme := url.takeWhile (· ≠ code ':')
  match url.dropWhile (· ≠ code ':') with
  | _ :: rest =>
      if scheme.head?.any isAsciiAlpha && scheme.all isSchemeChar then (scheme.map toLower, rest)
      else ([], url)
  | [] => ([], url)

/-- The authority after `//`, and the rest from its delimiter on. -/
def splitAuthority (url : Text) : Text × Text :=
  if url.take 2 = [code '/', code '/'] then
    ((url.drop 2).takeWhile inAuthority, (url.drop 2).dropWhile inAuthority)
  else ([], url)

def splitOnce (delimiter : Fin 0x110000) (url : Text) : Text × Text :=
  (url.takeWhile (· ≠ delimiter), (url.dropWhile (· ≠ delimiter)).drop 1)

/-- `urlsplit(url)`; `none` where it raises `ValueError`. -/
def urlsplit (refused : Text → Bool) (url : Text) : Option SplitResult :=
  let url := (url.dropWhile isControlOrSpace).filter fun c => !isUnsafe c
  let (scheme, url) := splitScheme url
  let (netloc, url) := splitAuthority url
  if netloc ≠ [] ∧ refused netloc = true then none
  else
    let (url, fragment) := splitOnce (code '#') url
    let (path, query) := splitOnce (code '?') url
    some ⟨scheme, netloc, path, query, fragment⟩

/-! ## Cutting at a delimiter -/

section Cutting

variable {p : Fin 0x110000 → Bool} {stop : Fin 0x110000} {text rest : Text}

theorem takeWhile_append_stop (stops : p stop = false) :
    (text ++ stop :: rest).takeWhile p = text.takeWhile p := by
  induction text with
  | nil => exact List.takeWhile_cons_of_neg (by simp [stops])
  | cons first more ih =>
      cases continues : p first with
      | true => simp [continues, ih]
      | false => simp [continues]

theorem dropWhile_append_stop (stops : p stop = false) :
    (text ++ stop :: rest).dropWhile p = text.dropWhile p ++ stop :: rest := by
  induction text with
  | nil => exact List.dropWhile_cons_of_neg (by simp [stops])
  | cons first more ih =>
      cases continues : p first with
      | true => simp [continues, ih]
      | false => simp [continues]

/-- What is cut off from two texts, the second one without a delimiter, is the second one. -/
theorem takeWhile_append_eq_iff (free : ∀ c ∈ rest, p c = true) :
    (text ++ rest).takeWhile p = rest ↔
      text = [] ∨ (text.takeWhile p = rest ∧ text ≠ rest) := by
  by_cases whole : ∀ c ∈ text, p c = true
  · have all : text.takeWhile p = text := List.takeWhile_eq_self_iff.mpr whole
    rw [List.takeWhile_append_of_pos whole, List.takeWhile_eq_self_iff.mpr free, all,
      List.append_left_eq_self]
    exact ⟨.inl, fun either => either.resolve_right fun both => both.2 both.1⟩
  · have shorter : text.takeWhile p ≠ text := fun same =>
      whole (List.takeWhile_eq_self_iff.mp same)
    have cut : (text ++ rest).takeWhile p = text.takeWhile p := by
      rw [List.takeWhile_append, if_neg]
      exact fun same => shorter ((List.takeWhile_prefix p).eq_of_length same)
    rw [cut]
    constructor
    · exact fun same => .inr ⟨same, fun equal => shorter (same.trans equal.symm)⟩
    · rintro (rfl | ⟨same, -⟩)
      · exact absurd rfl shorter
      · exact same

end Cutting

/-! ## The path of a URL with an authority -/

def hierarchical (scheme rest : Text) : Text :=
  scheme ++ code ':' :: code '/' :: code '/' :: rest

/-- A scheme that is recognised as one and keeps its text. -/
structure IsScheme (scheme : Text) : Prop where
  head : scheme.head?.any isAsciiAlpha = true
  chars : ∀ c ∈ scheme, isSchemeChar c = true

theorem isSchemeChar_plain {c : Fin 0x110000} (scheme : isSchemeChar c = true) :
    32 < c.val ∧ c.val ≠ 58 := by
  have plus : (code '+').val = 43 := rfl
  have minus : (code '-').val = 45 := rfl
  have dot : (code '.').val = 46 := rfl
  simp only [isSchemeChar, isAsciiAlpha, Bool.or_eq_true, Bool.and_eq_true, decide_eq_true_eq]
    at scheme
  rcases scheme with (((letter | digit) | rfl) | rfl) | rfl <;> omega

theorem IsScheme.ne_colon {scheme : Text} (valid : IsScheme scheme) :
    ∀ c ∈ scheme, decide (c ≠ code ':') = true := by
  intro c member
  refine decide_eq_true fun colon => (isSchemeChar_plain (valid.chars c member)).2 ?_
  rw [colon]
  rfl

/-- Neither the strip nor the removal touches a scheme and the delimiters after it. -/
theorem clean_hierarchical {scheme : Text} (valid : IsScheme scheme) (rest : Text) :
    ((hierarchical scheme rest).dropWhile isControlOrSpace).filter (fun c => !isUnsafe c) =
      hierarchical scheme (rest.filter fun c => !isUnsafe c) := by
  have kept : scheme.filter (fun c => !isUnsafe c) = scheme := by
    refine List.filter_eq_self.mpr fun c member => ?_
    have plain := (isSchemeChar_plain (valid.chars c member)).1
    simp only [isUnsafe, Bool.not_eq_true', Bool.or_eq_false_iff, decide_eq_false_iff_not]
    omega
  have stays : (hierarchical scheme rest).dropWhile isControlOrSpace =
      hierarchical scheme rest := by
    cases scheme with
    | nil => cases valid.head
    | cons first more =>
        have plain := (isSchemeChar_plain (valid.chars first List.mem_cons_self)).1
        refine List.dropWhile_cons_of_neg ?_
        simp only [isControlOrSpace, decide_eq_true_eq]
        omega
  rw [stays, hierarchical, List.filter_append, kept]
  rfl

theorem splitScheme_hierarchical {scheme : Text} (valid : IsScheme scheme) (rest : Text) :
    splitScheme (hierarchical scheme rest) =
      (scheme.map toLower, code '/' :: code '/' :: rest) := by
  have before : (hierarchical scheme rest).takeWhile (· ≠ code ':') = scheme := by
    rw [hierarchical, List.takeWhile_append_of_pos valid.ne_colon,
      List.takeWhile_cons_of_neg (by simp), List.append_nil]
  have after : (hierarchical scheme rest).dropWhile (· ≠ code ':') =
      code ':' :: code '/' :: code '/' :: rest := by
    rw [hierarchical, List.dropWhile_append_of_pos valid.ne_colon,
      List.dropWhile_cons_of_neg (by simp)]
  have chars : scheme.all isSchemeChar = true := List.all_eq_true.mpr valid.chars
  simp only [splitScheme, before, after, valid.head, chars, Bool.and_self, if_true]

theorem splitAuthority_slashes (rest : Text) :
    splitAuthority (code '/' :: code '/' :: rest) =
      (rest.takeWhile inAuthority, rest.dropWhile inAuthority) := if_pos rfl

/-- Cutting at the first `#` and then at the first `?` leaves what stands before either. -/
theorem path_eq_takeWhile (url : Text) :
    (splitOnce (code '?') (splitOnce (code '#') url).1).1 = url.takeWhile inPath := by
  have same : inPath = fun c =>
      decide (decide (c ≠ code '?') = true ∧ decide (c ≠ code '#') = true) := by
    funext c
    simp [inPath, and_comm]
  rw [same]
  exact List.takeWhile_takeWhile _ _ url

/-- The path starts where the authority ends, at a delimiter of the text itself. -/
theorem urlsplit_hierarchical (refused : Text → Bool) {scheme : Text} (valid : IsScheme scheme)
    (rest : Text) :
    (urlsplit refused (hierarchical scheme rest)).map (·.path) =
      let plain := rest.filter fun c => !isUnsafe c
      if plain.takeWhile inAuthority ≠ [] ∧ refused (plain.takeWhile inAuthority) = true then none
      else some ((plain.dropWhile inAuthority).takeWhile inPath) := by
  dsimp only [urlsplit]
  rw [clean_hierarchical valid, splitScheme_hierarchical valid, splitAuthority_slashes]
  dsimp only
  split
  · rfl
  · exact congrArg some (path_eq_takeWhile _)

end UrlSplit
