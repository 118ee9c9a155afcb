import Mathlib.Data.List.TakeWhile

/-!
# Separated tokens

A list is split at a separator, every piece is trimmed, and what is empty then
is skipped.  The tokens that remain are those from which the list was written,
however they were spaced and however many blank pieces stand in between.
-/

namespace Tokens

variable {α : Type} (space : α → Bool)

def trim (text : List α) : List α :=
  ((text.dropWhile space).reverse.dropWhile space).reverse

/-- Something that starts and ends with no space. -/
structure Solid (token : List α) : Prop where
  ne_nil : token ≠ []
  head : ∀ c, token.head? = some c → space c = false
  last : ∀ c, token.getLast? = some c → space c = false

/-- Pieces that hold these tokens in their order, one each, with blank ones in between. -/
inductive Holds : List (List α) → List (List α) → Prop where
  | nil : Holds [] []
  | blank {tokens pieces : List (List α)} (piece : List α)
      (spaces : ∀ c ∈ piece, space c = true) (rest : Holds tokens pieces) :
      Holds tokens (piece :: pieces)
  | token {tokens pieces : List (List α)} (left token right : List α)
      (before : ∀ c ∈ left, space c = true) (solid : Solid space token)
      (after : ∀ c ∈ right, space c = true) (rest : Holds tokens pieces) :
      Holds (token :: tokens) ((left ++ token ++ right) :: pieces)

variable {space}

theorem trim_eq_nil_iff {text : List α} : trim space text = [] ↔ ∀ c ∈ text, space c = true := by
  rw [trim, List.reverse_eq_nil_iff, List.dropWhile_eq_nil_iff]
  constructor
  · intro rest
    cases kept : text.dropWhile space with
    | nil => exact List.dropWhile_eq_nil_iff.mp kept
    | cons first more =>
        -- the first element that is kept is no space
        have stops := List.head?_dropWhile_not space text
        have spaces := rest first (by simp [kept])
        simp [kept, spaces] at stops
  · intro spaces c member
    exact spaces c ((List.dropWhile_sublist space).subset (List.mem_reverse.mp member))

theorem dropWhile_eq_self {text : List α} (dense : ∀ c ∈ text, space c = false) :
    text.dropWhile space = text := by
  cases text with
  | nil => rfl
  | cons c rest => exact List.dropWhile_cons_of_neg (by simp [dense c List.mem_cons_self])

/-- A text without spaces is trimmed to itself. -/
theorem trim_eq_self {text : List α} (dense : ∀ c ∈ text, space c = false) :
    trim space text = text := by
  have reversed : ∀ c ∈ text.reverse, space c = false :=
    fun c member => dense c (List.mem_reverse.mp member)
  rw [trim, dropWhile_eq_self dense, dropWhile_eq_self reversed, List.reverse_reverse]

theorem dropWhile_append_solid {left token rest : List α} (before : ∀ c ∈ left, space c = true)
    (solid : Solid space token) :
    (left ++ token ++ rest).dropWhile space = token ++ rest := by
  rw [List.append_assoc, List.dropWhile_append_of_pos before]
  cases token with
  | nil => exact absurd rfl solid.ne_nil
  | cons first more =>
      have stops := solid.head first rfl
      exact List.dropWhile_cons_of_neg (by simp [stops])

theorem Solid.reverse {token : List α} (solid : Solid space token) :
    Solid space token.reverse where
  ne_nil := fun empty => solid.ne_nil (List.reverse_eq_nil_iff.mp empty)
  head c first := solid.last c (by rwa [List.head?_reverse] at first)
  last c final := solid.head c (by rwa [List.getLast?_reverse] at final)

/-- Spaces around a token are trimmed, and nothing of the token. -/
theorem trim_padded {left token right : List α} (before : ∀ c ∈ left, space c = true)
    (solid : Solid space token) (after : ∀ c ∈ right, space c = true) :
    trim space (left ++ token ++ right) = token := by
  have reversed : (token ++ right).reverse = right.reverse ++ token.reverse ++ [] := by simp
  have behind : ∀ c ∈ right.reverse, space c = true :=
    fun c member => after c (List.mem_reverse.mp member)
  rw [trim, dropWhile_append_solid before solid, reversed,
    dropWhile_append_solid behind solid.reverse, List.append_nil, List.reverse_reverse]

variable {tokens pieces : List (List α)}

/-- The pieces that are not blank hold the tokens, one each. -/
theorem trimmed_of_holds [DecidableEq α] (holds : Holds space tokens pieces) :
    (pieces.filter fun piece => trim space piece ≠ []).map (trim space) = tokens := by
  induction holds with
  | nil => rfl
  | blank piece spaces rest ih =>
      have skipped := trim_eq_nil_iff.mpr spaces
      rw [List.filter_cons_of_neg (by simp [skipped]), ih]
  | token left token right before solid after rest ih =>
      have trimmed := trim_padded before solid after
      have kept : decide (trim space (left ++ token ++ right) ≠ []) = true := by
        rw [trimmed]
        exact decide_eq_true solid.ne_nil
      rw [List.filter_cons, if_pos kept, List.map_cons, trimmed, ih]

theorem not_mem_of_holds {separator : α} (holds : Holds space tokens pieces)
    (solid : space separator = false) (free : ∀ token ∈ tokens, separator ∉ token) :
    ∀ piece ∈ pieces, separator ∉ piece := by
  have apart : ∀ {text : List α}, (∀ c ∈ text, space c = true) → separator ∉ text :=
    fun spaces member => by simp [spaces separator member] at solid
  induction holds with
  | nil => nofun
  | blank piece spaces rest ih =>
      intro other member
      rcases List.mem_cons.mp member with rfl | member
      · exact apart spaces
      · exact ih free other member
  | token left token right before _ after rest ih =>
      intro other member
      rcases List.mem_cons.mp member with rfl | member
      · have inside := free token List.mem_cons_self
        simp [apart before, apart after, inside]
      · exact ih (fun token member => free token (List.mem_cons_of_mem _ member)) other member

/-- Splitting what was joined gives the pieces back. -/
theorem splitOn_join [DecidableEq α] {separator : α} (holds : Holds space tokens pieces)
    (solid : space separator = false) (free : ∀ token ∈ tokens, separator ∉ token)
    (some_token : tokens ≠ []) : ([separator].intercalate pieces).splitOn separator = pieces := by
  refine List.splitOn_intercalate separator (not_mem_of_holds holds solid free) ?_
  rintro rfl
  cases holds
  exact some_token rfl

end Tokens
