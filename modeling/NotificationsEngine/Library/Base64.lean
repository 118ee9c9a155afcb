import Mathlib.Data.List.Basic

/-!
# Base 64

Bytes in groups of three as sextets in groups of four.  What is left over takes
one sextet more than it has bytes, and no padding is needed to read it back.
-/

namespace Base64

def encode : List ℕ → List ℕ
  | a :: b :: c :: rest =>
      a / 4 :: (a % 4 * 16 + b / 16) :: (b % 16 * 4 + c / 64) :: c % 64 :: encode rest
  | [a, b] => [a / 4, a % 4 * 16 + b / 16, b % 16 * 4]
  | [a] => [a / 4, a % 4 * 16]
  | [] => []

def decode : List ℕ → List ℕ
  | a :: b :: c :: d :: rest =>
      (a * 4 + b / 16) :: (b % 16 * 16 + c / 4) :: (c % 4 * 64 + d) :: decode rest
  | [a, b, c] => [a * 4 + b / 16, b % 16 * 16 + c / 4]
  | [a, b] => [a * 4 + b / 16]
  | _ => []

theorem decode_encode {bytes : List ℕ} (small : ∀ byte ∈ bytes, byte < 256) :
    decode (encode bytes) = bytes := by
  induction bytes using encode.induct with
  | case1 a b c rest ih =>
      have first := small a (by simp)
      have second := small b (by simp)
      have third := small c (by simp)
      have later := ih fun byte member => small byte (by simp [member])
      rw [encode, decode, later]
      simp only [List.cons.injEq, and_true]
      omega
  | case2 a b =>
      have first := small a (by simp)
      have second := small b (by simp)
      simp only [encode, decode, List.cons.injEq, and_true]
      omega
  | case3 a =>
      have first := small a (by simp)
      simp only [encode, decode, List.cons.injEq, and_true]
      omega
  | case4 => rfl

theorem lt_of_mem_encode {bytes : List ℕ} (small : ∀ byte ∈ bytes, byte < 256) {sextet : ℕ}
    (member : sextet ∈ encode bytes) : sextet < 64 := by
  induction bytes using encode.induct with
  | case1 a b c rest ih =>
      have first := small a (by simp)
      have second := small b (by simp)
      have third := small c (by simp)
      simp only [encode, List.mem_cons] at member
      rcases member with rfl | rfl | rfl | rfl | later
      · omega
      · omega
      · omega
      · omega
      · exact ih (fun byte member => small byte (by simp [member])) later
  | case2 a b =>
      have first := small a (by simp)
      have second := small b (by simp)
      simp only [encode, List.mem_cons, List.not_mem_nil, or_false] at member
      omega
  | case3 a =>
      have first := small a (by simp)
      simp only [encode, List.mem_cons, List.not_mem_nil, or_false] at member
      omega
  | case4 => cases member

/-- Eight bits a byte, six bits a sextet. -/
theorem length_encode (bytes : List ℕ) : (encode bytes).length = (8 * bytes.length + 5) / 6 := by
  induction bytes using encode.induct with
  | case1 a b c rest ih =>
      simp only [encode, List.length_cons, ih]
      omega
  | case2 => simp [encode]
  | case3 => simp [encode]
  | case4 => rfl

/-- Bytes with the same sextets are the same. -/
theorem encode_injOn {first second : List ℕ} (hfirst : ∀ byte ∈ first, byte < 256)
    (hsecond : ∀ byte ∈ second, byte < 256) (same : encode first = encode second) :
    first = second := by
  rw [← decode_encode hfirst, same, decode_encode hsecond]

end Base64
