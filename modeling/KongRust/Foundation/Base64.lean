import Mathlib.Data.List.Basic

/-!
# Base64 for URLs

The encoding with the URL-safe alphabet and without padding, and its decoder, which refuses other
symbols, padding, a single symbol at the end, and bits at the end that no byte takes.
-/

namespace KongRust.Base64

/-- The symbol of a value of six bits. -/
def symbol (v : Nat) : Char :=
  if v < 26 then Char.ofNat (65 + v)
  else if v < 52 then Char.ofNat (71 + v)
  else if v < 62 then Char.ofNat (v - 4)
  else if v = 62 then '-'
  else '_'

/-- Three bytes make four symbols; at the end the missing bits are zero. -/
def encodeSymbols : List Nat → List Char
  | [] => []
  | [a] => [symbol (a / 4), symbol (a % 4 * 16)]
  | [a, b] => [symbol (a / 4), symbol (a % 4 * 16 + b / 16), symbol (b % 16 * 4)]
  | a :: b :: c :: rest =>
    symbol (a / 4) :: symbol (a % 4 * 16 + b / 16) :: symbol (b % 16 * 4 + c / 64) ::
      symbol (c % 64) :: encodeSymbols rest

/-- `URL_SAFE_NO_PAD.encode`. -/
def encode (bytes : List UInt8) : String := String.ofList (encodeSymbols (bytes.map UInt8.toNat))

/-- The value of a symbol. -/
def value (c : Char) : Option Nat :=
  let n := c.toNat
  if 65 ≤ n ∧ n ≤ 90 then some (n - 65)
  else if 97 ≤ n ∧ n ≤ 122 then some (n - 71)
  else if 48 ≤ n ∧ n ≤ 57 then some (n + 4)
  else if c = '-' then some 62
  else if c = '_' then some 63
  else none

def decodeValues : List Nat → Option (List Nat)
  | [] => some []
  | [_] => none
  | [v, w] => if w % 16 = 0 then some [v * 4 + w / 16] else none
  | [v, w, x] => if x % 4 = 0 then some [v * 4 + w / 16, w % 16 * 16 + x / 4] else none
  | v :: w :: x :: y :: rest =>
    (decodeValues rest).map fun bytes =>
      (v * 4 + w / 16) :: (w % 16 * 16 + x / 4) :: (x % 4 * 64 + y) :: bytes

/-- `URL_SAFE_NO_PAD.decode`, without its errors. -/
def decode (text : String) : Option (List UInt8) :=
  ((text.toList.mapM value).bind decodeValues).map fun bytes => bytes.map UInt8.ofNat

theorem symbol_alphanum {v : Nat} (h : v < 62) : (symbol v).isAlphanum := by
  have hAll : ∀ v < 62, (symbol v).isAlphanum := by decide
  exact hAll v h

theorem encodeSymbols_alphanum : ∀ {bytes : List Nat}, (∀ b ∈ bytes, b < 128 ∧ b % 64 < 62) →
    ∀ c ∈ encodeSymbols bytes, c.isAlphanum
  | [], _, c, hMem => by cases hMem
  | [a], h, c, hMem => by
    obtain ⟨hA, -⟩ := h a (by simp)
    simp only [encodeSymbols, List.mem_cons, List.not_mem_nil, or_false] at hMem
    rcases hMem with rfl | rfl
    · exact symbol_alphanum (by omega)
    · exact symbol_alphanum (by omega)
  | [a, b], h, c, hMem => by
    obtain ⟨hA, -⟩ := h a (by simp)
    obtain ⟨hB, -⟩ := h b (by simp)
    simp only [encodeSymbols, List.mem_cons, List.not_mem_nil, or_false] at hMem
    rcases hMem with rfl | rfl | rfl
    · exact symbol_alphanum (by omega)
    · exact symbol_alphanum (by omega)
    · exact symbol_alphanum (by omega)
  | a :: b :: d :: rest, h, c, hMem => by
    obtain ⟨hA, -⟩ := h a (by simp)
    obtain ⟨hB, -⟩ := h b (by simp)
    obtain ⟨hD, hLow⟩ := h d (by simp)
    simp only [encodeSymbols, List.mem_cons] at hMem
    rcases hMem with rfl | rfl | rfl | rfl | hRest
    · exact symbol_alphanum (by omega)
    · exact symbol_alphanum (by omega)
    · exact symbol_alphanum (by omega)
    · exact symbol_alphanum hLow
    · refine encodeSymbols_alphanum ?_ c hRest
      intro x hX
      exact h x (by simp [hX])

theorem encode_alphanum {bytes : List UInt8} (h : ∀ b ∈ bytes, b.toNat < 128 ∧ b.toNat % 64 < 62) :
    ∀ c ∈ (encode bytes).toList, c.isAlphanum := by
  unfold encode
  rw [String.toList_ofList]
  apply encodeSymbols_alphanum
  intro b hB
  obtain ⟨byte, hByte, rfl⟩ := List.mem_map.mp hB
  exact h byte hByte

/-! ## The round trip -/

theorem value_symbol {v : Nat} (h : v < 64) : value (symbol v) = some v := by
  have hAll : ∀ v < 64, value (symbol v) = some v := by decide
  exact hAll v h

/-- The values of the symbols of some bytes. -/
def values : List Nat → List Nat
  | [] => []
  | [a] => [a / 4, a % 4 * 16]
  | [a, b] => [a / 4, a % 4 * 16 + b / 16, b % 16 * 4]
  | a :: b :: c :: rest =>
    a / 4 :: (a % 4 * 16 + b / 16) :: (b % 16 * 4 + c / 64) :: c % 64 :: values rest

theorem mapM_value {vs : List Nat} (h : ∀ v ∈ vs, v < 64) :
    (vs.map symbol).mapM value = some vs := by
  induction vs with
  | nil => rfl
  | cons v vs ih =>
    have hRest : (vs.map symbol).mapM value = some vs :=
      ih fun w hW => h w (List.mem_cons_of_mem v hW)
    simp [List.mapM_cons, value_symbol (h v List.mem_cons_self), hRest]

theorem encodeSymbols_eq : ∀ bytes : List Nat, encodeSymbols bytes = (values bytes).map symbol
  | [] => rfl
  | [_] => rfl
  | [_, _] => rfl
  | _ :: _ :: _ :: rest => by
    have ih := encodeSymbols_eq rest
    simp [encodeSymbols, values, ih]

theorem values_spec : ∀ {bytes : List Nat}, (∀ b ∈ bytes, b < 256) →
    (∀ v ∈ values bytes, v < 64) ∧ decodeValues (values bytes) = some bytes
  | [], _ => by simp [values, decodeValues]
  | [a], h => by
    have hA := h a (by simp)
    constructor
    · intro v hV
      simp only [values, List.mem_cons, List.not_mem_nil, or_false] at hV
      omega
    · have hByte : a / 4 * 4 + a % 4 * 16 / 16 = a := by omega
      have hEnd : a % 4 * 16 % 16 = 0 := by omega
      simp only [values, decodeValues, hByte, hEnd, if_true]
  | [a, b], h => by
    have hA := h a (by simp)
    have hB := h b (by simp)
    constructor
    · intro v hV
      simp only [values, List.mem_cons, List.not_mem_nil, or_false] at hV
      omega
    · have hFirst : a / 4 * 4 + (a % 4 * 16 + b / 16) / 16 = a := by omega
      have hSecond : (a % 4 * 16 + b / 16) % 16 * 16 + b % 16 * 4 / 4 = b := by omega
      have hEnd : b % 16 * 4 % 4 = 0 := by omega
      simp only [values, decodeValues, hFirst, hSecond, hEnd, if_true]
  | a :: b :: c :: rest, h => by
    have hA := h a (by simp)
    have hB := h b (by simp)
    have hC := h c (by simp)
    obtain ⟨hBound, hRest⟩ := @values_spec rest fun x hX => h x (by simp [hX])
    constructor
    · intro v hV
      simp only [values, List.mem_cons] at hV
      rcases hV with hV | hV | hV | hV | hV
      · omega
      · omega
      · omega
      · omega
      · exact hBound v hV
    · have hFirst : a / 4 * 4 + (a % 4 * 16 + b / 16) / 16 = a := by omega
      have hSecond : (a % 4 * 16 + b / 16) % 16 * 16 + (b % 16 * 4 + c / 64) / 4 = b := by omega
      have hThird : (b % 16 * 4 + c / 64) % 4 * 64 + c % 64 = c := by omega
      simp only [values, decodeValues, hFirst, hSecond, hThird, hRest, Option.map_some]

theorem decode_encode (bytes : List UInt8) : decode (encode bytes) = some bytes := by
  have hBytes : ∀ b ∈ bytes.map UInt8.toNat, b < 256 := by
    intro b hB
    obtain ⟨byte, -, rfl⟩ := List.mem_map.mp hB
    exact byte.toNat_lt
  obtain ⟨hBound, hDecode⟩ := values_spec hBytes
  unfold decode encode
  rw [String.toList_ofList, encodeSymbols_eq, mapM_value hBound, Option.bind_some, hDecode,
    Option.map_some, List.map_map]
  simp [Function.comp_def]

theorem length_le_encodeSymbols : ∀ bytes : List Nat, bytes.length ≤ (encodeSymbols bytes).length
  | [] => Nat.le_refl _
  | [_] => by simp [encodeSymbols]
  | [_, _] => by simp [encodeSymbols]
  | _ :: _ :: _ :: rest => by
    have ih := length_le_encodeSymbols rest
    simp only [encodeSymbols, List.length_cons]
    omega

end KongRust.Base64
