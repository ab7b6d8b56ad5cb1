import Mathlib

/-!
# String operations

The `str` operations of the Rust standard library that the gateway relies on, on Lean
strings. Byte positions and lengths are UTF-8 byte counts, as in Rust; white space is the
Unicode property `White_Space`.
-/

namespace KongRust.Text

/-- The Unicode property `White_Space`, which `str::trim` uses. -/
def isWhitespace (c : Char) : Bool :=
  (0x09 ≤ c.toNat && c.toNat ≤ 0x0D) || c.toNat == 0x20 || c.toNat == 0x85 ||
    c.toNat == 0xA0 || c.toNat == 0x1680 || (0x2000 ≤ c.toNat && c.toNat ≤ 0x200A) ||
    c.toNat == 0x2028 || c.toNat == 0x2029 || c.toNat == 0x202F || c.toNat == 0x205F ||
    c.toNat == 0x3000

/-- `str::len`: the number of UTF-8 bytes. -/
def len (s : String) : Nat := s.utf8ByteSize

/-- `str::trim`, on the characters of a text. -/
def trim (s : List Char) : List Char :=
  ((s.dropWhile isWhitespace).reverse.dropWhile isWhitespace).reverse

/-- `str::find` with a string pattern: the text before the first occurrence and the text
after it. -/
def find (p : List Char) : List Char → Option (List Char × List Char)
  | [] => if p.isEmpty then some ([], []) else none
  | c :: s =>
    if p.isPrefixOf (c :: s) then some ([], (c :: s).drop p.length)
    else (find p s).map fun split => (c :: split.1, split.2)

/-- `str::split` at a single character. -/
def split (c : Char) : List Char → List (List Char)
  | [] => [[]]
  | d :: s =>
    if d = c then [] :: split c s
    else match split c s with
      | [] => [[d]]
      | piece :: rest => (d :: piece) :: rest

/-- `str::trim_end_matches` with a single character. -/
def trimEndMatches (c : Char) (s : String) : String :=
  String.ofList ((s.toList.reverse.dropWhile (· == c)).reverse)

/-- `str::starts_with` with a string pattern. -/
def startsWith (s p : String) : Bool := p.toList.isPrefixOf s.toList

/-- `str::strip_prefix` with a string pattern. -/
def stripPrefix (p s : String) : Option String :=
  if startsWith s p then some (String.ofList (s.toList.drop p.toList.length)) else none

/-- `str::contains` with a single character. -/
def contains (c : Char) (s : String) : Bool := s.toList.contains c

/-- `str::replace` of a single character. -/
def replace (c : Char) (text : String) (s : String) : String :=
  String.ofList (s.toList.flatMap fun d => if d = c then text.toList else [d])

/-- The first piece of `str::split` at a single character. -/
def splitFirst (c : Char) (s : String) : String := String.ofList (s.toList.takeWhile (· != c))

/-- `slice::join` of strings. -/
def join (sep : String) : List String → String
  | [] => ""
  | [s] => s
  | s :: rest => s ++ sep ++ join sep rest

/-- `str::as_bytes`. -/
def asBytes (s : String) : List UInt8 := s.toList.flatMap String.utf8EncodeChar

/-- `String::from_utf8`. -/
def fromUtf8 (bytes : List UInt8) : Option String := String.fromUTF8? bytes.toByteArray

theorem fromUtf8_asBytes (s : String) : fromUtf8 (asBytes s) = some s := by
  have hBytes : (asBytes s).toByteArray = s.toByteArray := String.utf8Encode_toList
  unfold fromUtf8 String.fromUTF8?
  rw [hBytes, dif_pos s.isValidUTF8]
  rfl

/-! ## Patterns -/

theorem find_eq_none_iff {p s : List Char} : find p s = none ↔ ¬ p <:+: s := by
  induction s with
  | nil => cases p <;> simp [find]
  | cons c s ih =>
    rw [find, List.infix_cons_iff, ← List.isPrefixOf_iff_prefix]
    cases p.isPrefixOf (c :: s) with
    | true => simp
    | false => simp [ih]

variable {p a s : List Char} {c : Char}

theorem prefix_of_prefix_append_cons (hc : c ∉ p) (h : p <+: a ++ c :: s) : p <+: a := by
  rcases Nat.lt_or_ge a.length p.length with hLong | hShort
  · have hThrough : a ++ [c] <+: p :=
      List.prefix_of_prefix_length_le ⟨s, by simp⟩ h (by simp; omega)
    exact absurd (hThrough.subset (by simp)) hc
  · exact List.prefix_of_prefix_length_le h (List.prefix_append _ _) hShort

theorem infix_append_cons_iff {p a : List Char} {c : Char} (hc : c ∉ p) (s : List Char) :
    p <:+: a ++ c :: s ↔ p <:+: a ∨ p <:+: s := by
  induction a with
  | nil =>
    rw [List.nil_append, List.infix_cons_iff, List.infix_nil]
    refine or_congr_left ⟨fun h => ?_, fun h => h ▸ List.nil_prefix⟩
    exact List.prefix_nil.mp (prefix_of_prefix_append_cons (a := []) hc h)
  | cons d a ih =>
    rw [List.cons_append, List.infix_cons_iff, List.infix_cons_iff, ih, or_assoc]
    refine or_congr_left ⟨fun h => ?_, fun h => h.trans (List.prefix_append _ _)⟩
    exact prefix_of_prefix_append_cons hc h

theorem find_append_cons {p a : List Char} {c : Char} (hc : c ∉ p) (h : ¬ p <:+: a)
    (s : List Char) :
    find p (a ++ c :: s) = (find p s).map fun cut => (a ++ c :: cut.1, cut.2) := by
  have hHead : ∀ b : List Char, ¬ p <:+: b → ¬ p.isPrefixOf (b ++ c :: s) := fun b hb hPre =>
    hb (prefix_of_prefix_append_cons hc (List.isPrefixOf_iff_prefix.mp hPre)).isInfix
  induction a with
  | nil =>
    rw [List.nil_append, find, if_neg (by simpa using hHead [] h)]
    rfl
  | cons d a ih =>
    rw [List.cons_append, find, if_neg (by simpa using hHead (d :: a) h),
      ih fun hIn => h (List.infix_cons hIn)]
    cases find p s <;> rfl

theorem find_self (hNe : p ≠ []) (s : List Char) : find p (p ++ s) = some ([], s) := by
  obtain ⟨c, rest, rfl⟩ := List.exists_cons_of_ne_nil hNe
  rw [List.cons_append, find, if_pos (by simp [List.isPrefixOf_iff_prefix])]
  simp

theorem find_append_of_head {c : Char} {p a : List Char} (hc : c ∉ a) (s : List Char) :
    find (c :: p) (a ++ (c :: p ++ s)) = some (a, s) := by
  induction a with
  | nil => exact find_self (List.cons_ne_nil c p) s
  | cons d a ih =>
    have hNe : c ≠ d := fun hEq => hc (hEq ▸ List.mem_cons_self)
    rw [List.cons_append, find, if_neg (by simp [hNe]),
      ih fun hMem => hc (List.mem_cons_of_mem d hMem)]
    rfl

theorem stripPrefix_append (p s : String) :
    stripPrefix p (String.ofList (p.toList ++ s.toList)) = some s := by
  have hStarts : p.toList.isPrefixOf (p.toList ++ s.toList) = true := by
    rw [List.isPrefixOf_iff_prefix]
    exact List.prefix_append _ _
  unfold stripPrefix startsWith
  rw [String.toList_ofList, if_pos hStarts, List.drop_left, String.ofList_toList]

/-! ## White space at the ends -/

/-- A text that does not begin or end with white space. -/
def Tight (s : List Char) : Prop :=
  (∀ c ∈ s.head?, isWhitespace c = false) ∧ ∀ c ∈ s.getLast?, isWhitespace c = false

theorem dropWhile_isWhitespace_of_tight {s : List Char}
    (h : ∀ c ∈ s.head?, isWhitespace c = false) : s.dropWhile isWhitespace = s := by
  cases s with
  | nil => rfl
  | cons c s => exact List.dropWhile_cons_of_neg (by simp [h c rfl])

theorem trim_cons (h : isWhitespace c = false) (s : List Char) : ∃ t, trim (c :: s) = c :: t := by
  refine ⟨(s.reverse.dropWhile isWhitespace).reverse, ?_⟩
  unfold trim
  rw [List.dropWhile_cons_of_neg (by simp [h]), List.reverse_cons, List.dropWhile_append]
  split
  · rename_i hEmpty
    rw [List.isEmpty_iff.mp hEmpty, List.dropWhile_cons_of_neg (by simp [h])]
    rfl
  · rw [List.reverse_append]
    rfl

theorem Tight.trim (h : Tight s) : trim s = s := by
  unfold Text.trim
  rw [dropWhile_isWhitespace_of_tight h.1, dropWhile_isWhitespace_of_tight, List.reverse_reverse]
  rw [List.head?_reverse]
  exact h.2

theorem Tight.trim_space_cons (h : Tight s) : Text.trim (' ' :: s) = s := by
  have hSame : Text.trim (' ' :: s) = Text.trim s := by
    unfold Text.trim
    rw [List.dropWhile_cons_of_pos (by decide)]
  rw [hSame, h.trim]

theorem Tight.trim_append_space (h : Tight s) (hNe : s ≠ []) : Text.trim (s ++ [' ']) = s := by
  have hFront : (s ++ [' ']).dropWhile isWhitespace = s ++ [' '] :=
    dropWhile_isWhitespace_of_tight (by
      rw [List.head?_append_of_ne_nil _ hNe]
      exact h.1)
  unfold Text.trim
  rw [hFront, List.reverse_append, List.reverse_singleton, List.singleton_append,
    List.dropWhile_cons_of_pos (by decide), dropWhile_isWhitespace_of_tight,
    List.reverse_reverse]
  rw [List.head?_reverse]
  exact h.2

theorem tight_of_ends {d : Char} (hc : isWhitespace c = false) (hd : isWhitespace d = false) :
    Tight (c :: (s ++ [d])) := by
  refine ⟨fun x hx => ?_, fun x hx => ?_⟩
  · rw [List.head?_cons, Option.mem_some_iff] at hx
    exact hx ▸ hc
  · rw [← List.cons_append, List.getLast?_concat, Option.mem_some_iff] at hx
    exact hx ▸ hd

theorem Tight.append {b : List Char} (ha : Tight a) (hb : Tight b) (hNeA : a ≠ []) (hNeB : b ≠ [])
    (m : List Char) : Tight (a ++ (m ++ b)) := by
  refine ⟨?_, ?_⟩
  · rw [List.head?_append_of_ne_nil _ hNeA]
    exact ha.1
  · rw [List.getLast?_append_of_ne_nil _ (by simp [hNeB]), List.getLast?_append_of_ne_nil _ hNeB]
    exact hb.2

/-! ## Pieces -/

section

variable {c : Char} {s : List Char} (h : c ∉ s)
include h

theorem find_of_not_mem : find [c] s = none := by
  induction s with
  | nil => rfl
  | cons d s ih =>
    have hNe : c ≠ d := fun hEq => h (hEq ▸ List.mem_cons_self)
    have hRest : find [c] s = none := ih fun hMem => h (List.mem_cons_of_mem d hMem)
    unfold find
    rw [if_neg (by simpa using hNe), hRest]
    rfl

theorem find_append (rest : List Char) : find [c] (s ++ c :: rest) = some (s, rest) := by
  induction s with
  | nil =>
    change (if [c].isPrefixOf (c :: rest) then some ([], (c :: rest).drop 1) else _) = _
    rw [if_pos (by simp)]
    rfl
  | cons d s ih =>
    have hNe : c ≠ d := fun hEq => h (hEq ▸ List.mem_cons_self)
    have hRest : find [c] (s ++ c :: rest) = some (s, rest) :=
      ih fun hMem => h (List.mem_cons_of_mem d hMem)
    rw [List.cons_append]
    unfold find
    rw [if_neg (by simpa using hNe), hRest]
    rfl

theorem split_of_not_mem : split c s = [s] := by
  induction s with
  | nil => rfl
  | cons d s ih =>
    have hNe : d ≠ c := fun hEq => h (hEq ▸ List.mem_cons_self)
    unfold split
    rw [if_neg hNe, ih fun hMem => h (List.mem_cons_of_mem d hMem)]

theorem split_append (rest : List Char) : split c (s ++ c :: rest) = s :: split c rest := by
  induction s with
  | nil => simp [split]
  | cons d s ih =>
    have hNe : d ≠ c := fun hEq => h (hEq ▸ List.mem_cons_self)
    rw [List.cons_append]
    conv_lhs => unfold split
    rw [if_neg hNe, ih fun hMem => h (List.mem_cons_of_mem d hMem)]

end

theorem split_ne_nil (c : Char) (s : List Char) : split c s ≠ [] := by
  by_cases hc : c ∈ s
  · obtain ⟨front, back, rfl, hFront⟩ := List.eq_append_cons_of_mem hc
    simp [split_append hFront]
  · simp [split_of_not_mem hc]

/-- A text is its first piece, or goes on behind it. -/
theorem eq_of_split {c : Char} {s piece : List Char} {rest : List (List Char)}
    (h : split c s = piece :: rest) :
    rest = [] ∧ s = piece ∨ ∃ t, s = piece ++ c :: t ∧ split c t = rest := by
  by_cases hc : c ∈ s
  · obtain ⟨front, back, rfl, hFront⟩ := List.eq_append_cons_of_mem hc
    rw [split_append hFront] at h
    obtain ⟨rfl, rfl⟩ := List.cons.inj h
    exact .inr ⟨back, rfl, rfl⟩
  · rw [split_of_not_mem hc] at h
    obtain ⟨rfl, rfl⟩ := List.cons.inj h
    exact .inl ⟨rfl, rfl⟩

theorem split_join {c : Char} {pieces : List String} (hNe : pieces ≠ [])
    (h : ∀ piece ∈ pieces, c ∉ piece.toList) :
    split c (join (String.singleton c) pieces).toList = pieces.map String.toList := by
  induction pieces with
  | nil => exact absurd rfl hNe
  | cons piece pieces ih =>
    have hPiece : c ∉ piece.toList := h piece List.mem_cons_self
    cases pieces with
    | nil => exact split_of_not_mem hPiece
    | cons next pieces =>
      have hRest := ih (List.cons_ne_nil _ _) fun other hOther =>
        h other (List.mem_cons_of_mem piece hOther)
      have hJoin : (join (String.singleton c) (piece :: next :: pieces)).toList =
          piece.toList ++ c :: (join (String.singleton c) (next :: pieces)).toList := by
        simp [join]
      rw [hJoin, split_append hPiece, hRest]
      rfl

theorem trimEndMatches_of_not_mem {s : String} (h : c ∉ s.toList) : trimEndMatches c s = s := by
  have hSame : s.toList.reverse.dropWhile (· == c) = s.toList.reverse := by
    cases hReverse : s.toList.reverse with
    | nil => rfl
    | cons d rest =>
      apply List.dropWhile_cons_of_neg
      intro hEq
      apply h
      rw [← List.mem_reverse, hReverse, ← beq_iff_eq.mp hEq]
      exact List.mem_cons_self
  unfold trimEndMatches
  rw [hSame, List.reverse_reverse, String.ofList_toList]

theorem trimEndMatches_idem (c : Char) (s : String) :
    trimEndMatches c (trimEndMatches c s) = trimEndMatches c s := by
  unfold trimEndMatches
  rw [String.toList_ofList, List.reverse_reverse, List.dropWhile_idempotent _ _]

/-! ## Lengths -/

theorem len_ofList (s : List Char) : len (String.ofList s) = (s.map Char.utf8Size).sum := by
  induction s with
  | nil => rfl
  | cons c s ih =>
    have hCons : String.ofList (c :: s) = String.singleton c ++ String.ofList s := by
      rw [← String.toList_inj]
      simp
    rw [hCons, len, String.utf8ByteSize_append, String.utf8ByteSize_singleton]
    simp only [List.map_cons, List.sum_cons]
    exact congrArg _ ih

theorem len_eq_sum (s : String) : len s = (s.toList.map Char.utf8Size).sum := by
  rw [← len_ofList, String.ofList_toList]

theorem len_of_ascii {s : String} (h : ∀ c ∈ s.toList, c.utf8Size = 1) : len s = s.length := by
  rw [len_eq_sum, List.map_congr_left h, List.map_const', List.sum_replicate_nat,
    String.length_toList, Nat.mul_one]

end KongRust.Text
