import Mathlib
import KongRust.Foundation.Text

/-!
# Texts by byte offset

Positions in a `str` are byte offsets. `cut` divides a text at one and fails where a slice would
panic: past the end, or inside a character. A search returns the offset at which the character it
finds begins (`findByte_append`), so the text can be cut there, and behind it if the character is
one byte long. Integers are read from texts digit by digit.
-/

namespace KongRust.Str

/-! ## Slices -/

variable (s : List Char)

/-- `str::len`. -/
def byteLen (s : List Char) : Nat := (s.map Char.utf8Size).sum

/-- The text before a byte offset and the text from it on. -/
def cut : Nat → List Char → Option (List Char × List Char)
  | 0, s => some ([], s)
  | _ + 1, [] => none
  | n + 1, c :: s =>
    if c.utf8Size ≤ n + 1 then
      (cut (n + 1 - c.utf8Size) s).map fun parts => (c :: parts.1, parts.2)
    else none

/-- `&s[..end]`. -/
def sliceTo (s : List Char) (stop : Nat) : Option (List Char) := (cut stop s).map Prod.fst

/-- `&s[begin..]`. -/
def sliceFrom (s : List Char) (start : Nat) : Option (List Char) := (cut start s).map Prod.snd

/-- `&s[begin..end]`. -/
def slice (s : List Char) (start stop : Nat) : Option (List Char) :=
  if stop < start then none else (sliceFrom s start).bind fun rest => sliceTo rest (stop - start)

@[simp] theorem byteLen_nil : byteLen [] = 0 := rfl

@[simp] theorem byteLen_cons (c : Char) (s : List Char) :
    byteLen (c :: s) = c.utf8Size + byteLen s := by
  simp [byteLen]

@[simp] theorem byteLen_append (a b : List Char) : byteLen (a ++ b) = byteLen a + byteLen b := by
  simp [byteLen]

@[simp] theorem byteLen_eq_zero {s : List Char} : byteLen s = 0 ↔ s = [] := by
  cases s with
  | nil => simp
  | cons c s =>
    have hPos := c.utf8Size_pos
    simp only [byteLen_cons, List.cons_ne_nil, iff_false]
    omega

@[simp] theorem cut_zero : cut 0 s = some ([], s) := by
  cases s <;> rfl

variable {c : Char} {a : List Char}

theorem cut_cons {n : Nat} (h : c.utf8Size ≤ n) (s : List Char) :
    cut n (c :: s) = (cut (n - c.utf8Size) s).map fun parts => (c :: parts.1, parts.2) := by
  have hPos := c.utf8Size_pos
  obtain ⟨m, rfl⟩ : ∃ m, n = m + 1 := ⟨n - 1, by omega⟩
  rw [cut, if_pos h]

theorem cut_append (a b : List Char) : cut (byteLen a) (a ++ b) = some (a, b) := by
  induction a with
  | nil => exact cut_zero b
  | cons c a ih =>
    rw [List.cons_append, byteLen_cons, cut_cons (Nat.le_add_right _ _), Nat.add_sub_cancel_left,
      ih]
    rfl

theorem cut_inside {a : List Char} {c : Char} (hWide : 1 < c.utf8Size) (b : List Char) :
    cut (byteLen a + 1) (a ++ c :: b) = none := by
  induction a with
  | nil =>
    rw [List.nil_append, byteLen_nil, Nat.zero_add, cut, if_neg (by omega)]
  | cons d a ih =>
    have hRest : byteLen (d :: a) + 1 - d.utf8Size = byteLen a + 1 := by
      rw [byteLen_cons]
      omega
    rw [List.cons_append, cut_cons (by rw [byteLen_cons]; omega), hRest, ih]
    rfl

theorem cut_behind (hNarrow : c.utf8Size = 1) (b : List Char) :
    cut (byteLen a + 1) (a ++ c :: b) = some (a ++ [c], b) := by
  have hCut := cut_append (a ++ [c]) b
  rwa [byteLen_append, byteLen_cons, hNarrow, byteLen_nil, Nat.add_zero, List.append_assoc] at hCut

/-! ## Searches -/

/-- `str::find` of a character. -/
def findByte (x : Char) : List Char → Option Nat
  | [] => none
  | c :: s => if c = x then some 0 else (findByte x s).map (c.utf8Size + ·)

/-- `str::rfind` of a character. -/
def rfindByte (x : Char) : List Char → Option Nat
  | [] => none
  | c :: s =>
    match rfindByte x s with
    | some i => some (c.utf8Size + i)
    | none => if c = x then some 0 else none

theorem findByte_append {x : Char} {a : List Char} (ha : x ∉ a) (b : List Char) :
    findByte x (a ++ x :: b) = some (byteLen a) := by
  induction a with
  | nil => simp [findByte]
  | cons c a ih =>
    obtain ⟨hHead, hTail⟩ := List.ne_and_not_mem_of_not_mem_cons ha
    rw [List.cons_append, findByte, if_neg hHead.symm, ih hTail]
    simp

theorem findByte_eq_none {x : Char} {s : List Char} (h : x ∉ s) : findByte x s = none := by
  induction s with
  | nil => rfl
  | cons c s ih =>
    obtain ⟨hHead, hTail⟩ := List.ne_and_not_mem_of_not_mem_cons h
    rw [findByte, if_neg hHead.symm, ih hTail]
    rfl

theorem rfindByte_eq_none {x : Char} {s : List Char} (h : x ∉ s) : rfindByte x s = none := by
  induction s with
  | nil => rfl
  | cons c s ih =>
    obtain ⟨hHead, hTail⟩ := List.ne_and_not_mem_of_not_mem_cons h
    rw [rfindByte, ih hTail, if_neg hHead.symm]

theorem rfindByte_append {x : Char} (a : List Char) {b : List Char} (hb : x ∉ b) :
    rfindByte x (a ++ x :: b) = some (byteLen a) := by
  induction a with
  | nil => simp [rfindByte, rfindByte_eq_none hb]
  | cons c a ih =>
    rw [List.cons_append, rfindByte, ih]
    simp

theorem append_cons_unique {α : Type*} {c : α} {a a' b b' : List α} (ha : c ∉ a) (ha' : c ∉ a')
    (h : a ++ c :: b = a' ++ c :: b') : a = a' ∧ b = b' := by
  induction a generalizing a' with
  | nil =>
    cases a' with
    | nil => exact ⟨rfl, (List.cons.inj h).2⟩
    | cons d a' => exact absurd ((List.cons.inj h).1 ▸ List.mem_cons_self) ha'
  | cons d a ih =>
    cases a' with
    | nil => exact absurd ((List.cons.inj h).1 ▸ List.mem_cons_self) ha
    | cons d' a' =>
      obtain ⟨rfl, hRest⟩ := List.cons.inj h
      obtain ⟨rfl, rfl⟩ := ih (fun hc => ha (List.mem_cons_of_mem d hc))
        (fun hc => ha' (List.mem_cons_of_mem d hc)) hRest
      exact ⟨rfl, rfl⟩

theorem append_cons_unique_last {a' b b' : List Char} (hb : c ∉ b) (hb' : c ∉ b')
    (h : a ++ c :: b = a' ++ c :: b') : a = a' ∧ b = b' := by
  have hReverse := congrArg List.reverse h
  simp only [List.reverse_append, List.reverse_cons, List.append_assoc,
    List.singleton_append] at hReverse
  obtain ⟨hBack, hFront⟩ := append_cons_unique (by simpa using hb) (by simpa using hb') hReverse
  exact ⟨List.reverse_injective hFront, List.reverse_injective hBack⟩

theorem exists_append_cons_last {s : List Char} (h : c ∈ s) : ∃ a b, s = a ++ c :: b ∧ c ∉ b := by
  obtain ⟨b, a, hReverse, hb⟩ := List.eq_append_cons_of_mem (List.mem_reverse.mpr h)
  refine ⟨a.reverse, b.reverse, ?_, by simpa using hb⟩
  rw [← List.reverse_reverse s, hReverse]
  simp

/-! ## Pieces -/

/-- `str::split` at the characters with a property. -/
def splitWhere (p : Char → Bool) : List Char → List (List Char)
  | [] => [[]]
  | c :: s =>
    if p c then [] :: splitWhere p s
    else match splitWhere p s with
      | [] => [[c]]
      | piece :: rest => (c :: piece) :: rest

/-- `str::split_whitespace`. -/
def splitWhitespace (s : List Char) : List (List Char) :=
  (splitWhere Text.isWhitespace s).filter (· ≠ [])

/-- A line without the carriage return that ends it. -/
def stripCarriageReturn (line : List Char) : List Char :=
  if line.getLast? = some '\r' then line.dropLast else line

/-- `str::lines`: the last piece has no line feed behind it. -/
def lines (s : List Char) : List (List Char) :=
  let pieces := Text.split '\n' s
  pieces.dropLast.map stripCarriageReturn ++ pieces.getLast?.toList.filter (· ≠ [])

/-! ## Trimming -/

theorem exists_trim : ∃ front back, s = front ++ Text.trim s ++ back ∧
    (∀ c ∈ front, Text.isWhitespace c) ∧ ∀ c ∈ back, Text.isWhitespace c := by
  have hFront : s.takeWhile Text.isWhitespace ++ s.dropWhile Text.isWhitespace = s :=
    List.takeWhile_append_dropWhile
  have hBack : Text.trim s ++ (s.dropWhile Text.isWhitespace).rtakeWhile Text.isWhitespace =
      s.dropWhile Text.isWhitespace := List.rdropWhile_append_rtakeWhile
  refine ⟨s.takeWhile Text.isWhitespace, (s.dropWhile Text.isWhitespace).rtakeWhile
    Text.isWhitespace, ?_, fun c hc => List.mem_takeWhile_imp hc,
    fun c hc => List.mem_rtakeWhile_imp hc⟩
  rw [List.append_assoc, hBack, hFront]

theorem trim_trim : Text.trim (Text.trim s) = Text.trim s := by
  have hBack : (Text.trim s).rdropWhile Text.isWhitespace = Text.trim s :=
    List.rdropWhile_idempotent _ _
  have hFront : (Text.trim s).dropWhile Text.isWhitespace = Text.trim s := by
    have hPre : Text.trim s <+: s.dropWhile Text.isWhitespace := List.rdropWhile_prefix _ _
    obtain ⟨back, hRest⟩ := hPre
    cases hTrim : Text.trim s with
    | nil => rfl
    | cons c t =>
      rw [hTrim, List.cons_append] at hRest
      have hHead := List.head?_dropWhile_not Text.isWhitespace s
      rw [← hRest] at hHead
      exact List.dropWhile_cons_of_neg (by simpa using hHead)
  change ((Text.trim s).dropWhile Text.isWhitespace).rdropWhile Text.isWhitespace = _
  rw [hFront, hBack]

/-! ## Integers -/

inductive ParseIntError
  | empty
  | invalidDigit
  | posOverflow
  | negOverflow
  deriving DecidableEq

/-- `<ParseIntError as Display>::fmt`. -/
def ParseIntError.toText : ParseIntError → String
  | .empty => "cannot parse integer from empty string"
  | .invalidDigit => "invalid digit found in string"
  | .posOverflow => "number too large to fit in target type"
  | .negOverflow => "number too small to fit in target type"

/-- The digits of a number below a bound, after those already read. -/
def parseDigits (bound : Nat) (overflow : ParseIntError) :
    Nat → List Char → Except ParseIntError Nat
  | n, [] => .ok n
  | n, c :: s =>
    if c.isDigit then
      if bound ≤ 10 * n + (c.toNat - '0'.toNat) then .error overflow
      else parseDigits bound overflow (10 * n + (c.toNat - '0'.toNat)) s
    else .error .invalidDigit

/-- `str::parse` at an unsigned type with this many values. -/
def parseUnsigned (bound : Nat) (s : List Char) : Except ParseIntError Nat :=
  if s = [] then .error .empty
  else if s = ['+'] ∨ s = ['-'] then .error .invalidDigit
  else if s.head? = some '+' then parseDigits bound .posOverflow 0 s.tail
  else parseDigits bound .posOverflow 0 s

/-- `str::parse` at a signed type with this many values that are not negative. -/
def parseSigned (bound : Nat) (s : List Char) : Except ParseIntError Int :=
  if s.head? = some '-' ∧ s ≠ ['-'] then
    (parseDigits (bound + 1) .negOverflow 0 s.tail).map fun n => -(n : Int)
  else (parseUnsigned bound s).map fun n => (n : Int)

end KongRust.Str
