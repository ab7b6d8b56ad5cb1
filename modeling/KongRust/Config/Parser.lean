import Mathlib.Data.List.AList
import KongRust.Foundation.Str

/-!
# The configuration file

`parse_conf_file` reads `key = value` lines. A value loses its inline comment and then its quotes;
the slice that takes the quotes off starts behind the first and stops before the last, which are
the same quote when the value is nothing else. `parseConfFile_panics_iff` says that this is the
only text on which the file is not read.
-/

namespace KongRust.Config

open Str

/-- The ways out of a function other than by its value: an error it returns, or a panic. -/
inductive Fault
  | error (message : String)
  | panic
  deriving DecidableEq

/-- The call ends in a panic. -/
def Panics {α : Type} (x : Except Fault α) : Prop := x = .error .panic

/-- A slice that panics where it has no text. -/
def sliced {α : Type} (part : Option α) : Except Fault α :=
  match part with
  | some value => .ok value
  | none => .error .panic

/-! ## The code -/

/-- The loop of `find_inline_comment`, from a byte offset on: the quotes it is in, and the
character before it, whose last byte is a space when it is a space. -/
def findCommentFrom (inSingleQuote inDoubleQuote : Bool) (before : Option Char) (i : Nat) :
    List Char → Option Nat
  | [] => none
  | ch :: rest =>
    if ch = '\'' ∧ inDoubleQuote = false then
      findCommentFrom (!inSingleQuote) inDoubleQuote (some ch) (i + ch.utf8Size) rest
    else if ch = '"' ∧ inSingleQuote = false then
      findCommentFrom inSingleQuote (!inDoubleQuote) (some ch) (i + ch.utf8Size) rest
    else if ch = '#' ∧ inSingleQuote = false ∧ inDoubleQuote = false ∧ before = some ' ' then
      some i
    else findCommentFrom inSingleQuote inDoubleQuote (some ch) (i + ch.utf8Size) rest

variable (value : List Char)

def findInlineComment (value : List Char) : Option Nat :=
  findCommentFrom false false none 0 value

/-- The quotes around a value, if it has any. -/
def isQuoted (value : List Char) : Bool :=
  (value.head? == some '"' && value.getLast? == some '"') ||
    (value.head? == some '\'' && value.getLast? == some '\'')

/-- The part of `parse_key_value` that takes the inline comment off. -/
def stripComment (value : List Char) : Except Fault (List Char) :=
  match findInlineComment value with
  | some commentPos => (sliced (sliceTo value commentPos)).map Text.trim
  | none => .ok value

/-- The part of `parse_key_value` that takes the quotes off. -/
def stripQuotes (value : List Char) : Except Fault (List Char) :=
  if isQuoted value then sliced (slice value 1 (byteLen value - 1)) else .ok value

variable (line : List Char)

def parseKeyValue (line : List Char) : Except Fault (Option (String × String)) :=
  match findByte '=' line with
  | none => .ok none
  | some eqPos => do
    let key := Text.trim (← sliced (sliceTo line eqPos))
    let value := Text.trim (← sliced (sliceFrom line (eqPos + 1)))
    let value ← stripQuotes (← stripComment value)
    if key.isEmpty then return none
    return some (String.ofList key, String.ofList value)

variable (result : AList fun _ : String => String)

/-- One turn of the loop over the lines. -/
def parseLine (result : AList fun _ : String => String) (line : List Char) :
    Except Fault (AList fun _ : String => String) :=
  let line := Text.trim line
  if line.isEmpty ∨ line.head? = some '#' then .ok result
  else do
    match ← parseKeyValue line with
    | some (key, value) => return result.insert key value
    | none => return result

def parseConfFile (content : List Char) : Except Fault (AList fun _ : String => String) :=
  (lines content).foldlM parseLine ∅

/-! ## Panics -/

theorem sliced_eq_ok {α : Type} {part : Option α} {value : α} (h : part = some value) :
    sliced part = .ok value := by
  rw [h]
  rfl

/-- The call panics under one condition and returns a value under another. -/
structure Decides {α : Type} (panics reads : Prop) (x : Except Fault α) : Prop where
  panics : Panics x ↔ panics
  reads : (∃ value, x = .ok value) ↔ reads

section Decides

variable {α β : Type} {panics panics' reads reads' : Prop}

variable {x : Except Fault α}

theorem Decides.congr (h : Decides panics reads x) (hPanics : panics ↔ panics')
    (hReads : reads ↔ reads') : Decides panics' reads' x :=
  ⟨h.panics.trans hPanics, h.reads.trans hReads⟩

theorem decides_ok (value : α) : Decides False True (.ok value : Except Fault α) := by
  refine ⟨iff_of_false ?_ id, iff_of_true ⟨value, rfl⟩ trivial⟩
  rintro ⟨⟩

theorem decides_panic : Decides True False (.error .panic : Except Fault α) := by
  refine ⟨iff_of_true rfl trivial, iff_of_false ?_ id⟩
  rintro ⟨value, h⟩
  cases h

theorem decides_error (message : String) :
    Decides False False (.error (.error message) : Except Fault α) := by
  refine ⟨iff_of_false ?_ id, iff_of_false ?_ id⟩
  · rintro ⟨⟩
  · rintro ⟨value, h⟩
    cases h

theorem decides_sliced (part : Option α) : Decides (part = none) (part ≠ none) (sliced part) := by
  cases part with
  | none => exact decides_panic.congr (by simp) (by simp)
  | some value => exact (decides_ok value).congr (by simp) (by simp)

variable {f : α → Except Fault β}

theorem Decides.bind {x : Except Fault α} (hx : Decides panics reads x)
    (hf : ∀ a, x = .ok a → Decides panics' reads' (f a)) :
    Decides (panics ∨ reads ∧ panics') (reads ∧ reads') (x >>= f) := by
  cases x with
  | ok a =>
    have hReads : reads := hx.reads.mp ⟨a, rfl⟩
    have hPanics : ¬ panics := by
      intro h
      cases hx.panics.mpr h
    exact (hf a rfl).congr (by simp [hReads, hPanics]) (by simp [hReads])
  | error e =>
    have hReads : ¬ reads := by
      intro h
      obtain ⟨a, ha⟩ := hx.reads.mpr h
      cases ha
    have hPanics : Panics (.error e : Except Fault β) ↔ Panics (.error e : Except Fault α) := by
      unfold Panics
      simp only [Except.error.injEq]
    refine ⟨?_, iff_of_false ?_ fun h => hReads h.1⟩
    · change Panics (.error e : Except Fault β) ↔ _
      rw [hPanics, hx.panics]
      simp [hReads]
    · rintro ⟨b, hb⟩
      cases hb

theorem Decides.eq_panic {fault : Fault} (h : Decides panics (¬ panics) x) (hx : x = .error fault) :
    x = .error .panic := by
  refine h.panics.mpr ?_
  by_contra hNot
  obtain ⟨value, hValue⟩ := h.reads.mpr hNot
  cases hx.symm.trans hValue

theorem Decides.andThen (hx : Decides panics reads x)
    (hf : ∀ a, x = .ok a → Decides False True (f a)) : Decides panics reads (x >>= f) :=
  (hx.bind hf).congr (by simp) (by simp)

theorem Decides.map (hx : Decides panics reads x) (f : α → β) : Decides panics reads (x.map f) := by
  have hBind : x.map f = x >>= fun a => .ok (f a) := by
    cases x <;> rfl
  rw [hBind]
  exact hx.andThen fun a _ => decides_ok (f a)

/-- A loop panics when some turn does and every turn before it goes on. -/
theorem decides_foldlM {f : β → α → Except Fault β} {panics reads : α → Prop}
    (h : ∀ b a, Decides (panics a) (reads a) (f b a)) (b : β) (l : List α) :
    Decides (∃ earlier a later, l = earlier ++ a :: later ∧ (∀ x ∈ earlier, reads x) ∧ panics a)
      (∀ a ∈ l, reads a) (l.foldlM f b) := by
  induction l generalizing b with
  | nil => exact (decides_ok b).congr (by simp) (by simp)
  | cons a l ih =>
    rw [List.foldlM_cons]
    refine ((h b a).bind fun b' _ => ih b').congr ?_ (by simp)
    constructor
    · rintro (ha | ⟨ha, earlier, x, later, rfl, hEarlier, hx⟩)
      · exact ⟨[], a, l, rfl, fun y hy => absurd hy List.not_mem_nil, ha⟩
      · refine ⟨a :: earlier, x, later, rfl, fun y hy => ?_, hx⟩
        obtain rfl | hy := List.mem_cons.mp hy
        · exact ha
        · exact hEarlier y hy
    · rintro ⟨earlier, x, later, hSplit, hEarlier, hx⟩
      cases earlier with
      | nil =>
        obtain ⟨rfl, rfl⟩ := List.cons.inj hSplit
        exact .inl hx
      | cons y earlier =>
        obtain ⟨rfl, rfl⟩ := List.cons.inj hSplit
        exact .inr ⟨hEarlier a List.mem_cons_self, earlier, x, later, rfl,
          fun z hz => hEarlier z (List.mem_cons_of_mem a hz), hx⟩

end Decides

theorem exists_first {α : Type} {p : α → Prop} {a : α} {l : List α} (hMem : a ∈ l) (ha : p a) :
    ∃ earlier first later, l = earlier ++ first :: later ∧ p first ∧ ∀ x ∈ earlier, ¬ p x := by
  induction l with
  | nil => cases hMem
  | cons b l ih =>
    by_cases hb : p b
    · exact ⟨[], b, l, rfl, hb, fun x hx => absurd hx List.not_mem_nil⟩
    · obtain rfl | hMem := List.mem_cons.mp hMem
      · exact absurd ha hb
      · obtain ⟨earlier, first, later, rfl, hFirst, hEarlier⟩ := ih hMem
        refine ⟨b :: earlier, first, later, rfl, hFirst, fun x hx => ?_⟩
        obtain rfl | hx := List.mem_cons.mp hx
        · exact hb
        · exact hEarlier x hx

theorem decides_all {α β : Type} {f : β → α → Except Fault β} {bad : α → Prop}
    (h : ∀ b a, Decides (bad a) (¬ bad a) (f b a)) (b : β) (l : List α) :
    Decides (∃ a ∈ l, bad a) (¬ ∃ a ∈ l, bad a) (l.foldlM f b) := by
  refine (decides_foldlM h b l).congr ⟨?_, ?_⟩ (by simp)
  · rintro ⟨earlier, a, later, rfl, -, hBad⟩
    exact ⟨a, by simp, hBad⟩
  · rintro ⟨a, hMem, hBad⟩
    obtain ⟨earlier, first, later, rfl, hFirst, hEarlier⟩ := exists_first hMem hBad
    exact ⟨earlier, first, later, rfl, hEarlier, hFirst⟩

/-! ## Inline comments -/

/-- The quotes that a text leaves open. -/
def openQuotes (inSingleQuote inDoubleQuote : Bool) : List Char → Bool × Bool
  | [] => (inSingleQuote, inDoubleQuote)
  | ch :: rest =>
    if ch = '\'' ∧ inDoubleQuote = false then openQuotes (!inSingleQuote) inDoubleQuote rest
    else if ch = '"' ∧ inSingleQuote = false then openQuotes inSingleQuote (!inDoubleQuote) rest
    else openQuotes inSingleQuote inDoubleQuote rest

variable {inSingleQuote inDoubleQuote : Bool}

/-- A comment begins at the end of a part that leaves no quote open. -/
theorem findCommentFrom_eq_some {before : Option Char} {i pos : Nat} {value : List Char}
    (h : findCommentFrom inSingleQuote inDoubleQuote before i value = some pos) :
    ∃ kept comment, value = kept ++ comment ∧ pos = i + byteLen kept ∧
      openQuotes inSingleQuote inDoubleQuote kept = (false, false) := by
  induction value generalizing inSingleQuote inDoubleQuote before i with
  | nil => cases h
  | cons ch rest ih =>
    unfold findCommentFrom at h
    split at h
    · next hSingle =>
      obtain ⟨kept, comment, rfl, rfl, hOpen⟩ := ih h
      refine ⟨ch :: kept, comment, rfl, by rw [byteLen_cons]; omega, ?_⟩
      rw [openQuotes, if_pos hSingle, hOpen]
    · next hSingle =>
      split at h
      · next hDouble =>
        obtain ⟨kept, comment, rfl, rfl, hOpen⟩ := ih h
        refine ⟨ch :: kept, comment, rfl, by rw [byteLen_cons]; omega, ?_⟩
        rw [openQuotes, if_neg hSingle, if_pos hDouble, hOpen]
      · next hDouble =>
        split at h
        · next hHash =>
          cases h
          exact ⟨[], ch :: rest, rfl, rfl, by rw [openQuotes, hHash.2.1, hHash.2.2.1]⟩
        · obtain ⟨kept, comment, rfl, rfl, hOpen⟩ := ih h
          refine ⟨ch :: kept, comment, rfl, by rw [byteLen_cons]; omega, ?_⟩
          rw [openQuotes, if_neg hSingle, if_neg hDouble, hOpen]

theorem openQuotes_append {space : List Char} (h : ∀ c ∈ space, Text.isWhitespace c)
    (rest : List Char) :
    openQuotes inSingleQuote inDoubleQuote (space ++ rest) =
      openQuotes inSingleQuote inDoubleQuote rest := by
  induction space with
  | nil => rfl
  | cons c space ih =>
    have hc := h c List.mem_cons_self
    have hSingle : c ≠ '\'' := by
      rintro rfl
      exact absurd hc (by decide)
    have hDouble : c ≠ '"' := by
      rintro rfl
      exact absurd hc (by decide)
    rw [List.cons_append, openQuotes, if_neg fun hEq => hSingle hEq.1,
      if_neg fun hEq => hDouble hEq.1, ih fun d hd => h d (List.mem_cons_of_mem c hd)]

theorem openQuotes_of_trim {kept : List Char} {quote : Char} (hTrim : Text.trim kept = [quote])
    (hQuote : quote = '"' ∨ quote = '\'') : openQuotes false false kept ≠ (false, false) := by
  obtain ⟨front, back, hKept, hFront, hBack⟩ := exists_trim kept
  have hBackOpen : ∀ single double, openQuotes single double back = (single, double) := by
    intro single double
    have hAppend : openQuotes single double (back ++ []) = openQuotes single double [] :=
      openQuotes_append hBack []
    rwa [List.append_nil] at hAppend
  rw [hKept, hTrim, List.append_assoc, openQuotes_append hFront, List.singleton_append]
  obtain rfl | rfl := hQuote
  · rw [openQuotes, if_neg (by simp), if_pos (by simp), hBackOpen]
    simp
  · rw [openQuotes, if_pos (by simp), hBackOpen]
    simp

/-! ## Quotes -/

/-- A value that is nothing but one quote. -/
def LoneQuote (value : List Char) : Prop := value = ['"'] ∨ value = ['\'']

/-- Taking the quotes off fails when they are the same one. -/
theorem slice_quoted {value : List Char} (h : isQuoted value = true) :
    (slice value 1 (byteLen value - 1) = none ↔ LoneQuote value) := by
  obtain ⟨quote, hQuote, hHead, hLast⟩ : ∃ quote : Char, (quote = '"' ∨ quote = '\'') ∧
      value.head? = some quote ∧ value.getLast? = some quote := by
    unfold isQuoted at h
    simp only [Bool.or_eq_true, Bool.and_eq_true, beq_iff_eq] at h
    obtain h | h := h
    · exact ⟨_, .inl rfl, h⟩
    · exact ⟨_, .inr rfl, h⟩
  have hNarrow : quote.utf8Size = 1 := by
    obtain rfl | rfl := hQuote <;> rfl
  obtain ⟨rest, rfl⟩ : ∃ rest, value = quote :: rest := by
    cases value with
    | nil => cases hHead
    | cons c rest =>
      cases hHead
      exact ⟨rest, rfl⟩
  have hFrom : sliceFrom (quote :: rest) 1 = some rest := by
    have hCut := cut_behind (a := []) hNarrow rest
    unfold sliceFrom
    rw [byteLen_nil, Nat.zero_add, List.nil_append] at hCut
    rw [hCut]
    rfl
  cases hRest : rest.reverse with
  | nil =>
    obtain rfl : rest = [] := by simpa using hRest
    unfold slice
    rw [byteLen_cons, hNarrow, byteLen_nil, if_pos (by omega)]
    refine iff_of_true rfl ?_
    obtain rfl | rfl := hQuote
    · exact .inl rfl
    · exact .inr rfl
  | cons last inner =>
    obtain rfl : rest = inner.reverse ++ [last] := by
      rw [← List.reverse_reverse rest, hRest, List.reverse_cons]
    obtain rfl : last = quote := by
      rw [← List.cons_append, List.getLast?_concat] at hLast
      exact Option.some.inj hLast
    unfold slice
    have hLength : byteLen (last :: (inner.reverse ++ [last])) - 1 - 1 =
        byteLen inner.reverse := by
      rw [byteLen_cons, byteLen_append, byteLen_cons, hNarrow, byteLen_nil]
      omega
    rw [if_neg (by rw [byteLen_cons, byteLen_append, byteLen_cons, hNarrow]; omega), hFrom,
      Option.bind_some, hLength, sliceTo, cut_append]
    refine iff_of_false (Option.some_ne_none _) ?_
    rintro (hLone | hLone) <;> simp at hLone

/-! ## Lines -/

/-- The text behind the first equals sign of the line is nothing but one quote. -/
def LoneQuoteLine (line : List Char) : Prop :=
  ∃ key value, line = key ++ '=' :: value ∧ '=' ∉ key ∧ LoneQuote (Text.trim value)

/-- Taking the comment off neither fails nor leaves a lone quote. -/
theorem exists_stripComment : ∃ left, stripComment value = .ok left ∧
    (LoneQuote left ↔ LoneQuote value) := by
  unfold stripComment
  cases hComment : findInlineComment value with
  | none => exact ⟨value, rfl, Iff.rfl⟩
  | some pos =>
    obtain ⟨kept, comment, rfl, hPos, hOpen⟩ := findCommentFrom_eq_some hComment
    rw [Nat.zero_add] at hPos
    have hSlice : sliceTo (kept ++ comment) pos = some kept := by
      rw [hPos, sliceTo, cut_append]
      rfl
    refine ⟨Text.trim kept, ?_, iff_of_false ?_ ?_⟩
    · dsimp only
      rw [sliced_eq_ok hSlice]
      rfl
    · rintro (hLone | hLone)
      · exact openQuotes_of_trim hLone (.inl rfl) hOpen
      · exact openQuotes_of_trim hLone (.inr rfl) hOpen
    · rintro (hLone | hLone)
      · rw [hLone] at hComment
        cases hComment
      · rw [hLone] at hComment
        cases hComment

theorem decides_stripQuotes :
    Decides (LoneQuote value) (¬ LoneQuote value) (stripQuotes value) := by
  unfold stripQuotes
  split
  · next hQuoted =>
    exact (decides_sliced _).congr (slice_quoted hQuoted) (not_congr (slice_quoted hQuoted))
  · next hQuoted =>
    have hLone : ¬ LoneQuote value := by
      rintro (rfl | rfl)
      · exact hQuoted rfl
      · exact hQuoted rfl
    exact (decides_ok value).congr (by simp [hLone]) (by simp [hLone])

/-- A line is read unless its value is a lone quote. -/
theorem decides_parseKeyValue :
    Decides (LoneQuoteLine line) (¬ LoneQuoteLine line) (parseKeyValue line) := by
  unfold parseKeyValue
  by_cases hEquals : '=' ∈ line
  · obtain ⟨key, value, rfl, hKey⟩ := List.eq_append_cons_of_mem hEquals
    have hTo : sliceTo (key ++ '=' :: value) (byteLen key) = some key := by
      rw [sliceTo, cut_append]
      rfl
    have hFrom : sliceFrom (key ++ '=' :: value) (byteLen key + 1) = some value := by
      rw [sliceFrom, cut_behind rfl]
      rfl
    obtain ⟨left, hLeft, hLone⟩ := exists_stripComment (Text.trim value)
    have hLine : LoneQuote left ↔ LoneQuoteLine (key ++ '=' :: value) := by
      rw [hLone]
      refine ⟨fun h => ⟨key, value, rfl, hKey, h⟩, ?_⟩
      rintro ⟨key', value', hSplit, hKey', hQuote⟩
      rwa [(append_cons_unique hKey hKey' hSplit).2]
    rw [findByte_append hKey]
    dsimp only
    rw [sliced_eq_ok hTo, sliced_eq_ok hFrom]
    dsimp only [bind, Except.bind]
    rw [hLeft]
    rw [← hLine]
    refine (decides_stripQuotes left).andThen fun inner _ => ?_
    split
    · exact decides_ok _
    · exact decides_ok _
  · rw [findByte_eq_none hEquals]
    have hLine : ¬ LoneQuoteLine line := by
      rintro ⟨key, value, rfl, -, -⟩
      exact hEquals (List.mem_append_right _ List.mem_cons_self)
    exact (decides_ok none).congr (by simp [hLine]) (by simp [hLine])

/-- The line is not a comment, and its value is a lone quote. -/
def BadLine (line : List Char) : Prop :=
  (Text.trim line).head? ≠ some '#' ∧ LoneQuoteLine (Text.trim line)

theorem decides_parseLine (line : List Char) :
    Decides (BadLine line) (¬ BadLine line) (parseLine result line) := by
  unfold parseLine BadLine
  dsimp only
  split
  · next hSkipped =>
    have hGood : ¬ ((Text.trim line).head? ≠ some '#' ∧ LoneQuoteLine (Text.trim line)) := by
      rintro ⟨hComment, key, value, hLine, -, -⟩
      obtain hEmpty | hHash := hSkipped
      · rw [hLine] at hEmpty
        simp at hEmpty
      · exact hComment hHash
    exact (decides_ok result).congr (by simp only [hGood]) (by simp only [hGood, not_false_eq_true])
  · next hRead =>
    rw [not_or] at hRead
    simp only [hRead.2, ne_eq, not_false_eq_true, true_and]
    refine (decides_parseKeyValue (Text.trim line)).andThen fun entry _ => ?_
    cases entry with
    | none => exact decides_ok result
    | some entry => exact decides_ok _

theorem parseConfFile_panics_iff (content : List Char) :
    Panics (parseConfFile content) ↔ ∃ line ∈ lines content, BadLine line :=
  (decides_all decides_parseLine ∅ (lines content)).panics

end KongRust.Config
