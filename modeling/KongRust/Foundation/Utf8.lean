import KongRust.Foundation.Transducer

/-!
# UTF-8, byte by byte

`str::from_utf8`, `String::from_utf8_lossy` and the bytes of a text, over a machine that keeps
the bytes of the character that has begun. Bytes that cannot go on to a character are invalid
as one sequence, and the byte that showed it is read anew.
-/

namespace KongRust.Utf8

open KongRust.Transducer

/-- A character that has begun: its bytes so far, how many come after the next one, the range of
the next one, and the bits of the character so far. -/
structure Pending where
  bytes : List UInt8
  more : Nat
  low : Nat
  high : Nat
  code : Nat
  range : 0x80 ≤ low ∧ high ≤ 0xBF
  deriving DecidableEq

/-- What a byte makes of the character that has begun. -/
inductive Reading where
  | char (c : Char)
  | pending (p : Pending)
  | invalid

/-- A byte that begins a character. -/
def lead (b : UInt8) : Reading :=
  let n := b.toNat
  if n ≤ 0x7F then .char (Char.ofNat n)
  else if 0xC2 ≤ n ∧ n ≤ 0xDF then .pending ⟨[b], 0, 0x80, 0xBF, n % 32, by decide⟩
  else if n = 0xE0 then .pending ⟨[b], 1, 0xA0, 0xBF, 0, by decide⟩
  else if n = 0xED then .pending ⟨[b], 1, 0x80, 0x9F, 13, by decide⟩
  else if 0xE1 ≤ n ∧ n ≤ 0xEF then .pending ⟨[b], 1, 0x80, 0xBF, n % 16, by decide⟩
  else if n = 0xF0 then .pending ⟨[b], 2, 0x90, 0xBF, 0, by decide⟩
  else if n = 0xF4 then .pending ⟨[b], 2, 0x80, 0x8F, 4, by decide⟩
  else if 0xF1 ≤ n ∧ n ≤ 0xF3 then .pending ⟨[b], 2, 0x80, 0xBF, n % 8, by decide⟩
  else .invalid

/-- A byte after some of a character. -/
def Pending.next (p : Pending) (b : UInt8) : Reading :=
  if p.low ≤ b.toNat ∧ b.toNat ≤ p.high then
    match p.more with
    | 0 => .char (Char.ofNat (p.code * 64 + b.toNat % 64))
    | more + 1 =>
      .pending ⟨p.bytes ++ [b], more, 0x80, 0xBF, p.code * 64 + b.toNat % 64, by decide⟩
  else .invalid

/-- Outputs are the characters, and none for an invalid sequence. -/
def begin (b : UInt8) : Option Pending × List (Option Char) :=
  match lead b with
  | .char c => (none, [some c])
  | .pending p => (some p, [])
  | .invalid => (none, [none])

def step : Option Pending → UInt8 → Option Pending × List (Option Char)
  | none, b => begin b
  | some p, b =>
    match p.next b with
    | .char c => (none, [some c])
    | .pending p => (some p, [])
    | .invalid => ((begin b).1, none :: (begin b).2)

/-! ## Reading a whole -/

/-- The result of `str::from_utf8`: the text, or the text up to an error, which is a sequence
that the end has cut off, with its bytes, or an invalid one. -/
inductive Utf8Result where
  | ok (text : List Char)
  | incomplete (valid : List Char) (rest : List UInt8)
  | invalid (valid : List Char)

def fromUtf8 (bytes : List UInt8) : Utf8Result :=
  let (pending, read) := run step none bytes
  let valid := (read.takeWhile Option.isSome).filterMap id
  if read.all Option.isSome then
    match pending with
    | none => .ok valid
    | some p => .incomplete valid p.bytes
  else .invalid valid

/-- `String::from_utf8_lossy`. -/
def lossy (bytes : List UInt8) : List Char :=
  let (pending, read) := run step none bytes
  read.map (fun c => c.getD '\ufffd') ++ pending.toList.map fun _ => '\ufffd'

/-- The bytes of a text. -/
def encode (text : List Char) : List UInt8 := text.flatMap String.utf8EncodeChar

theorem all_map_some (text : List Char) : (text.map some).all Option.isSome = true := by
  simp

theorem eq_map_some {read : List (Option Char)} (h : read.all Option.isSome = true) :
    read = (read.filterMap id).map some := by
  induction read with
  | nil => rfl
  | cons c read ih =>
    obtain ⟨hHead, hTail⟩ := Bool.and_eq_true_iff.mp h
    obtain ⟨c, rfl⟩ := Option.isSome_iff_exists.mp hHead
    exact congrArg (some c :: ·) (ih hTail)

theorem takeWhile_map_some (text : List Char) :
    ((text.map some).takeWhile Option.isSome).filterMap id = text := by
  induction text with
  | nil => rfl
  | cons c text ih => exact congrArg (c :: ·) ih

variable {bytes : List UInt8}

theorem fromUtf8_ok_iff {text : List Char} :
    fromUtf8 bytes = .ok text ↔ run step none bytes = (none, text.map some) := by
  unfold fromUtf8
  cases hRun : run step none bytes with
  | mk pending read =>
    dsimp only
    constructor
    · intro h
      split at h
      · rename_i hAll
        cases pending with
        | none =>
          rw [eq_map_some hAll, takeWhile_map_some] at h
          rw [eq_map_some hAll, Utf8Result.ok.inj h]
        | some p => cases h
      · cases h
    · intro h
      obtain ⟨rfl, rfl⟩ := Prod.mk.inj h
      rw [if_pos (all_map_some text), takeWhile_map_some]

variable {text : List Char} {b : UInt8} {p : Pending}

theorem lossy_of_ok (h : fromUtf8 bytes = .ok text) : lossy bytes = text := by
  have hText : (text.map some).map (fun c => c.getD '\ufffd') = text := by
    rw [List.map_map]
    exact List.map_id text
  unfold lossy
  rw [fromUtf8_ok_iff.mp h]
  dsimp only
  rw [hText]
  exact List.append_nil text

/-! ## Bytes in chunks -/

/-- The bytes of a character that has begun lead to where it is. -/
def Reached : Option Pending → Prop
  | none => True
  | some p => run step none p.bytes = (some p, [])

/-- The bytes that are kept for the next chunk. -/
def kept (pending : Option Pending) : List UInt8 := (pending.map Pending.bytes).getD []

variable {pending : Option Pending}

theorem run_kept (h : Reached pending) (bytes : List UInt8) :
    run step none (kept pending ++ bytes) = run step pending bytes := by
  cases pending with
  | none => rfl
  | some p =>
    have hBytes : run step none p.bytes = (some p, []) := h
    have hKept : kept (some p) = p.bytes := rfl
    rw [hKept, run_append, hBytes]
    rfl

theorem reached_begin (b : UInt8) : Reached (begin b).1 := by
  cases hLead : lead b with
  | char c | invalid => simp [begin, hLead, Reached]
  | pending p =>
    have hBytes : p.bytes = [b] := by
      unfold lead at hLead
      dsimp only at hLead
      repeat' split at hLead
      all_goals first | cases hLead; rfl | cases hLead
    have hBegin : begin b = (some p, []) := by simp [begin, hLead]
    rw [hBegin]
    change run step none p.bytes = _
    rw [hBytes]
    simp [run, step, hBegin]

theorem reached_step (h : Reached pending) (b : UInt8) : Reached (step pending b).1 := by
  cases pending with
  | none => exact reached_begin b
  | some p =>
    cases hNext : p.next b with
    | char c => simp [step, hNext, Reached]
    | invalid =>
      simp only [step, hNext]
      exact reached_begin b
    | pending p' =>
      have hBytes : p'.bytes = p.bytes ++ [b] := by
        unfold Pending.next at hNext
        split at hNext
        · split at hNext
          · cases hNext
          · cases hNext
            rfl
        · cases hNext
      have hStep : step (some p) b = (some p', []) := by simp [step, hNext]
      have hRun : run step none p.bytes = (some p, []) := h
      rw [hStep]
      change run step none p'.bytes = _
      rw [hBytes, run_append, hRun]
      simp [run, hStep]

theorem reached_run (h : Reached pending) (bytes : List UInt8) :
    Reached (run step pending bytes).1 := by
  induction bytes generalizing pending with
  | nil => exact h
  | cons b bytes ih => exact ih (reached_step h b)

theorem fromUtf8_kept (h : Reached pending) (hText : (run step pending bytes).2 = text.map some) :
    fromUtf8 (kept pending ++ bytes) =
      match (run step pending bytes).1 with
      | none => .ok text
      | some p => .incomplete text p.bytes := by
  unfold fromUtf8
  rw [run_kept h]
  dsimp only
  rw [hText, if_pos (all_map_some text), takeWhile_map_some]

/-! ## Chunks that are read one by one -/

theorem lossy_cons_invalid (h : lead b = .invalid) (bytes : List UInt8) :
    lossy (b :: bytes) = '\ufffd' :: lossy bytes := by
  have hStep : step none b = (none, [none]) := by simp [step, begin, h]
  unfold lossy
  rw [run, hStep]
  rfl

theorem lossy_length (bytes : List UInt8) : (lossy bytes).length =
    (run step none bytes).2.length + (run step none bytes).1.toList.length := by
  simp [lossy]

theorem lead_of_range (h : p.low ≤ b.toNat ∧ b.toNat ≤ p.high) :
    lead b = .invalid := by
  obtain ⟨hLow, hHigh⟩ := p.range
  have hRange : 0x80 ≤ b.toNat ∧ b.toNat ≤ 0xBF := by omega
  unfold lead
  dsimp only
  rw [if_neg (by omega), if_neg (by omega), if_neg (by omega), if_neg (by omega),
    if_neg (by omega), if_neg (by omega), if_neg (by omega), if_neg (by omega)]

theorem range_of_next (h : p.next b ≠ .invalid) :
    p.low ≤ b.toNat ∧ b.toNat ≤ p.high := by
  by_contra hNot
  exact h (if_neg hNot)

/-- Bytes in the middle of a text, read by themselves, give at least as many characters. -/
theorem run_length_le_lossy {text : List Char} (h : (run step pending bytes).2 = text.map some) :
    text.length ≤ (lossy bytes).length := by
  induction bytes generalizing pending text with
  | nil =>
    rw [List.map_eq_nil_iff.mp h.symm]
    exact Nat.zero_le _
  | cons b bytes ih =>
    cases pending with
    | none =>
      have hLength := congrArg List.length h
      rw [List.length_map] at hLength
      rw [lossy_length, ← hLength]
      exact Nat.le_add_right _ _
    | some p =>
      cases hNext : p.next b with
      | invalid =>
        have hStep : (step (some p) b).2 = none :: (begin b).2 := by simp [step, hNext]
        rw [run, hStep] at h
        cases text <;> cases h
      | char c =>
        have hStep : step (some p) b = (none, [some c]) := by simp [step, hNext]
        have hRange := range_of_next (p := p) (b := b) (by rw [hNext]; nofun)
        rw [lossy_cons_invalid (lead_of_range hRange)]
        rw [run, hStep] at h
        cases text with
        | nil => cases h
        | cons d text =>
          obtain ⟨-, hRest⟩ := List.cons.inj h
          exact Nat.succ_le_succ (ih hRest)
      | pending p' =>
        have hStep : step (some p) b = (some p', []) := by simp [step, hNext]
        have hRange := range_of_next (p := p) (b := b) (by rw [hNext]; nofun)
        rw [lossy_cons_invalid (lead_of_range hRange)]
        rw [run, hStep] at h
        exact Nat.le_succ_of_le (ih h)

/-- Bytes that are a text by themselves. -/
def Valid (bytes : List UInt8) : Prop := ∃ text, fromUtf8 bytes = .ok text

variable {chunks : List (List UInt8)}

theorem lossy_chunks_length {text : List Char}
    (h : (run step pending chunks.flatten).2 = text.map some) :
    text.length ≤ (chunks.flatMap lossy).length ∧
      (pending = none → (run step pending chunks.flatten).1 = none →
        (chunks.flatMap lossy).length = text.length → ∀ chunk ∈ chunks, Valid chunk) := by
  induction chunks generalizing pending text with
  | nil =>
    rw [List.map_eq_nil_iff.mp h.symm]
    exact ⟨Nat.zero_le _, fun _ _ _ => nofun⟩
  | cons chunk chunks ih =>
    rw [List.flatten_cons, run_append] at h ⊢
    obtain ⟨first, later, rfl, hFirst, hLater⟩ := List.map_eq_append_iff.mp h.symm
    obtain ⟨hLe, hValid⟩ := ih hLater.symm
    have hChunk := run_length_le_lossy hFirst.symm
    rw [List.flatMap_cons, List.length_append, List.length_append]
    refine ⟨Nat.add_le_add hChunk hLe, ?_⟩
    rintro rfl hEnd hLength
    have hFirstLength := congrArg List.length hFirst
    rw [List.length_map] at hFirstLength
    have hNone : (run step none chunk).1 = none := by
      have hLossy := lossy_length chunk
      cases hPending : (run step none chunk).1 with
      | none => rfl
      | some p =>
        rw [hPending, ← hFirstLength, Option.toList_some, List.length_singleton] at hLossy
        omega
    refine List.forall_mem_cons.mpr ⟨⟨first, fromUtf8_ok_iff.mpr ?_⟩, hValid hNone hEnd ?_⟩
    · exact Prod.ext hNone hFirst.symm
    · have hAll := lossy_length chunk
      rw [hNone] at hAll
      simp only [Option.toList_none, List.length_nil] at hAll
      omega

theorem lossy_chunks_iff (h : fromUtf8 chunks.flatten = .ok text) :
    chunks.flatMap lossy = text ↔ ∀ chunk ∈ chunks, Valid chunk := by
  have hRun := fromUtf8_ok_iff.mp h
  constructor
  · intro hEq
    obtain ⟨-, hValid⟩ := lossy_chunks_length (congrArg Prod.snd hRun)
    exact hValid rfl (congrArg Prod.fst hRun) (congrArg List.length hEq)
  · intro hValid
    have hAll : run step none chunks.flatten = (none, (chunks.flatMap lossy).map some) := by
      clear h hRun
      induction chunks with
      | nil => rfl
      | cons chunk chunks ih =>
        obtain ⟨hHead, hTail⟩ := List.forall_mem_cons.mp hValid
        obtain ⟨first, hFirst⟩ := hHead
        rw [List.flatten_cons, run_append, fromUtf8_ok_iff.mp hFirst, ih hTail,
          List.flatMap_cons, lossy_of_ok hFirst, List.map_append]
    rw [hAll] at hRun
    exact (List.map_inj_right fun _ _ => Option.some.inj).mp (congrArg Prod.snd hRun)

end KongRust.Utf8
