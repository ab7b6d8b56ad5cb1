import Mathlib

/-!
# Spillable buffers

A body is buffered in memory up to a threshold and then in a temporary file
(`kong-proxy/src/spillable_buffer.rs`). A file that cannot be created or filled leaves the body in
memory, with the new bytes behind it. Once the body is in a file, bytes that cannot be written are
logged and lost.
-/

namespace KongRust.Proxy

def DEFAULT_THRESHOLD : Nat := 10 * 1024 * 1024

inductive BufferState where
  | memory (buf : List UInt8)
  | file (contents : List UInt8) (len : Nat)
  deriving DecidableEq

structure SpillableBuffer where
  state : BufferState
  threshold : Nat
  deriving DecidableEq

/-- What the disk does in one call: whether a file is created, and how many bytes of each of the two
writes it takes. A write that is longer than what the disk takes fails behind these bytes. -/
structure Disk where
  creates : Bool
  takesBuf : Nat
  takesData : Nat
  deriving DecidableEq

namespace SpillableBuffer

def withThreshold (threshold : Nat) : SpillableBuffer := ⟨.memory [], threshold⟩

def new : SpillableBuffer := .withThreshold DEFAULT_THRESHOLD

def fromBytes (data : List UInt8) : SpillableBuffer := ⟨.memory data, DEFAULT_THRESHOLD⟩

def extend (buffer : SpillableBuffer) (data : List UInt8) (disk : Disk) : SpillableBuffer :=
  match buffer.state with
  | .memory buf =>
    if buffer.threshold < buf.length + data.length then
      if disk.creates then
        if disk.takesBuf < buf.length then { buffer with state := .memory (buf ++ data) }
        else if disk.takesData < data.length then { buffer with state := .memory (buf ++ data) }
        else { buffer with state := .file (buf ++ data) (buf.length + data.length) }
      else { buffer with state := .memory (buf ++ data) }
    else { buffer with state := .memory (buf ++ data) }
  | .file contents len =>
    { buffer with
      state := .file (contents ++ data.take disk.takesData) (len + data.length) }

/-- What is read back: all of a memory buffer, of a file as much as is delivered before the read
fails, and nothing when the seek fails. -/
def finish (buffer : SpillableBuffer) (delivered : Nat) : List UInt8 :=
  match buffer.state with
  | .memory buf => buf
  | .file contents _ => contents.take delivered

def contents (buffer : SpillableBuffer) : List UInt8 :=
  match buffer.state with
  | .memory buf => buf
  | .file contents _ => contents

def spilled (buffer : SpillableBuffer) : Bool :=
  match buffer.state with
  | .memory _ => false
  | .file _ _ => true

/-- The calls of `extend`, each with what the disk did. -/
def run (buffer : SpillableBuffer) (calls : List (List UInt8 × Disk)) : SpillableBuffer :=
  calls.foldl (fun buffer call => buffer.extend call.1 call.2) buffer

def chunks (calls : List (List UInt8 × Disk)) : List UInt8 := calls.flatMap Prod.fst

def Written (buffer : SpillableBuffer) : List (List UInt8 × Disk) → Prop
  | [] => True
  | (data, disk) :: calls =>
    (buffer.spilled = true → data.length ≤ disk.takesData) ∧
      (buffer.extend data disk).Written calls

def ReadBack (buffer : SpillableBuffer) (delivered : Nat) : Prop :=
  buffer.spilled = true → buffer.contents.length ≤ delivered

section Calls

variable (buffer : SpillableBuffer) (data : List UInt8) (disk : Disk)

theorem contents_extend : (buffer.extend data disk).contents =
    buffer.contents ++ if buffer.spilled = true then data.take disk.takesData else data := by
  obtain ⟨state, threshold⟩ := buffer
  cases state with
  | memory buf =>
    simp only [extend, spilled, Bool.false_eq_true, if_false]
    split
    · split
      · split
        · rfl
        · split <;> rfl
      · rfl
    · rfl
  | file bytes len => simp [extend, contents, spilled]

theorem finish_eq (delivered : Nat) : buffer.finish delivered =
    if buffer.spilled = true then buffer.contents.take delivered else buffer.contents := by
  obtain ⟨state, threshold⟩ := buffer
  cases state with
  | memory buf | file bytes len => rfl

theorem length_extend : (buffer.extend data disk).contents.length ≤
    buffer.contents.length + data.length := by
  rw [contents_extend, List.length_append]
  split
  · rw [List.length_take]
    omega
  · exact Nat.le_refl _

variable {buffer data disk}

theorem contents_extend_of_written (h : buffer.spilled = true → data.length ≤ disk.takesData) :
    (buffer.extend data disk).contents = buffer.contents ++ data := by
  rw [contents_extend]
  split
  · next hSpilled => rw [List.take_of_length_le (h hSpilled)]
  · rfl

theorem length_extend_lt (hSpilled : buffer.spilled = true) (h : disk.takesData < data.length) :
    (buffer.extend data disk).contents.length < buffer.contents.length + data.length := by
  rw [contents_extend, if_pos hSpilled, List.length_append, List.length_take]
  omega

end Calls

/-! ## Runs -/

theorem length_run (buffer : SpillableBuffer) (calls : List (List UInt8 × Disk)) :
    (buffer.run calls).contents.length ≤ buffer.contents.length + (chunks calls).length := by
  induction calls generalizing buffer with
  | nil => simp [run, chunks]
  | cons call calls ih =>
    have hStep := length_extend buffer call.1 call.2
    have hRest := ih (buffer.extend call.1 call.2)
    have hChunks : (chunks (call :: calls)).length = call.1.length + (chunks calls).length := by
      rw [chunks, List.flatMap_cons, List.length_append]
      rfl
    change ((buffer.extend call.1 call.2).run calls).contents.length ≤ _
    omega

variable {calls : List (List UInt8 × Disk)}

theorem Written.contents_run {buffer : SpillableBuffer} (h : buffer.Written calls) :
    (buffer.run calls).contents = buffer.contents ++ chunks calls := by
  induction calls generalizing buffer with
  | nil => simp [run, chunks]
  | cons call calls ih =>
    obtain ⟨hCall, hRest⟩ := h
    change ((buffer.extend call.1 call.2).run calls).contents = _
    rw [ih hRest, contents_extend_of_written hCall, List.append_assoc]
    rfl

theorem length_run_lt {buffer : SpillableBuffer} (h : ¬ buffer.Written calls) :
    (buffer.run calls).contents.length < buffer.contents.length + (chunks calls).length := by
  induction calls generalizing buffer with
  | nil => exact absurd trivial h
  | cons call calls ih =>
    have hChunks : (chunks (call :: calls)).length = call.1.length + (chunks calls).length := by
      rw [chunks, List.flatMap_cons, List.length_append]
      rfl
    change ((buffer.extend call.1 call.2).run calls).contents.length < _
    by_cases hCall : buffer.spilled = true → call.1.length ≤ call.2.takesData
    · have hRest : ¬ (buffer.extend call.1 call.2).Written calls := fun hRest => h ⟨hCall, hRest⟩
      have hTail := ih hRest
      rw [contents_extend_of_written hCall, List.length_append] at hTail
      omega
    · have hSpilled : buffer.spilled = true := by
        by_contra hNot
        exact hCall fun hYes => absurd hYes hNot
      have hFails : call.2.takesData < call.1.length := by
        by_contra hNot
        exact hCall fun _ => Nat.le_of_not_lt hNot
      have hStep := length_extend_lt hSpilled hFails
      have hTail := length_run (buffer.extend call.1 call.2) calls
      omega

theorem finish_run_iff (buffer : SpillableBuffer) (calls : List (List UInt8 × Disk))
    (delivered : Nat) :
    (buffer.run calls).finish delivered = buffer.contents ++ chunks calls ↔
      buffer.Written calls ∧ (buffer.run calls).ReadBack delivered := by
  have hLength := length_run buffer calls
  rw [finish_eq]
  constructor
  · intro hAll
    have hAllLength := congrArg List.length hAll
    rw [List.length_append] at hAllLength
    have hWritten : buffer.Written calls := by
      by_contra hNot
      have hLess := length_run_lt hNot
      split at hAllLength
      · rw [List.length_take] at hAllLength
        omega
      · omega
    refine ⟨hWritten, ?_⟩
    intro hSpilled
    rw [if_pos hSpilled, List.length_take] at hAllLength
    rw [hWritten.contents_run, List.length_append] at hAllLength ⊢
    omega
  · rintro ⟨hWritten, hRead⟩
    rw [← hWritten.contents_run]
    split
    · next hSpilled => exact List.take_of_length_le (hRead hSpilled)
    · rfl

/-- A new buffer gives back the chunks, whatever the threshold, just if no write failed while they
were in a file and the file is read back. -/
theorem finish_withThreshold_iff (threshold : Nat) (calls : List (List UInt8 × Disk))
    (delivered : Nat) :
    ((withThreshold threshold).run calls).finish delivered = chunks calls ↔
      (withThreshold threshold).Written calls ∧
        ((withThreshold threshold).run calls).ReadBack delivered :=
  finish_run_iff (withThreshold threshold) calls delivered

def sampleCalls : List (List UInt8 × Disk) :=
  [([49, 50, 51, 52, 53, 54], ⟨true, 100, 100⟩), ([55, 56, 57], ⟨true, 100, 0⟩)]

theorem finish_failed_append :
    ((withThreshold 5).run sampleCalls).finish 100 ≠ chunks sampleCalls := by decide

/-- A failure to create the file or to fill it is made up for. -/
example : ((withThreshold 5).run [([49, 50, 51, 52, 53, 54], ⟨true, 2, 0⟩), ([55], ⟨false, 0, 0⟩),
    ([56], ⟨true, 100, 100⟩)]).finish 100 = [49, 50, 51, 52, 53, 54, 55, 56] := by decide

end SpillableBuffer

end KongRust.Proxy
