import KongRust.Foundation.Table

/-!
# Bounded broadcast

A channel that hands every message to each receiver subscribed when it is sent. A receiver keeps
the last `capacity` messages; a full one drops its oldest, and its next receive reports how many
it missed before it goes on with what it kept.
-/

namespace KongRust.Broadcast

structure Receiver (α : Type*) where
  missed : Nat
  pending : List α
  deriving DecidableEq

/-- The answer to a receive. -/
inductive Received (α : Type*) where
  | empty
  | message (message : α)
  | lagged (missed : Nat)

structure Channel (κ α : Type*) where
  capacity : Nat
  receivers : AList fun _ : κ => Receiver α

section Receivers

variable {α : Type*}

def Receiver.deliver (capacity : Nat) (message : α) (receiver : Receiver α) : Receiver α :=
  if receiver.pending.length < capacity then
    { receiver with pending := receiver.pending ++ [message] }
  else ⟨receiver.missed + 1, receiver.pending.tail ++ [message]⟩

def Receiver.recv (receiver : Receiver α) : Received α × Receiver α :=
  if receiver.missed = 0 then
    match receiver.pending with
    | [] => (.empty, receiver)
    | message :: rest => (.message message, ⟨0, rest⟩)
  else (.lagged receiver.missed, ⟨0, receiver.pending⟩)

theorem Receiver.getLast?_deliver (capacity : Nat) (message : α) (receiver : Receiver α) :
    (receiver.deliver capacity message).pending.getLast? = some message := by
  unfold Receiver.deliver
  split <;> simp

theorem Receiver.recv_message {receiver rest : Receiver α} {message : α}
    (h : receiver.recv = (.message message, rest)) :
    receiver.pending = message :: rest.pending ∧ receiver.missed = 0 ∧ rest.missed = 0 := by
  unfold Receiver.recv at h
  split at h
  case isFalse => simp at h
  case isTrue hMissed =>
    cases hPending : receiver.pending with
    | nil => simp [hPending] at h
    | cons first others =>
      rw [hPending] at h
      simp only [Prod.mk.injEq, Received.message.injEq] at h
      obtain ⟨rfl, rfl⟩ := h
      exact ⟨rfl, hMissed, rfl⟩

end Receivers

section Channels

variable {κ α : Type*} [DecidableEq κ]

def Channel.new (capacity : Nat) : Channel κ α := ⟨capacity, ∅⟩

variable (channel : Channel κ α)

def Channel.subscribe (channel : Channel κ α) (k : κ) : Channel κ α :=
  { channel with receivers := channel.receivers.insert k ⟨0, []⟩ }

/-- The receiver is dropped. -/
def Channel.unsubscribe (channel : Channel κ α) (k : κ) : Channel κ α :=
  { channel with receivers := channel.receivers.erase k }

/-- A message that nobody is subscribed to is gone. -/
def Channel.send (channel : Channel κ α) (message : α) : Channel κ α :=
  { channel with receivers :=
      Table.update (fun _ => true) (Receiver.deliver channel.capacity message) channel.receivers }

/-- Receive as `k`; none where `k` is not subscribed. -/
def Channel.recv (channel : Channel κ α) (k : κ) : Option (Received α × Channel κ α) :=
  (channel.receivers.lookup k).map fun receiver =>
    (receiver.recv.1, { channel with receivers := channel.receivers.insert k receiver.recv.2 })

@[simp] theorem lookup_subscribe (k : κ) :
    (channel.subscribe k).receivers.lookup k = some ⟨0, []⟩ :=
  AList.lookup_insert _

theorem lookup_subscribe_ne {k k' : κ} (h : k' ≠ k) :
    (channel.subscribe k).receivers.lookup k' = channel.receivers.lookup k' :=
  AList.lookup_insert_ne h

theorem lookup_unsubscribe_ne {k k' : κ} (h : k' ≠ k) :
    (channel.unsubscribe k).receivers.lookup k' = channel.receivers.lookup k' :=
  AList.lookup_erase_ne h

theorem lookup_send (message : α) (k : κ) :
    (channel.send message).receivers.lookup k =
      (channel.receivers.lookup k).map (Receiver.deliver channel.capacity message) := by
  simp [Channel.send, Table.lookup_update]

theorem recv_cases {channel channel' : Channel κ α} {k : κ} {answer : Received α}
    (h : channel.recv k = some (answer, channel')) :
    ∃ receiver rest, channel.receivers.lookup k = some receiver ∧
      receiver.recv = (answer, rest) ∧ channel'.receivers.lookup k = some rest ∧
      channel'.capacity = channel.capacity ∧
      ∀ k' ≠ k, channel'.receivers.lookup k' = channel.receivers.lookup k' := by
  obtain ⟨receiver, hLookup, hEq⟩ := Option.map_eq_some_iff.mp h
  cases hEq
  exact ⟨receiver, _, hLookup, rfl, AList.lookup_insert _, rfl,
    fun k' hNe => AList.lookup_insert_ne hNe⟩

end Channels

end KongRust.Broadcast
