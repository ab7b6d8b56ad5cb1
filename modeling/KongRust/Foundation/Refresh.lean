import Mathlib.Data.List.Perm.Basic
import Mathlib.Logic.Basic

/-!
# A mirror kept by refresh signals

Programs read and write a store of tables and send signals. A refresher collects the signals that
arrive in a while, reads a page of each table that they stand for and loads the pages into a
mirror. A table of the mirror is up to date once everything is quiet if every write that changed
the table was made while a signal for it was pending or before its program sends one, and if its
pages are complete.
-/

namespace KongRust.Refresh

/-- What a program still does; a read or a write goes on with its answer. -/
inductive Program (κ V C A S : Type) where
  | finished
  | send (signal : S) (next : Program κ V C A S)
  | read (next : Option (κ → V) → Program κ V C A S)
  | write (call : C) (next : A → Program κ V C A S)

/-- The store's calls, the tables that a signal stands for, and the mirror. -/
structure Setting (κ V P C A S R : Type) where
  /-- The answer to a call and the tables after it. -/
  run : C → (κ → V) → A × (κ → V)
  /-- Whether the answer says that the call failed. -/
  fails : C → A → Bool
  page : V → V
  tables : S → List κ
  load : S → List V → P → P
  /-- The mirror has this content of a table. -/
  Shows : P → κ → V → Prop
  handler : R → Program κ V C A S
  nodup : ∀ signal, (tables signal).Nodup
  load_shows : ∀ signal (pages : List (κ × V)) mirror k v, pages.map Prod.fst = tables signal →
    (k, v) ∈ pages → Shows (load signal (pages.map Prod.snd) mirror) k v
  load_other : ∀ signal values mirror k v, k ∉ tables signal → Shows mirror k v →
    Shows (load signal values mirror) k v

/-- The refresher waits for a signal, collects more of them, and then reads and loads the tables of
one after the other; `pages` is absent once a page could not be read. -/
inductive Refresher (κ V S : Type) where
  | waiting
  | collecting (pending : List S)
  | refreshing (todo : List S)
  | reading (signal : S) (rest : List κ) (pages : Option (List (κ × V))) (todo : List S)

structure System (κ V P C A S R : Type) where
  store : κ → V
  running : List (R × Program κ V C A S)
  channel : List S
  refresher : Refresher κ V S
  mirror : P
  /-- Whether a call or a read has failed so far. -/
  failed : Bool

inductive Act (A S R : Type) where
  | arrive (request : R)
  /-- The next step of a running program; a call that is refused has no effect. -/
  | advance (i : Nat) (refusal : Option A)
  | receive
  | deadline (order : List S)
  | refresh (failing : Bool)

variable {κ V P C A S R : Type}

/-! ## Steps -/

/-- What one step of a program does. -/
structure Turn (κ V C A S : Type) where
  store : κ → V
  sent : List S
  failed : Bool
  next : Program κ V C A S

section Steps

variable (setting : Setting κ V P C A S R)

def Program.turn (store : κ → V) (refusal : Option A) :
    Program κ V C A S → Option (Turn κ V C A S)
  | .finished => none
  | .send signal next => some ⟨store, [signal], false, next⟩
  | .read next =>
    match refusal with
    | none => some ⟨store, [], false, next (some store)⟩
    | some _ => some ⟨store, [], true, next none⟩
  | .write call next =>
    match refusal with
    | none =>
      let (answer, store') := setting.run call store
      some ⟨store', [], setting.fails call answer, next answer⟩
    | some answer => some ⟨store, [], true, next answer⟩

def System.advance (sys : System κ V P C A S R) (i : Nat) (refusal : Option A) :
    Option (System κ V P C A S R) :=
  match sys.running[i]? with
  | none => none
  | some (request, program) =>
    (program.turn setting sys.store refusal).map fun turn =>
      { sys with
        store := turn.store
        running := sys.running.set i (request, turn.next)
        channel := sys.channel ++ turn.sent
        failed := sys.failed || turn.failed }

/-- One step of the refresher after the deadline: it starts on a signal, reads the next page, or
loads what it has read. -/
def System.refresh [DecidableEq S] (sys : System κ V P C A S R) (failing : Bool) :
    Option (System κ V P C A S R) :=
  match sys.refresher with
  | .refreshing [] => some { sys with refresher := .waiting }
  | .refreshing (signal :: todo) =>
    some { sys with refresher := .reading signal (setting.tables signal) (some []) todo }
  | .reading signal (k :: rest) pages todo =>
    let pages' := if failing then none else pages.map (· ++ [(k, setting.page (sys.store k))])
    some { sys with
      refresher := .reading signal rest pages' todo
      failed := sys.failed || failing }
  | .reading signal [] pages todo =>
    let mirror :=
      match pages with
      | some read => setting.load signal (read.map Prod.snd) sys.mirror
      | none => sys.mirror
    some { sys with refresher := .refreshing todo, mirror := mirror }
  | _ => none

/-- The refresher takes the next signal out of the channel. -/
def System.receive [DecidableEq S] (sys : System κ V P C A S R) : Option (System κ V P C A S R) :=
  match sys.channel, sys.refresher with
  | signal :: channel, .waiting =>
    some { sys with channel := channel, refresher := .collecting [signal] }
  | signal :: channel, .collecting pending =>
    some { sys with channel := channel, refresher := .collecting (pending.insert signal) }
  | _, _ => none

/-- The refresher stops collecting and goes through the signals, in some order. -/
def System.deadline [DecidableEq S] (sys : System κ V P C A S R) (order : List S) :
    Option (System κ V P C A S R) :=
  match sys.refresher with
  | .collecting pending =>
    if order.Perm pending then some { sys with refresher := .refreshing order } else none
  | _ => none

def System.step [DecidableEq S] (sys : System κ V P C A S R) :
    Act A S R → Option (System κ V P C A S R)
  | .arrive request =>
    some { sys with running := sys.running ++ [(request, setting.handler request)] }
  | .advance i refusal => sys.advance setting i refusal
  | .receive => sys.receive
  | .deadline order => sys.deadline order
  | .refresh failing => sys.refresh setting failing

def System.run [DecidableEq S] :
    System κ V P C A S R → List (Act A S R) → Option (System κ V P C A S R)
  | sys, [] => some sys
  | sys, act :: acts => (sys.step setting act).bind fun next => next.run acts

/-- Every step of the run meets a condition on the state before it. -/
def System.Along [DecidableEq S] (cond : System κ V P C A S R → Act A S R → Prop) :
    System κ V P C A S R → List (Act A S R) → Prop
  | _, [] => True
  | sys, act :: acts =>
    cond sys act ∧ ∀ next ∈ sys.step setting act, System.Along cond next acts

end Steps

/-- Every program has finished, no signal is on its way and the refresher waits. -/
structure System.Quiet (sys : System κ V P C A S R) : Prop where
  finished : ∀ entry ∈ sys.running, entry.2 = .finished
  channel : sys.channel = []
  refresher : sys.refresher = .waiting

/-! ## Signals on their way -/

section Signals

variable (setting : Setting κ V P C A S R) (k : κ)

/-- The refresher will still read a table for a signal that it has received. -/
def Refresher.Awaits (k : κ) : Refresher κ V S → Prop
  | .waiting => False
  | .collecting pending => ∃ signal ∈ pending, k ∈ setting.tables signal
  | .refreshing todo => ∃ signal ∈ todo, k ∈ setting.tables signal
  | .reading _ rest _ todo => k ∈ rest ∨ ∃ signal ∈ todo, k ∈ setting.tables signal

variable (sys : System κ V P C A S R)

/-- A signal for the table was sent, and the table was not read for it yet. -/
def System.Awaits (sys : System κ V P C A S R) (k : κ) : Prop :=
  (∃ signal ∈ sys.channel, k ∈ setting.tables signal) ∨ sys.refresher.Awaits setting k

/-- The program sends a signal for the table unless one of its calls fails before. -/
def Program.Promises (k : κ) : Program κ V C A S → Prop
  | .finished => False
  | .send signal next => k ∈ setting.tables signal ∨ next.Promises k
  | .read next => ∀ store, (next (some store)).Promises k
  | .write call next => ∀ store, setting.fails call (setting.run call store).1 = false →
    (next (setting.run call store).1).Promises k

/-- What the refresher has of the table is what the store has. -/
def System.Settled (sys : System κ V P C A S R) (k : κ) : Prop :=
  match sys.refresher with
  | .reading signal rest (some pages) _ =>
    (k ∈ setting.tables signal → k ∉ rest ∧ ∀ v, (k, v) ∈ pages → v = sys.store k) ∧
      (k ∉ setting.tables signal → setting.Shows sys.mirror k (sys.store k))
  | _ => setting.Shows sys.mirror k (sys.store k)

/-- The pages read so far and the tables to be read are those of the signal. -/
def System.Ordered (sys : System κ V P C A S R) : Prop :=
  ∀ signal rest pages todo, sys.refresher = .reading signal rest pages todo →
    ∃ read, pages = some read ∧ read.map Prod.fst ++ rest = setting.tables signal

/-- The table is up to date, or will be read for a signal that was or is going to be sent. -/
def System.Fresh (sys : System κ V P C A S R) (k : κ) : Prop :=
  sys.Settled setting k ∨ sys.Awaits setting k ∨ ∃ entry ∈ sys.running, entry.2.Promises setting k

/-- The step keeps the table fresh: a write that changes it is made while a signal for it is
pending, or before its program sends one, and a page of it is complete. -/
def Act.Covers (k : κ) (sys : System κ V P C A S R) (act : Act A S R) : Prop :=
  match act with
  | .advance i none => ∀ request call next, sys.running[i]? = some (request, .write call next) →
    let (answer, store) := setting.run call sys.store
    setting.fails call answer = false → store k ≠ sys.store k →
      sys.Awaits setting k ∨ (next answer).Promises setting k
  | .refresh false => ∀ signal rest pages todo,
    sys.refresher = .reading signal (k :: rest) pages todo →
      setting.page (sys.store k) = sys.store k
  | _ => True

/-- What holds of every run that has not failed. -/
structure System.Inv (sys : System κ V P C A S R) (k : κ) : Prop where
  ordered : sys.Ordered setting
  fresh : sys.Fresh setting k

end Signals

section Laws

variable {setting : Setting κ V P C A S R} {sys sys' : System κ V P C A S R} {k : κ}

/-! ## One step of a program -/

variable {program : Program κ V C A S} {store : κ → V} {refusal : Option A}

theorem Program.Promises.turn {turn : Turn κ V C A S}
    (hTurn : program.turn setting store refusal = some turn) (hFailed : turn.failed = false)
    (h : program.Promises setting k) :
    (∃ signal ∈ turn.sent, k ∈ setting.tables signal) ∨ turn.next.Promises setting k := by
  cases program with
  | finished => cases h
  | send signal next =>
    cases hTurn
    exact h.imp (fun hMem => ⟨signal, List.mem_singleton_self signal, hMem⟩) id
  | read next =>
    cases refusal with
    | none =>
      cases hTurn
      exact .inr (h store)
    | some answer =>
      cases hTurn
      cases hFailed
  | write call next =>
    cases refusal with
    | none =>
      cases hTurn
      exact .inr (h store hFailed)
    | some answer =>
      cases hTurn
      cases hFailed

theorem Program.turn_store {turn : Turn κ V C A S}
    (hTurn : program.turn setting store refusal = some turn) (hChange : turn.store k ≠ store k) :
    ∃ call next, program = .write call next ∧ refusal = none ∧
      turn.store = (setting.run call store).2 ∧
      turn.failed = setting.fails call (setting.run call store).1 ∧
      turn.next = next (setting.run call store).1 := by
  cases program with
  | finished => cases hTurn
  | send signal next =>
    cases hTurn
    exact absurd rfl hChange
  | read next =>
    cases refusal with
    | none | some answer =>
      cases hTurn
      exact absurd rfl hChange
  | write call next =>
    cases refusal with
    | none =>
      cases hTurn
      exact ⟨call, next, rfl, rfl, rfl, rfl, rfl⟩
    | some answer =>
      cases hTurn
      exact absurd rfl hChange

open KongRust.Refresh.System

theorem System.Settled.of_store (hStore : sys'.store k = sys.store k)
    (hRefresher : sys'.refresher = sys.refresher) (hMirror : sys'.mirror = sys.mirror)
    (h : sys.Settled setting k) : sys'.Settled setting k := by
  unfold Settled at h ⊢
  rw [hRefresher, hMirror, hStore]
  exact h

variable {i : Nat}

theorem mem_set_or {α : Type} {l : List α} {a b : α} (ha : a ∈ l) :
    a ∈ l.set i b ∨ l[i]? = some a := by
  obtain ⟨j, hj⟩ := List.mem_iff_getElem?.mp ha
  by_cases hEq : i = j
  · subst hEq
    exact .inr hj
  · refine .inl (List.mem_iff_getElem?.mpr ⟨j, ?_⟩)
    rw [List.getElem?_set_ne hEq, hj]

section

variable (h : sys.Inv setting k)
include h

theorem System.Inv.advance (hStep : sys.advance setting i refusal = some sys')
    (hFailed : sys'.failed = false) (hCovers : Act.Covers setting k sys (.advance i refusal)) :
    sys'.Inv setting k := by
  unfold System.advance at hStep
  cases hEntry : sys.running[i]? with
  | none =>
    rw [hEntry] at hStep
    cases hStep
  | some entry =>
    obtain ⟨request, program⟩ := entry
    rw [hEntry] at hStep
    obtain ⟨turn, hTurn, rfl⟩ := Option.map_eq_some_iff.mp hStep
    obtain ⟨-, hTurnFailed⟩ := Bool.or_eq_false_iff.mp hFailed
    refine ⟨h.ordered, ?_⟩
    have hNext : (request, turn.next) ∈ sys.running.set i (request, turn.next) :=
      List.mem_set (List.getElem?_eq_some_iff.mp hEntry).1 _
    have hAwaits : sys.Awaits setting k → (∃ signal ∈ sys.channel ++ turn.sent,
        k ∈ setting.tables signal) ∨ sys.refresher.Awaits setting k := by
      rintro (⟨signal, hMem, hTable⟩ | hRefresher)
      · exact .inl ⟨signal, List.mem_append_left _ hMem, hTable⟩
      · exact .inr hRefresher
    rcases h.fresh with hSettled | hPending | ⟨other, hOther, hPromises⟩
    · by_cases hChange : turn.store k = sys.store k
      · exact .inl (hSettled.of_store hChange rfl rfl)
      · -- A write that changes the table is covered.
        obtain ⟨call, next, rfl, rfl, hStore, hFails, hAfter⟩ := Program.turn_store hTurn hChange
        have hCovered := hCovers request call next hEntry (hFails ▸ hTurnFailed) (hStore ▸ hChange)
        rcases hCovered with hPending | hPromises
        · exact .inr (.inl (hAwaits hPending))
        · exact .inr (.inr ⟨_, hNext, hAfter ▸ hPromises⟩)
    · exact .inr (.inl (hAwaits hPending))
    · rcases mem_set_or (b := (request, turn.next)) hOther with hKept | hSame
      · exact .inr (.inr ⟨other, hKept, hPromises⟩)
      · cases hEntry.symm.trans hSame
        rcases hPromises.turn hTurn hTurnFailed with ⟨signal, hMem, hTable⟩ | hLater
        · exact .inr (.inl (.inl ⟨signal, List.mem_append_right _ hMem, hTable⟩))
        · exact .inr (.inr ⟨_, hNext, hLater⟩)

/-! ## One step of the refresher -/

theorem System.Inv.of_idle (hStore : sys'.store = sys.store) (hMirror : sys'.mirror = sys.mirror)
    (hRunning : sys'.running = sys.running)
    (hIdle : ∀ signal rest pages todo, sys.refresher ≠ .reading signal rest pages todo)
    (hIdle' : ∀ signal rest pages todo, sys'.refresher ≠ .reading signal rest pages todo)
    (hAwaits : sys.Awaits setting k → sys'.Awaits setting k) : sys'.Inv setting k := by
  refine ⟨fun signal rest pages todo hReading => absurd hReading (hIdle' _ _ _ _), ?_⟩
  have hShows : ∀ other : System κ V P C A S R,
      (∀ signal rest pages todo, other.refresher ≠ .reading signal rest pages todo) →
      (other.Settled setting k ↔ setting.Shows other.mirror k (other.store k)) := by
    intro other hOther
    unfold Settled
    split
    · rename_i hReading
      exact absurd hReading (hOther _ _ _ _)
    · exact Iff.rfl
  unfold Fresh
  rw [hShows sys' hIdle', hStore, hMirror, hRunning]
  have hFresh := h.fresh
  unfold Fresh at hFresh
  rw [hShows sys hIdle] at hFresh
  exact hFresh.imp_right (Or.imp_left hAwaits)

variable {signal : S} {todo : List S} {read : List (κ × V)}

theorem System.Inv.begin (hRefresher : sys.refresher = .refreshing (signal :: todo)) :
    Inv setting { sys with
      refresher := .reading signal (setting.tables signal) (some []) todo } k := by
  refine ⟨fun signal' rest pages todo' hReading => ?_, ?_⟩
  · cases hReading
    exact ⟨[], rfl, rfl⟩
  by_cases hTable : k ∈ setting.tables signal
  · exact .inr (.inl (.inr (.inl hTable)))
  · have hFresh := h.fresh
    unfold Fresh Settled Awaits at hFresh ⊢
    rw [hRefresher] at hFresh
    rcases hFresh with hShows | (hChannel | ⟨other, hMem, hOther⟩) | hPromises
    · exact .inl ⟨fun hMem => absurd hMem hTable, fun _ => hShows⟩
    · exact .inr (.inl (.inl hChannel))
    · rcases List.mem_cons.mp hMem with rfl | hLater
      · exact absurd hOther hTable
      · exact .inr (.inl (.inr (.inr ⟨other, hLater, hOther⟩)))
    · exact .inr (.inr hPromises)

/-- A complete page of a table is what the store has of it. -/
theorem System.Inv.reads {other : κ} {rest : List κ}
    (hRefresher : sys.refresher = .reading signal (other :: rest) (some read) todo)
    (hPage : other = k → setting.page (sys.store k) = sys.store k) :
    let read' := read ++ [(other, setting.page (sys.store other))]
    Inv setting { sys with refresher := .reading signal rest (some read') todo } k := by
  obtain ⟨read', hRead, hTables⟩ := h.ordered _ _ _ _ hRefresher
  cases hRead
  have hNodup := hTables ▸ setting.nodup signal
  refine ⟨fun signal' rest' pages todo' hReading => ?_, ?_⟩
  · cases hReading
    exact ⟨_, rfl, by simpa using hTables⟩
  have hFresh := h.fresh
  unfold Fresh Settled Awaits at hFresh ⊢
  rw [hRefresher] at hFresh
  rcases hFresh with ⟨hRead, hShows⟩ | (hChannel | hMem | hTodo) | hPromises
  · refine .inl ⟨fun hTable => ⟨fun hRest => ?_, fun v hPair => ?_⟩, hShows⟩
    · exact (hRead hTable).1 (List.mem_cons_of_mem _ hRest)
    · rcases List.mem_append.mp hPair with hOld | hNew
      · exact (hRead hTable).2 v hOld
      · cases List.mem_singleton.mp hNew
        exact absurd List.mem_cons_self (hRead hTable).1
  · exact .inr (.inl (.inl hChannel))
  · rcases List.mem_cons.mp hMem with rfl | hLater
    · -- The page of this table: it was not read before, and is not read again.
      have hSplit := List.nodup_append.mp hNodup
      refine .inl ⟨fun _ => ⟨(List.nodup_cons.mp hSplit.2.1).1, fun v hPair => ?_⟩,
        fun hNot => absurd ?_ hNot⟩
      · rcases List.mem_append.mp hPair with hOld | hNew
        · exact absurd rfl (hSplit.2.2 k (List.mem_map_of_mem hOld) k List.mem_cons_self)
        · cases List.mem_singleton.mp hNew
          exact hPage rfl
      · rw [← hTables]
        exact List.mem_append_right _ List.mem_cons_self
    · exact .inr (.inl (.inr (.inl hLater)))
  · exact .inr (.inl (.inr (.inr hTodo)))
  · exact .inr (.inr hPromises)

theorem System.Inv.loads (hRefresher : sys.refresher = .reading signal [] (some read) todo) :
    Inv setting { sys with
      refresher := .refreshing todo
      mirror := setting.load signal (read.map Prod.snd) sys.mirror } k := by
  obtain ⟨read', hRead, hTables⟩ := h.ordered _ _ _ _ hRefresher
  cases hRead
  rw [List.append_nil] at hTables
  refine ⟨fun signal' rest' pages todo' hReading => (nomatch hReading), ?_⟩
  have hFresh := h.fresh
  unfold Fresh Settled Awaits at hFresh ⊢
  rw [hRefresher] at hFresh
  rcases hFresh with ⟨hRead, hShows⟩ | (hChannel | hMem | hTodo) | hPromises
  · refine .inl ?_
    by_cases hTable : k ∈ setting.tables signal
    · have hKey := hTable
      rw [← hTables] at hKey
      obtain ⟨⟨other, v⟩, hPair, rfl⟩ := List.mem_map.mp hKey
      have hValue := (hRead hTable).2 v hPair
      exact hValue ▸ setting.load_shows signal read sys.mirror other v hTables hPair
    · exact setting.load_other _ _ _ _ _ hTable (hShows hTable)
  · exact .inr (.inl (.inl hChannel))
  · cases hMem
  · exact .inr (.inl (.inr hTodo))
  · exact .inr (.inr hPromises)

theorem System.Inv.refresh [DecidableEq S] {failing : Bool}
    (hStep : sys.refresh setting failing = some sys') (hFailed : sys'.failed = false)
    (hCovers : Act.Covers setting k sys (.refresh failing)) : sys'.Inv setting k := by
  unfold System.refresh at hStep
  split at hStep
  · rename_i hRefresher
    cases hStep
    refine h.of_idle rfl rfl rfl (fun _ _ _ _ hNot => ?_) (fun _ _ _ _ hNot => ?_)
      fun hPending => ?_
    · rw [hRefresher] at hNot
      cases hNot
    · cases hNot
    · unfold Awaits at hPending ⊢
      rw [hRefresher] at hPending
      refine .inl (hPending.resolve_right ?_)
      rintro ⟨signal, hMem, -⟩
      cases hMem
  · rename_i signal todo hRefresher
    cases hStep
    exact h.begin hRefresher
  · rename_i signal other rest pages todo hRefresher
    cases hStep
    obtain ⟨-, hFine⟩ := Bool.or_eq_false_iff.mp hFailed
    subst hFine
    obtain ⟨read, rfl, -⟩ := h.ordered _ _ _ _ hRefresher
    have hNext := h.reads hRefresher fun hEq =>
      hCovers signal rest (some read) todo (hEq ▸ hRefresher)
    refine ⟨hNext.ordered, hNext.fresh⟩
  · rename_i signal pages todo hRefresher
    cases hStep
    obtain ⟨read, rfl, -⟩ := h.ordered _ _ _ _ hRefresher
    exact h.loads hRefresher
  · cases hStep

theorem System.Inv.arrive {request : R} :
    Inv setting { sys with running := sys.running ++ [(request, setting.handler request)] } k :=
  ⟨h.ordered, h.fresh.imp_right (Or.imp_right fun ⟨entry, hMem, hPromises⟩ =>
    ⟨entry, List.mem_append_left _ hMem, hPromises⟩)⟩

variable {act : Act A S R}

theorem System.Inv.step [DecidableEq S] (hStep : sys.step setting act = some sys')
    (hFailed : sys'.failed = false) (hCovers : act.Covers setting k sys) : sys'.Inv setting k := by
  cases act with
  | arrive request =>
    cases hStep
    exact h.arrive
  | advance i refusal => exact h.advance hStep hFailed hCovers
  | refresh failing => exact h.refresh hStep hFailed hCovers
  | receive =>
    change sys.receive = some sys' at hStep
    unfold receive at hStep
    split at hStep
    · rename_i signal channel hChannel hRefresher
      cases hStep
      refine h.of_idle rfl rfl rfl (fun _ _ _ _ hNot => ?_) (fun _ _ _ _ hNot => ?_)
        fun hPending => ?_
      · rw [hRefresher] at hNot
        cases hNot
      · cases hNot
      · unfold Awaits at hPending ⊢
        rw [hChannel, hRefresher] at hPending
        obtain ⟨other, hMem, hTable⟩ := hPending.resolve_right id
        rcases List.mem_cons.mp hMem with rfl | hLater
        · exact .inr ⟨other, List.mem_singleton_self other, hTable⟩
        · exact .inl ⟨other, hLater, hTable⟩
    · rename_i signal channel pending hChannel hRefresher
      cases hStep
      refine h.of_idle rfl rfl rfl (fun _ _ _ _ hNot => ?_) (fun _ _ _ _ hNot => ?_)
        fun hPending => ?_
      · rw [hRefresher] at hNot
        cases hNot
      · cases hNot
      · unfold Awaits at hPending ⊢
        rw [hChannel, hRefresher] at hPending
        rcases hPending with ⟨other, hMem, hTable⟩ | ⟨other, hMem, hTable⟩
        · rcases List.mem_cons.mp hMem with rfl | hLater
          · exact .inr ⟨other, List.mem_insert_self, hTable⟩
          · exact .inl ⟨other, hLater, hTable⟩
        · exact .inr ⟨other, List.mem_insert_of_mem hMem, hTable⟩
    · cases hStep
  | deadline order =>
    change sys.deadline order = some sys' at hStep
    unfold deadline at hStep
    split at hStep
    · rename_i pending hRefresher
      split at hStep
      · rename_i hPerm
        cases hStep
        refine h.of_idle rfl rfl rfl (fun _ _ _ _ hNot => ?_) (fun _ _ _ _ hNot => ?_)
          fun hPending => ?_
        · rw [hRefresher] at hNot
          cases hNot
        · cases hNot
        · unfold Awaits at hPending ⊢
          rw [hRefresher] at hPending
          exact hPending.imp_right fun ⟨other, hMem, hTable⟩ =>
            ⟨other, hPerm.mem_iff.mpr hMem, hTable⟩
      · cases hStep
    · cases hStep

end

/-! ## Runs -/

/-- A failure is remembered. -/
theorem System.failed_step [DecidableEq S] (hStep : sys.step setting act = some sys')
    (hFailed : sys'.failed = false) : sys.failed = false := by
  cases act with
  | arrive request =>
    cases hStep
    exact hFailed
  | advance i refusal =>
    change sys.advance setting i refusal = some sys' at hStep
    unfold advance at hStep
    split at hStep
    · cases hStep
    · obtain ⟨turn, -, rfl⟩ := Option.map_eq_some_iff.mp hStep
      exact (Bool.or_eq_false_iff.mp hFailed).1
  | receive =>
    change sys.receive = some sys' at hStep
    unfold receive at hStep
    split at hStep <;> cases hStep <;> exact hFailed
  | deadline order =>
    change sys.deadline order = some sys' at hStep
    unfold deadline at hStep
    split at hStep
    · split at hStep
      · cases hStep
        exact hFailed
      · cases hStep
    · cases hStep
  | refresh failing =>
    change sys.refresh setting failing = some sys' at hStep
    unfold refresh at hStep
    split at hStep <;> cases hStep
    · exact hFailed
    · exact hFailed
    · exact (Bool.or_eq_false_iff.mp hFailed).1
    · exact hFailed

theorem System.failed_run [DecidableEq S] : ∀ {acts : List (Act A S R)}
    {sys sys' : System κ V P C A S R}, sys.run setting acts = some sys' →
      sys'.failed = false → sys.failed = false
  | [], _, _, hRun, hFailed => by
    cases hRun
    exact hFailed
  | _ :: _, _, _, hRun, hFailed => by
    obtain ⟨next, hNext, hRest⟩ := Option.bind_eq_some_iff.mp hRun
    exact failed_step hNext (System.failed_run hRest hFailed)

theorem System.run_invariant [DecidableEq S] {cond : System κ V P C A S R → Act A S R → Prop}
    {Inv : System κ V P C A S R → Prop}
    (hStep : ∀ sys act sys', sys.step setting act = some sys' → sys'.failed = false →
      cond sys act → Inv sys → Inv sys') :
    ∀ {acts : List (Act A S R)} {sys sys' : System κ V P C A S R},
      sys.run setting acts = some sys' → sys'.failed = false → sys.Along setting cond acts →
      Inv sys → Inv sys' := by
  intro acts
  induction acts with
  | nil =>
    intro sys sys' hRun _ _ hInv
    cases hRun
    exact hInv
  | cons act acts ih =>
    intro sys sys' hRun hFailed hAlong hInv
    obtain ⟨next, hNext, hRest⟩ := Option.bind_eq_some_iff.mp hRun
    have hFine := failed_run hRest hFailed
    exact ih hRest hFailed (hAlong.2 next hNext) (hStep _ _ _ hNext hFine hAlong.1 hInv)

theorem System.Along.weaken [DecidableEq S] {cond cond' : System κ V P C A S R → Act A S R → Prop}
    {Inv : System κ V P C A S R → Prop}
    (hStep : ∀ sys act sys', sys.step setting act = some sys' → Inv sys → Inv sys')
    (hCond : ∀ sys act, Inv sys → cond sys act → cond' sys act) :
    ∀ {acts : List (Act A S R)} {sys : System κ V P C A S R}, Inv sys →
      sys.Along setting cond acts → sys.Along setting cond' acts
  | [], _, _, _ => trivial
  | _ :: _, _, hInv, hAlong => ⟨hCond _ _ hInv hAlong.1, fun next hNext =>
      System.Along.weaken hStep hCond (hStep _ _ _ hNext hInv) (hAlong.2 next hNext)⟩

theorem System.shows_of_quiet [DecidableEq S] {acts : List (Act A S R)}
    (hRun : sys.run setting acts = some sys') (hFailed : sys'.failed = false)
    (hAlong : sys.Along setting (Act.Covers setting k) acts) (hQuiet : sys.Quiet)
    (hShows : setting.Shows sys.mirror k (sys.store k)) (hQuiet' : sys'.Quiet) :
    setting.Shows sys'.mirror k (sys'.store k) := by
  have hStart : sys.Inv setting k := by
    constructor
    · intro signal rest pages todo hReading
      rw [hQuiet.refresher] at hReading
      cases hReading
    · refine .inl ?_
      unfold Settled
      rw [hQuiet.refresher]
      exact hShows
  have hEnd := run_invariant
    (fun sys act sys' hStep hFine hCovers hInv => System.Inv.step hInv hStep hFine hCovers)
    hRun hFailed hAlong hStart
  rcases hEnd.fresh with hSettled | hPending | ⟨entry, hMem, hPromises⟩
  · unfold Settled at hSettled
    rw [hQuiet'.refresher] at hSettled
    exact hSettled
  · unfold Awaits at hPending
    rw [hQuiet'.channel, hQuiet'.refresher] at hPending
    obtain ⟨signal, hMem, -⟩ := hPending.resolve_right id
    cases hMem
  · rw [hQuiet'.finished entry hMem] at hPromises
    exact hPromises.elim

end Laws

/-! ## What holds of every write of a program -/

/-- Every write that the program may still make meets a condition on the call and what follows. -/
def Program.All (cond : C → (A → Program κ V C A S) → Prop) : Program κ V C A S → Prop
  | .finished => True
  | .send _ next => next.All cond
  | .read next => ∀ answer, (next answer).All cond
  | .write call next => cond call next ∧ ∀ answer, (next answer).All cond

theorem Program.All.turn {setting : Setting κ V P C A S R}
    {cond : C → (A → Program κ V C A S) → Prop} {program : Program κ V C A S} {store : κ → V}
    {refusal : Option A} {turn : Turn κ V C A S}
    (hTurn : program.turn setting store refusal = some turn) (h : program.All cond) :
    turn.next.All cond := by
  cases program with
  | finished => cases hTurn
  | send signal next =>
    cases hTurn
    exact h
  | read next => cases refusal <;> cases hTurn <;> exact h _
  | write call next => cases refusal <;> cases hTurn <;> exact h.2 _

/-- Every running program makes only writes that its request may make. -/
def System.Follows (cond : R → C → (A → Program κ V C A S) → Prop)
    (sys : System κ V P C A S R) : Prop :=
  ∀ entry ∈ sys.running, entry.2.All (cond entry.1)

theorem System.Follows.step [DecidableEq S] {setting : Setting κ V P C A S R}
    {cond : R → C → (A → Program κ V C A S) → Prop} {sys sys' : System κ V P C A S R}
    {act : Act A S R} (hHandlers : ∀ request, (setting.handler request).All (cond request))
    (hStep : sys.step setting act = some sys') (h : sys.Follows cond) : sys'.Follows cond := by
  cases act with
  | arrive request =>
    cases hStep
    intro entry hMem
    rcases List.mem_append.mp hMem with hOld | hNew
    · exact h entry hOld
    · cases List.mem_singleton.mp hNew
      exact hHandlers request
  | advance i refusal =>
    change sys.advance setting i refusal = some sys' at hStep
    unfold advance at hStep
    split at hStep
    · cases hStep
    · rename_i request program hEntry
      obtain ⟨turn, hTurn, rfl⟩ := Option.map_eq_some_iff.mp hStep
      intro entry hMem
      rcases List.mem_or_eq_of_mem_set hMem with hOld | rfl
      · exact h entry hOld
      · exact (h _ (List.mem_of_getElem? hEntry)).turn hTurn
  | receive =>
    change sys.receive = some sys' at hStep
    unfold receive at hStep
    split at hStep <;> cases hStep <;> exact h
  | deadline order =>
    change sys.deadline order = some sys' at hStep
    unfold deadline at hStep
    split at hStep
    · split at hStep
      · cases hStep
        exact h
      · cases hStep
    · cases hStep
  | refresh failing =>
    change sys.refresh setting failing = some sys' at hStep
    unfold refresh at hStep
    split at hStep <;> cases hStep <;> exact h

end KongRust.Refresh
