import KongRust.Budget.Lifecycle

/-!
# Owner fencing

An owner session is live until its lease runs out or it is stopped. Only a heartbeat moves the
lease, and only of a session that is live at that moment, so a session that was once found dead
stays dead as long as the database clock does not go back. A node may replace the settings of its
deployment only when no session of the deployment is live, and neither stale recovery nor a
reconciliation writes anything for a pending intent whose owner is live.
-/

namespace KongRust.Budget

open Transaction

/-! ## What a call does to sessions and settings -/

/-- The reading of the database clock during a call; a scan needs none. -/
def Call.now : Call → Option Nat
  | .createIntent _ _ now | .markDispatching _ _ now | .settle _ _ now | .recoverStale _ _ now
  | .checkpointAccount _ _ _ now | .recordAccountIssue _ _ _ _ _ now | .reconcile _ _ _ now
  | .applyRebuild _ _ _ now | .createAccount _ _ now | .updateAccount _ _ now
  | .deleteAccount _ _ now | .registerOwner _ _ now | .heartbeatOwner _ _ now
  | .stopOwner _ _ now => some now
  | .scanRebuild _ _ => none

/-- A session after a call: as it was, with a new lease if it was live, or stopped. -/
inductive OwnerRow.Turn (row : OwnerRow) : Call → OwnerRow → Prop
  | kept {call : Call} : OwnerRow.Turn row call row
  | renewed {store : PgBudgetStore} {command : BudgetOwnerCommand} {now : Nat} {row' : OwnerRow}
      (hLive : row.live now) (hNamespace : row'.deploymentNamespace = row.deploymentNamespace)
      (hStarted : row'.startedAt = row.startedAt) :
      OwnerRow.Turn row (.heartbeatOwner store command now) row'
  | stopped {store : PgBudgetStore} {command : StopBudgetOwner} {now : Nat} {row' : OwnerRow}
      (hStopped : row'.stoppedAt.isSome)
      (hNamespace : row'.deploymentNamespace = row.deploymentNamespace)
      (hStarted : row'.startedAt = row.startedAt) :
      OwnerRow.Turn row (.stopOwner store command now) row'

def Db.Unowned (db : Db) (deploymentNamespace : String) (now : Nat) : Prop :=
  ∀ sessionId row, db.ownerSessions.lookup sessionId = some row →
    row.deploymentNamespace = deploymentNamespace → row.live now = false

def Db.Anchored (db : Db) : Prop :=
  ∀ sessionId row, db.ownerSessions.lookup sessionId = some row →
    db.runtimeSettings.lookup row.deploymentNamespace ≠ none

/-- One call, session by session and setting by setting. -/
structure Fences (db : Db) (call : Call) (db' : Db) : Prop where
  sessions : ∀ sessionId row, db.ownerSessions.lookup sessionId = some row →
    ∃ row', db'.ownerSessions.lookup sessionId = some row' ∧ row.Turn call row'
  settings : ∀ deploymentNamespace, db'.runtimeSettings.lookup deploymentNamespace ≠
      db.runtimeSettings.lookup deploymentNamespace →
    ∃ store command now, call = .registerOwner store command now ∧
      db.Unowned deploymentNamespace now
  anchored : db'.Anchored
  starts : ∀ sessionId row', db'.ownerSessions.lookup sessionId = some row' →
    (∃ row, db.ownerSessions.lookup sessionId = some row ∧ row'.startedAt = row.startedAt) ∨
      ∃ now, call.now = some now ∧ row'.startedAt = timestamptz3 now

theorem OwnerRow.Turn.started {row row' : OwnerRow} {call : Call} (h : row.Turn call row') :
    row'.startedAt = row.startedAt := by
  cases h with
  | kept => rfl
  | renewed _ _ hStarted | stopped _ _ hStarted => exact hStarted

section Owners

variable {libs : External} {store : PgBudgetStore} {db db' : Db} {call : Call}

theorem Fences.unchanged (h : db.Anchored) (hSessions : db'.ownerSessions = db.ownerSessions)
    (hSettings : db'.runtimeSettings = db.runtimeSettings) : Fences db call db' where
  sessions sessionId row hRow := ⟨row, hSessions ▸ hRow, .kept⟩
  settings deploymentNamespace hChanged := absurd (by rw [hSettings]) hChanged
  anchored := by
    intro sessionId row hRow
    rw [hSettings]
    exact h sessionId row (hSessions ▸ hRow)
  starts sessionId row hRow := Or.inl ⟨row, hSessions ▸ hRow, rfl⟩

variable {row : OwnerRow} {sessionId : Uuid} {deploymentNamespace : String} {now : Nat}
  {command : BudgetOwnerCommand}

theorem anchored_of_accepts (h : db.acceptsOwner row = .ok ()) :
    db.runtimeSettings.lookup row.deploymentNamespace ≠ none := by
  unfold Db.acceptsOwner at h
  split at h
  · cases h
  split at h
  · cases h
  · next hSome => simpa using hSome

theorem Db.Anchored.insert (h : db.Anchored)
    (hRow : db.runtimeSettings.lookup row.deploymentNamespace ≠ none) :
    { db with ownerSessions := db.ownerSessions.insert sessionId row }.Anchored := by
  intro sessionId' row' hRow'
  obtain ⟨-, rfl⟩ | ⟨-, hOld⟩ := Table.lookup_insert_cases hRow'
  · exact hRow
  · exact h sessionId' row' hOld

theorem ends_putOwner_turn {row' : OwnerRow} (h : db.Anchored)
    (hFound : db.ownerSessions.lookup sessionId = some row) (hTurn : row.Turn call row') :
    Ends (putOwner sessionId row') db (fun _ db' => Fences db call db') fun _ => True := by
  simp only [putOwner, ends_rules, ends_accept, vacuous]
  intro hAccepted
  refine ⟨fun sessionId' other hOther => ?_, fun _ hChanged => absurd rfl hChanged,
    h.insert (anchored_of_accepts hAccepted), fun sessionId' other hOther => Or.inl ?_⟩
  · by_cases hId : sessionId' = sessionId
    · subst hId
      obtain rfl : row = other := Option.mem_unique hFound hOther
      exact ⟨row', AList.lookup_insert _, hTurn⟩
    · exact ⟨other, (AList.lookup_insert_ne hId).trans hOther, .kept⟩
  · obtain ⟨rfl, rfl⟩ | ⟨-, hOld⟩ := Table.lookup_insert_cases hOther
    · exact ⟨row, hFound, hTurn.started⟩
    · exact ⟨other, hOld, rfl⟩

theorem Db.Anchored.adopt (h : db.Anchored) {row : RuntimeSettingsRow} :
    { db with
      runtimeSettings := db.runtimeSettings.insert deploymentNamespace row }.Anchored :=
  fun sessionId owner hOwner => Table.lookup_insert_ne_none (h sessionId owner hOwner)

/-- The database once a node has adopted the settings: the sessions are as they were, and a setting
that changed was without a live session. -/
structure Adopted (db : Db) (now : Nat) (middle : Db) : Prop where
  sessions : middle.ownerSessions = db.ownerSessions
  settings : ∀ deploymentNamespace, middle.runtimeSettings.lookup deploymentNamespace ≠
    db.runtimeSettings.lookup deploymentNamespace → db.Unowned deploymentNamespace now
  anchored : middle.Anchored

theorem Db.Anchored.replace (h : db.Anchored) (hUnowned : db.Unowned deploymentNamespace now)
    (row : RuntimeSettingsRow) :
    Adopted db now
      { db with runtimeSettings := db.runtimeSettings.insert deploymentNamespace row } where
  sessions := rfl
  settings other hChanged := by
    by_cases hNamespace : other = deploymentNamespace
    · exact hNamespace ▸ hUnowned
    · exact absurd (AList.lookup_insert_ne hNamespace) hChanged
  anchored := h.adopt

theorem ends_adoptSettings_adopted {post : Unit → Db → Prop} (h : db.Anchored)
    (hPost : ∀ middle, Adopted db now middle → post () middle) :
    Ends (adoptSettings store now) db post fun _ => True := by
  simp only [adoptSettings, ends_rules]
  split
  · next hNone =>
    simp only [putSettings, ends_rules, ends_accept, vacuous]
    refine fun _ => hPost _ (h.replace (fun sessionId row hRow hNamespace => ?_) _)
    exact absurd (hNamespace ▸ hNone) (h sessionId row hRow)
  · simp only [ends_ite, ends_rules, putSettings, ends_accept, vacuous]
    refine ⟨fun _ hUnowned _ => hPost _ (h.replace (fun sessionId row hRow hNamespace => ?_) _),
      fun _ => hPost db ⟨rfl, fun _ hChanged => absurd rfl hChanged, h⟩⟩
    by_contra hLive
    refine hUnowned (List.any_eq_true.mpr ⟨_, Table.lookup_eq_some_iff.mp hRow, ?_⟩)
    simpa [hNamespace] using hLive

theorem registerOwner_fences (h : db.Anchored) : Ends (registerOwner store command now) db
      (fun _ db' => Fences db (.registerOwner store command now) db') fun _ => True := by
  simp only [registerOwner, ends_rules, vacuous]
  intro _ _
  refine ends_beginWrite ?_ fun _ => trivial
  refine ends_adoptSettings_adopted h fun middle hMiddle => ?_
  split
  · simp only [ends_rules, vacuous]
    exact fun _ _ => ⟨fun sessionId row hRow => ⟨row, hMiddle.sessions ▸ hRow, .kept⟩,
      fun _ hChanged => ⟨_, _, _, rfl, hMiddle.settings _ hChanged⟩, hMiddle.anchored,
      fun sessionId row hRow => Or.inl ⟨row, hMiddle.sessions ▸ hRow, rfl⟩⟩
  · next hFresh =>
    simp only [putOwner, ends_rules, ends_accept, vacuous]
    intro hAccepted
    refine ⟨fun sessionId row hRow => ⟨row, ?_, .kept⟩,
      fun _ hChanged => ⟨_, _, _, rfl, hMiddle.settings _ hChanged⟩,
      hMiddle.anchored.insert (anchored_of_accepts hAccepted), fun sessionId row' hRow' => ?_⟩
    · rw [← hMiddle.sessions] at hRow
      rw [AList.lookup_insert_ne]
      · exact hRow
      · rintro rfl
        exact absurd (hFresh.symm.trans hRow) (by simp)
    · obtain ⟨-, rfl⟩ | ⟨-, hOld⟩ := Table.lookup_insert_cases hRow'
      · exact Or.inr ⟨now, rfl, rfl⟩
      · exact Or.inl ⟨row', hMiddle.sessions ▸ hOld, rfl⟩

theorem lookup_of_ownSession {nodeId : Uuid} (h : db.ownSession store sessionId nodeId = some row) :
    db.ownerSessions.lookup sessionId = some row ∧ row.stoppedAt = none := by
  obtain ⟨hFound, hOwn⟩ := Option.filter_eq_some_iff.mp h
  simp only [Bool.and_eq_true, Option.isNone_iff_eq_none] at hOwn
  exact ⟨hFound, hOwn.2⟩

theorem heartbeatOwner_fences (h : db.Anchored) : Ends (heartbeatOwner store command now) db
      (fun _ db' => Fences db (.heartbeatOwner store command now) db') fun _ => True := by
  simp only [heartbeatOwner, ends_rules, vacuous]
  intro _ _
  refine ends_beginWrite ?_ fun _ => trivial
  refine ends_loadAuthoritativeHardTail (fun _ _ => ?_) fun _ => trivial
  intro row hRow
  obtain ⟨hOwn, hLease⟩ := Option.filter_eq_some_iff.mp hRow
  obtain ⟨hFound, hStopped⟩ := lookup_of_ownSession hOwn
  have hLive : row.live now := by
    simp only [OwnerRow.live, hStopped, Option.isNone_none, Bool.and_true]
    exact hLease
  exact ends_putOwner_turn h hFound (.renewed hLive rfl rfl)

theorem stopOwner_fences {command : StopBudgetOwner} (h : db.Anchored) :
    Ends (stopOwner store command now) db
      (fun _ db' => Fences db (.stopOwner store command now) db') fun _ => True := by
  simp only [stopOwner, ends_rules]
  refine ends_beginWrite ?_ fun _ => trivial
  split
  · next row hOwn =>
    exact ends_putOwner_turn h (lookup_of_ownSession hOwn).1 (.stopped rfl rfl rfl)
  · simp only [ends_rules, vacuous]
    exact fun _ _ _ _ => .unchanged h rfl rfl

end Owners

/-! ## Calls -/

section Calls

variable {libs : External} {sys : System}

theorem Move.fencing {subject : Subject} {db' : Db} (hMove : Move libs sys subject db')
    (hSubject : subject ≠ .owner) :
    db'.ownerSessions = sys.db.ownerSessions ∧ db'.runtimeSettings = sys.db.runtimeSettings := by
  cases hMove with
  | quiet _ _ _ hFencing => exact hFencing hSubject
  | _ => exact ⟨rfl, rfl⟩

theorem fences_of_ends {α : Type} {call : Call} {t : Tx α} (hAnchored : sys.db.Anchored)
    (h : Ends t sys.db (fun _ db' => Fences sys.db call db') fun _ => True) :
    Fences sys.db call (sys.run t).db := by
  unfold System.run
  obtain ⟨_, db', hRun, hFences⟩ | ⟨_, hRun, _⟩ := execute_of_ends h
  · rw [hRun]
    exact hFences
  · rw [hRun]
    exact .unchanged hAnchored rfl rfl

theorem perform_fences (h : sys.db.Anchored) (call : Call) :
    Fences sys.db call (perform libs sys call).db := by
  have hMove : Move libs sys call.subject (perform libs sys call).db := perform_move call
  cases call with
  | registerOwner store command now => exact fences_of_ends h (registerOwner_fences h)
  | heartbeatOwner store command now => exact fences_of_ends h (heartbeatOwner_fences h)
  | stopOwner store command now => exact fences_of_ends h (stopOwner_fences h)
  | _ =>
    obtain ⟨hSessions, hSettings⟩ := hMove.fencing nofun
    exact .unchanged h hSessions hSettings

theorem System.Initial.anchored (h : sys.Initial) : sys.db.Anchored := by
  intro sessionId row hRow
  rw [h.owners] at hRow
  cases hRow

theorem anchored_run (h : sys.db.Anchored) (calls : List Call) :
    (runCalls libs sys calls).db.Anchored := by
  induction calls generalizing sys with
  | nil => exact h
  | cons call calls ih => exact ih (perform_fences h call).anchored

/-! ## Dead sessions -/

theorem live_mono {row : OwnerRow} {earlier later : Nat} (hLe : earlier ≤ later)
    (hDead : row.live earlier = false) : row.live later = false := by
  simp only [OwnerRow.live, Bool.and_eq_false_iff, decide_eq_false_iff_not, not_lt] at hDead ⊢
  exact hDead.imp_left fun hExpired => hExpired.trans hLe

theorem OwnerRow.Turn.dead {row row' : OwnerRow} {call : Call} {moment : Nat}
    (h : row.Turn call row') (hClock : ∀ now, call.now = some now → moment ≤ now)
    (hDead : row.live moment = false) : row'.live moment = false := by
  cases h with
  | kept => exact hDead
  | renewed hLive _ _ =>
    rw [live_mono (hClock _ rfl) hDead] at hLive
    cases hLive
  | stopped hStopped _ _ =>
    obtain ⟨stoppedAt, hStoppedAt⟩ := Option.isSome_iff_exists.mp hStopped
    simp [OwnerRow.live, hStoppedAt]

theorem dead_run (h : sys.db.Anchored) (calls : List Call) {moment : Nat}
    (hClock : ∀ call ∈ calls, ∀ now, call.now = some now → moment ≤ now) {sessionId : Uuid}
    {row : OwnerRow} (hRow : sys.db.ownerSessions.lookup sessionId = some row)
    (hDead : row.live moment = false) :
    ∃ row', (runCalls libs sys calls).db.ownerSessions.lookup sessionId = some row' ∧
      row'.live moment = false := by
  induction calls generalizing sys row with
  | nil => exact ⟨row, hRow, hDead⟩
  | cons call calls ih =>
    have hFences : Fences sys.db call (perform libs sys call).db := perform_fences h call
    obtain ⟨middle, hMiddle, hTurn⟩ := hFences.sessions sessionId row hRow
    exact ih hFences.anchored (fun call' hMem => hClock call' (List.mem_cons_of_mem call hMem))
      hMiddle (hTurn.dead (hClock call List.mem_cons_self) hDead)

/-! ## Live owners -/

variable {store : PgBudgetStore} {now : Nat} {db : Db} {row : LedgerRow}

theorem recoverStaleCandidate_live {candidate : StaleIntentCandidate}
    (hRow : db.ledger.lookup candidate.intentId = some row) (hLive : db.ownerLive row now) :
    Ends (recoverStaleCandidate libs store candidate now) db (fun _ db' => db' = db)
      fun _ => True := by
  simp only [recoverStaleCandidate, ends_rules, ends_lockIntentById]
  refine ends_beginWrite ?_ fun _ => trivial
  refine ends_loadAuthoritativeHardTail (fun _ _ => ?_) fun _ => trivial
  refine ends_loadLockedAccount (fun account hAccount => ?_) trivial fun _ => trivial
  simp only [hRow, ends_rules, ends_ite, true_and, vacuous]
  intro _ _ _ _ sessionId hSession owner hOwner hDead
  simp only [not_or, not_not] at hDead
  simp [Db.ownerLive, hSession, hOwner, hDead.2] at hLive

theorem reconcile_live {command : ReconcileBudgetIntent} {childId : Uuid}
    (hRow : db.ledger.lookup command.intentId = some row) (hStatus : row.status = .pending)
    (hLive : db.ownerLive row now) :
    Ends (reconcile libs store command childId now) db (fun _ db' => db' = db) fun _ => True := by
  simp only [reconcile, ends_rules, ends_lockIntentById, ends_loadLedgerByOperation, vacuous]
  intro normalized hNormalized
  rw [← normalizeReconciliation_intent hNormalized] at hRow
  refine ends_beginWrite ?_ fun _ => trivial
  refine ends_lockScopedAccount (fun account hAccount => ?_) trivial fun _ => trivial
  intro parent hParent _ _
  obtain rfl : row = parent := Option.mem_unique hRow hParent
  split
  · simp only [ends_rules, vacuous]
  · simp only [ends_rules, hStatus, if_true, vacuous]
    intro _ _
    refine ends_ownerIsStillLive fun sessionId hSession hDead => ?_
    simp only [Db.ownerLive, hSession, Option.any_some] at hLive
    exact absurd hLive hDead

theorem db_of_ends {α : Type} {t : Tx α}
    (h : Ends t sys.db (fun _ db' => db' = sys.db) fun _ => True) : (sys.run t).db = sys.db := by
  unfold System.run
  obtain ⟨_, db', hRun, hSame⟩ | ⟨_, hRun, _⟩ := execute_of_ends h
  · rw [hRun]
    exact hSame
  · rw [hRun]

/-- **Fencing.** In every run: a session that is dead at some moment is dead at every later one, as
long as the database clock stays past that moment; the settings of a deployment change by nothing
but a registration that finds no session of it live; and neither stale recovery nor a
reconciliation writes anything for a pending intent whose owner session is live. -/
theorem owner_fencing (hInitial : sys.Initial) (calls : List Call) {before : System}
    (hBefore : before = runCalls libs sys calls) :
    (∀ sessionId row moment later moment',
      before.db.ownerSessions.lookup sessionId = some row → row.live moment = false →
      (∀ call ∈ later, ∀ now, call.now = some now → moment ≤ now) → moment ≤ moment' →
      ∃ row', (runCalls libs before later).db.ownerSessions.lookup sessionId = some row' ∧
        row'.live moment' = false) ∧
    (∀ call deploymentNamespace,
      (perform libs before call).db.runtimeSettings.lookup deploymentNamespace ≠
        before.db.runtimeSettings.lookup deploymentNamespace →
      ∃ store command now, call = .registerOwner store command now ∧
        before.db.Unowned deploymentNamespace now) ∧
    (∀ id row now, before.db.ledger.lookup id = some row → row.status = .pending →
      before.db.ownerLive row now →
      (∀ store key, (perform libs before (.recoverStale store ⟨id, key⟩ now)).db = before.db) ∧
      ∀ store command childId, command.intentId = id →
        (perform libs before (.reconcile store command childId now)).db = before.db) := by
  have hAnchored : before.db.Anchored := hBefore ▸ anchored_run hInitial.anchored calls
  refine ⟨?_, fun call => (perform_fences hAnchored call).settings, ?_⟩
  · intro sessionId row moment later moment' hRow hDead hClock hLe
    obtain ⟨row', hRow', hDead'⟩ := dead_run hAnchored later hClock hRow hDead
    exact ⟨row', hRow', live_mono hLe hDead'⟩
  · intro id row now hRow hStatus hLive
    refine ⟨fun store key => ?_, fun store command childId hIntent => ?_⟩
    · exact db_of_ends (recoverStaleCandidate_live hRow hLive)
    · subst hIntent
      exact db_of_ends (reconcile_live hRow hStatus hLive)

/-- No heartbeat revives the owner of the sample run once its lease has run out. -/
theorem owner_fencing_sample : ∃ row,
    (runCalls sampleExternal sampleSystem sampleCalls).db.ownerSessions.lookup 4 = some row ∧
      row.live 59999999 ∧ ∃ row',
      (runCalls sampleExternal (runCalls sampleExternal sampleSystem sampleCalls)
        [.heartbeatOwner sampleStore ⟨4, 3, 60000000000⟩ 60000000]).db.ownerSessions.lookup 4 =
          some row' ∧ row'.live 60000000 = false := by
  obtain ⟨row, hRow, hFields⟩ := Option.map_eq_some_iff.mp sampleRun_end.2
  obtain ⟨hLive, hDead⟩ := Prod.mk.inj hFields
  refine ⟨row, hRow, hLive, ?_⟩
  refine (owner_fencing sampleSystem_initial sampleCalls rfl).1 4 row 60000000 _ 60000000 hRow hDead
    ?_ le_rfl
  intro call hCall now hNow
  obtain rfl := List.mem_singleton.mp hCall
  obtain rfl := Option.some.inj hNow
  exact le_rfl

end Calls

end KongRust.Budget
