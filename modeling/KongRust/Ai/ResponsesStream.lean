import KongRust.Ai.Responses
import KongRust.Foundation.Transducer

/-!
# What a client may read

A client of the Responses API keeps a view of the stream: whether the response was created and
has ended, how many items there are, and the item that is open with what it has received.
`StreamView.accept` refuses an event that does not fit. The events of `ResponsesEventState` are
accepted, and the stream ends, if and only if every call meets `InputOk` in the state before it.
-/

namespace KongRust.Ai

open KongRust.Transducer ResponsesEventState

/-! ## The client's view -/

inductive OpenItem where
  | message (index : Nat) (text : String)
  | functionCall (index : Nat) (callId fnName arguments : String)
  deriving DecidableEq

structure StreamView where
  created : Bool
  finished : Bool
  next : Nat
  opened : Option OpenItem
  deriving DecidableEq

namespace StreamView

def initial : StreamView := ⟨false, false, 0, none⟩

variable (view : StreamView)

def Live (view : StreamView) : Prop := view.created = true ∧ view.finished = false

instance (view : StreamView) : Decidable view.Live := inferInstanceAs (Decidable (_ ∧ _))

def add (view : StreamView) (item : OpenItem) : StreamView :=
  { view with next := view.next + 1, opened := some item }

def close (view : StreamView) : StreamView := { view with opened := none }

/-- The next view, unless the event does not fit: items are numbered in order and closed with
all they have received before the next one, deltas go to the open item, and nothing comes
before the first event or after the terminal one. -/
def accept (view : StreamView) : ResponsesEvent → Option StreamView
  | .created _ _ => if view = initial then some { view with created := true } else none
  | .inProgress _ _ => if view.Live then some view else none
  | .messageAdded index =>
    if view.Live ∧ view.opened = none ∧ index = view.next then
      some (view.add (.message index ""))
    else none
  | .functionCallAdded index callId fnName =>
    if view.Live ∧ view.opened = none ∧ index = view.next then
      some (view.add (.functionCall index callId fnName ""))
    else none
  | .contentPartAdded index _ =>
    match view.opened with
    | some (.message opened _) => if view.Live ∧ index = opened then some view else none
    | _ => none
  | .outputTextDelta index _ delta =>
    match view.opened with
    | some (.message opened text) =>
      if view.Live ∧ index = opened then
        some { view with opened := some (.message opened (text ++ delta)) }
      else none
    | _ => none
  | .argumentsDelta index delta =>
    match view.opened with
    | some (.functionCall opened callId fnName arguments) =>
      if view.Live ∧ index = opened then
        some { view with opened := some (.functionCall opened callId fnName (arguments ++ delta)) }
      else none
    | _ => none
  | .contentPartDone index _ text =>
    if view.Live ∧ view.opened = some (.message index text) then some view else none
  | .messageDone index text =>
    if view.Live ∧ view.opened = some (.message index text) then
      some view.close
    else none
  | .argumentsDone index arguments =>
    match view.opened with
    | some (.functionCall opened _ _ received) =>
      if view.Live ∧ index = opened ∧ arguments = received then some view else none
    | _ => none
  | .functionCallDone index callId fnName arguments =>
    if view.Live ∧ view.opened = some (.functionCall index callId fnName arguments) then
      some view.close
    else none
  | .completed .. | .failed .. =>
    if view.Live ∧ view.opened = none then some { view with finished := true } else none

theorem accept_of_not_live {view : StreamView} (hCreated : view.created = true)
    (hFinished : view.finished = true) (event : ResponsesEvent) : view.accept event = none := by
  have hNotLive : ¬ view.Live := fun hLive => by
    rw [hLive.2] at hFinished
    cases hFinished
  have hNotInitial : view ≠ initial := by
    rintro rfl
    cases hCreated
  cases event <;> simp only [accept, hNotLive, hNotInitial, false_and, if_false]
  all_goals split <;> rfl

end StreamView

/-! ## The deltas of a chunk -/

/-- What a chunk adds, in the order in which the state machine takes it. -/
inductive Piece where
  | text (content : String)
  | call (callId fnName : String)
  | arguments (arguments : String)
  deriving DecidableEq

def textPieces : Option String → List Piece
  | some content => if content = "" then [] else [.text content]
  | none => []

def argumentPieces : Option String → List Piece
  | some arguments => if arguments = "" then [] else [.arguments arguments]
  | none => []

def callPieces (toolCall : Json) : List Piece :=
  (match Chunk.callId toolCall with
    | some callId => [.call callId ((Chunk.functionName toolCall).getD "unknown")]
    | none => []) ++ argumentPieces (Chunk.functionArguments toolCall)

def piecesOf (delta : Json) : List Piece :=
  textPieces (Chunk.content delta) ++ (Chunk.toolCalls delta).flatMap callPieces

namespace ResponsesEventState

def piece (state : ResponsesEventState) : Piece → ResponsesEventState × List ResponsesEvent
  | .text content =>
    (state.openMessage.1.appendText content).map id fun events => state.openMessage.2 ++ events
  | .call callId fnName => state.openToolCall callId fnName
  | .arguments arguments => state.appendArguments (some arguments)

section

variable (state : ResponsesEventState)
include state

theorem processContent_eq (content : Option String) :
    state.processContent content = run piece state (textPieces content) := by
  cases content with
  | none => rfl
  | some content =>
    by_cases h : content = ""
    · simp [processContent, textPieces, h, run]
    · simp [processContent, textPieces, h, run, piece]

theorem appendArguments_eq (arguments : Option String) :
    state.appendArguments arguments = run piece state (argumentPieces arguments) := by
  cases arguments with
  | none => rfl
  | some arguments =>
    by_cases h : arguments = ""
    · simp [appendArguments, argumentPieces, h, run]
    · simp [argumentPieces, h, run, piece]

theorem processToolCall_eq (toolCall : Json) :
    state.processToolCall toolCall = run piece state (callPieces toolCall) := by
  unfold processToolCall callPieces
  rw [run_append]
  cases Chunk.callId toolCall with
  | none =>
    simp only [appendArguments_eq]
    rfl
  | some callId =>
    simp only [appendArguments_eq, run, piece, List.append_nil]

theorem processToolCalls_eq (toolCalls : List Json) :
    state.processToolCalls toolCalls = run piece state (toolCalls.flatMap callPieces) := by
  induction toolCalls generalizing state with
  | nil => rfl
  | cons toolCall toolCalls ih =>
    rw [List.flatMap_cons, run_append, ← processToolCall_eq, ← ih]
    rfl

theorem processDelta_eq (delta : Json) : state.processDelta delta =
      ((run piece state.emitInit.1 (piecesOf delta)).1,
        state.emitInit.2 ++ (run piece state.emitInit.1 (piecesOf delta)).2) := by
  unfold piecesOf
  rw [run_append, ← processContent_eq, ← processToolCalls_eq]
  simp only [processDelta, List.append_assoc]

end

/-! ## The state and the view -/

/-- The item that a client has open, as the state has it. -/
def Shows (state : ResponsesEventState) : Option OpenItem → Prop
  | none => state.phase = .init ∧ state.outputItems = [] ∨ state.phase = .done
  | some (.message index text) =>
    state.phase = .contentStreaming ∧ ∃ before item, state.outputItems = before ++ [item] ∧
      item.itemType = .message ∧ item.emittedDone = false ∧ item.index = index ∧
      item.accumulatedText = text
  | some (.functionCall index callId fnName arguments) =>
    state.phase = .toolCallStreaming ∧ ∃ before item, state.outputItems = before ++ [item] ∧
      item.itemType = .functionCall ∧ item.emittedDone = false ∧ item.index = index ∧
      item.callId = callId ∧ item.fnName = fnName ∧ item.accumulatedArguments = arguments

structure Tracks (state : ResponsesEventState) (view : StreamView) : Prop where
  created : view.created = state.hasEmittedInit
  finished : view.finished = true ↔ state.phase = .done
  next : view.next = state.outputItems.length
  shows : state.Shows view.opened
  fresh : state.hasEmittedInit = false → state.phase = .init

section

variable {state : ResponsesEventState} {view : StreamView} (h : state.Tracks view)
include h

theorem Tracks.live (hInit : state.hasEmittedInit = true) (hPhase : state.phase ≠ .done) :
    view.Live := by
  refine ⟨h.created.trans hInit, ?_⟩
  cases hFinished : view.finished with
  | false => rfl
  | true => exact absurd (h.finished.mp hFinished) hPhase

theorem Tracks.view_opened :
    (state.phase = .contentStreaming ↔ ∃ i t, view.opened =
      some (.message i t)) ∧ (state.phase = .toolCallStreaming ↔ ∃ i c n a, view.opened =
      some (.functionCall i c n a)) := by
  have hShows := h.shows
  cases hOpened : view.opened with
  | none =>
    rw [hOpened] at hShows
    rcases hShows with ⟨hPhase, -⟩ | hPhase <;> simp [hPhase]
  | some item =>
    rw [hOpened] at hShows
    cases item with
    | message index text | functionCall index callId fnName arguments => simp [hShows.1]

theorem watch_closeActive (hLive : view.Live) :
    watch StreamView.accept view state.closeActive.2 = some view.close := by
  have hShows := h.shows
  cases hOpened : view.opened with
  | none =>
    rw [hOpened] at hShows
    have hNone : state.closeActive.2 = [] := by
      rcases hShows with ⟨hPhase, -⟩ | hPhase <;> simp [closeActive, hPhase]
    rw [hNone, StreamView.close, ← hOpened]
    rfl
  | some item =>
    rw [hOpened] at hShows
    cases item with
    | message index text =>
      obtain ⟨hPhase, before, item, hItems, hType, hDone, rfl, rfl⟩ := hShows
      have hEvents : state.closeActive.2 =
          [.contentPartDone item.index state.contentPartIndex item.accumulatedText,
            .messageDone item.index item.accumulatedText] := by
        simp [closeActive, hPhase, closeCurrentContent, hItems, hType, hDone]
      rw [hEvents]
      simp [watch, StreamView.accept, hLive, hOpened]
    | functionCall index callId fnName arguments =>
      obtain ⟨hPhase, before, item, hItems, hType, hDone, rfl, rfl, rfl, rfl⟩ := hShows
      have hEvents : state.closeActive.2 = [.argumentsDone item.index item.accumulatedArguments,
            .functionCallDone item.index item.callId item.fnName item.accumulatedArguments] := by
        simp [closeActive, hPhase, closeCurrentToolCall, hItems, hType, hDone]
      rw [hEvents]
      simp [watch, StreamView.accept, hLive, hOpened]

end

variable {state : ResponsesEventState} {view : StreamView}

theorem updateLast_concat {before : List TrackedItem}
    {item : TrackedItem} (h : state.outputItems = before ++ [item])
    (f : TrackedItem → TrackedItem) : (state.updateLast f).outputItems = before ++ [f item] := by
  simp [updateLast, h]

theorem updateLast_length (state : ResponsesEventState) (f : TrackedItem → TrackedItem) :
    (state.updateLast f).outputItems.length = state.outputItems.length := by
  rcases List.eq_nil_or_concat state.outputItems with hNil | ⟨before, item, hItems⟩
  · simp [updateLast, hNil]
  · rw [List.concat_eq_append] at hItems
    rw [updateLast_concat hItems, hItems, List.length_append, List.length_append,
      List.length_singleton, List.length_singleton]

theorem closeActive_kept (state : ResponsesEventState) : state.closeActive.1.phase = state.phase ∧
      state.closeActive.1.hasEmittedInit = state.hasEmittedInit ∧
      state.closeActive.1.outputItems.length = state.outputItems.length := by
  unfold closeActive
  split
  · unfold closeCurrentContent
    split
    · split
      · exact ⟨rfl, rfl, updateLast_length _ _⟩
      · exact ⟨rfl, rfl, rfl⟩
    · exact ⟨rfl, rfl, rfl⟩
  · unfold closeCurrentToolCall
    split
    · split
      · exact ⟨rfl, rfl, updateLast_length _ _⟩
      · exact ⟨rfl, rfl, rfl⟩
    · exact ⟨rfl, rfl, rfl⟩
  · exact ⟨rfl, rfl, rfl⟩

/-! ## One piece -/

/-- When a client can read what a piece adds. An argument delta needs an open tool call. -/
def PieceOk (state : ResponsesEventState) : Piece → Prop
  | .text _ =>
    state.phase ≠ .done ∧
      (state.phase = .contentStreaming ∨ state.outputItems.length < 2 ^ 32)
  | .call _ _ => state.phase ≠ .done ∧ state.outputItems.length < 2 ^ 32
  | .arguments arguments => arguments = "" ∨ state.phase = .toolCallStreaming

theorem nextIndex_eq_iff (state : ResponsesEventState) :
    state.nextIndex = state.outputItems.length ↔ state.outputItems.length < 2 ^ 32 := by
  unfold nextIndex
  constructor
  · intro h
    rw [← h]
    exact Nat.mod_lt _ (by decide)
  · exact Nat.mod_eq_of_lt

theorem openMessage_new (h : state.phase ≠ .contentStreaming) :
    state.openMessage.2 = state.closeActive.2 ++
        [.messageAdded state.nextIndex, .contentPartAdded state.nextIndex 0] ∧
      state.openMessage.1.phase = .contentStreaming ∧
      state.openMessage.1.hasEmittedInit = state.hasEmittedInit ∧
      state.openMessage.1.outputItems = state.closeActive.1.outputItems ++
        [{ itemType := .message, index := state.nextIndex, emittedAdded := true,
           emittedDone := false, accumulatedText := "", callId := "", fnName := "",
           accumulatedArguments := "" }] := by
  have hKept := state.closeActive_kept
  have hSame : (if state.phase = .toolCallStreaming then state.closeCurrentToolCall
      else (state, [])) = state.closeActive := by
    unfold closeActive
    cases hPhase : state.phase with
    | contentStreaming => exact absurd hPhase h
    | _ => simp
  have hPhase : state.closeActive.1.phase ≠ .contentStreaming := hKept.1 ▸ h
  have hIndex : state.closeActive.1.nextIndex = state.nextIndex := by
    unfold nextIndex
    rw [hKept.2.2]
  unfold openMessage
  rw [hSame]
  simp only [hPhase, if_false, hIndex, true_and, and_true]
  exact hKept.2.1

section

variable (h : state.Tracks view)
include h

section

variable (hInit : state.hasEmittedInit = true)
include hInit

theorem openMessage_tracks (hPhase : state.phase ≠ .done)
    (hRoom : state.phase = .contentStreaming ∨ state.outputItems.length < 2 ^ 32) :
    ∃ view', watch StreamView.accept view state.openMessage.2 = some view' ∧
      state.openMessage.1.Tracks view' ∧ state.openMessage.1.hasEmittedInit = true ∧
      state.openMessage.1.phase = .contentStreaming := by
  by_cases hContent : state.phase = .contentStreaming
  · have hNothing : state.openMessage = (state, []) := by simp [openMessage, hContent]
    rw [hNothing]
    exact ⟨view, rfl, h, hInit, hContent⟩
  · have hLive := h.live hInit hPhase
    have hIndex := state.nextIndex_eq_iff.mpr (hRoom.resolve_left hContent)
    obtain ⟨hEvents, hStreaming, hEmitted, hItems⟩ := openMessage_new hContent
    have hLength := state.closeActive_kept.2.2
    refine ⟨view.close.add (.message state.nextIndex ""), ?_, ⟨?_, ?_, ?_, ?_, ?_⟩,
      hEmitted.trans hInit, hStreaming⟩
    · have hClosed : view.close.Live := hLive
      have hAdded : (view.close.add (.message state.nextIndex "")).Live := hLive
      have hNext : state.nextIndex = view.close.next := hIndex.trans h.next.symm
      rw [hEvents, watch_append, watch_closeActive h hLive, Option.bind_some, watch,
        StreamView.accept, if_pos ⟨hClosed, rfl, hNext⟩, Option.bind_some, watch, StreamView.accept]
      simp only [StreamView.add, StreamView.close] at hAdded ⊢
      rw [if_pos ⟨hAdded, trivial⟩]
      rfl
    · exact h.created.trans hEmitted.symm
    · rw [hStreaming]
      simp [StreamView.add, StreamView.close, hLive.2]
    · rw [hItems, List.length_append, hLength, ← h.next]
      rfl
    · exact ⟨hStreaming, _, _, hItems, rfl, rfl, rfl, rfl⟩
    · intro hFresh
      rw [hEmitted, hInit] at hFresh
      cases hFresh

theorem appendText_tracks (hPhase : state.phase = .contentStreaming) (content : String) :
    ∃ view', watch StreamView.accept view (state.appendText content).2 = some view' ∧
      (state.appendText content).1.Tracks view' := by
  have hLive := h.live hInit (by rw [hPhase]; decide)
  obtain ⟨index, text, hOpened⟩ := h.view_opened.1.mp hPhase
  have hShows := h.shows
  rw [hOpened] at hShows
  obtain ⟨-, before, item, hItems, hType, hDone, rfl, rfl⟩ := hShows
  have hUpdated := updateLast_concat hItems fun item =>
    { item with accumulatedText := item.accumulatedText ++ content }
  refine ⟨{ view with opened := some (.message item.index (item.accumulatedText ++ content)) },
    ?_, ⟨h.created, h.finished, ?_, ?_, h.fresh⟩⟩
  · have hIndex : (state.updateLast fun item =>
        { item with accumulatedText := item.accumulatedText ++ content }).lastIndex =
        item.index := by
      simp [lastIndex, hUpdated]
    simp [appendText, watch, StreamView.accept, hOpened, hIndex, hLive]
  · exact h.next.trans (updateLast_length state _).symm
  · exact ⟨hPhase, before, _, hUpdated, hType, hDone, rfl, rfl⟩

theorem text_tracks {content : String}
    (hOk : state.PieceOk (.text content)) :
    ∃ view', watch StreamView.accept view (state.piece (.text content)).2 = some view' ∧
      (state.piece (.text content)).1.Tracks view' ∧
      (state.piece (.text content)).1.hasEmittedInit = true := by
  obtain ⟨view', hWatch, hTracks, hInit', hPhase⟩ := openMessage_tracks h hInit hOk.1 hOk.2
  obtain ⟨view'', hWatch', hTracks'⟩ := appendText_tracks hTracks hInit' hPhase content
  refine ⟨view'', ?_, hTracks', hInit'⟩
  change watch StreamView.accept view (state.openMessage.2 ++ _) = _
  rw [watch_append, hWatch]
  exact hWatch'

theorem call_tracks {callId fnName : String}
    (hOk : state.PieceOk (.call callId fnName)) :
    ∃ view', watch StreamView.accept view (state.piece (.call callId fnName)).2 = some view' ∧
      (state.piece (.call callId fnName)).1.Tracks view' ∧
      (state.piece (.call callId fnName)).1.hasEmittedInit = true := by
  obtain ⟨-, hEmitted, hLength⟩ := state.closeActive_kept
  have hLive := h.live hInit hOk.1
  have hIndex : state.closeActive.1.nextIndex = state.outputItems.length := by
    unfold nextIndex
    rw [hLength]
    exact state.nextIndex_eq_iff.mpr hOk.2
  refine ⟨view.close.add (.functionCall state.closeActive.1.nextIndex callId fnName ""), ?_,
    ⟨?_, ?_, ?_, ?_, ?_⟩, ?_⟩
  · have hClosed : view.close.Live := hLive
    have hNext : state.closeActive.1.nextIndex = view.close.next := hIndex.trans h.next.symm
    change watch StreamView.accept view (state.closeActive.2 ++ _) = _
    rw [watch_append, watch_closeActive h hLive, Option.bind_some, watch, StreamView.accept,
      if_pos ⟨hClosed, rfl, hNext⟩]
    rfl
  · exact h.created.trans hEmitted.symm
  · change view.finished = true ↔ StreamPhase.toolCallStreaming = .done
    simp [hLive.2]
  · change view.next + 1 = (state.closeActive.1.outputItems ++ [_]).length
    rw [List.length_append, hLength, ← h.next]
    rfl
  · exact ⟨rfl, _, _, rfl, rfl, rfl, rfl, rfl, rfl, rfl⟩
  · intro hFresh
    have hTrue : state.closeActive.1.hasEmittedInit = true := hEmitted.trans hInit
    exact absurd (hTrue.symm.trans hFresh) (by decide)
  · exact hEmitted.trans hInit

theorem arguments_tracks {arguments : String}
    (hOk : state.PieceOk (.arguments arguments)) :
    ∃ view', watch StreamView.accept view (state.piece (.arguments arguments)).2 = some view' ∧
      (state.piece (.arguments arguments)).1.Tracks view' ∧
      (state.piece (.arguments arguments)).1.hasEmittedInit = true := by
  by_cases hEmpty : arguments = ""
  · subst hEmpty
    exact ⟨view, rfl, h, hInit⟩
  · have hPhase := hOk.resolve_left hEmpty
    have hLive := h.live hInit (by rw [hPhase]; decide)
    obtain ⟨index, callId, fnName, received, hOpened⟩ := h.view_opened.2.mp hPhase
    have hShows := h.shows
    rw [hOpened] at hShows
    obtain ⟨-, before, item, hItems, hType, hDone, rfl, rfl, rfl, rfl⟩ := hShows
    have hUpdated := updateLast_concat hItems fun item =>
      { item with accumulatedArguments := item.accumulatedArguments ++ arguments }
    have hPiece : state.piece (.arguments arguments) = (state.updateLast fun item =>
          { item with accumulatedArguments := item.accumulatedArguments ++ arguments },
          [.argumentsDelta item.index arguments]) := by
      simp [piece, appendArguments, hEmpty, lastIndex, hUpdated]
    rw [hPiece]
    refine ⟨{ view with opened := some (.functionCall item.index item.callId item.fnName
      (item.accumulatedArguments ++ arguments)) }, ?_, ⟨h.created, h.finished, ?_, ?_, h.fresh⟩,
      hInit⟩
    · simp [watch, StreamView.accept, hOpened, hLive]
    · exact h.next.trans (updateLast_length state _).symm
    · exact ⟨hPhase, before, _, hUpdated, hType, hDone, rfl, rfl, rfl, rfl⟩

theorem watch_done (hPhase : state.phase = .done)
    {events : List ResponsesEvent} (hNe : events ≠ []) :
    watch StreamView.accept view events = none := by
  obtain ⟨event, events, rfl⟩ := List.exists_cons_of_ne_nil hNe
  rw [watch, StreamView.accept_of_not_live (h.created.trans hInit) (h.finished.mpr hPhase)]
  rfl

theorem piece_refused {piece : Piece} (hNot : ¬ state.PieceOk piece) :
    watch StreamView.accept view (state.piece piece).2 = none := by
  by_cases hDone : state.phase = .done
  · refine watch_done h hInit hDone ?_
    cases piece with
    | text content =>
      have hContent : state.phase ≠ .contentStreaming := by rw [hDone]; decide
      change state.openMessage.2 ++ _ ≠ []
      rw [(openMessage_new hContent).1]
      simp
    | call callId fnName => simp [piece, openToolCall]
    | arguments arguments =>
      have hNonempty : arguments ≠ "" := fun hEmpty => hNot (Or.inl hEmpty)
      simp [piece, appendArguments, hNonempty]
  · have hLive := h.live hInit hDone
    cases piece with
    | text content =>
      have hContent : state.phase ≠ .contentStreaming := fun hContent =>
        hNot ⟨hDone, Or.inl hContent⟩
      have hFull : state.nextIndex ≠ view.close.next := fun hEq =>
        hNot ⟨hDone, Or.inr (state.nextIndex_eq_iff.mp (hEq.trans h.next))⟩
      change watch StreamView.accept view (state.openMessage.2 ++ _) = none
      rw [(openMessage_new hContent).1, List.append_assoc, watch_append, watch_closeActive h hLive,
        Option.bind_some, List.cons_append, watch, StreamView.accept,
        if_neg fun hFits => hFull hFits.2.2]
      rfl
    | call callId fnName =>
      have hLength := state.closeActive_kept.2.2
      have hFull : state.closeActive.1.nextIndex ≠ view.close.next := by
        intro hEq
        refine hNot ⟨hDone, state.nextIndex_eq_iff.mp ?_⟩
        unfold nextIndex at hEq ⊢
        rw [hLength] at hEq
        exact hEq.trans h.next
      change watch StreamView.accept view (state.closeActive.2 ++ _) = none
      rw [watch_append, watch_closeActive h hLive, Option.bind_some, watch, StreamView.accept,
        if_neg fun hFits => hFull hFits.2.2]
      rfl
    | arguments arguments =>
      have hNonempty : arguments ≠ "" := fun hEmpty => hNot (Or.inl hEmpty)
      have hPhase : state.phase ≠ .toolCallStreaming := fun hPhase => hNot (Or.inr hPhase)
      have hOther : ∀ index delta, view.accept (.argumentsDelta index delta) = none := by
        intro index delta
        cases hOpened : view.opened with
        | none => simp [StreamView.accept, hOpened]
        | some item =>
          cases item with
          | message opened text => simp [StreamView.accept, hOpened]
          | functionCall opened callId fnName received =>
            exact absurd (h.view_opened.2.mpr ⟨_, _, _, _, hOpened⟩) hPhase
      simp [piece, appendArguments, hNonempty, watch, hOther]

end

end

/-- A state that has opened the stream, with the view of its client. -/
def Opened (state : ResponsesEventState) (view : StreamView) : Prop :=
  state.Tracks view ∧ state.hasEmittedInit = true

theorem piece_tracks (state : ResponsesEventState) (view : StreamView) (piece : Piece)
    (h : state.Opened view) (hOk : state.PieceOk piece) :
    ∃ view', watch StreamView.accept view (state.piece piece).2 = some view' ∧
      (state.piece piece).1.Opened view' := by
  cases piece with
  | text content => exact text_tracks h.1 h.2 hOk
  | call callId fnName => exact call_tracks h.1 h.2 hOk
  | arguments arguments => exact arguments_tracks h.1 h.2 hOk

/-! ## One call -/

end ResponsesEventState

/-- The calls that `ai-proxy` makes. The usage is written into the state before the end. -/
inductive StreamInput where
  | chunk (chunkJson : String)
  | done (usage : ResponsesUsage)
  | error (message : String)

def StreamInput.isTerminal : StreamInput → Bool
  | .chunk _ => false
  | .done _ | .error _ => true

namespace ResponsesEventState

variable (J : JsonText)

def step (state : ResponsesEventState) : StreamInput → ResponsesEventState × List ResponsesEvent
  | .chunk chunkJson => state.processChatChunk J chunkJson
  | .done usage => { state with usage }.processDone
  | .error message => state.processError message

/-- The delta of a chunk text, and the state that has noted the model of the chunk. -/
def readChunk (state : ResponsesEventState) (chunkJson : String) :
    ResponsesEventState × Option Json :=
  match J.parse chunkJson with
  | .error _ => (state, none)
  | .ok chunk =>
    (state.noteModel chunk, (Chunk.firstChoice chunk).bind fun choice => choice.get "delta")

/-- When a client can read what a call adds: nothing comes after the end, an end comes after
the beginning, an error leaves no item open, and argument deltas have an open tool call. -/
def InputOk (state : ResponsesEventState) : StreamInput → Prop
  | .chunk chunkJson =>
    match (state.readChunk J chunkJson).2 with
    | none => True
    | some delta =>
      Conforms piece PieceOk (state.readChunk J chunkJson).1.emitInit.1 (piecesOf delta)
  | .done _ => state.phase = .done ∨ state.hasEmittedInit = true
  | .error _ => state.phase = .init

theorem processChatChunk_eq (state : ResponsesEventState) (chunkJson : String) :
    state.processChatChunk J chunkJson =
      match (state.readChunk J chunkJson).2 with
      | none => ((state.readChunk J chunkJson).1, [])
      | some delta => (state.readChunk J chunkJson).1.processDelta delta := by
  unfold processChatChunk readChunk
  cases J.parse chunkJson with
  | error e => rfl
  | ok chunk =>
    cases hDelta : (Chunk.firstChoice chunk).bind fun choice => choice.get "delta" with
    | none | some delta => simp only [hDelta]

variable {state : ResponsesEventState} {view : StreamView}

theorem Tracks.noted (h : state.Tracks view) (chunkJson : String) :
    (state.readChunk J chunkJson).1.Tracks view := by
  have hModel : ∀ model, ({ state with model } : ResponsesEventState).Tracks view := by
    intro model
    refine ⟨h.created, h.finished, h.next, ?_, h.fresh⟩
    have hShows := h.shows
    cases hOpened : view.opened with
    | none =>
      rw [hOpened] at hShows
      exact hShows
    | some item =>
      rw [hOpened] at hShows
      cases item <;> exact hShows
  unfold readChunk
  split
  · exact h
  · unfold noteModel
    split
    · split
      · exact hModel _
      · exact h
    · exact h

theorem Tracks.withUsage {state : ResponsesEventState} {view : StreamView} (h : state.Tracks view)
    (usage : ResponsesUsage) : ({ state with usage } : ResponsesEventState).Tracks view := by
  refine ⟨h.created, h.finished, h.next, ?_, h.fresh⟩
  have hShows := h.shows
  cases hOpened : view.opened with
  | none =>
    rw [hOpened] at hShows
    exact hShows
  | some item =>
    rw [hOpened] at hShows
    cases item <;> exact hShows

theorem Tracks.opened_none {state : ResponsesEventState} {view : StreamView}
    (h : state.Tracks view) (hPhase : state.phase = .init) :
    view.opened = none ∧ state.outputItems = [] := by
  have hShows := h.shows
  cases hOpened : view.opened with
  | some item =>
    rw [hOpened] at hShows
    cases item with
    | message index text | functionCall index callId fnName arguments =>
      exact absurd (hPhase.symm.trans hShows.1) (by decide)
  | none =>
    rw [hOpened] at hShows
    rcases hShows with ⟨-, hItems⟩ | hDone
    · exact ⟨rfl, hItems⟩
    · exact absurd (hPhase.symm.trans hDone) (by decide)

theorem Tracks.view_initial (h : state.Tracks view) (hInit : state.hasEmittedInit = false) :
    view = .initial := by
  have hPhase := h.fresh hInit
  have hCreated : view.created = false := h.created.trans hInit
  have hFinished : view.finished = false := by
    rw [← Bool.not_eq_true, h.finished, hPhase]
    decide
  obtain ⟨hOpened, hItems⟩ := h.opened_none hPhase
  have hNext : view.next = 0 := by rw [h.next, hItems, List.length_nil]
  obtain ⟨created, finished, next, opened⟩ := view
  simp only at hCreated hFinished hNext hOpened
  rw [hCreated, hFinished, hNext, hOpened]
  rfl

theorem emitInit_tracks {state : ResponsesEventState} {view : StreamView} (h : state.Tracks view) :
    ∃ view', watch StreamView.accept view state.emitInit.2 = some view' ∧
      state.emitInit.1.Opened view' := by
  cases hInit : state.hasEmittedInit with
  | true =>
    have hNothing : state.emitInit = (state, []) := by simp [emitInit, hInit]
    rw [hNothing]
    exact ⟨view, rfl, h, hInit⟩
  | false =>
    have hPhase := h.fresh hInit
    have hView := h.view_initial hInit
    have hItems : state.outputItems = [] := by
      have hNext := h.next
      rw [hView] at hNext
      exact List.eq_nil_of_length_eq_zero hNext.symm
    have hEmitted : state.emitInit = ({ state with hasEmittedInit := true },
        [.created state.responseId state.model, .inProgress state.responseId state.model]) := by
      simp [emitInit, hInit]
    rw [hEmitted, hView]
    refine ⟨{ StreamView.initial with created := true }, rfl, ⟨rfl, ?_, ?_, ?_, nofun⟩, rfl⟩
    · simp [StreamView.initial, hPhase]
    · simp [StreamView.initial, hItems]
    · exact Or.inl ⟨hPhase, hItems⟩

theorem closeAll_tracks (h : state.Opened view) (hPhase : state.phase ≠ .done) :
    ∃ view', watch StreamView.accept view state.closeAll.2 = some view' ∧
      state.closeAll.1.Tracks view' := by
  have hLive := h.1.live h.2 hPhase
  have hClosed : view.close.Live := hLive
  obtain ⟨-, hEmitted, hLength⟩ := state.closeActive_kept
  refine ⟨{ view.close with finished := true }, ?_, ⟨?_, ?_, ?_, ?_, ?_⟩⟩
  · change watch StreamView.accept view (state.closeActive.2 ++ _) = _
    rw [watch_append, watch_closeActive h.1 hLive, Option.bind_some, watch, StreamView.accept,
      if_pos ⟨hClosed, rfl⟩]
    rfl
  · exact h.1.created.trans hEmitted.symm
  · exact ⟨fun _ => rfl, fun _ => rfl⟩
  · exact h.1.next.trans hLength.symm
  · exact Or.inr rfl
  · intro hFresh
    exact absurd ((hEmitted.trans h.2).symm.trans hFresh) (by decide)

theorem input_tracks (state : ResponsesEventState) (view : StreamView) (input : StreamInput)
    (h : state.Tracks view) (hOk : state.InputOk J input) :
    ∃ view', watch StreamView.accept view (state.step J input).2 = some view' ∧
      (state.step J input).1.Tracks view' := by
  cases input with
  | chunk chunkJson =>
    have hNoted := h.noted J chunkJson
    rw [step, processChatChunk_eq]
    rw [InputOk] at hOk
    cases hDelta : (state.readChunk J chunkJson).2 with
    | none => exact ⟨view, rfl, hNoted⟩
    | some delta =>
      rw [hDelta] at hOk
      obtain ⟨view', hWatch, hOpened⟩ := emitInit_tracks hNoted
      obtain ⟨view'', hWatch', hOpened'⟩ := watch_run piece_tracks hOpened hOk
      refine ⟨view'', ?_, ?_⟩
      · dsimp only
        rw [processDelta_eq, watch_append, hWatch]
        exact hWatch'
      · dsimp only
        rw [processDelta_eq]
        exact hOpened'.1
  | done usage =>
    have hUsage := h.withUsage usage
    by_cases hPhase : state.phase = .done
    · have hNothing : state.step J (.done usage) = ({ state with usage }, []) := by
        simp [step, processDone, hPhase]
      rw [hNothing]
      exact ⟨view, rfl, hUsage⟩
    · have hInit := hOk.resolve_left hPhase
      have hClose : state.step J (.done usage) =
          ({ state with usage } : ResponsesEventState).closeAll := by
        simp [step, processDone, hPhase]
      rw [hClose]
      exact closeAll_tracks ⟨hUsage, hInit⟩ hPhase
  | error message =>
    have hPhase : state.phase = .init := hOk
    obtain ⟨view', hWatch, hCreated, hLive, hOpened, hNext⟩ : ∃ view', watch StreamView.accept view
          (if state.hasEmittedInit then [] else [.created state.responseId state.model]) =
            some view' ∧ view'.created = true ∧ view'.Live ∧ view'.opened = none ∧
            view'.next = view.next := by
      cases hInit : state.hasEmittedInit with
      | true =>
        have hLive := h.live hInit (by rw [hPhase]; decide)
        exact ⟨view, rfl, hLive.1, hLive, (h.opened_none hPhase).1, rfl⟩
      | false =>
        rw [h.view_initial hInit]
        exact ⟨{ StreamView.initial with created := true }, rfl, rfl, ⟨rfl, rfl⟩, rfl, rfl⟩
    refine ⟨{ view' with finished := true }, ?_, ⟨hCreated, ?_, ?_, ?_, nofun⟩⟩
    · change watch StreamView.accept view (_ ++ _) = _
      rw [watch_append, hWatch, Option.bind_some, watch, StreamView.accept, if_pos ⟨hLive, hOpened⟩]
      rfl
    · exact ⟨fun _ => rfl, fun _ => rfl⟩
    · exact hNext.trans h.next
    · dsimp only
      rw [hOpened]
      exact Or.inr rfl

theorem input_refused (state : ResponsesEventState) (view : StreamView) (input : StreamInput)
    (h : state.Tracks view) (hNot : ¬ state.InputOk J input) :
    watch StreamView.accept view (state.step J input).2 = none := by
  cases input with
  | chunk chunkJson =>
    have hNoted := h.noted J chunkJson
    rw [step, processChatChunk_eq]
    rw [InputOk] at hNot
    cases hDelta : (state.readChunk J chunkJson).2 with
    | none =>
      rw [hDelta] at hNot
      exact absurd trivial hNot
    | some delta =>
      rw [hDelta] at hNot
      obtain ⟨view', hWatch, hOpened⟩ := emitInit_tracks hNoted
      dsimp only
      rw [processDelta_eq, watch_append, hWatch]
      exact watch_run_none piece_tracks (fun _ _ _ hOpened hBad =>
        piece_refused hOpened.1 hOpened.2 hBad) hOpened hNot
  | done usage =>
    obtain ⟨hPhase, hInit⟩ := not_or.mp hNot
    have hInit : state.hasEmittedInit = false := by simpa using hInit
    have hView := h.view_initial hInit
    have hClose : state.step J (.done usage) =
        ({ state with usage } : ResponsesEventState).closeAll := by
      simp [step, processDone, hPhase]
    have hEvents : ({ state with usage } : ResponsesEventState).closeAll.2 =
        [.completed state.responseId state.model state.outputItems usage] := by
      simp [closeAll, closeActive, h.fresh hInit]
    rw [hClose, hEvents, hView]
    rfl
  | error message =>
    have hPhase : state.phase ≠ .init := hNot
    have hInit : state.hasEmittedInit = true := by
      cases hInit : state.hasEmittedInit with
      | true => rfl
      | false => exact absurd (h.fresh hInit) hPhase
    have hEvents : (state.step J (.error message)).2 = [.failed state.responseId message] := by
      simp [step, processError, hInit]
    rw [hEvents, watch, StreamView.accept, if_neg]
    · rfl
    · rintro ⟨hLive, hOpened⟩
      have hShows := h.shows
      rw [hOpened] at hShows
      rcases hShows with ⟨hFresh, -⟩ | hDone
      · exact hPhase hFresh
      · exact absurd (h.finished.mpr hDone) (by rw [hLive.2]; decide)

/-! ## Runs -/

theorem tracks_new (responseId : String) : (new responseId).Tracks .initial :=
  ⟨rfl, ⟨nofun, nofun⟩, rfl, Or.inl ⟨rfl, rfl⟩, fun _ => rfl⟩

theorem terminal_phase (state : ResponsesEventState) {input : StreamInput}
    (h : input.isTerminal = true) : (state.step J input).1.phase = .done := by
  cases input with
  | chunk chunkJson => cases h
  | done usage =>
    by_cases hPhase : state.phase = .done
    · simp [step, processDone, hPhase]
    · simp [step, processDone, hPhase, closeAll]
  | error message => rfl

/-- After a terminal call a client has the whole stream. -/
theorem finished_of_terminal {state : ResponsesEventState} {view : StreamView}
    (h : state.Tracks view) {inputs : List StreamInput}
    (hOk : Conforms (step J) (InputOk J) state inputs)
    (hTerminal : ∃ input ∈ inputs, input.isTerminal = true) :
    ∃ view', watch StreamView.accept view (run (step J) state inputs).2 = some view' ∧
      view'.finished = true := by
  induction inputs generalizing state view with
  | nil =>
    obtain ⟨input, hMem, -⟩ := hTerminal
    cases hMem
  | cons input inputs ih =>
    obtain ⟨view', hWatch, hTracks⟩ := input_tracks J state view input h hOk.1
    cases hHead : input.isTerminal with
    | true =>
      have hPhase := state.terminal_phase J hHead
      have hInit : (state.step J input).1.hasEmittedInit = true := by
        cases hInit : (state.step J input).1.hasEmittedInit with
        | true => rfl
        | false => exact absurd ((hTracks.fresh hInit).symm.trans hPhase) (by decide)
      obtain ⟨view'', hRest, -⟩ := watch_run (input_tracks J) hTracks hOk.2
      have hNothing : (run (step J) (state.step J input).1 inputs).2 = [] := by
        by_contra hNe
        rw [watch_done hTracks hInit hPhase hNe] at hRest
        cases hRest
      refine ⟨view', ?_, hTracks.finished.mpr hPhase⟩
      rw [run, hNothing, List.append_nil, hWatch]
    | false =>
      obtain ⟨other, hMem, hOther⟩ := hTerminal
      have hRest : other ∈ inputs := by
        rcases List.mem_cons.mp hMem with rfl | hRest
        · rw [hHead] at hOther
          cases hOther
        · exact hRest
      obtain ⟨view'', hWatch', hFinished⟩ := ih hTracks hOk.2 ⟨other, hRest, hOther⟩
      refine ⟨view'', ?_, hFinished⟩
      rw [run, watch_append, hWatch]
      exact hWatch'

end ResponsesEventState

/-- The events of some calls are a Responses stream, which has ended if one of the calls was
a terminal one. -/
def ValidStream (J : JsonText) (responseId : String) (inputs : List StreamInput) : Prop :=
  ∃ view, watch StreamView.accept .initial
      (run (ResponsesEventState.step J) (.new responseId) inputs).2 = some view ∧
    ((∃ input ∈ inputs, input.isTerminal = true) → view.finished = true)

/-- The stream is valid if and only if every call meets its condition. -/
theorem validStream_iff (J : JsonText) (responseId : String) (inputs : List StreamInput) :
    ValidStream J responseId inputs ↔
      Conforms (ResponsesEventState.step J) (ResponsesEventState.InputOk J) (.new responseId)
        inputs := by
  have hNew := tracks_new responseId
  constructor
  · rintro ⟨view, hWatch, -⟩
    rw [← watch_run_isSome_iff (input_tracks J) (input_refused J) hNew, hWatch]
    rfl
  · intro hOk
    by_cases hTerminal : ∃ input ∈ inputs, input.isTerminal = true
    · obtain ⟨view, hWatch, hFinished⟩ := finished_of_terminal J hNew hOk hTerminal
      exact ⟨view, hWatch, fun _ => hFinished⟩
    · obtain ⟨view, hWatch, -⟩ := watch_run (input_tracks J) hNew hOk
      exact ⟨view, hWatch, fun h => absurd h hTerminal⟩

/-- A stream of no chunks ends with `response.completed` and nothing before it. -/
theorem empty_stream_invalid : ¬ ValidStream .compact "resp_1" [.done .default] := by
  rintro ⟨view, hWatch, -⟩
  cases hWatch

end KongRust.Ai
