import KongRust.Foundation.Text

/-!
# Server-sent events

`SseParser` cuts the text of a stream into events, across the chunks in which it arrives. The
standard format ends an event with an empty line; NDJSON has one JSON value a line.
-/

namespace KongRust.Ai

open KongRust KongRust.Text

structure SseEvent where
  eventType : String
  data : String
  id : Option String
  deriving DecidableEq

def SseEvent.message (data : String) : SseEvent := ⟨"message", data, none⟩

def trimmed (s : String) : String := String.ofList (trim s.toList)

/-- `is_done`. -/
def SseEvent.isDone (event : SseEvent) : Bool := trimmed event.data == "[DONE]"

theorem SseEvent.isDone_of_head {event : SseEvent} (h : event.data.toList.head? = some '{') :
    event.isDone = false := by
  obtain ⟨rest, hData⟩ := List.head?_eq_some_iff.mp h
  obtain ⟨t, hTrim⟩ := trim_cons (c := '{') (by decide) rest
  unfold SseEvent.isDone trimmed
  rw [hData, hTrim, beq_eq_false_iff_ne]
  intro hEq
  have hText : '{' :: t = "[DONE]".toList := by rw [← hEq, String.toList_ofList]
  exact absurd (List.cons.inj hText).1 (by decide)

inductive SseFormat where
  | standard
  | ndjson
  deriving DecidableEq

structure SseParser where
  format : SseFormat
  buffer : List Char
  deriving DecidableEq

namespace SseParser

def new (format : SseFormat) : SseParser := ⟨format, []⟩

/-! ## One event -/

def stripReturn (line : List Char) : List Char :=
  if line.getLast? = some '\r' then line.dropLast else line

variable (text : List Char)

/-- `str::lines`: a line ends with a line feed, before which a carriage return may stand; the
last one need not end. -/
def lines (text : List Char) : List (List Char) :=
  let pieces := split '\n' text
  pieces.dropLast.map stripReturn ++ (pieces.getLast?.toList.filter fun line => !line.isEmpty)

def trimStart (s : List Char) : List Char := s.dropWhile isWhitespace

structure Fields where
  eventType : String
  dataLines : List (List Char)
  id : Option String

def fieldValue (name : String) (line : List Char) : Option (List Char) :=
  if name.toList.isPrefixOf line then some (trimStart (line.drop name.toList.length)) else none

def readLine (fields : Fields) (line : List Char) : Fields :=
  match fieldValue "data:" line with
  | some value => { fields with dataLines := fields.dataLines ++ [value] }
  | none =>
    match fieldValue "event:" line with
    | some value => { fields with eventType := String.ofList value }
    | none =>
      match fieldValue "id:" line with
      | some value => { fields with id := some (String.ofList value) }
      | none => fields

/-- `parse_single_event`. -/
def parseSingleEvent (text : List Char) : SseEvent :=
  let fields := ((lines text).filter fun line => !line.isEmpty).foldl readLine ⟨"message", [], none⟩
  ⟨fields.eventType, String.ofList (List.intercalate ['\n'] fields.dataLines), fields.id⟩

def withData (event : SseEvent) : List SseEvent := if event.data = "" then [] else [event]

/-! ## Events and lines that are complete -/

/-- The texts before the empty lines, and what is left. -/
def cutEvents : List Char → List (List Char) × List Char
  | [] => ([], [])
  | '\n' :: '\n' :: rest => ([] :: (cutEvents rest).1, (cutEvents rest).2)
  | c :: rest =>
    match cutEvents rest with
    | ([], left) => ([], c :: left)
    | (first :: others, left) => ((c :: first) :: others, left)

/-- The lines that have ended, and what is left. -/
def cutLines : List Char → List (List Char) × List Char
  | [] => ([], [])
  | '\n' :: rest => ([] :: (cutLines rest).1, (cutLines rest).2)
  | c :: rest =>
    match cutLines rest with
    | ([], left) => ([], c :: left)
    | (first :: others, left) => ((c :: first) :: others, left)

/-- An event of the standard format, with the empty line that ended it. -/
def standardEvent (text : List Char) : List SseEvent :=
  withData (parseSingleEvent (text ++ ['\n', '\n']))

def ndjsonEvent (line : List Char) : List SseEvent :=
  let trimmed := trim line
  if trimmed.isEmpty then [] else [.message (String.ofList trimmed)]

variable (parser : SseParser)

/-- `feed`. -/
def feed (parser : SseParser) (chunk : List Char) : SseParser × List SseEvent :=
  let buffer := parser.buffer ++ chunk
  match parser.format with
  | .standard =>
    ({ parser with buffer := (cutEvents buffer).2 }, (cutEvents buffer).1.flatMap standardEvent)
  | .ndjson =>
    ({ parser with buffer := (cutLines buffer).2 }, (cutLines buffer).1.flatMap ndjsonEvent)

/-- `flush`. What is left of the standard format may lack its empty line. -/
def flush (parser : SseParser) : SseParser × List SseEvent :=
  match parser.format with
  | .standard =>
    if (trim parser.buffer).isEmpty then (parser, [])
    else ({ parser with buffer := [] }, withData (parseSingleEvent parser.buffer))
  | .ndjson => ({ parser with buffer := [] }, ndjsonEvent parser.buffer)

/-! ## Texts in chunks -/

theorem cutEvents_left_of_nil {text : List Char} (h : (cutEvents text).1 = []) :
    (cutEvents text).2 = text := by
  fun_induction cutEvents text with
  | case1 => rfl
  | case2 rest ih => cases h
  | case3 c rest hPlain left hCut ih =>
    rw [hCut] at ih
    exact congrArg (c :: ·) (ih rfl)
  | case4 c rest hPlain first others left hCut ih => cases h

theorem cutEvents_append (a b : List Char) : cutEvents (a ++ b) =
    ((cutEvents a).1 ++ (cutEvents ((cutEvents a).2 ++ b)).1,
      (cutEvents ((cutEvents a).2 ++ b)).2) := by
  fun_induction cutEvents a with
  | case1 => rfl
  | case2 rest ih =>
    rw [List.cons_append, List.cons_append, cutEvents, ih]
    rfl
  | case3 c rest hPlain left hCut ih =>
    have hLeft : left = rest := by
      have h : (cutEvents rest).2 = rest := cutEvents_left_of_nil (by rw [hCut])
      rwa [hCut] at h
    rw [hLeft]
    rfl
  | case4 c rest hPlain first others left hCut ih =>
    have hNext : ∀ tail, c = '\n' → rest ++ b = '\n' :: tail → False := by
      intro tail hc hTail
      cases rest with
      | nil => cases hCut
      | cons d rest =>
        obtain ⟨rfl, -⟩ := List.cons.inj hTail
        exact hPlain rest hc rfl
    rw [hCut] at ih
    rw [List.cons_append, cutEvents.eq_3 c (rest ++ b) hNext, ih]
    rfl

theorem cutLines_left_of_nil {text : List Char} (h : (cutLines text).1 = []) :
    (cutLines text).2 = text := by
  fun_induction cutLines text with
  | case1 => rfl
  | case2 rest ih => cases h
  | case3 c rest hPlain left hCut ih =>
    rw [hCut] at ih
    exact congrArg (c :: ·) (ih rfl)
  | case4 c rest hPlain first others left hCut ih => cases h

theorem cutLines_append (a b : List Char) : cutLines (a ++ b) =
    ((cutLines a).1 ++ (cutLines ((cutLines a).2 ++ b)).1,
      (cutLines ((cutLines a).2 ++ b)).2) := by
  fun_induction cutLines a with
  | case1 => rfl
  | case2 rest ih =>
    rw [List.cons_append, cutLines, ih]
    rfl
  | case3 c rest hPlain left hCut ih =>
    have hLeft : left = rest := by
      have h : (cutLines rest).2 = rest := cutLines_left_of_nil (by rw [hCut])
      rwa [hCut] at h
    rw [hLeft]
    rfl
  | case4 c rest hPlain first others left hCut ih =>
    rw [hCut] at ih
    rw [List.cons_append, cutLines.eq_3 c (rest ++ b) hPlain, ih]
    rfl

theorem cut_left {cut : List Char → List (List Char) × List Char} (hAppend : ∀ a b, cut (a ++ b) =
      ((cut a).1 ++ (cut ((cut a).2 ++ b)).1, (cut ((cut a).2 ++ b)).2))
    (text : List Char) : cut (cut text).2 = ([], (cut text).2) := by
  have h := hAppend text []
  rw [List.append_nil, List.append_nil] at h
  have hNil : (cut (cut text).2).1 = [] := List.append_right_eq_self.mp (congrArg Prod.fst h).symm
  exact Prod.ext hNil (congrArg Prod.snd h).symm

theorem feed_append (a b : List Char) : parser.feed (a ++ b) =
    (((parser.feed a).1.feed b).1, (parser.feed a).2 ++ ((parser.feed a).1.feed b).2) := by
  obtain ⟨format, buffer⟩ := parser
  cases format with
  | standard =>
    simp only [feed]
    rw [← List.append_assoc, cutEvents_append, List.flatMap_append]
  | ndjson =>
    simp only [feed]
    rw [← List.append_assoc, cutLines_append, List.flatMap_append]

theorem feed_feed_nil (text : List Char) :
    (parser.feed text).1.feed [] = ((parser.feed text).1, []) := by
  obtain ⟨format, buffer⟩ := parser
  cases format with
  | standard =>
    simp only [feed, List.append_nil]
    rw [cut_left cutEvents_append]
    rfl
  | ndjson =>
    simp only [feed, List.append_nil]
    rw [cut_left cutLines_append]
    rfl

end SseParser

end KongRust.Ai
