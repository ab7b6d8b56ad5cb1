import KongRust.Ai.Sse

/-!
# Event streams as they are written

A stream of events by the grammar of its format, and what `SseParser` makes of it, however it is cut
into chunks. The parser ends an event only at two line feeds, and drops all white space in front of
a value.
-/

namespace KongRust.Ai

open KongRust KongRust.Text SseParser

inductive LineEnd where
  | lf
  | crlf
  | cr
  deriving DecidableEq

def LineEnd.text : LineEnd → List Char
  | .lf => ['\n']
  | .crlf => ['\r', '\n']
  | .cr => ['\r']

/-- A line of an event, with or without the space after the colon. -/
inductive FieldLine where
  | data (space : Bool) (value : List Char)
  | event (space : Bool) (value : List Char)
  | id (space : Bool) (value : List Char)
  | retry (space : Bool) (value : List Char)
  | comment (text : List Char)

namespace FieldLine

def spelled (name : String) (space : Bool) (value : List Char) : List Char :=
  name.toList ++ ((if space then [' '] else []) ++ value)

def text : FieldLine → List Char
  | .data space value => spelled "data:" space value
  | .event space value => spelled "event:" space value
  | .id space value => spelled "id:" space value
  | .retry space value => spelled "retry:" space value
  | .comment text => ':' :: text

def Unambiguous : FieldLine → Prop
  | .data space value | .event space value | .id space value | .retry space value =>
    space = true ∨ value.head? ≠ some ' '
  | .comment _ => True

/-- A line has no line ends in it, and its value is what it was written for. -/
structure Valid (line : FieldLine) : Prop where
  noEnds : ∀ c ∈ line.text, c ≠ '\n' ∧ c ≠ '\r'
  unambiguous : line.Unambiguous

def read (fields : SseParser.Fields) : FieldLine → SseParser.Fields
  | .data _ value => { fields with dataLines := fields.dataLines ++ [value] }
  | .event _ value => { fields with eventType := String.ofList value }
  | .id _ value => { fields with id := some (String.ofList value) }
  | .retry _ _ | .comment _ => fields

def trimmedStart : FieldLine → FieldLine
  | .data space value => .data space (SseParser.trimStart value)
  | .event space value => .event space (SseParser.trimStart value)
  | .id space value => .id space (SseParser.trimStart value)
  | other => other

end FieldLine

/-- The event that some lines make: its data lines joined, the last type and the last identifier. -/
def eventOf (lines : List FieldLine) : SseEvent :=
  let fields := lines.foldl FieldLine.read ⟨"message", [], none⟩
  ⟨fields.eventType, String.ofList (List.intercalate ['\n'] fields.dataLines), fields.id⟩

def given (lines : List FieldLine) : List SseEvent := SseParser.withData (eventOf lines)

/-- The lines of an event with their ends, and the end of the empty line behind them. -/
structure Block where
  lines : List (FieldLine × LineEnd)
  blank : LineEnd

namespace Block

def text (block : Block) : List Char :=
  block.lines.flatMap (fun line => line.1.text ++ line.2.text) ++ block.blank.text

def fields (block : Block) : List FieldLine := block.lines.map Prod.fst

def Valid (block : Block) : Prop := ∀ line ∈ block.fields, line.Valid

/-- No line ends with a carriage return alone, and the empty line is a line feed. -/
structure Plain (block : Block) : Prop where
  lines : ∀ line ∈ block.lines, line.2 ≠ .cr
  blank : block.blank = .lf

def uniform (lineEnd : LineEnd) (lines : List FieldLine) : Block :=
  ⟨lines.map fun line => (line, lineEnd), lineEnd⟩

end Block

def streamText (blocks : List Block) : List Char := blocks.flatMap Block.text

namespace SseParser

/-- The parser after some chunks, and the events it has given out. -/
def feedAll (parser : SseParser) : List (List Char) → SseParser × List SseEvent
  | [] => (parser, [])
  | chunk :: chunks =>
    let fed := parser.feed chunk
    let rest := feedAll fed.1 chunks
    (rest.1, fed.2 ++ rest.2)

variable (chunks : List (List Char))

def parse (chunks : List (List Char)) : List SseEvent :=
  let fed := (new .standard).feedAll chunks
  fed.2 ++ fed.1.flush.2

/-! ## Cutting -/

theorem feedAll_flatten {parser : SseParser} {chunks : List (List Char)}
    (hStart : parser.feed [] = (parser, [])) :
    parser.feedAll chunks = parser.feed chunks.flatten := by
  induction chunks generalizing parser with
  | nil => exact hStart.symm
  | cons chunk chunks ih =>
    rw [List.flatten_cons, feed_append, feedAll, ih (feed_feed_nil parser chunk)]

theorem parse_eq :
    parse chunks = (cutEvents chunks.flatten).1.flatMap standardEvent ++
      (flush ⟨.standard, (cutEvents chunks.flatten).2⟩).2 := by
  unfold parse
  rw [feedAll_flatten rfl]
  rfl

theorem flush_standard (text : List Char) : (flush ⟨.standard, text⟩).2 =
    if (trim text).isEmpty then [] else withData (parseSingleEvent text) := by
  unfold flush
  dsimp only
  split <;> rfl

def Apart (text : List Char) : Prop := text.IsChain fun a b => ¬ (a = '\n' ∧ b = '\n')

theorem cutEvents_apart {text : List Char} (h : Apart text) : cutEvents text = ([], text) := by
  induction text with
  | nil => rfl
  | cons c text ih =>
    have hPlain : ∀ tail, c = '\n' → text = '\n' :: tail → False := by
      rintro tail rfl rfl
      exact (List.isChain_cons_cons.mp h).1 ⟨rfl, rfl⟩
    rw [cutEvents.eq_3 c text hPlain, ih (List.IsChain.of_cons h)]

theorem cutEvents_break {text : List Char} (h : Apart (text ++ ['\n'])) (rest : List Char) :
    cutEvents (text ++ '\n' :: '\n' :: rest) =
      (text :: (cutEvents rest).1, (cutEvents rest).2) := by
  induction text with
  | nil => rw [List.nil_append, cutEvents]
  | cons c text ih =>
    rw [List.cons_append] at h
    have hPlain : ∀ tail, c = '\n' → text ++ '\n' :: '\n' :: rest = '\n' :: tail → False := by
      rintro tail rfl hTail
      cases text with
      | nil => exact (List.isChain_cons_cons.mp h).1 ⟨rfl, rfl⟩
      | cons d text =>
        obtain ⟨rfl, -⟩ := List.cons.inj hTail
        exact (List.isChain_cons_cons.mp h).1 ⟨rfl, rfl⟩
    rw [List.cons_append, cutEvents.eq_3 c _ hPlain, ih (List.IsChain.of_cons h)]

/-! ## Reading lines -/

variable {line : List Char}

theorem lines_append (h : '\n' ∉ line) (rest : List Char) :
    lines (line ++ '\n' :: rest) = stripReturn line :: lines rest := by
  have hNe : split '\n' rest ≠ [] := split_ne_nil '\n' rest
  unfold lines
  rw [split_append h]
  simp [List.dropLast_cons_of_ne_nil hNe, List.getLast?_cons_of_ne_nil hNe]

def filled (text : List Char) : List (List Char) := (lines text).filter fun line => !line.isEmpty

theorem filled_append (h : '\n' ∉ line) (rest : List Char) : filled (line ++ '\n' :: rest) =
      (if (stripReturn line).isEmpty then [] else [stripReturn line]) ++ filled rest := by
  unfold filled
  rw [lines_append h, List.filter_cons]
  cases (stripReturn line).isEmpty <;> rfl

@[simp] theorem filled_nil : filled [] = [] := rfl

@[simp] theorem filled_newline (rest : List Char) : filled ('\n' :: rest) = filled rest := by
  have h := filled_append (show '\n' ∉ ([] : List Char) by simp) rest
  rw [List.nil_append] at h
  rw [h]
  rfl

@[simp] theorem filled_return_newline (rest : List Char) :
    filled ('\r' :: '\n' :: rest) = filled rest := by
  have h := filled_append (show '\n' ∉ ['\r'] by simp) rest
  rw [List.cons_append, List.nil_append] at h
  rw [h]
  rfl

theorem stripReturn_of_not_mem (h : '\r' ∉ line) : stripReturn line = line := by
  unfold stripReturn
  rw [if_neg]
  intro hLast
  exact h (List.mem_of_getLast? hLast)

theorem stripReturn_return (line : List Char) : stripReturn (line ++ ['\r']) = line := by
  simp [stripReturn]

end SseParser

theorem FieldLine.text_ne_nil (line : FieldLine) : line.text ≠ [] := by
  cases line <;> simp [text, spelled]

theorem filled_line {line : FieldLine} (h : line.Valid) {lineEnd : LineEnd}
    (hEnd : lineEnd ≠ .cr) (rest : List Char) :
    filled (line.text ++ lineEnd.text ++ rest) = line.text :: filled rest := by
  have hFeed : '\n' ∉ line.text := fun hMem => (h.noEnds _ hMem).1 rfl
  have hReturn : '\r' ∉ line.text := fun hMem => (h.noEnds _ hMem).2 rfl
  have hNe : line.text.isEmpty = false := by
    rw [List.isEmpty_eq_false_iff]
    exact line.text_ne_nil
  cases lineEnd with
  | lf =>
    rw [List.append_assoc]
    change filled (line.text ++ '\n' :: rest) = _
    rw [filled_append hFeed, stripReturn_of_not_mem hReturn, hNe]
    rfl
  | crlf =>
    have hSplit : line.text ++ LineEnd.crlf.text ++ rest =
        (line.text ++ ['\r']) ++ '\n' :: rest := by
      simp [LineEnd.text]
    have hFeedReturn : '\n' ∉ line.text ++ ['\r'] := by
      simp [hFeed]
    rw [hSplit, filled_append hFeedReturn, stripReturn_return, hNe]
    rfl
  | cr => exact absurd rfl hEnd

theorem fieldValue_spelled (name : String) (space : Bool) (value : List Char) :
    fieldValue name (FieldLine.spelled name space value) =
      some (trimStart value) := by
  unfold fieldValue FieldLine.spelled
  rw [if_pos (List.isPrefixOf_iff_prefix.mpr (List.prefix_append _ _)), List.drop_left]
  cases space with
  | false | true => rfl

theorem readLine_text (fields : Fields) (line : FieldLine) :
    readLine fields line.text = line.trimmedStart.read fields := by
  cases line with
  | data space value =>
    unfold readLine FieldLine.text
    rw [fieldValue_spelled]
    rfl
  | event space value =>
    have hData : fieldValue "data:" (FieldLine.spelled "event:" space value) = none := rfl
    unfold readLine FieldLine.text
    rw [hData, fieldValue_spelled]
    rfl
  | id space value =>
    have hData : fieldValue "data:" (FieldLine.spelled "id:" space value) = none := rfl
    have hEvent : fieldValue "event:" (FieldLine.spelled "id:" space value) = none := rfl
    unfold readLine FieldLine.text
    rw [hData, hEvent, fieldValue_spelled]
    rfl
  | retry space value | comment text => rfl

theorem foldl_readLine (lines : List FieldLine) (fields : Fields) :
    (lines.map FieldLine.text).foldl readLine fields =
      (lines.map FieldLine.trimmedStart).foldl FieldLine.read fields := by
  induction lines generalizing fields with
  | nil => rfl
  | cons line lines ih =>
    rw [List.map_cons, List.foldl_cons, List.map_cons, List.foldl_cons, readLine_text, ih]

variable {lines : List FieldLine}

theorem SseParser.parseSingleEvent_of_filled {text : List Char}
    (h : filled text = lines.map FieldLine.text) :
    parseSingleEvent text = eventOf (lines.map FieldLine.trimmedStart) := by
  unfold filled at h
  unfold parseSingleEvent eventOf
  rw [h, foldl_readLine]

/-! ## Which texts have no two line feeds in a row -/

section Apart

open SseParser

theorem apart_of_not_mem {text : List Char} (h : '\n' ∉ text) : Apart text := by
  induction text with
  | nil => exact .nil
  | cons c text ih =>
    rw [List.mem_cons, not_or] at h
    refine List.isChain_cons.mpr ⟨?_, ih h.2⟩
    rintro d - ⟨rfl, -⟩
    exact h.1 rfl

/-- A piece of a text that begins with no line feed. -/
structure TextPiece (text : List Char) : Prop where
  apart : Apart text
  head : text.head? ≠ some '\n'

theorem TextPiece.append {a b : List Char} (ha : TextPiece a) (hb : TextPiece b) :
    TextPiece (a ++ b) := by
  refine ⟨?_, ?_⟩
  · refine List.isChain_append.mpr ⟨ha.apart, hb.apart, ?_⟩
    rintro c - d hD ⟨-, rfl⟩
    exact hb.head hD
  · cases a with
    | nil => exact hb.head
    | cons c a => exact ha.head

theorem TextPiece.flatMap {α : Type} {f : α → List Char} {l : List α}
    (h : ∀ a ∈ l, TextPiece (f a)) : TextPiece (l.flatMap f) := by
  induction l with
  | nil => exact ⟨.nil, nofun⟩
  | cons a l ih =>
    obtain ⟨hHead, hTail⟩ := List.forall_mem_cons.mp h
    rw [List.flatMap_cons]
    exact hHead.append (ih hTail)

theorem FieldLine.piece {line : FieldLine} (h : line.Valid) (lineEnd : LineEnd) :
    TextPiece (line.text ++ lineEnd.text) := by
  have hFeed : '\n' ∉ line.text := fun hMem => (h.noEnds _ hMem).1 rfl
  refine ⟨?_, ?_⟩
  · refine List.isChain_append.mpr ⟨apart_of_not_mem hFeed, ?_, ?_⟩
    · cases lineEnd <;> simp [LineEnd.text]
    · rintro c hC d - ⟨rfl, -⟩
      exact hFeed (List.mem_of_getLast? hC)
  · cases hText : line.text with
    | nil => exact absurd hText line.text_ne_nil
    | cons c text =>
      rw [List.cons_append, List.head?_cons, Ne, Option.some.injEq]
      rintro rfl
      exact hFeed (hText ▸ List.mem_cons_self)

end Apart

/-! ## Events that end with two line feeds -/

namespace Block

def body (block : Block) : List Char := block.lines.flatMap fun line => line.1.text ++ line.2.text

variable {lines : List (FieldLine × LineEnd)}

theorem filled_body (hValid : ∀ line ∈ lines.map Prod.fst, line.Valid)
    (hEnds : ∀ line ∈ lines, line.2 ≠ .cr) (rest : List Char) :
    filled (lines.flatMap (fun line => line.1.text ++ line.2.text) ++ rest) =
      (lines.map Prod.fst).map FieldLine.text ++ filled rest := by
  induction lines with
  | nil => rfl
  | cons line lines ih =>
    obtain ⟨hLine, hLines⟩ := List.forall_mem_cons.mp hValid
    obtain ⟨hEnd, hRest⟩ := List.forall_mem_cons.mp hEnds
    rw [List.flatMap_cons, List.append_assoc, filled_line hLine hEnd, ih hLines hRest]
    rfl

theorem body_piece {block : Block} (hValid : block.Valid) : TextPiece block.body := by
  refine TextPiece.flatMap ?_
  intro line hLine
  exact FieldLine.piece (hValid _ (List.mem_map_of_mem hLine)) line.2

theorem body_ends (hNe : lines ≠ []) (hEnds : ∀ line ∈ lines, line.2 ≠ .cr) :
    ∃ front, lines.flatMap (fun line => line.1.text ++ line.2.text) = front ++ ['\n'] := by
  obtain ⟨others, last, rfl⟩ := (List.eq_nil_or_concat lines).resolve_left hNe
  have hLast : last.2 ≠ .cr := hEnds last (by simp)
  rw [List.concat_eq_append, List.flatMap_append, List.flatMap_singleton]
  cases hEnd : last.2 with
  | lf => exact ⟨_, (List.append_assoc _ _ _).symm⟩
  | crlf =>
    refine ⟨others.flatMap (fun line => line.1.text ++ line.2.text) ++ (last.1.text ++ ['\r']), ?_⟩
    simp [LineEnd.text]
  | cr => exact absurd hEnd hLast

end Block

def Rest (text : List Char) : Prop := text = [] ∨ text = ['\n']

/-- An event behind such a rest. -/
theorem cutEvents_block {block : Block} (hValid : block.Valid) (hPlain : block.Plain)
    {left : List Char} (hLeft : Rest left) :
    Rest (cutEvents (left ++ block.text)).2 ∧
      (cutEvents (left ++ block.text)).1.flatMap standardEvent =
        given (block.fields.map FieldLine.trimmedStart) := by
  have hBlank : block.blank.text = ['\n'] := by rw [hPlain.blank]; rfl
  by_cases hNone : block.lines = []
  · have hText : block.text = ['\n'] := by
      rw [Block.text, hNone, hBlank]
      rfl
    have hFields : block.fields = [] := by rw [Block.fields, hNone]; rfl
    rw [hText, hFields]
    rcases hLeft with rfl | rfl
    · exact ⟨.inr rfl, rfl⟩
    · exact ⟨.inl rfl, rfl⟩
  · obtain ⟨front, hFront⟩ := Block.body_ends hNone hPlain.lines
    have hSplit : left ++ block.text = (left ++ front) ++ '\n' :: '\n' :: [] := by
      rw [Block.text, hFront, hBlank]
      simp
    have hApart : Apart ((left ++ front) ++ ['\n']) := by
      rw [List.append_assoc, ← hFront]
      have hBody := Block.body_piece hValid
      rcases hLeft with rfl | rfl
      · exact hBody.apart
      · refine List.isChain_append.mpr ⟨List.isChain_singleton _, hBody.apart, ?_⟩
        rintro c - d hD ⟨-, rfl⟩
        exact hBody.head hD
    have hFilled : filled ((left ++ front) ++ ['\n', '\n']) =
        block.fields.map FieldLine.text := by
      have hBody := Block.filled_body hValid hPlain.lines ['\n']
      rw [hFront] at hBody
      have hShift : (left ++ front) ++ ['\n', '\n'] = left ++ ((front ++ ['\n']) ++ ['\n']) := by
        simp
      rw [hShift]
      rcases hLeft with rfl | rfl
      · rw [List.nil_append, hBody, filled_newline, filled_nil, List.append_nil]
        rfl
      · rw [List.cons_append, List.nil_append, filled_newline, hBody,
          filled_newline, filled_nil, List.append_nil]
        rfl
    rw [hSplit, cutEvents_break hApart]
    refine ⟨.inl rfl, ?_⟩
    change [left ++ front].flatMap standardEvent = _
    rw [List.flatMap_singleton, standardEvent, parseSingleEvent_of_filled hFilled]
    rfl

theorem cutEvents_stream {blocks : List Block} (hValid : ∀ block ∈ blocks, block.Valid)
    (hPlain : ∀ block ∈ blocks, block.Plain) :
    Rest (cutEvents (streamText blocks)).2 ∧
      (cutEvents (streamText blocks)).1.flatMap standardEvent =
        blocks.flatMap fun block => given (block.fields.map FieldLine.trimmedStart) := by
  induction blocks using List.reverseRecOn with
  | nil => exact ⟨.inl rfl, rfl⟩
  | append_singleton blocks block ih =>
    obtain ⟨hLeft, hEvents⟩ := ih (fun b hB => hValid b (List.mem_append_left _ hB))
      (fun b hB => hPlain b (List.mem_append_left _ hB))
    obtain ⟨hRest, hEvent⟩ :=
      cutEvents_block (hValid block (by simp)) (hPlain block (by simp)) hLeft
    have hText : streamText (blocks ++ [block]) = streamText blocks ++ block.text := by
      rw [streamText, List.flatMap_append, List.flatMap_singleton]
      rfl
    rw [hText, cutEvents_append]
    refine ⟨hRest, ?_⟩
    rw [List.flatMap_append, hEvents, hEvent, List.flatMap_append, List.flatMap_singleton]

/-! ## What trimming keeps -/

theorem flatMap_eq_iff {α β : Type} {f g : α → List β} {l : List α}
    (h : ∀ a ∈ l, (g a).length ≤ (f a).length) :
    l.flatMap g = l.flatMap f ↔ ∀ a ∈ l, g a = f a := by
  have hTotal : ∀ {l : List α}, (∀ a ∈ l, (g a).length ≤ (f a).length) →
      (l.flatMap g).length ≤ (l.flatMap f).length := by
    intro l hAll
    induction l with
    | nil => exact Nat.le_refl _
    | cons a l ih =>
      obtain ⟨hHead, hTail⟩ := List.forall_mem_cons.mp hAll
      rw [List.flatMap_cons, List.flatMap_cons, List.length_append, List.length_append]
      exact Nat.add_le_add hHead (ih hTail)
  constructor
  · intro hEq
    induction l with
    | nil => simp
    | cons a l ih =>
      obtain ⟨hHead, hTail⟩ := List.forall_mem_cons.mp h
      rw [List.flatMap_cons, List.flatMap_cons] at hEq
      have hLengths := congrArg List.length hEq
      rw [List.length_append, List.length_append] at hLengths
      have hRest := hTotal hTail
      obtain ⟨hSame, hOthers⟩ := List.append_inj hEq (by omega)
      exact List.forall_mem_cons.mpr ⟨hSame, ih hTail hOthers⟩
  · intro hAll
    exact List.flatMap_congr hAll

def FieldLine.dataValue : FieldLine → Option (List Char)
  | .data _ value => some value
  | _ => none

theorem foldl_read_dataLines (lines : List FieldLine) (fields : Fields) :
    (lines.foldl FieldLine.read fields).dataLines =
      fields.dataLines ++ lines.filterMap FieldLine.dataValue := by
  induction lines generalizing fields with
  | nil => simp
  | cons line lines ih =>
    rw [List.foldl_cons, ih, List.filterMap_cons]
    cases line <;> simp [FieldLine.read, FieldLine.dataValue]

theorem eventOf_data (lines : List FieldLine) : (eventOf lines).data =
    String.ofList (List.intercalate ['\n'] (lines.filterMap FieldLine.dataValue)) := by
  unfold eventOf
  dsimp only
  rw [foldl_read_dataLines]
  rfl

theorem dataValue_trimmed (lines : List FieldLine) :
    (lines.map FieldLine.trimmedStart).filterMap FieldLine.dataValue =
      (lines.filterMap FieldLine.dataValue).map trimStart := by
  rw [List.filterMap_map, List.map_filterMap]
  congr 1
  funext line
  cases line <;> rfl

theorem given_eq_nil :
    given lines = [] ↔ lines.filterMap FieldLine.dataValue = [] ∨
      lines.filterMap FieldLine.dataValue = [[]] := by
  unfold given withData
  rw [eventOf_data]
  generalize lines.filterMap FieldLine.dataValue = values
  have hData : String.ofList (List.intercalate ['\n'] values) = "" ↔
      List.intercalate ['\n'] values = [] := by
    rw [← String.toList_inj, String.toList_ofList]
    rfl
  rw [ite_eq_left_iff, hData]
  simp only [List.cons_ne_nil, imp_false, not_not]
  match values with
  | [] | [value] => simp
  | value :: other :: rest => simp [List.intercalate_cons_cons]

theorem given_trimmed_length (lines : List FieldLine) :
    (given (lines.map FieldLine.trimmedStart)).length ≤ (given lines).length := by
  have hOne : ∀ lines, (given lines).length ≤ 1 := by
    intro lines
    unfold given withData
    split <;> simp
  by_cases hNil : given lines = []
  · have hTrimmed : given (lines.map FieldLine.trimmedStart) = [] := by
      rw [given_eq_nil, dataValue_trimmed]
      rcases given_eq_nil.mp hNil with hValues | hValues
      · exact .inl (by rw [hValues]; rfl)
      · exact .inr (by rw [hValues]; rfl)
    rw [hTrimmed]
    exact Nat.zero_le _
  · exact (hOne _).trans (List.length_pos_of_ne_nil hNil)

theorem mem_intercalate {c d : Char} (hc : c ≠ d) {pieces : List (List Char)}
    (h : c ∈ List.intercalate [d] pieces) : ∃ piece ∈ pieces, c ∈ piece := by
  induction pieces with
  | nil => cases h
  | cons piece pieces ih =>
    cases pieces with
    | nil => exact ⟨piece, List.mem_singleton_self piece, by simpa using h⟩
    | cons other pieces =>
      rw [List.intercalate_cons_cons, List.append_assoc, List.mem_append, List.mem_append,
        List.mem_singleton] at h
      rcases h with hPiece | rfl | hRest
      · exact ⟨piece, List.mem_cons_self, hPiece⟩
      · exact absurd rfl hc
      · obtain ⟨found, hFound, hIn⟩ := ih hRest
        exact ⟨found, List.mem_cons_of_mem _ hFound, hIn⟩

theorem given_data_plain (hValid : ∀ line ∈ lines, line.Valid) {event : SseEvent}
    (h : event ∈ given lines) : '\r' ∉ event.data.toList := by
  unfold given withData at h
  split at h
  · cases h
  · rw [List.mem_singleton] at h
    subst h
    rw [eventOf_data, String.toList_ofList]
    intro hMem
    obtain ⟨value, hValue, hIn⟩ := mem_intercalate (by decide) hMem
    obtain ⟨line, hLine, hIs⟩ := List.mem_filterMap.mp hValue
    cases line with
    | data space v =>
      rw [FieldLine.dataValue, Option.some.injEq] at hIs
      subst hIs
      refine ((hValid _ hLine).noEnds '\r' ?_).2 rfl
      exact List.mem_append_right _ (List.mem_append_right _ hIn)
    | _ => cases hIs

/-! ## Streams with one end for all lines -/

variable (lineEnd : LineEnd)

def uniformText (lineEnd : LineEnd) (events : List (List FieldLine)) : List Char :=
  streamText (events.map (Block.uniform lineEnd))

theorem uniform_fields (lines : List FieldLine) : (Block.uniform lineEnd lines).fields = lines := by
  rw [Block.fields, Block.uniform, List.map_map]
  exact List.map_id lines

theorem uniformText_cons (lines : List FieldLine) (events : List (List FieldLine)) :
    uniformText lineEnd (lines :: events) =
      (Block.uniform lineEnd lines).text ++ uniformText lineEnd events := rfl

section Uniform

open SseParser

variable {events : List (List FieldLine)}

variable {text : List Char} {chunks : List (List Char)}

theorem trim_eq_nil : trim text = [] ↔ ∀ c ∈ text, isWhitespace c = true := by
  unfold trim
  rw [List.reverse_eq_nil_iff, List.dropWhile_eq_nil_iff]
  constructor
  · intro hAll c hC
    by_contra hNot
    have hKept : c ∈ text.dropWhile isWhitespace := by
      have hSplit := List.takeWhile_append_dropWhile (p := isWhitespace) (l := text)
      rw [← hSplit] at hC
      rcases List.mem_append.mp hC with hFront | hBack
      · exact absurd (List.mem_takeWhile_imp hFront) hNot
      · exact hBack
    exact hNot (hAll c (List.mem_reverse.mpr hKept))
  · intro hAll c hC
    exact hAll c ((List.dropWhile_sublist _).subset (List.mem_reverse.mp hC))

theorem FieldLine.visible (line : FieldLine) : ∃ c ∈ line.text, isWhitespace c = false := by
  cases line with
  | data space value => exact ⟨'d', List.mem_cons_self, by decide⟩
  | event space value => exact ⟨'e', List.mem_cons_self, by decide⟩
  | id space value => exact ⟨'i', List.mem_cons_self, by decide⟩
  | retry space value => exact ⟨'r', List.mem_cons_self, by decide⟩
  | comment text => exact ⟨':', List.mem_cons_self, by decide⟩

theorem mem_uniformText {lineEnd : LineEnd} {line : FieldLine} (h : line ∈ events.flatten)
    {c : Char} (hC : c ∈ line.text) : c ∈ uniformText lineEnd events := by
  obtain ⟨lines, hLines, hLine⟩ := List.mem_flatten.mp h
  refine List.mem_flatMap.mpr ⟨_, List.mem_map_of_mem hLines, ?_⟩
  refine List.mem_append_left _ (List.mem_flatMap.mpr ⟨(line, lineEnd), ?_, ?_⟩)
  · exact List.mem_map_of_mem hLine
  · exact List.mem_append_left _ hC

/-! ### Carriage return and line feed -/

section

variable (hValid : ∀ lines ∈ events, ∀ line ∈ lines, line.Valid)
include hValid

theorem filled_crlf :
    filled (uniformText .crlf events) = events.flatten.map FieldLine.text := by
  induction events with
  | nil => rfl
  | cons lines events ih =>
    obtain ⟨hLines, hEvents⟩ := List.forall_mem_cons.mp hValid
    have hFields := uniform_fields .crlf lines
    have hBody := @Block.filled_body (Block.uniform .crlf lines).lines
      (by rw [← Block.fields, hFields]; exact hLines)
      (by simp [Block.uniform]) (LineEnd.crlf.text ++ uniformText .crlf events)
    rw [uniformText_cons, Block.text, List.append_assoc]
    change filled (_ ++ (LineEnd.crlf.text ++ _)) = _
    rw [hBody, ← Block.fields, hFields]
    change _ ++ filled ('\r' :: '\n' :: uniformText .crlf events) = _
    rw [filled_return_newline, ih hEvents, List.flatten_cons, List.map_append]

theorem crlf_apart :
    TextPiece (uniformText .crlf events) := by
  refine TextPiece.flatMap ?_
  intro block hBlock
  obtain ⟨lines, hLines, rfl⟩ := List.mem_map.mp hBlock
  have hBlockValid : (Block.uniform .crlf lines).Valid := by
    unfold Block.Valid
    rw [uniform_fields]
    exact hValid lines hLines
  refine (Block.body_piece hBlockValid).append ⟨?_, nofun⟩
  simp [Apart, Block.uniform, LineEnd.text]

theorem parse_crlf (hChunks : chunks.flatten = uniformText .crlf events) :
    parse chunks = given (events.flatten.map FieldLine.trimmedStart) := by
  rw [parse_eq, hChunks, cutEvents_apart (crlf_apart hValid).apart, List.flatMap_nil,
    List.nil_append, flush_standard]
  split
  · rename_i hBlank
    rw [List.isEmpty_iff, trim_eq_nil] at hBlank
    have hNone : events.flatten = [] := by
      rw [List.eq_nil_iff_forall_not_mem]
      intro line hLine
      obtain ⟨c, hC, hVisible⟩ := line.visible
      rw [hBlank c (mem_uniformText hLine hC)] at hVisible
      cases hVisible
    rw [hNone]
    rfl
  · rw [parseSingleEvent_of_filled (filled_crlf hValid)]
    rfl

end

/-! ### Carriage return alone -/

theorem cr_no_feed (hValid : ∀ lines ∈ events, ∀ line ∈ lines, line.Valid) :
    '\n' ∉ uniformText .cr events := by
  intro hMem
  obtain ⟨block, hBlock, hIn⟩ := List.mem_flatMap.mp hMem
  obtain ⟨lines, hLines, rfl⟩ := List.mem_map.mp hBlock
  rcases List.mem_append.mp hIn with hBody | hBlank
  · obtain ⟨line, hLine, hText⟩ := List.mem_flatMap.mp hBody
    obtain ⟨field, hField, rfl⟩ := List.mem_map.mp hLine
    rcases List.mem_append.mp hText with hText | hEnd
    · exact ((hValid lines hLines field hField).noEnds _ hText).1 rfl
    · simp [LineEnd.text] at hEnd
  · simp [Block.uniform, LineEnd.text] at hBlank

theorem cr_ends (hNe : uniformText .cr events ≠ []) :
    (uniformText .cr events).getLast? = some '\r' := by
  rcases List.eq_nil_or_concat events with rfl | ⟨front, last, rfl⟩
  · exact absurd rfl hNe
  · rw [List.concat_eq_append, uniformText, List.map_append, streamText, List.flatMap_append]
    simp [Block.uniform, Block.text, LineEnd.text]

/-- A text without line feeds is read as one line: what stands behind a first `data:`. -/
theorem parse_line (hFeed : '\n' ∉ text) (hChunks : chunks.flatten = text) :
    ((∀ rest, text = "data:".toList ++ rest → ∀ c ∈ rest, isWhitespace c = true) ∧
        parse chunks = []) ∨
      ∃ rest, text = "data:".toList ++ rest ∧ trimStart rest ≠ [] ∧
        parse chunks = [.message (String.ofList (trimStart rest))] := by
  have hData (rest : List Char) (hText : text = "data:".toList ++ rest) :
      fieldValue "data:" text = some (trimStart rest) := by
    subst hText
    unfold fieldValue
    rw [if_pos (List.isPrefixOf_iff_prefix.mpr (List.prefix_append _ _)), List.drop_left]
  have hParse : parse chunks = (flush ⟨.standard, text⟩).2 := by
    rw [parse_eq, hChunks, cutEvents_apart (apart_of_not_mem hFeed)]
    rfl
  have hFilled : text ≠ [] → filled text = [text] := by
    intro hNe
    unfold filled lines
    rw [split_of_not_mem hFeed]
    simp [hNe]
  by_cases hBegins : ∃ rest, text = "data:".toList ++ rest
  · obtain ⟨rest, hText⟩ := hBegins
    have hNe : text ≠ [] := by
      rw [hText]
      simp
    have hVisible : (trim text).isEmpty = false := by
      rw [List.isEmpty_eq_false_iff, Ne, trim_eq_nil]
      intro hAll
      exact absurd (hAll 'd' (by rw [hText]; exact List.mem_cons_self)) (by decide)
    have hEvent : parseSingleEvent text = .message (String.ofList (trimStart rest)) := by
      have hLines := hFilled hNe
      unfold filled at hLines
      unfold parseSingleEvent
      rw [hLines, List.foldl_cons, List.foldl_nil, readLine, hData rest hText]
      simp [SseEvent.message]
    have hFlush : parse chunks = withData (.message (String.ofList (trimStart rest))) := by
      rw [hParse, flush_standard, hVisible, if_neg (by decide), hEvent]
    by_cases hBlank : trimStart rest = []
    · refine .inl ⟨?_, by rw [hFlush, hBlank]; rfl⟩
      intro other hOther
      have hSame : other = rest := List.append_cancel_left (hOther.symm.trans hText)
      rw [hSame]
      exact List.dropWhile_eq_nil_iff.mp hBlank
    · refine .inr ⟨rest, hText, hBlank, ?_⟩
      rw [hFlush, withData, if_neg]
      intro hEmpty
      apply hBlank
      have hChars := congrArg String.toList hEmpty
      rwa [SseEvent.message, String.toList_ofList] at hChars
  · refine .inl ⟨fun rest hText => absurd ⟨rest, hText⟩ hBegins, ?_⟩
    rw [hParse, flush_standard]
    split
    · rfl
    · rename_i hVisible
      have hNe : text ≠ [] := by
        rintro rfl
        exact hVisible rfl
      have hNone : fieldValue "data:" text = none := by
        unfold fieldValue
        rw [if_neg]
        intro hStarts
        obtain ⟨rest, hRest⟩ := List.isPrefixOf_iff_prefix.mp hStarts
        exact hBegins ⟨rest, hRest.symm⟩
      have hLines := hFilled hNe
      unfold filled at hLines
      unfold parseSingleEvent
      rw [hLines, List.foldl_cons, List.foldl_nil, readLine, hNone]
      dsimp only
      split
      · rfl
      · split <;> rfl

end Uniform

/-! ## When a stream is read as it was written -/

/-- Of a stream whose events end with two line feeds the events are those written just if none of
them changes without the white space in front of its values. A stream whose lines all end with
carriage return and line feed is read as a single event, and one with carriage returns alone as a
single line. -/
theorem parse_exact_iff (chunks : List (List Char)) :
    (∀ blocks : List Block, (∀ block ∈ blocks, block.Valid) →
      (∀ block ∈ blocks, block.Plain) → chunks.flatten = streamText blocks →
      (SseParser.parse chunks = blocks.flatMap (fun block => given block.fields) ↔ ∀ block ∈ blocks,
          given (block.fields.map FieldLine.trimmedStart) = given block.fields)) ∧
    (∀ events : List (List FieldLine), (∀ lines ∈ events, ∀ line ∈ lines, line.Valid) →
      chunks.flatten = uniformText .crlf events →
      (SseParser.parse chunks = events.flatMap given ↔
        given (events.flatten.map FieldLine.trimmedStart) = events.flatMap given)) ∧
    ∀ events : List (List FieldLine), (∀ lines ∈ events, ∀ line ∈ lines, line.Valid) →
      chunks.flatten = uniformText .cr events →
      (SseParser.parse chunks = events.flatMap given ↔ (∀ lines ∈ events, given lines = []) ∧
          ∀ rest, uniformText .cr events = "data:".toList ++ rest →
            ∀ c ∈ rest, isWhitespace c = true) := by
  refine ⟨?_, ?_, ?_⟩
  · intro blocks hValid hPlain hChunks
    obtain ⟨hRest, hEvents⟩ := cutEvents_stream hValid hPlain
    have hFlush : (flush ⟨.standard, (cutEvents (streamText blocks)).2⟩).2 =
        [] := by
      rcases hRest with hRest | hRest <;> rw [hRest] <;> rfl
    rw [parse_eq, hChunks, hEvents, hFlush, List.append_nil]
    exact flatMap_eq_iff fun block _ => given_trimmed_length block.fields
  · intro events hValid hChunks
    rw [parse_crlf hValid hChunks]
  · intro events hValid hChunks
    rcases parse_line (cr_no_feed hValid) hChunks with
      ⟨hBlank, hParse⟩ | ⟨rest, hText, hNe, hParse⟩
    · rw [hParse, eq_comm, List.flatMap_eq_nil_iff]
      exact (and_iff_left hBlank).symm
    · have hNonempty : uniformText .cr events ≠ [] := by
        rw [hText]
        simp
      have hLast : '\r' ∈ trimStart rest := by
        have hEnd := cr_ends hNonempty
        obtain ⟨front, hFront⟩ := List.dropWhile_suffix isWhitespace (l := rest)
        have hSplit : uniformText .cr events =
            ("data:".toList ++ front) ++ trimStart rest := by
          rw [hText, List.append_assoc, trimStart, hFront]
        rw [hSplit, List.getLast?_append_of_ne_nil _ hNe] at hEnd
        exact List.mem_of_getLast? hEnd
      constructor
      · intro hSame
        rw [hParse] at hSame
        have hMem : SseEvent.message (String.ofList (trimStart rest)) ∈
            events.flatMap given := by
          rw [← hSame]
          exact List.mem_singleton_self _
        obtain ⟨lines, hLines, hGiven⟩ := List.mem_flatMap.mp hMem
        refine absurd ?_ (given_data_plain (hValid lines hLines) hGiven)
        rw [SseEvent.message, String.toList_ofList]
        exact hLast
      · rintro ⟨-, hAll⟩
        exact absurd (List.dropWhile_eq_nil_iff.mpr (hAll rest hText)) hNe

/-! ### Two events with carriage returns -/

theorem sampleLine_valid (value : Char) (h : value ≠ '\n' ∧ value ≠ '\r') :
    (FieldLine.data true [value]).Valid := by
  refine ⟨?_, .inl rfl⟩
  intro c hC
  have hText : (FieldLine.data true [value]).text = "data: ".toList ++ [value] := rfl
  rw [hText] at hC
  rcases List.mem_append.mp hC with hC | hC
  · have hName : ∀ c ∈ "data: ".toList, c ≠ '\n' ∧ c ≠ '\r' := by simp
    exact hName c hC
  · rw [List.mem_singleton.mp hC]
    exact h

def sampleEvents : List (List FieldLine) := [[.data true ['a']], [.data true ['b']]]

def sampleBlocks : List Block :=
  [⟨[(.data true ['a'], .lf)], .lf⟩, ⟨[(.data true ['b'], .crlf)], .lf⟩]

theorem parse_exact_sample :
    (SseParser.parse ["data: a\n\ndata:".toList, " b\r\n\n".toList] =
        sampleBlocks.flatMap (fun block => given block.fields) ↔
        ∀ block ∈ sampleBlocks,
          given (block.fields.map FieldLine.trimmedStart) = given block.fields) ∧
      (SseParser.parse ["data: a\r\n\r".toList, "\ndata: b\r\n\r\n".toList] =
        sampleEvents.flatMap given ↔
        given (sampleEvents.flatten.map FieldLine.trimmedStart) = sampleEvents.flatMap given) ∧
      (SseParser.parse ["data: a\r\rdata: b\r\r".toList] = sampleEvents.flatMap given ↔
        (∀ lines ∈ sampleEvents, given lines = []) ∧
          ∀ rest, uniformText .cr sampleEvents = "data:".toList ++ rest →
            ∀ c ∈ rest, isWhitespace c = true) := by
  have hA := sampleLine_valid 'a' (by decide)
  have hB := sampleLine_valid 'b' (by decide)
  have hValid : ∀ lines ∈ sampleEvents, ∀ line ∈ lines, line.Valid := by
    simp [sampleEvents, hA, hB]
  refine ⟨(parse_exact_iff _).1 sampleBlocks ?_ ?_ rfl,
    (parse_exact_iff _).2.1 sampleEvents hValid rfl,
    (parse_exact_iff _).2.2 sampleEvents hValid rfl⟩
  · simp [sampleBlocks, Block.Valid, Block.fields, hA, hB]
  · intro block hBlock
    rcases List.mem_cons.mp hBlock with rfl | hLast
    · exact ⟨by decide, rfl⟩
    · rw [List.mem_singleton.mp hLast]
      exact ⟨by decide, rfl⟩

/-- Two events whose lines end with carriage return and line feed become one. -/
theorem crlf_merges : ¬ ∀ (lineEnd : LineEnd) (events : List (List FieldLine))
    (chunks : List (List Char)), (∀ lines ∈ events, ∀ line ∈ lines, line.Valid) →
    chunks.flatten = uniformText lineEnd events →
    SseParser.parse chunks = events.flatMap given := by
  intro h
  have hSame := h .crlf [[.data true ['a']], [.data true ['b']]]
    ["data: a\r\n\r\ndata: b\r\n\r\n".toList] (by
      intro lines hLines line hIs
      rcases List.mem_cons.mp hLines with rfl | hLines
      · rw [List.mem_singleton.mp hIs]
        exact sampleLine_valid 'a' (by decide)
      · rw [List.mem_singleton.mp hLines] at hIs
        rw [List.mem_singleton.mp hIs]
        exact sampleLine_valid 'b' (by decide)) rfl
  exact absurd hSame (by decide)

end KongRust.Ai
