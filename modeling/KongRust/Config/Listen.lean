import KongRust.Config.Parser

/-!
# Listen directives

A listen directive is an address with modifiers. An address with a bracket is sliced at offsets
counted from the bracket, so it must begin with a character of one byte and have one behind the
bracket. `parseListenAddresses_panics_iff` says on which texts the parser panics.
-/

namespace KongRust.Config

open Str

structure ListenAddr where
  address : String
  ssl : Bool
  http2 : Bool
  reuseport : Bool
  proxyProtocol : Bool
  backlog : Option Nat
  deferred : Bool
  rcvbuf : Option Nat
  sndbuf : Option Nat
  bind : Bool
  ip : String
  port : Nat
  deriving DecidableEq

/-! ## The code -/

def ListenAddr.default : ListenAddr where
  address := "0.0.0.0:8000"
  ssl := false
  http2 := false
  reuseport := false
  proxyProtocol := false
  backlog := none
  deferred := false
  rcvbuf := none
  sndbuf := none
  bind := false
  ip := "0.0.0.0"
  port := 8000

/-- `str::parse` with the error in a message. -/
def parseNumber (label : String) (bound : Nat) (s : List Char) : Except Fault Nat :=
  (parseUnsigned bound s).mapError fun e => .error (label ++ e.toText)

variable (listen : ListenAddr)

/-- The part of `from_str` that reads `ip:port`. -/
def ListenAddr.readAddress (listen : ListenAddr) (addrPart : List Char) :
    Except Fault ListenAddr :=
  if "unix:".toList.isPrefixOf addrPart then
    .ok { listen with ip := String.ofList addrPart, port := 0 }
  else match findByte ']' addrPart with
    | some bracketEnd => do
      let ipPart ← sliced (slice addrPart 1 bracketEnd)
      let listen := { listen with ip := String.ofList ipPart }
      if bracketEnd + 2 < byteLen addrPart then
        let port ← parseNumber "invalid port: " (2 ^ 16)
          (← sliced (sliceFrom addrPart (bracketEnd + 2)))
        return { listen with port := port }
      else return listen
    | none =>
      match rfindByte ':' addrPart with
      | some colonPos => do
        let ip ← sliced (sliceTo addrPart colonPos)
        let port ← parseNumber "invalid port: " (2 ^ 16)
          (← sliced (sliceFrom addrPart (colonPos + 1)))
        return { listen with ip := String.ofList ip, port := port }
      | none => do
        let port ← parseNumber "invalid address: " (2 ^ 16) addrPart
        return { listen with ip := "0.0.0.0", port := port }

/-- One turn of the loop over the modifiers. -/
def ListenAddr.applyModifier (listen : ListenAddr) (part : List Char) : Except Fault ListenAddr :=
  if part = "ssl".toList then .ok { listen with ssl := true }
  else if part = "http2".toList then .ok { listen with http2 := true }
  else if part = "reuseport".toList then .ok { listen with reuseport := true }
  else if part = "proxy_protocol".toList then .ok { listen with proxyProtocol := true }
  else if part = "deferred".toList then .ok { listen with deferred := true }
  else if part = "bind".toList then .ok { listen with bind := true }
  else if "backlog=".toList.isPrefixOf part then do
    let backlog ← parseNumber "invalid backlog: " (2 ^ 32) (← sliced (sliceFrom part 8))
    return { listen with backlog := some backlog }
  else if "rcvbuf=".toList.isPrefixOf part then do
    let rcvbuf ← parseNumber "invalid rcvbuf: " (2 ^ 32) (← sliced (sliceFrom part 7))
    return { listen with rcvbuf := some rcvbuf }
  else if "sndbuf=".toList.isPrefixOf part then do
    let sndbuf ← parseNumber "invalid sndbuf: " (2 ^ 32) (← sliced (sliceFrom part 7))
    return { listen with sndbuf := some sndbuf }
  else .ok listen

variable (s : List Char)

def ListenAddr.fromStr (s : List Char) : Except Fault ListenAddr :=
  let s := Text.trim s
  if s = "off".toList then .error (.error "listener is disabled")
  else match splitWhitespace s with
    | [] => .error (.error "empty listen address")
    | addrPart :: modifiers => do
      let listen ← ListenAddr.default.readAddress addrPart
      let listen := { listen with address := listen.ip ++ ":" ++ toString listen.port }
      modifiers.foldlM ListenAddr.applyModifier listen

variable (result : List ListenAddr)

/-- One turn of the loop over the parts. -/
def parseListenPart (result : List ListenAddr) (part : List Char) :
    Except Fault (List ListenAddr) :=
  let part := Text.trim part
  if part.isEmpty then .ok result
  else (ListenAddr.fromStr part).map fun listen => result ++ [listen]

def parseListenAddresses (s : List Char) : Except Fault (List ListenAddr) :=
  let s := Text.trim s
  if s = "off".toList ∨ s.isEmpty then .ok []
  else (Text.split ',' s).foldlM parseListenPart []

/-! ## Which texts are read -/

/-- The text is a number below the bound. -/
def Numeric (bound : Nat) (s : List Char) : Prop := ∃ n, parseUnsigned bound s = .ok n

/-- The first character of the text, if it has one, is longer than one byte. -/
def StartsWide (s : List Char) : Prop := ∃ c ∈ s.head?, 1 < c.utf8Size

/-- A slice of the address fails: the text before its first bracket is empty, or it or the text
behind the bracket begins with a character longer than one byte. -/
def Overruns (addr : List Char) : Prop :=
  ¬ "unix:".toList <+: addr ∧ ∃ before after, addr = before ++ ']' :: after ∧ ']' ∉ before ∧
    (before = [] ∨ StartsWide before ∨ StartsWide after)

/-- The parser reads the address. -/
def Readable (addr : List Char) : Prop :=
  "unix:".toList <+: addr ∨ ¬ "unix:".toList <+: addr ∧
    ((∃ before after, addr = before ++ ']' :: after ∧ ']' ∉ before ∧
      ¬ (before = [] ∨ StartsWide before ∨ StartsWide after) ∧
      (after.tail = [] ∨ Numeric (2 ^ 16) after.tail)) ∨
    ']' ∉ addr ∧ (∃ ip port, addr = ip ++ ':' :: port ∧ ':' ∉ port ∧ Numeric (2 ^ 16) port) ∨
    ']' ∉ addr ∧ ':' ∉ addr ∧ Numeric (2 ^ 16) addr)

/-- The modifiers that set a number. -/
def numberModifiers : List (List Char) :=
  ["backlog=".toList, "rcvbuf=".toList, "sndbuf=".toList]

/-- The parser reads the modifier. -/
def ReadableModifier (part : List Char) : Prop :=
  ∀ name ∈ numberModifiers, ∀ number, part = name ++ number → Numeric (2 ^ 32) number

/-- The parser reads the directive. -/
def ReadablePart (part : List Char) : Prop :=
  part ≠ "off".toList ∧ ∃ addr modifiers, splitWhitespace part = addr :: modifiers ∧
    Readable addr ∧ ∀ modifier ∈ modifiers, ReadableModifier modifier

/-- A slice of the address of the directive fails. -/
def OverrunsPart (part : List Char) : Prop :=
  ∃ addr modifiers, splitWhitespace part = addr :: modifiers ∧ Overruns addr

/-! ## Addresses -/

theorem decides_parseNumber (label : String) (bound : Nat) (s : List Char) :
    Decides False (Numeric bound s) (parseNumber label bound s) := by
  unfold parseNumber Numeric
  cases parseUnsigned bound s with
  | ok n => exact (decides_ok n).congr Iff.rfl (by simp)
  | error e => exact (decides_error _).congr Iff.rfl (by simp)

/-- The slice between the first character and the bracket. -/
theorem slice_before (before after : List Char) :
    slice (before ++ ']' :: after) 1 (byteLen before) = none ↔ before = [] ∨ StartsWide before := by
  unfold StartsWide
  cases before with
  | nil => exact iff_of_true rfl (.inl rfl)
  | cons c before =>
    have hPos := c.utf8Size_pos
    unfold slice
    rw [if_neg (by rw [byteLen_cons]; omega)]
    by_cases hWide : 1 < c.utf8Size
    · have hFrom : sliceFrom (c :: before ++ ']' :: after) 1 = none := by
        have hCut := cut_inside (a := []) hWide (before ++ ']' :: after)
        rw [byteLen_nil, Nat.zero_add, List.nil_append] at hCut
        rw [sliceFrom, List.cons_append, hCut]
        rfl
      rw [hFrom]
      exact iff_of_true rfl (.inr ⟨c, rfl, hWide⟩)
    · have hNarrow : c.utf8Size = 1 := by omega
      have hFrom : sliceFrom (c :: before ++ ']' :: after) 1 = some (before ++ ']' :: after) := by
        have hCut := cut_behind (a := []) hNarrow (before ++ ']' :: after)
        rw [byteLen_nil, Nat.zero_add, List.nil_append] at hCut
        rw [sliceFrom, List.cons_append, hCut]
        rfl
      have hLength : byteLen (c :: before) - 1 = byteLen before := by
        rw [byteLen_cons, hNarrow]
        omega
      rw [hFrom, Option.bind_some, hLength, sliceTo, cut_append]
      refine iff_of_false (Option.some_ne_none _) ?_
      rintro (hEmpty | ⟨d, hd, hLong⟩)
      · cases hEmpty
      · cases hd
        exact hWide hLong

/-- The slice from two bytes behind the start of the bracket is taken where the text goes on
there. -/
theorem slice_after (before after : List Char) :
    (byteLen before + 2 < byteLen (before ++ ']' :: after) ↔ StartsWide after ∨ after.tail ≠ []) ∧
      (StartsWide after → sliceFrom (before ++ ']' :: after) (byteLen before + 2) = none) ∧
      (¬ StartsWide after → after.tail ≠ [] →
        sliceFrom (before ++ ']' :: after) (byteLen before + 2) = some after.tail) := by
  have hBracket : byteLen (before ++ [']']) = byteLen before + 1 := by
    rw [byteLen_append]
    rfl
  unfold StartsWide
  cases after with
  | nil =>
    refine ⟨iff_of_false ?_ ?_, ?_, fun _ hTail => absurd rfl hTail⟩
    · omega
    · rintro (⟨c, hc, -⟩ | hTail)
      · cases hc
      · exact hTail rfl
    · rintro ⟨c, hc, -⟩
      cases hc
  | cons c rest =>
    have hPos := c.utf8Size_pos
    have hLength : byteLen (before ++ ']' :: c :: rest) =
        byteLen before + 1 + (c.utf8Size + byteLen rest) := by
      rw [byteLen_append, byteLen_cons, byteLen_cons, Nat.add_assoc]
      rfl
    have hSplit : before ++ ']' :: c :: rest = before ++ [']'] ++ c :: rest := by simp
    rw [hLength]
    simp only [List.head?_cons, Option.mem_def, Option.some.injEq, exists_eq_left', List.tail_cons]
    refine ⟨?_, fun hWide => ?_, fun hNarrow _ => ?_⟩
    · by_cases hRest : rest = []
      · subst hRest
        rw [byteLen_nil]
        simp only [ne_eq, not_true_eq_false, or_false]
        omega
      · have hRestPos : byteLen rest ≠ 0 := fun h => hRest (byteLen_eq_zero.mp h)
        simp only [hRest, ne_eq, not_false_eq_true, or_true, iff_true]
        omega
    · have hCut := cut_inside (a := before ++ [']']) hWide rest
      rw [hBracket] at hCut
      rw [sliceFrom, hSplit, hCut]
      rfl
    · have hCut := cut_behind (a := before ++ [']']) (c := c) (by omega) rest
      rw [hBracket] at hCut
      rw [sliceFrom, hSplit, hCut]
      rfl

theorem decides_readAddress (addr : List Char) :
    Decides (Overruns addr) (Readable addr) (listen.readAddress addr) := by
  unfold ListenAddr.readAddress Overruns Readable
  split
  · next hUnix =>
    have hUnix := List.isPrefixOf_iff_prefix.mp hUnix
    exact (decides_ok _).congr (by simp only [hUnix, not_true_eq_false, false_and])
      (by simp only [hUnix, true_or])
  · next hUnix =>
    have hUnix : ¬ "unix:".toList <+: addr := fun h => hUnix (List.isPrefixOf_iff_prefix.mpr h)
    simp only [hUnix, not_false_eq_true, true_and, false_or]
    by_cases hBracket : ']' ∈ addr
    · obtain ⟨before, after, rfl, hBefore⟩ := List.eq_append_cons_of_mem hBracket
      rw [findByte_append hBefore]
      dsimp only
      obtain ⟨hGoesOn, hInside, hTail⟩ := slice_after before after
      have hPort : ∀ listen : ListenAddr, Decides (StartsWide after)
          (¬ StartsWide after ∧ (after.tail = [] ∨ Numeric (2 ^ 16) after.tail))
          (if byteLen before + 2 < byteLen (before ++ ']' :: after) then do
            let port ← parseNumber "invalid port: " (2 ^ 16)
              (← sliced (sliceFrom (before ++ ']' :: after) (byteLen before + 2)))
            return { listen with port := port }
          else return listen) := by
        intro listen
        by_cases hWide : StartsWide after
        · rw [if_pos (hGoesOn.mpr (.inl hWide)), hInside hWide]
          exact decides_panic.congr (by simp [hWide]) (by simp [hWide])
        · by_cases hEmpty : after.tail = []
          · rw [if_neg (by rw [hGoesOn]; simp [hWide, hEmpty])]
            exact (decides_ok listen).congr (by simp [hWide]) (by simp [hWide, hEmpty])
          · rw [if_pos (hGoesOn.mpr (.inr hEmpty)), hTail hWide hEmpty]
            exact ((decides_parseNumber _ _ _).andThen fun port _ => decides_ok _).congr
              (by simp [hWide]) (by simp [hWide, hEmpty])
      refine ((decides_sliced _).bind fun ipPart _ => hPort _).congr ?_ ?_
      · rw [ne_eq, slice_before]
        constructor
        · intro h
          exact ⟨before, after, rfl, hBefore, by tauto⟩
        · rintro ⟨before', after', hSplit, hBefore', h⟩
          obtain ⟨rfl, rfl⟩ := append_cons_unique hBefore hBefore' hSplit
          tauto
      · rw [ne_eq, slice_before]
        constructor
        · intro h
          exact .inl ⟨before, after, rfl, hBefore, by tauto, h.2.2⟩
        · rintro (⟨before', after', hSplit, hBefore', hFits, hNumber⟩ | ⟨hNone, -⟩ | ⟨hNone, -⟩)
          · obtain ⟨rfl, rfl⟩ := append_cons_unique hBefore hBefore' hSplit
            tauto
          · exact absurd hBracket hNone
          · exact absurd hBracket hNone
    · rw [findByte_eq_none hBracket]
      dsimp only
      have hWhole : ¬ ∃ before after, addr = before ++ ']' :: after ∧ ']' ∉ before ∧
          (before = [] ∨ StartsWide before ∨ StartsWide after) := by
        rintro ⟨before, after, rfl, -, -⟩
        exact hBracket (List.mem_append_right _ List.mem_cons_self)
      have hUnsplit : ¬ ∃ before after, addr = before ++ ']' :: after ∧ ']' ∉ before ∧
          ¬ (before = [] ∨ StartsWide before ∨ StartsWide after) ∧
          (after.tail = [] ∨ Numeric (2 ^ 16) after.tail) := by
        rintro ⟨before, after, rfl, -, -⟩
        exact hBracket (List.mem_append_right _ List.mem_cons_self)
      simp only [hWhole, hUnsplit, hBracket, not_false_eq_true, true_and, false_or]
      by_cases hColon : ':' ∈ addr
      · obtain ⟨ip, port, rfl, hPort⟩ := exists_append_cons_last hColon
        have hTo : sliceTo (ip ++ ':' :: port) (byteLen ip) = some ip := by
          rw [sliceTo, cut_append]
          rfl
        have hFrom : sliceFrom (ip ++ ':' :: port) (byteLen ip + 1) = some port := by
          rw [sliceFrom, cut_behind rfl]
          rfl
        rw [rfindByte_append ip hPort]
        dsimp only
        rw [hTo, hFrom]
        refine ((decides_parseNumber _ _ port).andThen fun n _ => decides_ok _).congr Iff.rfl ?_
        constructor
        · intro h
          exact .inl ⟨ip, port, rfl, hPort, h⟩
        · rintro (⟨ip', port', hSplit, hPort', h⟩ | ⟨hNone, -⟩)
          · rwa [(append_cons_unique_last hPort hPort' hSplit).2]
          · exact absurd hColon hNone
      · rw [rfindByte_eq_none hColon]
        refine ((decides_parseNumber _ _ addr).andThen fun n _ => decides_ok _).congr Iff.rfl ?_
        constructor
        · intro h
          exact .inr ⟨hColon, h⟩
        · rintro (⟨ip, port, rfl, -, -⟩ | ⟨-, h⟩)
          · exact absurd (List.mem_append_right _ List.mem_cons_self) hColon
          · exact h

/-! ## Modifiers -/

variable {name part : List Char}

theorem numberModifiers_append {name' number number' : List Char} (hName : name ∈ numberModifiers)
    (hName' : name' ∈ numberModifiers) (h : name ++ number = name' ++ number') : name = name' := by
  have hHead := congrArg List.head? h
  simp only [numberModifiers, List.mem_cons, List.not_mem_nil, or_false] at hName hName'
  obtain rfl | rfl | rfl := hName <;> obtain rfl | rfl | rfl := hName' <;>
    first | rfl | simp at hHead

theorem readableModifier_append (hName : name ∈ numberModifiers) (number : List Char) :
    ReadableModifier (name ++ number) ↔ Numeric (2 ^ 32) number := by
  refine ⟨fun h => h name hName number rfl, fun h name' hName' number' hEq => ?_⟩
  obtain rfl := numberModifiers_append hName hName' hEq
  rwa [← List.append_cancel_left hEq]

theorem readableModifier_of_plain (h : ∀ name ∈ numberModifiers, ¬ name <+: part) :
    ReadableModifier part := by
  rintro name hName number rfl
  exact absurd (List.prefix_append name number) (h name hName)

theorem decides_numberModifier {label : String} {set : Nat → ListenAddr}
    (hName : name ∈ numberModifiers) (hPart : name <+: part) :
    Decides False (ReadableModifier part) (do
      let number ← parseNumber label (2 ^ 32) (← sliced (sliceFrom part (byteLen name)))
      return set number) := by
  obtain ⟨number, rfl⟩ := hPart
  rw [readableModifier_append hName, sliceFrom, cut_append]
  exact (decides_parseNumber _ _ number).andThen fun n _ => decides_ok _

theorem decides_applyModifier (part : List Char) :
    Decides False (ReadableModifier part) (listen.applyModifier part) := by
  have hPlain : ∀ (listen : ListenAddr), (∀ name ∈ numberModifiers, ¬ name <+: part) →
      Decides False (ReadableModifier part) (.ok listen) := fun listen h =>
    (decides_ok listen).congr Iff.rfl (iff_of_true trivial (readableModifier_of_plain h))
  unfold ListenAddr.applyModifier
  split_ifs with hSsl hHttp2 hReuseport hProxyProtocol hDeferred hBind hBacklog hRcvbuf hSndbuf
  · exact hPlain _ (by subst hSsl; decide)
  · exact hPlain _ (by subst hHttp2; decide)
  · exact hPlain _ (by subst hReuseport; decide)
  · exact hPlain _ (by subst hProxyProtocol; decide)
  · exact hPlain _ (by subst hDeferred; decide)
  · exact hPlain _ (by subst hBind; decide)
  · exact decides_numberModifier (by simp [numberModifiers])
      (List.isPrefixOf_iff_prefix.mp hBacklog)
  · exact decides_numberModifier (by simp [numberModifiers]) (List.isPrefixOf_iff_prefix.mp hRcvbuf)
  · exact decides_numberModifier (by simp [numberModifiers]) (List.isPrefixOf_iff_prefix.mp hSndbuf)
  · refine hPlain listen fun name hName hPart => ?_
    have hPart := List.isPrefixOf_iff_prefix.mpr hPart
    simp only [numberModifiers, List.mem_cons, List.not_mem_nil, or_false] at hName
    obtain rfl | rfl | rfl := hName
    · exact hBacklog hPart
    · exact hRcvbuf hPart
    · exact hSndbuf hPart

/-! ## Directives -/

theorem splitWhitespace_off : splitWhitespace "off".toList = ["off".toList] := by
  decide

theorem not_overrunsPart_off : ¬ OverrunsPart "off".toList := by
  rintro ⟨addr, modifiers, hSplit, -, before, after, hAddr, -, -⟩
  rw [splitWhitespace_off] at hSplit
  obtain ⟨rfl, -⟩ := List.cons.inj hSplit
  have hBracket : ']' ∈ "off".toList := by
    rw [hAddr]
    exact List.mem_append_right _ List.mem_cons_self
  exact absurd hBracket (by decide)

theorem not_overrunsPart_nil : ¬ OverrunsPart [] := by
  rintro ⟨addr, modifiers, hSplit, -⟩
  cases hSplit

theorem decides_fromStr :
    Decides (OverrunsPart (Text.trim s)) (ReadablePart (Text.trim s)) (ListenAddr.fromStr s) := by
  unfold ListenAddr.fromStr
  dsimp only
  split
  · next hOff =>
    rw [hOff]
    exact (decides_error _).congr (iff_of_false id not_overrunsPart_off)
      (iff_of_false id fun h => h.1 rfl)
  · next hOn =>
    unfold OverrunsPart ReadablePart
    cases splitWhitespace (Text.trim s) with
    | nil => exact (decides_error _).congr (by simp) (by simp)
    | cons addr modifiers =>
      refine ((decides_readAddress _ addr).bind fun listen _ =>
        decides_foldlM decides_applyModifier _ modifiers).congr ?_ ?_
      · simp
      · refine ⟨fun h => ⟨hOn, addr, modifiers, rfl, h⟩, ?_⟩
        rintro ⟨-, addr', modifiers', hSplit, h⟩
        obtain ⟨rfl, rfl⟩ := List.cons.inj hSplit
        exact h

theorem decides_parseListenPart (part : List Char) :
    Decides (OverrunsPart (Text.trim part))
      (Text.trim part = [] ∨ ReadablePart (Text.trim part)) (parseListenPart result part) := by
  unfold parseListenPart
  dsimp only
  split
  · next hEmpty =>
    rw [List.isEmpty_iff] at hEmpty
    rw [hEmpty]
    exact (decides_ok result).congr (by simp [not_overrunsPart_nil]) (by simp)
  · next hPart =>
    rw [List.isEmpty_iff] at hPart
    have hFrom := decides_fromStr (Text.trim part)
    rw [trim_trim] at hFrom
    exact (hFrom.map _).congr Iff.rfl (by simp [hPart])

/-- A directive whose slices fail comes behind directives that are all read. -/
def OverrunsList (s : List Char) : Prop :=
  ∃ earlier part later, Text.split ',' (Text.trim s) = earlier ++ part :: later ∧
    (∀ x ∈ earlier, Text.trim x = [] ∨ ReadablePart (Text.trim x)) ∧ OverrunsPart (Text.trim part)

/-- The listeners are read, or refused with an error, unless a slice of a directive fails. -/
theorem parseListenAddresses_panics_iff : Panics (parseListenAddresses s) ↔ OverrunsList s := by
  unfold parseListenAddresses OverrunsList
  dsimp only
  split
  · next hDisabled =>
    have hNone : Text.split ',' (Text.trim s) = [Text.trim s] ∧
        ¬ OverrunsPart (Text.trim (Text.trim s)) := by
      rw [trim_trim, List.isEmpty_iff] at *
      obtain hOff | hEmpty := hDisabled
      · rw [hOff]
        exact ⟨by decide, not_overrunsPart_off⟩
      · rw [hEmpty]
        exact ⟨rfl, not_overrunsPart_nil⟩
    refine iff_of_false (by rintro ⟨⟩) ?_
    rintro ⟨earlier, part, later, hSplit, -, hPart⟩
    rw [hNone.1] at hSplit
    obtain ⟨rfl, rfl, rfl⟩ : earlier = [] ∧ part = Text.trim s ∧ later = [] := by
      cases earlier with
      | nil => simpa [eq_comm] using hSplit
      | cons x earlier => simp at hSplit
    exact hNone.2 hPart
  · exact (decides_foldlM decides_parseListenPart [] _).panics

end KongRust.Config
