import KongRust.Router.Stream

/-!
# The address of a client

The headers that tell an upstream who the client is (`upstream_request_filter`). What stands before
the first colon of the socket address is taken for the address of the client, and a network of every
IPv4 address overflows its mask: `client_named_iff`.
-/

namespace KongRust.Proxy

open Net Router.Stream

/-! ## Texts of addresses -/

def octetText (ip : BitVec 32) (i : Nat) : List Char := Nat.toDigits 10 (ip.toNat / 256 ^ i % 256)

/-- `Display for Ipv4Addr`. -/
def ipv4Text (ip : BitVec 32) : List Char :=
  octetText ip 3 ++ '.' :: (octetText ip 2 ++ '.' :: (octetText ip 1 ++ '.' :: octetText ip 0))

def hexText (n : Nat) : List Char :=
  ([n / 4096, n / 256 % 16, n / 16 % 16].dropWhile (· == 0) ++ [n % 16]).map Nat.digitChar

def segmentsText (segments : List Nat) : List Char :=
  (segments.flatMap fun segment => ':' :: hexText segment).tail

/-- The first of the longest runs of zeros, its start and its length. -/
def zeroRun (segments : List Nat) : Nat × Nat :=
  (List.range segments.length).foldl (fun longest start =>
    let length := ((segments.drop start).takeWhile (· == 0)).length
    if longest.2 < length then (start, length) else longest) (0, 0)

/-- `Display for Ipv6Addr`. -/
def ipv6Text (ip : BitVec 128) : List Char :=
  let segments := (List.range 8).map fun i => ip.toNat / 65536 ^ (7 - i) % 65536
  if segments.take 6 = [0, 0, 0, 0, 0, 65535] then
    "::ffff:".toList ++ ipv4Text (ip.setWidth 32)
  else
    let (start, length) := zeroRun segments
    if 1 < length then segmentsText (segments.take start) ++ "::".toList ++
      segmentsText (segments.drop (start + length))
    else segmentsText segments

inductive SocketAddr where
  | v4 (ip : BitVec 32) (port : BitVec 16)
  | v6 (ip : BitVec 128) (scopeId : BitVec 32) (port : BitVec 16)

def SocketAddr.ip : SocketAddr → IpAddr
  | .v4 ip _ => .v4 ip
  | .v6 ip _ _ => .v6 ip

def ipText : IpAddr → List Char
  | .v4 ip => ipv4Text ip
  | .v6 ip => ipv6Text ip

/-- `Display for SocketAddr`. -/
def SocketAddr.text : SocketAddr → List Char
  | .v4 ip port => ipv4Text ip ++ ':' :: Nat.toDigits 10 port.toNat
  | .v6 ip scopeId port => '[' :: ipv6Text ip ++
      (if scopeId = 0 then [] else '%' :: Nat.toDigits 10 scopeId.toNat) ++
      ']' :: ':' :: Nat.toDigits 10 port.toNat

/-! ## The headers -/

variable (overflowChecks : Bool)

/-- The mask of the leading bits. A shift by all bits overflows: where that is checked it panics,
else nothing is shifted. -/
def leadingMask (w prefixLen : Nat) : Option (BitVec w) :=
  if w ≤ prefixLen then some (BitVec.allOnes w)
  else if prefixLen = 0 then if overflowChecks then none else some (BitVec.allOnes w)
  else some (BitVec.allOnes w <<< (w - prefixLen))

def cidrContains (cidr clientIp : List Char) : Option Bool :=
  match Text.find ['/'] cidr with
  | none => some false
  | some (netStr, prefixStr) =>
    match Str.parseUnsigned 256 prefixStr, parseIpAddr netStr, parseIpAddr clientIp with
    | .ok prefixLen, some (.v4 net), some (.v4 client) =>
      (leadingMask overflowChecks 32 prefixLen).map fun mask => net &&& mask == client &&& mask
    | .ok prefixLen, some (.v6 net), some (.v6 client) =>
      (leadingMask overflowChecks 128 prefixLen).map fun mask => net &&& mask == client &&& mask
    | _, _, _ => some false

/-- The comparison of one entry of `trusted_ips`. -/
def entryTrusts (entry clientIp : List Char) : Option Bool :=
  let tip := Text.trim entry
  if '/' ∈ tip then cidrContains overflowChecks tip clientIp else some (tip == clientIp)

/-- The entries are compared up to the first that trusts the client; nothing after a panic. -/
def isTrusted (clientIp : List Char) : List (List Char) → Option Bool
  | [] => some false
  | entry :: trustedIps =>
    match entryTrusts overflowChecks entry clientIp with
    | some false => isTrusted clientIp trustedIps
    | answer => answer

/-- The headers of the client's request. -/
structure ClientHeaders where
  realIp : Option (List Char)
  forwardedFor : Option (List Char)

def injectedHeaders (headersSet : List String) (given : ClientHeaders) (isTrusted : Bool)
    (clientIp : List Char) : List (String × List Char) :=
  (if "x-real-ip" ∈ headersSet then
    [("X-Real-IP", if isTrusted then given.realIp.getD clientIp else clientIp)] else []) ++
  (if "x-forwarded-for" ∈ headersSet then
    [("X-Forwarded-For",
      (given.forwardedFor.map fun existing => existing ++ ", ".toList ++ clientIp).getD clientIp)]
    else [])

def clientIpOf (clientAddr : SocketAddr) : List Char :=
  (Text.split ':' clientAddr.text).headD clientAddr.text

/-- Whether the client is trusted, and the headers with its address. -/
def realIpHeaders (headersSet : List String) (trustedIps : List (List Char))
    (clientAddr : Option SocketAddr) (given : ClientHeaders) :
    Option (Bool × List (String × List Char)) :=
  let clientIp := (clientAddr.map clientIpOf).getD []
  (isTrusted overflowChecks clientIp trustedIps).map fun trusted =>
    (trusted, if clientIp.isEmpty then [] else injectedHeaders headersSet given trusted clientIp)

/-! ## What the headers are to be -/

def network (entry : List Char) : Option (IpAddr × Nat) :=
  parseCidr (String.ofList (Text.trim entry))

/-- An entry is an address or a block. -/
def IsEntry (entry : List Char) : Prop :=
  ∃ ip length, network entry = some (ip, length) ∧ length ≤ IpAddr.width ip

/-- An entry is the address or has it in its block. -/
def Means (ip : IpAddr) (entry : List Char) : Prop :=
  ∃ block, network entry = some block ∧ Within ip block

def Listed (trustedIps : List (List Char)) (ip : IpAddr) : Prop :=
  ∃ entry ∈ trustedIps, Means ip entry

/-- The block of all IPv4 addresses. -/
def EveryIpv4 (entry : List Char) : Prop := ∃ net, network entry = some (.v4 net, 0)

/-- An entry means the address, and not as one of all addresses. -/
def Tells (ip : BitVec 32) (entry : List Char) : Prop :=
  ∃ block, network entry = some block ∧ Within (.v4 ip) block ∧ (block.2 = 0 → block.1 = .v4 ip)

/-- A block of all IPv4 addresses comes behind an entry that means the address, or, where overflow
is not checked, some entry tells it. -/
def Told (trustedIps : List (List Char)) (ip : BitVec 32) : Prop :=
  ∀ earlier entry later, trustedIps = earlier ++ entry :: later → EveryIpv4 entry →
    if overflowChecks then Listed earlier (.v4 ip) else ∃ other ∈ trustedIps, Tells ip other

/-- The client is trusted just if it is listed, and the headers have its address. -/
def Named (headersSet : List String) (trustedIps : List (List Char)) (clientAddr : SocketAddr)
    (given : ClientHeaders) : Prop :=
  ∃ trusted, realIpHeaders overflowChecks headersSet trustedIps (some clientAddr) given =
      some (trusted, injectedHeaders headersSet given trusted (ipText clientAddr.ip)) ∧
    (trusted = true ↔ Listed trustedIps clientAddr.ip)

/-! ## Reading the texts -/

theorem eq_of_split_four {s a b c d : List Char} (h : Text.split '.' s = [a, b, c, d]) :
    s = a ++ '.' :: (b ++ '.' :: (c ++ '.' :: d)) := by
  obtain ⟨hNil, -⟩ | ⟨t, rfl, hFirst⟩ := Text.eq_of_split h
  · cases hNil
  obtain ⟨hNil, -⟩ | ⟨u, rfl, hSecond⟩ := Text.eq_of_split hFirst
  · cases hNil
  obtain ⟨hNil, -⟩ | ⟨v, rfl, hThird⟩ := Text.eq_of_split hSecond
  · cases hNil
  obtain ⟨-, rfl⟩ | ⟨w, -, hNil⟩ := Text.eq_of_split hThird
  · rfl
  · exact absurd hNil (Text.split_ne_nil '.' w)

theorem isOctet_toDigits : ∀ n < 256, isOctet (Nat.toDigits 10 n) = true ∧
    decimal (Nat.toDigits 10 n) = n := by
  decide +kernel

theorem exists_digitChar {c : Char} (h : isDigit c = true) : ∃ d < 10, c = Nat.digitChar d := by
  simp only [isDigit, Bool.and_eq_true, decide_eq_true_eq, Char.le_def,
    UInt32.le_iff_toNat_le] at h
  have hLow : 48 ≤ c.toNat := h.1
  have hHigh : c.toNat ≤ 57 := h.2
  refine ⟨c.toNat - 48, by omega, Char.toNat_inj.mp ?_⟩
  rw [Nat.toNat_digitChar_of_lt_ten (by omega)]
  omega

/-- A text of digits is the one that `Display` writes, unless it has leading zeros. -/
theorem toDigits_decimal {s : List Char} (hDigits : ∀ c ∈ s, isDigit c = true) (hNonempty : s ≠ [])
    (hZero : s.head? ≠ some '0') : Nat.toDigits 10 (decimal s) = s := by
  induction s using List.reverseRecOn with
  | nil => exact absurd rfl hNonempty
  | append_singleton s c ih =>
    obtain ⟨d, hd, rfl⟩ := exists_digitChar (hDigits c (by simp))
    have hDecimal : decimal (s ++ [d.digitChar]) = 10 * decimal s + d := by
      simp [decimal, Nat.toNat_digitChar_of_lt_ten hd]
    rw [hDecimal]
    cases s with
    | nil => simpa [decimal] using Nat.toDigits_of_lt_base hd
    | cons first s =>
      have hText := ih (fun c hc => hDigits c (List.mem_append_left _ hc)) (List.cons_ne_nil _ _)
        (by simpa using hZero)
      have hPositive : 0 < decimal (first :: s) := by
        refine Nat.pos_of_ne_zero fun hNone => hZero ?_
        rw [← hText, hNone]
        rfl
      rw [← Nat.toDigits_append_toDigits (by decide) hPositive hd, hText,
        Nat.toDigits_of_lt_base hd]

theorem octet_spec {s : List Char} (h : isOctet s = true) :
    Nat.toDigits 10 (decimal s) = s ∧ decimal s < 256 := by
  simp only [isOctet, Bool.and_eq_true, decide_eq_true_eq, Bool.or_eq_true, List.all_eq_true,
    Bool.not_eq_true', List.isEmpty_eq_false_iff] at h
  obtain ⟨⟨⟨⟨hNonempty, -⟩, hDigits⟩, hZero⟩, hBound⟩ := h
  refine ⟨?_, Nat.lt_succ_of_le hBound⟩
  by_cases hFirst : s.head? = some '0'
  · obtain ⟨c, rfl⟩ : ∃ c, s = [c] := List.length_eq_one_iff.mp (by simpa [hFirst] using hZero)
    cases hFirst
    rfl
  · exact toDigits_decimal hDigits hNonempty hFirst

theorem mem_octetText {ip : BitVec 32} {i : Nat} {c : Char} (h : c ∈ octetText ip i) :
    c.isDigit = true :=
  Nat.isDigit_of_mem_toDigits (by decide) (by decide) h

theorem split_ipv4Text (ip : BitVec 32) : Text.split '.' (ipv4Text ip) =
    [octetText ip 3, octetText ip 2, octetText ip 1, octetText ip 0] := by
  have hDot : ∀ i, '.' ∉ octetText ip i := fun i h => absurd (mem_octetText h) (by decide)
  rw [ipv4Text, Text.split_append (hDot 3), Text.split_append (hDot 2), Text.split_append (hDot 1),
    Text.split_of_not_mem (hDot 0)]

/-- An IPv4 address has one text. -/
theorem parseIpAddr_eq_v4_iff {s : List Char} {ip : BitVec 32} :
    parseIpAddr s = some (.v4 ip) ↔ s = ipv4Text ip := by
  constructor
  · intro h
    unfold parseIpAddr at h
    split at h
    · next hIpv4 =>
      simp only [isIpv4, Bool.and_eq_true, beq_iff_eq, List.all_eq_true] at hIpv4
      obtain ⟨hLength, hOctets⟩ := hIpv4
      obtain ⟨a, b, c, d, hSplit⟩ : ∃ a b c d, Text.split '.' s = [a, b, c, d] := by
        match Text.split '.' s, hLength with
        | [a, b, c, d], _ => exact ⟨a, b, c, d, rfl⟩
      simp only [hSplit, List.forall_mem_cons, List.not_mem_nil, false_imp_iff, implies_true,
        and_true] at hOctets
      obtain ⟨ha, hb, hc, hd⟩ := hOctets
      have haBound := (octet_spec ha).2
      have hbBound := (octet_spec hb).2
      have hcBound := (octet_spec hc).2
      have hdBound := (octet_spec hd).2
      have hIp : ip.toNat =
          256 * (256 * (256 * decimal a + decimal b) + decimal c) + decimal d := by
        cases h
        simp only [ipv4Value, hSplit, List.foldl_cons, List.foldl_nil, BitVec.toNat_ofNat]
        omega
      have hText : ∀ {i : Nat} {piece : List Char}, isOctet piece = true →
          ip.toNat / 256 ^ i % 256 = decimal piece → octetText ip i = piece := by
        intro i piece hPiece hValue
        rw [octetText, hValue, (octet_spec hPiece).1]
      rw [eq_of_split_four hSplit, ipv4Text, hText ha (by omega), hText hb (by omega),
        hText hc (by omega), hText hd (by omega)]
    · split at h <;> cases h
  · rintro rfl
    have hOctet : ∀ i, isOctet (octetText ip i) = true ∧
        decimal (octetText ip i) = ip.toNat / 256 ^ i % 256 := fun i =>
      isOctet_toDigits _ (Nat.mod_lt _ (by decide))
    have hIpv4 : isIpv4 (ipv4Text ip) = true := by simp [isIpv4, split_ipv4Text, hOctet]
    have hValue : ipv4Value (ipv4Text ip) = ip.toNat := by
      have hBound := ip.isLt
      simp only [ipv4Value, split_ipv4Text, List.foldl_cons, List.foldl_nil, hOctet]
      omega
    rw [parseIpAddr, if_pos hIpv4, hValue, BitVec.ofNat_toNat, BitVec.setWidth_eq]

/-! ## The address of the client -/

theorem not_mem_ipv4Text {c : Char} (hc : c ≠ '.' ∧ c.isDigit = false) (ip : BitVec 32) :
    c ∉ ipv4Text ip := by
  have hOctet : ∀ i, c ∉ octetText ip i := fun i h => by simp [mem_octetText h] at hc
  simp [ipv4Text, hOctet, hc.1]

theorem clientIpOf_v4 (ip : BitVec 32) (port : BitVec 16) :
    clientIpOf (.v4 ip port) = ipv4Text ip := by
  rw [clientIpOf, SocketAddr.text, Text.split_append (not_mem_ipv4Text (by decide) ip)]
  rfl

theorem not_mem_segmentsText (segments : List Nat) : '[' ∉ segmentsText segments := by
  intro h
  obtain ⟨segment, -, hText⟩ := List.mem_flatMap.mp (List.mem_of_mem_tail h)
  obtain hColon | hHex := List.mem_cons.mp hText
  · cases hColon
  · obtain ⟨digit, -, hDigit⟩ := List.mem_map.mp hHex
    exact Nat.digitChar_ne '[' rfl hDigit

theorem not_mem_ipv6Text (ip : BitVec 128) : '[' ∉ ipv6Text ip := by
  unfold ipv6Text
  dsimp only
  split_ifs
  · simp [not_mem_ipv4Text]
  · simp [not_mem_segmentsText]
  · exact not_mem_segmentsText _

/-- Of an IPv6 client the text begins with the bracket. -/
theorem clientIpOf_v6 (ip : BitVec 128) (scopeId : BitVec 32) (port : BitVec 16) :
    clientIpOf (.v6 ip scopeId port) ≠ ipv6Text ip := by
  intro h
  have hHead : '[' ∈ clientIpOf (.v6 ip scopeId port) := by
    unfold clientIpOf SocketAddr.text
    dsimp only
    rw [List.cons_append, List.cons_append, Text.split, if_neg (by decide)]
    split <;> simp
  exact not_mem_ipv6Text ip (h ▸ hHead)

/-! ## Trust -/

variable {overflowChecks : Bool} {trustedIps : List (List Char)} {entry : List Char}
  {ip : BitVec 32}

theorem leadingMask_eq {w length : Nat} (hPositive : length ≠ 0) :
    leadingMask overflowChecks w length = some (BitVec.allOnes w <<< (w - length)) := by
  unfold leadingMask
  split
  · next hWhole => simp [Nat.sub_eq_zero_of_le hWhole]
  · rfl

theorem within_v4_iff {net : BitVec 32} {length : Nat} (hLength : length ≤ 32) :
    Within (.v4 ip) (.v4 net, length) ↔ ∀ i < length, net.getMsbD i = ip.getMsbD i := by
  constructor
  · intro h
    cases h with
    | v4 _ hBits => exact fun i hi => (hBits i hi).symm
  · exact fun h => .v4 hLength fun i hi => (h i hi).symm

theorem EveryIpv4.means (h : EveryIpv4 entry) : Means (.v4 ip) entry := by
  obtain ⟨net, hNetwork⟩ := h
  exact ⟨_, hNetwork, .v4 (Nat.zero_le _) nofun⟩

theorem tells_iff (h : ¬ EveryIpv4 entry) : Tells ip entry ↔ Means (.v4 ip) entry := by
  constructor
  · rintro ⟨block, hNetwork, hWithin, -⟩
    exact ⟨block, hNetwork, hWithin⟩
  · rintro ⟨block, hNetwork, hWithin⟩
    refine ⟨block, hNetwork, hWithin, fun hZero => ?_⟩
    cases hWithin
    cases hZero
    exact absurd ⟨_, hNetwork⟩ h

/-- An entry is compared as it is meant, but for the block of all addresses, which overflows. -/
theorem entryTrusts_v4 (hEntry : IsEntry entry) :
    (∃ net, network entry = some (.v4 net, 0) ∧ entryTrusts overflowChecks entry (ipv4Text ip) =
        if overflowChecks then none else some (net == ip)) ∨
      ¬ EveryIpv4 entry ∧ ∃ trusts, entryTrusts overflowChecks entry (ipv4Text ip) = some trusts ∧
        (trusts = true ↔ Means (.v4 ip) entry) := by
  obtain ⟨address, length, hNetwork, hLength⟩ := hEntry
  have hClient : parseIpAddr (ipv4Text ip) = some (.v4 ip) := parseIpAddr_eq_v4_iff.mpr rfl
  have hBlock : Means (.v4 ip) entry ↔ Within (.v4 ip) (address, length) := by
    simp [Means, hNetwork]
  rw [hBlock]
  unfold EveryIpv4
  rw [hNetwork]
  unfold network parseCidr at hNetwork
  unfold entryTrusts cidrContains
  rw [String.toList_ofList] at hNetwork
  dsimp only
  cases hFind : Text.find ['/'] (Text.trim entry) with
  | none =>
    have hSlash : '/' ∉ Text.trim entry := by
      simpa [List.singleton_infix_iff] using Text.find_eq_none_iff.mp hFind
    rw [hFind] at hNetwork
    obtain ⟨ip', hParse, hPair⟩ := Option.map_eq_some_iff.mp hNetwork
    cases hPair
    rw [if_neg hSlash]
    refine .inr ⟨?_, _, rfl, ?_⟩
    · rintro ⟨net, h⟩
      cases h
    · rw [beq_iff_eq, ← parseIpAddr_eq_v4_iff, hParse, Option.some.injEq]
      cases address with
      | v4 net =>
        rw [IpAddr.width, within_v4_iff le_rfl, IpAddr.v4.injEq]
        exact ⟨fun h _ _ => by rw [h], fun h => BitVec.eq_of_getMsbD_eq h⟩
      | v6 net => exact iff_of_false nofun nofun
  | some cut =>
    have hSlash : '/' ∈ Text.trim entry := by
      by_contra hNone
      rw [Text.find_of_not_mem hNone] at hFind
      cases hFind
    rw [hFind] at hNetwork
    rw [if_pos hSlash]
    dsimp only at hNetwork ⊢
    cases hAddress : parseIpAddr cut.1 with
    | none => simp [hAddress] at hNetwork
    | some ip' =>
      cases hNumber : Str.parseUnsigned 256 cut.2 with
      | error e => simp [hAddress, hNumber, Except.toOption] at hNetwork
      | ok n =>
        simp only [hAddress, hNumber, Except.toOption, Option.bind_eq_bind, Option.bind_some,
          Option.some.injEq, Prod.mk.injEq] at hNetwork
        obtain ⟨rfl, rfl⟩ := hNetwork
        rw [hClient]
        cases ip' with
        | v6 net =>
          refine .inr ⟨?_, false, rfl, iff_of_false nofun nofun⟩
          rintro ⟨_, h⟩
          cases h
        | v4 net =>
          have hWidth : n ≤ 32 := hLength
          by_cases hZero : n = 0
          · subst hZero
            exact .inl ⟨net, rfl, by
              cases overflowChecks
              · simp [leadingMask, BitVec.and_allOnes, -BitVec.reduceAllOnes]
              · rfl⟩
          · have hMask : leadingMask overflowChecks 32 n = some (BitVec.allOnes 32 <<< (32 - n)) :=
              leadingMask_eq hZero
            dsimp only
            rw [hMask]
            refine .inr ⟨?_, _, rfl, ?_⟩
            · rintro ⟨_, h⟩
              cases h
              exact hZero rfl
            · rw [beq_iff_eq, masked_eq_iff hWidth, within_v4_iff hWidth]

theorem listed_cons : Listed (entry :: trustedIps) (.v4 ip) ↔
    Means (.v4 ip) entry ∨ Listed trustedIps (.v4 ip) :=
  List.exists_mem_cons_iff ..

theorem isTrusted_unchecked (ip : BitVec 32) (hEntries : ∀ entry ∈ trustedIps, IsEntry entry) :
    ∃ trusted, isTrusted false (ipv4Text ip) trustedIps = some trusted ∧
      (trusted = true ↔ ∃ entry ∈ trustedIps, Tells ip entry) := by
  induction trustedIps with
  | nil => exact ⟨false, rfl, by simp⟩
  | cons entry trustedIps ih =>
    obtain ⟨hEntry, hEntries⟩ := List.forall_mem_cons.mp hEntries
    have hFirst : ∃ trusts, entryTrusts false entry (ipv4Text ip) = some trusts ∧
        (trusts = true ↔ Tells ip entry) := by
      obtain ⟨net, hNetwork, hTrusts⟩ | ⟨hEvery, trusts, hTrusts, hMeant⟩ := entryTrusts_v4 hEntry
      · refine ⟨_, hTrusts, ?_⟩
        simp [Tells, hNetwork, within_v4_iff]
      · exact ⟨trusts, hTrusts, hMeant.trans (tells_iff hEvery).symm⟩
    obtain ⟨trusts, hTrusts, hMeant⟩ := hFirst
    rw [isTrusted, hTrusts]
    simp only [List.exists_mem_cons_iff, ← hMeant]
    cases trusts with
    | true => exact ⟨true, rfl, by simp⟩
    | false => simpa using ih hEntries

theorem forall_split_cons {P : List (List Char) → List Char → Prop} :
    (∀ earlier other later, entry :: trustedIps = earlier ++ other :: later → P earlier other) ↔
      P [] entry ∧ ∀ earlier other later, trustedIps = earlier ++ other :: later →
        P (entry :: earlier) other := by
  constructor
  · exact fun h => ⟨h [] entry _ rfl, fun earlier other later hSplit =>
      h (entry :: earlier) other later (by rw [hSplit]; rfl)⟩
  · rintro ⟨hFirst, hRest⟩ (_ | ⟨first, earlier⟩) other later hSplit
    · cases hSplit
      exact hFirst
    · cases hSplit
      exact hRest earlier other later rfl

theorem isTrusted_checked (hEntries : ∀ entry ∈ trustedIps, IsEntry entry) :
    (∃ trusted, isTrusted true (ipv4Text ip) trustedIps = some trusted ∧
      (trusted = true ↔ Listed trustedIps (.v4 ip))) ↔ Told true trustedIps ip := by
  simp only [Told, if_true]
  induction trustedIps with
  | nil => exact iff_of_true ⟨false, rfl, by simp [Listed]⟩ (by simp)
  | cons entry trustedIps ih =>
    obtain ⟨hEntry, hEntries⟩ := List.forall_mem_cons.mp hEntries
    rw [forall_split_cons, isTrusted]
    obtain ⟨net, hNetwork, hNone⟩ | ⟨hEvery, trusts, hTrusts, hMeant⟩ := entryTrusts_v4 hEntry
    · rw [hNone]
      refine iff_of_false (by rintro ⟨_, h, -⟩; cases h) fun h => ?_
      obtain ⟨_, hMem, -⟩ := h.1 ⟨net, hNetwork⟩
      cases hMem
    · rw [hTrusts, and_iff_right fun h => absurd h hEvery]
      simp only [listed_cons, ← hMeant]
      cases trusts with
      | true => exact iff_of_true ⟨true, rfl, by simp⟩ (by simp)
      | false => simpa using ih hEntries

theorem isTrusted_v4 (hEntries : ∀ entry ∈ trustedIps, IsEntry entry) :
    (∃ trusted, isTrusted overflowChecks (ipv4Text ip) trustedIps = some trusted ∧
      (trusted = true ↔ Listed trustedIps (.v4 ip))) ↔ Told overflowChecks trustedIps ip := by
  cases overflowChecks with
  | true => exact isTrusted_checked hEntries
  | false =>
    obtain ⟨trusted, hTrusted, hTells⟩ := isTrusted_unchecked ip hEntries
    simp only [hTrusted, Option.some.injEq, exists_eq_left', hTells, Told, Bool.false_eq_true,
      if_false]
    constructor
    · rintro h _ entry _ rfl hEvery
      exact h.mpr ⟨entry, by simp, hEvery.means⟩
    · refine fun h => ⟨fun ⟨entry, hMem, block, hNetwork, hWithin, _⟩ =>
        ⟨entry, hMem, block, hNetwork, hWithin⟩, fun ⟨entry, hMem, hMeans⟩ => ?_⟩
      by_cases hEvery : EveryIpv4 entry
      · obtain ⟨earlier, later, hSplit⟩ := List.append_of_mem hMem
        exact h earlier entry later hSplit hEvery
      · exact ⟨entry, hMem, (tells_iff hEvery).mpr hMeans⟩

variable {headersSet : List String} {clientAddr : SocketAddr} {given : ClientHeaders}

theorem injectedHeaders_inj (hHeader : "x-forwarded-for" ∈ headersSet) {trusted : Bool}
    {a b : List Char} (h : injectedHeaders headersSet given trusted a =
      injectedHeaders headersSet given trusted b) : a = b := by
  unfold injectedHeaders at h
  rw [if_pos hHeader, if_pos hHeader] at h
  have hLast := (List.append_inj' h rfl).2
  cases hGiven : given.forwardedFor with
  | none => simpa [hGiven] using hLast
  | some existing => simpa [hGiven] using hLast

/-- The trust and the headers are right just for IPv4 clients that are told apart from those that
only a block of all addresses has. -/
theorem client_named_iff (hEntries : ∀ entry ∈ trustedIps, IsEntry entry)
    (hHeader : "x-forwarded-for" ∈ headersSet) :
    Named overflowChecks headersSet trustedIps clientAddr given ↔
      ∃ ip port, clientAddr = .v4 ip port ∧ Told overflowChecks trustedIps ip := by
  cases clientAddr with
  | v4 ip port =>
    have hText : ¬ (ipv4Text ip).isEmpty = true := by simp [ipv4Text]
    have hNamed : Named overflowChecks headersSet trustedIps (.v4 ip port) given ↔
        ∃ trusted, isTrusted overflowChecks (ipv4Text ip) trustedIps = some trusted ∧
          (trusted = true ↔ Listed trustedIps (.v4 ip)) := by
      refine exists_congr fun trusted => and_congr_left fun _ => ?_
      simp only [realIpHeaders, Option.map_some, Option.getD_some, clientIpOf_v4, if_neg hText,
        SocketAddr.ip, ipText]
      constructor
      · intro h
        obtain ⟨_, hTrusted, hPair⟩ := Option.map_eq_some_iff.mp h
        cases hPair
        exact hTrusted
      · intro h
        rw [h]
        rfl
    rw [hNamed, isTrusted_v4 hEntries]
    constructor
    · exact fun h => ⟨ip, port, rfl, h⟩
    · rintro ⟨_, _, hAddr, h⟩
      cases hAddr
      exact h
  | v6 ip scopeId port =>
    refine iff_of_false ?_ (by rintro ⟨_, _, h, -⟩; cases h)
    rintro ⟨trusted, hHeaders, -⟩
    obtain ⟨_, -, hPair⟩ := Option.map_eq_some_iff.mp hHeaders
    obtain ⟨rfl, hInjected⟩ := Prod.mk.inj hPair
    dsimp only [Option.map_some, Option.getD_some, SocketAddr.ip, ipText] at hInjected
    split at hInjected
    · simp [injectedHeaders, hHeader] at hInjected
    · exact clientIpOf_v6 ip scopeId port (injectedHeaders_inj hHeader hInjected)

/-- The headers of an IPv6 client have a piece of its text, and the block of all addresses has no
client. -/
theorem client_misnamed :
    ¬ Named false ["x-real-ip", "x-forwarded-for"] []
      (.v6 0x20010db8000000000000000000000001 0 443) ⟨none, none⟩ ∧
    IsEntry "0.0.0.0/0".toList ∧
    ¬ Named false ["x-real-ip", "x-forwarded-for"] ["0.0.0.0/0".toList] (.v4 0x0a010203 4444)
      ⟨none, none⟩ := by
  have hEvery : network "0.0.0.0/0".toList = some (.v4 0, 0) := by decide +kernel
  refine ⟨?_, ⟨_, _, hEvery, by decide⟩, ?_⟩
  · rintro ⟨trusted, hHeaders, -⟩
    revert trusted
    decide +kernel
  · rintro ⟨trusted, hHeaders, hListed⟩
    have hTrusted := hListed.mpr ⟨_, List.mem_singleton_self _, EveryIpv4.means ⟨_, hEvery⟩⟩
    subst hTrusted
    revert hHeaders
    decide +kernel

theorem client_named_sample : Named false ["x-real-ip", "x-forwarded-for"]
    ["192.168.1.7".toList, "0.0.0.0/0".toList, " 10.0.0.0/8".toList] (.v4 0x0a010203 4444)
    ⟨some "8.8.8.8".toList, some "8.8.8.8".toList⟩ := by
  have hAddress : network "192.168.1.7".toList = some (.v4 0xc0a80107, 32) := by decide +kernel
  have hBlock : network " 10.0.0.0/8".toList = some (.v4 0x0a000000, 8) := by decide +kernel
  have hEvery : network "0.0.0.0/0".toList = some (.v4 0, 0) := by decide +kernel
  refine (client_named_iff ?_ (by decide)).mpr ⟨_, _, rfl, fun _ _ _ _ _ => ?_⟩
  · simp only [List.forall_mem_cons]
    exact ⟨⟨_, _, hAddress, by decide⟩, ⟨_, _, hEvery, by decide⟩,
      ⟨_, _, hBlock, by decide⟩, by simp⟩
  · have hIn : Within (.v4 0x0a010203) (.v4 0x0a000000, 8) := .v4 (by decide) (by decide)
    exact ⟨_, by simp, _, hBlock, hIn, by decide⟩

end KongRust.Proxy
