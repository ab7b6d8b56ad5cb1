import KongRust.Foundation.Text

/-!
# Addresses

The texts that `IpAddr::from_str` accepts, and the addresses that it reads from them.
-/

namespace KongRust.Net

def isDigit (c : Char) : Bool := '0' ≤ c && c ≤ '9'

def isHexDigit (c : Char) : Bool := isDigit c || ('a' ≤ c && c ≤ 'f') || ('A' ≤ c && c ≤ 'F')

variable (s : List Char)

def decimal (s : List Char) : Nat := s.foldl (fun n c => 10 * n + (c.toNat - '0'.toNat)) 0

/-- A number below 256, without leading zeros. -/
def isOctet (s : List Char) : Bool :=
  !s.isEmpty && s.length ≤ 3 && s.all isDigit && (s.length == 1 || s.head? != some '0') &&
    decimal s ≤ 255

def isIpv4 (s : List Char) : Bool :=
  (Text.split '.' s).length == 4 && (Text.split '.' s).all isOctet

def isGroup (s : List Char) : Bool := !s.isEmpty && s.length ≤ 4 && s.all isHexDigit

/-- How many groups a part of an IPv6 address stands for; the last ones may be an IPv4 address. -/
def groups (allowIpv4 : Bool) (s : List Char) : Option Nat :=
  if s.isEmpty then some 0
  else
    let pieces := Text.split ':' s
    let last := pieces.getLast?.getD []
    if !pieces.dropLast.all isGroup then none
    else if isGroup last then some pieces.length
    else if allowIpv4 && isIpv4 last then some (pieces.length + 1)
    else none

/-- Eight groups, or up to seven with `::` in the place of the others. -/
def isIpv6 (s : List Char) : Bool :=
  match Text.find "::".toList s with
  | none => groups true s == some 8
  | some (front, back) =>
    match groups false front, groups true back with
    | some n, some m => n + m ≤ 7
    | _, _ => false

/-- `s.parse::<IpAddr>().is_ok()`. -/
def isIpAddr (s : String) : Bool := isIpv4 s.toList || isIpv6 s.toList

/-! ## Their bits -/

inductive IpAddr where
  | v4 (bits : BitVec 32)
  | v6 (bits : BitVec 128)
  deriving DecidableEq

def hexadecimal (s : List Char) : Nat :=
  s.foldl (fun n c => 16 * n + if isDigit c then c.toNat - '0'.toNat
    else c.toLower.toNat - 'a'.toNat + 10) 0

def ipv4Value (s : List Char) : Nat :=
  (Text.split '.' s).foldl (fun n octet => 256 * n + decimal octet) 0

def groupValues (s : List Char) : List Nat :=
  if s.isEmpty then [] else (Text.split ':' s).flatMap fun piece =>
    if isGroup piece then [hexadecimal piece]
    else [ipv4Value piece / 65536, ipv4Value piece % 65536]

def ipv6Groups (s : List Char) : List Nat :=
  match Text.find "::".toList s with
  | none => groupValues s
  | some (front, back) =>
    let missing := 8 - (groupValues front).length - (groupValues back).length
    groupValues front ++ List.replicate missing 0 ++ groupValues back

/-- `IpAddr::from_str`. -/
def parseIpAddr (s : List Char) : Option IpAddr :=
  if isIpv4 s then some (.v4 (BitVec.ofNat 32 (ipv4Value s)))
  else if isIpv6 s then
    some (.v6 (BitVec.ofNat 128 ((ipv6Groups s).foldl (fun n group => 65536 * n + group) 0)))
  else none

end KongRust.Net
