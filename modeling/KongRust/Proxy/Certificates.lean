import KongRust.Foundation.Machine
import KongRust.Foundation.Text
import Mathlib.Logic.Function.Basic

/-!
# Certificates by server name

`CertificateManager`: the certificates, and a copy of one for each name of the SNI table. What it is
for is said by `Registry`, in which a name refers to a certificate and the certificate is looked up
when it is asked for.
-/

namespace KongRust.Proxy

/-! ## The certificate manager -/

structure CertKeyPair where
  cert : String
  key : String
  certAlt : Option String
  keyAlt : Option String
  deriving DecidableEq

structure Certificate where
  id : Uuid
  cert : String
  key : String
  certAlt : Option String
  keyAlt : Option String

structure Sni where
  name : String
  certificate : Uuid

def Certificate.pair (certificate : Certificate) : CertKeyPair :=
  ⟨certificate.cert, certificate.key, certificate.certAlt, certificate.keyAlt⟩

structure CertificateManager where
  sniMap : String → Option CertKeyPair
  certCache : Uuid → Option CertKeyPair
  defaultCert : Option CertKeyPair

/-- `produce_wild_prefix`. -/
def produceWildPrefix (sni : String) : Option String :=
  if Text.startsWith sni "*" then some sni
  else
    match Text.find ['.'] sni.toList with
    | none => none
    | some (_, rest) => if rest.contains '.' then some (String.ofList ('*' :: '.' :: rest)) else none

/-- `produce_wild_suffix`: the last dot is the first one from behind. -/
def produceWildSuffix (sni : String) : Option String :=
  if sni.toList.getLast? = some '*' then some sni
  else
    match Text.find ['.'] sni.toList.reverse with
    | none => none
    | some (_, before) =>
      if before.isEmpty then none else some (String.ofList (before.reverse ++ ['.', '*']))

namespace CertificateManager

def new : CertificateManager := ⟨fun _ => none, fun _ => none, none⟩

variable (manager : CertificateManager)

def setDefaultCert (manager : CertificateManager) (cert key : String) : CertificateManager :=
  { manager with defaultCert := some ⟨cert, key, none, none⟩ }

variable (certificates : List Certificate)

/-- The certificate cache of `load_certificates`. -/
def certMap (certificates : List Certificate) : Uuid → Option CertKeyPair :=
  certificates.foldl (fun cache certificate =>
    Function.update cache certificate.id (some certificate.pair)) fun _ => none

variable (cache : Uuid → Option CertKeyPair)

/-- One name with a copy of its certificate, unless that is unknown. -/
def copyName (cache : Uuid → Option CertKeyPair) (names : String → Option CertKeyPair) (sni : Sni) :
    String → Option CertKeyPair :=
  match cache sni.certificate with
  | some pair => Function.update names sni.name (some pair)
  | none => names

/-- The names of `load_certificates`. -/
def sniMapOf (cache : Uuid → Option CertKeyPair) (snis : List Sni) : String → Option CertKeyPair :=
  snis.foldl (copyName cache) fun _ => none

def loadCertificates (manager : CertificateManager) (certificates : List Certificate)
    (snis : List Sni) : CertificateManager where
  sniMap := sniMapOf (certMap certificates) snis
  certCache := certMap certificates
  defaultCert := manager.defaultCert

def updateCertificate (manager : CertificateManager) (certificate : Certificate) :
    CertificateManager :=
  { manager with
    certCache := Function.update manager.certCache certificate.id (some certificate.pair) }

def updateSni (manager : CertificateManager) (sni : Sni) : CertificateManager :=
  match manager.certCache sni.certificate with
  | some pair => { manager with sniMap := Function.update manager.sniMap sni.name (some pair) }
  | none => manager

def removeSni (manager : CertificateManager) (name : String) : CertificateManager :=
  { manager with sniMap := Function.update manager.sniMap name none }

end CertificateManager

/-! ## Names with a star -/

/-- The labels of a name, between its dots. -/
def labels (name : String) : List (List Char) := name.toList.splitOn '.'

def ofLabels (labels : List (List Char)) : String := String.ofList (['.'].intercalate labels)

/-- A name of three labels or more, with a star for the first one. A name that begins with a star
stands as it is. -/
def starFirst (name : String) : Option String :=
  if name.toList.head? = some '*' then some name
  else if (labels name).length < 3 then none
  else some (ofLabels (['*'] :: (labels name).tail))

/-- A name with a star for its last label, if there is something in front of that. A name that ends
with a star stands as it is. -/
def starLast (name : String) : Option String :=
  if name.toList.getLast? = some '*' then some name
  else if ofLabels (labels name).dropLast = "" then none
  else some (ofLabels ((labels name).dropLast ++ [['*']]))

/-- The names under which a server name may be found, in this order. -/
def candidates (name : String) : List String :=
  name :: (starFirst name).toList ++ (starLast name).toList ++ ["*"]

theorem produceWildPrefix_eq (name : String) : produceWildPrefix name = starFirst name := by
  have hHead : Text.startsWith name "*" = true ↔ name.toList.head? = some '*' := by
    rw [Text.startsWith, List.isPrefixOf_iff_prefix]
    change ['*'] <+: name.toList ↔ _
    cases name.toList with
    | nil => simp
    | cons c s => simp [List.cons_prefix_cons, eq_comm]
  unfold produceWildPrefix starFirst
  simp only [hHead]
  by_cases hStar : name.toList.head? = some '*'
  · rw [if_pos hStar, if_pos hStar]
  rw [if_neg hStar, if_neg hStar]
  by_cases hDot : '.' ∈ name.toList
  · obtain ⟨first, rest, hName, hFirst⟩ := List.eq_append_cons_of_mem hDot
    have hFind : Text.find ['.'] name.toList = some (first, rest) :=
      hName ▸ Text.find_append_of_head hFirst rest
    have hLabels : labels name = first :: rest.splitOn '.' := by
      rw [labels, hName, List.splitOn_append_cons_self_of_not_mem hFirst]
    have hStarred : ofLabels (['*'] :: rest.splitOn '.') = String.ofList ('*' :: '.' :: rest) := by
      rw [ofLabels, ← List.splitOn_append_cons_self_of_not_mem (by simp), List.intercalate_splitOn]
      rfl
    rw [hFind, hLabels, List.tail_cons, hStarred]
    dsimp only
    by_cases hMore : '.' ∈ rest
    · obtain ⟨second, others, hRest, -⟩ := List.eq_append_cons_of_mem hMore
      have hSecond := List.length_pos_iff.mpr (List.splitOn_ne_nil '.' second)
      have hOthers := List.length_pos_iff.mpr (List.splitOn_ne_nil '.' others)
      rw [if_pos (List.contains_iff_mem.mpr hMore), if_neg]
      rw [hRest, List.splitOn_append_cons_self, List.length_cons, List.length_append]
      omega
    · rw [if_neg (mt List.contains_iff_mem.mp hMore), List.splitOn_eq_singleton hMore]
      rfl
  · rw [Text.find_of_not_mem hDot, labels, List.splitOn_eq_singleton hDot]
    rfl

theorem produceWildSuffix_eq (name : String) : produceWildSuffix name = starLast name := by
  unfold produceWildSuffix starLast
  by_cases hStar : name.toList.getLast? = some '*'
  · rw [if_pos hStar, if_pos hStar]
  rw [if_neg hStar, if_neg hStar]
  by_cases hDot : '.' ∈ name.toList
  · obtain ⟨last, before, hReverse, hLast⟩ :=
      List.eq_append_cons_of_mem (List.mem_reverse.mpr hDot)
    have hFind : Text.find ['.'] name.toList.reverse = some (last, before) :=
      hReverse ▸ Text.find_append_of_head hLast before
    have hName : name.toList = before.reverse ++ '.' :: last.reverse := by
      rw [← List.reverse_reverse name.toList, hReverse]
      simp
    have hLabels : labels name = before.reverse.splitOn '.' ++ [last.reverse] := by
      rw [labels, hName, List.splitOn_append_cons_self,
        List.splitOn_eq_singleton (mt List.mem_reverse.mp hLast)]
    have hKept : ofLabels (before.reverse.splitOn '.') = String.ofList before.reverse := by
      rw [ofLabels, List.intercalate_splitOn]
    have hStarred : ofLabels (before.reverse.splitOn '.' ++ [['*']]) =
        String.ofList (before.reverse ++ ['.', '*']) := by
      have hLabel : ['*'].splitOn '.' = [['*']] := List.splitOn_eq_singleton (by simp)
      rw [ofLabels, ← hLabel, ← List.splitOn_append_cons_self, List.intercalate_splitOn]
    rw [hFind, hLabels, List.dropLast_concat, hKept, hStarred]
    cases before <;> simp
  · rw [Text.find_of_not_mem (mt List.mem_reverse.mp hDot), labels, List.splitOn_eq_singleton hDot]
    rfl

section Lookup

-- `str::to_lowercase`.
variable (toLowercase : String → String)

namespace CertificateManager

variable (manager : CertificateManager)

/-- `find_certificate`. -/
def findCertificate (manager : CertificateManager) (sni : Option String) : Option CertKeyPair :=
  match sni with
  | none => manager.defaultCert
  | some sni =>
    if sni = "" then manager.defaultCert
    else
      let sniLower := toLowercase sni
      match manager.sniMap sniLower with
      | some pair => some pair
      | none =>
        match (produceWildPrefix sniLower).bind manager.sniMap with
        | some pair => some pair
        | none =>
          match (produceWildSuffix sniLower).bind manager.sniMap with
          | some pair => some pair
          | none =>
            match manager.sniMap "*" with
            | some pair => some pair
            | none => manager.defaultCert

theorem findCertificate_eq (sni : String) :
    manager.findCertificate toLowercase (some sni) =
      if sni = "" then manager.defaultCert
      else ((candidates (toLowercase sni)).findSome? manager.sniMap).or manager.defaultCert := by
  unfold findCertificate candidates
  rw [← produceWildPrefix_eq, ← produceWildSuffix_eq]
  by_cases hEmpty : sni = ""
  · simp [hEmpty]
  · simp only [if_neg hEmpty, List.cons_append, List.findSome?_cons, List.findSome?_append]
    cases manager.sniMap (toLowercase sni) with
    | some pair => rfl
    | none =>
      cases hPrefix : produceWildPrefix (toLowercase sni) with
      | none =>
        cases hSuffix : produceWildSuffix (toLowercase sni) with
        | none => cases manager.sniMap "*" <;> simp
        | some name => cases hName : manager.sniMap name <;> cases manager.sniMap "*" <;> simp [hName]
      | some wild =>
        cases hWild : manager.sniMap wild with
        | some pair => simp [hWild]
        | none =>
          cases hSuffix : produceWildSuffix (toLowercase sni) with
          | none => cases manager.sniMap "*" <;> simp [hWild]
          | some name =>
            cases hName : manager.sniMap name <;> cases manager.sniMap "*" <;> simp [hWild, hName]

end CertificateManager

/-! ## What the names refer to -/

/-- The certificates, and the one that a name refers to; names are known in lower case. -/
structure Registry where
  certificates : Uuid → Option CertKeyPair
  snis : String → Option Uuid
  defaultCert : Option CertKeyPair

/-- The changes of a manager. -/
inductive Update where
  | setDefault (cert key : String)
  | load (certificates : List Certificate) (snis : List Sni)
  | certificate (certificate : Certificate)
  | sni (sni : Sni)
  | removeSni (name : String)

def CertificateManager.apply (manager : CertificateManager) : Update → CertificateManager
  | .setDefault cert key => manager.setDefaultCert cert key
  | .load certificates snis => manager.loadCertificates certificates snis
  | .certificate certificate => manager.updateCertificate certificate
  | .sni sni => manager.updateSni sni
  | .removeSni name => manager.removeSni name

namespace Registry

def new : Registry := ⟨fun _ => none, fun _ => none, none⟩

def refer (snis : String → Option Uuid) (sni : Sni) : String → Option Uuid :=
  Function.update snis (toLowercase sni.name) (some sni.certificate)

variable (registry : Registry)

def apply (registry : Registry) : Update → Registry
  | .setDefault cert key => { registry with defaultCert := some ⟨cert, key, none, none⟩ }
  | .load certificates snis =>
    { registry with
      certificates := CertificateManager.certMap certificates
      snis := snis.foldl (refer toLowercase) fun _ => none }
  | .certificate certificate =>
    { registry with
      certificates :=
        Function.update registry.certificates certificate.id (some certificate.pair) }
  | .sni sni => { registry with snis := refer toLowercase registry.snis sni }
  | .removeSni name =>
    { registry with snis := Function.update registry.snis (toLowercase name) none }

def resolve (registry : Registry) (name : String) : Option CertKeyPair :=
  (registry.snis name).bind registry.certificates

def find (registry : Registry) (sni : Option String) : Option CertKeyPair :=
  match sni with
  | none => registry.defaultCert
  | some sni =>
    if sni = "" then registry.defaultCert
    else ((candidates (toLowercase sni)).findSome? registry.resolve).or registry.defaultCert

theorem find_current {registry : Registry} {sni : Option String} {pair : CertKeyPair}
    (h : registry.find toLowercase sni = some pair) :
    registry.defaultCert = some pair ∨
    ∃ name id, registry.snis name = some id ∧ registry.certificates id = some pair := by
  unfold find at h
  cases sni with
  | none => exact .inl h
  | some sni =>
    dsimp only at h
    by_cases hEmpty : sni = ""
    · rw [if_pos hEmpty] at h
      exact .inl h
    · rw [if_neg hEmpty] at h
      rcases Option.or_eq_some_iff.mp h with hFound | ⟨-, hDefault⟩
      · obtain ⟨name, -, hName⟩ := List.exists_of_findSome?_eq_some hFound
        obtain ⟨id, hId, hPair⟩ := Option.bind_eq_some_iff.mp hName
        exact .inr ⟨name, id, hId, hPair⟩
      · exact .inl hDefault

/-- The changes that the manager follows. Names are given in lower case, and once; a certificate
that a name refers to is not changed; a name is not moved to a certificate that is not there. -/
def Followed (registry : Registry) : Update → Prop
  | .setDefault _ _ => True
  | .load _ snis =>
    (∀ sni ∈ snis, toLowercase sni.name = sni.name) ∧ (snis.map Sni.name).Nodup
  | .certificate certificate => ∀ name, registry.snis name = some certificate.id →
    registry.certificates certificate.id = some certificate.pair
  | .sni sni => toLowercase sni.name = sni.name ∧
    ((registry.certificates sni.certificate).isSome ∨ registry.resolve sni.name = none)
  | .removeSni name => toLowercase name = name

end Registry

/-! ## Both in step -/

/-- The manager has a copy of the pair that a name refers to. -/
structure Synced (manager : CertificateManager) (registry : Registry) : Prop where
  certCache : manager.certCache = registry.certificates
  defaultCert : manager.defaultCert = registry.defaultCert
  sniMap : ∀ name, manager.sniMap name = registry.resolve name

namespace Synced

variable {toLowercase} {manager : CertificateManager} {registry : Registry}

theorem find (h : Synced manager registry) (sni : Option String) :
    manager.findCertificate toLowercase sni = registry.find toLowercase sni := by
  cases sni with
  | none => exact h.defaultCert
  | some sni =>
    have hNames : manager.sniMap = registry.resolve := funext h.sniMap
    rw [CertificateManager.findCertificate_eq]
    unfold Registry.find
    rw [hNames, h.defaultCert]

end Synced

section Steps

variable {toLowercase} {cache : Uuid → Option CertKeyPair} {names : String → Option CertKeyPair}
  {refers : String → Option Uuid}

theorem copyName_refer {sni : Sni} (hLower : toLowercase sni.name = sni.name)
    (h : ∀ name, names name = (refers name).bind cache)
    (hKnown : (cache sni.certificate).isSome ∨ (refers sni.name).bind cache = none)
    (name : String) : CertificateManager.copyName cache names sni name =
      (Registry.refer toLowercase refers sni name).bind cache := by
  unfold CertificateManager.copyName Registry.refer
  rw [hLower]
  cases hPair : cache sni.certificate with
  | some pair =>
    by_cases hName : name = sni.name
    · subst hName
      simp [hPair]
    · simp [hName, h]
  | none =>
    by_cases hName : name = sni.name
    · subst hName
      rw [hPair] at hKnown
      rcases hKnown with hSome | hNone
      · cases hSome
      · simp [h, hNone, hPair]
    · simp [hName, h]

theorem foldl_copyName {snis : List Sni} (hLower : ∀ sni ∈ snis, toLowercase sni.name = sni.name)
    (hNodup : (snis.map Sni.name).Nodup) (h : ∀ name, names name = (refers name).bind cache)
    (hNew : ∀ sni ∈ snis, refers sni.name = none) (name : String) :
    snis.foldl (CertificateManager.copyName cache) names name =
      (snis.foldl (Registry.refer toLowercase) refers name).bind cache := by
  induction snis generalizing names refers with
  | nil => exact h name
  | cons sni snis ih =>
    rw [List.map_cons, List.nodup_cons] at hNodup
    have hFirst : toLowercase sni.name = sni.name := hLower sni List.mem_cons_self
    have hNone : refers sni.name = none := hNew sni List.mem_cons_self
    rw [List.foldl_cons, List.foldl_cons]
    apply ih
    · intro other hMem
      exact hLower other (List.mem_cons_of_mem _ hMem)
    · exact hNodup.2
    · apply copyName_refer hFirst h
      exact .inr (by rw [hNone]; rfl)
    · intro other hMem
      have hOther : other.name ≠ sni.name := fun hName =>
        hNodup.1 (List.mem_map.mpr ⟨other, hMem, hName⟩)
      unfold Registry.refer
      rw [hFirst, Function.update_of_ne hOther]
      exact hNew other (List.mem_cons_of_mem _ hMem)

end Steps

theorem Synced.apply {manager : CertificateManager} {registry : Registry}
    (h : Synced manager registry) {update : Update}
    (hFollowed : registry.Followed toLowercase update) :
    Synced (manager.apply update) (registry.apply toLowercase update) := by
  cases update with
  | setDefault cert key => exact ⟨h.certCache, rfl, h.sniMap⟩
  | load certificates snis =>
    refine ⟨rfl, h.defaultCert, fun name => ?_⟩
    apply foldl_copyName hFollowed.1 hFollowed.2
    · intro name
      rfl
    · intro sni hMem
      rfl
  | certificate certificate =>
    have hCache : (manager.updateCertificate certificate).certCache = Function.update
        registry.certificates certificate.id (some certificate.pair) := by
      rw [← h.certCache]
      rfl
    refine ⟨hCache, h.defaultCert, fun name => ?_⟩
    change manager.sniMap name = _
    rw [h.sniMap name]
    unfold Registry.resolve Registry.apply
    cases hRefers : registry.snis name with
    | none => rfl
    | some id =>
      by_cases hId : id = certificate.id
      · subst hId
        have hSame := hFollowed name hRefers
        simp [hSame]
      · simp [hId]
  | sni sni =>
    have hEq : manager.apply (.sni sni) =
        { manager with sniMap := CertificateManager.copyName manager.certCache manager.sniMap sni } := by
      change manager.updateSni sni = _
      unfold CertificateManager.updateSni CertificateManager.copyName
      cases manager.certCache sni.certificate <;> rfl
    rw [hEq]
    refine ⟨h.certCache, h.defaultCert, fun name => ?_⟩
    rw [h.certCache]
    exact copyName_refer hFollowed.1 h.sniMap hFollowed.2 name
  | removeSni name =>
    refine ⟨h.certCache, h.defaultCert, fun other => ?_⟩
    have hLower : toLowercase name = name := hFollowed
    change Function.update manager.sniMap name none other =
      (Function.update registry.snis (toLowercase name) none other).bind registry.certificates
    rw [hLower]
    by_cases hName : other = name
    · simp [hName]
    · rw [Function.update_of_ne hName, Function.update_of_ne hName]
      exact h.sniMap other

/-- A run of changes, each of which the manager follows. -/
inductive Run : CertificateManager → Registry → Prop where
  | new : Run .new .new
  | step {manager : CertificateManager} {registry : Registry} {update : Update}
      (h : Run manager registry) (hFollowed : registry.Followed toLowercase update) :
      Run (manager.apply update) (registry.apply toLowercase update)

theorem Run.synced {manager : CertificateManager} {registry : Registry}
    (h : Run toLowercase manager registry) : Synced manager registry := by
  induction h with
  | new => exact ⟨rfl, rfl, fun _ => rfl⟩
  | step _ hFollowed ih => exact ih.apply toLowercase hFollowed

/-- In a run of such changes a server name gives the current pair of the certificate that the first
of its candidates refers to, or else the default one. -/
theorem findCertificate_run {manager : CertificateManager} {registry : Registry}
    (h : Run toLowercase manager registry) (sni : Option String) :
    manager.findCertificate toLowercase sni = registry.find toLowercase sni ∧
      ∀ pair, manager.findCertificate toLowercase sni = some pair →
        registry.defaultCert = some pair ∨
        ∃ name id, registry.snis name = some id ∧ registry.certificates id = some pair := by
  have hFind : manager.findCertificate toLowercase sni = registry.find toLowercase sni :=
    (h.synced toLowercase).find sni
  refine ⟨hFind, fun pair hPair => ?_⟩
  rw [hFind] at hPair
  exact Registry.find_current toLowercase hPair

end Lookup

/-! ## A certificate that is renewed -/

namespace Renewed

def before : Certificate := ⟨7, "old", "key", none, none⟩

def after : Certificate := ⟨7, "new", "key", none, none⟩

def lower (s : String) : String := String.ofList (s.toList.map Char.toLower)

def updates : List Update := [.load [before] [⟨"example.com", 7⟩], .certificate after]

/-- The name of a certificate that is renewed keeps the old pair. -/
theorem old_pair_served :
    (updates.foldl CertificateManager.apply .new).findCertificate lower (some "Example.com") =
        some before.pair ∧
      (updates.foldl (Registry.apply lower) .new).find lower (some "Example.com") =
        some after.pair := by
  have hName : ("Example.com" : String) ≠ "" := by decide
  have hLower : lower "Example.com" = "example.com" := by decide
  constructor
  · unfold CertificateManager.findCertificate
    dsimp only
    rw [if_neg hName, hLower]
    rfl
  · unfold Registry.find
    dsimp only
    rw [if_neg hName, hLower]
    rfl

/-- The certificate that takes the place of the old one, under an identifier of its own. -/
def successor : Certificate := ⟨8, "new", "key", none, none⟩

def moves : List Update :=
  [.load [before] [⟨"example.com", 7⟩], .certificate successor, .sni ⟨"example.com", 8⟩]

theorem run_moves : Run lower (moves.foldl CertificateManager.apply .new)
    (moves.foldl (Registry.apply lower) .new) := by
  have hLoaded : Registry.new.Followed lower (.load [before] [⟨"example.com", 7⟩]) := by
    refine ⟨fun sni hMem => ?_, by simp⟩
    cases List.mem_singleton.mp hMem
    decide
  have hNew : ((moves.take 1).foldl (Registry.apply lower) .new).Followed lower
      (.certificate successor) := by
    intro name hRefers
    by_cases hName : name = lower "example.com"
    · subst hName
      cases hRefers
    · change Function.update (fun _ => none) (lower "example.com") (some 7) name = some 8 at hRefers
      rw [Function.update_of_ne hName] at hRefers
      cases hRefers
  have hMoved : ((moves.take 2).foldl (Registry.apply lower) .new).Followed lower
      (.sni ⟨"example.com", 8⟩) := ⟨by decide, .inl rfl⟩
  exact .step (.step (.step .new hLoaded) hNew) hMoved

/-- A name that moves to the new certificate gives the new pair. -/
theorem served_after_move :
    (moves.foldl CertificateManager.apply .new).findCertificate lower (some "Example.com") =
        (moves.foldl (Registry.apply lower) .new).find lower (some "Example.com") ∧
      ∀ pair, (moves.foldl CertificateManager.apply .new).findCertificate lower
          (some "Example.com") = some pair →
        (moves.foldl (Registry.apply lower) .new).defaultCert = some pair ∨
        ∃ name id, (moves.foldl (Registry.apply lower) .new).snis name = some id ∧
          (moves.foldl (Registry.apply lower) .new).certificates id = some pair :=
  findCertificate_run lower run_moves (some "Example.com")

end Renewed

end KongRust.Proxy
