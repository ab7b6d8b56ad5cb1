import Mathlib.Data.List.Pairwise
import KongRust.Pricing.Catalog

/-!
# The entry that is found

An exact identifier wins over an alias, an alias over a prefix, and a longer prefix over a shorter
one. In a catalog in which no two entries tie, exactly one entry wins, whatever the order of the
entries. The check for conflicts leaves out one instant, the last one: there two entries without an
end may tie if one of them starts there.
-/

namespace KongRust.Pricing

open DateTime

/-- Two entries of one provider are in force at once and share a matcher. -/
def Ties (startedAt : DateTime) (left right : PriceEntry) : Prop :=
  left.providerType = right.providerType ∧
    left.active left.providerType startedAt ∧ right.active right.providerType startedAt ∧
    ∃ matcher ∈ left.matchers, matcher ∈ right.matchers

/-- No two entries, at different places of the table, tie at an instant. -/
def Untied (entries : List PriceEntry) (startedAt : DateTime) : Prop :=
  entries.Pairwise fun left right => ¬ Ties startedAt left right

/-- The entry that a model name should be priced by. -/
def Wins (entries : List PriceEntry) (providerType model : String) (startedAt : DateTime)
    (winner : PriceEntry) : Prop :=
  let live (entry : PriceEntry) : Prop :=
    entry ∈ entries ∧ entry.active providerType startedAt
  live winner ∧ (model ∈ winner.modelIds ∨
    (∀ entry, live entry → model ∉ entry.modelIds) ∧ (model ∈ winner.aliases ∨
      (∀ entry, live entry → model ∉ entry.aliases) ∧
        ∃ pre ∈ winner.prefixes, Text.startsWith model pre ∧
          ∀ entry, live entry → ∀ other ∈ entry.prefixes, Text.startsWith model other →
            Text.len other ≤ Text.len pre))

/-! ## The longest prefix -/

section Prefixes

variable {model : String} {seen : List (PriceEntry × String)} {best : Option (PriceEntry × Nat)}

/-- The best of the prefixes seen so far: one of them, matched, and none longer. -/
def Longest (model : String) (seen : List (PriceEntry × String)) :
    Option (PriceEntry × Nat) → Prop
  | none => ∀ other ∈ seen, ¬ Text.startsWith model other.2
  | some (entry, length) =>
    (∃ pre, (entry, pre) ∈ seen ∧ Text.startsWith model pre ∧ length = Text.len pre) ∧
      ∀ other ∈ seen, Text.startsWith model other.2 → Text.len other.2 ≤ length

section

variable (h : Longest model seen best)
include h

theorem Longest.consider (entry : PriceEntry) (pre : String) :
    Longest model (seen ++ [(entry, pre)]) (considerPrefix model entry best pre) := by
  unfold considerPrefix
  by_cases hMatch : Text.startsWith model pre
  · cases best with
    | none =>
      rw [if_pos ⟨hMatch, rfl⟩]
      refine ⟨⟨pre, by simp, hMatch, rfl⟩, fun other hOther hStarts => ?_⟩
      rcases List.mem_append.mp hOther with hOld | hNew
      · exact absurd hStarts (h other hOld)
      · rw [List.mem_singleton.mp hNew]
    | some current =>
      obtain ⟨current, length⟩ := current
      obtain ⟨⟨longest, hMem, hStarts, hLength⟩, hBound⟩ := h
      by_cases hLonger : length < Text.len pre
      · rw [if_pos ⟨hMatch, by simpa using hLonger⟩]
        refine ⟨⟨pre, by simp, hMatch, rfl⟩, fun other hOther hOtherStarts => ?_⟩
        rcases List.mem_append.mp hOther with hOld | hNew
        · have hOldBound := hBound other hOld hOtherStarts
          omega
        · rw [List.mem_singleton.mp hNew]
      · rw [if_neg fun hBoth => hLonger (by simpa using hBoth.2)]
        refine ⟨⟨longest, by simp [hMem], hStarts, hLength⟩, fun other hOther hOtherStarts => ?_⟩
        rcases List.mem_append.mp hOther with hOld | hNew
        · exact hBound other hOld hOtherStarts
        · rw [List.mem_singleton.mp hNew]
          dsimp only
          omega
  · rw [if_neg fun hBoth => hMatch hBoth.1]
    cases best with
    | none =>
      intro other hOther
      rcases List.mem_append.mp hOther with hOld | hNew
      · exact h other hOld
      · rw [List.mem_singleton.mp hNew]
        exact hMatch
    | some current =>
      obtain ⟨⟨longest, hMem, hStarts, hLength⟩, hBound⟩ := h
      refine ⟨⟨longest, by simp [hMem], hStarts, hLength⟩, fun other hOther hOtherStarts => ?_⟩
      rcases List.mem_append.mp hOther with hOld | hNew
      · exact hBound other hOld hOtherStarts
      · rw [List.mem_singleton.mp hNew] at hOtherStarts
        exact absurd hOtherStarts hMatch

theorem Longest.entry (entry : PriceEntry) (prefixes : List String) :
    Longest model (seen ++ prefixes.map fun pre => (entry, pre))
      (prefixes.foldl (considerPrefix model entry) best) := by
  induction prefixes generalizing seen best with
  | nil =>
    rw [List.map_nil, List.append_nil]
    exact h
  | cons pre prefixes ih =>
    have hNext := ih (h.consider entry pre)
    rw [List.append_assoc] at hNext
    exact hNext

theorem Longest.entries (active : List PriceEntry) :
    Longest model (seen ++ active.flatMap fun entry => entry.prefixes.map fun pre => (entry, pre))
      (active.foldl (fun best entry => entry.prefixes.foldl (considerPrefix model entry) best)
        best) := by
  induction active generalizing seen best with
  | nil =>
    rw [List.flatMap_nil, List.append_nil]
    exact h
  | cons entry active ih =>
    have hNext := ih (h.entry entry entry.prefixes)
    rw [List.append_assoc] at hNext
    exact hNext

end

theorem longest_prefixMatch (model : String) (active : List PriceEntry) :
    Longest model (active.flatMap fun entry => entry.prefixes.map fun pre => (entry, pre))
      (prefixMatch model active) := by
  have hNone : Longest model [] none := fun _ h => by cases h
  exact hNone.entries active

theorem prefix_eq_of_len {a b : String} (ha : Text.startsWith model a)
    (hb : Text.startsWith model b) (hLen : Text.len a = Text.len b) : a = b := by
  unfold Text.startsWith at ha hb
  rw [List.isPrefixOf_iff_prefix] at ha hb
  have hSame : ∀ {s t : String}, s.toList <+: t.toList → Text.len s = Text.len t → s = t := by
    intro s t hPrefix hLen
    obtain ⟨rest, hRest⟩ := hPrefix
    rw [Text.len_eq_sum, Text.len_eq_sum, ← hRest, List.map_append, List.sum_append] at hLen
    cases rest with
    | nil =>
      rw [List.append_nil] at hRest
      exact String.toList_inj.mp hRest
    | cons c rest =>
      have hSize := c.utf8Size_pos
      rw [List.map_cons, List.sum_cons] at hLen
      omega
  rcases List.prefix_or_prefix_of_prefix ha hb with hab | hba
  · exact hSame hab hLen
  · exact (hSame hba hLen.symm).symm

end Prefixes

/-! ## The entry that is found wins -/

section Lookup

variable {entries : List PriceEntry} {providerType model : String} {startedAt : DateTime}

variable {entry winner left right : PriceEntry} {other : List PriceEntry}

theorem mem_active : entry ∈ entries.filter (fun entry => entry.active providerType startedAt) ↔
      entry ∈ entries ∧ entry.active providerType startedAt := by
  simp [List.mem_filter]

/-- What is found wins, also where entries tie. -/
theorem wins_of_findEntry (h : findEntry entries providerType model startedAt = some entry) :
    Wins entries providerType model startedAt entry := by
  unfold findEntry at h
  dsimp only at h
  split at h
  case h_1 found hFound =>
    cases h
    have hId := List.find?_some hFound
    exact ⟨mem_active.mp (List.mem_of_find?_eq_some hFound), .inl (by simpa using hId)⟩
  case h_2 hNoId =>
    have hIds : ∀ other, other ∈ entries ∧ other.active providerType startedAt →
        model ∉ other.modelIds := fun other hLive => by
      simpa using List.find?_eq_none.mp hNoId other (mem_active.mpr hLive)
    split at h
    case h_1 found hFound =>
      cases h
      have hAlias := List.find?_some hFound
      exact ⟨mem_active.mp (List.mem_of_find?_eq_some hFound),
        .inr ⟨hIds, .inl (by simpa using hAlias)⟩⟩
    case h_2 hNoAlias =>
      have hAliases : ∀ other, other ∈ entries ∧ other.active providerType startedAt →
          model ∉ other.aliases := fun other hLive => by
        simpa using List.find?_eq_none.mp hNoAlias other (mem_active.mpr hLive)
      obtain ⟨⟨found, length⟩, hMatch, hFound⟩ := Option.map_eq_some_iff.mp h
      cases hFound
      have hLongest := longest_prefixMatch model
        (entries.filter fun entry => entry.active providerType startedAt)
      rw [hMatch] at hLongest
      obtain ⟨⟨pre, hMem, hStarts, rfl⟩, hBound⟩ := hLongest
      obtain ⟨owner, hOwner, hPre⟩ := List.mem_flatMap.mp hMem
      obtain ⟨pre', hPre', hEq⟩ := List.mem_map.mp hPre
      cases hEq
      refine ⟨mem_active.mp hOwner, .inr ⟨hIds, .inr ⟨hAliases, pre, hPre', hStarts, ?_⟩⟩⟩
      intro other hLive longer hLonger hOtherStarts
      refine hBound (other, longer) ?_ hOtherStarts
      exact List.mem_flatMap.mpr ⟨other, mem_active.mpr hLive, List.mem_map.mpr ⟨longer, hLonger,
        rfl⟩⟩

theorem findEntry_ne_none (h : Wins entries providerType model startedAt winner) :
    findEntry entries providerType model startedAt ≠ none := by
  obtain ⟨hLive, hKind⟩ := h
  have hMem := mem_active.mpr hLive
  unfold findEntry
  dsimp only
  split
  case h_1 => exact Option.some_ne_none _
  case h_2 hNoId =>
    have hId : model ∉ winner.modelIds := by
      simpa using List.find?_eq_none.mp hNoId winner hMem
    obtain ⟨-, hKind⟩ := hKind.resolve_left hId
    split
    case h_1 => exact Option.some_ne_none _
    case h_2 hNoAlias =>
      have hAlias : model ∉ winner.aliases := by
        simpa using List.find?_eq_none.mp hNoAlias winner hMem
      obtain ⟨-, pre, hPre, hStarts, -⟩ := hKind.resolve_left hAlias
      have hLongest := longest_prefixMatch model
        (entries.filter fun entry => entry.active providerType startedAt)
      cases hMatch : prefixMatch model
          (entries.filter fun entry => entry.active providerType startedAt) with
      | some found => exact Option.some_ne_none _
      | none =>
        rw [hMatch] at hLongest
        refine absurd hStarts (hLongest (winner, pre) ?_)
        exact List.mem_flatMap.mpr ⟨winner, hMem, List.mem_map.mpr ⟨pre, hPre, rfl⟩⟩

theorem active_provider (h : entry.active providerType startedAt) :
    entry.providerType = providerType := by
  unfold PriceEntry.active at h
  simp only [decide_eq_true_eq] at h
  exact h.1

theorem Ties.symm (h : Ties startedAt left right) : Ties startedAt right left := by
  obtain ⟨hProvider, hLeft, hRight, matcher, hMatcherLeft, hMatcherRight⟩ := h
  exact ⟨hProvider.symm, hRight, hLeft, matcher, hMatcherRight, hMatcherLeft⟩

/-- Where no entries tie, no two entries win. -/
theorem Wins.unique (hUntied : Untied entries startedAt)
    (hLeft : Wins entries providerType model startedAt left)
    (hRight : Wins entries providerType model startedAt right) : left = right := by
  obtain ⟨hLiveLeft, hLeft⟩ := hLeft
  obtain ⟨hLiveRight, hRight⟩ := hRight
  by_contra hOther
  have hNoTie : ¬ Ties startedAt left right :=
    have : Std.Symm fun left right => ¬ Ties startedAt left right := ⟨fun _ _ h hTie => h hTie.symm⟩
    List.Pairwise.forall hUntied hLiveLeft.1 hLiveRight.1 hOther
  have hLeftProvider := active_provider hLiveLeft.2
  have hRightProvider := active_provider hLiveRight.2
  apply hNoTie
  refine ⟨hLeftProvider.trans hRightProvider.symm, hLeftProvider ▸ hLiveLeft.2,
    hRightProvider ▸ hLiveRight.2, ?_⟩
  unfold PriceEntry.matchers
  -- Both win at the same level, by the same text.
  rcases hLeft with hLeftId | ⟨hNoId, hLeft⟩
  · rcases hRight with hRightId | ⟨hNoId, -⟩
    · exact ⟨model, by simp [hLeftId], by simp [hRightId]⟩
    · exact absurd hLeftId (hNoId left hLiveLeft)
  · obtain ⟨-, hRight⟩ := hRight.resolve_left (hNoId right hLiveRight)
    rcases hLeft with hLeftAlias | ⟨hNoAlias, hLeft⟩
    · rcases hRight with hRightAlias | ⟨hNoAlias, -⟩
      · exact ⟨model, by simp [hLeftAlias], by simp [hRightAlias]⟩
      · exact absurd hLeftAlias (hNoAlias left hLiveLeft)
    · obtain ⟨-, hRight⟩ := hRight.resolve_left (hNoAlias right hLiveRight)
      obtain ⟨pre, hPre, hStarts, hBound⟩ := hLeft
      obtain ⟨pre', hPre', hStarts', hBound'⟩ := hRight
      have hSame : pre = pre' := prefix_eq_of_len hStarts hStarts'
        (Nat.le_antisymm (hBound' left hLiveLeft pre hPre hStarts)
          (hBound right hLiveRight pre' hPre' hStarts'))
      subst hSame
      exact ⟨pre, by simp [hPre], by simp [hPre']⟩

theorem findEntry_eq_some_iff (hUntied : Untied entries startedAt) :
    findEntry entries providerType model startedAt = some entry ↔
      Wins entries providerType model startedAt entry := by
  refine ⟨wins_of_findEntry, fun hWins => ?_⟩
  obtain ⟨found, hFound⟩ := Option.ne_none_iff_exists'.mp (findEntry_ne_none hWins)
  rw [hFound, (wins_of_findEntry hFound).unique hUntied hWins]

theorem wins_perm (hPerm : other.Perm entries) : Wins other providerType model startedAt winner ↔
      Wins entries providerType model startedAt winner := by
  unfold Wins
  simp only [hPerm.mem_iff]

theorem findEntry_perm (hUntied : Untied entries startedAt) (hPerm : other.Perm entries) :
    findEntry other providerType model startedAt =
      findEntry entries providerType model startedAt := by
  have hOther : Untied other startedAt := (hPerm.pairwise_iff fun h hTie => h hTie.symm).mpr hUntied
  ext entry
  rw [findEntry_eq_some_iff hUntied, findEntry_eq_some_iff hOther]
  exact wins_perm hPerm

end Lookup

/-! ## The last instant -/

/-- No two entries without an end, of one provider and with a common matcher, one of which starts
at the last instant. -/
def SeparateAtEnd (entries : List PriceEntry) : Prop :=
  entries.Pairwise fun left right => ¬ (left.providerType = right.providerType ∧
    left.effectiveTo = none ∧ right.effectiveTo = none ∧
    (left.effectiveFrom = DateTime.MAX_UTC ∨ right.effectiveFrom = DateTime.MAX_UTC) ∧
    ∃ matcher ∈ left.matchers, matcher ∈ right.matchers)

section Instants

variable {left right entry : PriceEntry} {startedAt : DateTime}

theorem periodsOverlap_of_active (hBefore : startedAt < MAX_UTC)
    (hLeft : left.active left.providerType startedAt)
    (hRight : right.active right.providerType startedAt) : periodsOverlap left right := by
  unfold PriceEntry.active at hLeft hRight
  simp only [decide_eq_true_eq, true_and] at hLeft hRight
  have hEnd : ∀ finish : Option DateTime, (finish.all fun finish => startedAt < finish) →
      startedAt < finish.getD MAX_UTC := by
    intro finish h
    cases finish with
    | none => exact hBefore
    | some finish => simpa using h
  have hLeftEnd := hEnd _ hLeft.2
  have hRightEnd := hEnd _ hRight.2
  have hLeftStart := hLeft.1
  have hRightStart := hRight.1
  unfold periodsOverlap
  simp only [decide_eq_true_eq]
  simp only [le_def, lt_def] at *
  omega

theorem active_max : entry.active entry.providerType MAX_UTC ↔
    entry.effectiveTo = none := by
  unfold PriceEntry.active
  simp only [decide_eq_true_eq, true_and, le_max]
  cases entry.effectiveTo with
  | none => simp
  | some finish =>
    have hLe := finish.le_max
    simp only [Option.all_some, decide_eq_true_eq, reduceCtorEq, iff_false]
    rw [le_def] at hLe
    rw [lt_def]
    omega

theorem starts_at_max (hLeft : left.effectiveTo = none) (hRight : right.effectiveTo = none)
    (hApart : periodsOverlap left right = false) :
    left.effectiveFrom = MAX_UTC ∨ right.effectiveFrom = MAX_UTC := by
  unfold periodsOverlap at hApart
  rw [hLeft, hRight] at hApart
  simp only [Option.getD_none, decide_eq_false_iff_not, not_and_or] at hApart
  exact hApart.imp eq_max_of_not_lt eq_max_of_not_lt

end Instants

theorem untied_iff {entries : List PriceEntry} (h : validateConflicts entries = .ok ())
    (startedAt : DateTime) :
    Untied entries startedAt ↔ startedAt < MAX_UTC ∨ SeparateAtEnd entries := by
  have hApart := pairwise_of_validateConflicts h
  by_cases hBefore : startedAt < MAX_UTC
  · simp only [hBefore, true_or, iff_true]
    refine hApart.imp fun hApart hTie => ?_
    obtain ⟨hProvider, hLeft, hRight, matcher, hMatcherLeft, hMatcherRight⟩ := hTie
    have hOverlap := periodsOverlap_of_active hBefore hLeft hRight
    rw [hApart hProvider matcher hMatcherLeft hMatcherRight] at hOverlap
    cases hOverlap
  · simp only [hBefore, false_or]
    obtain rfl := eq_max_of_not_lt hBefore
    constructor
    · intro hUntied
      refine hUntied.imp fun hNoTie hClash => hNoTie ?_
      obtain ⟨hProvider, hLeft, hRight, -, hShared⟩ := hClash
      exact ⟨hProvider, active_max.mpr hLeft, active_max.mpr hRight, hShared⟩
    · intro hSeparate
      refine (hSeparate.and hApart).imp fun ⟨hNoClash, hApart⟩ hTie => hNoClash ?_
      obtain ⟨hProvider, hLeft, hRight, matcher, hMatcherLeft, hMatcherRight⟩ := hTie
      rw [active_max] at hLeft hRight
      exact ⟨hProvider, hLeft, hRight,
        starts_at_max hLeft hRight (hApart hProvider matcher hMatcherLeft hMatcherRight),
        matcher, hMatcherLeft, hMatcherRight⟩

/-- At an instant no two entries tie, the entry found for a model name is the one that wins, and
the order of the entries does not matter. -/
structure Decided (entries : List PriceEntry) (startedAt : DateTime) : Prop where
  untied : Untied entries startedAt
  found : ∀ providerType model entry,
    findEntry entries providerType model startedAt = some entry ↔
      Wins entries providerType model startedAt entry
  orderFree : ∀ providerType model (other : List PriceEntry), other.Perm entries →
    findEntry other providerType model startedAt = findEntry entries providerType model startedAt

/-- **Price lookup.** The loader accepts only catalogs that pass the check for conflicts. In such
a catalog the lookup is decided at every instant before the last one, and at the last one exactly
if no entry that starts there shares a matcher with another entry without an end. -/
theorem lookup_decided_iff (entries : List PriceEntry) (startedAt : DateTime)
    (h : validateConflicts entries = .ok ()) :
    (Decided entries startedAt ↔ startedAt < DateTime.MAX_UTC ∨ SeparateAtEnd entries) ∧
    ∀ (library : PriceLibrary RawCatalog) (json : String) (catalog : PriceCatalog),
      fromJson library json = .ok catalog → validateConflicts catalog.entries = .ok () := by
  constructor
  · rw [← untied_iff h startedAt]
    constructor
    · exact Decided.untied
    · intro hUntied
      exact ⟨hUntied, fun _ _ _ => findEntry_eq_some_iff hUntied,
        fun _ _ _ hPerm => findEntry_perm hUntied hPerm⟩
  · intro library json catalog hLoaded
    exact validateConflicts_of_fromJson hLoaded

/-- An entry for one model, from an instant on. -/
def sampleEntry (rate : Decimal) (effectiveFrom : DateTime) : PriceEntry where
  providerType := "openai"
  modelIds := ["gpt"]
  aliases := []
  prefixes := []
  input := rate
  output := rate
  effectiveFrom := effectiveFrom
  effectiveTo := none
  conditions := ⟨none⟩
  sourceUrl := "https://developers.openai.com/api/docs/models"

def july2026 : DateTime := ⟨1785024000000000000, by decide⟩

def oneDollar : Decimal := ⟨1, 0, Decimal.inRange_one⟩

def twoDollars : Decimal := ⟨2, 0, Decimal.inRange_two⟩

def august2026 : DateTime := ⟨1785542400000000000, by decide⟩

/-- A price, and the one that takes its place. -/
def samplePrices : List PriceEntry :=
  [{ sampleEntry oneDollar july2026 with effectiveTo := some august2026 },
    sampleEntry twoDollars august2026]

theorem samplePrices_conflictFree : validateConflicts samplePrices = .ok () := by
  rw [validateConflicts_ok]
  exact List.pairwise_pair.mpr fun _ => by decide

theorem lookup_decided_sample : Decided samplePrices august2026 ∧
    findEntry samplePrices.reverse "openai" "gpt" august2026 =
      some (sampleEntry twoDollars august2026) := by
  have hDecided := (lookup_decided_iff _ august2026 samplePrices_conflictFree).1.mpr
    (.inl (by decide))
  refine ⟨hDecided, ?_⟩
  rw [hDecided.orderFree _ _ _ samplePrices.reverse_perm]
  decide

/-- An open-ended price and one that starts at the last instant are accepted; at that instant the
order decides which of them is found. -/
theorem last_instant_ties :
    let old := sampleEntry oneDollar july2026
    let late := sampleEntry twoDollars MAX_UTC
    validateConflicts [old, late] = .ok () ∧ Ties MAX_UTC old late ∧
      findEntry [old, late] "openai" "gpt" MAX_UTC = some old ∧
      findEntry [late, old] "openai" "gpt" MAX_UTC = some late := by
  refine ⟨?_, ⟨rfl, by decide, by decide, "gpt", by decide, by decide⟩, by decide, by decide⟩
  rw [validateConflicts_ok]
  exact List.pairwise_pair.mpr fun _ => by decide

end KongRust.Pricing
