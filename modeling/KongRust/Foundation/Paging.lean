import Mathlib.Data.List.Sort

/-!
# Pages by key

A query that orders its rows by a key and reads one row more than a page holds. The key of the last
row of a page says where the next one begins, so that the pages one after the other are the rows in
the order of their keys.
-/

namespace KongRust.Paging

structure Page (α κ : Type) where
  data : List α
  offset : Option κ

section Query

variable {α κ : Type} [LinearOrder κ] (key : α → κ)

/-- The rows after a key, or all of them. -/
def after (offset : Option κ) (rows : List α) : List α :=
  match offset with
  | none => rows
  | some k => rows.filter fun row => k < key row

variable (rows : List α)

/-- `ORDER BY`. -/
def orderBy (rows : List α) : List α := rows.insertionSort fun a b => key a ≤ key b

/-- A page of what a query with one row too many has found. -/
def Page.of (size : Nat) (found : List α) : Page α κ :=
  if size < found.length then ⟨found.take size, (found.take size).getLast?.map key⟩
  else ⟨found, none⟩

def query (rows : List α) (size : Nat) (offset : Option κ) : Page α κ :=
  .of key size ((orderBy key (after key offset rows)).take (size + 1))

/-- No two rows have the same key. -/
def Distinct (rows : List α) : Prop := (rows.map key).Nodup

/-- The rows of a query in their order, without the limit. -/
def rest (rows : List α) (offset : Option κ) : List α := orderBy key (after key offset rows)

end Query

section Lemmas

variable {α κ : Type} [LinearOrder κ] {key : α → κ} {rows : List α} {offset : Option κ}
  {size : Nat}

theorem orderBy_perm (rows : List α) : (orderBy key rows).Perm rows :=
  List.perm_insertionSort _ rows

omit [LinearOrder κ] in
theorem Distinct.filter (h : Distinct key rows) (keep : α → Bool) :
    Distinct key (rows.filter keep) :=
  h.sublist (List.Sublist.map key List.filter_sublist)

theorem Distinct.after (h : Distinct key rows) (offset : Option κ) :
    Distinct key (after key offset rows) := by
  cases offset with
  | none => exact h
  | some k => exact h.filter _

theorem orderBy_pairwise (h : Distinct key rows) :
    (orderBy key rows).Pairwise fun a b => key a < key b := by
  have hSorted : (orderBy key rows).Pairwise fun a b => key a ≤ key b :=
    List.pairwise_insertionSort (fun a b : α => key a ≤ key b) rows
  have hDistinct : ((orderBy key rows).map key).Nodup :=
    ((orderBy_perm rows).map key).nodup_iff.mpr h
  have hNe : (orderBy key rows).Pairwise fun a b => key a ≠ key b := List.pairwise_map.mp hDistinct
  exact hSorted.imp₂ (fun _ _ hLe hNe => lt_of_le_of_ne hLe hNe) hNe

theorem eq_of_perm {xs ys : List α} (hx : xs.Pairwise fun a b => key a < key b)
    (hy : ys.Pairwise fun a b => key a < key b) (h : xs.Perm ys) : xs = ys :=
  List.Perm.eq_of_pairwise (fun _ _ _ _ hab hba => absurd hba (lt_asymm hab)) hx hy h

theorem orderBy_filter (h : Distinct key rows) (keep : α → Bool) :
    orderBy key (rows.filter keep) = (orderBy key rows).filter keep := by
  have hPerm : (orderBy key (rows.filter keep)).Perm ((orderBy key rows).filter keep) :=
    (orderBy_perm _).trans ((orderBy_perm rows).filter keep).symm
  exact eq_of_perm (orderBy_pairwise (h.filter keep))
    ((orderBy_pairwise h).sublist List.filter_sublist) hPerm

theorem rest_perm (rows : List α) (offset : Option κ) :
    (rest key rows offset).Perm (after key offset rows) := orderBy_perm _

theorem rest_pairwise (h : Distinct key rows) (offset : Option κ) :
    (rest key rows offset).Pairwise fun a b => key a < key b := orderBy_pairwise (h.after offset)

theorem mem_rest {row : α} :
    row ∈ rest key rows offset ↔ row ∈ rows ∧ ∀ k ∈ offset, k < key row := by
  rw [(rest_perm rows offset).mem_iff]
  cases offset with
  | none => simp [after]
  | some k => simp [after, List.mem_filter]

theorem rest_rest (h : Distinct key rows) {k : κ} (hLater : ∀ o ∈ offset, o < k) :
    rest key rows (some k) = (rest key rows offset).filter fun row => k < key row := by
  unfold rest
  rw [← orderBy_filter (h.after offset)]
  congr 1
  cases offset with
  | none => rfl
  | some o =>
    simp only [after, List.filter_filter]
    apply List.filter_congr
    intro row _
    have hLt : o < k := hLater o rfl
    by_cases hRow : k < key row
    · simp [hRow, hLt.trans hRow]
    · simp [hRow]

theorem filter_after {xs ys : List α} {x : α}
    (h : (xs ++ ys).Pairwise fun a b => key a < key b) (hLast : xs.getLast? = some x) :
    (xs ++ ys).filter (fun row => key x < key row) = ys := by
  obtain ⟨front, rfl⟩ := List.getLast?_eq_some_iff.mp hLast
  obtain ⟨hFront, hYs, hAcross⟩ := List.pairwise_append.mp h
  obtain ⟨-, -, hFrontLast⟩ := List.pairwise_append.mp hFront
  rw [List.filter_append]
  have hNone : (front ++ [x]).filter (fun row => key x < key row) = [] := by
    rw [List.filter_eq_nil_iff]
    intro row hRow
    obtain hRow | hRow := List.mem_append.mp hRow
    · simpa using le_of_lt (hFrontLast row hRow x (List.mem_singleton_self x))
    · simp [List.mem_singleton.mp hRow]
  have hAll : ys.filter (fun row => key x < key row) = ys := by
    rw [List.filter_eq_self]
    intro row hRow
    exact decide_eq_true (hAcross x (by simp) row hRow)
  rw [hNone, hAll, List.nil_append]

theorem query_of_le (h : (rest key rows offset).length ≤ size) :
    query key rows size offset = ⟨rest key rows offset, none⟩ := by
  have hTake : (rest key rows offset).take (size + 1) = rest key rows offset :=
    List.take_of_length_le (by omega)
  unfold query Page.of
  change (if size < ((rest key rows offset).take (size + 1)).length then _ else _) = _
  rw [hTake, if_neg (by omega)]
  congr

/-- A page with another one after it, which goes on where this one ends. -/
theorem query_of_lt (hDistinct : Distinct key rows) (hSize : 0 < size)
    (h : size < (rest key rows offset).length) :
    ∃ row, ((rest key rows offset).take size).getLast? = some row ∧
      query key rows size offset = ⟨(rest key rows offset).take size, some (key row)⟩ ∧
      rest key rows (some (key row)) = (rest key rows offset).drop size := by
  have hTake : ((rest key rows offset).take (size + 1)).take size =
      (rest key rows offset).take size := by
    rw [List.take_take, Nat.min_eq_left (Nat.le_succ size)]
  have hNe : (rest key rows offset).take size ≠ [] := by
    intro hNil
    have hLength := congrArg List.length hNil
    rw [List.length_take] at hLength
    simp only [List.length_nil] at hLength
    omega
  obtain ⟨row, hLast⟩ := Option.ne_none_iff_exists'.mp (mt List.getLast?_eq_none_iff.mp hNe)
  have hMem : row ∈ rest key rows offset := List.mem_of_mem_take (List.mem_of_getLast? hLast)
  refine ⟨row, hLast, ?_, ?_⟩
  · unfold query Page.of
    change (if size < ((rest key rows offset).take (size + 1)).length then
      (⟨((rest key rows offset).take (size + 1)).take size, _⟩ : Page α κ) else _) = _
    rw [if_pos (by rw [List.length_take]; omega)]
    change (⟨((rest key rows offset).take (size + 1)).take size,
      (((rest key rows offset).take (size + 1)).take size).getLast?.map key⟩ : Page α κ) = _
    rw [hTake, hLast]
    rfl
  · have hOrder : ((rest key rows offset).take size ++ (rest key rows offset).drop size).Pairwise
        fun a b => key a < key b := by
      rw [List.take_append_drop]
      exact rest_pairwise hDistinct offset
    have hAfter := filter_after hOrder hLast
    rw [List.take_append_drop] at hAfter
    rw [rest_rest hDistinct (mem_rest.mp hMem).2, hAfter]

end Lemmas

end KongRust.Paging
