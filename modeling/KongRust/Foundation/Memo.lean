import Mathlib.Data.List.Basic
import Mathlib.Data.List.Pairwise

/-!
# Memoised lookups

A service answers queries with the help of a cache under a key. The cache is only assumed to
return, for a key, a value stored earlier under that key; it may forget an entry at any
time. `Run` is the set of all answers that such a service can give to a sequence of queries.
For a service that memoises `f`, `transparent_iff` says exactly when all of them are the
answers of `f`: no two queries of the sequence share a key and differ in the value of `f`.
-/

namespace KongRust.Memo

variable {Q K V : Type*}

/-- A service: given what the cache returned for the query, the answer and the entry to
store. -/
abbrev Service (Q K V : Type*) := Option V → Q → V × Option (K × V)

variable (key : Q → K)

/-- The service that memoises `f`: a miss computes the value and stores it. -/
def lookup (key : Q → K) (f : Q → V) : Service Q K V
  | some v, _ => (v, none)
  | none, q => (f q, some (key q, f q))

/-- What the cache may return for a key, given all entries stored so far. -/
def Returns (log : List (K × V)) (k : K) : Option V → Prop
  | none => True
  | some v => (k, v) ∈ log

/-- The answers of a service to a sequence of queries, starting from the entries `log`. -/
inductive Run (key : Q → K) (serve : Service Q K V) : List (K × V) → List Q → List V → Prop
  | nil (log : List (K × V)) : Run key serve log [] []
  | query {log : List (K × V)} {q : Q} {qs : List Q} {vs : List V} (hit : Option V)
      (hReturns : Returns log (key q) hit)
      (hRest : Run key serve ((serve hit q).2.toList ++ log) qs vs) :
      Run key serve log (q :: qs) ((serve hit q).1 :: vs)

/-- Whatever the cache keeps and forgets, the service answers the sequence as `f` does. -/
def Transparent (key : Q → K) (serve : Service Q K V) (f : Q → V) (qs : List Q) : Prop :=
  ∀ vs, Run key serve [] qs vs → vs = qs.map f

theorem run_miss (f : Q → V) (log : List (K × V)) (qs : List Q) :
    Run key (lookup key f) log qs (qs.map f) := by
  induction qs generalizing log with
  | nil => exact Run.nil log
  | cons q qs ih => exact Run.query none trivial (ih _)

variable {log : List (K × V)} {front qs : List Q} {vs : List V}

theorem run_append_miss (f : Q → V)
    (h : Run key (lookup key f) ((front.map fun q => (key q, f q)).reverse ++ log) qs vs) :
    Run key (lookup key f) log (front ++ qs) (front.map f ++ vs) := by
  induction front generalizing log with
  | nil => simpa using h
  | cons q front ih =>
    refine Run.query none trivial (ih ?_)
    simpa [lookup] using h

theorem run_eq_map {key : Q → K} {f : Q → V} (hLog : ∀ q ∈ qs, ∀ v, (key q, v) ∈ log → v = f q)
    (hPair : qs.Pairwise fun q q' => key q = key q' → f q = f q')
    (h : Run key (lookup key f) log qs vs) : vs = qs.map f := by
  induction h with
  | nil => rfl
  | @query log q qs vs hit hReturns hRest ih =>
    obtain ⟨hHead, hTail⟩ := List.pairwise_cons.mp hPair
    cases hit with
    | some v =>
      have hv : v = f q := hLog q List.mem_cons_self v hReturns
      have hvs := ih (fun q' hq' v' h' => hLog q' (List.mem_cons_of_mem q hq') v' h') hTail
      simp only [lookup, List.map_cons, hv, hvs]
    | none =>
      have hvs : vs = qs.map f := by
        refine ih ?_ hTail
        intro q' hq' v' h'
        rcases List.mem_cons.mp h' with hNew | hOld
        · obtain ⟨hKey, rfl⟩ := Prod.mk.inj hNew
          exact hHead q' hq' hKey.symm
        · exact hLog q' (List.mem_cons_of_mem q hq') v' hOld
      simp only [lookup, List.map_cons, hvs]

variable {R : Q → Q → Prop}

theorem exists_split_of_not_pairwise (h : ¬ qs.Pairwise R) :
    ∃ front q middle q' rest, qs = front ++ q :: (middle ++ q' :: rest) ∧ ¬ R q q' := by
  induction qs with
  | nil => exact absurd List.Pairwise.nil h
  | cons q qs ih =>
    by_cases hTail : qs.Pairwise R
    · have hHead : ∃ q' ∈ qs, ¬ R q q' := by
        by_contra hNone
        push Not at hNone
        exact h (List.pairwise_cons.mpr ⟨hNone, hTail⟩)
      obtain ⟨q', hMem, hNot⟩ := hHead
      obtain ⟨middle, rest, rfl⟩ := List.append_of_mem hMem
      exact ⟨[], q, middle, q', rest, rfl, hNot⟩
    · obtain ⟨front, a, middle, b, rest, rfl, hNot⟩ := ih hTail
      exact ⟨q :: front, a, middle, b, rest, rfl, hNot⟩

theorem pairwise_split {middle rest : List Q} {q q' : Q}
    (h : (front ++ q :: (middle ++ q' :: rest)).Pairwise R) : R q q' := by
  have hTail := (List.pairwise_append.mp h).2.1
  exact (List.pairwise_cons.mp hTail).1 q' (by simp)

/-- **Cache transparency.** The memoised service answers as `f` does exactly when no two
queries of the sequence share a key and differ in the value of `f`. -/
theorem transparent_iff (f : Q → V) (qs : List Q) :
    Transparent key (lookup key f) f qs ↔
      qs.Pairwise fun q q' => key q = key q' → f q = f q' := by
  constructor
  · intro h
    by_contra hNot
    obtain ⟨front, q, middle, q', rest, rfl, hBad⟩ := exists_split_of_not_pairwise hNot
    obtain ⟨hKey, hDiffer⟩ := Classical.not_imp.mp hBad
    -- every query misses except the second of the pair, which gets the value of the first
    have hHit : Run key (lookup key f) ((middle.map fun r => (key r, f r)).reverse ++ ((key q, f q) ::
        ((front.map fun r => (key r, f r)).reverse ++ []))) (q' :: rest)
        (f q :: rest.map f) := by
      refine Run.query (some (f q)) ?_ (run_miss key f _ rest)
      simp [Returns, hKey]
    have hRun : Run key (lookup key f) [] (front ++ q :: (middle ++ q' :: rest))
        (front.map f ++ f q :: (middle.map f ++ f q :: rest.map f)) :=
      run_append_miss key f (Run.query none trivial (run_append_miss key f hHit))
    have hEq := h _ hRun
    simp only [List.map_append, List.map_cons, List.append_cancel_left_eq,
      List.cons.injEq, true_and] at hEq
    exact hDiffer hEq.1
  · intro h vs hRun
    exact run_eq_map (by simp) h hRun

end KongRust.Memo
