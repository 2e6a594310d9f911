import Silo.Protected
import Mathlib.Algebra.Order.Ring.Int
/-!
# Fence — `validate_protected_queries`, a clamped counter over a statement log

The scan keeps `fence_depth`: a fence start adds one, a fence end takes one off but never below zero, and a
protected statement seen at depth zero fails.  The depth at an entry is the largest count of starts minus ends over
the stretches of the log that end there (`clampFold_max`), so a protected statement passes exactly when some stretch
ending at it opens more fences than it closes (`validateProtectedQueries_ok_iff`).  The failure report echoes a window
of the log; a `None` entry in that window makes building it raise a `TypeError` instead.
-/
namespace Silo

/-- `context_queries`. -/
def contextQueries : Nat := 5

/-- The loop's fence bookkeeping: `fence_depth` and `start_fence_index`. -/
structure FenceState where
  depth           : Nat
  startFenceIndex : Nat
  deriving DecidableEq, Repr

/-- The lines of the failure message before the query log. -/
def reportHeader (sql : String) : List String :=
  ["Found protected operation without explicit outbox escape!", "", sql, "",
    "Was not surrounded by role elevation queries, and could corrupt data if outboxes are not generated.",
    "If you are confident that outboxes are being generated, wrap the " ++
      "operation that generates this query with the `unguarded_write()` ",
    "context manager to resolve this failure. For example:", "",
    "with unguarded_write(using=router.db_for_write(OrganizationMembership):", "    member.delete()", "",
    "Query logs:", ""]

/-- `"^" * len(sql)`. -/
def caret (sql : String) : String := String.mk (List.replicate sql.length '^')

/-- `queries[start:end]` with `start = max(0, start_fence_index - context_queries)` and
`end = min(index + context_queries, len(queries))`. -/
def reportWindow (queries : List (Option String)) (index startFenceIndex : Nat) : List (Option String) :=
  (queries.drop (startFenceIndex - contextQueries)).take
    (min (index + contextQueries) queries.length - (startFenceIndex - contextQueries))

/-- `msg`: the header, then each entry of the window, followed by a caret line when its sql is the offending one. -/
def reportLines (queries : List (Option String)) (index startFenceIndex : Nat) (sql : String) :
    List (Option String) :=
  (reportHeader sql).map some ++
    (reportWindow queries index startFenceIndex).flatMap fun q => q :: if q = some sql then [some (caret sql)] else []

/-- The items of `"\n".join(msg)`, from position `i`: a `None` item is a `TypeError` naming its position. -/
def joinItems : Nat → List (Option String) → Except Exc (List String)
  | _, [] => pure []
  | i, none :: _ => throw (.typeError ("sequence item " ++ toString i ++ ": expected str instance, NoneType found"))
  | i, some s :: rest => do
    let r ← joinItems (i + 1) rest
    pure (s :: r)

/-- The `raise AssertionError("\n".join(msg))` for a protected statement outside a fence. -/
def reportProtectedOperation (queries : List (Option String)) (index startFenceIndex : Nat) (sql : String) :
    Except Exc Unit := do
  let items ← joinItems 0 (reportLines queries index startFenceIndex sql)
  throw (.assertionError ("\n".intercalate items))

section Scan

variable (matchFenceQuery : String → Option String) (isProtected : String → Bool)

/-- The fence-marker part of one turn, on `match_fence_query(sql)`'s `operation` group. -/
def fenceStep (st : FenceState) (index : Nat) (sql : String) : Except Exc FenceState :=
  match matchFenceQuery sql with
  | none => pure st
  | some op =>
    if op = "start" then pure ⟨st.depth + 1, index⟩
    else if op = "end" then pure ⟨st.depth - 1, st.startFenceIndex⟩
    else throw (.assertionError "Invalid fencing operation encounted")

/-- The loop of `validate_protected_queries` from position `index`, `queries` being the whole log the report reads;
`isProtected sql` is `protected.match(sql)` for some protected pattern.  `None` entries are skipped. -/
def scanQueries (queries : List (Option String)) : Nat → FenceState → List (Option String) → Except Exc Unit
  | _, _, [] => pure ()
  | index, st, none :: rest => scanQueries queries (index + 1) st rest
  | index, st, some sql :: rest => do
    let st ← fenceStep matchFenceQuery st index sql
    if isProtected sql && st.depth == 0 then reportProtectedOperation queries index st.startFenceIndex sql
    else scanQueries queries (index + 1) st rest

/-- The fence state the loop holds after the entries `l`, from `st` at position `index`. -/
def fenceRun : Nat → FenceState → List (Option String) → Except Exc FenceState
  | _, st, [] => pure st
  | index, st, none :: rest => fenceRun (index + 1) st rest
  | index, st, some sql :: rest => do fenceRun (index + 1) (← fenceStep matchFenceQuery st index sql) rest

end Scan

/-- `validate_protected_queries(queries)`, where `get_protected_operations()` returns `protectedOps`,
`match_fence_query` yields a fence marker's `operation` group, and `re.IGNORECASE` compares characters by
`ignoreCase`. -/
def validateProtectedQueries (matchFenceQuery : String → Option String) (ignoreCase : IgnoreCase)
    (protectedOps : List Pattern) (queries : List (Option String)) : Except Exc Unit :=
  scanQueries matchFenceQuery (fun sql => protectedOps.any (·.matches ignoreCase sql)) queries 0 ⟨0, 0⟩ queries

/-- The scan reads its protection test only on the statements it visits. -/
theorem scanQueries_congr {matchFenceQuery : String → Option String} {isProtected isProtected' : String → Bool}
    (queries l : List (Option String)) : ∀ {index : Nat} {st : FenceState},
      (∀ sql, some sql ∈ l → isProtected sql = isProtected' sql) →
      scanQueries matchFenceQuery isProtected queries index st l =
        scanQueries matchFenceQuery isProtected' queries index st l := by
  induction l with
  | nil => intros; rfl
  | cons x l ih =>
    intro index st h
    have ih' := fun index st => @ih index st fun sql hs => h sql (.tail _ hs)
    cases x with
    | none => exact ih' _ _
    | some sql =>
      rw [scanQueries, scanQueries, h sql (.head _)]
      cases fenceStep matchFenceQuery st index sql with
      | error e => rfl
      | ok s => simp only [ok_bind, ih']

/-- **On ASCII text the verdict does not depend on the case comparison**: with ASCII patterns and statements,
`validate_protected_queries` does what it does under ASCII lowering. -/
theorem validateProtectedQueries_ascii (matchFenceQuery : String → Option String) (ignoreCase : IgnoreCase)
    {protectedOps : List Pattern} {queries : List (Option String)}
    (hops : ∀ p ∈ protectedOps, asciiText p.operation = true ∧ asciiText p.table = true)
    (hq : ∀ q ∈ queries, q.all asciiText = true) :
    validateProtectedQueries matchFenceQuery ignoreCase protectedOps queries =
      validateProtectedQueries matchFenceQuery .asciiLower protectedOps queries := by
  refine scanQueries_congr queries queries fun sql hs => ?_
  rw [Bool.eq_iff_iff, List.any_eq_true, List.any_eq_true]
  exact exists_congr fun p => and_congr_right fun hp => by
    rw [Pattern.matches_ascii ignoreCase (hops p hp) (by simpa using hq _ hs)]

/-! ## The clamped counter -/

/-- A running count from `d` that drops back to zero whenever it would go below. -/
def clampFold (d : Int) : List Int → Int
  | [] => d
  | x :: xs => clampFold (max (d + x) 0) xs

/-- **The clamped count is the best stretch**: from `d ≥ 0`, it is at least `d` plus the whole sum and at least the
sum of every suffix, and it equals one of these. -/
theorem clampFold_max : ∀ (xs : List Int) (d : Int), 0 ≤ d →
    d + xs.sum ≤ clampFold d xs ∧ (∀ j, (xs.drop j).sum ≤ clampFold d xs) ∧
      (clampFold d xs = d + xs.sum ∨ ∃ j, (xs.drop j).sum = clampFold d xs)
  | [], d, hd => ⟨(Int.add_zero d).le, fun j => by rw [List.drop_nil]; exact hd, .inl (Int.add_zero d).symm⟩
  | x :: xs, d, hd => by
    obtain ⟨hA, hB, hC⟩ := clampFold_max xs (max (d + x) 0) (by omega)
    simp only [clampFold, List.sum_cons]
    refine ⟨by omega, fun j => ?_, ?_⟩
    · cases j with
      | zero => simp only [List.drop_zero, List.sum_cons]; omega
      | succ j => exact hB j
    · rcases hC with h | ⟨j, hj⟩
      · by_cases hdx : 0 ≤ d + x
        · exact .inl (by omega)
        · exact .inr ⟨1, by simp only [List.drop_succ_cons, List.drop_zero]; omega⟩
      · exact .inr ⟨j + 1, hj⟩

theorem clampFold_pos_iff (xs : List Int) : 0 < clampFold 0 xs ↔ ∃ j < xs.length, 0 < (xs.drop j).sum := by
  obtain ⟨-, hB, hC⟩ := clampFold_max xs 0 (Int.le_refl 0)
  constructor
  · intro hpos
    obtain ⟨j, hj⟩ : ∃ j, (xs.drop j).sum = clampFold 0 xs := hC.elim (fun h => ⟨0, by simp [h]⟩) id
    refine ⟨j, ?_, by omega⟩
    by_contra hlen
    rw [List.drop_eq_nil_of_le (by omega)] at hj
    simp at hj
    omega
  · rintro ⟨j, -, hj⟩
    exact Int.lt_of_lt_of_le hj (hB j)

theorem reportProtectedOperation_ne_ok (queries : List (Option String)) (index startFenceIndex : Nat)
    (sql : String) : reportProtectedOperation queries index startFenceIndex sql ≠ .ok () := by
  unfold reportProtectedOperation
  cases joinItems 0 (reportLines queries index startFenceIndex sql) <;> simp

/-- A condition on the present entries of `x :: l`, split into the head and the tail. -/
theorem forall_getElem?_cons_some {x : Option String} {l : List (Option String)} {P : Nat → String → Prop} :
    (∀ k sql, (x :: l)[k]? = some (some sql) → P k sql) ↔
      (∀ sql, x = some sql → P 0 sql) ∧ ∀ k sql, l[k]? = some (some sql) → P (k + 1) sql := by
  constructor
  · intro h
    exact ⟨fun sql hx => h 0 sql (hx ▸ List.getElem?_cons_zero), fun k sql hk =>
      h (k + 1) sql (List.getElem?_cons_succ.trans hk)⟩
  · rintro ⟨h0, h⟩ (_ | k) sql hk
    · exact h0 sql (Option.some.inj (List.getElem?_cons_zero.symm.trans hk))
    · exact h k sql (List.getElem?_cons_succ.symm.trans hk)

section Law

variable (matchFenceQuery : String → Option String)

/-- An entry's count in the balance: one for a fence start, minus one for a fence end, nothing otherwise. -/
def fenceDelta : Option String → Int
  | some sql =>
    match matchFenceQuery sql with
    | some "start" => 1
    | some "end" => -1
    | _ => 0
  | none => 0

/-- Fence starts minus fence ends among the entries at positions `j` to `i`. -/
def fenceBalance (queries : List (Option String)) (j i : Nat) : Int :=
  (((queries.take (i + 1)).drop j).map (fenceDelta matchFenceQuery)).sum

/-- Entry `k` of the log is a fence start. -/
def fenceStartAt (queries : List (Option String)) (k : Nat) : Bool :=
  match queries[k]? with
  | some (some sql) => matchFenceQuery sql == some "start"
  | _ => false

/-- The position of the last fence start before position `i`, `0` when there is none. -/
def lastFenceStart (queries : List (Option String)) (i : Nat) : Nat :=
  ((List.range i).filter (fenceStartAt matchFenceQuery queries)).getLastD 0

theorem lastFenceStart_succ (queries : List (Option String)) (i : Nat) :
    lastFenceStart matchFenceQuery queries (i + 1) =
      if fenceStartAt matchFenceQuery queries i then i else lastFenceStart matchFenceQuery queries i := by
  rw [lastFenceStart, List.range_succ, List.filter_append]
  split <;> simp [*, lastFenceStart, List.getLastD_concat]

theorem fenceStep_startFenceIndex {st st' : FenceState} {index : Nat} {sql : String}
    (h : fenceStep matchFenceQuery st index sql = .ok st') :
    st'.startFenceIndex = if matchFenceQuery sql = some "start" then index else st.startFenceIndex := by
  unfold fenceStep at h
  split at h
  · cases h; simp [*]
  · split at h
    · cases h; simp [*]
    · split at h
      · cases h; simp [*]
      · cases h

theorem fenceRun_append (l : List (Option String)) (x : Option String) :
    ∀ (index : Nat) (st : FenceState), fenceRun matchFenceQuery index st (l ++ [x]) =
      fenceRun matchFenceQuery index st l >>= fun st' => fenceRun matchFenceQuery (index + l.length) st' [x] := by
  induction l with
  | nil => intro index st; rfl
  | cons q l ih =>
    intro index st
    have hlen : index + 1 + l.length = index + (q :: l).length := by simp only [List.length_cons]; omega
    cases q with
    | none =>
      show fenceRun matchFenceQuery (index + 1) st (l ++ [x]) = _
      rw [ih, hlen]
      rfl
    | some sql =>
      show (fenceStep matchFenceQuery st index sql >>= fun st₁ =>
        fenceRun matchFenceQuery (index + 1) st₁ (l ++ [x])) = _
      simp only [ih, hlen]
      rcases hs : fenceStep matchFenceQuery st index sql with e | st₁ <;> simp only [fenceRun, hs, ok_bind, error_bind]

/-- **The fence start the loop holds is the last one seen**: after the entries before position `i`, the loop's
`start_fence_index` is the position of the last fence start among them, `0` when there is none. -/
theorem fenceRun_startFenceIndex (queries : List (Option String)) :
    ∀ (i : Nat) {st : FenceState}, fenceRun matchFenceQuery 0 ⟨0, 0⟩ (queries.take i) = .ok st →
      st.startFenceIndex = lastFenceStart matchFenceQuery queries i
  | 0, st, h => by cases h; rfl
  | i + 1, st, h => by
    rw [lastFenceStart_succ, fenceStartAt]
    rw [List.take_succ] at h
    cases hq : queries[i]? with
    | none =>
      rw [hq, Option.toList_none, List.append_nil] at h
      exact fenceRun_startFenceIndex queries i h
    | some q =>
      have hi : (queries.take i).length = i := by
        simp only [List.length_take]; have := (List.getElem?_eq_some_iff.1 hq).1; omega
      rw [hq, Option.toList_some, fenceRun_append, hi, Nat.zero_add] at h
      obtain ⟨st₁, h₁, h⟩ := bind_eq_ok.1 h
      have ih := fenceRun_startFenceIndex queries i h₁
      cases q with
      | none => cases h; exact ih
      | some sql =>
        obtain ⟨st₂, h₂, h⟩ := bind_eq_ok.1 h
        cases h
        rw [fenceStep_startFenceIndex matchFenceQuery h₂, ih]
        by_cases hs : matchFenceQuery sql = some "start" <;> simp [hs]

theorem fenceBalance_eq_sum_drop (queries : List (Option String)) (j i : Nat) :
    fenceBalance matchFenceQuery queries j i = (((queries.take (i + 1)).map (fenceDelta matchFenceQuery)).drop j).sum := by
  rw [fenceBalance, List.map_drop]

/-- A `None` entry leaves the clamped count as it is. -/
theorem clampFold_none_cons (d : Nat) (xs : List Int) :
    clampFold d (fenceDelta matchFenceQuery none :: xs) = clampFold d xs := by
  rw [clampFold, fenceDelta, Int.add_zero, Int.max_eq_left (Int.natCast_nonneg d)]

theorem length_prefixDeltas_le (queries : List (Option String)) (i : Nat) :
    ((queries.take (i + 1)).map (fenceDelta matchFenceQuery)).length ≤ i + 1 := by
  rw [List.length_map]
  exact List.length_take_le _ _

/-- The clamped count over the entries up to `i` is the largest balance of a stretch ending at `i`. -/
theorem clampFold_fenceBalance (queries : List (Option String)) (i : Nat) :
    (∀ j ≤ i + 1, fenceBalance matchFenceQuery queries j i ≤
      clampFold 0 ((queries.take (i + 1)).map (fenceDelta matchFenceQuery))) ∧
    ∃ j ≤ i + 1, fenceBalance matchFenceQuery queries j i =
      clampFold 0 ((queries.take (i + 1)).map (fenceDelta matchFenceQuery)) := by
  obtain ⟨-, hB, hC⟩ := clampFold_max ((queries.take (i + 1)).map (fenceDelta matchFenceQuery)) 0 (Int.le_refl 0)
  have hlen := length_prefixDeltas_le matchFenceQuery queries i
  simp only [fenceBalance_eq_sum_drop]
  refine ⟨fun j _ => hB j, ?_⟩
  rcases hC with hC | ⟨j, hj⟩
  · exact ⟨0, Nat.zero_le _, by rw [hC, List.drop_zero, Int.zero_add]⟩
  · refine ⟨min j (i + 1), Nat.min_le_right _ _, ?_⟩
    rcases Nat.le_total j (i + 1) with hji | hji
    · rwa [Nat.min_eq_left hji]
    · rw [Nat.min_eq_right hji, ← hj, List.drop_eq_nil_of_le hlen, List.drop_eq_nil_of_le (hlen.trans hji)]

/-- The clamped count over the entries up to `i` is nonzero exactly when some stretch ending at `i` opens more fences
than it closes. -/
theorem clampFold_ne_zero_iff (queries : List (Option String)) (i : Nat) :
    clampFold 0 ((queries.take (i + 1)).map (fenceDelta matchFenceQuery)) ≠ 0 ↔
      ∃ j ≤ i, 0 < fenceBalance matchFenceQuery queries j i := by
  obtain ⟨-, hB, -⟩ := clampFold_max ((queries.take (i + 1)).map (fenceDelta matchFenceQuery)) 0 (Int.le_refl 0)
  have hlen := length_prefixDeltas_le matchFenceQuery queries i
  have h0 := hB (i + 1)
  rw [List.drop_eq_nil_of_le hlen, List.sum_nil] at h0
  rw [show ∀ x : Int, 0 ≤ x → (x ≠ 0 ↔ 0 < x) from fun x hx => by omega, clampFold_pos_iff _]
  · simp only [fenceBalance_eq_sum_drop]
    constructor
    · rintro ⟨j, hj, hpos⟩
      exact ⟨j, by omega, hpos⟩
    · rintro ⟨j, hj, hpos⟩
      refine ⟨j, ?_, hpos⟩
      by_contra hj'
      rw [List.drop_eq_nil_of_le (by omega), List.sum_nil] at hpos
      exact Int.lt_irrefl 0 hpos
  · exact h0

variable {matchFenceQuery} {isProtected : String → Bool}
  (hfence : ∀ sql op, matchFenceQuery sql = some op → op = "start" ∨ op = "end")
include hfence

theorem fenceStep_depth (st : FenceState) (index : Nat) (sql : String) :
    ∃ st', fenceStep matchFenceQuery st index sql = .ok st' ∧
      (st'.depth : Int) = max (st.depth + fenceDelta matchFenceQuery (some sql)) 0 := by
  cases hq : matchFenceQuery sql with
  | none => simp only [fenceStep, fenceDelta, hq, pure_eq_ok, Except.ok.injEq, exists_eq_left']; omega
  | some op =>
    rcases hfence sql op hq with rfl | rfl <;>
      simp only [fenceStep, fenceDelta, hq, ↓reduceIte, String.reduceEq, pure_eq_ok, Except.ok.injEq,
        exists_eq_left'] <;> omega

theorem fenceRun_depth : ∀ (l : List (Option String)) (index : Nat) (st : FenceState),
    ∃ st', fenceRun matchFenceQuery index st l = .ok st' ∧
      (st'.depth : Int) = clampFold st.depth (l.map (fenceDelta matchFenceQuery))
  | [], _, st => ⟨st, rfl, rfl⟩
  | none :: rest, index, st => by
    obtain ⟨st', h, hd⟩ := fenceRun_depth rest (index + 1) st
    exact ⟨st', h, hd.trans (clampFold_none_cons matchFenceQuery st.depth _).symm⟩
  | some sql :: rest, index, st => by
    obtain ⟨s₁, h₁, hd₁⟩ := fenceStep_depth hfence st index sql
    obtain ⟨st', h, hd⟩ := fenceRun_depth rest (index + 1) s₁
    refine ⟨st', ?_, hd.trans (congrArg (clampFold · _) hd₁)⟩
    rw [fenceRun, h₁, ok_bind, h]

/-- **The scan passes exactly the protected entries with a positive clamped count**, that count being taken over the
entries up to and including the one checked. -/
theorem scanQueries_eq_ok (queries : List (Option String)) :
    ∀ (l : List (Option String)) (index : Nat) (st : FenceState),
      scanQueries matchFenceQuery isProtected queries index st l = .ok () ↔
        ∀ k sql, l[k]? = some (some sql) → isProtected sql = true →
          clampFold st.depth ((l.take (k + 1)).map (fenceDelta matchFenceQuery)) ≠ 0
  | [], _, _ => iff_of_true rfl fun k _ h => by rw [List.getElem?_nil] at h; cases h
  | none :: rest, index, st => by
    rw [forall_getElem?_cons_some, show scanQueries matchFenceQuery isProtected queries index st (none :: rest) =
      scanQueries matchFenceQuery isProtected queries (index + 1) st rest from rfl, scanQueries_eq_ok queries rest]
    simp only [List.take_succ_cons, List.map_cons, clampFold_none_cons, reduceCtorEq, false_implies, implies_true,
      true_and]
  | some sql :: rest, index, st => by
    obtain ⟨s₁, h₁, hd₁⟩ := fenceStep_depth hfence st index sql
    rw [forall_getElem?_cons_some]
    simp only [List.take_succ_cons, List.take_zero, List.map_cons, List.map_nil, clampFold, ← hd₁]
    rw [← scanQueries_eq_ok queries rest (index + 1) s₁, scanQueries, h₁, ok_bind]
    split
    · rename_i hc
      rw [Bool.and_eq_true, beq_iff_eq] at hc
      exact iff_of_false (reportProtectedOperation_ne_ok _ _ _ _) fun h => h.1 sql rfl hc.1 (by rw [hc.2]; rfl)
    · rename_i hc
      refine ⟨fun h => ⟨fun sql' hs hp => ?_, h⟩, fun h => h.2⟩
      cases hs
      exact Int.natCast_ne_zero.2 fun h0 => hc (by rw [hp, h0]; rfl)

/-- **Where the scan fails**: at a protected entry `k` of `l` whose depth, after the entry's own marker turn, is zero,
every protected entry before it having a positive clamped count; the failure is that entry's report, with the fence
start the run holds there. -/
theorem scanQueries_error (queries : List (Option String)) :
    ∀ (l : List (Option String)) (index : Nat) (st : FenceState) {e : Exc},
      scanQueries matchFenceQuery isProtected queries index st l = .error e →
      ∃ k sql st', l[k]? = some (some sql) ∧ isProtected sql = true ∧
        fenceRun matchFenceQuery index st (l.take (k + 1)) = .ok st' ∧ st'.depth = 0 ∧
        reportProtectedOperation queries (index + k) st'.startFenceIndex sql = .error e ∧
        ∀ k' < k, ∀ sql', l[k']? = some (some sql') → isProtected sql' = true →
          clampFold st.depth ((l.take (k' + 1)).map (fenceDelta matchFenceQuery)) ≠ 0
  | [], _, _, _, h => by cases h
  | none :: rest, index, st, e, h => by
    obtain ⟨k, sql, st', hk, hp, hrun, hd, hr, hbefore⟩ := scanQueries_error queries rest (index + 1) st h
    refine ⟨k + 1, sql, st', List.getElem?_cons_succ.trans hk, hp, hrun, hd,
      by rwa [← Nat.add_assoc, Nat.add_right_comm], ?_⟩
    rintro (_ | k') hk' sql' hq hp'
    · nomatch Option.some.inj (List.getElem?_cons_zero.symm.trans hq)
    · show clampFold _ (fenceDelta matchFenceQuery none :: _) ≠ 0
      rw [clampFold_none_cons]
      exact hbefore k' (by omega) sql' (List.getElem?_cons_succ.symm.trans hq) hp'
  | some sql :: rest, index, st, e, h => by
    obtain ⟨s₁, h₁, hd₁⟩ := fenceStep_depth hfence st index sql
    rw [scanQueries, h₁, ok_bind] at h
    split at h
    · rename_i hc
      rw [Bool.and_eq_true, beq_iff_eq] at hc
      exact ⟨0, sql, s₁, List.getElem?_cons_zero, hc.1, by simp only [fenceRun, h₁, ok_bind]; rfl, hc.2, h,
        fun k' hk' => absurd hk' (Nat.not_lt_zero _)⟩
    · rename_i hc
      obtain ⟨k, sql', st', hk, hp, hrun, hd, hr, hbefore⟩ := scanQueries_error queries rest (index + 1) s₁ h
      refine ⟨k + 1, sql', st', List.getElem?_cons_succ.trans hk, hp, by simpa only [fenceRun, h₁, ok_bind] using hrun,
        hd, by rwa [← Nat.add_assoc, Nat.add_right_comm], ?_⟩
      rintro (_ | k') hk' sql'' hq hp'
      · obtain rfl : sql = sql'' := Option.some.inj (Option.some.inj (List.getElem?_cons_zero.symm.trans hq))
        simp only [List.take_succ_cons, List.take_zero, List.map_cons, List.map_nil, clampFold, ← hd₁]
        exact Int.natCast_ne_zero.2 fun h0 => hc (by rw [hp', h0]; rfl)
      · show clampFold (max (_ + _) 0) _ ≠ 0
        rw [← hd₁]
        exact hbefore k' (by omega) sql'' (List.getElem?_cons_succ.symm.trans hq) hp'

end Law

/-- **`validate_protected_queries` is a clamped fence counter.**  When the fence classifier yields only `start` and
`end`: the depth the loop holds when it checks entry `i` is the largest count of fence starts minus fence ends over
the stretches `j..i` (the empty one, `j = i + 1`, counting zero), and the log passes exactly when every protected
statement ends a stretch that opens more fences than it closes. -/
theorem validateProtectedQueries_ok_iff {matchFenceQuery : String → Option String}
    (hfence : ∀ sql op, matchFenceQuery sql = some op → op = "start" ∨ op = "end") (ignoreCase : IgnoreCase)
    (protectedOps : List Pattern) (queries : List (Option String)) :
    (∀ i < queries.length, ∃ st, fenceRun matchFenceQuery 0 ⟨0, 0⟩ (queries.take (i + 1)) = .ok st ∧
      (∀ j ≤ i + 1, fenceBalance matchFenceQuery queries j i ≤ st.depth) ∧
      ∃ j ≤ i + 1, fenceBalance matchFenceQuery queries j i = st.depth) ∧
    (validateProtectedQueries matchFenceQuery ignoreCase protectedOps queries = .ok () ↔
      ∀ i sql, queries[i]? = some (some sql) → protectedOps.any (·.matches ignoreCase sql) = true →
        ∃ j ≤ i, 0 < fenceBalance matchFenceQuery queries j i) := by
  constructor
  · intro i _
    obtain ⟨st, h, hd⟩ := fenceRun_depth hfence (queries.take (i + 1)) 0 ⟨0, 0⟩
    obtain ⟨hle, j, hj, heq⟩ := clampFold_fenceBalance matchFenceQuery queries i
    exact ⟨st, h, fun j hj => hd ▸ hle j hj, j, hj, hd ▸ heq⟩
  · rw [validateProtectedQueries, scanQueries_eq_ok hfence]
    exact forall₂_congr fun i _ => imp_congr_right fun _ => imp_congr_right fun _ =>
      clampFold_ne_zero_iff matchFenceQuery queries i

/-- A fence classifier for two marker statements, `start` and `end`. -/
def markerFence (sql : String) : Option String :=
  if sql = "start" then some "start" else if sql = "end" then some "end" else none

theorem markerFence_ops (sql op : String) (h : markerFence sql = some op) : op = "start" ∨ op = "end" := by
  unfold markerFence at h
  split_ifs at h <;> cases h <;> simp

/-- A delete from `sentry_user` between a fence start and a fence end passes, and so it ends a stretch that opens a
fence. -/
theorem fencedDelete_enclosed :
    ∃ j ≤ 1, 0 < fenceBalance markerFence [some "start", some "DELETE FROM \"sentry_user\"", some "end"] j 1 :=
  (validateProtectedQueries_ok_iff markerFence_ops .asciiLower outboxPatterns
    [some "start", some "DELETE FROM \"sentry_user\"", some "end"]).2.1 rfl 1 _ rfl (by decide)

/-! ## The failure report -/

theorem joinItems_none : ∀ (ys : List (Option String)) (i : Nat), none ∈ ys →
    ∃ k : Nat, joinItems i ys = .error (.typeError ("sequence item " ++ toString k ++
      ": expected str instance, NoneType found"))
  | none :: _, i, _ => ⟨i, rfl⟩
  | some s :: ys, i, h => by
    obtain ⟨k, hk⟩ := joinItems_none ys (i + 1) ((List.mem_cons.1 h).resolve_left (nomatch ·))
    exact ⟨k, by rw [joinItems, hk, error_bind]⟩

theorem joinItems_some : ∀ (ys : List (Option String)) (i : Nat), none ∉ ys → joinItems i ys = .ok (ys.filterMap id)
  | [], _, _ => rfl
  | none :: _, _, h => absurd (List.mem_cons_self _ _) h
  | some s :: ys, i, h => by
    rw [joinItems, joinItems_some ys (i + 1) fun hn => h (List.mem_cons_of_mem _ hn), ok_bind]
    rfl

theorem none_mem_reportLines (queries : List (Option String)) (index startFenceIndex : Nat) (sql : String) :
    none ∈ reportLines queries index startFenceIndex sql ↔ none ∈ reportWindow queries index startFenceIndex := by
  simp only [reportLines, List.mem_append, List.mem_map, List.mem_flatMap, List.mem_cons]
  constructor
  · rintro (⟨_, _, h⟩ | ⟨q, hq, rfl | h⟩)
    · cases h
    · exact hq
    · split_ifs at h <;> simp at h
  · exact fun h => .inr ⟨none, h, .inl rfl⟩

/-- The window's lines, once joined: each entry's text, then a caret line when it is the offending statement's. -/
theorem filterMap_caretLines (sql : String) : ∀ w : List (Option String), none ∉ w →
    (w.flatMap fun q => q :: if q = some sql then [some (caret sql)] else []).filterMap id =
      (w.filterMap id).flatMap fun q => q :: if q = sql then [caret sql] else []
  | [], _ => rfl
  | none :: _, h => absurd (List.mem_cons_self _ _) h
  | some t :: w, h => by
    rw [List.flatMap_cons, List.filterMap_append, filterMap_caretLines sql w (by simpa using h)]
    by_cases ht : t = sql <;> simp [ht]

/-- Without a `None` entry in the window, the report is the `AssertionError` whose lines are the header and then
each window entry, followed by a caret line when its text is the offending statement's. -/
theorem reportProtectedOperation_eq {queries : List (Option String)} {index startFenceIndex : Nat} {sql : String}
    (hw : none ∉ reportWindow queries index startFenceIndex) :
    reportProtectedOperation queries index startFenceIndex sql = .error (.assertionError ("\n".intercalate
      (reportHeader sql ++ ((reportWindow queries index startFenceIndex).filterMap id).flatMap
        fun q => q :: if q = sql then [caret sql] else []))) := by
  rw [reportProtectedOperation, joinItems_some _ 0 ((none_mem_reportLines _ _ _ sql).not.2 hw), ok_bind,
    throw_eq_error, reportLines, List.filterMap_append, List.filterMap_map, filterMap_caretLines sql _ hw]
  simp

/-- **What the failure report raises.**  Without a `None` entry in the window it is an `AssertionError` whose message
opens with the header: the offending statement, then the `unguarded_write` guidance.  With one, joining the message
raises a `TypeError` instead. -/
theorem reportProtectedOperation_cases (queries : List (Option String)) (index startFenceIndex : Nat) (sql : String) :
    (none ∉ reportWindow queries index startFenceIndex → ∃ rest,
      reportProtectedOperation queries index startFenceIndex sql =
        .error (.assertionError ("\n".intercalate (reportHeader sql ++ rest)))) ∧
    (none ∈ reportWindow queries index startFenceIndex → ∃ k : Nat,
      reportProtectedOperation queries index startFenceIndex sql =
        .error (.typeError ("sequence item " ++ toString k ++ ": expected str instance, NoneType found"))) := by
  refine ⟨fun hw => ⟨_, reportProtectedOperation_eq hw⟩, fun hw => ?_⟩
  obtain ⟨k, hk⟩ := joinItems_none _ 0 ((none_mem_reportLines _ _ _ sql).2 hw)
  exact ⟨k, by rw [reportProtectedOperation, hk, error_bind]⟩

/-- **A `None` entry in the reported window turns the failure into a `TypeError`**: the log `[None, DELETE FROM
"sentry_user"]` fails on its delete, and joining the echoed `None` raises, whatever the case comparison. -/
theorem noneInWindow_typeError (ignoreCase : IgnoreCase) :
    validateProtectedQueries (fun _ => none) ignoreCase outboxPatterns [none, some "DELETE FROM \"sentry_user\""] =
      .error (.typeError "sequence item 13: expected str instance, NoneType found") := by
  rw [validateProtectedQueries_ascii _ ignoreCase outboxPatterns_ascii (by decide)]
  rfl

/-! ## What the failure message lists -/

/-- The report's window holds the log's entries from position `max(0, s - 5)` up to, and not including,
`min(i + 5, n)`. -/
theorem reportWindow_getElem? (queries : List (Option String)) (index startFenceIndex j : Nat) :
    (reportWindow queries index startFenceIndex)[j]? =
      if startFenceIndex - contextQueries + j < min (index + contextQueries) queries.length
      then queries[startFenceIndex - contextQueries + j]? else none := by
  rw [reportWindow, List.getElem?_take, List.getElem?_drop]
  exact if_congr (by omega) rfl rfl

/-- **What the failure message lists.**  On a log without `None` entries, with a classifier that yields only `start`
and `end`, a failing `validate_protected_queries` fails at the first protected entry `i` that no stretch ending at it
fences, and raises an `AssertionError` whose lines are the header, then the log's entries at positions
`max(0, s - 5)` to `min(i + 5, n) - 1`, `s` being the last fence start before `i` (`0` when there is none), each
followed by a caret line when its text is the offending statement's. -/
theorem validateProtectedQueries_error {matchFenceQuery : String → Option String}
    (hfence : ∀ sql op, matchFenceQuery sql = some op → op = "start" ∨ op = "end")
    (ignoreCase : IgnoreCase) (protectedOps : List Pattern) (queries : List (Option String)) (hnone : none ∉ queries)
    {e : Exc} (h : validateProtectedQueries matchFenceQuery ignoreCase protectedOps queries = .error e) :
    ∃ i sql, queries[i]? = some (some sql) ∧ protectedOps.any (·.matches ignoreCase sql) = true ∧
      (∀ j ≤ i, fenceBalance matchFenceQuery queries j i ≤ 0) ∧
      (∀ k < i, ∀ sql', queries[k]? = some (some sql') → protectedOps.any (·.matches ignoreCase sql') = true →
        ∃ j ≤ k, 0 < fenceBalance matchFenceQuery queries j k) ∧
      e = .assertionError ("\n".intercalate (reportHeader sql ++
        ((reportWindow queries i (lastFenceStart matchFenceQuery queries i)).filterMap id).flatMap
          fun q => q :: if q = sql then [caret sql] else [])) := by
  obtain ⟨i, sql, st, hq, hp, hrun, hd, hr, hbefore⟩ := scanQueries_error hfence queries queries 0 ⟨0, 0⟩ h
  refine ⟨i, sql, hq, hp, fun j hj => ?_, fun k hk sql' hq' hp' =>
    (clampFold_ne_zero_iff matchFenceQuery queries k).1 (hbefore k hk sql' hq' hp'), ?_⟩
  · obtain ⟨st', hrun', hd'⟩ := fenceRun_depth hfence (queries.take (i + 1)) 0 ⟨0, 0⟩
    rw [hrun] at hrun'
    cases hrun'
    rw [hd] at hd'
    by_contra hpos
    exact (clampFold_ne_zero_iff matchFenceQuery queries i).2 ⟨j, hj, by omega⟩ hd'.symm
  · rw [List.take_succ, hq, Option.toList_some, fenceRun_append] at hrun
    obtain ⟨st₁, h₁, hstep⟩ := bind_eq_ok.1 hrun
    obtain ⟨st₂, h₂, hfin⟩ := bind_eq_ok.1 hstep
    cases hfin
    have hns : matchFenceQuery sql ≠ some "start" := by
      intro hst
      obtain ⟨s₂, h₂', hd₂⟩ := fenceStep_depth hfence st₁ _ sql
      rw [h₂] at h₂'
      cases h₂'
      simp only [fenceDelta, hst, hd] at hd₂
      omega
    have hs := fenceStep_startFenceIndex matchFenceQuery h₂
    rw [if_neg hns, fenceRun_startFenceIndex matchFenceQuery queries i h₁] at hs
    rw [Nat.zero_add, hs, reportProtectedOperation_eq
      fun hw => hnone (List.mem_of_mem_drop (List.mem_of_mem_take hw))] at hr
    exact (Except.error.inj hr).symm

/-- A fence that closes before a delete from `sentry_user`. -/
def closedFenceLog : List (Option String) := [some "start", some "end", some "DELETE FROM \"sentry_user\""]

/-- The fence of `closedFenceLog` closes before its delete, so the check fails there, and the message lists the whole
log from the fence start on, with a caret line under the delete. -/
theorem closedFenceLog_error :
    (∀ sql op, markerFence sql = some op → op = "start" ∨ op = "end") ∧ none ∉ closedFenceLog ∧
    validateProtectedQueries markerFence .asciiLower outboxPatterns closedFenceLog =
      .error (.assertionError ("\n".intercalate (reportHeader "DELETE FROM \"sentry_user\"" ++
        ["start", "end", "DELETE FROM \"sentry_user\"", caret "DELETE FROM \"sentry_user\""]))) ∧
    ∃ i sql, closedFenceLog[i]? = some (some sql) ∧ outboxPatterns.any (·.matches .asciiLower sql) = true ∧
      (∀ j ≤ i, fenceBalance markerFence closedFenceLog j i ≤ 0) ∧
      (∀ k < i, ∀ sql', closedFenceLog[k]? = some (some sql') → outboxPatterns.any (·.matches .asciiLower sql') = true →
        ∃ j ≤ k, 0 < fenceBalance markerFence closedFenceLog j k) ∧
      Exc.assertionError ("\n".intercalate (reportHeader "DELETE FROM \"sentry_user\"" ++
        ["start", "end", "DELETE FROM \"sentry_user\"", caret "DELETE FROM \"sentry_user\""])) =
        .assertionError ("\n".intercalate (reportHeader sql ++
          ((reportWindow closedFenceLog i (lastFenceStart markerFence closedFenceLog i)).filterMap id).flatMap
            fun q => q :: if q = sql then [caret sql] else [])) :=
  have h : validateProtectedQueries markerFence .asciiLower outboxPatterns closedFenceLog =
      .error (.assertionError ("\n".intercalate (reportHeader "DELETE FROM \"sentry_user\"" ++
        ["start", "end", "DELETE FROM \"sentry_user\"", caret "DELETE FROM \"sentry_user\""]))) := rfl
  ⟨markerFence_ops, by decide, h, validateProtectedQueries_error markerFence_ops _ _ _ (by decide) h⟩

/-- The log `[D, SELECT 1, D, SELECT 2, SELECT 3, SELECT 4, SELECT 5]`, `D` a delete from `sentry_user` and no fence,
fails at its first entry.  The message lists the entries at positions 0 to 4 only, so not `SELECT 4` at position 5,
and a caret line follows the second `D` as well as the first. -/
theorem failureWindow_shortAndRepeated (ignoreCase : IgnoreCase) :
    validateProtectedQueries (fun _ => none) ignoreCase outboxPatterns
      [some "DELETE FROM \"sentry_user\"", some "SELECT 1", some "DELETE FROM \"sentry_user\"", some "SELECT 2",
        some "SELECT 3", some "SELECT 4", some "SELECT 5"] =
      .error (.assertionError ("\n".intercalate (reportHeader "DELETE FROM \"sentry_user\"" ++
        ["DELETE FROM \"sentry_user\"", caret "DELETE FROM \"sentry_user\"", "SELECT 1",
          "DELETE FROM \"sentry_user\"", caret "DELETE FROM \"sentry_user\"", "SELECT 2", "SELECT 3"]))) := by
  rw [validateProtectedQueries_ascii _ ignoreCase outboxPatterns_ascii (by decide)]
  rfl

end Silo
