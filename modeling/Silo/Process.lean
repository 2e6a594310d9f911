import Silo.FenceLaws
/-!
# Process — `validate_protected_queries` and the memo it shares

In the source the scan calls `get_protected_operations()` again for every statement it does not skip, right after
that statement's fence step, and the call reads the module-level memo `_protected_operations`.  Once a call has
returned a list, the memo holds that list and every later call returns it, so every validation of the process, in
any run of calls, scans against that one list (`validateProtectedQueries_sharedMemo`); the scan of `Fence`, which
takes the list as an argument, is this process's scan.  When the derivation raises instead, a validation raises its
error at the first statement it does not skip, unless that statement's fence step raises first, or has no such
statement and never consults the memo.
-/
namespace Silo
namespace Registry

variable (reg : Registry) (matchFenceQuery : String → Option String) (ignoreCase : IgnoreCase)

/-- The loop of `validate_protected_queries` as the process runs it: after the fence step of each statement it does
not skip, `for protected in get_protected_operations()` reads the memo, or derives it, or raises.  The outcome and
the memo afterwards. -/
def scanQueriesMemo (queries : List (Option String)) :
    Nat → FenceState → List Pattern → List (Option String) → Except Exc Unit × List Pattern
  | _, _, memo, [] => (pure (), memo)
  | index, st, memo, none :: rest => scanQueriesMemo queries (index + 1) st memo rest
  | index, st, memo, some sql :: rest =>
    match fenceStep matchFenceQuery st index sql with
    | .error e => (.error e, memo)
    | .ok st =>
      match reg.getProtectedOperations memo with
      | (.error e, memo) => (.error e, memo)
      | (.ok ops, memo) =>
        if ops.any (·.matches ignoreCase sql) && st.depth == 0 then
          (reportProtectedOperation queries index st.startFenceIndex sql, memo)
        else scanQueriesMemo queries (index + 1) st memo rest

/-- `validate_protected_queries(queries)` from the process memo `memo`: the outcome and the memo afterwards. -/
def validateProtectedQueriesMemo (memo : List Pattern) (queries : List (Option String)) :
    Except Exc Unit × List Pattern :=
  reg.scanQueriesMemo matchFenceQuery ignoreCase queries 0 ⟨0, 0⟩ memo queries

/-- Calls of `validate_protected_queries` one after another in one process, each from the memo the previous one
left. -/
def validateRun : List Pattern → List (List (Option String)) → List (Except Exc Unit)
  | _, [] => []
  | memo, log :: logs =>
    (reg.validateProtectedQueriesMemo matchFenceQuery ignoreCase memo log).1 ::
      validateRun (reg.validateProtectedQueriesMemo matchFenceQuery ignoreCase memo log).2 logs

/-- The memo's next `get_protected_operations()` returns `ops` and leaves `ops` in the memo. -/
def Settled (memo ops : List Pattern) : Prop := reg.getProtectedOperations memo = (.ok ops, ops)

variable {reg}

/-- A call that returns leaves the memo at the list it returns, which is not empty, so the memo stays settled. -/
theorem settled_of_ok {memo L memo' : List Pattern} (h : reg.getProtectedOperations memo = (.ok L, memo')) :
    memo' = L ∧ reg.Settled memo L ∧ reg.Settled L L := by
  have hne : L ≠ [] → reg.Settled L L := fun hL => by
    rw [Settled, getProtectedOperations, if_pos (by simpa using hL)]
  unfold getProtectedOperations at h
  split_ifs at h with hm
  · cases h
    exact ⟨rfl, by rw [Settled, getProtectedOperations, if_pos hm], hne (by simpa using hm)⟩
  · split at h
    · cases h
    · rename_i d hd
      simp only [Prod.mk.injEq, Except.ok.injEq] at h
      obtain ⟨rfl, rfl⟩ := h
      refine ⟨rfl, by rw [Settled, getProtectedOperations, if_neg hm, hd], hne ?_⟩
      simp [outboxPatterns]

/-- **From a settled memo the process scan is the scan against the settled list**, and it leaves the memo settled. -/
theorem scanQueriesMemo_settled {memo L : List Pattern} (hs : reg.Settled memo L) :
    ∀ (l queries : List (Option String)) (index : Nat) (st : FenceState),
      (reg.scanQueriesMemo matchFenceQuery ignoreCase queries index st memo l).1 =
        scanQueries matchFenceQuery (fun sql => L.any (·.matches ignoreCase sql)) queries index st l ∧
      reg.Settled (reg.scanQueriesMemo matchFenceQuery ignoreCase queries index st memo l).2 L := by
  have hL := (settled_of_ok hs).2.2
  intro l
  induction l generalizing memo with
  | nil => exact fun _ _ _ => ⟨rfl, hs⟩
  | cons x l ih =>
    intro queries index st
    cases x with
    | none => exact ih hs queries (index + 1) st
    | some sql =>
      rw [scanQueriesMemo, scanQueries]
      cases fenceStep matchFenceQuery st index sql with
      | error e => exact ⟨rfl, hs⟩
      | ok s₁ =>
        rw [hs, ok_bind]
        dsimp only
        split
        · exact ⟨rfl, hL⟩
        · exact ih hL queries (index + 1) s₁

/-- From a memo whose derivation raises, the process scan raises that error, or never consults the memo and does what
the scan against no pattern does. -/
theorem scanQueriesMemo_raising {memo P : List Pattern} {e : Exc} (he : reg.getProtectedOperations memo = (.error e, P)) :
    ∀ (l queries : List (Option String)) (index : Nat) (st : FenceState),
      reg.scanQueriesMemo matchFenceQuery ignoreCase queries index st memo l = (.error e, P) ∨
      reg.scanQueriesMemo matchFenceQuery ignoreCase queries index st memo l =
        (scanQueries matchFenceQuery (fun _ => false) queries index st l, memo)
  | [], _, _, _ => .inr rfl
  | none :: l, queries, index, st => scanQueriesMemo_raising he l queries (index + 1) st
  | some sql :: l, queries, index, st => by
    rw [scanQueriesMemo, scanQueries]
    cases fenceStep matchFenceQuery st index sql with
    | error e' => exact .inr rfl
    | ok s₁ =>
      rw [he]
      exact .inl rfl

/-- A run of validations from a settled memo is the scans against the settled list. -/
theorem validateRun_settled {L : List Pattern} :
    ∀ {memo : List Pattern}, reg.Settled memo L → ∀ logs,
      reg.validateRun matchFenceQuery ignoreCase memo logs = logs.map (validateProtectedQueries matchFenceQuery ignoreCase L)
  | _, _, [] => rfl
  | _, hs, log :: logs => by
    obtain ⟨h₁, h₂⟩ := scanQueriesMemo_settled matchFenceQuery ignoreCase hs log log 0 ⟨0, 0⟩
    rw [validateRun, List.map_cons, validateProtectedQueriesMemo, h₁, validateRun_settled h₂ logs]
    rfl

/-- **Every validation of a process scans against the one list the memo's next call returns.**  When the memo's next
`get_protected_operations()` returns a list, every call of `validate_protected_queries` in any later run of calls
behaves as the scan against that list: a call refills no memo and changes no later verdict.  When it raises, a
validation raises that error and leaves the memo that call left, or consults no memo and does what the scan against
no pattern does. -/
theorem validateProtectedQueries_sharedMemo (memo : List Pattern) :
    (∀ L memo', reg.getProtectedOperations memo = (.ok L, memo') →
      ∀ logs, reg.validateRun matchFenceQuery ignoreCase memo logs = logs.map (validateProtectedQueries matchFenceQuery ignoreCase L)) ∧
    (∀ e P, reg.getProtectedOperations memo = (.error e, P) → ∀ log,
      reg.validateProtectedQueriesMemo matchFenceQuery ignoreCase memo log = (.error e, P) ∨
        reg.validateProtectedQueriesMemo matchFenceQuery ignoreCase memo log =
          (validateProtectedQueries matchFenceQuery ignoreCase [] log, memo)) :=
  ⟨fun _ _ h => validateRun_settled matchFenceQuery ignoreCase (settled_of_ok h).2.1,
    fun _ _ he log => scanQueriesMemo_raising matchFenceQuery ignoreCase he log log 0 ⟨0, 0⟩⟩

/-- After `lookupRegistry`'s first call has raised, its memo holds `B`'s delete pattern alone; a run of two validations
from that memo scans both logs against that pattern only. -/
theorem lookupRegistry_sharedMemo :
    lookupRegistry.validateRun markerFence .asciiLower [protectedTable "sentry_b" "delete"]
        [[some "DELETE FROM \"sentry_b\""], [some "DELETE FROM \"sentry_user\""]] =
      [validateProtectedQueries markerFence .asciiLower [protectedTable "sentry_b" "delete"] [some "DELETE FROM \"sentry_b\""],
        validateProtectedQueries markerFence .asciiLower [protectedTable "sentry_b" "delete"] [some "DELETE FROM \"sentry_user\""]] :=
  (@validateProtectedQueries_sharedMemo lookupRegistry markerFence .asciiLower [protectedTable "sentry_b" "delete"]).1
    [protectedTable "sentry_b" "delete"] [protectedTable "sentry_b" "delete"] rfl _

end Registry
end Silo
