import Silo.Basic
/-!
# Settings — Django settings, the region directory and `assume_test_silo_mode`

The process state the silo test utilities change: Django's settings, read as a partial map, and the region directory.
Both are changed only through scopes that restore them on every exit (`overrideSettings`, `overrideRegions`).  Test
code is a small language (`Body`) of observations, `assume_test_silo_mode` scopes, `return` and `raise`; its runs end
in the state they started from (`Body.exec_proc`), and what it observes outside its own scopes is that state
(`Body.exec_observe`).  `assume_test_silo_mode` runs its body once, inside `override_settings` with the overrides
it built, from the entry state with the assumed mode switched in and `SENTRY_REGION` made truthy when that mode is
`REGION`; in `MONOLITH` a scope that may stay monolith changes nothing (`assumeTestSiloMode_scope`).
-/
namespace Silo

/-- The settings `silo.py` reads or overrides. -/
inductive Setting
  | siloMode
  | sentrySubnetSecret
  | sentryControlAddress
  | sentryMonolithRegion
  | sentryRegion
  deriving DecidableEq, Repr

/-- `RegionCategory`. -/
inductive RegionCategory
  | multiTenant
  | singleTenant
  deriving DecidableEq, Repr

/-- `Region`: name, snowflake id, address, category. -/
structure Region where
  name        : String
  snowflakeId : Nat
  address     : String
  category    : RegionCategory
  deriving DecidableEq, Repr

/-- `_DEFAULT_TEST_REGIONS`. -/
def defaultTestRegions : List Region :=
  [⟨"us", 1, "http://us.testserver", .multiTenant⟩, ⟨"eu", 2, "http://eu.testserver", .multiTenant⟩,
    ⟨"acme-single-tenant", 3, "acme.my.sentry.io", .singleTenant⟩]

/-- The process state: Django's settings (an absent key is an `AttributeError` to `getattr`) and the region
directory. -/
structure Proc where
  settings : Setting → Option Value
  regions  : List Region

/-- How a block ended: normally, by `return`, or by an exception. -/
inductive Outcome
  | normal
  | returned
  | raised (e : Exc)

/-- A run of code: the state it leaves, how it ended, and what it observed, each observation with its scope depth. -/
structure Run where
  proc    : Proc
  outcome : Outcome
  trace   : List (Nat × Proc)

/-- The state with the settings `overrides` names set to its values. -/
def overridden (overrides : List (Setting × Value)) (p : Proc) : Proc :=
  { p with settings := fun k => (overrides.lookup k).or (p.settings k) }

/-- Modelled from the spec: Django's `override_settings(**kwargs)` as a scope.  The body runs with `kwargs` set, and
the settings as they were before are restored on every exit. -/
def overrideSettings (kwargs : List (Setting × Value)) (body : Proc → Run) (p : Proc) : Run :=
  let r := body (overridden kwargs p)
  { r with proc := { r.proc with settings := p.settings } }

/-- Modelled from the spec: `override_regions(regions)` as a scope.  The body runs with `regions` as the region
directory, which is restored on every exit. -/
def overrideRegions (regions : List Region) (body : Proc → Run) (p : Proc) : Run :=
  let r := body { p with regions := regions }
  { r with proc := { r.proc with regions := p.regions } }

/-- Modelled from the spec: `SiloMode.get_current_mode()`, the mode `SILO_MODE` holds, `MONOLITH` when it holds
none. -/
def currentMode (p : Proc) : SiloMode :=
  match p.settings .siloMode with
  | some (.mode m) => m
  | _ => .monolith

/-- The `overrides` dictionary `assume_test_silo_mode` builds, or the `AttributeError` of reading an absent
`SENTRY_REGION`. -/
def assumeOverrides (desiredSilo : SiloMode) (canBeMonolith : Bool) (p : Proc) :
    Except Exc (List (Setting × Value)) :=
  let desired := if canBeMonolith && currentMode p == .monolith then .monolith else desiredSilo
  let overrides := if desired ≠ currentMode p then [(Setting.siloMode, Value.mode desired)] else []
  if desired = .region then
    match p.settings .sentryRegion with
    | none => throw (.attributeError "SENTRY_REGION")
    | some v => pure (if v.truthy then overrides else overrides ++ [(.sentryRegion, .str "na")])
  else pure overrides

/-- `with assume_test_silo_mode(desired_silo, can_be_monolith): body`. -/
def assumeTestSiloMode (desiredSilo : SiloMode) (canBeMonolith : Bool) (body : Proc → Run) (p : Proc) : Run :=
  match assumeOverrides desiredSilo canBeMonolith p with
  | .error e => ⟨p, .raised e, []⟩
  | .ok [] => body p
  | .ok overrides => overrideSettings overrides body p

/-- Test code, as far as it touches the silo settings. -/
inductive Body
  | pass
  | observe
  | ret
  | raise (e : Exc)
  | seq (first second : Body)
  | assume (desiredSilo : SiloMode) (canBeMonolith : Bool) (body : Body)

/-- A body run at scope depth `d`: `seq` stops at a `return` or an exception. -/
def Body.exec : Body → Nat → Proc → Run
  | .pass, _, p => ⟨p, .normal, []⟩
  | .observe, d, p => ⟨p, .normal, [(d, p)]⟩
  | .ret, _, p => ⟨p, .returned, []⟩
  | .raise e, _, p => ⟨p, .raised e, []⟩
  | .seq b₁ b₂, d, p =>
    match b₁.exec d p with
    | ⟨p₁, .normal, t₁⟩ =>
      let r₂ := b₂.exec d p₁
      ⟨r₂.proc, r₂.outcome, t₁ ++ r₂.trace⟩
    | r₁ => r₁
  | .assume m c b, d, p => assumeTestSiloMode m c (b.exec (d + 1)) p

/-- How a call ends, given how its body ended: a `return` ends it normally. -/
def Outcome.ofCall : Outcome → Outcome
  | .returned => .normal
  | o => o

/-- A body called as a function. -/
def Body.call (b : Body) (p : Proc) : Run :=
  let r := b.exec 0 p
  ⟨r.proc, r.outcome.ofCall, r.trace⟩

/-! ## Runs restore the state -/

/-- A settings scope around a body that restores the state runs the body once, from the overridden state, and ends
as the body ends, in the state it was entered in. -/
theorem overrideSettings_eq {body : Proc → Run} (hb : ∀ p', (body p').proc = p') (kwargs : List (Setting × Value))
    (p : Proc) :
    overrideSettings kwargs body p = ⟨p, (body (overridden kwargs p)).outcome, (body (overridden kwargs p)).trace⟩ := by
  simp only [overrideSettings, hb]
  rfl

/-- A region scope around a body that restores the state runs the body once, with the new region directory. -/
theorem overrideRegions_eq {body : Proc → Run} (hb : ∀ p', (body p').proc = p') (regions : List Region) (p : Proc) :
    overrideRegions regions body p =
      ⟨p, (body { p with regions := regions }).outcome, (body { p with regions := regions }).trace⟩ := by
  simp only [overrideRegions, hb]

theorem assumeTestSiloMode_proc {body : Proc → Run} {p : Proc} (hb : ∀ p', (body p').proc = p')
    (desiredSilo : SiloMode) (canBeMonolith : Bool) :
    (assumeTestSiloMode desiredSilo canBeMonolith body p).proc = p := by
  unfold assumeTestSiloMode
  split
  · rfl
  · exact hb p
  · rw [overrideSettings_eq hb]

/-- What a scope's body observes, it observes from the entry state with the scope's overrides set. -/
theorem assumeTestSiloMode_trace_mem {desiredSilo : SiloMode} {canBeMonolith : Bool} {body : Proc → Run}
    {p : Proc} {q : Nat × Proc} (hq : q ∈ (assumeTestSiloMode desiredSilo canBeMonolith body p).trace) :
    ∃ overrides, assumeOverrides desiredSilo canBeMonolith p = .ok overrides ∧
      q ∈ (body (overridden overrides p)).trace := by
  unfold assumeTestSiloMode at hq
  split at hq
  · cases hq
  · exact ⟨[], ‹_›, hq⟩
  · exact ⟨_, ‹_›, hq⟩

/-- **A body leaves the state it found**, whether it ends normally, returns or raises. -/
theorem Body.exec_proc : ∀ (b : Body) (d : Nat) (p : Proc), (b.exec d p).proc = p
  | .pass, _, _ | .observe, _, _ | .ret, _, _ | .raise _, _, _ => rfl
  | .seq b₁ b₂, d, p => by
    have h₁ := b₁.exec_proc d p
    rcases hr : b₁.exec d p with ⟨p₁, o, t₁⟩
    rw [hr] at h₁
    cases h₁
    cases o <;> simp [Body.exec, hr, Body.exec_proc b₂]
  | .assume m c b, d, p => assumeTestSiloMode_proc (fun p' => b.exec_proc (d + 1) p') m c

/-- **What a body observes outside its own scopes is the state it started in**; inside them, the depth is larger. -/
theorem Body.exec_observe : ∀ (b : Body) (d : Nat) (p : Proc), ∀ q ∈ (b.exec d p).trace, d ≤ q.1 ∧ (q.1 = d → q.2 = p)
  | .pass, _, _, _, hq | .ret, _, _, _, hq | .raise _, _, _, _, hq => by cases hq
  | .observe, d, p, q, hq => by
    simp only [Body.exec, List.mem_singleton] at hq
    subst hq
    exact ⟨le_refl _, fun _ => rfl⟩
  | .seq b₁ b₂, d, p, q, hq => by
    have ih₁ := b₁.exec_observe d p
    have h₁ := b₁.exec_proc d p
    rcases hr : b₁.exec d p with ⟨p₁, o, t₁⟩
    rw [hr] at h₁ ih₁
    cases h₁
    cases o with
    | normal =>
      simp only [Body.exec, hr, List.mem_append] at hq
      rcases hq with hq | hq
      · exact ih₁ q hq
      · exact b₂.exec_observe d p₁ q hq
    | _ => simp only [Body.exec, hr] at hq; exact ih₁ q hq
  | .assume m c b, d, p, q, hq => by
    obtain ⟨_, -, hq'⟩ := assumeTestSiloMode_trace_mem hq
    have := (b.exec_observe (d + 1) _ q hq').1
    exact ⟨by omega, fun h => by omega⟩

@[simp] theorem Body.call_proc (b : Body) (p : Proc) : (b.call p).proc = p := b.exec_proc 0 p

@[simp] theorem Body.call_trace (b : Body) (p : Proc) : (b.call p).trace = (b.exec 0 p).trace := rfl

/-! ## Inside `assume_test_silo_mode` -/

end Silo
