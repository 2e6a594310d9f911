import Silo.Settings
/-!
# Modification — `_SiloModeTestModification`: configurations, sibling classes and parametrized functions

`test_config(silo_mode)` nests two settings overrides and a region override around the code inside, so it runs that
code once, from a state with the configured settings and region directory, ends as the code's run ends, and leaves
the settings and the region directory as it found them (`testConfig_restores`).  A decorated class runs its setup
and test method inside it; a decorated function is parametrized over the silo modes and runs inside it on the call
without `silo_mode` (`replacementTestMethod_call`), also when the function itself declares `silo_mode`.

The three test-name suffixes differ in the letter before `Mode`, so none ends another: `strip_silo_mode_test_suffix`
takes back exactly the suffix a generated sibling class was given, and a name either ends in no suffix or in exactly
one (`siloModeTestSuffix_roundTrip`).  The classes one class expands to run distinct modes under distinct names
(`addSiloedTestClassesToModule_expansion`).
-/
namespace Silo

/-- `_get_test_name_suffix(silo_mode)`: `__In`, the mode's name capitalized, `Mode`. -/
def getTestNameSuffix (m : SiloMode) : String :=
  "__In" ++ String.mk ((m.name.toList.take 1).map Char.toUpper) ++
    String.mk ((m.name.toList.drop 1).map Char.toLower) ++ "Mode"

/-- `strip_silo_mode_test_suffix(name)`: the name without the first mode's suffix it ends with. -/
def stripSiloModeTestSuffix (name : String) : String :=
  match SiloMode.all.find? (fun m => endswith name (getTestNameSuffix m)) with
  | some m => String.mk (name.toList.take (name.length - (getTestNameSuffix m).length))
  | none => name

/-- `_SiloModeTestModification`: the non-monolith modes, the region topology, `stable`, and the two switches. -/
structure SiloModeTestModification where
  siloModes                  : List SiloMode
  regions                    : List Region
  stable                     : Bool
  includeMonolithRun         : Bool := true
  runOriginalClassInSiloMode : Bool := false

/-- A callable of a test class: code under test, or `decorate_with_context`'s wrapper around a callable. -/
inductive Callable
  | code (b : Body)
  | withContext (mod : SiloModeTestModification) (siloMode : SiloMode) (c : Callable)

/-- The hidden methods through which a `TestCase` runs one test. -/
structure TestMethods where
  callSetUp      : Callable
  callTestMethod : Callable

/-- A class `_create_overriding_test_class` builds: named `name`, a subclass of `base`, running the base's hidden
methods inside `mod.test_config(siloMode)`. -/
structure OverridingClass (C : Type) where
  name     : String
  base     : C
  mod      : SiloModeTestModification
  siloMode : SiloMode

/-- The kind of a signature parameter, in the order `inspect.Signature` requires. -/
inductive ParamKind
  | positionalOnly
  | positionalOrKeyword
  | varPositional
  | keywordOnly
  | varKeyword
  deriving DecidableEq, Repr

/-- An `inspect.Parameter`: name and kind. -/
structure Param where
  name : String
  kind : ParamKind
  deriving DecidableEq, Repr

/-- A call's arguments: the positional ones, and the keyword ones in order. -/
structure Call where
  args   : List Value
  kwargs : List (String × Value)

/-- A test function: its signature's parameters, and what its body does on a call (a call that does not bind to the
signature runs as the `TypeError` Python raises). -/
structure TestFunction where
  params : List Param
  body   : Call → Body

/-- What `_mark_parameterized_by_silo_mode` returns: the wrapper around `fn`, the signature it advertises, and the
values `pytest.mark.parametrize("silo_mode", ...)` gives it. -/
structure Parametrized where
  mod       : SiloModeTestModification
  fn        : TestFunction
  signature : List Param
  argvalues : List SiloMode

namespace SiloModeTestModification

variable (mod : SiloModeTestModification)

/-- `test_config(silo_mode)` around `body`. -/
def testConfig (siloMode : Value) (body : Proc → Run) (p : Proc) : Run :=
  match mod.regions with
  | [] => ⟨p, .raised (.indexError "tuple index out of range"), []⟩
  | r₀ :: _ =>
    overrideSettings [(.siloMode, siloMode), (.sentrySubnetSecret, .str "secret"),
        (.sentryControlAddress, .str "http://controlserver/"), (.sentryMonolithRegion, .str r₀.name)]
      (overrideRegions mod.regions
        (if siloMode = .mode .region then overrideSettings [(.sentryRegion, .str r₀.name)] body else body)) p

/-- `_create_overriding_test_class(test_class, silo_mode, name_suffix)`. -/
def createOverridingTestClass {C : Type} (testClass : C) (className : String) (siloMode : SiloMode)
    (nameSuffix : String := "") : OverridingClass C :=
  ⟨className ++ nameSuffix, testClass, mod, siloMode⟩

/-- `_arrange_silo_modes()`: the primary mode and the secondary ones. -/
def arrangeSiloModes : SiloMode × List SiloMode :=
  match mod.siloModes with
  | [m] =>
    if !mod.includeMonolithRun then (m, [])
    else if mod.runOriginalClassInSiloMode then (m, [.monolith])
    else (.monolith, mod.siloModes)
  | _ => (.monolith, mod.siloModes)

/-- `_add_siloed_test_classes_to_module(test_class)`: the sibling classes set on the module, one per secondary mode,
and the class returned for the primary mode. -/
def addSiloedTestClassesToModule {C : Type} (testClass : C) (className : String) :
    List (OverridingClass C) × OverridingClass C :=
  (mod.arrangeSiloModes.2.map fun m => mod.createOverridingTestClass testClass className m (getTestNameSuffix m),
    mod.createOverridingTestClass testClass className mod.arrangeSiloModes.1)

/-- `kwargs.pop(key)`: the value and the remaining keyword arguments, or nothing (a `KeyError`). -/
def popKwarg (key : String) : List (String × Value) → Option (Value × List (String × Value))
  | [] => none
  | (k, v) :: rest =>
    if k = key then some (v, rest) else (popKwarg key rest).map fun r => (r.1, (k, v) :: r.2)

/-- `replacement_test_method(*args, **kwargs)`: pop `silo_mode`, then call the test function inside
`test_config(silo_mode)`. -/
def replacementTestMethod (f : TestFunction) (call : Call) (p : Proc) : Run :=
  match popKwarg "silo_mode" call.kwargs with
  | none => ⟨p, .raised (.keyError "silo_mode"), []⟩
  | some (siloMode, kwargs) => mod.testConfig siloMode (f.body ⟨call.args, kwargs⟩).call p

/-- The signature pytest reads: the function's own when it has a `silo_mode` parameter, else its own with a
keyword-only `silo_mode` appended, which `Signature.replace` refuses after a `**kwargs` parameter. -/
def advertisedSignature (params : List Param) : Except Exc (List Param) :=
  if params.any (·.name == "silo_mode") then pure params
  else if params.any (·.kind == .varKeyword) then
    throw (.valueError "wrong parameter order: variadic keyword parameter before keyword-only parameter")
  else pure (params ++ [⟨"silo_mode", .keywordOnly⟩])

/-- `sorted(self.silo_modes | frozenset([SiloMode.MONOLITH]), key=str)`. -/
def parametrizedModes : List SiloMode :=
  [SiloMode.control, .monolith, .region].filter fun m => m = .monolith ∨ m ∈ mod.siloModes

/-- `_mark_parameterized_by_silo_mode(test_method)`. -/
def markParameterizedBySiloMode (f : TestFunction) : Except Exc Parametrized := do
  let signature ← advertisedSignature f.params
  pure ⟨mod, f, signature, mod.parametrizedModes⟩

end SiloModeTestModification

/-- A call of the parametrized test. -/
def Parametrized.run (pt : Parametrized) (call : Call) (p : Proc) : Run :=
  pt.mod.replacementTestMethod pt.fn call p

/-- A callable run: the wrapper runs the wrapped callable inside `test_config`. -/
def Callable.run : Callable → Proc → Run
  | .code b, p => b.call p
  | .withContext mod m c, p => mod.testConfig (.mode m) c.run p

/-- The hidden methods of an overriding class, from its base's. -/
def OverridingClass.methods {C : Type} (oc : OverridingClass C) (base : TestMethods) : TestMethods :=
  ⟨.withContext oc.mod oc.siloMode base.callSetUp, .withContext oc.mod oc.siloMode base.callTestMethod⟩

/-- Executions run one after another in one process, each from the state the previous one left. -/
def runSequence : List (Proc → Run) → Proc → List Run
  | [], _ => []
  | e :: es, p => e p :: runSequence es (e p).proc

/-! ## `test_config` restores the process state -/

/-- The state `test_config(m)` runs its code in, entered from `p` with the region topology `r₀ :: rs`: the four
settings it overrides, `SENTRY_REGION = r₀.name` for `REGION` and as on entry otherwise, and the topology as the
region directory. -/
structure ConfiguredState (p : Proc) (m : SiloMode) (r₀ : Region) (rs : List Region) (q : Proc) : Prop where
  siloMode       : q.settings .siloMode = some (.mode m)
  subnetSecret   : q.settings .sentrySubnetSecret = some (.str "secret")
  controlAddress : q.settings .sentryControlAddress = some (.str "http://controlserver/")
  monolithRegion : q.settings .sentryMonolithRegion = some (.str r₀.name)
  region         : m = .region → q.settings .sentryRegion = some (.str r₀.name)
  otherRegion    : m ≠ .region → q.settings .sentryRegion = p.settings .sentryRegion
  regions        : q.regions = r₀ :: rs

/-- What running `b` under `test_config(m)` from state `p` comes to: `b` runs once, from a configured state `q`; the
run ends as `b`'s run from `q` ends, with its observations, in the state `p` it started from; and every observation
`b` makes outside its own scopes sees `q`. -/
def ConfiguredRun (p : Proc) (m : SiloMode) (r₀ : Region) (rs : List Region) (b : Body) (r : Run) : Prop :=
  ∃ q, ConfiguredState p m r₀ rs q ∧ r = ⟨p, (b.call q).outcome, (b.call q).trace⟩ ∧
    ∀ x ∈ r.trace, x.1 = 0 → x.2 = q

namespace SiloModeTestModification

variable (mod : SiloModeTestModification)

/-- **`test_config` restores the settings and the region directory**, whatever runs inside it. -/
theorem testConfig_proc (siloMode : Value) (body : Proc → Run) (p : Proc) : (mod.testConfig siloMode body p).proc = p := by
  unfold testConfig
  split
  · rfl
  · simp [overrideSettings, overrideRegions, overridden]

/-- `test_config(m)` around code that restores the state runs it once, from a configured state. -/
theorem testConfig_eq {body : Proc → Run} (hb : ∀ p', (body p').proc = p') {r₀ : Region} {rs : List Region}
    (hreg : mod.regions = r₀ :: rs) (m : SiloMode) (p : Proc) :
    ∃ q, ConfiguredState p m r₀ rs q ∧ mod.testConfig (.mode m) body p = ⟨p, (body q).outcome, (body q).trace⟩ := by
  have hregions {body' : Proc → Run} (h : ∀ p', (body' p').proc = p') (p' : Proc) :
      (overrideRegions (r₀ :: rs) body' p').proc = p' := by
    rw [overrideRegions_eq h]
  simp only [testConfig, hreg]
  by_cases hm : m = .region
  · subst hm
    have hin (p' : Proc) : (overrideSettings [(.sentryRegion, .str r₀.name)] body p').proc = p' := by
      rw [overrideSettings_eq hb]
    rw [if_pos rfl, overrideSettings_eq (hregions hin), overrideRegions_eq hin, overrideSettings_eq hb]
    refine ⟨_, ?_, rfl⟩
    exact ⟨rfl, rfl, rfl, rfl, fun _ => rfl, fun h => absurd rfl h, rfl⟩
  · rw [if_neg (by simpa using hm), overrideSettings_eq (hregions hb), overrideRegions_eq hb]
    refine ⟨_, ?_, rfl⟩
    exact ⟨rfl, rfl, rfl, rfl, fun h => absurd h hm, fun _ => rfl, rfl⟩

theorem testConfig_configured {r₀ : Region} {rs : List Region} (hreg : mod.regions = r₀ :: rs) (m : SiloMode)
    (b : Body) (p : Proc) : ConfiguredRun p m r₀ rs b (mod.testConfig (.mode m) b.call p) := by
  obtain ⟨q, hq, heq⟩ := mod.testConfig_eq b.call_proc hreg m p
  refine ⟨q, hq, heq, fun x hx hx0 => ?_⟩
  rw [heq] at hx
  exact (b.exec_observe 0 q x hx).2 hx0

/-- Executions that each restore the state they start from all start from the same state. -/
theorem runSequence_of_restoring : ∀ (es : List (Proc → Run)) (p : Proc), (∀ e ∈ es, ∀ p', (e p').proc = p') →
    runSequence es p = es.map (· p)
  | [], _, _ => rfl
  | e :: es, p, h => by
    rw [runSequence, h e (List.mem_cons_self _ _) p,
      runSequence_of_restoring es p fun e' he' => h e' (List.mem_cons_of_mem _ he'), List.map_cons]

/-- **`test_config` isolates every execution.**  With a non-empty region topology, test code run inside
`test_config(m)` directly, through the hidden methods of an overriding class, or through the parametrized function
called with `silo_mode = m`, runs once, from a state with the configured settings and region directory, and the run
ends as the code's run from there ends but leaves the settings and the region directory as it found them; outside its
own scopes the code sees the configured state.  So executions run one after another all start from the same state. -/
theorem testConfig_restores {r₀ : Region} {rs : List Region} (hreg : mod.regions = r₀ :: rs) (m : SiloMode)
    (p : Proc) :
    (∀ b : Body, ConfiguredRun p m r₀ rs b (mod.testConfig (.mode m) b.call p)) ∧
    (∀ {C : Type} (testClass : C) (className : String) (b₁ b₂ : Body),
      ConfiguredRun p m r₀ rs b₁ (((mod.createOverridingTestClass testClass className m).methods
          ⟨.code b₁, .code b₂⟩).callSetUp.run p) ∧
        ConfiguredRun p m r₀ rs b₂ (((mod.createOverridingTestClass testClass className m).methods
          ⟨.code b₁, .code b₂⟩).callTestMethod.run p)) ∧
    (∀ (f : TestFunction) (args : List Value) (kwargs rest : List (String × Value)),
      popKwarg "silo_mode" kwargs = some (.mode m, rest) →
        ConfiguredRun p m r₀ rs (f.body ⟨args, rest⟩) (mod.replacementTestMethod f ⟨args, kwargs⟩ p)) ∧
    (∀ executions : List (SiloModeTestModification × SiloMode × Body),
      runSequence (executions.map fun e => e.1.testConfig (.mode e.2.1) e.2.2.call) p =
        executions.map fun e => e.1.testConfig (.mode e.2.1) e.2.2.call p) := by
  refine ⟨fun b => mod.testConfig_configured hreg m b p, fun _ _ b₁ b₂ => ⟨mod.testConfig_configured hreg m b₁ p,
    mod.testConfig_configured hreg m b₂ p⟩, fun f args kwargs rest h => ?_, fun executions => ?_⟩
  · simp only [replacementTestMethod, h]
    exact mod.testConfig_configured hreg m _ p
  · rw [runSequence_of_restoring _ p, List.map_map]
    · rfl
    · simp only [List.mem_map]
      rintro _ ⟨e, -, rfl⟩ p'
      exact e.1.testConfig_proc _ _ p'

/-- A `CONTROL` run of code under the default topology runs it from `SILO_MODE = CONTROL` and the monolith region
`us`. -/
theorem defaultTopology_configured :
    ConfiguredRun ⟨fun _ => none, []⟩ .control ⟨"us", 1, "http://us.testserver", .multiTenant⟩ defaultTestRegions.tail
      .observe ((⟨[.control], defaultTestRegions, true, true, false⟩ : SiloModeTestModification).testConfig
        (.mode .control) Body.observe.call ⟨fun _ => none, []⟩) :=
  (testConfig_restores ⟨[.control], defaultTestRegions, true, true, false⟩ rfl .control ⟨fun _ => none, []⟩).1 .observe

/-! ## The parametrized function -/

theorem popKwarg_eq {key : String} {v : Value} : ∀ {kwargs : List (String × Value)},
    (kwargs.map Prod.fst).Nodup → (key, v) ∈ kwargs → popKwarg key kwargs = some (v, kwargs.filter (·.1 != key))
  | (k, v') :: rest, hnd, hmem => by
    simp only [List.map_cons, List.nodup_cons, List.mem_map] at hnd
    by_cases hk : k = key
    · subst hk
      have hv : v = v' := by
        rcases List.mem_cons.1 hmem with h | h
        · exact (Prod.mk.inj h).2
        · exact absurd ⟨_, h, rfl⟩ hnd.1
      have hrest : rest.filter (·.1 != k) = rest :=
        List.filter_eq_self.2 fun kv hkv => by simpa using fun h => hnd.1 ⟨kv, hkv, h⟩
      simp [popKwarg, hv, hrest]
    · have hmem' : (key, v) ∈ rest := by
        rcases List.mem_cons.1 hmem with h | h
        · exact absurd (Prod.mk.inj h).1.symm hk
        · exact h
      simp [popKwarg, hk, popKwarg_eq hnd.2 hmem']

/-- **The parametrized function runs the test function once, inside `test_config(m)`, on the call without
`silo_mode`**: the positional arguments and every other keyword argument are passed on unchanged and in order. -/
theorem replacementTestMethod_call (f : TestFunction) (args : List Value) (kwargs : List (String × Value))
    (m : SiloMode) (hnd : (kwargs.map Prod.fst).Nodup) (hm : ("silo_mode", .mode m) ∈ kwargs) :
    mod.replacementTestMethod f ⟨args, kwargs⟩ =
      mod.testConfig (.mode m) (f.body ⟨args, kwargs.filter (·.1 != "silo_mode")⟩).call := by
  funext p
  simp [replacementTestMethod, popKwarg_eq hnd hm]

/-- **A test function that declares `silo_mode` never receives it**: its own signature is the one advertised, pytest
passes `silo_mode = CONTROL`, and the wrapper pops it and calls the function with no argument at all. -/
theorem declaredSiloMode_dropped (body : Call → Body) :
    advertisedSignature [⟨"silo_mode", .keywordOnly⟩] = .ok [⟨"silo_mode", .keywordOnly⟩] ∧
      mod.replacementTestMethod ⟨[⟨"silo_mode", .keywordOnly⟩], body⟩ ⟨[], [("silo_mode", .mode .control)]⟩ =
        mod.testConfig (.mode .control) (body ⟨[], []⟩).call :=
  ⟨rfl, rfl⟩

end SiloModeTestModification

/-! ## Sibling class names decode back -/

/-- The letter before `Mode` tells the three suffixes apart: none is a suffix of another's. -/
theorem getTestNameSuffix_suffix {m m' : SiloMode}
    (h : (getTestNameSuffix m).toList <:+ (getTestNameSuffix m').toList) : m = m' := by
  cases m <;> cases m' <;> first | rfl | exact absurd h (by decide)

/-- A name built with `m`'s suffix ends with that mode's suffix and with no other's. -/
theorem endswith_getTestNameSuffix (name : String) (m m' : SiloMode) :
    endswith (name ++ getTestNameSuffix m) (getTestNameSuffix m') = decide (m' = m) := by
  rw [Bool.eq_iff_iff, decide_eq_true_iff, endswith, List.isSuffixOf_iff_suffix]
  change _ <:+ (name ++ _).data ↔ _
  rw [String.data_append]
  constructor
  · intro h
    rcases List.suffix_or_suffix_of_suffix h (List.suffix_append _ _) with h' | h'
    · exact getTestNameSuffix_suffix h'
    · exact (getTestNameSuffix_suffix h').symm
  · rintro rfl
    exact List.suffix_append _ _

theorem stripSiloModeTestSuffix_append (name : String) (m : SiloMode) :
    stripSiloModeTestSuffix (name ++ getTestNameSuffix m) = name := by
  have hfind : SiloMode.all.find? (fun m' => endswith (name ++ getTestNameSuffix m) (getTestNameSuffix m')) =
      some m := by
    cases m <;> simp [SiloMode.all, endswith_getTestNameSuffix]
  rw [stripSiloModeTestSuffix, hfind]
  dsimp only
  rw [String.length_append, Nat.add_sub_cancel]
  apply String.ext
  change List.take name.length (name ++ _).data = name.data
  rw [String.data_append]
  exact List.take_left' rfl

theorem stripSiloModeTestSuffix_cases (x : String) :
    ((∀ m, endswith x (getTestNameSuffix m) = false) ∧ stripSiloModeTestSuffix x = x) ∨
      ∃! m, x = stripSiloModeTestSuffix x ++ getTestNameSuffix m := by
  cases hfind : SiloMode.all.find? (fun m => endswith x (getTestNameSuffix m)) with
  | none =>
    refine .inl ⟨fun m => ?_, by rw [stripSiloModeTestSuffix, hfind]⟩
    simpa using List.find?_eq_none.1 hfind m (SiloMode.mem_all m)
  | some m =>
    obtain ⟨y, rfl⟩ : ∃ y, x = y ++ getTestNameSuffix m := by
      have he := @List.find?_some _ (fun m => endswith x (getTestNameSuffix m)) m SiloMode.all hfind
      obtain ⟨l, hl⟩ := List.isSuffixOf_iff_suffix.1 he
      exact ⟨String.mk l, String.ext (by rw [String.data_append]; exact hl.symm)⟩
    refine .inr ⟨m, by rw [stripSiloModeTestSuffix_append], fun m' hm' => ?_⟩
    simp only [stripSiloModeTestSuffix_append] at hm'
    have h := endswith_getTestNameSuffix y m' m'
    rw [← hm', endswith_getTestNameSuffix] at h
    simpa using h

/-- **Sibling class names decode back.**  Stripping undoes appending any mode's suffix, for every name; any other
string either ends with no mode's suffix and is left as it is, or is its stripped form followed by exactly one mode's
suffix.  So every sibling class `_add_siloed_test_classes_to_module` sets on the module strips back to the name of
the class it was made from. -/
theorem siloModeTestSuffix_roundTrip :
    (∀ (name : String) (m : SiloMode), stripSiloModeTestSuffix (name ++ getTestNameSuffix m) = name) ∧
    (∀ x : String, ((∀ m, endswith x (getTestNameSuffix m) = false) ∧ stripSiloModeTestSuffix x = x) ∨
      ∃! m, x = stripSiloModeTestSuffix x ++ getTestNameSuffix m) ∧
    ∀ (mod : SiloModeTestModification) {C : Type} (testClass : C) (className : String),
      ∀ oc ∈ (mod.addSiloedTestClassesToModule testClass className).1, stripSiloModeTestSuffix oc.name = className :=
  ⟨stripSiloModeTestSuffix_append, stripSiloModeTestSuffix_cases, fun _ _ _ className _ hoc => by
    obtain ⟨m, -, rfl⟩ := List.mem_map.1 hoc
    exact stripSiloModeTestSuffix_append className m⟩

/-- The docstring's `MyTest__InControlMode` decodes back to `MyTest`. -/
example : stripSiloModeTestSuffix "MyTest__InControlMode" = "MyTest" := by decide

/-! ## What one class expands to -/

theorem getTestNameSuffix_injective : Function.Injective getTestNameSuffix := fun _ _ h =>
  getTestNameSuffix_suffix (h ▸ List.suffix_refl _)

theorem getTestNameSuffix_length_pos (m : SiloMode) : 0 < (getTestNameSuffix m).length := by
  cases m <;> decide

/-- Sibling classes of one class get distinct names. -/
theorem append_getTestNameSuffix_injective (name : String) : Function.Injective fun m => name ++ getTestNameSuffix m :=
  fun _ _ h => getTestNameSuffix_injective <| String.ext <| List.append_cancel_left <| by
    simpa only [String.data_append] using congrArg String.data h

namespace SiloModeTestModification

variable {mod : SiloModeTestModification}

theorem parametrizedModes_mem (m : SiloMode) : m ∈ mod.parametrizedModes ↔ m = .monolith ∨ m ∈ mod.siloModes := by
  rw [parametrizedModes, List.mem_filter, decide_eq_true_iff]
  exact and_iff_right (by cases m <;> decide)

theorem arrangeSiloModes_modes (hnd : mod.siloModes.Nodup) (hmono : .monolith ∉ mod.siloModes) :
    (mod.arrangeSiloModes.1 :: mod.arrangeSiloModes.2).Nodup ∧
      ∀ m, m ∈ mod.arrangeSiloModes.1 :: mod.arrangeSiloModes.2 ↔
        m ∈ mod.siloModes ∨ (m = .monolith ∧ ¬(mod.siloModes.length = 1 ∧ mod.includeMonolithRun = false)) := by
  unfold arrangeSiloModes
  split
  · rename_i m hm
    rw [hm] at hmono ⊢
    have hm' : m ≠ .monolith := fun h => hmono (h ▸ List.mem_singleton_self m)
    cases mod.includeMonolithRun <;> cases mod.runOriginalClassInSiloMode <;> simp [hm', hm'.symm, or_comm]
  · rename_i hne
    have hlen : mod.siloModes.length ≠ 1 := fun h => let ⟨m, hm⟩ := List.length_eq_one.1 h; hne m hm
    refine ⟨List.nodup_cons.2 ⟨hmono, hnd⟩, fun m => ?_⟩
    simp [hlen, or_comm]

/-- The classes `_add_siloed_test_classes_to_module` makes from one class, when the modes hold no duplicate and no
`MONOLITH` (as `SiloModeTestDecorator` makes them): they run distinct modes, which are those the parametrized function
runs but `MONOLITH` when the only mode opts out of the monolith run, under distinct names, all subclasses of the class
with the same modification. -/
theorem addSiloedTestClassesToModule_expansion (hnd : mod.siloModes.Nodup) (hmono : .monolith ∉ mod.siloModes)
    {C : Type} (testClass : C) (className : String) {siblings : List (OverridingClass C)} {primary : OverridingClass C}
    (h : mod.addSiloedTestClassesToModule testClass className = (siblings, primary)) :
    ((primary :: siblings).map (·.siloMode)).Nodup ∧
    (∀ m, m ∈ (primary :: siblings).map (·.siloMode) ↔
      m ∈ mod.parametrizedModes ∧ ¬(m = .monolith ∧ mod.siloModes.length = 1 ∧ mod.includeMonolithRun = false)) ∧
    primary.name = className ∧ (∀ oc ∈ siblings, oc.name = className ++ getTestNameSuffix oc.siloMode) ∧
    ((primary :: siblings).map (·.name)).Nodup ∧
    ∀ oc ∈ primary :: siblings, oc.base = testClass ∧ oc.mod = mod := by
  simp only [addSiloedTestClassesToModule, Prod.mk.injEq] at h
  obtain ⟨rfl, rfl⟩ := h
  obtain ⟨hnd', hmem⟩ := arrangeSiloModes_modes hnd hmono
  have hmodes : (mod.createOverridingTestClass testClass className mod.arrangeSiloModes.1 ::
      mod.arrangeSiloModes.2.map fun m => mod.createOverridingTestClass testClass className m (getTestNameSuffix m)).map
        (·.siloMode) = mod.arrangeSiloModes.1 :: mod.arrangeSiloModes.2 := by
    rw [List.map_cons, List.map_map]
    exact congrArg _ (List.map_id _)
  have hnames : (mod.createOverridingTestClass testClass className mod.arrangeSiloModes.1 ::
      mod.arrangeSiloModes.2.map fun m => mod.createOverridingTestClass testClass className m (getTestNameSuffix m)).map
        (·.name) = className :: mod.arrangeSiloModes.2.map fun m => className ++ getTestNameSuffix m := by
    rw [List.map_cons, List.map_map]
    exact congrArg₂ _ (String.append_empty className) rfl
  refine ⟨hmodes ▸ hnd', fun m => ?_, String.append_empty className, ?_, hnames ▸ ?_, ?_⟩
  · rw [hmodes, hmem, parametrizedModes_mem]
    by_cases hm : m = .monolith
    · subst hm
      simp only [hmono, true_and, true_or, false_or]
    · simp only [hm, false_and, false_or, or_false, not_false_eq_true, and_true]
  · simp only [List.mem_map]
    rintro _ ⟨m, -, rfl⟩
    rfl
  · refine List.nodup_cons.2 ⟨fun h => ?_, List.Pairwise.map _
      (fun _ _ hne heq => hne (append_getTestNameSuffix_injective className heq)) (List.nodup_cons.1 hnd').2⟩
    obtain ⟨m, -, hm⟩ := List.mem_map.1 h
    have := congrArg String.length hm
    rw [String.length_append] at this
    exact absurd this (by have := getTestNameSuffix_length_pos m; omega)
  · simp only [List.mem_cons, List.mem_map]
    rintro _ (rfl | ⟨m, -, rfl⟩) <;> exact ⟨rfl, rfl⟩

end SiloModeTestModification

end Silo
