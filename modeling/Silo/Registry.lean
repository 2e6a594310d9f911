import Silo.Basic
/-!
# Registry — the model universe `iter_models` walks

Django's app registry as the validators read it: the app configs (`apps.get_app_configs()`, each with its dotted
`name` and its `label`), `apps.all_models` keyed by label, and, per model class, what `silo.py` reads of it.  Models
are named by number; `actor` and `notificationSetting` are the two classes `validate_hcfk_has_global_id` compares
with by identity.  `modelSiloLimit_eq_ok` is `_model_silo_limit`'s one spec lemma, and `validate_models_have_silos`
passes exactly when every model it visits is exempt or placed in `REGION` or `CONTROL`
(`validateModelsHaveSilos_eq_ok`).
-/
namespace Silo

abbrev ModelId := Nat

/-- What `_meta.silo_limit` holds: nothing, something that is not a `ModelSiloLimit`, or a limit. -/
inductive SiloLimitAttr
  | absent
  | other
  | limit (l : ModelSiloLimit)
  deriving DecidableEq, Repr

/-- A relation field's `related_model`: a model class, or the string `"self"`. -/
inductive Related
  | self
  | model (m : ModelId)
  deriving DecidableEq, Repr

/-- A field of `_meta.fields`, as far as `silo.py` tells fields apart: a `RelatedField`, a `HybridCloudForeignKey`
with what reading its `foreign_model` gives (a model, `None`, or an exception), or any other field. -/
inductive Field
  | related (relatedModel : Related)
  | hybridCloudForeignKey (foreignModel : Except Exc (Option ModelId))
  | plain

/-- A model class: `__module__`, `__qualname__`, `_meta.db_table`, `_meta.silo_limit`, `_meta.fields`, whether it
subclasses `SnowflakeIdMixin`, `ReplicatedControlModel`, `ReplicatedRegionModel`, and the `params["model"]` of each
child relation its deletion task (`deletions.get(model=...)`) declares. -/
structure Model where
  module            : String
  name              : String
  dbTable           : String
  siloLimit         : SiloLimitAttr
  fields            : List Field
  snowflake         : Bool
  replicatedControl : Bool
  replicatedRegion  : Bool
  childRelations    : List ModelId

/-- An entry of `apps.get_app_configs()`. -/
structure AppConfig where
  name  : String
  label : String
  deriving DecidableEq, Repr

/-- Django's app registry. -/
structure Registry where
  appConfigs          : List AppConfig
  allModels           : List (String × List ModelId)
  model               : ModelId → Model
  actor               : ModelId
  notificationSetting : ModelId

namespace Registry

variable (reg : Registry)

/-- `repr(t)` of a model class. -/
def repr (t : ModelId) : String := "<class '" ++ (reg.model t).module ++ "." ++ (reg.model t).name ++ "'>"

/-- The module test of `iter_models`: Django's own models, test models and fixtures are skipped. -/
def excluded (t : ModelId) : Bool :=
  startswith (reg.model t).module "django." || containsStr (reg.model t).module "tests." ||
    containsStr (reg.model t).module "fixtures."

/-- `app == app_name or app_name is None`. -/
def appSelected (appName : Option String) (app : String) : Bool :=
  match appName with
  | none => true
  | some n => app == n

/-- `iter_models(app_name)`: the models of the selected apps of `apps.all_models`, in order, but the excluded. -/
def iterModels (appName : Option String) : List ModelId :=
  reg.allModels.flatMap fun entry =>
    if appSelected appName entry.1 then entry.2.filter (fun t => !reg.excluded t) else []

/-- `_model_silo_limit(t)`. -/
def modelSiloLimit (t : ModelId) : Except Exc ModelSiloLimit :=
  match (reg.model t).siloLimit with
  | .limit l => .ok l
  | _ => .error (.valueError (reg.repr t ++
      " is missing a silo limit, add a silo_model decorate to indicate its placement"))

/-- Every model carries a `ModelSiloLimit`. -/
def Placed : Prop := ∀ t, ∃ l, (reg.model t).siloLimit = .limit l

/-- The modes of a model's silo limit (none when it has no limit). -/
def modes (t : ModelId) : List SiloMode :=
  match (reg.model t).siloLimit with
  | .limit l => l.modes
  | _ => []

/-- The loop of `validate_models_have_silos` over the models still to check. -/
def modelsHaveSilos (exemptions : List ModelId) : List ModelId → Except Exc Unit
  | [] => pure ()
  | t :: ts =>
    if t ∈ exemptions then modelsHaveSilos exemptions ts
    else do
      let siloLimit ← reg.modelSiloLimit t
      if SiloMode.region ∉ siloLimit.modes ∧ SiloMode.control ∉ siloLimit.modes then
        throw (.valueError (reg.repr t ++
          " is marked as a pending model, but either needs a placement or an exemption in this test."))
      modelsHaveSilos exemptions ts

/-- `validate_models_have_silos(exemptions, app_name)`. -/
def validateModelsHaveSilos (exemptions : List ModelId) (appName : Option String) : Except Exc Unit :=
  reg.modelsHaveSilos exemptions (reg.iterModels appName)

variable {reg}

theorem mem_iterModels {appName : Option String} {t : ModelId} :
    t ∈ reg.iterModels appName ↔
      ∃ entry ∈ reg.allModels, appSelected appName entry.1 ∧ t ∈ entry.2 ∧ reg.excluded t = false := by
  simp only [iterModels, List.mem_flatMap, List.mem_ite_nil_right, List.mem_filter, Bool.not_eq_eq_eq_not, Bool.not_true,
    Prod.exists]

/-- A model of the whole registry is a model of the app its `all_models` entry is keyed by. -/
theorem forall_iterModels_none {P : ModelId → Prop} :
    (∀ t ∈ reg.iterModels none, P t) ↔ ∀ n, ∀ t ∈ reg.iterModels (some n), P t := by
  simp only [mem_iterModels]
  constructor
  · rintro h n t ⟨entry, he, -, ht, hx⟩
    exact h t ⟨entry, he, rfl, ht, hx⟩
  · rintro h t ⟨entry, he, -, ht, hx⟩
    exact h entry.1 t ⟨entry, he, by simp [appSelected], ht, hx⟩

theorem modelSiloLimit_eq_ok {t : ModelId} {l : ModelSiloLimit} :
    reg.modelSiloLimit t = .ok l ↔ (reg.model t).siloLimit = .limit l := by
  unfold modelSiloLimit
  split <;> simp_all

theorem modelSiloLimit_of_placed (h : reg.Placed) (t : ModelId) : reg.modelSiloLimit t = .ok ⟨reg.modes t⟩ := by
  obtain ⟨l, hl⟩ := h t
  simp [modelSiloLimit, modes, hl]

/-- A model passes when it is exempt, or carries a silo limit that places it in `REGION` or `CONTROL`. -/
def HasSilo (reg : Registry) (exemptions : List ModelId) (t : ModelId) : Prop :=
  t ∈ exemptions ∨ ∃ l, (reg.model t).siloLimit = .limit l ∧ (SiloMode.region ∈ l.modes ∨ SiloMode.control ∈ l.modes)

theorem modelsHaveSilos_eq_ok (exemptions : List ModelId) :
    ∀ ts, reg.modelsHaveSilos exemptions ts = .ok () ↔ ∀ t ∈ ts, HasSilo reg exemptions t
  | [] => by simp only [modelsHaveSilos, pure_eq_ok, List.not_mem_nil, IsEmpty.forall_iff, implies_true]
  | t :: ts => by
    rw [List.forall_mem_cons, ← modelsHaveSilos_eq_ok exemptions ts, modelsHaveSilos]
    by_cases he : t ∈ exemptions
    · simp only [he, ↓reduceIte, HasSilo, true_or, true_and]
    · simp only [he, ↓reduceIte, HasSilo, false_or]
      cases hl : (reg.model t).siloLimit with
      | limit l =>
        simp only [modelSiloLimit, hl, ok_bind, SiloLimitAttr.limit.injEq, exists_eq_left', or_iff_not_and_not]
        by_cases hm : SiloMode.region ∉ l.modes ∧ SiloMode.control ∉ l.modes <;>
          simp only [hm, ↓reduceIte, throw_eq_error, error_bind, pure_eq_ok, ok_bind, reduceCtorEq, not_true_eq_false,
            not_false_eq_true, false_and, true_and]
      | _ => simp only [modelSiloLimit, hl, error_bind, reduceCtorEq, false_and, exists_false]

/-- **`validate_models_have_silos` passes exactly when every model `iter_models` yields is exempt or carries a silo
limit that places it in `REGION` or `CONTROL`.** -/
theorem validateModelsHaveSilos_eq_ok (exemptions : List ModelId) (appName : Option String) :
    reg.validateModelsHaveSilos exemptions appName = .ok () ↔
      ∀ t ∈ reg.iterModels appName, HasSilo reg exemptions t :=
  modelsHaveSilos_eq_ok exemptions _

end Registry

end Silo
