import Silo.ForeignKeys
import Mathlib.Logic.Relation
/-!
# Deletions — `validate_no_cross_silo_deletions` and cascade chains

For every scanned model with a silo limit, each child relation its deletion task declares must be exempted in
either order, or go to a model that runs in every mode the parent runs in (`validateNoCrossSiloDeletions_ok_iff`).
Subset is transitive, so along any chain of unexempted child relations from scanned parents the first model's
modes are among the last one's: no cascade reaches a model missing from a mode its root runs in.  Each of the three
model checks, run with no app name, passes exactly when it passes for every app (`validators_wholeRegistry`).
-/
namespace Silo
namespace Registry

variable (reg : Registry)

/-- `hasattr(model._meta, "silo_limit")`. -/
def hasSiloLimit (t : ModelId) : Bool :=
  match (reg.model t).siloLimit with
  | .absent => false
  | _ => true

/-- The child-relation loop of `validate_no_cross_silo_deletions` for one model. -/
def checkChildRelations (E : PairSet) (model : ModelId) : List ModelId → Except Exc Unit
  | [] => pure ()
  | t :: ts =>
    if (model, t) ∈ E ∨ (t, model) ∈ E then checkChildRelations E model ts
    else do
      let l ← reg.modelSiloLimit model
      match ← reg.missingMode t l.modes with
      | some _ => throw (.valueError ("Deletions for " ++ reg.repr model ++ " cascade to " ++ reg.repr t ++
          ", but does not belong to the same silo mode.  Please remove this relation from get_child_relations in " ++
          "deletions configuration"))
      | none => checkChildRelations E model ts

/-- The model loop of `validate_no_cross_silo_deletions`: models without a silo limit are skipped. -/
def deletionsLoop (E : PairSet) : List ModelId → Except Exc Unit
  | [] => pure ()
  | m :: ms =>
    if reg.hasSiloLimit m then do
      reg.checkChildRelations E m (reg.model m).childRelations
      deletionsLoop E ms
    else deletionsLoop E ms

/-- `validate_no_cross_silo_deletions(exemptions, app_name)`. -/
def validateNoCrossSiloDeletions (E : PairSet) (appName : Option String) : Except Exc Unit :=
  reg.deletionsLoop E (reg.iterModels appName)

/-- A child relation the check examines and does not excuse: from a scanned model with a silo limit, to one of its
deletion task's child models, exempted in neither order. -/
def CascadeEdge (E : PairSet) (appName : Option String) (m t : ModelId) : Prop :=
  m ∈ reg.iterModels appName ∧ reg.hasSiloLimit m ∧ t ∈ (reg.model m).childRelations ∧ (m, t) ∉ E ∧ (t, m) ∉ E

variable {reg}

theorem checkChildRelations_ok_iff (h : reg.Placed) {E : PairSet} {m : ModelId} :
    ∀ {ts : List ModelId}, reg.checkChildRelations E m ts = .ok () ↔
      ∀ t ∈ ts, (m, t) ∈ E ∨ (t, m) ∈ E ∨ reg.modes m ⊆ reg.modes t
  | [] => by simp only [checkChildRelations, pure_eq_ok, List.not_mem_nil, IsEmpty.forall_iff, implies_true]
  | t :: ts => by
    rw [List.forall_mem_cons, ← checkChildRelations_ok_iff h, checkChildRelations]
    by_cases hE : (m, t) ∈ E ∨ (t, m) ∈ E
    · rw [if_pos hE]
      exact (and_iff_right (hE.elim .inl (.inr ∘ .inl))).symm
    · obtain ⟨o, ho, hiff⟩ := missingMode_of_limit (modelSiloLimit_of_placed h t) (reg.modes m)
      rw [if_neg hE, ← or_assoc, or_iff_right hE, modelSiloLimit_of_placed h m, ok_bind, ho, ok_bind]
      cases o with
      | none => exact (and_iff_right (not_not.1 (hiff.not.1 Bool.false_ne_true))).symm
      | some _ => exact iff_of_false nofun fun h' => hiff.1 rfl h'.1

theorem deletionsLoop_ok_iff {E : PairSet} :
    ∀ {ms : List ModelId}, reg.deletionsLoop E ms = .ok () ↔
      ∀ m ∈ ms, reg.hasSiloLimit m → reg.checkChildRelations E m (reg.model m).childRelations = .ok ()
  | [] => by simp only [deletionsLoop, pure_eq_ok, List.not_mem_nil, IsEmpty.forall_iff, implies_true]
  | m :: ms => by
    rw [List.forall_mem_cons, ← deletionsLoop_ok_iff, deletionsLoop]
    by_cases hm : reg.hasSiloLimit m
    · rw [if_pos hm, bind_unit_eq_ok, imp_iff_right hm]
    · rw [if_neg hm]
      exact (and_iff_right fun h => absurd h hm).symm

/-- **The deletion check on a placed universe**: it returns exactly when every child relation of every scanned model
with a silo limit is exempted in either order or goes to a model running in all the parent's modes; and then every
chain of unexempted child relations from scanned parents keeps the first model's modes among the last one's. -/
theorem validateNoCrossSiloDeletions_ok_iff (h : reg.Placed) (E : PairSet) (appName : Option String) :
    (reg.validateNoCrossSiloDeletions E appName = .ok () ↔
      ∀ m ∈ reg.iterModels appName, reg.hasSiloLimit m → ∀ t ∈ (reg.model m).childRelations,
        (m, t) ∈ E ∨ (t, m) ∈ E ∨ reg.modes m ⊆ reg.modes t) ∧
    (reg.validateNoCrossSiloDeletions E appName = .ok () →
      ∀ m₀ mₖ, Relation.ReflTransGen (reg.CascadeEdge E appName) m₀ mₖ → reg.modes m₀ ⊆ reg.modes mₖ) := by
  have hiff : reg.validateNoCrossSiloDeletions E appName = .ok () ↔
      ∀ m ∈ reg.iterModels appName, reg.hasSiloLimit m → ∀ t ∈ (reg.model m).childRelations,
        (m, t) ∈ E ∨ (t, m) ∈ E ∨ reg.modes m ⊆ reg.modes t := by
    simp only [validateNoCrossSiloDeletions, deletionsLoop_ok_iff, checkChildRelations_ok_iff h]
  refine ⟨hiff, fun hok m₀ mₖ hchain => ?_⟩
  induction hchain with
  | refl => exact List.Subset.refl _
  | tail _ edge ih =>
    obtain ⟨hm, hl, ht, h1, h2⟩ := edge
    exact List.Subset.trans ih (((hiff.1 hok) _ hm hl _ ht).resolve_left h1 |>.resolve_left h2)

/-- Deleting an `A` cascades to `B`, which runs in every mode `A` runs in. -/
theorem oneWayRegistry_cascade :
    oneWayRegistry.validateNoCrossSiloDeletions [] none = .ok () ∧
      oneWayRegistry.modes 0 ⊆ oneWayRegistry.modes 1 :=
  ⟨rfl, (validateNoCrossSiloDeletions_ok_iff oneWayRegistry_placed [] none).2 rfl 0 1
    (.single ⟨by decide, rfl, by decide, by decide, by decide⟩)⟩

/-! ## The whole registry and its apps -/

/-- **Checking the whole registry is checking each app**: each of the three model checks passes with no app name
exactly when it passes for every app name, with the same exemptions. -/
theorem validators_wholeRegistry (exemptions : List ModelId) (E : PairSet) :
    (reg.validateModelsHaveSilos exemptions none = .ok () ↔
      ∀ n, reg.validateModelsHaveSilos exemptions (some n) = .ok ()) ∧
    ((∃ S, reg.validateNoCrossSiloForeignKeys E none = .ok S) ↔
      ∀ n, ∃ S, reg.validateNoCrossSiloForeignKeys E (some n) = .ok S) ∧
    (reg.validateNoCrossSiloDeletions E none = .ok () ↔ ∀ n, reg.validateNoCrossSiloDeletions E (some n) = .ok ()) := by
  simp only [validateModelsHaveSilos, modelsHaveSilos_eq_ok, validateNoCrossSiloForeignKeys, modelsSeen_ok_iff,
    validateNoCrossSiloDeletions, deletionsLoop_ok_iff]
  exact ⟨forall_iterModels_none, forall_iterModels_none, forall_iterModels_none⟩

end Registry
end Silo
