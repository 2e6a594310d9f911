import Silo.Registry
/-!
# ForeignKeys — `validate_no_cross_silo_foreign_keys` and its exemptions

The relation check walks every field of every model `iter_models` yields.  A related field to `r` passes when the
exemption of the pair in the order that is actually cross-silo excuses it, or when `m` and `r` run in the same modes
(`relatedSeen_eq_ok`); a `HybridCloudForeignKey` passes only when its target is globally identified or not a
region model.  The returned `seen` set is made only of exemptions, each really needed: every set between `seen` and
the exemptions gives the same answer, and more exemptions never make the check fail
(`validateNoCrossSiloForeignKeys_seen`).
-/
namespace Silo
namespace Registry

/-- A set of ordered model pairs: `exemptions`, and the `seen` set built from it. -/
abbrev PairSet := List (ModelId × ModelId)

variable (reg : Registry)

/-- The loop `for mode in ...: if mode not in _model_silo_limit(related).modes` that `_is_relation_cross_silo`,
`validate_relation_does_not_cross_silo_foreign_keys` and `validate_no_cross_silo_deletions` share: the first of
`modes` that `related` does not run in, reading `related`'s limit again at each turn. -/
def missingMode (related : ModelId) : List SiloMode → Except Exc (Option SiloMode)
  | [] => pure none
  | mode :: rest => do
    let l ← reg.modelSiloLimit related
    if mode ∈ l.modes then missingMode related rest else pure (some mode)

/-- `_is_relation_cross_silo(model, related)`. -/
def isRelationCrossSilo : Related → Related → Except Exc Bool
  | .model m, .model r => do
    let l ← reg.modelSiloLimit m
    let missing ← reg.missingMode r l.modes
    pure missing.isSome
  | _, _ => pure false

/-- `validate_relation_does_not_cross_silo_foreign_keys(model, related)`. -/
def validateRelationDoesNotCrossSiloForeignKeys : Related → Related → Except Exc Unit
  | .model m, .model r => do
    let l ← reg.modelSiloLimit m
    match ← reg.missingMode r l.modes with
    | none => pure ()
    | some mode => throw (.valueError (reg.repr m ++ " runs in " ++ mode.name ++ ", but is related to " ++
        reg.repr r ++ " which does not.  Add this relationship pair as an exception or drop the foreign key."))
  | _, _ => pure ()

/-- `validate_hcfk_has_global_id(model, related_model)`; a `None` target fails in `issubclass`. -/
def validateHcfkHasGlobalId (model : ModelId) : Option ModelId → Except Exc Unit
  | none => throw (.typeError "issubclass() arg 1 must be a class")
  | some r =>
    if (reg.model r).snowflake then pure ()
    else if r = reg.actor ∧ model = reg.notificationSetting then pure ()
    else do
      let l ← reg.modelSiloLimit r
      if .region ∈ l.modes then
        throw (.valueError (reg.repr r ++ " runs in " ++ SiloMode.region.name ++ ", but is related to " ++
          reg.repr model ++ " via a HybridCloudForeignKey! Region model ids are not global, unless you use a " ++
          "snowflake id."))
      else pure ()

/-- The `RelatedField` branch of `validate_model_no_cross_silo_foreign_keys`: the pair it adds to `seen`, if any.
An exemption set holds model pairs, so a `"self"` target is never exempted. -/
def relatedSeen (E : PairSet) (model : ModelId) : Related → Except Exc (Option (ModelId × ModelId))
  | .self => do
    reg.validateRelationDoesNotCrossSiloForeignKeys (.model model) .self
    reg.validateRelationDoesNotCrossSiloForeignKeys .self (.model model)
    pure none
  | .model r => do
    let fwd ← if (model, r) ∈ E then reg.isRelationCrossSilo (.model model) (.model r) else pure false
    if fwd then pure (some (model, r)) else
    let bwd ← if (r, model) ∈ E then reg.isRelationCrossSilo (.model r) (.model model) else pure false
    if bwd then pure (some (r, model)) else do
    reg.validateRelationDoesNotCrossSiloForeignKeys (.model model) (.model r)
    reg.validateRelationDoesNotCrossSiloForeignKeys (.model r) (.model model)
    pure none

/-- One turn of the field loop of `validate_model_no_cross_silo_foreign_keys`. -/
def fieldSeen (E : PairSet) (model : ModelId) : Field → Except Exc (Option (ModelId × ModelId))
  | .related rel => reg.relatedSeen E model rel
  | .hybridCloudForeignKey foreignModel => do
    let fk ← foreignModel
    reg.validateHcfkHasGlobalId model fk
    pure none
  | .plain => pure none

/-- The field loop: `seen = seen | {pair}` for each field that names one. -/
def fieldsSeen (E : PairSet) (model : ModelId) : List Field → PairSet → Except Exc PairSet
  | [], seen => pure seen
  | f :: fs, seen => do
    match ← reg.fieldSeen E model f with
    | some p => fieldsSeen E model fs (seen.insert p)
    | none => fieldsSeen E model fs seen

/-- `validate_model_no_cross_silo_foreign_keys(model, exemptions)`. -/
def validateModelNoCrossSiloForeignKeys (model : ModelId) (E : PairSet) : Except Exc PairSet :=
  reg.fieldsSeen E model (reg.model model).fields []

/-- The model loop of `validate_no_cross_silo_foreign_keys`: `seen |= ...` for each model. -/
def modelsSeen (E : PairSet) : List ModelId → PairSet → Except Exc PairSet
  | [], seen => pure seen
  | m :: ms, seen => do
    let s ← reg.validateModelNoCrossSiloForeignKeys m E
    modelsSeen E ms (seen ∪ s)

/-- `validate_no_cross_silo_foreign_keys(exemptions, app_name)`. -/
def validateNoCrossSiloForeignKeys (E : PairSet) (appName : Option String) : Except Exc PairSet :=
  reg.modelsSeen E (reg.iterModels appName) []

end Registry
end Silo

namespace Silo
namespace Registry

variable {reg : Registry}

/-! ## The mode loop -/

theorem missingMode_of_limit {r : ModelId} {l : ModelSiloLimit} (hl : reg.modelSiloLimit r = .ok l) :
    ∀ modes, ∃ o, reg.missingMode r modes = .ok o ∧ (o.isSome ↔ ¬ modes ⊆ l.modes)
  | [] => ⟨none, rfl, by simp⟩
  | mode :: rest => by
    obtain ⟨o, ho, hiff⟩ := missingMode_of_limit hl rest
    by_cases hm : mode ∈ l.modes
    · exact ⟨o, by simp [missingMode, hl, hm, ho], by simp [hm, hiff]⟩
    · exact ⟨some mode, by simp [missingMode, hl, hm], by simp [hm]⟩

theorem limit_of_missingMode_some {r : ModelId} {modes : List SiloMode} {mode : SiloMode}
    (h : reg.missingMode r modes = .ok (some mode)) : ∃ l, reg.modelSiloLimit r = .ok l := by
  cases modes with
  | nil => cases h
  | cons m rest =>
    obtain ⟨l, hl, -⟩ := bind_eq_ok.1 h
    exact ⟨l, hl⟩

/-- **The cross-silo test and the validation agree**: a relation is not cross-silo exactly when validating it
passes. -/
theorem isRelationCrossSilo_eq_false {x y : Related} :
    reg.isRelationCrossSilo x y = .ok false ↔ reg.validateRelationDoesNotCrossSiloForeignKeys x y = .ok () := by
  cases x <;> cases y <;> simp only [isRelationCrossSilo, validateRelationDoesNotCrossSiloForeignKeys, bind_eq_ok]
  case model.model m r =>
    refine exists_congr fun l => and_congr_right fun _ => exists_congr fun o => and_congr_right fun _ => ?_
    cases o <;> simp
  all_goals simp

/-- Once a relation is found cross-silo, both limits are readable, so the reverse test returns too. -/
theorem isRelationCrossSilo_swap {m r : ModelId}
    (h : reg.isRelationCrossSilo (.model m) (.model r) = .ok true) :
    ∃ c, reg.isRelationCrossSilo (.model r) (.model m) = .ok c := by
  simp only [isRelationCrossSilo, bind_eq_ok] at h
  obtain ⟨lm, hlm, o, ho, hs⟩ := h
  cases o with
  | none => cases hs
  | some mode =>
    obtain ⟨lr, hlr⟩ := limit_of_missingMode_some ho
    obtain ⟨o', ho', -⟩ := missingMode_of_limit hlm lr.modes
    exact ⟨o'.isSome, by simp [isRelationCrossSilo, hlr, ho']⟩

theorem isRelationCrossSilo_of_placed (h : reg.Placed) (m r : ModelId) :
    reg.isRelationCrossSilo (.model m) (.model r) = .ok (decide ¬ reg.modes m ⊆ reg.modes r) := by
  obtain ⟨o, ho, hiff⟩ := missingMode_of_limit (modelSiloLimit_of_placed h r) (reg.modes m)
  simp only [isRelationCrossSilo, modelSiloLimit_of_placed h m, ok_bind, ho, pure_eq_ok, Except.ok.injEq]
  cases o <;> simp_all

/-! ## One field -/

theorem validate_both_eq_ok {m r : ModelId} {p : Option (ModelId × ModelId)} :
    (do
      reg.validateRelationDoesNotCrossSiloForeignKeys (.model m) (.model r)
      reg.validateRelationDoesNotCrossSiloForeignKeys (.model r) (.model m)
      Except.ok none) = Except.ok p ↔
    reg.isRelationCrossSilo (.model m) (.model r) = .ok false ∧
      reg.isRelationCrossSilo (.model r) (.model m) = .ok false ∧ p = none := by
  simp [bind_unit_eq_ok, isRelationCrossSilo_eq_false, @eq_comm _ p]

/-- **What one related field adds to `seen`**: the forward pair when it is exempted and cross-silo, else the reverse
pair when it is exempted and cross-silo; otherwise nothing, and then both directions must pass validation. -/
theorem relatedSeen_eq_ok {E : PairSet} {m r : ModelId} {p : Option (ModelId × ModelId)} :
    reg.relatedSeen E m (.model r) = .ok p ↔
      ((m, r) ∈ E ∧ reg.isRelationCrossSilo (.model m) (.model r) = .ok true ∧ p = some (m, r)) ∨
      (((m, r) ∈ E → reg.isRelationCrossSilo (.model m) (.model r) = .ok false) ∧ (r, m) ∈ E ∧
        reg.isRelationCrossSilo (.model r) (.model m) = .ok true ∧ p = some (r, m)) ∨
      (reg.isRelationCrossSilo (.model m) (.model r) = .ok false ∧
        reg.isRelationCrossSilo (.model r) (.model m) = .ok false ∧ p = none) := by
  by_cases h1 : (m, r) ∈ E <;> by_cases h2 : (r, m) ∈ E <;>
    simp only [relatedSeen, h1, h2, ↓reduceIte, pure_eq_ok, ok_bind, Bool.false_eq_true, bind_ite_eq_ok,
      validate_both_eq_ok, @eq_comm _ p, true_and, false_and, true_implies, false_implies, false_or] <;>
    simp only [and_or_left, and_left_comm, and_self, and_self_left, and_false, or_false, false_or]

/-- **One field's exemption laws**: what it adds is an exemption; any exemption set between what it adds and `E` gives
the same answer; and any larger set still lets it pass. -/
theorem fieldSeen_exemptions {E : PairSet} {m : ModelId} {f : Field} {p : Option (ModelId × ModelId)}
    (h : reg.fieldSeen E m f = .ok p) :
    (∀ q ∈ p, q ∈ E) ∧ (∀ E', (∀ q ∈ p, q ∈ E') → E' ⊆ E → reg.fieldSeen E' m f = .ok p) ∧
      ∀ E'', E ⊆ E'' → ∃ p', reg.fieldSeen E'' m f = .ok p' := by
  match f with
  | .related (.model r) =>
    simp only [fieldSeen] at h ⊢
    rcases relatedSeen_eq_ok.1 h with ⟨h1, hX, rfl⟩ | ⟨h1, h2, hY, rfl⟩ | ⟨hX, hY, rfl⟩
    · exact ⟨by rintro _ ⟨⟩; exact h1, fun E' hp _ => relatedSeen_eq_ok.2 (.inl ⟨hp _ rfl, hX, rfl⟩),
        fun E'' hE => ⟨_, relatedSeen_eq_ok.2 (.inl ⟨hE h1, hX, rfl⟩)⟩⟩
    · refine ⟨by rintro _ ⟨⟩; exact h2, fun E' hp hE' => relatedSeen_eq_ok.2 (.inr (.inl ⟨fun h' => h1 (hE' h'),
        hp _ rfl, hY, rfl⟩)), fun E'' hE => ?_⟩
      obtain ⟨c, hc⟩ := isRelationCrossSilo_swap hY
      by_cases hmr : (m, r) ∈ E'' ∧ c = true
      · exact ⟨_, relatedSeen_eq_ok.2 (.inl ⟨hmr.1, hmr.2 ▸ hc, rfl⟩)⟩
      · refine ⟨_, relatedSeen_eq_ok.2 (.inr (.inl ⟨fun h' => ?_, hE h2, hY, rfl⟩))⟩
        obtain rfl : c = false := Bool.eq_false_iff.2 fun hc' => hmr ⟨h', hc'⟩
        exact hc
    · have hE : ∀ E', reg.fieldSeen E' m (.related (.model r)) = .ok none :=
        fun _ => relatedSeen_eq_ok.2 (.inr (.inr ⟨hX, hY, rfl⟩))
      exact ⟨nofun, fun E' _ _ => hE E', fun E'' _ => ⟨none, hE E''⟩⟩
  | .related .self =>
    cases h
    exact ⟨nofun, fun _ _ _ => rfl, fun _ _ => ⟨none, rfl⟩⟩
  | .hybridCloudForeignKey fm =>
    simp only [fieldSeen, bind_eq_ok, pure_eq_ok, Except.ok.injEq] at h
    obtain ⟨fk, hfk, _, hv, rfl⟩ := h
    have hE : ∀ E', reg.fieldSeen E' m (.hybridCloudForeignKey fm) = .ok none := fun _ => by
      rw [fieldSeen, hfk, ok_bind, hv, ok_bind]; rfl
    exact ⟨nofun, fun E' _ _ => hE E', fun E'' _ => ⟨none, hE E''⟩⟩
  | .plain =>
    cases h
    exact ⟨nofun, fun _ _ _ => rfl, fun _ _ => ⟨none, rfl⟩⟩

/-! ## The loops -/

/-- The field loop returns exactly when every field's turn does, whatever `seen` it starts from. -/
theorem fieldsSeen_ok_iff {E : PairSet} {m : ModelId} :
    ∀ {fs : List Field} {seen : PairSet},
      (∃ S, reg.fieldsSeen E m fs seen = .ok S) ↔ ∀ f ∈ fs, ∃ p, reg.fieldSeen E m f = .ok p
  | [], seen => iff_of_true ⟨seen, rfl⟩ nofun
  | f :: fs, seen => by
    simp only [fieldsSeen, bind_eq_ok, List.mem_cons, forall_eq_or_imp]
    constructor
    · rintro ⟨S, p, hp, hS⟩
      cases p <;> exact ⟨⟨_, hp⟩, fieldsSeen_ok_iff.1 ⟨S, hS⟩⟩
    · rintro ⟨⟨p, hp⟩, hfs⟩
      cases p <;> exact (fieldsSeen_ok_iff.2 hfs).imp fun S hS => ⟨_, hp, hS⟩

theorem fieldsSeen_exemptions {E : PairSet} {m : ModelId} :
    ∀ {fs : List Field} {seen S : PairSet}, reg.fieldsSeen E m fs seen = .ok S →
      seen ⊆ S ∧ (seen ⊆ E → S ⊆ E) ∧ ∀ E', S ⊆ E' → E' ⊆ E → reg.fieldsSeen E' m fs seen = .ok S
  | [], seen, S, h => by
    cases h
    exact ⟨List.Subset.refl _, id, fun _ _ _ => rfl⟩
  | f :: fs, seen, S, h => by
    simp only [fieldsSeen, bind_eq_ok] at h
    obtain ⟨p, hp, hS⟩ := h
    obtain ⟨pE, pmid, -⟩ := fieldSeen_exemptions hp
    cases p with
    | none =>
      obtain ⟨h1, h2, h3⟩ := fieldsSeen_exemptions hS
      exact ⟨h1, h2, fun E' hS' hE' => by rw [fieldsSeen, pmid E' nofun hE', ok_bind]; exact h3 E' hS' hE'⟩
    | some q =>
      obtain ⟨h1, h2, h3⟩ := fieldsSeen_exemptions hS
      have hq : q ∈ S := h1 (List.mem_insert_self q seen)
      refine ⟨fun x hx => h1 (List.mem_insert_of_mem hx), fun hsE => h2 ?_, fun E' hS' hE' => ?_⟩
      · intro x hx
        rcases List.mem_insert_iff.1 hx with rfl | hx
        · exact pE x rfl
        · exact hsE hx
      · rw [fieldsSeen, pmid E' (by rintro _ ⟨⟩; exact hS' hq) hE', ok_bind]
        exact h3 E' hS' hE'

theorem modelsSeen_ok_iff {E : PairSet} :
    ∀ {ms : List ModelId} {seen : PairSet},
      (∃ S, reg.modelsSeen E ms seen = .ok S) ↔ ∀ m ∈ ms, ∃ s, reg.validateModelNoCrossSiloForeignKeys m E = .ok s
  | [], seen => iff_of_true ⟨seen, rfl⟩ nofun
  | m :: ms, seen => by
    simp only [modelsSeen, bind_eq_ok, List.mem_cons, forall_eq_or_imp]
    constructor
    · rintro ⟨S, s, hs, hS⟩
      exact ⟨⟨s, hs⟩, modelsSeen_ok_iff.1 ⟨S, hS⟩⟩
    · rintro ⟨⟨s, hs⟩, hms⟩
      exact (modelsSeen_ok_iff.2 hms).imp fun S hS => ⟨s, hs, hS⟩

theorem modelsSeen_exemptions {E : PairSet} :
    ∀ {ms : List ModelId} {seen S : PairSet}, reg.modelsSeen E ms seen = .ok S →
      seen ⊆ S ∧ (seen ⊆ E → S ⊆ E) ∧ ∀ E', S ⊆ E' → E' ⊆ E → reg.modelsSeen E' ms seen = .ok S
  | [], seen, S, h => by
    cases h
    exact ⟨List.Subset.refl _, id, fun _ _ _ => rfl⟩
  | m :: ms, seen, S, h => by
    simp only [modelsSeen, bind_eq_ok] at h
    obtain ⟨s, hs, hS⟩ := h
    obtain ⟨-, hsE, hsmid⟩ := fieldsSeen_exemptions hs
    obtain ⟨h1, h2, h3⟩ := modelsSeen_exemptions hS
    have hsS : s ⊆ S := fun x hx => h1 (List.mem_union_iff.2 (.inr hx))
    refine ⟨fun x hx => h1 (List.mem_union_iff.2 (.inl hx)), fun hseen => h2 fun x hx => ?_, fun E' hS' hE' => ?_⟩
    · rcases List.mem_union_iff.1 hx with hx | hx
      exacts [hseen hx, hsE (List.nil_subset _) hx]
    · simp only [modelsSeen, validateModelNoCrossSiloForeignKeys, hsmid E' (List.Subset.trans hsS hS') hE',
        ok_bind, h3 E' hS' hE']

/-- **The returned `seen` set is exactly the exemptions in use**: it is made of exemptions; every exemption set between
it and `E` gives the same answer, so each exemption the caller finds unused can go; and adding exemptions never makes
the check fail. -/
theorem validateNoCrossSiloForeignKeys_seen {E S : PairSet} {appName : Option String}
    (h : reg.validateNoCrossSiloForeignKeys E appName = .ok S) :
    S ⊆ E ∧ (∀ E', S ⊆ E' → E' ⊆ E → reg.validateNoCrossSiloForeignKeys E' appName = .ok S) ∧
      ∀ E'', E ⊆ E'' → ∃ S', reg.validateNoCrossSiloForeignKeys E'' appName = .ok S' := by
  obtain ⟨-, hSE, hmid⟩ := modelsSeen_exemptions h
  refine ⟨hSE (List.nil_subset _), hmid, fun E'' hE => modelsSeen_ok_iff.2 fun m hm => ?_⟩
  obtain ⟨s, hs⟩ := modelsSeen_ok_iff.1 ⟨S, h⟩ m hm
  refine fieldsSeen_ok_iff.2 fun f hf => ?_
  obtain ⟨p, hp⟩ := fieldsSeen_ok_iff.1 ⟨s, hs⟩ f hf
  exact (fieldSeen_exemptions hp).2.2 E'' hE

/-! ## On a placed universe -/

/-- What the relation check accepts of field `f` of model `m`: a related field to `r` passes when its pair is exempted
in the order that is cross-silo, or when `m` and `r` run in the same modes; a `HybridCloudForeignKey`'s target must
read as a model that has a snowflake id, is `Actor` seen from `NotificationSetting`, or is not a region model. -/
def FieldAllowed (reg : Registry) (E : PairSet) (m : ModelId) (f : Field) : Prop :=
  (∀ r, f = .related (.model r) →
    ((m, r) ∈ E ∧ ¬ reg.modes m ⊆ reg.modes r) ∨ ((r, m) ∈ E ∧ ¬ reg.modes r ⊆ reg.modes m) ∨
      (reg.modes m ⊆ reg.modes r ∧ reg.modes r ⊆ reg.modes m)) ∧
  (∀ fm, f = .hybridCloudForeignKey fm → ∃ r, fm = .ok (some r) ∧
    ((reg.model r).snowflake ∨ (r = reg.actor ∧ m = reg.notificationSetting) ∨ .region ∉ reg.modes r))

theorem relatedSeen_ok_of_placed (h : reg.Placed) {E : PairSet} {m r : ModelId} :
    (∃ p, reg.relatedSeen E m (.model r) = .ok p) ↔
      ((m, r) ∈ E ∧ ¬ reg.modes m ⊆ reg.modes r) ∨ ((r, m) ∈ E ∧ ¬ reg.modes r ⊆ reg.modes m) ∨
        (reg.modes m ⊆ reg.modes r ∧ reg.modes r ⊆ reg.modes m) := by
  simp only [relatedSeen_eq_ok, isRelationCrossSilo_of_placed h, Except.ok.injEq, decide_eq_true_eq,
    decide_eq_false_iff_not, not_not, exists_or, exists_and_left, exists_eq', and_true]
  by_cases a : (m, r) ∈ E <;> by_cases c : reg.modes m ⊆ reg.modes r <;>
    simp only [a, c, not_true_eq_false, not_false_eq_true, exists_eq, and_true, and_false, and_self, imp_self,
      imp_false, implies_true, true_and, false_and, or_self, or_false, false_or, true_or]

theorem validateHcfkHasGlobalId_ok (h : reg.Placed) {m : ModelId} {fk : Option ModelId} :
    reg.validateHcfkHasGlobalId m fk = .ok () ↔ ∃ r, fk = some r ∧
      ((reg.model r).snowflake ∨ (r = reg.actor ∧ m = reg.notificationSetting) ∨ .region ∉ reg.modes r) := by
  cases fk with
  | none => simp only [validateHcfkHasGlobalId, throw_eq_error, reduceCtorEq, false_and, exists_const]
  | some r =>
    simp only [validateHcfkHasGlobalId, modelSiloLimit_of_placed h r, ok_bind, Option.some.injEq, exists_eq_left']
    by_cases hs : (reg.model r).snowflake
    · rw [if_pos hs]; exact iff_of_true rfl (.inl hs)
    by_cases ha : r = reg.actor ∧ m = reg.notificationSetting
    · rw [if_neg hs, if_pos ha]; exact iff_of_true rfl (.inr (.inl ha))
    rw [if_neg hs, if_neg ha]
    by_cases hr : SiloMode.region ∈ reg.modes r
    · rw [if_pos hr]; exact iff_of_false nofun fun h' => h'.elim hs fun h' => h'.elim ha (· hr)
    · rw [if_neg hr]; exact iff_of_true rfl (.inr (.inr hr))

theorem fieldSeen_ok_of_placed (h : reg.Placed) {E : PairSet} {m : ModelId} {f : Field} :
    (∃ p, reg.fieldSeen E m f = .ok p) ↔ reg.FieldAllowed E m f := by
  cases f with
  | related rel =>
    cases rel with
    | self => exact ⟨fun _ => ⟨fun _ h => (nomatch h), fun _ h => nomatch h⟩, fun _ => ⟨none, rfl⟩⟩
    | model r =>
      simpa only [fieldSeen, FieldAllowed, Field.related.injEq, Related.model.injEq, forall_eq', reduceCtorEq,
        IsEmpty.forall_iff, implies_true, and_true] using relatedSeen_ok_of_placed h
  | hybridCloudForeignKey fm =>
    cases fm with
    | error e =>
      simp only [fieldSeen, error_bind, reduceCtorEq, exists_const, FieldAllowed, IsEmpty.forall_iff, implies_true,
        Field.hybridCloudForeignKey.injEq, forall_eq', false_and, and_false]
    | ok fk =>
      simp only [fieldSeen, ok_bind, bind_unit_eq_ok, validateHcfkHasGlobalId_ok h, pure_eq_ok, Except.ok.injEq,
        exists_and_left, exists_eq', and_true, FieldAllowed, reduceCtorEq, IsEmpty.forall_iff, implies_true,
        Field.hybridCloudForeignKey.injEq, forall_eq', true_and]
  | plain => exact ⟨fun _ => ⟨fun _ h => (nomatch h), fun _ h => nomatch h⟩, fun _ => ⟨none, rfl⟩⟩

/-- **The relation check on a placed universe**: it returns exactly when every field of every model it scans is
allowed — a related field by an exemption in its cross-silo order or by equal modes, a `HybridCloudForeignKey` by
its target's identity. -/
theorem validateNoCrossSiloForeignKeys_ok_iff (h : reg.Placed) (E : PairSet) (appName : Option String) :
    (∃ S, reg.validateNoCrossSiloForeignKeys E appName = .ok S) ↔
      ∀ m ∈ reg.iterModels appName, ∀ f ∈ (reg.model m).fields, reg.FieldAllowed E m f := by
  rw [validateNoCrossSiloForeignKeys, modelsSeen_ok_iff]
  refine forall₂_congr fun m _ => ?_
  rw [validateModelNoCrossSiloForeignKeys, fieldsSeen_ok_iff]
  exact forall₂_congr fun f _ => fieldSeen_ok_of_placed h

/-! ## A one-way exemption -/

/-- Two models: `A` runs in `CONTROL`, `B` in `CONTROL` and `REGION`; `A` holds a foreign key to `B`, and deleting an
`A` cascades to `B`. -/
def oneWayRegistry : Registry where
  appConfigs := [⟨"sentry", "sentry"⟩]
  allModels := [("sentry", [0, 1])]
  model
    | 0 => ⟨"sentry.models.a", "A", "sentry_a", .limit ⟨[.control]⟩, [.related (.model 1)], false, false, false, [1]⟩
    | _ => ⟨"sentry.models.b", "B", "sentry_b", .limit ⟨[.control, .region]⟩, [], false, false, false, []⟩
  actor := 2
  notificationSetting := 3

theorem oneWayRegistry_placed : oneWayRegistry.Placed
  | 0 => ⟨_, rfl⟩
  | _ + 1 => ⟨_, rfl⟩

/-- **An exemption in the compatible order does not excuse the reverse**: the universe's one relation, `A` to `B`,
is exempted as `(A, B)`, yet the check raises, on `B`'s `REGION` mode that `A` lacks. -/
theorem oneWay_exemption_raises :
    oneWayRegistry.iterModels none = [0, 1] ∧ (oneWayRegistry.model 0).fields = [.related (.model 1)] ∧
      (oneWayRegistry.model 1).fields = [] ∧
      ∃ e, oneWayRegistry.validateNoCrossSiloForeignKeys [(0, 1)] none = .error e :=
  ⟨rfl, rfl, rfl, _, rfl⟩

theorem oneWayRegistry_verdict :
    (∃ S, oneWayRegistry.validateNoCrossSiloForeignKeys [(0, 1)] none = .ok S) ↔
      ∀ m ∈ oneWayRegistry.iterModels none, ∀ f ∈ (oneWayRegistry.model m).fields,
        oneWayRegistry.FieldAllowed [(0, 1)] m f :=
  validateNoCrossSiloForeignKeys_ok_iff oneWayRegistry_placed _ _

/-- Exempting both orders, only `(B, A)` is in use: the check returns it alone as `seen`, so `(A, B)` can be dropped
from the exemptions without changing the outcome. -/
theorem reverseExemption_seen :
    oneWayRegistry.validateNoCrossSiloForeignKeys [(1, 0), (0, 1)] none = .ok [(1, 0)] ∧
      ([(1, 0)] : PairSet) ⊆ [(1, 0), (0, 1)] ∧
      (∀ E', [(1, 0)] ⊆ E' → E' ⊆ [(1, 0), (0, 1)] →
        oneWayRegistry.validateNoCrossSiloForeignKeys E' none = .ok [(1, 0)]) ∧
      ∀ E'', [(1, 0), (0, 1)] ⊆ E'' → ∃ S', oneWayRegistry.validateNoCrossSiloForeignKeys E'' none = .ok S' :=
  ⟨rfl, validateNoCrossSiloForeignKeys_seen rfl⟩

end Registry
end Silo
