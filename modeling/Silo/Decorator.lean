import Silo.Modification
import Mathlib.Logic.Relation
import Mathlib.Algebra.BigOperators.Group.List
import Mathlib.Algebra.Order.Ring.Nat
/-!
# Decorator — `SiloModeTestDecorator`, `apply` and the ancestor walk

A class hierarchy is finite and acyclic (`ClassTable.bases_lt`), and Python's attribute lookup reads the first class of
the MRO that holds the attribute.  `apply` walks the ancestors of a class breadth first, without a visited set, and
refuses the class when one of them reads a truthy `_silo_modes`; otherwise it writes the decorator's modes into the
class.  The walk ends because each turn trades a class for its bases (`ClassTable.treeSize`), and it fails exactly
when the class or an ancestor holds a truthy mark of its own (`validateThatNoAncestorIsSiloDecorated_eq_ok`).  Over a
run of decorations, a decoration of a `TestCase` class raises exactly when an earlier one succeeded, with a non-empty
mode set, on the class or an ancestor (`decorate_raises_iff`): the empty set `no_silo_test` writes is a mark the walk
does not see.  A class that `apply` expands runs each wanted mode once, each class under its own name
(`apply_cls_expansion`).
-/
namespace Silo

abbrev ClassId := Nat

/-- A finite class hierarchy as Python holds it: `__bases__`, a height below which every base lies (so `__bases__`
has no cycle), the MRO Python computed for each class (the class itself first, then ancestors), whether the class
subclasses `TestCase`, and its `__name__`. -/
structure ClassTable where
  bases      : ClassId → List ClassId
  height     : ClassId → Nat
  bases_lt   : ∀ c b, b ∈ bases c → height b < height c
  mro        : ClassId → List ClassId
  mro_head   : ∀ c, ∃ t, mro c = c :: t
  mro_sub    : ∀ c d, d ∈ mro c → Relation.ReflTransGen (fun x y => y ∈ bases x) c d
  isTestCase : ClassId → Bool
  name       : ClassId → String

/-- The `_silo_modes` attribute each class holds in its own `__dict__`. -/
abbrev Marks := ClassId → Option (List SiloMode)

/-- Python truthiness of what `getattr(cls, "_silo_modes", None)` returns: `None` and the empty set are false. -/
def truthy : Option (List SiloMode) → Bool
  | some (_ :: _) => true
  | _ => false

namespace ClassTable

variable (T : ClassTable)

/-- `c` reaches `d` through `__bases__`, in zero or more steps. -/
def Reach (c d : ClassId) : Prop := Relation.ReflTransGen (fun x y => y ∈ T.bases x) c d

/-- `getattr(cls, "_silo_modes", None)`: the attribute of the first class of the MRO that holds one. -/
def getSiloModes (marks : Marks) (c : ClassId) : Option (List SiloMode) := (T.mro c).findSome? marks

/-- The number of paths up from `c` through `__bases__`, `c`'s own included. -/
def treeSize (c : ClassId) : Nat := 1 + ((T.bases c).attach.map fun b => treeSize b.1).sum
termination_by T.height c
decreasing_by exact T.bases_lt c b.1 b.2

theorem treeSize_eq (c : ClassId) : T.treeSize c = 1 + ((T.bases c).map T.treeSize).sum := by
  rw [treeSize, List.map_attach, List.pmap_eq_map]

/-- The `while` loop of `_validate_that_no_ancestor_is_silo_decorated` on `class_queue`: pop the first class, refuse
when it reads a truthy `_silo_modes`, else append its bases.  `name` is the decorated class's `__name__`. -/
def ancestorWalk (marks : Marks) (name : String) : List ClassId → Except Exc Unit
  | [] => pure ()
  | c :: queue =>
    if truthy (T.getSiloModes marks c) then
      throw (.ancestorAlreadySiloDecorated
        ("Cannot decorate class '" ++ name ++ "', which inherits from a silo decorated class"))
    else ancestorWalk marks name (queue ++ T.bases c)
termination_by queue => (queue.map T.treeSize).sum
decreasing_by
  simp only [List.map_append, List.sum_append, List.map_cons, List.sum_cons, T.treeSize_eq c]
  omega

/-- `_validate_that_no_ancestor_is_silo_decorated(object_to_validate)`. -/
def validateThatNoAncestorIsSiloDecorated (marks : Marks) (c : ClassId) : Except Exc Unit :=
  T.ancestorWalk marks (T.name c) [c]

section Walk

variable {T} (marks : Marks) (name : String)

theorem ancestorWalk_eq_ok (queue : List ClassId) :
    T.ancestorWalk marks name queue = .ok () ↔
      ∀ c ∈ queue, ∀ d, T.Reach c d → truthy (T.getSiloModes marks d) = false := by
  induction queue using ancestorWalk.induct T marks name with
  | case1 => simp [ancestorWalk]
  | case2 c queue hc =>
    rw [ancestorWalk, if_pos hc]
    simp only [throw_eq_error, reduceCtorEq, false_iff, not_forall, Bool.not_eq_false]
    exact ⟨c, List.mem_cons_self _ _, c, .refl, hc⟩
  | case3 c queue hc ih =>
    rw [ancestorWalk, if_neg hc, ih]
    constructor
    · intro h x hx d hd
      rcases List.mem_cons.1 hx with rfl | hx
      · rcases Relation.ReflTransGen.cases_head_iff.1 hd with rfl | ⟨b, hb, hbd⟩
        · simpa using hc
        · exact h b (List.mem_append_right _ hb) d hbd
      · exact h x (List.mem_append_left _ hx) d hd
    · intro h x hx d hd
      rcases List.mem_append.1 hx with hx | hx
      · exact h x (List.mem_cons_of_mem _ hx) d hd
      · exact h c (List.mem_cons_self _ _) d (.head hx hd)

theorem ancestorWalk_error (queue : List ClassId) {e : Exc} (h : T.ancestorWalk marks name queue = .error e) :
    e = .ancestorAlreadySiloDecorated
      ("Cannot decorate class '" ++ name ++ "', which inherits from a silo decorated class") := by
  induction queue using ancestorWalk.induct T marks name with
  | case1 => simp [ancestorWalk] at h
  | case2 c queue hc => rw [ancestorWalk, if_pos hc] at h; exact (Except.error.inj h).symm
  | case3 c queue hc ih => rw [ancestorWalk, if_neg hc] at h; exact ih h

/-- A class holding a truthy mark of its own reads it: it comes first in its MRO. -/
theorem getSiloModes_of_truthy {d : ClassId} (hd : truthy (marks d)) : T.getSiloModes marks d = marks d := by
  obtain ⟨t, ht⟩ := T.mro_head d
  cases hv : marks d with
  | none => simp [hv, truthy] at hd
  | some v => rw [getSiloModes, ht, List.findSome?_cons, hv]

/-- What a class reads, some class it reaches holds. -/
theorem getSiloModes_eq_some {d : ClassId} {v : List SiloMode} (h : T.getSiloModes marks d = some v) :
    ∃ e, T.Reach d e ∧ marks e = some v :=
  let ⟨e, he, hev⟩ := List.exists_of_findSome?_eq_some h
  ⟨e, T.mro_sub d e he, hev⟩

/-- **The ancestor walk refuses a class exactly when the class or one it reaches holds a truthy mark of its own.** -/
theorem validateThatNoAncestorIsSiloDecorated_eq_ok (c : ClassId) :
    T.validateThatNoAncestorIsSiloDecorated marks c = .ok () ↔ ∀ d, T.Reach c d → truthy (marks d) = false := by
  rw [validateThatNoAncestorIsSiloDecorated, ancestorWalk_eq_ok]
  simp only [List.mem_singleton, forall_eq]
  constructor
  · intro h d hd
    by_contra hm
    rw [Bool.not_eq_false] at hm
    exact absurd (getSiloModes_of_truthy marks hm ▸ h d hd) (by simp [hm])
  · intro h d hd
    cases hv : T.getSiloModes marks d with
    | none => rfl
    | some v =>
      obtain ⟨e, hde, he⟩ := getSiloModes_eq_some marks hv
      simpa [he] using h e (hd.trans hde)

end Walk

/-- One turn of the walk trades a class for its bases, lowering the queue's total `treeSize`. -/
theorem treeSize_turn_lt (c : ClassId) (queue : List ClassId) :
    ((queue ++ T.bases c).map T.treeSize).sum < ((c :: queue).map T.treeSize).sum := by
  simp only [List.map_append, List.sum_append, List.map_cons, List.sum_cons, T.treeSize_eq c]
  omega

/-- **The ancestor walk ends and raises exactly on a marked ancestor.**  Although its queue keeps no visited set, each
turn lowers the queue's total `treeSize`; so the walk returns, either passing or raising
`AncestorAlreadySiloDecoratedException` for the class, and it raises exactly when some class reachable through
`__bases__`, the class itself included, holds a truthy `_silo_modes` of its own. -/
theorem validateThatNoAncestorIsSiloDecorated_raises (marks : Marks) (c : ClassId) :
    (∀ c' queue, ((queue ++ T.bases c').map T.treeSize).sum < ((c' :: queue).map T.treeSize).sum) ∧
    (T.validateThatNoAncestorIsSiloDecorated marks c = .ok () ∨
      T.validateThatNoAncestorIsSiloDecorated marks c = .error (.ancestorAlreadySiloDecorated
        ("Cannot decorate class '" ++ T.name c ++ "', which inherits from a silo decorated class"))) ∧
    (T.validateThatNoAncestorIsSiloDecorated marks c ≠ .ok () ↔ ∃ d, T.Reach c d ∧ truthy (marks d) = true) := by
  refine ⟨T.treeSize_turn_lt, ?_, ?_⟩
  · cases h : T.validateThatNoAncestorIsSiloDecorated marks c with
    | ok u => exact .inl rfl
    | error e => exact .inr (congrArg Except.error (ancestorWalk_error marks _ [c] h))
  · simp only [ne_eq, validateThatNoAncestorIsSiloDecorated_eq_ok, not_forall, Bool.not_eq_false, exists_prop]

end ClassTable

/-- `SiloModeTestDecorator`: the silo modes a decorated test is expected to work in, besides `MONOLITH`. -/
structure SiloModeTestDecorator where
  siloModes : List SiloMode

namespace SiloModeTestDecorator

/-- `SiloModeTestDecorator(*silo_modes)`: `frozenset(sm for sm in silo_modes if sm != SiloMode.MONOLITH)`. -/
def new (siloModes : List SiloMode) : SiloModeTestDecorator :=
  ⟨(siloModes.filter fun m => m != .monolith).dedup⟩

/-- `__call__(stable=stable, regions=regions)`: the modification whose `apply` decorates the object. -/
def call (dec : SiloModeTestDecorator) (stable : Bool) (regions : List Region) : SiloModeTestModification :=
  { siloModes := dec.siloModes, regions := if regions.isEmpty then defaultTestRegions else regions, stable }

/-- The modes `SiloModeTestDecorator(*silo_modes)` keeps hold no duplicate and no `MONOLITH`. -/
theorem new_siloModes (siloModes : List SiloMode) :
    (new siloModes).siloModes.Nodup ∧ .monolith ∉ (new siloModes).siloModes :=
  ⟨List.nodup_dedup _, by simp [SiloModeTestDecorator.new]⟩

end SiloModeTestDecorator

def allSiloTest : SiloModeTestDecorator := .new [.control, .region]
def noSiloTest : SiloModeTestDecorator := .new []
def controlSiloTest : SiloModeTestDecorator := .new [.control]
def regionSiloTest : SiloModeTestDecorator := .new [.region]

/-- What `apply` is given: a class, a function, or any other object. -/
inductive Target
  | cls (c : ClassId)
  | function (f : TestFunction)
  | other

/-- What `apply` returns: the object itself, the class for the primary mode (with the sibling classes set on the
module), or the parametrized function. -/
inductive Decorated
  | same (t : Target)
  | classes (siblings : List (OverridingClass ClassId)) (primary : OverridingClass ClassId)
  | parametrized (pt : Parametrized)

/-- The process-wide switches `apply` reads: `SENTRY_USE_MONOLITH_DBS` and `settings.FORCE_SILOED_TESTS`. -/
structure Switches where
  useMonolithDbs   : Bool
  forceSiloedTests : Bool

namespace SiloModeTestModification

variable (mod : SiloModeTestModification) (T : ClassTable) (sw : Switches)

/-- `SENTRY_USE_MONOLITH_DBS or not (self.stable or settings.FORCE_SILOED_TESTS)`: only the monolith run is wanted. -/
def monolithOnly : Bool := sw.useMonolithDbs || !(mod.stable || sw.forceSiloedTests)

/-- `apply(decorated_obj)`, with the classes' marks: refuse what is neither a `TestCase` class nor a function; walk a
class's ancestors and mark it with the modes; then expand it, or the function, unless only the monolith run is
wanted. -/
def apply (marks : Marks) : Target → Except Exc (Marks × Decorated)
  | .cls c =>
    if T.isTestCase c then do
      T.validateThatNoAncestorIsSiloDecorated marks c
      let marks := Function.update marks c (some mod.siloModes)
      if mod.monolithOnly sw then pure (marks, .same (.cls c))
      else
        let (siblings, primary) := mod.addSiloedTestClassesToModule c (T.name c)
        pure (marks, .classes siblings primary)
    else throw (.valueError "@SiloModeTest must decorate a function or TestCase class")
  | .function f =>
    if mod.monolithOnly sw then pure (marks, .same (.function f))
    else do pure (marks, .parametrized (← mod.markParameterizedBySiloMode f))
  | .other => throw (.valueError "@SiloModeTest must decorate a function or TestCase class")

end SiloModeTestModification

/-- One class decoration of a test suite: the decorator, its `stable` and `regions` arguments, and the class. -/
structure Decoration where
  dec     : SiloModeTestDecorator
  stable  : Bool
  regions : List Region
  target  : ClassId

/-- The decoration's `apply` on its class. -/
def Decoration.apply (T : ClassTable) (sw : Switches) (marks : Marks) (d : Decoration) :
    Except Exc (Marks × Decorated) :=
  (d.dec.call d.stable d.regions).apply T sw marks (.cls d.target)

/-- Apply the decorations in order from the marks `marks`, and record of each whether it raised: one that raises
leaves the marks as they were. -/
def decorateAll (T : ClassTable) (sw : Switches) : Marks → List Decoration → List (Decoration × Bool)
  | _, [] => []
  | marks, d :: ds =>
    match d.apply T sw marks with
    | .ok (marks', _) => (d, false) :: decorateAll T sw marks' ds
    | .error _ => (d, true) :: decorateAll T sw marks ds

@[simp] theorem truthy_some (l : List SiloMode) : truthy (some l) = true ↔ l ≠ [] := by
  cases l <;> simp [truthy]

namespace SiloModeTestModification

variable {mod : SiloModeTestModification} {T : ClassTable} {sw : Switches} {marks : Marks}

/-- **`apply` on a class succeeds exactly when it is a `TestCase` class none of whose ancestors, itself included,
holds a truthy mark; then it marks the class with its modes.** -/
theorem apply_cls_eq_ok (c : ClassId) :
    (∃ r, mod.apply T sw marks (.cls c) = .ok r) ↔
      T.isTestCase c ∧ ∀ d, T.Reach c d → truthy (marks d) = false := by
  rw [← ClassTable.validateThatNoAncestorIsSiloDecorated_eq_ok]
  by_cases ht : T.isTestCase c <;> simp only [apply, ht, if_true, if_false, throw_eq_error]
  · cases T.validateThatNoAncestorIsSiloDecorated marks c
    · simp only [error_bind, reduceCtorEq, exists_false, and_false]
    · split <;> simp only [pure_eq_ok, ok_bind, Except.ok.injEq, exists_eq', and_self]
  · simp only [Bool.false_eq_true, ↓reduceIte, reduceCtorEq, exists_false, false_and]

theorem apply_cls_marks {c : ClassId} {r : Marks × Decorated} (h : mod.apply T sw marks (.cls c) = .ok r) :
    r.1 = Function.update marks c (some mod.siloModes) := by
  by_cases ht : T.isTestCase c <;> simp only [apply, ht, if_true, if_false, throw_eq_error] at h
  · obtain ⟨⟨⟩, -, h⟩ := bind_eq_ok.1 h
    split at h <;> simp only [pure_eq_ok, Except.ok.injEq] at h <;> rw [← h]
  · cases h

/-- A refused class is refused for not being a `TestCase` class, or with `AncestorAlreadySiloDecoratedException`
naming it. -/
theorem apply_cls_error {c : ClassId} {e : Exc} (h : mod.apply T sw marks (.cls c) = .error e) :
    e = .valueError "@SiloModeTest must decorate a function or TestCase class" ∨
      e = .ancestorAlreadySiloDecorated
        ("Cannot decorate class '" ++ T.name c ++ "', which inherits from a silo decorated class") := by
  by_cases ht : T.isTestCase c <;> simp only [apply, ht, if_true, if_false, throw_eq_error] at h
  · cases hv : T.validateThatNoAncestorIsSiloDecorated marks c with
    | error e' =>
      rw [hv, error_bind] at h
      exact .inr (ClassTable.ancestorWalk_error marks _ [c] (Except.error.inj h ▸ hv))
    | ok u => rw [hv, ok_bind] at h; split at h <;> cases h
  · exact .inl (Except.error.inj h).symm

end SiloModeTestModification

/-- The marks a run of decorations leaves: a class holds a truthy mark of its own exactly when a decoration with a
non-empty mode set succeeded on it. -/
def MarksRecord (marks : Marks) (done : List (Decoration × Bool)) : Prop :=
  ∀ c, truthy (marks c) = true ↔ ∃ d ∈ done, d.2 = false ∧ d.1.dec.siloModes ≠ [] ∧ d.1.target = c

namespace MarksRecord

variable {marks : Marks} {done : List (Decoration × Bool)}

theorem init : MarksRecord (fun _ => none) [] := by
  simp only [MarksRecord, truthy, Bool.false_eq_true, List.not_mem_nil, false_and, exists_false, implies_true]

/-- An entry the record's condition rejects adds nothing to it. -/
theorem exists_mem_append_of_not {p : Decoration × Bool → Prop} {x : Decoration × Bool} (hx : ¬p x) :
    (∃ d ∈ done ++ [x], p d) ↔ ∃ d ∈ done, p d := by
  simp only [List.mem_append, List.mem_singleton, or_and_right, exists_or, exists_eq_left, hx, or_false]

theorem raised (h : MarksRecord marks done) (d : Decoration) : MarksRecord marks (done ++ [(d, true)]) := by
  intro c
  rw [h c, exists_mem_append_of_not fun h' => Bool.noConfusion h'.1]

theorem marked (h : MarksRecord marks done) (d : Decoration) (hd : truthy (marks d.target) = false) :
    MarksRecord (Function.update marks d.target (some d.dec.siloModes)) (done ++ [(d, false)]) := by
  intro c
  by_cases hc : c = d.target
  · subst hc
    have hnone := (h d.target).not.1 (by simp [hd])
    simp only [Function.update_same, truthy_some, List.mem_append, List.mem_singleton]
    constructor
    · intro hm; exact ⟨(d, false), .inr rfl, rfl, hm, rfl⟩
    · rintro ⟨d', hd' | rfl, h₁, h₂, h₃⟩
      · exact absurd ⟨d', hd', h₁, h₂, h₃⟩ hnone
      · exact h₂
  · rw [Function.update_noteq hc, h c, exists_mem_append_of_not fun h' => hc h'.2.2.symm]

/-- No class `c` reaches holds a truthy mark exactly when no decoration with modes succeeded on one of them. -/
theorem unmarked_iff (h : MarksRecord marks done) (T : ClassTable) (c : ClassId) :
    (∀ e, T.Reach c e → truthy (marks e) = false) ↔
      ¬ ∃ d ∈ done, d.2 = false ∧ d.1.dec.siloModes ≠ [] ∧ T.Reach c d.1.target := by
  constructor
  · rintro hn ⟨d, hd, h₁, h₂, hr⟩
    exact absurd ((h _).2 ⟨d, hd, h₁, h₂, rfl⟩) (by simp [hn _ hr])
  · intro hn e hr
    by_contra hm
    obtain ⟨d, hd, h₁, h₂, rfl⟩ := (h e).1 (by simpa using hm)
    exact hn ⟨d, hd, h₁, h₂, hr⟩

end MarksRecord

section Run

variable {T : ClassTable} {sw : Switches}

/-- **One decoration keeps the record**: it raises exactly when its class is no `TestCase` class or reaches one
that a decoration with modes succeeded on. -/
theorem decorateAll_cons {marks : Marks} {done : List (Decoration × Bool)} (h : MarksRecord marks done)
    (d : Decoration) (ds : List Decoration) :
    ∃ marks' r, decorateAll T sw marks (d :: ds) = (d, r) :: decorateAll T sw marks' ds ∧
      MarksRecord marks' (done ++ [(d, r)]) ∧
      (r = true ↔ T.isTestCase d.target = false ∨
        ∃ d' ∈ done, d'.2 = false ∧ d'.1.dec.siloModes ≠ [] ∧ T.Reach d.target d'.1.target) := by
  have hok := @SiloModeTestModification.apply_cls_eq_ok (d.dec.call d.stable d.regions) T sw marks d.target
  rw [h.unmarked_iff T] at hok
  rcases hr : d.apply T sw marks with e | ⟨marks', x⟩
  · refine ⟨marks, true, by rw [decorateAll, hr], h.raised d, iff_of_true rfl ?_⟩
    by_contra hn
    rw [not_or, Bool.not_eq_false] at hn
    obtain ⟨r, hr'⟩ := hok.2 hn
    exact absurd (hr.symm.trans hr') (by simp)
  · obtain ⟨ht, hn⟩ := hok.1 ⟨_, hr⟩
    have hm : marks' = _ := SiloModeTestModification.apply_cls_marks hr
    refine ⟨marks', false, by rw [decorateAll, hr], hm ▸ h.marked d ?_,
      iff_of_false Bool.false_ne_true (not_or.2 ⟨by rw [ht]; decide, hn⟩)⟩
    exact (h.unmarked_iff T d.target).2 hn _ .refl

theorem decorateAll_map_fst (marks : Marks) :
    ∀ ds : List Decoration, (decorateAll T sw marks ds).map Prod.fst = ds
  | [] => rfl
  | d :: ds => by
    rw [decorateAll]
    split <;> simp only [List.map_cons, decorateAll_map_fst]

theorem decorateAll_raised : ∀ (ds : List Decoration) (marks : Marks) (done : List (Decoration × Bool)),
    MarksRecord marks done → ∀ pre d r post, decorateAll T sw marks ds = pre ++ (d, r) :: post →
      (r = true ↔ T.isTestCase d.target = false ∨
        ∃ d' ∈ done ++ pre, d'.2 = false ∧ d'.1.dec.siloModes ≠ [] ∧ T.Reach d.target d'.1.target)
  | [], _, _, _, pre, _, _, _, h => by cases pre <;> cases h
  | d₀ :: ds, marks, done, hrec, pre, d, r, post, h => by
    obtain ⟨marks', r₀, hcons, hrec', hiff⟩ := @decorateAll_cons T sw _ _ hrec d₀ ds
    rw [hcons] at h
    cases pre with
    | nil =>
      obtain ⟨⟨rfl, rfl⟩, -⟩ := List.cons_eq_cons.1 h
      rwa [List.append_nil]
    | cons p pre =>
      obtain ⟨rfl, hrest⟩ := List.cons_eq_cons.1 (h.trans (List.cons_append _ _ _))
      rw [List.append_cons]
      exact decorateAll_raised ds _ _ hrec' pre d r post hrest

/-- **Over any run of decorations from unmarked classes, a decoration raises exactly when its class is no `TestCase`
class, or reaches through `__bases__` a class that an earlier decoration with a non-empty mode set succeeded on.**
A successful `no_silo_test` decoration marks nothing the walk sees. -/
theorem decorate_raises_iff {ds : List Decoration} {pre post : List (Decoration × Bool)} {d : Decoration} {r : Bool}
    (h : decorateAll T sw (fun _ => none) ds = pre ++ (d, r) :: post) :
    r = true ↔ T.isTestCase d.target = false ∨
      ∃ d' ∈ pre, d'.2 = false ∧ d'.1.dec.siloModes ≠ [] ∧ T.Reach d.target d'.1.target :=
  decorateAll_raised ds _ [] MarksRecord.init pre d r post h

end Run

/-- A test module with one `TestCase` class `C`, whose only base is `object`, which holds no `_silo_modes`. -/
def singleTestCase : ClassTable where
  bases _ := []
  height _ := 0
  bases_lt _ _ h := absurd h (List.not_mem_nil _)
  mro c := [c]
  mro_head _ := ⟨[], rfl⟩
  mro_sub _ _ h := List.mem_singleton.1 h ▸ .refl
  isTestCase _ := true
  name _ := "C"

/-- `no_silo_test(C)` and then `control_silo_test(stable=True)(C)`: both succeed, since the first writes
`C._silo_modes = frozenset()`, which the walk reads as false. -/
theorem noSiloTest_mark_unseen :
    decorateAll singleTestCase ⟨false, false⟩ (fun _ => none)
      [⟨noSiloTest, false, [], 0⟩, ⟨controlSiloTest, true, [], 0⟩] =
      [(⟨noSiloTest, false, [], 0⟩, false), (⟨controlSiloTest, true, [], 0⟩, false)] := by
  simp [decorateAll, Decoration.apply, SiloModeTestModification.apply, ClassTable.validateThatNoAncestorIsSiloDecorated,
    ClassTable.ancestorWalk, ClassTable.getSiloModes, singleTestCase, noSiloTest, SiloModeTestDecorator.new,
    SiloModeTestDecorator.call, truthy, SiloModeTestModification.monolithOnly]

/-- Decorating `C` twice with `control_silo_test(stable=True)`: the second decoration raises, as the first one, with a
non-empty mode set, succeeded on `C` itself. -/
theorem controlSiloTest_twice_raises :
    decorateAll singleTestCase ⟨false, false⟩ (fun _ => none)
        [⟨controlSiloTest, true, [], 0⟩, ⟨controlSiloTest, true, [], 0⟩] =
      [(⟨controlSiloTest, true, [], 0⟩, false)] ++ (⟨controlSiloTest, true, [], 0⟩, true) :: [] ∧
    (true = true ↔ singleTestCase.isTestCase 0 = false ∨
      ∃ d' ∈ [((⟨controlSiloTest, true, [], 0⟩ : Decoration), false)], d'.2 = false ∧ d'.1.dec.siloModes ≠ [] ∧
        singleTestCase.Reach 0 d'.1.target) :=
  have h : decorateAll singleTestCase ⟨false, false⟩ (fun _ => none)
      [⟨controlSiloTest, true, [], 0⟩, ⟨controlSiloTest, true, [], 0⟩] =
      [(⟨controlSiloTest, true, [], 0⟩, false)] ++ (⟨controlSiloTest, true, [], 0⟩, true) :: [] := by
    simp [decorateAll, Decoration.apply, SiloModeTestModification.apply, ClassTable.validateThatNoAncestorIsSiloDecorated,
      ClassTable.ancestorWalk, ClassTable.getSiloModes, singleTestCase, controlSiloTest, SiloModeTestDecorator.new,
      SiloModeTestDecorator.call, truthy, SiloModeTestModification.monolithOnly]
  ⟨h, decorate_raises_iff h⟩

/-! ## What a decorated class expands to -/

namespace SiloModeTestModification

variable {mod : SiloModeTestModification} {T : ClassTable} {sw : Switches} {marks : Marks}

theorem apply_cls_classes {c : ClassId} {marks' : Marks} {siblings : List (OverridingClass ClassId)}
    {primary : OverridingClass ClassId} (h : mod.apply T sw marks (.cls c) = .ok (marks', .classes siblings primary)) :
    mod.addSiloedTestClassesToModule c (T.name c) = (siblings, primary) := by
  by_cases ht : T.isTestCase c <;> simp only [apply, ht, if_true, if_false, throw_eq_error] at h
  · obtain ⟨⟨⟩, -, h⟩ := bind_eq_ok.1 h
    split at h <;> simp only [pure_eq_ok, Except.ok.injEq, Prod.mk.injEq, Decorated.classes.injEq, reduceCtorEq,
      and_false] at h
    exact Prod.ext h.2.1 h.2.2
  · cases h

/-- **A class decoration that expands the class runs every wanted mode once, under distinct names.**  When `apply`
returns the class for the primary mode and its siblings, for modes without duplicates or `MONOLITH`: the classes run
distinct modes, which are the modes the parametrized function runs, except `MONOLITH` when the single mode opts out of
the monolith run; the class keeps its name and each sibling is named by the class's name and its mode's suffix, so
no two share a name; and each is a subclass of the decorated class under the same modification. -/
theorem apply_cls_expansion (hnd : mod.siloModes.Nodup) (hmono : .monolith ∉ mod.siloModes) {c : ClassId}
    {marks' : Marks} {siblings : List (OverridingClass ClassId)} {primary : OverridingClass ClassId}
    (h : mod.apply T sw marks (.cls c) = .ok (marks', .classes siblings primary)) :
    ((primary :: siblings).map (·.siloMode)).Nodup ∧
    (∀ m, m ∈ (primary :: siblings).map (·.siloMode) ↔
      m ∈ mod.parametrizedModes ∧ ¬(m = .monolith ∧ mod.siloModes.length = 1 ∧ mod.includeMonolithRun = false)) ∧
    primary.name = T.name c ∧ (∀ oc ∈ siblings, oc.name = T.name c ++ getTestNameSuffix oc.siloMode) ∧
    ((primary :: siblings).map (·.name)).Nodup ∧
    ∀ oc ∈ primary :: siblings, oc.base = c ∧ oc.mod = mod :=
  addSiloedTestClassesToModule_expansion hnd hmono c (T.name c) (apply_cls_classes h)

end SiloModeTestModification

end Silo
