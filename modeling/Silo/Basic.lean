import Mathlib.Data.List.Infix
/-!
# Basic — silo modes, Python values and exceptions

The vocabulary every other module reads: `SiloMode` in its enum order, the `ModelSiloLimit` a model's `_meta`
carries, the values Django settings and test arguments hold, the exceptions `silo.py` raises or lets through, and the
`str` tests `iter_models` and the test-name suffixes use, read on characters.  A Python function that may raise is an
`Except Exc`; `bind_eq_ok` peels one apart.
-/
namespace Silo

/-- `sentry.silo.SiloMode`, in its definition order, which is the order `for silo_mode in SiloMode` visits. -/
inductive SiloMode
  | monolith
  | control
  | region
  deriving DecidableEq, Repr

namespace SiloMode

/-- Every member, in iteration order. -/
def all : List SiloMode := [.monolith, .control, .region]

/-- The member's `name`.  The enum's values are its names, so this is also `str(mode)`. -/
def name : SiloMode → String
  | .monolith => "MONOLITH"
  | .control => "CONTROL"
  | .region => "REGION"

theorem mem_all (m : SiloMode) : m ∈ all := by cases m <;> decide

end SiloMode

/-- `ModelSiloLimit`: the silo modes a model may be stored in. -/
structure ModelSiloLimit where
  modes : List SiloMode
  deriving DecidableEq, Repr

/-- A Python value, as the settings and a test's arguments hold it. -/
inductive Value
  | pyNone
  | bool (b : Bool)
  | str (s : String)
  | mode (m : SiloMode)
  deriving DecidableEq, Repr

/-- Python truthiness. -/
def Value.truthy : Value → Bool
  | .pyNone => false
  | .bool b => b
  | .str s => s != ""
  | .mode _ => true

/-- The exceptions `silo.py` raises, or lets through from what it calls, each with its message. -/
inductive Exc
  | valueError (msg : String)
  | assertionError (msg : String)
  | typeError (msg : String)
  | keyError (key : String)
  | indexError (msg : String)
  | attributeError (name : String)
  | ancestorAlreadySiloDecorated (msg : String)
  /-- An exception of another type, raised by code `silo.py` calls (a model lookup, a test body). -/
  | other (type msg : String)
  deriving DecidableEq, Repr

/-- `s.startswith(p)`. -/
def startswith (s p : String) : Bool := p.toList.isPrefixOf s.toList

/-- `s.endswith(p)`. -/
def endswith (s p : String) : Bool := p.toList.isSuffixOf s.toList

/-- `t in s` on strings. -/
def containsStr (s t : String) : Bool := decide (t.toList <:+: s.toList)

section Except

variable {ε α β : Type}

@[simp] theorem pure_eq_ok (a : α) : (pure a : Except ε α) = .ok a := rfl

@[simp] theorem throw_eq_error (e : ε) : (throw e : Except ε α) = .error e := rfl

@[simp] theorem ok_bind (a : α) (f : α → Except ε β) : (Except.ok a >>= f) = f a := rfl

@[simp] theorem error_bind (e : ε) (f : α → Except ε β) : (Except.error e >>= f) = .error e := rfl

/-- **A bind that returns** ran both halves. -/
theorem bind_eq_ok {x : Except ε α} {f : α → Except ε β} {b : β} :
    (x >>= f) = .ok b ↔ ∃ a, x = .ok a ∧ f a = .ok b := by
  cases x <;> simp only [error_bind, ok_bind, reduceCtorEq, false_and, exists_false, Except.ok.injEq, exists_eq_left']

theorem bind_unit_eq_ok {x : Except ε Unit} {f : Unit → Except ε β} {b : β} :
    (x >>= f) = .ok b ↔ x = .ok () ∧ f () = .ok b := by
  cases x <;> simp only [error_bind, ok_bind, reduceCtorEq, false_and, true_and]

/-- **A boolean test that either returns or goes on**, the shape of `if x: return v` followed by more code. -/
theorem bind_ite_eq_ok {x : Except ε Bool} {v a : α} {k : Except ε α} :
    (x >>= fun y => if y = true then Except.ok v else k) = .ok a ↔
      (x = .ok true ∧ v = a) ∨ (x = .ok false ∧ k = .ok a) := by
  rcases x with _ | ⟨_ | _⟩ <;>
    simp only [error_bind, ok_bind, ↓reduceIte, Except.ok.injEq, reduceCtorEq, Bool.false_eq_true, Bool.true_eq_false,
      true_and, false_and, or_false, false_or, or_self]

end Except

end Silo
