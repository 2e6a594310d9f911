import Silo.Fence
/-!
# FenceLaws — what edits to a statement log do to the verdict

`validate_protected_queries` is a scan with one number of state, `fence_depth`, and a statement fails only where
that number is zero.  A fence start raises it, every other statement keeps or lowers it, and the scan is monotone in
it (`scanQueries_mono`).  So a fence start inserted anywhere never makes a passing log fail, nor does deleting any
statement that is not a fence start (`validateProtectedQueries_fenceEdits`); and a failing log keeps failing when
statements are appended or more patterns are protected (`validateProtectedQueries_failure_persists`).  The edit
laws come from one: an edit that keeps the rest of a log passing from any deeper state keeps the whole log passing
(`scanQueries_edit`).  None of this needs the classifier to yield only `start` and `end`, nor any law of the case
comparison: a passing log holds no other marker.
-/
namespace Silo

section Mono

variable {matchFenceQuery : String → Option String} {isProtected : String → Bool}

/-- A step succeeds or fails whatever the state, and a deeper state stays at least as deep. -/
theorem fenceStep_mono {st st' s₁ : FenceState} {index index' : Nat} {sql : String}
    (h : fenceStep matchFenceQuery st index sql = .ok s₁) (hd : st.depth ≤ st'.depth) :
    ∃ s₁', fenceStep matchFenceQuery st' index' sql = .ok s₁' ∧ s₁.depth ≤ s₁'.depth := by
  unfold fenceStep at h ⊢
  cases hm : matchFenceQuery sql with
  | none => rw [hm] at h; cases h; exact ⟨st', rfl, hd⟩
  | some op =>
    rw [hm] at h
    dsimp only at h ⊢
    split_ifs at h ⊢ with hs he
    · cases h; exact ⟨_, rfl, Nat.succ_le_succ hd⟩
    · cases h; exact ⟨_, rfl, Nat.sub_le_sub_right hd 1⟩

/-- A step that is no fence start never deepens the state. -/
theorem fenceStep_depth_le {st s₁ : FenceState} {index : Nat} {sql : String}
    (hs : matchFenceQuery sql ≠ some "start") (h : fenceStep matchFenceQuery st index sql = .ok s₁) :
    s₁.depth ≤ st.depth := by
  unfold fenceStep at h
  cases hm : matchFenceQuery sql with
  | none => rw [hm] at h; cases h; exact Nat.le_refl _
  | some op =>
    rw [hm] at h
    dsimp only at h
    split_ifs at h with h₁ h₂
    · exact absurd (hm.trans (congrArg some h₁)) hs
    · cases h; exact Nat.sub_le _ _

/-- A fence start deepens the state by one and records its position. -/
theorem fenceStep_start {st : FenceState} {index : Nat} {sql : String} (hs : matchFenceQuery sql = some "start") :
    fenceStep matchFenceQuery st index sql = .ok ⟨st.depth + 1, index⟩ := by
  rw [fenceStep, hs]
  rfl

/-- **The scan is monotone in the depth and antitone in what is protected**: what passes from a state passes from
any deeper one and with fewer statements protected, wherever it stands in whatever log the report would read. -/
theorem scanQueries_mono {isProtected' : String → Bool} (hP : ∀ s, isProtected s = true → isProtected' s = true) :
    ∀ (l : List (Option String)) {queries queries' : List (Option String)} {index index' : Nat}
      {st st' : FenceState}, st.depth ≤ st'.depth →
    scanQueries matchFenceQuery isProtected' queries index st l = .ok () →
    scanQueries matchFenceQuery isProtected queries' index' st' l = .ok ()
  | [], _, _, _, _, _, _, _, _ => rfl
  | none :: l, _, _, _, _, _, _, hd, h => scanQueries_mono hP l hd h
  | some sql :: l, _, _, _, _, _, _, hd, h => by
    rw [scanQueries] at h ⊢
    obtain ⟨s₁, h₁, h⟩ := bind_eq_ok.1 h
    obtain ⟨s₁', h₁', hd₁⟩ := fenceStep_mono h₁ hd
    rw [h₁', ok_bind]
    split at h
    · exact absurd h (reportProtectedOperation_ne_ok _ _ _ _)
    · rename_i hc
      rw [if_neg fun hc' => hc ?_]
      · exact scanQueries_mono hP l hd₁ h
      · simp only [Bool.and_eq_true, beq_iff_eq] at hc' ⊢
        exact ⟨hP sql hc'.1, by omega⟩

/-- The fence bookkeeping is monotone in the depth, and runs whatever the state. -/
theorem fenceRun_mono : ∀ (l : List (Option String)) {index index' : Nat} {st st' s₁ : FenceState},
    fenceRun matchFenceQuery index st l = .ok s₁ → st.depth ≤ st'.depth →
    ∃ s₁', fenceRun matchFenceQuery index' st' l = .ok s₁' ∧ s₁.depth ≤ s₁'.depth
  | [], _, _, _, _, _, h, hd => by cases h; exact ⟨_, rfl, hd⟩
  | none :: l, _, _, _, _, _, h, hd => fenceRun_mono l h hd
  | some sql :: l, _, _, _, _, _, h, hd => by
    obtain ⟨s₂, h₂, h⟩ := bind_eq_ok.1 h
    obtain ⟨s₂', h₂', hd₂⟩ := fenceStep_mono h₂ hd
    obtain ⟨s₁', h', hd'⟩ := fenceRun_mono l h hd₂
    exact ⟨s₁', by rw [fenceRun, h₂', ok_bind, h'], hd'⟩

/-- **A scan over two stretches** passes the first, and then the second from the state the first leaves. -/
theorem scanQueries_append : ∀ (l₁ : List (Option String)) {l₂ queries : List (Option String)} {index : Nat}
    {st : FenceState},
    scanQueries matchFenceQuery isProtected queries index st (l₁ ++ l₂) = .ok () ↔
      ∃ st₁, fenceRun matchFenceQuery index st l₁ = .ok st₁ ∧
        scanQueries matchFenceQuery isProtected queries index st l₁ = .ok () ∧
        scanQueries matchFenceQuery isProtected queries (index + l₁.length) st₁ l₂ = .ok ()
  | [], _, _, _, st => ⟨fun h => ⟨st, rfl, rfl, h⟩, fun ⟨_, h₁, _, h⟩ => by cases h₁; exact h⟩
  | none :: l₁, _, _, index, _ => by
    rw [List.length_cons, ← Nat.add_assoc, Nat.add_right_comm]
    exact scanQueries_append l₁
  | some sql :: l₁, l₂, queries, index, st => by
    rw [List.cons_append, scanQueries, scanQueries, fenceRun, List.length_cons, ← Nat.add_assoc, Nat.add_right_comm]
    cases h₁ : fenceStep matchFenceQuery st index sql with
    | error e => exact iff_of_false nofun fun ⟨_, h, _⟩ => nomatch h
    | ok s₁ =>
      simp only [ok_bind]
      split
      · exact iff_of_false (reportProtectedOperation_ne_ok _ _ _ _)
          fun ⟨_, _, h, _⟩ => reportProtectedOperation_ne_ok _ _ _ _ h
      · exact scanQueries_append l₁

end Mono

section Edits

variable {matchFenceQuery : String → Option String} {isProtected : String → Bool}

/-- An edit after `l₁` keeps a passing scan passing when it keeps what follows passing from any deeper state. -/
theorem scanQueries_edit (l₁ : List (Option String)) {l₂ l₂' : List (Option String)}
    (hedit : ∀ {queries queries' : List (Option String)} {index index' : Nat} {s s' : FenceState},
      s.depth ≤ s'.depth → scanQueries matchFenceQuery isProtected queries index s l₂ = .ok () →
        scanQueries matchFenceQuery isProtected queries' index' s' l₂' = .ok ())
    {queries queries' : List (Option String)} {index index' : Nat} {st st' : FenceState} (hd : st.depth ≤ st'.depth)
    (h : scanQueries matchFenceQuery isProtected queries index st (l₁ ++ l₂) = .ok ()) :
    scanQueries matchFenceQuery isProtected queries' index' st' (l₁ ++ l₂') = .ok () := by
  obtain ⟨s₁, hrun, hl₁, hl₂⟩ := (scanQueries_append l₁).1 h
  obtain ⟨s₁', hrun', hd₁⟩ := fenceRun_mono l₁ hrun hd
  exact (scanQueries_append l₁).2 ⟨s₁', hrun', scanQueries_mono (fun _ => id) l₁ hd hl₁, hedit hd₁ hl₂⟩

/-- Inserting a fence start keeps a passing scan passing: its own fence step opens a fence before its check. -/
theorem scanQueries_insert_start {s : String} (hs : matchFenceQuery s = some "start")
    (l₁ l₂ : List (Option String)) {queries queries' : List (Option String)} {index index' : Nat}
    {st st' : FenceState} (hd : st.depth ≤ st'.depth)
    (h : scanQueries matchFenceQuery isProtected queries index st (l₁ ++ l₂) = .ok ()) :
    scanQueries matchFenceQuery isProtected queries' index' st' (l₁ ++ some s :: l₂) = .ok () := by
  refine scanQueries_edit l₁ (fun hd₁ hl₂ => ?_) hd h
  rw [scanQueries, fenceStep_start hs, ok_bind, if_neg (by simp)]
  exact scanQueries_mono (fun _ => id) l₂ (Nat.le_succ_of_le hd₁) hl₂

/-- Inserting a `None` entry keeps a passing scan passing. -/
theorem scanQueries_insert_none (l₁ l₂ : List (Option String)) {queries queries' : List (Option String)}
    {index index' : Nat} {st st' : FenceState} (hd : st.depth ≤ st'.depth)
    (h : scanQueries matchFenceQuery isProtected queries index st (l₁ ++ l₂) = .ok ()) :
    scanQueries matchFenceQuery isProtected queries' index' st' (l₁ ++ none :: l₂) = .ok () := by
  refine scanQueries_edit l₁ (fun hd₁ hl₂ => ?_) hd h
  exact scanQueries_mono (fun _ => id) l₂ hd₁ hl₂

/-- Deleting an entry that is no fence start keeps a passing scan passing. -/
theorem scanQueries_delete {x : Option String} (hx : ∀ sql, x = some sql → matchFenceQuery sql ≠ some "start")
    (l₁ l₂ : List (Option String)) {queries queries' : List (Option String)} {index index' : Nat}
    {st st' : FenceState} (hd : st.depth ≤ st'.depth)
    (h : scanQueries matchFenceQuery isProtected queries index st (l₁ ++ x :: l₂) = .ok ()) :
    scanQueries matchFenceQuery isProtected queries' index' st' (l₁ ++ l₂) = .ok () := by
  refine scanQueries_edit l₁ (fun hd₁ hl₂ => ?_) hd h
  cases x with
  | none => exact scanQueries_mono (fun _ => id) l₂ hd₁ hl₂
  | some sql =>
    rw [scanQueries] at hl₂
    obtain ⟨s₂, h₂, hl₂⟩ := bind_eq_ok.1 hl₂
    split at hl₂
    · exact absurd hl₂ (reportProtectedOperation_ne_ok _ _ _ _)
    · exact scanQueries_mono (fun _ => id) l₂ (Nat.le_trans (fenceStep_depth_le (hx sql rfl) h₂) hd₁) hl₂

end Edits

/-- **Fence edits that never break a passing log.**  Inserting a fence start anywhere in a log that passes
`validate_protected_queries` keeps it passing, even a start that a protected pattern matches, since its own fence
step runs before its check; so does deleting any entry that is not a fence start: a `None`, a fence end, or any other
statement.  `None` entries never change whether a log passes, only what a failure reports. -/
theorem validateProtectedQueries_fenceEdits (matchFenceQuery : String → Option String) (ignoreCase : IgnoreCase)
    (protectedOps : List Pattern) (l₁ l₂ : List (Option String)) :
    (∀ s, matchFenceQuery s = some "start" →
      validateProtectedQueries matchFenceQuery ignoreCase protectedOps (l₁ ++ l₂) = .ok () →
      validateProtectedQueries matchFenceQuery ignoreCase protectedOps (l₁ ++ some s :: l₂) = .ok ()) ∧
    (∀ x, (∀ sql, x = some sql → matchFenceQuery sql ≠ some "start") →
      validateProtectedQueries matchFenceQuery ignoreCase protectedOps (l₁ ++ x :: l₂) = .ok () →
      validateProtectedQueries matchFenceQuery ignoreCase protectedOps (l₁ ++ l₂) = .ok ()) ∧
    (validateProtectedQueries matchFenceQuery ignoreCase protectedOps (l₁ ++ none :: l₂) = .ok () ↔
      validateProtectedQueries matchFenceQuery ignoreCase protectedOps (l₁ ++ l₂) = .ok ()) :=
  ⟨fun _ hs h => scanQueries_insert_start hs l₁ l₂ (Nat.le_refl 0) h,
    fun _ hx h => scanQueries_delete hx l₁ l₂ (Nat.le_refl 0) h,
    ⟨scanQueries_delete (fun _ h => Option.noConfusion h) l₁ l₂ (Nat.le_refl 0),
      scanQueries_insert_none l₁ l₂ (Nat.le_refl 0)⟩⟩

/-- A delete from `sentry_user` between a fence start and a fence end still passes behind a second fence start, and
without its fence end. -/
theorem fenceEdits_fencedDelete :
    validateProtectedQueries markerFence .asciiLower outboxPatterns
        [some "start", some "start", some "DELETE FROM \"sentry_user\"", some "end"] = .ok () ∧
      validateProtectedQueries markerFence .asciiLower outboxPatterns
        [some "start", some "DELETE FROM \"sentry_user\""] = .ok () :=
  ⟨(validateProtectedQueries_fenceEdits markerFence .asciiLower outboxPatterns []
      [some "start", some "DELETE FROM \"sentry_user\"", some "end"]).1 "start" rfl rfl,
    (validateProtectedQueries_fenceEdits markerFence .asciiLower outboxPatterns
      [some "start", some "DELETE FROM \"sentry_user\""] []).2.1 (some "end") (by rintro _ ⟨⟩; decide) rfl⟩

/-- **A failure is never cured later.**  A log that fails `validate_protected_queries` fails again with any
statements appended, and fails again when more patterns are protected. -/
theorem validateProtectedQueries_failure_persists (matchFenceQuery : String → Option String)
    (ignoreCase : IgnoreCase) (protectedOps protectedOps' : List Pattern) (l₁ l₂ : List (Option String)) :
    (validateProtectedQueries matchFenceQuery ignoreCase protectedOps l₁ ≠ .ok () →
      validateProtectedQueries matchFenceQuery ignoreCase protectedOps (l₁ ++ l₂) ≠ .ok ()) ∧
    (protectedOps ⊆ protectedOps' → validateProtectedQueries matchFenceQuery ignoreCase protectedOps l₁ ≠ .ok () →
      validateProtectedQueries matchFenceQuery ignoreCase protectedOps' l₁ ≠ .ok ()) := by
  refine ⟨fun hfail h => hfail ?_, fun hsub hfail h => hfail ?_⟩
  · obtain ⟨_, -, hl₁, -⟩ := (scanQueries_append l₁).1 h
    exact scanQueries_mono (fun _ => id) l₁ (Nat.le_refl 0) hl₁
  · refine scanQueries_mono (fun sql hp => ?_) l₁ (Nat.le_refl 0) h
    obtain ⟨p, hp, hm⟩ := List.any_eq_true.1 hp
    exact List.any_eq_true.2 ⟨p, hsub hp, hm⟩

end Silo
