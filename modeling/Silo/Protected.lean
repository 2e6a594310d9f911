import Silo.Registry
import Mathlib.Data.List.Forall2
/-!
# Protected — `get_protected_operations` and its module-level memo

The protected patterns are derived once per process into `_protected_operations`, appending in place: a delete
pattern for the table of each `HybridCloudForeignKey` target, insert, update and delete patterns for each replicated
model's table, then seven fixed patterns for the outbox tables.  A later call returns the memo whenever it is
non-empty.  `getProtectedOperations_covers` says what a returning first call protects; the models it reaches are
those `iter_models(app_config.name)` yields, and that filter compares the dotted name with `apps.all_models`' label
keys.  A call that raises keeps what it appended, and every later call returns that.

A pattern is kept as the strings its regex is built from.  How `re.IGNORECASE` compares characters is the `re`
module's, not this file's, so it is a parameter (`IgnoreCase`) of which the model uses two laws.  For every such
comparison `Pattern.matches` decides the regex's language (`Pattern.matches_iff_spec`), and since `[^"]+` cannot
pass a `"`, two patterns of one operation that match a statement both read its first quoted name
(`protectedTable_matches_unique`).  On ASCII text every comparison is ASCII lowering (`Pattern.matches_ascii`).
-/
namespace Silo

/-- A `protected_table` pattern, `re.compile(f'{operation}[^"]+"{table}"', re.IGNORECASE)`, kept as the two strings
it is built from. -/
structure Pattern where
  operation : String
  table     : String
  deriving DecidableEq, Repr

/-- `protected_table(table, operation)`. -/
def protectedTable (table operation : String) : Pattern := ⟨operation, table⟩

/-- The regex source the pattern compiles. -/
def Pattern.source (p : Pattern) : String := p.operation ++ "[^\"]+\"" ++ p.table ++ "\""

/-- Only `"` lowers to `"`. -/
theorem toLower_eq_quote {c : Char} (h : c.toLower = '"') : c = '"' := by
  simp only [Char.toLower] at h
  split_ifs at h with hc
  · have hv : (c.toNat + 32).isValidChar := Or.inl (by omega)
    have h34 := congrArg Char.toNat h
    rw [Char.ofNat, dif_pos hv] at h34
    change c.toNat + 32 = 34 at h34
    omega
  · exact h

/-- How `re.IGNORECASE` compares a character `c` of the statement with a literal character `x` of a compiled pattern
(`eqv c x`).  `silo.py` does not define it: it is the `re` module's Unicode case equivalence, under which `ſ` matches
`s` and the Kelvin sign matches `k`.  The model uses two of its laws: `"` is uncased, so it matches and is matched by
`"` alone; and two ASCII characters compare as ASCII letters without regard to case. -/
structure IgnoreCase where
  eqv       : Char → Char → Bool
  quote_iff : ∀ c x, c = '"' ∨ x = '"' → (eqv c x = true ↔ c = x)
  ascii_eq  : ∀ c x, c.toNat < 128 → x.toNat < 128 → eqv c x = (c.toLower == x.toLower)

/-- The comparison by ASCII lowering, which is `re.IGNORECASE`'s on text whose characters are all ASCII. -/
def IgnoreCase.asciiLower : IgnoreCase where
  eqv c x := c.toLower == x.toLower
  quote_iff c x h := by
    rw [beq_iff_eq]
    rcases h with rfl | rfl
    · exact ⟨fun h => (toLower_eq_quote h.symm).symm, fun h => h ▸ rfl⟩
    · exact ⟨toLower_eq_quote, fun h => h ▸ rfl⟩
  ascii_eq _ _ _ _ := rfl

/-- `s` reads as the literal `lit` under `ignoreCase`: character by character, each matches the literal's. -/
def IgnoreCase.Literal (ignoreCase : IgnoreCase) (s lit : List Char) : Prop :=
  List.Forall₂ (fun c x => ignoreCase.eqv c x = true) s lit

/-- The rest of `s` after a prefix that reads as the literal `p` under `ignoreCase`. -/
def dropPrefixCI (ignoreCase : IgnoreCase) : List Char → List Char → Option (List Char)
  | [], s => some s
  | _ :: _, [] => none
  | x :: p, c :: s => if ignoreCase.eqv c x then dropPrefixCI ignoreCase p s else none

/-- `pattern.match(sql)` succeeds: from the start, the operation, one or more characters other than `"`, then the
table name in quotes, the literals compared under `ignoreCase`.  Operation and table names hold no regex
metacharacters. -/
def Pattern.matches (p : Pattern) (ignoreCase : IgnoreCase) (sql : String) : Bool :=
  match dropPrefixCI ignoreCase p.operation.toList sql.toList with
  | none => false
  | some rest =>
    match rest.span (· ≠ '"') with
    | (_ :: _, _ :: after) => (dropPrefixCI ignoreCase (p.table.toList ++ ['"']) after).isSome
    | _ => false

/-! ## What a pattern matches -/

section Matches

variable {ignoreCase : IgnoreCase}

theorem dropPrefixCI_eq_some : ∀ {p s r : List Char},
    dropPrefixCI ignoreCase p s = some r ↔ ∃ a, s = a ++ r ∧ ignoreCase.Literal a p
  | [], s, r => by
    simp only [dropPrefixCI, Option.some.injEq, IgnoreCase.Literal, List.forall₂_nil_right_iff, exists_eq_right,
      List.nil_append]
  | x :: p, [], r => by
    simp only [dropPrefixCI, reduceCtorEq, false_iff, not_exists, not_and]
    intro a h
    obtain ⟨rfl, -⟩ := List.append_eq_nil.1 h.symm
    exact nofun
  | x :: p, c :: s, r => by
    rw [dropPrefixCI]
    split
    · rename_i hc
      rw [dropPrefixCI_eq_some]
      constructor
      · rintro ⟨a, rfl, ha⟩
        exact ⟨c :: a, rfl, .cons hc ha⟩
      · rintro ⟨_ | ⟨c', a⟩, h, ha⟩
        · exact absurd ha nofun
        · obtain ⟨rfl, rfl⟩ := List.cons_eq_cons.1 h
          exact ⟨a, rfl, (List.forall₂_cons.1 ha).2⟩
    · rename_i hc
      refine iff_of_false nofun ?_
      rintro ⟨_ | ⟨c', a⟩, h, ha⟩
      · exact absurd ha nofun
      · obtain ⟨rfl, rfl⟩ := List.cons_eq_cons.1 h
        exact hc (List.forall₂_cons.1 ha).1

/-- `[^"]+"` stops at the first `"`. -/
theorem span_quote {b after : List Char} (hb : '"' ∉ b) :
    (b ++ '"' :: after).span (· ≠ '"') = (b, '"' :: after) := by
  have hpos : ∀ c ∈ b, decide (c ≠ '"') = true := fun c hc => decide_eq_true fun h => hb (h ▸ hc)
  rw [List.span_eq_take_drop, List.takeWhile_append_of_pos hpos, List.dropWhile_append_of_pos hpos]
  simp only [ne_eq, not_true_eq_false, decide_False, Bool.false_eq_true, not_false_eq_true,
    List.takeWhile_cons_of_neg, List.append_nil, List.dropWhile_cons_of_neg]

theorem span_eq_cons {l b after : List Char} {c : Char} (h : l.span (· ≠ '"') = (b, c :: after)) :
    l = b ++ c :: after ∧ '"' ∉ b ∧ c = '"' := by
  rw [List.span_eq_take_drop, Prod.mk.injEq] at h
  obtain ⟨hb, hc⟩ := h
  refine ⟨by rw [← hb, ← hc, List.takeWhile_append_dropWhile], fun hq => ?_, ?_⟩
  · rw [← hb] at hq
    simpa using List.mem_takeWhile_imp hq
  · have := List.head_dropWhile_not (fun c => decide (c ≠ '"')) l (by rw [hc]; exact nofun)
    simp only [hc, List.head_cons, decide_eq_false_iff_not, not_not] at this
    exact this

/-- What the quoted table name consumes: characters that read as the table's, then the closing `"`. -/
theorem dropPrefixCI_quoted {table after r : List Char}
    (h : dropPrefixCI ignoreCase (table ++ ['"']) after = some r) :
    ∃ t, after = t ++ '"' :: r ∧ ignoreCase.Literal t table := by
  obtain ⟨x, rfl, hx⟩ := dropPrefixCI_eq_some.1 h
  obtain ⟨c, u, hc, hu, hdrop⟩ := List.forall₂_cons_right_iff.1 (List.forall₂_drop_append x table ['"'] hx)
  rw [List.forall₂_nil_right_iff] at hu
  subst hu
  rw [(ignoreCase.quote_iff c '"' (.inr rfl)).1 hc] at hdrop
  refine ⟨x.take table.length, ?_, List.forall₂_take_append x table ['"'] hx⟩
  calc x ++ r = (x.take table.length ++ x.drop table.length) ++ r := by rw [List.take_append_drop]
    _ = x.take table.length ++ '"' :: r := by rw [hdrop, List.append_assoc]; rfl

/-- What reads as a quote-free name is quote-free. -/
theorem quote_not_mem_of_literal {t table : List Char} (ht : ignoreCase.Literal t table) (hq : '"' ∉ table) :
    '"' ∉ t := by
  induction ht with
  | nil => exact List.not_mem_nil _
  | @cons c x _ _ hcx _ ih =>
    rw [List.mem_cons, not_or] at hq ⊢
    exact ⟨fun h => hq.1 ((ignoreCase.quote_iff c x (.inl h.symm)).1 hcx ▸ h), ih hq.2⟩

end Matches

/-- `re.compile(f'{operation}[^"]+"{table}"', re.IGNORECASE).match(sql)`, read as the language of the regex:
`sql` begins with characters that read as the operation, then one or more characters other than `"`, then
characters that read as the table name, between quotes. -/
def Pattern.MatchesSpec (p : Pattern) (ignoreCase : IgnoreCase) (sql : String) : Prop :=
  ∃ a b t rest, sql.toList = a ++ b ++ '"' :: (t ++ '"' :: rest) ∧
    ignoreCase.Literal a p.operation.toList ∧ b ≠ [] ∧ '"' ∉ b ∧ ignoreCase.Literal t p.table.toList

/-- A statement the matcher accepts is in the regex's language: the first `"` after the operation closes `[^"]+`. -/
theorem Pattern.matchesSpec_of_matches {p : Pattern} {ignoreCase : IgnoreCase} {sql : String}
    (h : p.matches ignoreCase sql = true) : p.MatchesSpec ignoreCase sql := by
  unfold Pattern.matches at h
  split at h
  · cases h
  · rename_i rest hrest
    obtain ⟨a, hsql, ha⟩ := dropPrefixCI_eq_some.1 hrest
    split at h
    · rename_i b₀ bs c after hsp
      obtain ⟨rfl, hb, rfl⟩ := span_eq_cons hsp
      obtain ⟨r, hr⟩ := Option.isSome_iff_exists.1 h
      obtain ⟨t, rfl, ht⟩ := dropPrefixCI_quoted hr
      exact ⟨a, b₀ :: bs, t, r, by rw [hsql, List.append_assoc], ha, List.cons_ne_nil _ _, hb, ht⟩
    · cases h

/-- A statement in the regex's language is accepted: the span of non-quote characters is exactly the `[^"]+` part. -/
theorem Pattern.matches_of_matchesSpec {p : Pattern} {ignoreCase : IgnoreCase} {sql : String}
    (h : p.MatchesSpec ignoreCase sql) : p.matches ignoreCase sql = true := by
  obtain ⟨a, b, t, rest, hsql, ha, hb, hq, ht⟩ := h
  obtain ⟨b₀, bs, rfl⟩ := List.exists_cons_of_ne_nil hb
  have hquote : ignoreCase.Literal ['"'] ['"'] := .cons ((ignoreCase.quote_iff _ _ (.inl rfl)).2 rfl) .nil
  have hdrop : dropPrefixCI ignoreCase (p.table.toList ++ ['"']) (t ++ '"' :: rest) = some rest :=
    dropPrefixCI_eq_some.2 ⟨t ++ ['"'], by rw [List.append_assoc]; rfl, List.rel_append ht hquote⟩
  rw [Pattern.matches, hsql, List.append_assoc, dropPrefixCI_eq_some.2 ⟨a, rfl, ha⟩]
  dsimp only
  rw [span_quote hq]
  dsimp only
  rw [hdrop]
  rfl

/-- **`Pattern.matches` decides the regex's language**, for every case comparison `re.IGNORECASE` may use: the span
of non-quote characters that the matcher takes is exactly what `[^"]+` can consume, since the first `"` after the
operation ends it. -/
theorem Pattern.matches_iff_spec (p : Pattern) (ignoreCase : IgnoreCase) (sql : String) :
    p.matches ignoreCase sql = true ↔ p.MatchesSpec ignoreCase sql :=
  ⟨Pattern.matchesSpec_of_matches, Pattern.matches_of_matchesSpec⟩

/-- **One table per statement and operation**: `[^"]+` cannot pass a `"`, so a pattern reads only the first quoted
name after the operation.  When two `protected_table` patterns of one operation, for table names without `"`, both
match a statement, the one quoted name that follows the operation and the first run of non-quote characters reads as
both tables; so `sentry_organizationmember`'s patterns never match a statement on
`"sentry_organizationmembermapping"`, and a table named only in a later quoted identifier is not matched by its own
patterns. -/
theorem protectedTable_matches_unique {ignoreCase : IgnoreCase} {table table' operation sql : String}
    (hq : '"' ∉ table.toList) (hq' : '"' ∉ table'.toList)
    (h : (protectedTable table operation).matches ignoreCase sql = true)
    (h' : (protectedTable table' operation).matches ignoreCase sql = true) :
    ∃ a b t rest, sql.toList = a ++ b ++ '"' :: (t ++ '"' :: rest) ∧ a.length = operation.toList.length ∧
      '"' ∉ b ∧ ignoreCase.Literal t table.toList ∧ ignoreCase.Literal t table'.toList := by
  obtain ⟨a, b, t, r, hsql, ha, -, hb, ht⟩ := Pattern.matchesSpec_of_matches h
  obtain ⟨a', b', t', r', hsql', ha', -, hb', ht'⟩ := Pattern.matchesSpec_of_matches h'
  have hlen : a'.length = a.length := ha'.length_eq.trans ha.length_eq.symm
  have hsql₂ := hsql
  rw [hsql', List.append_assoc, List.append_assoc] at hsql₂
  obtain ⟨-, hrest⟩ := List.append_inj hsql₂ hlen
  have hspan := congrArg (List.span (· ≠ '"')) hrest
  rw [span_quote hb, span_quote hb', Prod.mk.injEq, List.cons.injEq] at hspan
  have hspan' := congrArg (List.span (· ≠ '"')) hspan.2.2
  rw [span_quote (quote_not_mem_of_literal ht hq), span_quote (quote_not_mem_of_literal ht' hq'),
    Prod.mk.injEq] at hspan'
  exact ⟨a, b, t, r, hsql, ha.length_eq, hb, ht, hspan'.1 ▸ ht'⟩

/-- `DELETE FROM "sentry_user"` is matched, on ASCII text, by the delete patterns of `sentry_user` and of
`SENTRY_USER`, and its one quoted name reads as both. -/
theorem sentryUser_matches_unique :
    '"' ∉ "sentry_user".toList ∧ '"' ∉ "SENTRY_USER".toList ∧
      (protectedTable "sentry_user" "delete").matches .asciiLower "DELETE FROM \"sentry_user\"" = true ∧
      (protectedTable "SENTRY_USER" "delete").matches .asciiLower "DELETE FROM \"sentry_user\"" = true ∧
      ∃ a b t rest, "DELETE FROM \"sentry_user\"".toList = a ++ b ++ '"' :: (t ++ '"' :: rest) ∧
        a.length = "delete".toList.length ∧ '"' ∉ b ∧ IgnoreCase.asciiLower.Literal t "sentry_user".toList ∧
        IgnoreCase.asciiLower.Literal t "SENTRY_USER".toList :=
  ⟨by decide, by decide, by decide, by decide,
    @protectedTable_matches_unique .asciiLower "sentry_user" "SENTRY_USER" "delete" "DELETE FROM \"sentry_user\""
      (by decide) (by decide) (by decide) (by decide)⟩

/-! ## ASCII text -/

/-- Every character of `s` is ASCII. -/
def asciiText (s : String) : Bool := s.toList.all (·.toNat < 128)

/-- On ASCII text every case comparison `re.IGNORECASE` may use agrees with ASCII lowering. -/
theorem dropPrefixCI_ascii (ignoreCase : IgnoreCase) : ∀ {p s : List Char}, (∀ x ∈ p, x.toNat < 128) →
    (∀ c ∈ s, c.toNat < 128) → dropPrefixCI ignoreCase p s = dropPrefixCI .asciiLower p s
  | [], _, _, _ => rfl
  | _ :: _, [], _, _ => rfl
  | x :: p, c :: s, hp, hs => by
    rw [dropPrefixCI, dropPrefixCI, ignoreCase.ascii_eq c x (hs c (.head _)) (hp x (.head _)),
      dropPrefixCI_ascii ignoreCase (fun y hy => hp y (.tail _ hy)) (fun d hd => hs d (.tail _ hd))]
    rfl

theorem asciiText_iff {s : String} : asciiText s = true ↔ ∀ c ∈ s.toList, c.toNat < 128 := by
  simp only [asciiText, List.all_eq_true, decide_eq_true_eq]

/-- A pattern with ASCII names matches an ASCII statement as it does under ASCII lowering. -/
theorem Pattern.matches_ascii (ignoreCase : IgnoreCase) {p : Pattern} {sql : String}
    (hp : asciiText p.operation = true ∧ asciiText p.table = true) (hs : asciiText sql = true) :
    p.matches ignoreCase sql = p.matches .asciiLower sql := by
  have hs' := asciiText_iff.1 hs
  have hquote : ∀ x ∈ p.table.toList ++ ['"'], x.toNat < 128 :=
    List.forall_mem_append.2 ⟨asciiText_iff.1 hp.2, List.forall_mem_singleton.2 (by decide)⟩
  unfold Pattern.matches
  rw [dropPrefixCI_ascii ignoreCase (asciiText_iff.1 hp.1) hs']
  cases hd : dropPrefixCI .asciiLower p.operation.toList sql.toList with
  | none => rfl
  | some rest =>
    obtain ⟨a, hsql, -⟩ := dropPrefixCI_eq_some.1 hd
    dsimp only
    rcases hsp : rest.span (· ≠ '"') with ⟨_ | ⟨b₀, bs⟩, _ | ⟨c, after⟩⟩
    · rfl
    · rfl
    · rfl
    · obtain ⟨hrest, -, -⟩ := span_eq_cons hsp
      dsimp only
      rw [dropPrefixCI_ascii ignoreCase hquote fun d hd => hs' d (by
        rw [hsql, hrest]; exact List.mem_append_right _ (List.mem_append_right _ (List.mem_cons_of_mem _ hd)))]

/-- The member table's insert pattern does not match an insert into the mapping table. -/
example : (protectedTable "sentry_organizationmember" "insert").matches .asciiLower
    "INSERT INTO \"sentry_organizationmembermapping\" (\"id\") VALUES (1)" = false := by decide

/-- The patterns `get_protected_operations` appends last: writes that require outbox messages. -/
def outboxPatterns : List Pattern :=
  [protectedTable "sentry_user" "insert", protectedTable "sentry_user" "update",
    protectedTable "sentry_user" "delete", protectedTable "sentry_organizationmember" "insert",
    protectedTable "sentry_organizationmember" "update", protectedTable "sentry_organizationmember" "delete",
    protectedTable "sentry_organizationmembermapping" "insert"]

theorem outboxPatterns_ascii : ∀ p ∈ outboxPatterns, asciiText p.operation = true ∧ asciiText p.table = true := by
  decide

/-- The derivation's state: `_protected_operations` as appended so far, and `seen_models`. -/
structure Derivation where
  ops  : List Pattern
  seen : List ModelId

namespace Registry

variable (reg : Registry)

/-- The field loop for one model.  Each `HybridCloudForeignKey` target not seen before protects its table from
deletes; reading `foreign_model` may raise, and the error carries the memo as appended until then. -/
def protectFields : List Field → Derivation → Except (Exc × List Pattern) Derivation
  | [], d => pure d
  | .hybridCloudForeignKey fm :: fs, d =>
    match fm with
    | .error e => throw (e, d.ops)
    | .ok none => protectFields fs d
    | .ok (some fk) =>
      if fk ∈ d.seen then protectFields fs d
      else protectFields fs ⟨d.ops ++ [protectedTable (reg.model fk).dbTable "delete"], fk :: d.seen⟩
  | _ :: fs, d => protectFields fs d

/-- The insert, update and delete patterns of a replicated model's own table. -/
def replicatedPatterns (t : ModelId) : List Pattern :=
  [protectedTable (reg.model t).dbTable "insert", protectedTable (reg.model t).dbTable "update",
    protectedTable (reg.model t).dbTable "delete"]

/-- One model of the derivation: its fields, then its own table if it is replicated. -/
def protectModel (d : Derivation) (t : ModelId) : Except (Exc × List Pattern) Derivation := do
  let d ← reg.protectFields (reg.model t).fields d
  if (reg.model t).replicatedControl || (reg.model t).replicatedRegion then
    pure ⟨d.ops ++ reg.replicatedPatterns t, d.seen⟩
  else pure d

def protectModels : List ModelId → Derivation → Except (Exc × List Pattern) Derivation
  | [], d => pure d
  | t :: ts, d => do protectModels ts (← reg.protectModel d t)

/-- `for app_config in apps.get_app_configs(): for model in iter_models(app_config.name): ...` -/
def protectApps : List AppConfig → Derivation → Except (Exc × List Pattern) Derivation
  | [], d => pure d
  | c :: cs, d => do protectApps cs (← reg.protectModels (reg.iterModels (some c.name)) d)

/-- `get_protected_operations()`, from the memo `_protected_operations`: what it returns or raises, and the memo after
the call. -/
def getProtectedOperations (memo : List Pattern) : Except Exc (List Pattern) × List Pattern :=
  if memo.length ≠ 0 then (.ok memo, memo)
  else
    match reg.protectApps reg.appConfigs ⟨memo, []⟩ with
    | .error (e, ops) => (.error e, ops)
    | .ok d => (.ok (d.ops ++ outboxPatterns), d.ops ++ outboxPatterns)

/-- `seen_models` is sound: every model in it already has its delete pattern in the memo. -/
def SeenProtected (d : Derivation) : Prop :=
  ∀ fk ∈ d.seen, protectedTable (reg.model fk).dbTable "delete" ∈ d.ops

/-- What the derivation owes model `t`: its `HybridCloudForeignKey` targets are protected from deletes, and its own
table, if it is replicated, from inserts, updates and deletes. -/
def Covered (ops : List Pattern) (t : ModelId) : Prop :=
  (∀ fk, Field.hybridCloudForeignKey (.ok (some fk)) ∈ (reg.model t).fields →
    protectedTable (reg.model fk).dbTable "delete" ∈ ops) ∧
  ((reg.model t).replicatedControl || (reg.model t).replicatedRegion → reg.replicatedPatterns t ⊆ ops)

variable {reg}

theorem Covered.mono {ops ops' : List Pattern} {t : ModelId} (h : reg.Covered ops t) (hs : ops ⊆ ops') :
    reg.Covered ops' t :=
  ⟨fun fk hf => hs (h.1 fk hf), fun hr => List.Subset.trans (h.2 hr) hs⟩

theorem protectFields_spec : ∀ {fs : List Field} {d d' : Derivation}, reg.protectFields fs d = .ok d' →
    reg.SeenProtected d → reg.SeenProtected d' ∧ d.ops ⊆ d'.ops ∧ d.seen ⊆ d'.seen ∧
      ∀ fk, Field.hybridCloudForeignKey (.ok (some fk)) ∈ fs → fk ∈ d'.seen
  | [], d, d', h, hd => by
    cases h
    exact ⟨hd, List.Subset.refl _, List.Subset.refl _, nofun⟩
  | f :: fs, d, d', h, hd => by
    obtain ⟨d₁, h₁, hd₁, hops, hseen, hf⟩ : ∃ d₁, reg.protectFields fs d₁ = .ok d' ∧ reg.SeenProtected d₁ ∧
        d.ops ⊆ d₁.ops ∧ d.seen ⊆ d₁.seen ∧ ∀ fk, f = .hybridCloudForeignKey (.ok (some fk)) → fk ∈ d₁.seen := by
      match f, h with
      | .hybridCloudForeignKey (.error e), h => cases h
      | .hybridCloudForeignKey (.ok none), h | .related _, h | .plain, h =>
        exact ⟨d, h, hd, List.Subset.refl _, List.Subset.refl _, nofun⟩
      | .hybridCloudForeignKey (.ok (some fk)), h =>
        by_cases hfk : fk ∈ d.seen
        · rw [protectFields, if_pos hfk] at h
          exact ⟨d, h, hd, List.Subset.refl _, List.Subset.refl _, by rintro _ ⟨⟩; exact hfk⟩
        · rw [protectFields, if_neg hfk] at h
          refine ⟨_, h, fun x hx => ?_, fun x hx => List.mem_append_left _ hx, fun x hx => List.mem_cons_of_mem _ hx,
            by rintro _ ⟨⟩; exact List.mem_cons_self _ _⟩
          rcases List.mem_cons.1 hx with rfl | hx
          · exact List.mem_append_right _ (List.mem_singleton_self _)
          · exact List.mem_append_left _ (hd x hx)
    obtain ⟨hd', hops', hseen', hfs⟩ := protectFields_spec h₁ hd₁
    refine ⟨hd', List.Subset.trans hops hops', List.Subset.trans hseen hseen', fun fk hfk => ?_⟩
    rcases List.mem_cons.1 hfk with hfk | hfk
    · exact hseen' (hf fk hfk.symm)
    · exact hfs fk hfk

theorem protectModel_spec {d d' : Derivation} {t : ModelId} (h : reg.protectModel d t = .ok d')
    (hd : reg.SeenProtected d) : reg.SeenProtected d' ∧ d.ops ⊆ d'.ops ∧ reg.Covered d'.ops t := by
  simp only [protectModel, bind_eq_ok] at h
  obtain ⟨d₁, h₁, h₂⟩ := h
  obtain ⟨hd₁, hops, -, hfk⟩ := protectFields_spec h₁ hd
  have hcov : ∀ fk, Field.hybridCloudForeignKey (.ok (some fk)) ∈ (reg.model t).fields →
      protectedTable (reg.model fk).dbTable "delete" ∈ d₁.ops := fun fk hf => hd₁ fk (hfk fk hf)
  split at h₂ <;> cases h₂
  · exact ⟨fun x hx => List.mem_append_left _ (hd₁ x hx), List.Subset.trans hops (List.subset_append_left _ _),
      fun fk hf => List.mem_append_left _ (hcov fk hf), fun _ => List.subset_append_right _ _⟩
  · exact ⟨hd₁, hops, hcov, fun hr => absurd hr ‹_›⟩

theorem protectModels_spec : ∀ {ts : List ModelId} {d d' : Derivation}, reg.protectModels ts d = .ok d' →
    reg.SeenProtected d → reg.SeenProtected d' ∧ d.ops ⊆ d'.ops ∧ ∀ t ∈ ts, reg.Covered d'.ops t
  | [], d, d', h, hd => by
    cases h
    exact ⟨hd, List.Subset.refl _, by simp⟩
  | t :: ts, d, d', h, hd => by
    simp only [protectModels, bind_eq_ok] at h
    obtain ⟨d₁, h₁, h₂⟩ := h
    obtain ⟨hd₁, hops₁, hcov₁⟩ := protectModel_spec h₁ hd
    obtain ⟨hd', hops', hcov'⟩ := protectModels_spec h₂ hd₁
    exact ⟨hd', List.Subset.trans hops₁ hops', List.forall_mem_cons.2 ⟨hcov₁.mono hops', hcov'⟩⟩

theorem protectApps_spec : ∀ {cs : List AppConfig} {d d' : Derivation}, reg.protectApps cs d = .ok d' →
    reg.SeenProtected d → reg.SeenProtected d' ∧ d.ops ⊆ d'.ops ∧
      ∀ c ∈ cs, ∀ t ∈ reg.iterModels (some c.name), reg.Covered d'.ops t
  | [], d, d', h, hd => by
    cases h
    exact ⟨hd, List.Subset.refl _, by simp⟩
  | c :: cs, d, d', h, hd => by
    simp only [protectApps, bind_eq_ok] at h
    obtain ⟨d₁, h₁, h₂⟩ := h
    obtain ⟨hd₁, hops₁, hcov₁⟩ := protectModels_spec h₁ hd
    obtain ⟨hd', hops', hcov'⟩ := protectApps_spec h₂ hd₁
    exact ⟨hd', List.Subset.trans hops₁ hops',
      List.forall_mem_cons.2 ⟨fun t ht => (hcov₁ t ht).mono hops', hcov'⟩⟩

/-- **What a returning first call protects**: the memo it leaves is the list it returns; every model that
`iter_models(app_config.name)` yields for an app config has its `HybridCloudForeignKey` targets protected from deletes
and, when replicated, its own table from inserts, updates and deletes; and the list ends with the outbox patterns. -/
theorem getProtectedOperations_covers {L memo : List Pattern} (h : reg.getProtectedOperations [] = (.ok L, memo)) :
    memo = L ∧ (∀ c ∈ reg.appConfigs, ∀ t ∈ reg.iterModels (some c.name), reg.Covered L t) ∧
      outboxPatterns <:+ L := by
  simp only [getProtectedOperations, List.length_nil, ne_eq, not_true_eq_false, if_false] at h
  split at h
  · cases h
  · rename_i d hd
    simp only [Prod.mk.injEq, Except.ok.injEq] at h
    obtain ⟨rfl, rfl⟩ := h
    obtain ⟨-, -, hcov⟩ := protectApps_spec hd (by simp [SeenProtected])
    exact ⟨rfl, fun c hc t ht => (hcov c hc t ht).mono (List.subset_append_left _ _), List.suffix_append _ _⟩

/-- One app whose name is its label: `A` holds a `HybridCloudForeignKey` to `B`, a replicated control model. -/
def coveredRegistry : Registry where
  appConfigs := [⟨"sentry", "sentry"⟩]
  allModels := [("sentry", [0, 1])]
  model
    | 0 => ⟨"sentry.models.a", "A", "sentry_a", .limit ⟨[.region]⟩, [.hybridCloudForeignKey (.ok (some 1))], false,
        false, false, []⟩
    | _ => ⟨"sentry.models.b", "B", "sentry_b", .limit ⟨[.control]⟩, [], false, true, false, []⟩
  actor := 2
  notificationSetting := 3

/-- The first call on `coveredRegistry` protects `B`'s table from deletes, for `A`'s key, and from inserts, updates
and deletes, as a replicated model, before the outbox patterns. -/
theorem coveredRegistry_covers :
    coveredRegistry.getProtectedOperations [] =
        (.ok (protectedTable "sentry_b" "delete" :: coveredRegistry.replicatedPatterns 1 ++ outboxPatterns),
          protectedTable "sentry_b" "delete" :: coveredRegistry.replicatedPatterns 1 ++ outboxPatterns) ∧
      (protectedTable "sentry_b" "delete" :: coveredRegistry.replicatedPatterns 1 ++ outboxPatterns =
        protectedTable "sentry_b" "delete" :: coveredRegistry.replicatedPatterns 1 ++ outboxPatterns) ∧
      (∀ c ∈ coveredRegistry.appConfigs, ∀ t ∈ coveredRegistry.iterModels (some c.name),
        coveredRegistry.Covered (protectedTable "sentry_b" "delete" :: coveredRegistry.replicatedPatterns 1 ++
          outboxPatterns) t) ∧
      outboxPatterns <:+ protectedTable "sentry_b" "delete" :: coveredRegistry.replicatedPatterns 1 ++ outboxPatterns :=
  have h : coveredRegistry.getProtectedOperations [] =
      (.ok (protectedTable "sentry_b" "delete" :: coveredRegistry.replicatedPatterns 1 ++ outboxPatterns),
        protectedTable "sentry_b" "delete" :: coveredRegistry.replicatedPatterns 1 ++ outboxPatterns) := rfl
  ⟨h, getProtectedOperations_covers h⟩

/-! ## An app whose name is not its label -/

/-- One app, dotted name `sentry.replica`, label `replica`, holding one replicated control model. -/
def labelRegistry : Registry where
  appConfigs := [⟨"sentry.replica", "replica"⟩]
  allModels := [("replica", [0])]
  model _ := ⟨"sentry.replica.models", "Replica", "sentry_replica", .limit ⟨[.control]⟩, [], false, true, false, []⟩
  actor := 1
  notificationSetting := 2

/-- **A replicated model of an app whose name is not its label escapes protection**: `iter_models()` yields it, yet the
first call returns only the outbox patterns, without its table's insert pattern. -/
theorem labelRegistry_unprotected :
    0 ∈ labelRegistry.iterModels none ∧ (labelRegistry.model 0).replicatedControl = true ∧
      labelRegistry.getProtectedOperations [] = (.ok outboxPatterns, outboxPatterns) ∧
      protectedTable (labelRegistry.model 0).dbTable "insert" ∉ outboxPatterns :=
  ⟨by decide, rfl, rfl, by decide⟩

/-! ## A lookup that fails partway -/

/-- One model with two `HybridCloudForeignKey`s: the first reads as model `1`, reading the second raises. -/
def lookupRegistry : Registry where
  appConfigs := [⟨"sentry", "sentry"⟩]
  allModels := [("sentry", [0])]
  model
    | 0 => ⟨"sentry.models.a", "A", "sentry_a", .limit ⟨[.region]⟩,
        [.hybridCloudForeignKey (.ok (some 1)), .hybridCloudForeignKey (.error (.other "LookupError" "B"))],
        false, false, false, []⟩
    | _ => ⟨"sentry.models.b", "B", "sentry_b", .limit ⟨[.control]⟩, [], false, false, false, []⟩
  actor := 2
  notificationSetting := 3

/-- **A call that raises leaves a truncated memo**: the first call raises after appending `B`'s delete pattern, and the
second call returns that one pattern, without the outbox patterns. -/
theorem lookupRegistry_truncated :
    lookupRegistry.getProtectedOperations [] =
        (.error (.other "LookupError" "B"), [protectedTable "sentry_b" "delete"]) ∧
      lookupRegistry.getProtectedOperations [protectedTable "sentry_b" "delete"] =
        (.ok [protectedTable "sentry_b" "delete"], [protectedTable "sentry_b" "delete"]) ∧
      protectedTable "sentry_user" "insert" ∉ [protectedTable "sentry_b" "delete"] :=
  ⟨rfl, rfl, by decide⟩

end Registry
end Silo
