import Mathlib.Data.List.DropRight
import ClassAtlas.Index.Settings
import ClassAtlas.Proofs.Index.Configure

/-!
Setting up a registry from explicit paths and the environment never fails. The cache bound is
the positive integer the variable asks for, else the default, so it is always at least one and
the registry's own check of the bound passes (`cacheSizeFrom_pos`, `create_of_pos`). Each root
is set by a request of its own, and a refused request leaves the registry as it was; the only
refusals are invalid paths (`configure_refusal_invalidPath`), the ones a caller setting up the
registry passes over. So the engine root is the effective engine path as resolved when it names
an engine root, and unset otherwise, whatever the project path; likewise the project root
(`createIndex_sets_valid_roots`). The effective path is the given one when it is not empty, and
the variable's value otherwise (`pathOr_eq_some_iff`).

Around the bound only the blanks a numeral may stand between are dropped: the information
separators U+001C to U+001F are not among them, so a bound written after one is no numeral and
the default is used (`cacheSizeFrom_separator_front`).
-/

namespace ClassAtlas.Index

open ClassAtlas.Files ClassAtlas.Text ClassAtlas.Cache

/-! ### The cache bound -/

theorem defaultCapacity_pos : 0 < Cache.defaultCapacity := by decide

theorem cacheSizeFrom_of_positive {raw : Option String} {s : String} {n : Int} (given : raw = some s)
    (nonEmpty : s ≠ "") (read : readInt s = some n) (positive : 0 < n) : (cacheSizeFrom raw : Int) = n := by
  subst given
  have notEmpty : s.isEmpty = false := by simpa [String.isEmpty_iff] using nonEmpty
  simp [cacheSizeFrom, notEmpty, read, positive]
  omega

theorem cacheSizeFrom_of_refused {raw : Option String}
    (refused : ¬ ∃ s n, raw = some s ∧ s ≠ "" ∧ readInt s = some n ∧ 0 < n) :
    cacheSizeFrom raw = Cache.defaultCapacity := by
  unfold cacheSizeFrom
  split
  · rfl
  · next s =>
    split
    · rfl
    · next notEmpty =>
      split
      · next n read =>
        have nonEmpty : s ≠ "" := by simpa [String.isEmpty_iff] using notEmpty
        rw [if_neg fun positive => refused ⟨s, n, rfl, nonEmpty, read, by omega⟩]
      · rfl

/-- The cache bound is never below one. -/
theorem cacheSizeFrom_pos (raw : Option String) : 0 < cacheSizeFrom raw := by
  unfold cacheSizeFrom
  split
  · exact defaultCapacity_pos
  · split
    · exact defaultCapacity_pos
    · split
      · split
        · omega
        · exact defaultCapacity_pos
      · exact defaultCapacity_pos

theorem create_of_pos {n : Nat} (positive : 0 < n) :
    Registry.create n = .ok ⟨Roots.none, Recency.empty n, Recency.empty n⟩ := by
  simp [Registry.create, show ¬ (n : Int) < 1 by omega]

theorem digitsValue_of_front {c : Char} (notDigit : digitValue? c = none) (acc : Nat) (rest : List Char) :
    digitsValue acc 0 (c :: rest) = none := by
  unfold digitsValue
  split <;> simp_all

/-- A text whose first character is neither a blank a numeral may stand between, nor a sign, nor
    a digit is no numeral. -/
theorem readInt_of_front {c : Char} (notBlank : isNumeralBlank c = false) (notSign : c ≠ '-' ∧ c ≠ '+')
    (notDigit : digitValue? c = none) (rest : List Char) : readInt (String.ofList (c :: rest)) = none := by
  have front : (c :: rest).dropWhile isNumeralBlank = c :: rest :=
    List.dropWhile_cons_of_neg (by simpa using notBlank)
  -- the blanks dropped from the back stop at `c` at the latest
  obtain ⟨t, body⟩ : ∃ t, ((c :: rest).reverse.dropWhile isNumeralBlank).reverse = c :: t := by
    have kept : (c :: rest).rdropWhile isNumeralBlank <+: c :: rest := List.rdropWhile_prefix _ _
    have nonempty : (c :: rest).rdropWhile isNumeralBlank ≠ [] := by
      rw [Ne, List.rdropWhile_eq_nil_iff]
      intro all
      simp [all c List.mem_cons_self] at notBlank
    rcases List.prefix_cons_iff.mp kept with empty | ⟨t, starts, -⟩
    · exact absurd empty nonempty
    · exact ⟨t, starts⟩
  obtain ⟨minus, plus⟩ := notSign
  simp only [readInt, String.toList_ofList, front, body]
  simp [digitsValue_of_front notDigit, minus, plus]

/-- The information separators U+001C to U+001F are neither blanks around a numeral, nor signs,
    nor digits. -/
theorem separator_not_numeral {c : Char} (separator : 28 ≤ c.toNat ∧ c.toNat ≤ 31) :
    isNumeralBlank c = false ∧ (c ≠ '-' ∧ c ≠ '+') ∧ digitValue? c = none := by
  have small : c.toNat < 128 := by omega
  have codes : ∀ d : Char, c = d → 28 ≤ d.toNat ∧ d.toNat ≤ 31 := fun d same => same ▸ separator
  have tab : Char.toNat '\t' = 9 := rfl
  have ret : Char.toNat '\r' = 13 := rfl
  have zero : Char.toNat '0' = 48 := rfl
  have nine : Char.toNat '9' = 57 := rfl
  have notSpace : c ≠ ' ' := fun same => by simpa using codes _ same
  have below : c.val < 128 := by
    rw [UInt32.lt_iff_toNat_lt, Char.toNat_val]
    exact small
  refine ⟨?_, ⟨fun same => by simpa using codes _ same, fun same => by simpa using codes _ same⟩, ?_⟩
  · simp only [isNumeralBlank, small, if_true, notSpace, decide_false, Bool.false_or, Char.le_def,
      UInt32.le_iff_toNat_le, Char.toNat_val, Bool.and_eq_false_iff, decide_eq_false_iff_not]
    omega
  · simp only [digitValue?, below, if_true, Char.le_def, UInt32.le_iff_toNat_le, Char.toNat_val,
      ite_eq_right_iff, reduceCtorEq, imp_false, not_and, Nat.not_le]
    omega

/-- A cache bound written after an information separator is refused, so the default is used,
    though the separators count as white space elsewhere. -/
theorem cacheSizeFrom_separator_front {c : Char} (separator : 28 ≤ c.toNat ∧ c.toNat ≤ 31)
    (rest : List Char) : cacheSizeFrom (some (String.ofList (c :: rest))) = Cache.defaultCapacity := by
  obtain ⟨notBlank, notSign, notDigit⟩ := separator_not_numeral separator
  refine cacheSizeFrom_of_refused fun found => ?_
  obtain ⟨s, n, given, -, read, -⟩ := found
  cases given
  rw [readInt_of_front notBlank notSign notDigit rest] at read
  cases read

/-! ### Setting each root on its own -/

/-- Checking roots refuses only invalid paths. -/
theorem configure_refusal_invalidPath (r : Roots) (t : Tree) (custom engine : Option String)
    (e : Failure) (refused : r.configure t custom engine = .error e) :
    ∃ p, e = .invalidPath p ∨ e = .invalidEnginePath p := by
  by_cases accepted : ∀ p ∈ engine, EngineLayout t p
  · -- past the engine, only the project path can refuse
    rw [configure_of_engine_ok r t custom engine accepted] at refused
    cases custom with
    | none => cases refused
    | some q =>
      by_cases dir : t.isDir q
      · simp [dir] at refused
      · simp only [dir, if_false, Bool.false_eq_true, Except.error.injEq] at refused
        exact ⟨q, .inl refused.symm⟩
  · obtain ⟨p, given, bare⟩ : ∃ p ∈ engine, ¬ EngineLayout t p := by simpa using accepted
    rw [Option.mem_def] at given
    subst given
    by_cases dir : t.isDir p
    · rw [configure_of_engine_error r t custom p _ (checkEngine_of_no_layout t p dir bare)] at refused
      cases refused
      exact ⟨p, .inr rfl⟩
    · rw [configure_of_engine_error r t custom p _ (checkEngine_of_not_dir t p (by simpa using dir))]
        at refused
      cases refused
      exact ⟨p, .inl rfl⟩

instance (t : Tree) (p : String) : Decidable (EngineLayout t p) :=
  inferInstanceAs (Decidable (_ ∧ (_ ∨ _)))

theorem configure_engine_alone (r : Roots) (t : Tree) (p : String) :
    r.configure t none (some p) = (checkEngine t p).map fun l => ⟨r.custom, some l⟩ := by
  simp only [Roots.configure]
  cases checkEngine t p <;> rfl

theorem configure_custom_alone (r : Roots) (t : Tree) (q : String) :
    r.configure t (some q) none = (checkCustom t q).map fun l => ⟨some l, r.engine⟩ := by
  simp only [Roots.configure]
  cases checkCustom t q <;> rfl

theorem checkEngine_toOption_eq_some_iff (t : Tree) (p : String) (l : Location) :
    (checkEngine t p).toOption = some l ↔ EngineLayout t p ∧ l = resolvePath p := by
  constructor
  · intro accepted
    cases checked : checkEngine t p with
    | error e => simp [checked, Except.toOption] at accepted
    | ok l' =>
      simp only [checked, Except.toOption, Option.some.injEq] at accepted
      subst accepted
      exact ⟨checkEngine_layout t p l' checked, checkEngine_ok t p l' checked⟩
  · rintro ⟨layout, rfl⟩
    simp [checkEngine_of_layout t p layout, Except.toOption]

theorem checkCustom_toOption_eq_some_iff (t : Tree) (q : String) (l : Location) :
    (checkCustom t q).toOption = some l ↔ t.isDir q = true ∧ l = resolvePath q := by
  by_cases dir : t.isDir q
  · simp [checkCustom_eq, dir, Except.toOption, eq_comm]
  · simp [checkCustom_eq, dir, Except.toOption]

theorem filter_nonEmpty_eq_some_iff (o : Option String) (p : String) :
    o.filter (!·.isEmpty) = some p ↔ p ≠ "" ∧ o = some p := by
  cases o with
  | none => simp
  | some v =>
    by_cases empty : v = ""
    · subst empty
      simp [Option.filter]
    · have notEmpty : v.isEmpty = false := by simpa [String.isEmpty_iff] using empty
      simp only [Option.filter, notEmpty, Bool.not_false, if_true, Option.some.injEq]
      constructor
      · rintro rfl
        exact ⟨empty, rfl⟩
      · rintro ⟨-, rfl⟩
        rfl

/-- A given path wins when it is not empty; else the variable's value, when it is not empty. -/
theorem pathOr_eq_some_iff (given fallback : Option String) (p : String) :
    pathOr given fallback = some p ↔ p ≠ "" ∧ (given = some p ∨ (given.getD "" = "" ∧ fallback = some p)) := by
  cases given with
  | none => simp [pathOr, and_comm]
  | some g =>
    by_cases empty : g = ""
    · subst empty
      have blank : "".isEmpty = true := rfl
      simp only [pathOr, blank, if_true, filter_nonEmpty_eq_some_iff, Option.getD_some, true_and,
        Option.some.injEq]
      constructor
      · rintro ⟨nonEmpty, found⟩
        exact ⟨nonEmpty, .inr found⟩
      · rintro ⟨nonEmpty, blank | found⟩
        · exact absurd blank.symm nonEmpty
        · exact ⟨nonEmpty, found⟩
    · have notEmpty : g.isEmpty = false := by simpa [String.isEmpty_iff] using empty
      simp only [pathOr, notEmpty, Bool.false_eq_true, if_false, Option.some.injEq, Option.getD_some]
      constructor
      · rintro rfl
        exact ⟨empty, .inl rfl⟩
      · rintro ⟨-, rfl | ⟨blank, -⟩⟩
        · rfl
        · exact absurd blank empty

/-- The registry set up from the paths: the fresh registry of its bound, with each root the
    effective path as checked, when the check passes. -/
theorem createIndex_eq (t : Tree) (enginePath customPath : Option String) (env : Environment) :
    createIndex t enginePath customPath env =
      ⟨⟨(pathOr customPath env.custom).bind fun q => (checkCustom t q).toOption,
        (pathOr enginePath env.engine).bind fun p => (checkEngine t p).toOption⟩,
        Recency.empty (cacheSizeFrom env.cacheSize), Recency.empty (cacheSizeFrom env.cacheSize)⟩ := by
  unfold createIndex
  cases pathOr enginePath env.engine with
  | none =>
    cases pathOr customPath env.custom with
    | none => rfl
    | some q =>
      simp only [configure_custom_alone, Option.bind_some, Option.bind_none]
      cases checkCustom t q <;> rfl
  | some p =>
    cases pathOr customPath env.custom with
    | none =>
      simp only [configure_engine_alone, Option.bind_some, Option.bind_none]
      cases checkEngine t p <;> rfl
    | some q =>
      simp only [configure_engine_alone, Option.bind_some]
      cases checkEngine t p <;> simp only [Except.map, configure_custom_alone] <;>
        cases checkCustom t q <;> rfl

/-- Setting up a registry never fails. The cache bound is the positive integer the variable asks
    for, and the default otherwise, so it passes the registry's own check, whose refusal is never
    reached; setting a root refuses only invalid paths, which are passed over. The effective path
    of each root is the given one when not empty and the variable's otherwise; the engine root is
    that path as resolved when it names an engine root and unset otherwise, and the project root
    that path as resolved when it names a directory and unset otherwise, neither depending on the
    other. -/
theorem createIndex_sets_valid_roots (t : Tree) (enginePath customPath : Option String) (env : Environment) :
    let ix := createIndex t enginePath customPath env
    (∃ fresh, Registry.create (cacheSizeFrom env.cacheSize) = .ok fresh ∧ ix = { fresh with roots := ix.roots }) ∧
    0 < cacheSizeFrom env.cacheSize ∧
    (∀ s n, env.cacheSize = some s → s ≠ "" → readInt s = some n → 0 < n →
      (cacheSizeFrom env.cacheSize : Int) = n) ∧
    ((¬ ∃ s n, env.cacheSize = some s ∧ s ≠ "" ∧ readInt s = some n ∧ 0 < n) →
      cacheSizeFrom env.cacheSize = Cache.defaultCapacity) ∧
    (∀ (r : Roots) custom engine e, r.configure t custom engine = .error e →
      ∃ p, e = .invalidPath p ∨ e = .invalidEnginePath p) ∧
    (∀ given fallback p, pathOr given fallback = some p ↔
      p ≠ "" ∧ (given = some p ∨ (given.getD "" = "" ∧ fallback = some p))) ∧
    (∀ l, ix.roots.engine = some l ↔
      ∃ p, pathOr enginePath env.engine = some p ∧ EngineLayout t p ∧ l = resolvePath p) ∧
    (∀ l, ix.roots.custom = some l ↔
      ∃ q, pathOr customPath env.custom = some q ∧ t.isDir q = true ∧ l = resolvePath q) := by
  intro ix
  have built : ix = _ := createIndex_eq t enginePath customPath env
  refine ⟨⟨_, create_of_pos (cacheSizeFrom_pos env.cacheSize), by rw [built]⟩, cacheSizeFrom_pos _,
    fun s n given nonEmpty read positive => cacheSizeFrom_of_positive given nonEmpty read positive,
    cacheSizeFrom_of_refused, fun r => configure_refusal_invalidPath r t, pathOr_eq_some_iff, fun l => ?_,
    fun l => ?_⟩
  · rw [built, Option.bind_eq_some_iff]
    simp only [checkEngine_toOption_eq_some_iff]
  · rw [built, Option.bind_eq_some_iff]
    simp only [checkCustom_toOption_eq_some_iff]

end ClassAtlas.Index
