import Mathlib.Data.List.TakeWhile
import ClassAtlas.Proofs.Pattern.Derives

/-!
Repetitions of one character test, literal texts and look-aheads, exactly. What such a part
derives is said without the matcher: the characters that pass the test, as many as the fewest
rounds ask for (`derives_chars_iff`), one character for each test of a literal
(`derives_tests_iff`), and for an optional part nothing or what its body takes
(`derives_optional_iff`). How they run: a literal hands on the position past it and the marks
untouched (`run_tests_of_hold`); a negative look-ahead of a program that tries every way blocks
exactly where its body derives something (`run_look_ahead_blocked`, `run_look_ahead_clear`); and
a greedy repetition of one test tries its continuation after the longest run of passing
characters first, then after ever shorter ones (`greedyLoop_chars`, the order of the tries given
by `longestFirst`). A program that matches nowhere replaces nothing (`replaceAll_of_never`).
-/

namespace ClassAtlas.Pattern

open Prog ClassAtlas.Text

variable {text : Array Char}

theorem isScalar_toNat (c : Char) : isScalar c.toNat = true := by
  have valid := c.valid
  simp only [isScalar, Bool.or_eq_true, decide_eq_true_eq, Bool.and_eq_true]
  simp only [UInt32.isValidChar, Nat.isValidChar] at valid
  have same : c.toNat = c.val.toNat := rfl
  rw [same]
  rcases valid with low | high
  · exact .inl low
  · exact .inr ⟨by omega, high.2⟩

@[simp] theorem blank_holds_iff (c : Char) :
    (setTest 0 false [.category .space]).holds c = isBlank c := by
  simp [setTest, foldOf, hasFlag, ignoreCase, asciiFlag, Member.probe, CharTest.holds, CharSet.holds,
    Fold.apply, Probe.holds, Category.holds, isScalar_toNat]

@[simp] theorem wordChar_holds_iff (c : Char) :
    (setTest 0 false [.category .word]).holds c = isWordChar c := by
  simp [setTest, foldOf, hasFlag, ignoreCase, asciiFlag, Member.probe, CharTest.holds, CharSet.holds,
    Fold.apply, Probe.holds, Category.holds, isScalar_toNat]

theorem toNat_beq (c x : Char) : (c.toNat == x.toNat) = (c == x) := by
  cases h : c == x
  · simp only [beq_eq_false_iff_ne, ne_eq] at h ⊢
    exact fun eq => h (Char.ext (UInt32.toNat_inj.mp eq))
  · simp only [beq_iff_eq] at h ⊢
    rw [h]

@[simp] theorem but_holds_iff (x c : Char) : (literalTest 0 true x.toNat).holds c = (c != x) := by
  simp [literalTest, foldOf, hasFlag, ignoreCase, CharTest.holds, CharSet.holds, Fold.apply,
    Probe.holds, toNat_beq, bne]

@[simp] theorem lit_holds_iff (x c : Char) : (CharTest.char x.toNat).holds c = (c == x) := by
  simp [CharTest.holds, toNat_beq]

-- the same tests as functions, for rewriting a repetition's test inside a program
theorem blank_test_eq : (setTest 0 false [.category .space]).holds = isBlank := funext blank_holds_iff

theorem wordChar_test_eq : (setTest 0 false [.category .word]).holds = isWordChar :=
  funext wordChar_holds_iff

theorem but_test_eq (x : Char) : (literalTest 0 true x.toNat).holds = (· != x) := funext (but_holds_iff x)

theorem lt_size_of_getElem? {i : Nat} {c : Char} (found : text[i]? = some c) : i < text.size :=
  (Array.getElem?_eq_some_iff.mp found).1

/-! ### Runs of passing characters -/

/-- Every character from `i` up to `j` passes `P`. -/
def Spans (text : Array Char) (P : Char → Bool) (i j : Nat) : Prop :=
  i ≤ j ∧ ∀ x, i ≤ x → x < j → ∃ c, text[x]? = some c ∧ P c = true

theorem Spans.refl (P : Char → Bool) (i : Nat) : Spans text P i i :=
  ⟨Nat.le_refl i, fun _ _ _ => by omega⟩

theorem Spans.cons {P : Char → Bool} {i j : Nat} {c : Char} (at_i : text[i]? = some c)
    (passes : P c = true) (rest : Spans text P (i + 1) j) : Spans text P i j := by
  refine ⟨by have := rest.1; omega, fun x low high => ?_⟩
  rcases Nat.eq_or_lt_of_le low with here | later
  · subst here
    exact ⟨c, at_i, passes⟩
  · exact rest.2 x later high

theorem Spans.uncons {P : Char → Bool} {i j : Nat} (span : Spans text P i j) (moved : i < j) :
    (∃ c, text[i]? = some c ∧ P c = true) ∧ Spans text P (i + 1) j :=
  ⟨span.2 i (Nat.le_refl i) moved, ⟨moved, fun x low high => span.2 x (by omega) high⟩⟩

theorem Spans.le_size_of_lt {P : Char → Bool} {i j : Nat} (span : Spans text P i j) (moved : i < j) :
    j ≤ text.size := by
  obtain ⟨c, found, -⟩ := span.2 (j - 1) (by omega) (by omega)
  have := (Array.getElem?_eq_some_iff.mp found).1
  omega

/-- The rounds of a repetition of one character test are the characters that pass it, as many
    as the fewest rounds ask for. -/
theorem Repeats.spans {t : CharTest} {lo : Nat} :
    ∀ {body : Prog} {hi : Option Nat} {count i j : Nat}, Repeats text body lo hi count i j →
      body = .char t → Spans text t.holds i j ∧ lo ≤ count + (j - i)
  | _, _, _, _, _, .stop enough, _ => ⟨Spans.refl _ _, by omega⟩
  | _, _, _, _, _, .round _ once _ rest, same => by
    have later := Repeats.spans rest same
    subst same
    obtain ⟨moved, c, at_i, passes⟩ := once.char_at
    subst moved
    obtain ⟨span, enough⟩ := later
    exact ⟨span.cons at_i passes, by have := span.1; omega⟩

theorem Repeats.of_spans {t : CharTest} {lo : Nat} :
    ∀ (n : Nat) {count i j : Nat}, j - i = n → Spans text t.holds i j → lo ≤ count + (j - i) →
      Repeats text (.char t) lo none count i j
  | 0, count, i, j, gap, span, enough => by
    have same : i = j := by have := span.1; omega
    subst same
    exact .stop (by omega)
  | n + 1, count, i, j, gap, span, enough => by
    obtain ⟨⟨c, at_i, passes⟩, rest⟩ := span.uncons (by omega)
    have inside : i + 1 ≤ text.size := by
      have := (Array.getElem?_eq_some_iff.mp at_i).1
      omega
    exact .round (.inr ⟨rfl, Nat.lt_succ_self i⟩) (.char at_i passes) inside
      (Repeats.of_spans n (by omega) rest (by omega))

/-- A greedy repetition of one character test takes the characters that pass it, at least as
    many as its fewest rounds. -/
theorem derives_chars_iff {t : CharTest} {lo i j : Nat} :
    Derives text (.loop lo none .greedy (.char t)) i j ↔ Spans text t.holds i j ∧ lo ≤ j - i := by
  constructor
  · intro derived
    cases derived with
    | loop rounds =>
      obtain ⟨span, enough⟩ := rounds.spans rfl
      exact ⟨span, by omega⟩
  · rintro ⟨span, enough⟩
    exact .loop (Repeats.of_spans _ rfl span (by omega))

/-- How many characters from `i` on pass `P`, one after another. -/
def spanLength (text : Array Char) (P : Char → Bool) (i : Nat) : Nat :=
  ((text.toList.drop i).takeWhile P).length

theorem drop_toList_of_getElem? {i : Nat} {c : Char} (at_i : text[i]? = some c) :
    text.toList.drop i = c :: text.toList.drop (i + 1) := by
  have listed : text.toList[i]? = some c := by simpa using at_i
  obtain ⟨inside, same⟩ := List.getElem?_eq_some_iff.mp listed
  rw [List.drop_eq_getElem_cons inside, same]

theorem spanLength_of_pass {P : Char → Bool} {i : Nat} {c : Char} (at_i : text[i]? = some c)
    (passes : P c = true) : spanLength text P i = spanLength text P (i + 1) + 1 := by
  rw [spanLength, spanLength, drop_toList_of_getElem? at_i, List.takeWhile_cons_of_pos passes,
    List.length_cons]

theorem spanLength_of_stop {P : Char → Bool} {i : Nat}
    (stops : ∀ c, text[i]? = some c → P c = false) : spanLength text P i = 0 := by
  cases at_i : text[i]? with
  | none =>
    have beyond : text.toList.length ≤ i := by simpa using at_i
    simp [spanLength, List.drop_eq_nil_of_le beyond]
  | some c =>
    rw [spanLength, drop_toList_of_getElem? at_i, List.takeWhile_cons_of_neg (by simp [stops c at_i]),
      List.length_nil]

theorem spanLength_pos {P : Char → Bool} {i : Nat} (moved : 0 < spanLength text P i) :
    ∃ c, text[i]? = some c ∧ P c = true := by
  by_contra stuck
  have stops : spanLength text P i = 0 :=
    spanLength_of_stop fun c found => Bool.eq_false_iff.mpr fun passes => stuck ⟨c, found, passes⟩
  omega

theorem spanLength_le (P : Char → Bool) (i : Nat) : spanLength text P i ≤ text.size - i := by
  have shorter := (List.takeWhile_sublist P (l := text.toList.drop i)).length_le
  rwa [List.length_drop, Array.length_toList] at shorter

theorem spans_spanLength (P : Char → Bool) : ∀ (n i : Nat), spanLength text P i = n → Spans text P i (i + n)
  | 0, i, _ => Spans.refl P i
  | n + 1, i, spanned => by
    obtain ⟨c, at_i, passes⟩ := spanLength_pos (show 0 < spanLength text P i by omega)
    have rest := spans_spanLength P n (i + 1) (by have := spanLength_of_pass at_i passes; omega)
    rw [show i + (n + 1) = i + 1 + n by omega]
    exact rest.cons at_i passes

theorem spanLength_of_all {P : Char → Bool} {i : Nat} (passing : ∀ c ∈ text.toList, P c = true) :
    spanLength text P i = text.size - i := by
  rw [spanLength, List.takeWhile_eq_self_iff.mpr (fun c member => passing c (List.mem_of_mem_drop member)),
    List.length_drop, Array.length_toList]

theorem derives_all_cons_iff {p : Prog} {rest : List Prog} {i l : Nat} :
    Derives text (all (p :: rest)) i l ↔ ∃ j, Derives text p i j ∧ Derives text (all rest) j l :=
  ⟨Derives.all_cons, fun ⟨_, first, later⟩ => Derives.all_cons_of first later⟩

theorem derives_all_nil_iff {i j : Nat} : Derives text (all []) i j ↔ j = i :=
  ⟨fun derived => by cases derived; rfl, fun same => by subst same; exact .empty _⟩

/-- An optional part takes nothing, or what its body takes when that moves on within the text. -/
theorem derives_optional_iff {p : Prog} {i j : Nat} :
    Derives text (optional p) i j ↔ j = i ∨ (i < j ∧ j ≤ text.size ∧ Derives text p i j) := by
  constructor
  · intro derived
    cases derived with
    | loop rounds =>
      cases rounds with
      | stop _ => exact .inl rfl
      | round chosen once inside rest =>
        rcases chosen with below | ⟨_, moved⟩
        · omega
        cases rest with
        | stop _ => exact .inr ⟨moved, inside, once⟩
        | round chosen' _ _ _ =>
          rcases chosen' with below | ⟨allowed, _⟩
          · omega
          · simp at allowed
  · rintro (rfl | ⟨moved, inside, once⟩)
    · exact .loop (.stop (Nat.le_refl 0))
    · exact .loop (.round (.inr ⟨rfl, moved⟩) once inside (.stop (Nat.zero_le 1)))

theorem derives_lit_iff {c : Char} {i j : Nat} : Derives text (lit c) i j ↔ j = i + 1 ∧ text[i]? = some c := by
  constructor
  · intro derived
    obtain ⟨rfl, d, found, holds⟩ := derived.char_at
    simp only [lit_holds_iff, beq_iff_eq] at holds
    exact ⟨rfl, holds ▸ found⟩
  · rintro ⟨rfl, found⟩
    exact .char found (by simp)

theorem derives_point_iff {pt : Point} {i j : Nat} :
    Derives text (.point pt) i j ↔ j = i ∧ pt.holds text i = true :=
  ⟨fun derived => by cases derived with | point holds => exact ⟨rfl, holds⟩,
    fun ⟨same, holds⟩ => by subst same; exact .point holds⟩

/-! ### Literals -/

/-- Whether the characters from `i` pass the tests, one character each, in order. -/
def testsHold (text : Array Char) : List CharTest → Nat → Bool
  | [], _ => true
  | t :: ts, i =>
    match text[i]? with
    | some c => t.holds c && testsHold text ts (i + 1)
    | none => false

def literalTests (ignoring : Bool) (s : String) : List CharTest :=
  s.toList.map fun c => literalTest (if ignoring then ignoreCase else 0) false c.toNat

theorem literal_eq_tests (ignoring : Bool) (s : String) :
    literal ignoring s = all ((literalTests ignoring s).map .char) := by
  rw [literal, literalTests, List.map_map]
  rfl

@[simp] theorem literalTests_length (ignoring : Bool) (s : String) :
    (literalTests ignoring s).length = s.length := by
  simp [literalTests, String.length_toList]

/-- A run of single characters takes one character for each test, in order. -/
theorem derives_tests_iff : ∀ {ts : List CharTest} {i j : Nat},
    Derives text (all (ts.map .char)) i j ↔ j = i + ts.length ∧ testsHold text ts i = true
  | [], i, j => by
    constructor
    · intro derived
      cases derived
      simp [testsHold]
    · rintro ⟨rfl, -⟩
      exact .empty _
  | t :: ts, i, j => by
    rw [List.map_cons, derives_all_cons_iff]
    constructor
    · rintro ⟨_, first, rest⟩
      obtain ⟨rfl, c, at_i, passes⟩ := first.char_at
      obtain ⟨rfl, holds⟩ := derives_tests_iff.mp rest
      refine ⟨by simp only [List.length_cons]; omega, ?_⟩
      simp [testsHold, at_i, passes, holds]
    · rintro ⟨rfl, holds⟩
      simp only [testsHold] at holds
      split at holds
      · next c at_i =>
        simp only [Bool.and_eq_true] at holds
        refine ⟨i + 1, .char at_i holds.1, derives_tests_iff.mpr ⟨?_, holds.2⟩⟩
        simp only [List.length_cons]
        omega
      · cases holds

theorem derives_literal_iff {ignoring : Bool} {s : String} {i j : Nat} :
    Derives text (literal ignoring s) i j ↔
      j = i + s.length ∧ testsHold text (literalTests ignoring s) i = true := by
  rw [literal_eq_tests, derives_tests_iff, literalTests_length]

theorem testsHold_le_size : ∀ {ts : List CharTest} {i : Nat}, testsHold text ts i = true →
    i + ts.length ≤ text.size ∨ ts = []
  | [], i, _ => .inr rfl
  | t :: ts, i, holds => by
    simp only [testsHold] at holds
    split at holds
    · next c at_i =>
      simp only [Bool.and_eq_true] at holds
      have inside := lt_size_of_getElem? at_i
      refine .inl ?_
      rcases testsHold_le_size holds.2 with fits | rfl
      · simp only [List.length_cons]
        omega
      · simp only [List.length_cons, List.length_nil]
        omega
    · cases holds

/-- Single characters that pass their tests hand the position past them on. -/
theorem run_tests_of_hold {m : Marks} {k : Next} :
    ∀ {ts : List CharTest} {i : Nat}, testsHold text ts i = true →
      run text (all (ts.map .char)) i m k = k (i + ts.length) m
  | [], i, _ => rfl
  | t :: ts, i, holds => by
    simp only [testsHold] at holds
    split at holds
    · next c at_i =>
      simp only [Bool.and_eq_true] at holds
      rw [List.map_cons, run_all_cons]
      simp only [run, at_i, holds.1, if_true]
      rw [run_tests_of_hold holds.2, List.length_cons, Nat.add_assoc, Nat.add_comm 1]
    · cases holds

/-- Single characters that fail their tests match nowhere. -/
theorem run_tests_of_fail {m : Marks} {k : Next} :
    ∀ {ts : List CharTest} {i : Nat}, testsHold text ts i = false →
      run text (all (ts.map .char)) i m k = none
  | [], i, fails => by simp [testsHold] at fails
  | t :: ts, i, fails => by
    rw [List.map_cons, run_all_cons]
    simp only [testsHold] at fails
    simp only [run]
    split
    · next c at_i =>
      simp only [at_i, Bool.and_eq_false_iff] at fails
      rcases fails with refused | later
      · simp [refused]
      · split
        · exact run_tests_of_fail later
        · rfl
    · rfl

theorem run_all_append_eq (front back : List Prog) (i : Nat) (m : Marks) (k : Next) :
    run text (all (front ++ back)) i m k =
      run text (all front) i m fun j m' => run text (all back) j m' k := by
  induction front generalizing i m with
  | nil => rfl
  | cons p front ih =>
    rw [List.cons_append, run_all_cons, run_all_cons]
    simp only [ih]

theorem run_group (g : Nat) (p : Prog) (i : Nat) (m : Marks) (k : Next) :
    run text (.group g p) i m k =
      run text p i (m.setIfInBounds (2 * g - 2) (some i)) fun j m' => k j (m'.setIfInBounds (2 * g - 1) (some j)) :=
  rfl

theorem run_point (pt : Point) (i : Nat) (m : Marks) (k : Next) :
    run text (.point pt) i m k = if pt.holds text i then k i m else none :=
  rfl

theorem run_char_pass {t : CharTest} {i : Nat} {c : Char} (at_i : text[i]? = some c)
    (passes : t.holds c = true) (m : Marks) (k : Next) : run text (.char t) i m k = k (i + 1) m := by
  simp [run, at_i, passes]

theorem run_char_stop {t : CharTest} {i : Nat} (stops : ∀ c, text[i]? = some c → t.holds c = false)
    (m : Marks) (k : Next) : run text (.char t) i m k = none := by
  simp only [run]
  split
  · next c at_i => simp [stops c at_i]
  · rfl

/-- An optional part tries its body first, with the continuation after a round that moves on
    within the text, and falls back on taking nothing. -/
theorem run_optional (p : Prog) (i : Nat) (m : Marks) (k : Next) :
    run text (optional p) i m k =
      (run text p i m fun j m' =>
        if j = i then k j m' else if i < j ∧ j ≤ text.size then k j m' else none).or (k i m) := by
  simp only [Prog.optional, run]
  rw [greedyLoop]
  simp only [Nat.lt_irrefl, if_false, Option.all_some, decide_eq_true (Nat.zero_lt_one), if_true]
  -- after one round the repetition is full, and hands its end to the continuation
  have full : ∀ j m', greedyLoop text (fun j m' k' => run text p j m' k') 0 (some 1) 1 j m' k = k j m' := by
    intro j m'
    rw [greedyLoop]
    simp
  simp only [full, dite_eq_ite]
  cases run text p i m _ <;> rfl

/-- A negative look-ahead fails at a place where its body, a program that tries every way,
    derives something. -/
theorem run_look_ahead_blocked {p : Prog} (plain : p.plain = true) {i j : Nat} (derived : Derives text p i j)
    (m : Marks) (k : Next) : run text (.look none true p) i m k = none := by
  simp only [run]
  obtain ⟨r, found⟩ := Option.isSome_iff_exists.mp (run_complete text p plain i j derived finish (fun _ => rfl) m)
  rw [found]
  rfl

/-- A negative look-ahead hands its own place and marks to the continuation where its body
    derives nothing; this half needs no plainness, since a run that ends is a derivation. -/
theorem run_look_ahead_clear {p : Prog} {i : Nat} (clear : ¬ ∃ j, Derives text p i j) (m : Marks) (k : Next) :
    run text (.look none true p) i m k = k i m := by
  simp only [run]
  cases ran : run text p i m finish with
  | none => rfl
  | some r =>
    obtain ⟨j, _, d, -⟩ := run_derives text p ran
    exact absurd ⟨j, d⟩ clear

/-! ### Greedy repetitions of one test -/

/-- The first success of `k` among the positions from `i + n` down to `i`. -/
def longestFirst (k : Nat → Outcome) : Nat → Nat → Outcome
  | i, 0 => k i
  | i, n + 1 => (longestFirst k (i + 1) n).or (k i)

theorem longestFirst_top {k : Nat → Outcome} :
    ∀ {i n : Nat}, (k (i + n)).isSome → longestFirst k i n = k (i + n)
  | i, 0, _ => rfl
  | i, n + 1, found => by
    have later : longestFirst k (i + 1) n = k (i + 1 + n) :=
      longestFirst_top (by rwa [Nat.add_assoc, Nat.add_comm 1 n])
    rw [longestFirst, later, Nat.add_assoc, Nat.add_comm 1 n]
    cases hit : k (i + (n + 1)) with
    | none => simp [hit] at found
    | some r => rfl

/-- Where `k` fails at the farthest position and succeeds just before it, that is the first
    success. -/
theorem longestFirst_below_top {k : Nat → Outcome} :
    ∀ {i n : Nat}, k (i + n + 1) = none → (k (i + n)).isSome → longestFirst k i (n + 1) = k (i + n)
  | i, 0, missed, found => by
    simp only [longestFirst, Nat.add_zero] at missed found ⊢
    rw [missed]
    rfl
  | i, n + 1, missed, found => by
    have later : longestFirst k (i + 1) (n + 1) = k (i + 1 + n) :=
      longestFirst_below_top (by rw [show i + 1 + n + 1 = i + (n + 1) + 1 by omega]; exact missed)
        (by rw [show i + 1 + n = i + (n + 1) by omega]; exact found)
    rw [longestFirst, later, Nat.add_assoc i 1 n, Nat.add_comm 1 n]
    cases hit : k (i + (n + 1)) with
    | none => simp [hit] at found
    | some r => rfl

/-- A greedy repetition of one character test, once its fewest rounds are done, tries its
    continuation after the longest run of passing characters first, then after shorter ones. -/
theorem greedyLoop_chars (t : CharTest) (lo : Nat) (m : Marks) (k : Next) :
    ∀ (n i count : Nat), spanLength text t.holds i = n → lo ≤ count →
      greedyLoop text (fun j m' k' => run text (.char t) j m' k') lo none count i m k =
        longestFirst (fun j => k j m) i n
  | 0, i, count, spanned, enough => by
    -- no character passes at `i`, so no round is taken
    have stopped : ∀ c, text[i]? = some c → t.holds c = false := by
      intro c at_i
      cases passes : t.holds c
      · rfl
      · have := spanLength_of_pass at_i passes
        omega
    rw [greedyLoop, if_neg (by omega)]
    simp only [Option.all_none, if_true]
    rw [run_char_stop stopped]
    rfl
  | n + 1, i, count, spanned, enough => by
    obtain ⟨c, at_i, passes⟩ := spanLength_pos (show 0 < spanLength text t.holds i by omega)
    have inside : i + 1 ≤ text.size := by
      have := (Array.getElem?_eq_some_iff.mp at_i).1
      omega
    have rest : spanLength text t.holds (i + 1) = n := by
      have := spanLength_of_pass at_i passes
      omega
    rw [greedyLoop, if_neg (by omega)]
    simp only [Option.all_none, if_true]
    rw [run_char_pass at_i passes]
    simp only [Nat.ne_of_gt (Nat.lt_succ_self i), if_false, dif_pos (And.intro (Nat.lt_succ_self i) inside)]
    rw [greedyLoop_chars t lo m k n (i + 1) (count + 1) rest (by omega), longestFirst]
    cases longestFirst (fun j => k j m) (i + 1) n <;> rfl

theorem run_many_chars (t : CharTest) (i : Nat) (m : Marks) (k : Next) :
    run text (many (.char t)) i m k = longestFirst (fun j => k j m) i (spanLength text t.holds i) :=
  greedyLoop_chars t 0 m k _ i 0 rfl (Nat.le_refl 0)

/-- A repetition of one character test with at least one round, when the first character passes. -/
theorem run_many1_chars_pass {t : CharTest} {i : Nat} {c : Char} (at_i : text[i]? = some c)
    (passes : t.holds c = true) (m : Marks) (k : Next) :
    run text (many1 (.char t)) i m k =
      longestFirst (fun j => k j m) (i + 1) (spanLength text t.holds (i + 1)) := by
  have inside : i + 1 ≤ text.size := by
    have := (Array.getElem?_eq_some_iff.mp at_i).1
    omega
  show greedyLoop text (fun j m' k' => run text (.char t) j m' k') 1 none 0 i m k = _
  rw [greedyLoop, if_pos Nat.zero_lt_one, run_char_pass at_i passes,
    dif_pos ⟨Nat.le_succ i, inside⟩]
  exact greedyLoop_chars t 1 m k _ (i + 1) 1 rfl (Nat.le_refl 1)

/-- A repetition of one character test with at least one round fails where the first character
    does not pass. -/
theorem run_many1_chars_stop {t : CharTest} {i : Nat}
    (stops : ∀ c, text[i]? = some c → t.holds c = false) (m : Marks) (k : Next) :
    run text (many1 (.char t)) i m k = none := by
  show greedyLoop text (fun j m' k' => run text (.char t) j m' k') 1 none 0 i m k = _
  rw [greedyLoop, if_pos Nat.zero_lt_one, run_char_stop stops]

/-- A program that matches nowhere is never found by a search from anywhere. -/
theorem searchFrom_go_of_never (p : Program) (never : ∀ i, p.matchAt text i false = none) :
    ∀ (fuel i : Nat), Program.searchFrom.go p text i false fuel = none
  | 0, _ => rfl
  | fuel + 1, i => by
    rw [Program.searchFrom.go, never]
    exact searchFrom_go_of_never p never fuel (i + 1)

/-- Replacing the matches of a program that matches nowhere leaves the text as it is. -/
theorem replaceAll_of_never (p : Program) (s repl : String)
    (never : ∀ i, p.matchAt s.toList.toArray i false = none) : p.replaceAll s repl = s := by
  have missed : p.searchFrom s.toList.toArray 0 false = none := searchFrom_go_of_never p never _ 0
  have nothing : p.findAll s.toList.toArray = [] := by
    rw [Program.findAll, Program.findAll.go, missed]
  simp [Program.replaceAll, nothing, Program.replaceAll.pieces, textBetween, String.ofList_toList]

end ClassAtlas.Pattern
