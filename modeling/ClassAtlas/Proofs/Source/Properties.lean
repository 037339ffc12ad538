import ClassAtlas.Source.Extract
import ClassAtlas.Proofs.Pattern.Scan
import ClassAtlas.Proofs.Text.LineNumbers
import ClassAtlas.Proofs.Source.Definition
import ClassAtlas.Proofs.Index.References

/-!
Which properties are read from a header. A property declaration is said here without the matcher
(`declarationAt`): at the start of a line, spaces and tabs, the macro name `UPROPERTY`, blanks,
an opening parenthesis, the arguments up to the first closing parenthesis and that one
(`macroEnd`); then, after blanks of any kind, newlines included, the type, at least one blank
and the name. The type is a word, then an argument list `<...>` holding no `>` when one opens
there and closes (`bracketEnd`), then blanks and a `*` or `&` when one follows (`markEnd`); the
name is a word. Each word runs as far as it can.

The property shape matches at a position exactly when a declaration is read there, over the same
places (`propertyShape_matchAt`): a repetition in front of a part that cannot start with what
the repetition takes is left at its longest (`run_many_of_refuses`), and the optional parts of
the type are taken whenever they can be, since what follows them cannot start where they do.
Collecting the matches is then the scan of the declarations (`Scans`): the first line start
that reads one, and on from the end of its name, so a line that starts inside a declaration is
not read. The properties are the first hundred of the scan, each on the line of its macro, and
that is the line `splitLines` gives the same number (`propertiesOf_reads_scanned_declarations`).
-/

namespace ClassAtlas.Source

open ClassAtlas.Pattern ClassAtlas.Text Prog

/-! ### Property declarations, said without the matcher -/

/-- Spaces and tabs, the indentation before the macro. -/
def isIndent (c : Char) : Bool := c == ' ' || c == '\t'

def runEnd (text : Array Char) (P : Char → Bool) (i : Nat) : Nat := i + spanLength text P i

def passesAt (text : Array Char) (P : Char → Bool) (i : Nat) : Bool := text[i]?.any P

/-- Whether `a` starts a line: it starts the text or follows a newline. -/
def startsLine (text : Array Char) (a : Nat) : Bool := a = 0 || text[a - 1]? == some '\n'

/-- Past a `UPROPERTY` macro whose name starts at `h`: blanks, an opening parenthesis, the
    arguments up to the first closing parenthesis, and that one. -/
def macroEnd (text : Array Char) (h : Nat) : Option Nat :=
  let x := blankEnd text (h + 9)
  let y := runEnd text (· != ')') (x + 1)
  if "UPROPERTY".toList <+: text.toList.drop h ∧ text[x]? = some '(' ∧ text[y]? = some ')' then some (y + 1)
  else none

/-- Past an argument list `<...>` holding no `>` that opens at `w` and closes, or `w` when none
    does. -/
def bracketEnd (text : Array Char) (w : Nat) : Nat :=
  let g := runEnd text (· != '>') (w + 1)
  if text[w]? = some '<' ∧ w + 1 < g ∧ text[g]? = some '>' then g + 1 else w

/-- Past blanks and a `*` or `&` from `g`, or `g` when no such mark follows the blanks. -/
def markEnd (text : Array Char) (g : Nat) : Nat :=
  let b := blankEnd text g
  if text[b]? = some '*' ∨ text[b]? = some '&' then b + 1 else g

def typeEnd (text : Array Char) (t : Nat) : Nat := markEnd text (bracketEnd text (runEnd text isWordChar t))

/-- The places of a property declaration: the start of the line of its macro, its type and its
    name. -/
structure Declaration where
  start : Nat
  typeStart : Nat
  typeStop : Nat
  nameStart : Nat
  nameStop : Nat
  deriving DecidableEq, Repr

/-- The property declared from the line start `a`: the macro after spaces and tabs, then after
    blanks a type starting with a word character, at least one blank, and a name. -/
def declarationAt (text : Array Char) (a : Nat) : Option Declaration :=
  if startsLine text a then
    (macroEnd text (runEnd text isIndent a)).bind fun c =>
      let t := blankEnd text c
      let n := blankEnd text (typeEnd text t)
      if passesAt text isWordChar t ∧ passesAt text isBlank (typeEnd text t) ∧ passesAt text isWordChar n then
        some ⟨a, t, typeEnd text t, n, runEnd text isWordChar n⟩
      else none
  else none

/-- The number of the line that holds position `a`, counted from one. -/
def lineNumber (text : Array Char) (a : Nat) : Nat := (text.toList.take a).count '\n' + 1

/-- The property a declaration gives: its name, its type, and the line of its macro. -/
def Declaration.property (text : Array Char) (d : Declaration) : Property :=
  ⟨textBetween text d.nameStart d.nameStop, textBetween text d.typeStart d.typeStop, lineNumber text d.start⟩

/-- The match of the property shape over a declaration: group 1 the type, group 2 the name. -/
def Declaration.found (d : Declaration) : Found :=
  ⟨d.start, d.nameStop, #[some d.typeStart, some d.typeStop, some d.nameStart, some d.nameStop]⟩

section Reading

variable {text : Array Char}

/-! ### Runs of one test -/

theorem le_runEnd (P : Char → Bool) (i : Nat) : i ≤ runEnd text P i := Nat.le_add_right i _

theorem runEnd_of_pass {P : Char → Bool} {i : Nat} {c : Char} (at_i : text[i]? = some c) (passes : P c = true) :
    runEnd text P i = runEnd text P (i + 1) := by
  rw [runEnd, runEnd, spanLength_of_pass at_i passes]
  omega

theorem runEnd_of_fail {P : Char → Bool} {i : Nat} (fails : passesAt text P i = false) : runEnd text P i = i := by
  rw [runEnd, spanLength_of_stop fun c at_i => by simpa [passesAt, at_i] using fails]
  rfl

theorem passesAt_iff {P : Char → Bool} {i : Nat} : passesAt text P i = true ↔ ∃ c, text[i]? = some c ∧ P c = true := by
  cases at_i : text[i]? <;> simp [passesAt, at_i]

theorem passesAt_of_lt_runEnd {P : Char → Bool} {i j : Nat} (low : i ≤ j) (high : j < runEnd text P i) :
    passesAt text P j = true :=
  passesAt_iff.mpr ((spans_spanLength P _ i rfl).2 j low high)

/-- A run ends at a character that fails the test, or at the end of the text. -/
theorem passesAt_runEnd (P : Char → Bool) : ∀ (n i : Nat), spanLength text P i = n →
    passesAt text P (runEnd text P i) = false
  | 0, i, short => by
    cases at_i : text[i]? with
    | none => simp [runEnd, short, passesAt, at_i]
    | some c =>
      cases passes : P c
      · simp [runEnd, short, passesAt, at_i, passes]
      · rw [spanLength_of_pass at_i passes] at short
        omega
  | n + 1, i, spanned => by
    obtain ⟨c, at_i, passes⟩ := spanLength_pos (show 0 < spanLength text P i by omega)
    rw [runEnd_of_pass at_i passes]
    exact passesAt_runEnd P n (i + 1) (by rw [spanLength_of_pass at_i passes] at spanned; omega)

theorem runEnd_stops (P : Char → Bool) (i : Nat) : passesAt text P (runEnd text P i) = false :=
  passesAt_runEnd P _ i rfl

theorem lt_runEnd {P : Char → Bool} {i : Nat} (passes : passesAt text P i = true) : i < runEnd text P i := by
  rcases Nat.lt_or_ge i (runEnd text P i) with moved | stuck
  · exact moved
  · have same : runEnd text P i = i := Nat.le_antisymm stuck (le_runEnd P i)
    have := @runEnd_stops text P i
    rw [same, passes] at this
    cases this

theorem runEnd_le_size (P : Char → Bool) {i : Nat} (inside : i ≤ text.size) : runEnd text P i ≤ text.size := by
  have := @spanLength_le text P i
  rw [runEnd]
  omega

theorem lt_size_of_passesAt {P : Char → Bool} {i : Nat} (passes : passesAt text P i = true) : i < text.size := by
  obtain ⟨c, at_i, -⟩ := passesAt_iff.mp passes
  exact lt_size_of_getElem? at_i

/-- Runs that start apart in a stretch of passing characters end together. -/
theorem runEnd_eq_of_spans {P : Char → Bool} : ∀ (n : Nat) {i j : Nat}, j - i = n → Spans text P i j →
    runEnd text P i = runEnd text P j
  | 0, i, j, gap, span => by
    obtain rfl : i = j := by have := span.1; omega
    rfl
  | n + 1, i, j, gap, span => by
    obtain ⟨⟨c, at_i, passes⟩, rest⟩ := span.uncons (by omega)
    rw [runEnd_of_pass at_i passes]
    exact runEnd_eq_of_spans n (by omega) rest

/-- The characters from `a` up to the end of the run from `a` pass its test. -/
theorem passes_of_mem_take_runEnd {P : Char → Bool} {a : Nat} :
    ∀ x ∈ (text.toList.drop a).take (runEnd text P a - a), P x = true := by
  intro x member
  obtain ⟨i, at_i⟩ := List.mem_iff_getElem?.mp member
  rw [List.getElem?_take] at at_i
  split at at_i
  · next below =>
    rw [List.getElem?_drop, Array.getElem?_toList] at at_i
    obtain ⟨c, at_c, passes⟩ := passesAt_iff.mp (passesAt_of_lt_runEnd (Nat.le_add_right a i)
      (show a + i < runEnd text P a by omega))
    rw [at_i] at at_c
    cases at_c
    exact passes
  · cases at_i

theorem isBlank_of_isIndent {c : Char} (indent : isIndent c = true) : isBlank c = true := by
  simp only [isIndent, Bool.or_eq_true, beq_iff_eq] at indent
  rcases indent with rfl | rfl <;> decide +kernel

theorem run_char_of_passes {P : Char → Bool} {t : CharTest} (excludes : ∀ c, P c = true → t.holds c = false)
    {j : Nat} (passes : passesAt text P j = true) (m : Marks) (k : Next) : run text (.char t) j m k = none := by
  obtain ⟨c, at_j, held⟩ := passesAt_iff.mp passes
  exact run_char_stop (fun d at_j' => by rw [at_j] at at_j'; cases at_j'; exact excludes c held) m k

/-- A literal fails where a character passes a test its own character fails. -/
theorem run_lit_of_passes {P : Char → Bool} {x : Char} (other : P x = false) {j : Nat}
    (passes : passesAt text P j = true) (m : Marks) (k : Next) : run text (lit x) j m k = none :=
  run_char_of_passes (fun c held => by
    rw [lit_holds_iff]
    cases same : c == x
    · rfl
    · rw [beq_iff_eq] at same
      subst same
      rw [held] at other
      cases other) passes m k

theorem run_lit_of_eq {x : Char} {j : Nat} (at_j : text[j]? = some x) (m : Marks) (k : Next) :
    run text (lit x) j m k = k (j + 1) m :=
  run_char_pass at_j (by simp [CharTest.holds]) m k

theorem run_lit_of_ne {x : Char} {j : Nat} (other : text[j]? ≠ some x) (m : Marks) (k : Next) :
    run text (lit x) j m k = none :=
  run_char_stop (fun c found => by
    rw [lit_holds_iff, beq_eq_false_iff_ne]
    exact fun same => other (same ▸ found)) m k

theorem oneOf_test_eq (cs : List Char) :
    (setTest 0 false (cs.map fun c => Member.char c.toNat)).holds = fun c => cs.any (c == ·) := by
  funext c
  simp [setTest, foldOf, hasFlag, ignoreCase, asciiFlag, Member.probe, CharTest.holds, CharSet.holds,
    Fold.apply, Probe.holds, List.any_map, Function.comp_def, toNat_beq]

theorem indent_test_eq : (setTest 0 false ([' ', '\t'].map fun c => Member.char c.toNat)).holds = isIndent := by
  rw [oneOf_test_eq]
  funext c
  simp [isIndent]

/-- Where the continuation fails at every end below the top, trying the longest first answers
    the top. -/
theorem longestFirst_of_below {k : Nat → Outcome} : ∀ {i n : Nat}, (∀ j, i ≤ j → j < i + n → k j = none) →
    longestFirst k i n = k (i + n)
  | i, 0, _ => rfl
  | i, n + 1, below => by
    rw [longestFirst, longestFirst_of_below fun j low high => below j (by omega) (by omega),
      below i (Nat.le_refl i) (by omega), Option.or_none]
    congr 1
    omega

theorem longestFirst_const {k : Nat → Outcome} {v : Outcome} : ∀ {i n : Nat},
    (∀ j, i ≤ j → j ≤ i + n → k j = v) → longestFirst k i n = v
  | i, 0, same => same i (Nat.le_refl i) (by omega)
  | i, n + 1, same => by
    rw [longestFirst, longestFirst_const fun j low high => same j (by omega) (by omega),
      same i (Nat.le_refl i) (by omega), Option.or_self]

/-- A repetition of one test, followed by a part that fails wherever the test passes, is left at
    the end of the run. -/
theorem run_many_of_refuses {t : CharTest} {i : Nat} {m : Marks} {k : Next}
    (refuses : ∀ j, passesAt text t.holds j = true → k j m = none) :
    run text (many (.char t)) i m k = k (runEnd text t.holds i) m := by
  rw [run_many_chars]
  exact longestFirst_of_below fun j low high => refuses j (passesAt_of_lt_runEnd low high)

/-- The same with at least one round: nothing when the first character fails the test. -/
theorem run_many1_of_refuses {t : CharTest} {i : Nat} {m : Marks} {k : Next}
    (refuses : ∀ j, passesAt text t.holds j = true → k j m = none) :
    run text (many1 (.char t)) i m k = if passesAt text t.holds i then k (runEnd text t.holds i) m else none := by
  cases at_i : text[i]? with
  | none =>
    rw [run_many1_chars_stop fun c found => by simp [at_i] at found]
    simp [passesAt, at_i]
  | some c =>
    cases passes : t.holds c
    · rw [run_many1_chars_stop fun d found => by rw [at_i] at found; cases found; exact passes]
      simp [passesAt, at_i, passes]
    · rw [run_many1_chars_pass at_i passes, runEnd_of_pass at_i passes,
        longestFirst_of_below fun j low high => refuses j (passesAt_of_lt_runEnd low high)]
      simp [passesAt, at_i, passes, runEnd]

theorem blankEnd_eq_runEnd (i : Nat) : blankEnd text i = runEnd text isBlank i := rfl

theorem passesAt_word_of_blank {j : Nat} (blank : passesAt text isBlank j = true) :
    passesAt text isWordChar j = false := by
  obtain ⟨c, at_j, blank⟩ := passesAt_iff.mp blank
  simp [passesAt, at_j, blank_not_word blank]

theorem passesAt_blank_of_word {j : Nat} (word : passesAt text isWordChar j = true) :
    passesAt text isBlank j = false := by
  cases blank : passesAt text isBlank j
  · rfl
  · rw [passesAt_word_of_blank blank] at word
    cases word

theorem ne_of_passesAt {P : Char → Bool} {x : Char} (other : P x = false) {j : Nat}
    (passes : passesAt text P j = true) : text[j]? ≠ some x := by
  intro same
  simp [passesAt, same, other] at passes

theorem bracketEnd_of_not_open {w : Nat} (closed : text[w]? ≠ some '<') : bracketEnd text w = w := by
  simp [bracketEnd, closed]

theorem markEnd_of_other {g : Nat} (notBlank : passesAt text isBlank g = false) (notStar : text[g]? ≠ some '*')
    (notAmp : text[g]? ≠ some '&') : markEnd text g = g := by
  simp [markEnd, blankEnd_eq_runEnd, runEnd_of_fail notBlank, notStar, notAmp]

theorem le_bracketEnd (w : Nat) : w ≤ bracketEnd text w := by
  unfold bracketEnd
  dsimp only
  split <;> omega

theorem le_markEnd (g : Nat) : g ≤ markEnd text g := by
  unfold markEnd
  have := @le_runEnd text isBlank g
  dsimp only
  split <;> simp only [blankEnd_eq_runEnd] at * <;> omega

theorem lt_typeEnd {t : Nat} (word : passesAt text isWordChar t = true) : t < typeEnd text t :=
  Nat.lt_of_lt_of_le (lt_runEnd word) ((le_bracketEnd _).trans (le_markEnd _))

/-! ### The parts of the shape, run -/

def propertyFront : List Prog := [.point .lineStart, many (oneOf [' ', '\t']), macroCall false "UPROPERTY"]

def propertyGap : List Prog := [many (oneOf [' ', '\t']), optional (lit '\n'), blanks]

def typeThenName : List Prog := [.group 1 typeShape, many1 blank, .group 2 (many1 wordChar)]

theorem propertyShape_split : propertyShape.body = all (propertyFront ++ (propertyGap ++ typeThenName)) := rfl

/-- The marks once a type from `t` to `p` and a name from `n` to `e` are read. -/
def readMarks (m : Marks) (t p n e : Nat) : Marks :=
  (((m.setIfInBounds 0 (some t)).setIfInBounds 1 (some p)).setIfInBounds 2 (some n)).setIfInBounds 3 (some e)

/-- The name group reads the word from `n` to its end. -/
theorem run_nameGroup (n : Nat) (m : Marks) :
    run text (.group 2 (many1 wordChar)) n m finish =
      if passesAt text isWordChar n then
        some (runEnd text isWordChar n,
          (m.setIfInBounds 2 (some n)).setIfInBounds 3 (some (runEnd text isWordChar n)))
      else none := by
  rw [run_group, wordChar, classOf]
  cases at_n : text[n]? with
  | none =>
    rw [run_many1_chars_stop fun c found => by simp [at_n] at found]
    simp [passesAt, at_n]
  | some c =>
    cases word : isWordChar c
    · rw [run_many1_chars_stop fun d found => by rw [at_n] at found; cases found; simp [word]]
      simp [passesAt, at_n, word]
    · rw [run_many1_chars_pass at_n (by simp [word]), wordChar_test_eq, longestFirst_top (by simp [finish]),
        runEnd_of_pass at_n word]
      simp [passesAt, at_n, word, finish, runEnd]

/-- After the type: at least one blank, then the name. -/
theorem run_afterType (p : Nat) (m : Marks) :
    run text (all [many1 blank, .group 2 (many1 wordChar)]) p m finish =
      if passesAt text isBlank p ∧ passesAt text isWordChar (blankEnd text p) then
        some (runEnd text isWordChar (blankEnd text p),
          (m.setIfInBounds 2 (some (blankEnd text p))).setIfInBounds 3 (some (runEnd text isWordChar (blankEnd text p))))
      else none := by
  rw [run_all_cons]
  show run text (many1 (.char (setTest 0 false [.category .space]))) p m
    (fun j m' => run text (.group 2 (many1 wordChar)) j m' finish) = _
  rw [run_many1_of_refuses fun j blank => ?refuses, blank_test_eq, ← blankEnd_eq_runEnd]
  · by_cases blank : passesAt text isBlank p
    · simp [blank, run_nameGroup]
    · simp [blank]
  case refuses =>
    rw [blank_test_eq] at blank
    simp [run_nameGroup, passesAt_word_of_blank blank]

/-- What may follow a type: it takes at least one blank and then a word character. -/
def FollowsType (text : Array Char) (K : Next) : Prop :=
  ∀ j m, (K j m).isSome → passesAt text isBlank j = true ∧ passesAt text isWordChar (blankEnd text j) = true

theorem FollowsType.none_of_not_blank {K : Next} (follows : FollowsType text K) {j : Nat}
    (notBlank : passesAt text isBlank j = false) (m : Marks) : K j m = none :=
  Option.not_isSome_iff_eq_none.mp fun found => by simpa [notBlank] using (follows j m found).1

theorem FollowsType.none_of_not_word {K : Next} (follows : FollowsType text K) {j : Nat}
    (notWord : passesAt text isWordChar (blankEnd text j) = false) (m : Marks) : K j m = none :=
  Option.not_isSome_iff_eq_none.mp fun found => by simpa [notWord] using (follows j m found).2

/-- The optional mark of a type is taken whenever it follows the blanks. -/
theorem run_mark {K : Next} (follows : FollowsType text K) (g : Nat) (m : Marks) :
    run text (optional (all [blanks, oneOf ['*', '&']])) g m K = K (markEnd text g) m := by
  have notBlank : ∀ x, x = '*' ∨ x = '&' → isBlank x = false := by
    rintro x (rfl | rfl) <;> decide +kernel
  -- a mark after the blanks is no word character, so what follows the type cannot start at `g`
  have unfollowed : ∀ x, text[blankEnd text g]? = some x → (x = '*' ∨ x = '&') → K g m = none := by
    intro x at_b mark
    have notWord : isWordChar x = false := by rcases mark with rfl | rfl <;> decide
    exact follows.none_of_not_word (by simp [passesAt, at_b, notWord]) m
  rw [run_optional, run_all_cons, show all [oneOf ['*', '&']] = oneOf ['*', '&'] from rfl, oneOf]
  show (run text (many (.char (setTest 0 false [.category .space]))) g m _).or _ = _
  rw [run_many_of_refuses fun j blank => ?refuses, blank_test_eq, ← blankEnd_eq_runEnd]
  · cases at_b : text[blankEnd text g]? with
    | none =>
      rw [run_char_stop fun c found => by simp [at_b] at found]
      simp [markEnd, at_b]
    | some x =>
      by_cases mark : x = '*' ∨ x = '&'
      · have moved : g ≤ blankEnd text g := le_runEnd isBlank g
        have inside := lt_size_of_getElem? at_b
        rw [run_char_pass at_b (by rw [oneOf_test_eq]; rcases mark with rfl | rfl <;> simp),
          unfollowed x at_b mark, Option.or_none, if_neg (by omega), if_pos ⟨by omega, by omega⟩]
        simp [markEnd, at_b, mark]
      · rw [run_char_stop fun c found => by
          rw [at_b] at found
          cases found
          rw [oneOf_test_eq]
          simpa [not_or] using mark]
        simp only [Option.none_or]
        rw [markEnd, if_neg (by simpa [at_b] using mark)]
  case refuses =>
    rw [blank_test_eq] at blank
    refine run_char_of_passes (fun c held => Bool.eq_false_iff.mpr fun marked => ?_) blank m _
    rw [oneOf_test_eq] at marked
    have mark : c = '*' ∨ c = '&' := by simpa using marked
    rw [notBlank c mark] at held
    cases held

/-- The optional argument list of a type is taken whenever it opens and closes. -/
theorem run_bracket {K : Next} {w : Nat} (opened : text[w]? = some '<' → ∀ m, K w m = none) (m : Marks) :
    run text (optional (all [lit '<', many1 (but '>'), lit '>'])) w m K = K (bracketEnd text w) m := by
  rw [run_optional, run_all_cons]
  by_cases open_w : text[w]? = some '<'
  · have inside := lt_size_of_getElem? open_w
    rw [run_lit_of_eq open_w, run_all_cons, but,
      run_many1_of_refuses fun j passes => ?refuses, but_test_eq, opened open_w m, Option.or_none]
    · by_cases args : passesAt text (· != '>') (w + 1)
      · have moved := lt_runEnd args
        rw [if_pos args]
        by_cases close : text[runEnd text (· != '>') (w + 1)]? = some '>'
        · have closed := lt_size_of_getElem? close
          rw [show all [lit '>'] = lit '>' from rfl, run_lit_of_eq close, if_neg (by omega),
            if_pos ⟨by omega, by omega⟩, bracketEnd]
          simp [open_w, moved, close]
        · rw [show all [lit '>'] = lit '>' from rfl, run_lit_of_ne close, bracketEnd]
          simp [close, opened open_w m]
      · rw [if_neg args, bracketEnd]
        simp [runEnd_of_fail (Bool.eq_false_iff.mpr args), opened open_w m]
    case refuses =>
      rw [but_test_eq] at passes
      exact @run_lit_of_passes text (· != '>') '>' rfl _ passes _ _
  · rw [run_lit_of_ne open_w]
    simp [bracketEnd_of_not_open open_w]

/-- A type: a word, then its argument list and its mark when they follow. -/
theorem run_typeShape {K : Next} (follows : FollowsType text K) (t : Nat) (m : Marks) :
    run text typeShape t m K = if passesAt text isWordChar t then K (typeEnd text t) m else none := by
  -- past the word, the argument list and the mark are each taken when they can be
  have rest : ∀ w m', run text (all [optional (all [lit '<', many1 (but '>'), lit '>']),
      optional (all [blanks, oneOf ['*', '&']])]) w m' K = K (markEnd text (bracketEnd text w)) m' := by
    intro w m'
    rw [run_all_cons]
    show run text (optional (all [lit '<', many1 (but '>'), lit '>'])) w m'
      (fun g m'' => run text (optional (all [blanks, oneOf ['*', '&']])) g m'' K) = _
    simp only [run_mark follows]
    refine run_bracket (fun open_w m'' => ?_) m'
    have notBlank : passesAt text isBlank w = false := by simp [passesAt, open_w]; decide +kernel
    rw [markEnd_of_other notBlank (by simp [open_w]) (by simp [open_w])]
    exact follows.none_of_not_blank notBlank m''
  rw [typeShape, run_all_cons]
  simp only [rest]
  rw [wordChar, classOf, run_many1_of_refuses fun j word => ?refuses, wordChar_test_eq]
  · rfl
  case refuses =>
    rw [wordChar_test_eq] at word
    have notBlank := passesAt_blank_of_word word
    have other : ∀ x, isWordChar x = false → text[j]? ≠ some x := fun x fails => ne_of_passesAt fails word
    rw [bracketEnd_of_not_open (other '<' (by decide)),
      markEnd_of_other notBlank (other '*' (by decide)) (other '&' (by decide))]
    exact follows.none_of_not_blank notBlank m

/-- From the type on: a type, at least one blank and a name, read as far as each goes. -/
theorem run_typeThenName (t : Nat) (m : Marks) :
    run text (all typeThenName) t m finish =
      if passesAt text isWordChar t ∧ passesAt text isBlank (typeEnd text t) ∧
          passesAt text isWordChar (blankEnd text (typeEnd text t)) then
        some (runEnd text isWordChar (blankEnd text (typeEnd text t)),
          readMarks m t (typeEnd text t) (blankEnd text (typeEnd text t))
            (runEnd text isWordChar (blankEnd text (typeEnd text t))))
      else none := by
  have follows : FollowsType text fun j m' =>
      run text (all [many1 blank, .group 2 (many1 wordChar)]) j (m'.setIfInBounds 1 (some j)) finish := by
    intro j m' found
    simp only [run_afterType] at found
    by_cases read : passesAt text isBlank j = true ∧ passesAt text isWordChar (blankEnd text j) = true
    · exact read
    · simp [read] at found
  rw [typeThenName, run_all_cons, run_group]
  simp only [Nat.reduceMul, Nat.reduceSub]
  rw [run_typeShape follows, run_afterType]
  by_cases word : passesAt text isWordChar t
  · by_cases read : passesAt text isBlank (typeEnd text t) = true ∧
        passesAt text isWordChar (blankEnd text (typeEnd text t)) = true
    · simp [word, read, readMarks]
    · simp only [word, if_true, if_neg read, true_and]
  · simp [word]

/-- What may follow the blanks after the macro: it starts with a word character. -/
def FollowsGap (text : Array Char) (J : Next) : Prop :=
  ∀ j m, (J j m).isSome → passesAt text isWordChar j = true

theorem FollowsGap.none_of_blank {J : Next} (follows : FollowsGap text J) {j : Nat}
    (blank : passesAt text isBlank j = true) (m : Marks) : J j m = none :=
  Option.not_isSome_iff_eq_none.mp fun found => by simpa [passesAt_word_of_blank blank] using follows j m found

/-- Between the macro and the type: spaces and tabs, a newline, blanks; together they take the
    blanks up to the type, however they are shared out. -/
theorem run_gap {J : Next} (follows : FollowsGap text J) (c : Nat) (m : Marks) :
    run text (all propertyGap) c m J = J (blankEnd text c) m := by
  have afterBlanks : ∀ p m', run text blanks p m' J = J (blankEnd text p) m' := by
    intro p m'
    show run text (many (.char (setTest 0 false [.category .space]))) p m' J = _
    rw [run_many_of_refuses fun j blank => follows.none_of_blank (by rwa [blank_test_eq] at blank) m',
      blank_test_eq]
    rfl
  have afterNewline : ∀ p m', run text (all [optional (lit '\n'), blanks]) p m' J = J (blankEnd text p) m' := by
    intro p m'
    rw [run_all_cons]
    show run text (optional (lit '\n')) p m' (fun j m'' => run text blanks j m'' J) = _
    simp only [afterBlanks]
    rw [run_optional]
    by_cases newline : text[p]? = some '\n'
    · have inside := lt_size_of_getElem? newline
      rw [run_lit_of_eq newline, if_neg (by omega), if_pos ⟨by omega, by omega⟩]
      rw [show blankEnd text (p + 1) = blankEnd text p from (runEnd_of_pass newline (by decide +kernel)).symm,
        Option.or_self]
    · rw [run_lit_of_ne newline, Option.none_or]
  rw [propertyGap, run_all_cons]
  show run text (many (.char (setTest 0 false ([' ', '\t'].map fun c => Member.char c.toNat)))) c m
    (fun j m' => run text (all [optional (lit '\n'), blanks]) j m' J) = _
  simp only [afterNewline]
  rw [run_many_chars, indent_test_eq]
  -- every end of the spaces and tabs leaves the same blanks up to the type
  refine longestFirst_const fun j low high => ?_
  have indents : Spans text isIndent c j :=
    ⟨low, fun x above below => (spans_spanLength isIndent _ c rfl).2 x above (by omega)⟩
  have blanks : Spans text isBlank c j :=
    ⟨low, fun x above below => by
      obtain ⟨d, at_x, indent⟩ := indents.2 x above below
      exact ⟨d, at_x, isBlank_of_isIndent indent⟩⟩
  rw [blankEnd_eq_runEnd, blankEnd_eq_runEnd, runEnd_eq_of_spans _ rfl blanks]

/-- The macro: its name, blanks, and the arguments between parentheses, up to the first closing
    one. -/
theorem run_macroCall (h : Nat) (m : Marks) (M : Next) :
    run text (macroCall false "UPROPERTY") h m M = (macroEnd text h).bind fun c => M c m := by
  have nine : "UPROPERTY".toList.length = 9 := rfl
  rw [macroCall, run_all_cons, literal_exact, run_exact_chars, nine]
  by_cases named : "UPROPERTY".toList <+: text.toList.drop h
  · rw [if_pos named, run_all_cons]
    show run text (many (.char (setTest 0 false [.category .space]))) (h + 9) m _ = _
    rw [run_many_of_refuses fun j blank => ?refuses, blank_test_eq, ← blankEnd_eq_runEnd, run_all_cons]
    · by_cases opened : text[blankEnd text (h + 9)]? = some '('
      · rw [run_lit_of_eq opened, run_all_cons, but,
          run_many_of_refuses fun j passes => ?inner, but_test_eq]
        · by_cases closed : text[runEnd text (· != ')') (blankEnd text (h + 9) + 1)]? = some ')'
          · rw [show all [lit ')'] = lit ')' from rfl, run_lit_of_eq closed]
            have read : macroEnd text h = some (runEnd text (· != ')') (blankEnd text (h + 9) + 1) + 1) :=
              if_pos ⟨named, opened, closed⟩
            rw [read]
            rfl
          · rw [show all [lit ')'] = lit ')' from rfl, run_lit_of_ne closed]
            have unread : macroEnd text h = none := if_neg fun read => closed read.2.2
            rw [unread]
            rfl
        case inner =>
          rw [but_test_eq] at passes
          exact @run_lit_of_passes text (· != ')') ')' rfl _ passes _ _
      · rw [run_lit_of_ne opened]
        have unread : macroEnd text h = none := if_neg fun read => opened read.2.1
        rw [unread]
        rfl
    case refuses =>
      rw [blank_test_eq] at blank
      rw [run_all_cons]
      exact run_lit_of_passes (show isBlank '(' = false by decide +kernel) blank _ _
  · have unread : macroEnd text h = none := if_neg fun read => named read.1
    rw [if_neg named, unread]
    rfl

theorem macroEnd_of_indent {j : Nat} (indent : passesAt text isIndent j = true) : macroEnd text j = none := by
  obtain ⟨c, at_j, indent⟩ := passesAt_iff.mp indent
  have unnamed : ¬ "UPROPERTY".toList <+: text.toList.drop j := by
    rw [drop_toList_of_getElem? at_j]
    intro named
    have same : 'U' = c := (List.cons_prefix_cons.mp named).1
    subst same
    cases indent
  exact if_neg fun read => unnamed read.1

/-- Up to the macro: a line start, spaces and tabs, and the macro. -/
theorem run_front (a : Nat) (m : Marks) (M : Next) :
    run text (all propertyFront) a m M =
      if startsLine text a then (macroEnd text (runEnd text isIndent a)).bind fun c => M c m else none := by
  rw [propertyFront, run_all_cons, run_point]
  show (if startsLine text a then _ else none) = _
  by_cases start : startsLine text a
  · rw [if_pos start, if_pos start, run_all_cons]
    show run text (many (.char (setTest 0 false ([' ', '\t'].map fun c => Member.char c.toNat)))) a m
      (fun j m' => run text (macroCall false "UPROPERTY") j m' M) = _
    rw [run_many_of_refuses fun j indent => ?refuses, indent_test_eq, run_macroCall]
    case refuses =>
      rw [indent_test_eq] at indent
      rw [run_macroCall, macroEnd_of_indent indent]
      rfl
  · rw [if_neg start, if_neg start]

/-- The property shape matches at a position exactly when a declaration is read there, and its
    groups hold the type and the name. -/
theorem propertyShape_matchAt (a : Nat) :
    propertyShape.matchAt text a false = (declarationAt text a).map Declaration.found := by
  have accept : (fun j m => if false && j = a then none else some (j, m) : Next) = finish := by
    funext j m
    simp [finish]
  have follows : FollowsGap text fun j m => run text (all typeThenName) j m finish := by
    intro j m found
    simp only [run_typeThenName] at found
    by_cases word : passesAt text isWordChar j = true
    · exact word
    · simp [word] at found
  rw [Program.matchAt, accept, propertyShape_split, run_all_append_eq, run_front]
  simp only [run_all_append_eq]
  simp only [run_gap follows]
  simp only [run_typeThenName, declarationAt]
  by_cases start : startsLine text a
  · simp only [start, if_true]
    cases macroEnd text (runEnd text isIndent a) with
    | none => rfl
    | some c =>
      simp only [Option.bind_some]
      split
      · rfl
      · rfl
  · simp [start]

theorem macroEnd_some {h c : Nat} (read : macroEnd text h = some c) :
    "UPROPERTY".toList <+: text.toList.drop h ∧ h < c := by
  unfold macroEnd at read
  dsimp only at read
  split at read
  · next found =>
    cases read
    have := @le_runEnd text (· != ')') (blankEnd text (h + 9) + 1)
    have := @le_runEnd text isBlank (h + 9)
    exact ⟨found.1, by simp only [blankEnd_eq_runEnd] at *; omega⟩
  · cases read

/-- A declaration is read from a line start whose macro follows its spaces and tabs, and its
    parts stand in order within the text. -/
theorem declarationAt_some {a : Nat} {d : Declaration} (read : declarationAt text a = some d) :
    d.start = a ∧ startsLine text a = true ∧ "UPROPERTY".toList <+: text.toList.drop (runEnd text isIndent a) ∧
      a < d.typeStart ∧ d.typeStart < d.typeStop ∧ d.typeStop < d.nameStart ∧ d.nameStart < d.nameStop ∧
      d.nameStop ≤ text.size := by
  unfold declarationAt at read
  split at read
  · next start =>
    obtain ⟨c, called, rest⟩ := Option.bind_eq_some_iff.mp read
    dsimp only at rest
    split at rest
    · next parts =>
      cases rest
      obtain ⟨named, past⟩ := macroEnd_some called
      obtain ⟨word, blank, name⟩ := parts
      have indented := @le_runEnd text isIndent a
      have blanks : c ≤ blankEnd text c := le_runEnd isBlank c
      have spaced : typeEnd text (blankEnd text c) < blankEnd text (typeEnd text (blankEnd text c)) :=
        lt_runEnd blank
      exact ⟨rfl, start, named, show a < blankEnd text c by omega, lt_typeEnd word, spaced, lt_runEnd name,
        runEnd_le_size isWordChar (Nat.le_of_lt (lt_size_of_passesAt name))⟩
    · cases rest
  · cases read

theorem propertyShape_advances (j : Nat) (f : Found) (found : propertyShape.matchAt text j false = some f) :
    j < f.stop := by
  rw [propertyShape_matchAt] at found
  obtain ⟨d, read, rfl⟩ := Option.map_eq_some_iff.mp found
  obtain ⟨rfl, -, -, ordered⟩ := declarationAt_some read
  show d.start < d.nameStop
  omega

/-- The matches collected are those of the scan of declarations. -/
theorem findAll_propertyShape :
    ∃ ds, Scans (declarationAt text) Declaration.nameStop text.size 0 ds ∧
      propertyShape.findAll text = ds.map Declaration.found := by
  have collected := @findAll_scans propertyShape text propertyShape_advances
  rw [show (fun j => propertyShape.matchAt text j false) = fun j => (declarationAt text j).map Declaration.found
    from funext propertyShape_matchAt] at collected
  exact Scans.of_map collected

theorem found_group_type (d : Declaration) (ordered : d.typeStart ≤ d.typeStop) :
    d.found.group text 1 = some (textBetween text d.typeStart d.typeStop) := by
  simp [Found.group, groupSpan, Declaration.found, ordered, textBetween]

theorem found_group_name (d : Declaration) (ordered : d.nameStart ≤ d.nameStop) :
    d.found.group text 2 = some (textBetween text d.nameStart d.nameStop) := by
  simp [Found.group, groupSpan, Declaration.found, ordered, textBetween]

theorem count_extract_eq_lineNumber (a : Nat) : (text.extract 0 a).toList.count '\n' + 1 = lineNumber text a := by
  simp [lineNumber, Array.toList_extract, List.extract_eq_take_drop]

theorem lineNumber_lt {a b : Nat} (before : a < b) (start : startsLine text b = true) :
    lineNumber text a < lineNumber text b := by
  have newline : text.toList[b - 1]? = some '\n' := by
    simp only [startsLine, Bool.or_eq_true, decide_eq_true_eq, beq_iff_eq] at start
    rcases start with rfl | behind
    · omega
    · simpa using behind
  have := count_take_lt_of_newline before newline
  simp only [lineNumber]
  omega

end Reading

/-! ### The properties of a text -/

/-- The properties of a text are the first hundred of the scan of its declarations. -/
theorem propertiesOf_eq_scan {content : String} {ds : List Declaration}
    (scanned : Scans (declarationAt content.toList.toArray) Declaration.nameStop content.toList.toArray.size 0 ds) :
    propertiesOf content = (ds.map (Declaration.property content.toList.toArray)).take memberLimit := by
  obtain ⟨xs, collected, found⟩ := @findAll_propertyShape content.toList.toArray
  obtain rfl := Scans.unique collected scanned
  unfold propertiesOf
  simp only [found, List.filterMap_map]
  congr 1
  rw [← List.filterMap_eq_map]
  refine List.filterMap_congr fun d member => ?_
  obtain ⟨a, read⟩ := collected.mem_read d member
  obtain ⟨rfl, -, -, -, typed, -, named, -⟩ := declarationAt_some read
  simp only [Function.comp_apply, found_group_type d (Nat.le_of_lt typed), found_group_name d (Nat.le_of_lt named)]
  rw [Declaration.property, ← count_extract_eq_lineNumber]
  rfl

/-- A line that starts, after spaces and tabs, with the macro's name still does once cut at its
    newline and stripped of its carriage returns. -/
theorem macro_prefix_line {indent : List Char} (indents : ∀ x ∈ indent, isIndent x = true) (rest : List Char) :
    "UPROPERTY".toList <+:
      (dropTrailingReturns ((indent ++ ("UPROPERTY".toList ++ rest)).takeWhile (· != '\n'))).dropWhile isIndent := by
  have spelled : "UPROPERTY".toList = ['U', 'P', 'R', 'O', 'P', 'E', 'R', 'T', 'Y'] := rfl
  have letters : ∀ x ∈ "UPROPERTY".toList, (x != '\n') = true := by
    intro x letter
    simp only [spelled, List.mem_cons, List.mem_nil_iff, or_false] at letter
    rcases letter with rfl | rfl | rfl | rfl | rfl | rfl | rfl | rfl | rfl <;> rfl
  have unbroken : ∀ x ∈ indent ++ "UPROPERTY".toList, (x != '\n') = true := by
    intro x member
    rcases List.mem_append.mp member with indented | letter
    · have := indents x indented
      simp only [isIndent, Bool.or_eq_true, beq_iff_eq] at this
      rcases this with rfl | rfl <;> rfl
    · exact letters x letter
  have ends : (indent ++ "UPROPERTY".toList).getLast? ≠ some '\r' := by
    rw [List.getLast?_append, spelled]
    simp
  obtain ⟨tail, kept⟩ := prefix_dropTrailingReturns ends (rest.takeWhile (· != '\n'))
  have headless : ("UPROPERTY".toList ++ tail).dropWhile isIndent = "UPROPERTY".toList ++ tail := by
    rw [spelled, List.cons_append, List.dropWhile_cons_of_neg (by decide)]
  rw [← List.append_assoc, List.takeWhile_append_of_pos unbroken, ← kept, List.append_assoc,
    List.dropWhile_append_of_pos indents, headless]
  exact List.prefix_append _ _

/-- The line of a declaration's macro is the line `splitLines` gives its number, and that line
    starts, after spaces and tabs, with the macro's name. -/
theorem declaration_line {content : String} {a : Nat} {d : Declaration}
    (read : declarationAt content.toList.toArray a = some d) :
    ∃ line, (splitLines content)[lineNumber content.toList.toArray a - 1]? = some line ∧
      "UPROPERTY".toList <+: line.toList.dropWhile isIndent := by
  obtain ⟨-, start, named, before, typed, spaced, worded, within⟩ := declarationAt_some read
  have atStart : a = 0 ∨ content.toList[a - 1]? = some '\n' := by
    simp only [startsLine, Bool.or_eq_true, decide_eq_true_eq, beq_iff_eq, List.getElem?_toArray] at start
    exact start
  have inside : a ≤ content.toList.length := by
    simp only [List.size_toArray] at within
    omega
  refine ⟨_, by rw [lineNumber, Nat.add_sub_cancel, List.toList_toArray]; exact splitLines_getElem_count atStart inside, ?_⟩
  -- the line from `a`: the spaces and tabs up to the macro's name, then the name
  nth_rewrite 2 [String.toList_ofList]
  have indents := @passes_of_mem_take_runEnd content.toList.toArray isIndent a
  obtain ⟨rest, whole⟩ := named
  rw [List.toList_toArray] at whole indents
  have indented := @le_runEnd content.toList.toArray isIndent a
  generalize runEnd content.toList.toArray isIndent a = h at indented whole indents
  have pieces : content.toList.drop a = (content.toList.drop a).take (h - a) ++ ("UPROPERTY".toList ++ rest) := by
    calc content.toList.drop a = (content.toList.drop a).take (h - a) ++ (content.toList.drop a).drop (h - a) :=
          (List.take_append_drop _ _).symm
      _ = _ := by rw [List.drop_drop, Nat.add_sub_cancel' indented, whole]
  rw [pieces]
  exact macro_prefix_line indents rest

/-- The properties of a text are read by a scan over its line starts: from the first one that
    declares a property (the macro after spaces and tabs, its arguments up to the first closing
    parenthesis, then a type and a name), the scan goes on from the end of that name. The
    properties are the first hundred the scan reads, in increasing line order, each with the
    line of its macro, which is the line `splitLines` gives that number and starts with the
    macro. When no declaration runs past the start of another line that declares one, every
    line that declares a property is read. -/
theorem propertiesOf_reads_scanned_declarations (content : String) :
    let text := content.toList.toArray
    (∃ ds, Scans (declarationAt text) Declaration.nameStop text.size 0 ds) ∧
    ∀ ds, Scans (declarationAt text) Declaration.nameStop text.size 0 ds →
      propertiesOf content = (ds.map (Declaration.property text)).take memberLimit ∧
      (propertiesOf content).Pairwise (fun p q => p.line < q.line) ∧
      (∀ d ∈ ds, ∃ line, (splitLines content)[(d.property text).line - 1]? = some line ∧
        "UPROPERTY".toList <+: line.toList.dropWhile isIndent) ∧
      ((∀ a d, declarationAt text a = some d → ∀ b, a < b → b < d.nameStop → declarationAt text b = none) →
        ds = (List.range (text.size + 1)).filterMap (declarationAt text)) := by
  intro text
  refine ⟨findAll_propertyShape.imp fun ds found => found.1, fun ds scanned => ?_⟩
  have placed : ∀ a d, declarationAt text a = some d → d.start = a ∧ a < d.nameStop ∧ d.nameStop ≤ text.size := by
    intro a d read
    obtain ⟨at_a, -, -, ordered⟩ := declarationAt_some read
    exact ⟨at_a, by omega, ordered.2.2.2.2⟩
  refine ⟨propertiesOf_eq_scan scanned, ?_, fun d member => ?_, fun apart => ?_⟩
  · -- the scan reads its declarations at increasing line starts, so on increasing lines
    have increasing := (scanned.increasing fun a d read => ⟨(placed a d read).1, (placed a d read).2.1⟩).2
    rw [propertiesOf_eq_scan scanned]
    refine List.Pairwise.sublist (List.take_sublist _ _) (List.pairwise_map.mpr ?_)
    refine increasing.imp_of_mem fun {d d'} _ member' before => ?_
    obtain ⟨a', read'⟩ := scanned.mem_read d' member'
    obtain ⟨rfl, start', -⟩ := declarationAt_some read'
    exact lineNumber_lt before start'
  · obtain ⟨a, read⟩ := scanned.mem_read d member
    obtain ⟨rfl, -⟩ := declarationAt_some read
    exact declaration_line read
  · have every := scanned.eq_filterMap (fun a d read => ⟨(placed a d read).2.1, by have := (placed a d read).2.2; omega⟩)
      apart
    rwa [Nat.sub_zero, ← List.range_eq_range'] at every

/-- The guide's own example reads no property: its nested list ends the macro at the first closing
    parenthesis, where no type follows. And a type left without a name on its line takes the next
    line's macro name as its name, so that line's property is not read. -/
theorem nested_specifiers_and_run_on_hide_properties :
    propertiesOf "UPROPERTY(Replicated, Meta = (ClampMin = \"0.0\", ClampMax = \"1.0\"))\nfloat Speed;" = [] ∧
    propertiesOf "UPROPERTY() float\nUPROPERTY() int32 Count;" = [⟨"UPROPERTY", "float", 1⟩] := by
  decide +kernel

end ClassAtlas.Source
