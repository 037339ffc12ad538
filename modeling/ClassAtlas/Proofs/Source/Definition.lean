import ClassAtlas.Source.Extract
import ClassAtlas.Proofs.Pattern.Loops
import ClassAtlas.Proofs.Text.Classes

/-!
Which line a class is extracted from. A definition line is said here without the matcher
(`DefinesAt`): blanks, an optional `UCLASS(...)` macro whose arguments hold no closing
parenthesis, the keyword `class`, blanks and an optional export macro (`HeadBefore`), then the
name with case ignored, a word boundary after it, and no end of a forward declaration after that
(`ForwardAt`: blanks, an optional `final`, a semicolon).

The definition shape matches a line exactly when the line defines the name at some place
(`definitionShape_matchAt_sound`, `definitionShape_matchAt_complete`): the parts before the name
try every way, so their derivations are all the heads (`derives_front_iff`), and the look-ahead
blocks exactly the forward declarations (`derives_forwardEnd_iff`). The parts after the name
always succeed and read the clause deterministically: blanks are taken greedily, and only when
nothing but blanks follows the colon is one given back to the clause group, which then names no
base (`run_clauseTail`, `splitBases_group_clause`). Extraction scans the lines in order, so a
class is extracted exactly when some line defines it, and then from the first such line, with the
name as that line spells it and the bases of the clause after it
(`extractClass_reads_first_definition`).
-/

namespace ClassAtlas.Source

open ClassAtlas.Pattern ClassAtlas.Text Prog

/-! ### Definition lines, said without the matcher -/

/-- Whether the characters from `i` spell `s`, case ignored. -/
def spelledAt (text : Array Char) (i : Nat) (s : String) : Bool :=
  testsHold text (literalTests true s) i

/-- A `UCLASS(...)` macro whose arguments hold no closing parenthesis, with the blanks after it,
    from `a` up to `b`. -/
def MacroBetween (text : Array Char) (a b : Nat) : Prop :=
  ∃ x y, spelledAt text a "UCLASS" ∧ Spans text isBlank (a + 6) x ∧ text[x]? = some '(' ∧
    Spans text (· != ')') (x + 1) y ∧ text[y]? = some ')' ∧ Spans text isBlank (y + 1) b

/-- An export macro such as `ENGINE_API`, with the blanks after it, from `a` up to `b`. -/
def ExportBetween (text : Array Char) (a b : Nat) : Prop :=
  ∃ x, a < x ∧ Spans text isWordChar a x ∧ spelledAt text x "_API" ∧ x + 4 < b ∧
    Spans text isBlank (x + 4) b

/-- What stands before the name on a definition line, from the start up to `p`: blanks, an
    optional `UCLASS(...)` macro, the keyword `class`, blanks, and an optional export macro. -/
def HeadBefore (text : Array Char) (p : Nat) : Prop :=
  ∃ a b c, Spans text isBlank 0 a ∧ (b = a ∨ MacroBetween text a b) ∧ spelledAt text b "class" ∧
    b + 5 < c ∧ Spans text isBlank (b + 5) c ∧ (p = c ∨ ExportBetween text c p)

/-- The end of a forward declaration from `q`: blanks, an optional `final` with blanks after
    it, and a semicolon. -/
def ForwardAt (text : Array Char) (q : Nat) : Prop :=
  ∃ a b, Spans text isBlank q a ∧ (b = a ∨ (spelledAt text a "final" ∧ Spans text isBlank (a + 5) b)) ∧
    text[b]? = some ';'

/-- Class `name` defined at `p`: the head of a definition before it, the name spelled there with
    case ignored, a word boundary after it, and no end of a forward declaration. -/
def DefinesAt (name : String) (text : Array Char) (p : Nat) : Prop :=
  HeadBefore text p ∧ spelledAt text p name = true ∧ atBoundary text false (p + name.length) = true ∧
    ¬ ForwardAt text (p + name.length)

def DefinitionLine (name line : String) : Prop :=
  ∃ p, DefinesAt name line.toList.toArray p

def definitionFront : List Prog :=
  [.point .textStart, blanks, optional (all [macroCall true "UCLASS", blanks]), literal true "class",
    many1 blank, optional (exportMacro true)]

def forwardEnd : Prog := all [blanks, optional (all [literal true "final", blanks]), lit ';']

def clauseColon : Prog := optional (all [lit ':', blanks, .group 2 (many1 anyInLine)])

def clauseTail : List Prog := [blanks, optional (literal true "final"), blanks, clauseColon]

def fromName (name : String) : List Prog :=
  [.group 1 (literal true name), boundary, .look none true forwardEnd] ++ clauseTail

theorem definitionShape_split (name : String) :
    (definitionShape name).body = all (definitionFront ++ fromName name) := rfl

/-- The parts before the name never record a group bound. -/
theorem definitionFront_sets (s : Nat) : (all definitionFront).sets s = false := by
  simp [definitionFront, Prog.sets, macroCall, exportMacro, blanks, many, many1, Prog.optional, blank,
    classOf, wordChar, lit, but]

theorem definitionFront_plain : (all definitionFront).plain = true := by
  simp [definitionFront, Prog.plain, macroCall, exportMacro, blanks, many, many1, Prog.optional, blank,
    classOf, wordChar, lit, but]

theorem forwardEnd_plain : forwardEnd.plain = true := by
  simp [forwardEnd, Prog.plain, blanks, many, Prog.optional, blank, classOf, lit]

section Parts

variable {text : Array Char}

theorem derives_blanks_iff {i j : Nat} : Derives text blanks i j ↔ Spans text isBlank i j := by
  simp only [blanks, many, blank, classOf, derives_chars_iff, blank_test_eq, Nat.zero_le, and_true]

theorem derives_blanks1_iff {i j : Nat} : Derives text (many1 blank) i j ↔ i < j ∧ Spans text isBlank i j := by
  simp only [many1, blank, classOf, derives_chars_iff, blank_test_eq]
  exact ⟨fun ⟨span, moved⟩ => ⟨by omega, span⟩, fun ⟨moved, span⟩ => ⟨span, by omega⟩⟩

theorem derives_words1_iff {i j : Nat} :
    Derives text (many1 wordChar) i j ↔ i < j ∧ Spans text isWordChar i j := by
  simp only [many1, wordChar, classOf, derives_chars_iff, wordChar_test_eq]
  exact ⟨fun ⟨span, moved⟩ => ⟨by omega, span⟩, fun ⟨moved, span⟩ => ⟨span, by omega⟩⟩

theorem derives_args_iff {i j : Nat} : Derives text (many (but ')')) i j ↔ Spans text (· != ')') i j := by
  simp only [many, but, derives_chars_iff, but_test_eq, Nat.zero_le, and_true]

theorem derives_spelled_iff {s : String} {i j : Nat} :
    Derives text (literal true s) i j ↔ j = i + s.length ∧ spelledAt text i s = true :=
  derives_literal_iff

theorem derives_macroCall_iff {a b : Nat} :
    Derives text (all [macroCall true "UCLASS", blanks]) a b ↔ MacroBetween text a b := by
  have six : "UCLASS".length = 6 := rfl
  simp only [macroCall, derives_all_cons_iff, derives_all_nil_iff, derives_spelled_iff, derives_blanks_iff,
    derives_lit_iff, derives_args_iff, six]
  constructor
  · rintro ⟨_, ⟨_, ⟨rfl, spelled⟩, x, gap, _, ⟨rfl, opened⟩, y, args, _, ⟨rfl, closed⟩, rfl⟩, _, after, rfl⟩
    exact ⟨x, y, spelled, gap, opened, args, closed, after⟩
  · rintro ⟨x, y, spelled, gap, opened, args, closed, after⟩
    exact ⟨y + 1, ⟨a + 6, ⟨rfl, spelled⟩, x, gap, x + 1, ⟨rfl, opened⟩, y, args, y + 1, ⟨rfl, closed⟩, rfl⟩,
      b, after, rfl⟩

theorem derives_macroPart_iff {a b : Nat} :
    Derives text (optional (all [macroCall true "UCLASS", blanks])) a b ↔ b = a ∨ MacroBetween text a b := by
  rw [derives_optional_iff, derives_macroCall_iff]
  constructor
  · rintro (same | ⟨-, -, call⟩)
    · exact .inl same
    · exact .inr call
  · rintro (same | call)
    · exact .inl same
    · obtain ⟨x, y, spelled, gap, opened, args, closed, after⟩ := call
      have closes := lt_size_of_getElem? closed
      refine .inr ⟨by have := gap.1; have := args.1; have := after.1; omega, ?_, x, y, spelled, gap,
        opened, args, closed, after⟩
      rcases Nat.eq_or_lt_of_le after.1 with same | moved
      · omega
      · exact Spans.le_size_of_lt after moved

theorem derives_exportMacro_iff {c p : Nat} :
    Derives text (exportMacro true) c p ↔ ExportBetween text c p := by
  have four : "_API".length = 4 := rfl
  simp only [exportMacro, derives_all_cons_iff, derives_all_nil_iff, derives_words1_iff,
    derives_spelled_iff, derives_blanks1_iff, four]
  constructor
  · rintro ⟨x, ⟨moved, word⟩, _, ⟨rfl, spelled⟩, _, ⟨gap, after⟩, rfl⟩
    exact ⟨x, moved, word, spelled, gap, after⟩
  · rintro ⟨x, moved, word, spelled, gap, after⟩
    exact ⟨x, ⟨moved, word⟩, x + 4, ⟨rfl, spelled⟩, p, ⟨gap, after⟩, rfl⟩

theorem derives_exportPart_iff {c p : Nat} :
    Derives text (optional (exportMacro true)) c p ↔ p = c ∨ ExportBetween text c p := by
  rw [derives_optional_iff, derives_exportMacro_iff]
  constructor
  · rintro (same | ⟨-, -, exported⟩)
    · exact .inl same
    · exact .inr exported
  · rintro (same | exported)
    · exact .inl same
    · obtain ⟨x, moved, word, spelled, gap, after⟩ := exported
      exact .inr ⟨by omega, Spans.le_size_of_lt after gap, x, moved, word, spelled, gap, after⟩

/-- The parts before the name take exactly a head of a definition. -/
theorem derives_front_iff {p : Nat} : Derives text (all definitionFront) 0 p ↔ HeadBefore text p := by
  have five : "class".length = 5 := rfl
  simp only [definitionFront, derives_all_cons_iff, derives_all_nil_iff, derives_point_iff,
    derives_blanks_iff, derives_macroPart_iff, derives_spelled_iff, derives_blanks1_iff,
    derives_exportPart_iff, five]
  constructor
  · rintro ⟨_, ⟨rfl, -⟩, a, lead, b, call, _, ⟨rfl, spelled⟩, c, ⟨gap, blank⟩, _, exported, rfl⟩
    exact ⟨a, b, c, lead, call, spelled, gap, blank, exported⟩
  · rintro ⟨a, b, c, lead, call, spelled, gap, blank, exported⟩
    exact ⟨0, ⟨rfl, by simp [Point.holds]⟩, a, lead, b, call, b + 5, ⟨rfl, spelled⟩, c, ⟨gap, blank⟩, p, exported, rfl⟩

/-- What may not follow the name derives from a place exactly when a forward declaration ends
    there. -/
theorem derives_forwardEnd_iff {q : Nat} : (∃ j, Derives text forwardEnd q j) ↔ ForwardAt text q := by
  have five : "final".length = 5 := rfl
  simp only [forwardEnd, derives_all_cons_iff, derives_all_nil_iff, derives_blanks_iff,
    derives_optional_iff, derives_spelled_iff, derives_lit_iff, five]
  constructor
  · rintro ⟨_, a, lead, b, final, _, ⟨rfl, semicolon⟩, rfl⟩
    refine ⟨a, b, lead, ?_, semicolon⟩
    rcases final with same | ⟨-, -, _, ⟨rfl, spelled⟩, _, after, rfl⟩
    · exact .inl same
    · exact .inr ⟨spelled, after⟩
  · rintro ⟨a, b, lead, final, semicolon⟩
    refine ⟨b + 1, a, lead, b, ?_, b + 1, ⟨rfl, semicolon⟩, rfl⟩
    rcases final with same | ⟨spelled, after⟩
    · exact .inl same
    · exact .inr ⟨by have := after.1; omega, Nat.le_of_lt (lt_size_of_getElem? semicolon), a + 5,
        ⟨rfl, spelled⟩, b, after, rfl⟩

end Parts

/-! ### Reading the inheritance clause -/

section Clause

variable {text : Array Char}

def blankEnd (text : Array Char) (i : Nat) : Nat := i + spanLength text isBlank i

def afterFinal (text : Array Char) (a : Nat) : Nat := if spelledAt text a "final" then a + 5 else a

/-- Where the colon of an inheritance clause stands after a name ending at `q`: past blanks, an
    optional `final` and blanks. -/
def colonAt (text : Array Char) (q : Nat) : Nat := blankEnd text (afterFinal text (blankEnd text q))

/-- The marks once the clause after a colon at `c` is read: group 2 runs to the end, from the
    first character after the colon and its blanks, or from the last character when only blanks
    follow. -/
def clauseMarks (text : Array Char) (c : Nat) (m : Marks) : Marks :=
  if text[c]? = some ':' ∧ c + 1 < text.size then
    (m.setIfInBounds 2 (some (min (blankEnd text (c + 1)) (text.size - 1)))).setIfInBounds 3 (some text.size)
  else m

theorem run_blanks (i : Nat) (m : Marks) (k : Next) :
    run text blanks i m k = longestFirst (fun j => k j m) i (spanLength text isBlank i) := by
  rw [← blank_test_eq]
  exact run_many_chars _ i m k

theorem run_blanks_end {i : Nat} {m : Marks} {k : Next} (ends : (k (blankEnd text i) m).isSome) :
    run text blanks i m k = k (blankEnd text i) m := by
  rw [run_blanks]
  exact longestFirst_top ends

/-- The clause group on a line without newlines: the rest of the line, when anything is left. -/
theorem run_clauseGroup (unbroken : ∀ c ∈ text.toList, c ≠ '\n') (j : Nat) (m : Marks) (k : Next)
    (ends : ∀ m', k text.size m' = some (text.size, m')) :
    run text (.group 2 (many1 anyInLine)) j m k =
      if j < text.size then some (text.size, (m.setIfInBounds 2 (some j)).setIfInBounds 3 (some text.size))
      else none := by
  rw [run_group]
  by_cases inside : j < text.size
  · rw [if_pos inside]
    obtain ⟨c, at_j⟩ : ∃ c, text[j]? = some c := ⟨text[j], Array.getElem?_eq_getElem inside⟩
    have kept : CharTest.line.holds c = true := by
      have member : c ∈ text.toList := by
        simpa using List.mem_of_getElem? (by simpa using at_j : text.toList[j]? = some c)
      simpa [CharTest.holds] using unbroken c member
    have whole : spanLength text CharTest.line.holds (j + 1) = text.size - (j + 1) :=
      spanLength_of_all fun c member => by simpa [CharTest.holds] using unbroken c member
    rw [anyInLine, run_many1_chars_pass at_j kept, whole, longestFirst_top] <;>
      simp [show j + 1 + (text.size - (j + 1)) = text.size by omega, ends]
  · rw [if_neg inside, anyInLine, run_many1_chars_stop]
    intro c at_j
    exact absurd (lt_size_of_getElem? at_j) inside

/-- After a colon at `c`, on a line without newlines, the blanks and the clause group: the
    clause runs to the end when anything follows the colon. -/
theorem run_colonBody (unbroken : ∀ c ∈ text.toList, c ≠ '\n') {c : Nat} (colon : text[c]? = some ':')
    (m : Marks) (k : Next) (ends : ∀ m', k text.size m' = some (text.size, m')) :
    run text (all [lit ':', blanks, .group 2 (many1 anyInLine)]) c m k =
      if c + 1 < text.size then some (text.size, clauseMarks text c m) else none := by
  have inside := lt_size_of_getElem? colon
  rw [run_all_cons, lit, run_char_pass colon rfl, run_all_cons, run_blanks]
  simp only [all, run_clauseGroup unbroken _ _ k ends]
  have bounded : spanLength text isBlank (c + 1) ≤ text.size - (c + 1) := spanLength_le isBlank (c + 1)
  -- the blanks after the colon are given back one at a time until the group takes a character
  rcases Nat.lt_or_ge (c + 1 + spanLength text isBlank (c + 1)) text.size with short | full
  · have within : c + 1 < text.size := by omega
    rw [longestFirst_top (by simp [short])]
    simp [short, clauseMarks, colon, within, blankEnd, Nat.min_eq_left (Nat.le_sub_one_of_lt short)]
  · cases spans : spanLength text isBlank (c + 1) with
    | zero =>
      rw [spans] at full
      simp [longestFirst, show ¬ c + 1 < text.size by omega]
    | succ n =>
      rw [spans] at full bounded
      rw [longestFirst_below_top (by simp; omega) (by simp; omega)]
      have within : c + 1 < text.size := by omega
      have last : min (blankEnd text (c + 1)) (text.size - 1) = c + 1 + n := by
        simp only [blankEnd, spans]
        omega
      simp [clauseMarks, colon, within, last, show c + 1 + n < text.size by omega]

/-- The clause after a colon at `c`, on a line without newlines: read to the end when the colon
    is followed by anything, and passed over otherwise. -/
theorem run_clauseColon (unbroken : ∀ c ∈ text.toList, c ≠ '\n') (c : Nat) (m : Marks) :
    run text clauseColon c m finish =
      some (if text[c]? = some ':' ∧ c + 1 < text.size then text.size else c, clauseMarks text c m) := by
  rw [clauseColon, run_optional]
  by_cases colon : text[c]? = some ':'
  · have inside := lt_size_of_getElem? colon
    rw [run_colonBody unbroken colon m _ (fun m' => by simp [finish, Nat.ne_of_gt inside, inside])]
    by_cases within : c + 1 < text.size
    · simp [within, colon]
    · simp [within, colon, clauseMarks, finish]
  · rw [run_all_cons, lit, run_char_stop (fun x at_c => by
      have other : x ≠ ':' := fun same => colon (same ▸ at_c)
      simp only [CharTest.holds, beq_eq_false_iff_ne]
      exact fun eq => other (Char.ext (UInt32.toNat_inj.mp eq)))]
    simp [clauseMarks, colon, finish]

/-- After the name, on a line without newlines, the parts that read the inheritance clause
    always succeed, and leave the clause's bounds as read from the colon after the name. -/
theorem run_clauseTail (unbroken : ∀ c ∈ text.toList, c ≠ '\n') (q : Nat) (m : Marks) :
    ∃ e, run text (all clauseTail) q m finish = some (e, clauseMarks text (colonAt text q) m) := by
  -- from the colon's place on, read backwards through the parts
  have afterBlanks : ∀ b, run text (all [blanks, clauseColon]) b m finish =
      run text clauseColon (blankEnd text b) m finish := by
    intro b
    rw [run_all_cons, run_blanks_end (by rw [all, run_clauseColon unbroken]; rfl)]
    rfl
  have afterFinalPart : ∀ a, run text (all [optional (literal true "final"), blanks, clauseColon]) a m finish =
      run text (all [blanks, clauseColon]) (afterFinal text a) m finish := by
    intro a
    have read : ∀ j, (run text (all [blanks, clauseColon]) j m finish).isSome := by
      intro j
      rw [afterBlanks, run_clauseColon unbroken]
      rfl
    have five : "final".length = 5 := rfl
    rw [run_all_cons, run_optional, literal_eq_tests]
    by_cases spelled : spelledAt text a "final" = true
    · have fits : a + 5 ≤ text.size := by
        rcases testsHold_le_size spelled with fits | empty
        · simpa [five] using fits
        · simp [literalTests] at empty
      rw [run_tests_of_hold spelled]
      simp only [literalTests_length, five, afterFinal, spelled, if_true]
      rw [if_neg (by omega), if_pos ⟨by omega, fits⟩]
      obtain ⟨r, found⟩ := Option.isSome_iff_exists.mp (read (a + 5))
      rw [found]
      rfl
    · rw [run_tests_of_fail (by simpa [spelledAt] using spelled)]
      simp [afterFinal, spelled]
  have reads : (run text (all [optional (literal true "final"), blanks, clauseColon]) (blankEnd text q) m
      finish).isSome := by
    rw [afterFinalPart, afterBlanks, run_clauseColon unbroken]
    rfl
  rw [clauseTail, run_all_cons,
    run_blanks_end (k := fun j m' => run text (all [optional (literal true "final"), blanks, clauseColon]) j m'
      finish) reads, afterFinalPart, afterBlanks, colonAt, run_clauseColon unbroken]
  exact ⟨_, rfl⟩

end Clause

/-! ### The definition shape, matched at the start of a line -/

section Matching

variable {text : Array Char} {name : String}

def nameMarks (name : String) (p : Nat) : Marks :=
  ((definitionShape name).emptyMarks.setIfInBounds 0 (some p)).setIfInBounds 1 (some (p + name.length))

/-- From the name on, a run reads the name, the boundary after it and the absence of a forward
    declaration's end, then the clause. -/
theorem run_fromName (p : Nat) (m : Marks) (k : Next) :
    run text (all (fromName name)) p m k =
      if spelledAt text p name = true then
        (if (Point.boundary false).holds text (p + name.length) = true then
          run text (.look none true forwardEnd) (p + name.length)
            ((m.setIfInBounds 0 (some p)).setIfInBounds 1 (some (p + name.length)))
            fun j m' => run text (all clauseTail) j m' k
        else none)
      else none := by
  rw [fromName, List.cons_append, run_all_cons, run_group, literal_eq_tests]
  by_cases spelled : spelledAt text p name = true
  · rw [if_pos spelled, run_tests_of_hold spelled, literalTests_length]
    simp only [Nat.mul_one, Nat.reduceSub]
    rw [List.cons_append, run_all_cons, boundary, run_point, List.cons_append, run_all_cons, List.nil_append]
  · rw [if_neg spelled, run_tests_of_fail (by simpa [spelledAt] using spelled)]

theorem run_fromName_of (unbroken : ∀ c ∈ text.toList, c ≠ '\n') {p : Nat} (spelled : spelledAt text p name = true)
    (bounded : (Point.boundary false).holds text (p + name.length) = true)
    (clear : ¬ ForwardAt text (p + name.length)) (m : Marks) :
    ∃ e, run text (all (fromName name)) p m finish =
      some (e, clauseMarks text (colonAt text (p + name.length))
        ((m.setIfInBounds 0 (some p)).setIfInBounds 1 (some (p + name.length)))) := by
  rw [run_fromName, if_pos spelled, if_pos bounded,
    run_look_ahead_clear (fun derived => clear (derives_forwardEnd_iff.mp derived))]
  exact run_clauseTail unbroken _ _

/-- A run from the name on that succeeds has read the name, the boundary after it, and no
    forward declaration's end. -/
theorem run_fromName_some {p : Nat} {m : Marks} {k : Next} {r : Nat × Marks}
    (ran : run text (all (fromName name)) p m k = some r) :
    spelledAt text p name = true ∧ (Point.boundary false).holds text (p + name.length) = true ∧
      ¬ ForwardAt text (p + name.length) := by
  rw [run_fromName] at ran
  by_cases spelled : spelledAt text p name = true
  · by_cases bounded : (Point.boundary false).holds text (p + name.length) = true
    · refine ⟨spelled, bounded, fun forward => ?_⟩
      obtain ⟨j, derived⟩ := derives_forwardEnd_iff.mpr forward
      rw [if_pos spelled, if_pos bounded, run_look_ahead_blocked forwardEnd_plain derived] at ran
      cases ran
    · rw [if_pos spelled, if_neg bounded] at ran
      cases ran
  · rw [if_neg spelled] at ran
    cases ran

theorem matchAt_accept_eq : (fun j m => if false && j = 0 then none else some (j, m) : Next) = finish := by
  funext j m
  simp [finish]

theorem HeadBefore.size_pos {p : Nat} (head : HeadBefore text p) : 0 < text.size := by
  obtain ⟨a, b, c, -, -, spelled, -⟩ := head
  rcases testsHold_le_size spelled with fits | empty
  · simp only [literalTests_length] at fits
    have : "class".length = 5 := rfl
    omega
  · simp [literalTests] at empty

theorem boundary_holds_iff {q : Nat} (nonEmpty : 0 < text.size) :
    (Point.boundary false).holds text q = atBoundary text false q := by
  simp [Point.holds, nonEmpty]

/-- A match of the definition shape on a line without newlines reads a definition of the name
    at some place, and the clause after it. -/
theorem definitionShape_matchAt_sound (unbroken : ∀ c ∈ text.toList, c ≠ '\n') {f : Found}
    (found : (definitionShape name).matchAt text 0 false = some f) :
    ∃ p, DefinesAt name text p ∧
      f.marks = clauseMarks text (colonAt text (p + name.length)) (nameMarks name p) := by
  obtain ⟨r, ran, rfl⟩ := Option.map_eq_some_iff.mp found
  rw [matchAt_accept_eq, definitionShape_split, run_all_append_eq] at ran
  obtain ⟨p, m, front, kept, rest⟩ :=
    run_sound text _ (fun _ => True) (fun s _ => definitionFront_sets s) _ _ _ _ ran
  -- the parts before the name record nothing, so the marks are still empty
  have untouched : m = (definitionShape name).emptyMarks := Array.ext_getElem? fun s => kept.2 s trivial
  subst untouched
  obtain ⟨spelled, bounded, clear⟩ := run_fromName_some rest
  obtain ⟨e, read⟩ := run_fromName_of unbroken spelled bounded clear _
  rw [read] at rest
  cases rest
  have head := derives_front_iff.mp front
  exact ⟨p, ⟨head, spelled, by rwa [boundary_holds_iff head.size_pos] at bounded, clear⟩, rfl⟩

/-- On a line without newlines, the definition shape matches wherever the name is defined. -/
theorem definitionShape_matchAt_complete (unbroken : ∀ c ∈ text.toList, c ≠ '\n') {p : Nat}
    (defines : DefinesAt name text p) : ((definitionShape name).matchAt text 0 false).isSome := by
  obtain ⟨head, spelled, bounded, clear⟩ := defines
  rw [← boundary_holds_iff head.size_pos] at bounded
  simp only [Program.matchAt, Option.isSome_map]
  rw [matchAt_accept_eq, definitionShape_split, run_all_append_eq]
  refine run_complete text _ definitionFront_plain 0 p (derives_front_iff.mpr head) _ (fun m => ?_) _
  obtain ⟨e, read⟩ := run_fromName_of unbroken spelled bounded clear m
  rw [read]
  rfl

/-- The inheritance clause after a name ending at `q`: what follows the colon that stands after
    blanks, an optional `final` and blanks, from its first character that is not a blank to the
    end of the line; empty when no colon stands there. -/
def clauseOf (text : Array Char) (q : Nat) : String :=
  if text[colonAt text q]? = some ':' then textBetween text (blankEnd text (colonAt text q + 1)) text.size
  else ""

theorem group_name_of_marks {f : Found} {p c : Nat} (marks : f.marks = clauseMarks text c (nameMarks name p)) :
    f.group text 1 = some (textBetween text p (p + name.length)) := by
  rw [Found.group, marks]
  unfold clauseMarks
  split <;> simp [groupSpan, nameMarks, Program.emptyMarks, definitionShape, textBetween]

/-- A match read from a colon at `c` captures the clause from its first non-blank character, or
    its last character when only blanks follow the colon, or nothing when no character does. -/
theorem group_clause_of_marks {f : Found} {p c : Nat} (marks : f.marks = clauseMarks text c (nameMarks name p)) :
    f.group text 2 = if text[c]? = some ':' ∧ c + 1 < text.size then
      some (textBetween text (min (blankEnd text (c + 1)) (text.size - 1)) text.size) else none := by
  rw [Found.group, marks]
  unfold clauseMarks
  have order : min (blankEnd text (c + 1)) (text.size - 1) ≤ text.size := by omega
  split <;> simp [groupSpan, nameMarks, Program.emptyMarks, definitionShape, order, textBetween]

/-- A lone blank names no base. -/
theorem splitBases_blank {x : Char} (blank : isBlank x = true) : splitBases (String.ofList [x]) = ([], []) := by
  -- a brace tail needs a brace, which a lone blank is not
  have never : ∀ i, braceTailShape.matchAt (String.ofList [x]).toList.toArray i false = none := by
    intro i
    cases found : braceTailShape.matchAt (String.ofList [x]).toList.toArray i false with
    | none => rfl
    | some f =>
      obtain ⟨r, ran, -⟩ := Option.map_eq_some_iff.mp found
      obtain ⟨j, _, derived, -⟩ := run_derives _ _ ran
      obtain ⟨a, -, rest⟩ := derived.all_cons
      obtain ⟨b, brace, -⟩ := rest.all_cons
      obtain ⟨-, at_a⟩ := derives_lit_iff.mp brace
      have same : x = '{' := by
        rcases a with _ | a
        · simpa [String.toList_ofList] using at_a
        · simp at at_a
      rw [same] at blank
      exact absurd blank (by decide +kernel)
  rw [splitBases, replaceAll_of_never _ _ _ never]
  simp [trimBlanks, blank]

/-- The bases a match reads are those of the clause after the name. -/
theorem splitBases_group_clause {f : Found} {p : Nat}
    (marks : f.marks = clauseMarks text (colonAt text (p + name.length)) (nameMarks name p)) :
    splitBases ((f.group text 2).getD "") = splitBases (clauseOf text (p + name.length)) := by
  rw [group_clause_of_marks marks, clauseOf]
  have noBases : splitBases "" = ([], []) := by decide +kernel
  by_cases colon : text[colonAt text (p + name.length)]? = some ':'
  · have inside := lt_size_of_getElem? colon
    -- write `c` for the colon's place and `d` for the end of the blanks after it
    generalize colonAt text (p + name.length) = c at colon inside ⊢
    have bounded : spanLength text isBlank (c + 1) ≤ text.size - (c + 1) := spanLength_le isBlank (c + 1)
    by_cases within : c + 1 < text.size
    · rcases Nat.lt_or_ge (blankEnd text (c + 1)) text.size with short | full
      · simp [colon, within, Nat.min_eq_left (Nat.le_sub_one_of_lt short)]
      · -- only blanks follow the colon: the group holds the last of them, which names no base
        have last : min (blankEnd text (c + 1)) (text.size - 1) = text.size - 1 := by omega
        have blanks : Spans text isBlank (c + 1) (c + 1 + spanLength text isBlank (c + 1)) :=
          spans_spanLength isBlank _ (c + 1) rfl
        obtain ⟨x, at_last, blank⟩ := blanks.2 (text.size - 1) (by omega) (by simp only [blankEnd] at full; omega)
        have single : textBetween text (text.size - 1) text.size = String.ofList [x] := by
          have listed : text.toList[text.size - 1]? = some x := by simpa using at_last
          obtain ⟨inside, same⟩ := List.getElem?_eq_some_iff.mp listed
          have one : text.size - (text.size - 1) = 1 := by omega
          rw [textBetween, Array.toList_extract, List.extract_eq_take_drop, one,
            List.drop_eq_getElem_cons inside, same, List.take_succ_cons, List.take_zero]
        have empty : textBetween text (blankEnd text (c + 1)) text.size = "" := by
          simp [textBetween, show text.size ≤ blankEnd text (c + 1) by omega]
        simp only [colon, within, and_self, if_true, last, Option.getD_some, single, empty,
          splitBases_blank blank, noBases]
    · have empty : textBetween text (blankEnd text (c + 1)) text.size = "" := by
        simp [textBetween, blankEnd]
        omega
      simp [colon, within, empty]
  · simp [colon]

end Matching

section Lines

/-- No piece between newlines holds one. -/
theorem splitNewlines_unbroken : ∀ (cs : List Char), ∀ piece ∈ splitNewlines cs, '\n' ∉ piece
  | [] => by simp [splitNewlines]
  | c :: rest => by
    intro piece member
    have earlier := splitNewlines_unbroken rest
    obtain ⟨first, others, split⟩ := List.exists_cons_of_ne_nil (splitNewlines_ne_nil rest)
    rw [split] at earlier
    simp only [splitNewlines, split] at member
    by_cases newline : c = '\n'
    · rw [if_pos newline] at member
      rcases List.mem_cons.mp member with rfl | later
      · simp
      · exact earlier piece later
    · rw [if_neg newline] at member
      rcases List.mem_cons.mp member with rfl | later
      · simp only [List.mem_cons, not_or]
        exact ⟨fun same => newline same.symm, earlier first List.mem_cons_self⟩
      · exact earlier piece (List.mem_cons_of_mem first later)

theorem splitLines_unbroken {content line : String} (member : line ∈ splitLines content) :
    ∀ c ∈ line.toList.toArray.toList, c ≠ '\n' := by
  simp only [splitLines, List.mem_map] at member
  obtain ⟨piece, located, rfl⟩ := member
  intro c held same
  subst same
  rw [List.toList_toArray, String.toList_ofList] at held
  have whole := dropTrailingReturns_front piece
  exact splitNewlines_unbroken _ piece located (whole ▸ List.mem_append_left _ held)

/-- A line is matched by the definition shape exactly when it defines the name. -/
theorem definitionShape_matchAt_none_iff {content name line : String} (member : line ∈ splitLines content) :
    (definitionShape name).matchAt line.toList.toArray 0 false = none ↔ ¬ DefinitionLine name line := by
  constructor
  · rintro missed ⟨p, defines⟩
    have found := definitionShape_matchAt_complete (splitLines_unbroken member) defines
    rw [missed] at found
    cases found
  · intro never
    cases found : (definitionShape name).matchAt line.toList.toArray 0 false with
    | none => rfl
    | some f =>
      obtain ⟨p, defines, -⟩ := definitionShape_matchAt_sound (splitLines_unbroken member) found
      exact absurd ⟨p, defines⟩ never

theorem definitionOf_eq (lines : List String) (name : String) :
    definitionOf lines name = definitionOf.go name (definitionShape name) lines 1 := rfl

/-- The scan finds nothing exactly when no line is matched. -/
theorem definitionOf_go_none {name : String} : ∀ (lines : List String) (i : Nat),
    definitionOf.go name (definitionShape name) lines i = none ↔
      ∀ line ∈ lines, (definitionShape name).matchAt line.toList.toArray 0 false = none
  | [], _ => by simp [definitionOf.go]
  | line :: rest, i => by
    simp only [definitionOf.go, List.forall_mem_cons]
    split
    · next f found => simp [found]
    · next missed =>
      rw [definitionOf_go_none rest (i + 1)]
      simp [missed]

/-- The scan reports the first matched line, its number counted from `i`, and what the match
    read there. -/
theorem definitionOf_go_some {name : String} : ∀ {lines : List String} {i n : Nat} {declared clause : String},
    definitionOf.go name (definitionShape name) lines i = some (n, declared, clause) →
      ∃ idx line f, lines[idx]? = some line ∧
        (∀ j < idx, ∀ earlier, lines[j]? = some earlier →
          (definitionShape name).matchAt earlier.toList.toArray 0 false = none) ∧
        (definitionShape name).matchAt line.toList.toArray 0 false = some f ∧ n = i + idx ∧
        declared = (f.group line.toList.toArray 1).getD name ∧
        clause = (f.group line.toList.toArray 2).getD ""
  | [], _, _, _, _, found => by simp [definitionOf.go] at found
  | line :: rest, i, n, declared, clause, found => by
    simp only [definitionOf.go] at found
    split at found
    · next f read =>
      cases found
      exact ⟨0, line, f, rfl, fun j below => absurd below (Nat.not_lt_zero j), read, rfl, rfl, rfl⟩
    · next missed =>
      obtain ⟨idx, line', f, located, before, read, counted, named, clauseRead⟩ := definitionOf_go_some found
      refine ⟨idx + 1, line', f, located, fun j below earlier at_j => ?_, read, by omega, named, clauseRead⟩
      cases j with
      | zero =>
        simp only [List.getElem?_cons_zero, Option.some.injEq] at at_j
        subst at_j
        exact missed
      | succ j => exact before j (by omega) earlier at_j

/-- A class is extracted from a text exactly when one of its lines defines it, and then from the
    first such line: its number counted from one, the name as that line spells it, and the bases
    of the clause after the name. -/
theorem extractClass_reads_first_definition (content name file : String) :
    (extractClass content name file = none ↔ ∀ line ∈ splitLines content, ¬ DefinitionLine name line) ∧
    ∀ r, extractClass content name file = some r →
      ∃ idx line p, (splitLines content)[idx]? = some line ∧
        (∀ j < idx, ∀ earlier, (splitLines content)[j]? = some earlier → ¬ DefinitionLine name earlier) ∧
        DefinesAt name line.toList.toArray p ∧ r.definitionLine = idx + 1 ∧
        r.name = textBetween line.toList.toArray p (p + name.length) ∧
        (r.superclassNames, r.interfaceNames) = splitBases (clauseOf line.toList.toArray (p + name.length)) := by
  constructor
  · simp only [extractClass, Option.map_eq_none_iff, definitionOf_eq, definitionOf_go_none]
    exact ⟨fun missed line member => (definitionShape_matchAt_none_iff member).mp (missed line member),
      fun never line member => (definitionShape_matchAt_none_iff member).mpr (never line member)⟩
  · intro r extracted
    simp only [extractClass, Option.map_eq_some_iff] at extracted
    obtain ⟨⟨n, declared, clause⟩, found, built⟩ := extracted
    rw [definitionOf_eq] at found
    obtain ⟨idx, line, f, located, before, read, rfl, rfl, rfl⟩ := definitionOf_go_some found
    obtain ⟨p, defines, marks⟩ := definitionShape_matchAt_sound
      (splitLines_unbroken (List.mem_of_getElem? located)) read
    refine ⟨idx, line, p, located, fun j below earlier at_j => ?_, defines, ?_⟩
    · exact (definitionShape_matchAt_none_iff (List.mem_of_getElem? at_j)).mp (before j below earlier at_j)
    · subst built
      refine ⟨Nat.add_comm 1 idx, ?_, ?_⟩
      · simp [group_name_of_marks marks]
      · rw [← splitBases_group_clause marks]

-- a forward declaration on the first line is passed over for the definition on the second
example : (extractClass "class AFoo;\nclass AFoo : public UObject" "AFoo" "A.h").map
    (fun r => (r.definitionLine, r.superclassNames)) = some (2, ["UObject"]) := by decide +kernel

end Lines

end ClassAtlas.Source
