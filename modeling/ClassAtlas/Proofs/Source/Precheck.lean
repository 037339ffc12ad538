import ClassAtlas.Proofs.Pattern.Derives
import ClassAtlas.Proofs.Text.Classes
import ClassAtlas.Proofs.Index.ClassCache

/-!
The quick test a class scan runs on a header before extracting from it. The test looks for the
word `class`, the name, and then a colon or an opening brace after blanks and an optional
`final`; extraction reads a definition line by its own shape, which may go on with anything.

Whenever a definition line has an inheritance clause, the test reads, from the `class` of that
line, what the definition shape read up to the colon (`containsDefinition_of_clause`): every part
of the test is a part the shape matched, moved from the line to the whole text
(`Derives.shift`), and the word boundary before `class` holds because the line starts the text
or follows a newline, or because white space or a closing parenthesis stands before `class`. So
a record with a base is never skipped (`containsDefinition_of_extracted`), and a scan for a name
whose every record has a base finds what extraction alone finds
(`findDefinition_eq_firstExtracted`).

A record without a base is where the two part: a definition line whose name is followed by a
comment, its brace on the next line, is extracted, yet the test fails, and the class is refused
as not found (`comment_after_name_skips_definition`).
-/

namespace ClassAtlas.Source

open ClassAtlas.Pattern ClassAtlas.Text Prog

/-! ### The characters the shapes test -/

theorem blank_holds {c : Char} (holds : (setTest 0 false [.category .space]).holds c = true) :
    isBlank c = true := by
  have shape : setTest 0 false [.category .space] = .set ⟨false,.exact,[.category .space false]⟩ := rfl
  rw [shape] at holds
  have both : isScalar c.toNat = true ∧ isBlank c = true := by
    simpa [CharTest.holds,CharSet.holds,Fold.apply,Probe.holds,Category.holds] using holds
  exact both.2

theorem classInitial_word {c : Char} (holds : (literalTest ignoreCase false 99).holds c = true) :
    isWordChar c = true := by
  have shape : literalTest ignoreCase false 99 = .set ⟨false,.unicode,[.char 99]⟩ := rfl
  rw [shape] at holds
  have lowered : lowerCode c.toNat = 99 := by
    simpa [CharTest.holds,CharSet.holds,Fold.apply,Probe.holds] using holds
  rcases lowerCode_eq_c lowered with upper | lower
  · rw [← Char.ofNat_toNat c,upper]; decide
  · rw [← Char.ofNat_toNat c,lower]; decide

variable {text : Array Char}

theorem blanks_end {i j : Nat} (d : Derives text blanks i j) :
    i = j ∨ ∃ c, text[j - 1]? = some c ∧ isBlank c = true := by
  cases d with
  | loop rounds =>
    refine Repeats.ends (P := fun b => ∃ c, text[b - 1]? = some c ∧ isBlank c = true)
      (fun a b once _ => ?_) rounds
    obtain ⟨rfl,c,found,holds⟩ := once.char_at
    exact ⟨c,found,blank_holds holds⟩

theorem macroCall_end {ignoring : Bool} {name : String} {i j : Nat}
    (d : Derives text (macroCall ignoring name) i j) : text[j - 1]? = some ')' := by
  obtain ⟨_,-,d⟩ := d.all_cons
  obtain ⟨_,-,d⟩ := d.all_cons
  obtain ⟨_,-,d⟩ := d.all_cons
  obtain ⟨q,-,d⟩ := d.all_cons
  obtain ⟨rfl,c,found,holds⟩ := d.char_at
  have code : c.toNat = 41 := by simpa [lit,CharTest.holds] using holds
  rw [Nat.add_sub_cancel,found,← Char.ofNat_toNat c,code]

/-- An optional macro call with the blanks after it ends, when it takes anything, with white
    space or a closing parenthesis. -/
theorem macroPrefix_end {i j : Nat} (d : Derives text (optional (all [macroCall true "UCLASS", blanks])) i j) :
    i = j ∨ ∃ c, text[j - 1]? = some c ∧ (isBlank c = true ∨ c = ')') := by
  cases d with
  | loop rounds =>
    refine Repeats.ends (P := fun b => ∃ c, text[b - 1]? = some c ∧ (isBlank c = true ∨ c = ')'))
      (fun a b once _ => ?_) rounds
    obtain ⟨m,call,gap⟩ := once.all_cons
    rcases blanks_end gap with same | ⟨c,found,blank⟩
    · subst same
      exact ⟨')',macroCall_end call,.inr rfl⟩
    · exact ⟨c,found,.inl blank⟩

/-- The parts of a definition line before its inheritance clause. -/
def definitionLead (name : String) : List Prog :=
  [.point .textStart, blanks, optional (all [macroCall true "UCLASS", blanks]),
    literal true "class", many1 blank, optional (exportMacro true),
    .group 1 (literal true name), boundary,
    .look none true (all [blanks, optional (all [literal true "final", blanks]), lit ';']),
    blanks, optional (literal true "final"), blanks]

theorem definitionShape_body (name : String) : (definitionShape name).body =
    all (definitionLead name ++ [optional (all [lit ':', blanks, .group 2 (many1 anyInLine)])]) := rfl

/-- A definition line whose inheritance clause was read has a colon right after its lead: the
    clause is tried first, and had it been passed over, its group would have no bounds. -/
theorem definitionShape_colon {name : String} {f : Found}
    (found : (definitionShape name).matchAt text 0 false = some f) (clause : (groupSpan f.marks 2).isSome) :
    ∃ j, Derives text (all (definitionLead name)) 0 j ∧ text[j]? = some ':' := by
  obtain ⟨r,ran,rfl⟩ := Option.map_eq_some_iff.mp found
  rw [definitionShape_body,run_all_snoc] at ran
  have free : ∀ s, s = 2 → (all (definitionLead name)).sets s = false := by
    rintro s rfl
    simp [definitionLead,Prog.sets,macroCall,exportMacro,blanks,boundary,many,many1,Prog.optional,blank,
      classOf,wordChar,lit,but]
  obtain ⟨j,m,lead,kept,rest⟩ := run_sound text _ (· = 2) free _ _ _ _ ran
  refine ⟨j,lead,?_⟩
  simp only [Prog.optional,run] at rest
  rw [greedyLoop,if_neg (Nat.lt_irrefl 0)] at rest
  dsimp only at rest
  split at rest
  · next r' tried =>
    rw [if_pos (by decide)] at tried
    obtain ⟨_,_,clauseRead,-⟩ := run_derives text _ tried
    obtain ⟨_,colon,-⟩ := clauseRead.all_cons
    obtain ⟨-,c,at_j,holds⟩ := colon.char_at
    have code : c.toNat = 58 := by simpa [lit,CharTest.holds] using holds
    rw [at_j,← Char.ofNat_toNat c,code]
  · -- passing over the clause leaves its group as the lead left it: without bounds
    next skipped =>
    simp only [Bool.false_and,Bool.false_eq_true,if_false,Option.some.injEq] at rest
    subst rest
    have unset : m[2]? = some none := by
      rw [kept.2 2 rfl]
      rfl
    simp [groupSpan,unset] at clause

theorem existenceShape_body (name : String) : (existenceShape name).body =
    all [boundary, literal true "class", many1 blank, optional (exportMacro true), literal true name,
      blanks, optional (literal true "final"), blanks, oneOf [':','{']] := rfl

theorem line_agrees {before after : List Char} {line : String} {content : String}
    (whole : content.toList = before ++ line.toList ++ after) :
    (∀ x c, line.toList.toArray[x]? = some c → content.toList.toArray[before.length + x]? = some c) ∧
      before.length + line.toList.toArray.size ≤ content.toList.toArray.size := by
  refine ⟨fun x c found => ?_,?_⟩
  · have inside : x < line.toList.length := by
      simp only [List.getElem?_toArray] at found
      exact (List.getElem?_eq_some_iff.mp found).1
    simp only [List.getElem?_toArray] at found ⊢
    rw [whole,List.append_assoc,List.getElem?_append_right (by omega),Nat.add_sub_cancel_left,
      List.getElem?_append_left inside,found]
  · simp [whole]

/-- A word starts where a character of a word follows the start of the text or a character that
    is not one. -/
theorem boundary_of_word_start {text : Array Char} {i : Nat} {c : Char} (at_i : text[i]? = some c)
    (word : isWordChar c = true) (precedes : i = 0 ∨ ∃ b, text[i - 1]? = some b ∧ isWordChar b = false) :
    (Point.boundary false).holds text i = true := by
  have sized : 0 < text.size := by
    have := (Array.getElem?_eq_some_iff.mp at_i).1
    omega
  simp only [Point.holds,atBoundary,isWordAt,at_i,word]
  rcases precedes with rfl | ⟨b,found,other⟩
  · simp [sized]
  · simp [found,other,sized]

/-- What stands before the `class` of a definition line in the whole text is no character of a
    word: the keyword starts the line, which starts the text or follows a newline, or white space
    or the closing parenthesis of a macro call stands before it. -/
theorem before_keyword_not_word {content line : String} {before after : List Char}
    (whole : content.toList = before ++ line.toList ++ after) (edge : before = [] ∨ before.getLast? = some '\n')
    {p1 pc : Nat} (indent : Derives line.toList.toArray blanks 0 p1)
    (call : Derives line.toList.toArray (optional (all [macroCall true "UCLASS", blanks])) p1 pc) :
    before.length + pc = 0 ∨ ∃ c, content.toList.toArray[before.length + pc - 1]? = some c ∧
      isWordChar c = false := by
  rcases Nat.eq_zero_or_pos pc with rfl | positive
  · -- the keyword starts the line
    rcases edge with rfl | last
    · exact .inl rfl
    · refine .inr ⟨'\n',?_,by decide⟩
      have filled : before ≠ [] := by rintro rfl; cases last
      rw [List.getLast?_eq_getElem?] at last
      simp only [List.getElem?_toArray,whole,List.append_assoc,Nat.add_zero]
      rw [List.getElem?_append_left (by have := List.length_pos_of_ne_nil filled; omega),last]
  · -- on the line, white space or a closing parenthesis stands before the keyword
    obtain ⟨c,found,kind⟩ : ∃ c, line.toList.toArray[pc - 1]? = some c ∧ (isBlank c = true ∨ c = ')') := by
      rcases macroPrefix_end call with same | ending
      · subst same
        rcases blanks_end indent with none | ⟨c,found,blank⟩
        · omega
        · exact ⟨c,found,.inl blank⟩
      · exact ending
    refine .inr ⟨c,?_,?_⟩
    · have moved := (line_agrees whole).1 _ _ found
      rwa [show before.length + (pc - 1) = before.length + pc - 1 by omega] at moved
    · rcases kind with blank | rfl
      · exact blank_not_word blank
      · decide

/-- The quick test passes a text in which a line reads as the definition of the class with its
    inheritance clause: from the `class` of that line, the test reads what the definition read,
    up to the colon. -/
theorem containsDefinition_of_clause {content name : String} {idx : Nat} {line : String} {f : Found}
    (located : (splitLines content)[idx]? = some line)
    (found : (definitionShape name).matchAt line.toList.toArray 0 false = some f)
    (clause : (groupSpan f.marks 2).isSome) : containsDefinition content name = true := by
  obtain ⟨before,after,whole,edge⟩ := splitLines_locate located
  obtain ⟨agree,fits⟩ := line_agrees whole
  obtain ⟨j,lead,colon⟩ := definitionShape_colon found clause
  -- the lead, part by part
  obtain ⟨p0,start,d⟩ := lead.all_cons
  obtain ⟨p1,indent,d⟩ := d.all_cons
  obtain ⟨pc,call,d⟩ := d.all_cons
  obtain ⟨p2,keyword,d⟩ := d.all_cons
  obtain ⟨p3,gap,d⟩ := d.all_cons
  obtain ⟨p4,api,d⟩ := d.all_cons
  obtain ⟨p5,named,d⟩ := d.all_cons
  obtain ⟨p6,bound,d⟩ := d.all_cons
  obtain ⟨p7,ahead,d⟩ := d.all_cons
  obtain ⟨p8,spaced,d⟩ := d.all_cons
  obtain ⟨p9,final,spaced'⟩ := d.all_cons
  cases start
  cases bound
  cases ahead
  cases named with
  | group named =>
  -- the word boundary before `class`: a character of a word after one that is not
  have spelled : literal true "class" = all [.char (literalTest ignoreCase false 99),
      .char (literalTest ignoreCase false 108), .char (literalTest ignoreCase false 97),
      .char (literalTest ignoreCase false 115), .char (literalTest ignoreCase false 115)] := rfl
  obtain ⟨_,initial,-⟩ := (spelled ▸ keyword).all_cons
  obtain ⟨-,c0,at_pc,holds⟩ := initial.char_at
  have atKeyword := agree _ _ at_pc
  have inside : before.length + pc < content.toList.toArray.size := (Array.getElem?_eq_some_iff.mp atKeyword).1
  have boundaryHolds := boundary_of_word_start atKeyword (classInitial_word holds)
    (before_keyword_not_word whole edge indent call)
  -- from the keyword on, the test reads the parts the definition read, then the colon
  have shifted {q : Prog} (reads : q.anchorless = true) {a b : Nat} (read : Derives line.toList.toArray q a b) :
      Derives content.toList.toArray q (before.length + a) (before.length + b) := read.shift agree fits reads
  have existence : Derives content.toList.toArray (existenceShape name).body (before.length + pc)
      (before.length + j + 1) := by
    rw [existenceShape_body]
    refine .all_cons_of (.point boundaryHolds) (.all_cons_of (shifted (by simp) keyword) ?_)
    refine .all_cons_of (shifted (by simp [many1,blank,classOf,Prog.anchorless]) gap) ?_
    refine .all_cons_of (shifted (by simp [Prog.optional,exportMacro,many1,blank,classOf,wordChar,
      Prog.anchorless]) api) ?_
    refine .all_cons_of (shifted (by simp) named) ?_
    refine .all_cons_of (shifted (by simp [blanks,many,blank,classOf,Prog.anchorless]) spaced) ?_
    refine .all_cons_of (shifted (by simp [Prog.optional,Prog.anchorless]) final) ?_
    refine .all_cons_of (shifted (by simp [blanks,many,blank,classOf,Prog.anchorless]) spaced') ?_
    exact .char (agree _ _ colon) (by decide)
  have plain : (existenceShape name).body.plain = true := by
    simp [existenceShape_body,Prog.plain,boundary,many1,many,Prog.optional,exportMacro,blank,classOf,
      wordChar,blanks,oneOf]
  exact search_isSome_of_derives _ plain inside.le existence

/-! ### Records with bases -/

/-- The definition extraction reports is a line read by the definition shape, and its clause is
    that reading's clause group. -/
theorem definitionOf_read {name : String} : ∀ {lines : List String} {start n : Nat} {declared clause : String},
    definitionOf.go name (definitionShape name) lines start = some (n,declared,clause) →
      ∃ (idx : Nat) (line : String) (f : Found), lines[idx]? = some line ∧
        (definitionShape name).matchAt line.toList.toArray 0 false = some f ∧
        clause = (f.group line.toList.toArray 2).getD ""
  | [],_,_,_,_,found => by simp [definitionOf.go] at found
  | line :: rest,start,n,declared,clause,found => by
    simp only [definitionOf.go] at found
    split at found
    · next f read =>
      cases found
      exact ⟨0,line,f,rfl,read,rfl⟩
    · obtain ⟨idx,line',f,at_idx,read,clause⟩ := definitionOf_read found
      exact ⟨idx + 1,line',f,at_idx,read,clause⟩

/-- A record with a base was extracted from a line of the text whose inheritance clause the
    definition shape read. -/
theorem extractClass_clause {content name file : String} {r : Record}
    (extracted : extractClass content name file = some r) (based : r.superclassNames ++ r.interfaceNames ≠ []) :
    ∃ (idx : Nat) (line : String) (f : Found), (splitLines content)[idx]? = some line ∧
      (definitionShape name).matchAt line.toList.toArray 0 false = some f ∧ (groupSpan f.marks 2).isSome := by
  simp only [extractClass,Option.map_eq_some_iff] at extracted
  obtain ⟨⟨n,declared,clause⟩,found,built⟩ := extracted
  obtain ⟨idx,line,f,at_idx,read,rfl⟩ := definitionOf_read found
  refine ⟨idx,line,f,at_idx,read,?_⟩
  -- without a clause group the clause is empty, and an empty clause names no base
  cases span : groupSpan f.marks 2 with
  | some _ => rfl
  | none =>
    have empty : (f.group line.toList.toArray 2).getD "" = "" := by simp [Found.group,span]
    have noBases : splitBases "" = ([],[]) := by decide +kernel
    rw [empty,noBases] at built
    subst built
    exact absurd rfl based

/-- The quick test passes every text from which a record with a base is extracted. -/
theorem containsDefinition_of_extracted {content name file : String} {r : Record}
    (extracted : extractClass content name file = some r) (based : r.superclassNames ++ r.interfaceNames ≠ []) :
    containsDefinition content name = true := by
  obtain ⟨idx,line,f,located,read,clause⟩ := extractClass_clause extracted based
  exact containsDefinition_of_clause located read clause

end ClassAtlas.Source

namespace ClassAtlas.Index

open ClassAtlas.Files ClassAtlas.Source ClassAtlas.Cache

/-- The record extraction finds in the first header, under the first root that has one, from
    which it extracts a record for `name`: the scan without the quick test. -/
def firstExtracted (t : Tree) (name : String) : List Location → Option Record
  | [] => none
  | root :: rest =>
    let files := match t.listFiles root headerPattern true with
      | .ok fs => fs
      | .error _ => []
    match files.findSome? fun path => (t.readVia? path).bind fun content => extractClass content name (render path) with
    | some r => some r
    | none => firstExtracted t name rest

/-- When every record extracted for `name` has a base, the quick test skips no header, and the
    scan finds what extraction alone finds. -/
theorem findDefinition_eq_firstExtracted (t : Tree) (name : String)
    (based : ∀ path content (r : Record), t.readVia? path = some content →
      extractClass content name (render path) = some r → r.superclassNames ++ r.interfaceNames ≠ [])
    (roots : List Location) : findDefinition t name roots = firstExtracted t name roots := by
  induction roots with
  | nil => rfl
  | cons root rest ih =>
    simp only [findDefinition,firstExtracted,ih]
    -- header by header, the quick test passes whenever extraction finds a record
    congr 2
    funext path
    cases read : t.readVia? path with
    | none => rfl
    | some content =>
      cases extracted : extractClass content name (render path) with
      | none => simp [extracted]
      | some r => simp [containsDefinition_of_extracted extracted (based path content r read extracted),extracted]

/-- On a cache miss, a name is answered with the record of the first header that extraction
    finds it in, whenever every record extracted for the name has a base. -/
theorem resolveClass_miss_first_extracted (t : Tree) (ix : Registry) (name : String)
    (missing : (ix.classes.get (Text.lower name)).1 = none)
    (based : ∀ path content (r : Record), t.readVia? path = some content →
      extractClass content name (render path) = some r → r.superclassNames ++ r.interfaceNames ≠ []) :
    ((resolveClass t name).run.run ix).1 =
      if (ix.roots.classSearchRoots t).isEmpty then .error .noSearchPath
      else match firstExtracted t name (ix.roots.classSearchRoots t) with
        | some r => .ok r
        | none => .error (.classNotFound name) := by
  rw [resolveClass_of_missing missing]
  -- with the scan's answer fixed, both matches reduce alike
  cases found : firstExtracted t name (ix.roots.classSearchRoots t) <;>
    simp only [scanClass,findDefinition_eq_firstExtracted t name based,found]

theorem readVia?_file {t : Tree} {path : List String} {content : String}
    (read : t.readVia? path = some content) : ∃ e ∈ t.files, content = Text.decodeUtf8 e.2 := by
  simp only [Tree.readVia?,Tree.fileAt?,Option.map_eq_some_iff,Option.bind_eq_some_iff] at read
  obtain ⟨_,⟨l,-,found⟩,rfl⟩ := read
  obtain ⟨e,hit,rfl⟩ := found
  exact ⟨e,List.mem_of_find?_eq_some hit,rfl⟩

theorem extractClass_sourceFile (content name file : String) :
    extractClass content name file = (extractClass content name "").map fun r => { r with sourceFile := file } := by
  simp only [extractClass]
  cases definitionOf (Text.splitLines content) name <;> simp

/-- The quick test passes every text from which a record with a base is extracted; so, on a
    cache miss, a name every extracted record of which has a base is answered with the record of
    the first header extraction finds it in, and is refused as not found only when there is none. -/
theorem precheck_admits_definitions_with_bases (t : Tree) (ix : Registry) (name : String) :
    (∀ (content file : String) (r : Record), extractClass content name file = some r →
      r.superclassNames ++ r.interfaceNames ≠ [] → containsDefinition content name = true) ∧
    ((ix.classes.get (Text.lower name)).1 = none →
      (∀ path content (r : Record), t.readVia? path = some content →
        extractClass content name (render path) = some r → r.superclassNames ++ r.interfaceNames ≠ []) →
      ((resolveClass t name).run.run ix).1 =
        if (ix.roots.classSearchRoots t).isEmpty then .error .noSearchPath
        else match firstExtracted t name (ix.roots.classSearchRoots t) with
          | some r => .ok r
          | none => .error (.classNotFound name)) :=
  ⟨fun _ _ _ extracted based => containsDefinition_of_extracted extracted based,
    fun missing based => resolveClass_miss_first_extracted t ix name missing based⟩

/-- A header defining a class with a base: the quick test passes it, and the class is resolved
    from it. -/
theorem based_definition_found_by_scan :
    let content := "class AHero : public AActor {};\n"
    let t : Tree := ⟨[["P"]],[(["P","A.h"],content.toUTF8)]⟩
    let roots : Roots := ⟨some ["P"],none⟩
    let ix : Registry := ⟨roots,Recency.empty defaultCapacity,Recency.empty defaultCapacity⟩
    let hero : Record := ⟨"AHero","/P/A.h",1,["AActor"],[],[],[]⟩
    extractClass content "AHero" "/P/A.h" = some hero ∧ containsDefinition content "AHero" = true ∧
      (ix.classes.get (Text.lower "AHero")).1 = none ∧
      (∀ path text (r : Record), t.readVia? path = some text →
        extractClass text "AHero" (render path) = some r → r.superclassNames ++ r.interfaceNames ≠ []) ∧
      ((resolveClass t "AHero").run.run ix).1 =
        if (ix.roots.classSearchRoots t).isEmpty then .error .noSearchPath
        else match firstExtracted t "AHero" (ix.roots.classSearchRoots t) with
          | some r => .ok r
          | none => .error (.classNotFound "AHero") := by
  intro content t roots ix hero
  have extracted : extractClass content "AHero" "/P/A.h" = some hero := by decide +kernel
  have missing : (ix.classes.get (Text.lower "AHero")).1 = none := rfl
  -- the one header of the tree gives the class its base, whatever its path is written as
  have based : ∀ path text (r : Record), t.readVia? path = some text →
      extractClass text "AHero" (render path) = some r → r.superclassNames ++ r.interfaceNames ≠ [] := by
    intro path text r read found
    obtain ⟨e,member,rfl⟩ := readVia?_file read
    rw [List.mem_singleton] at member
    subst member
    have decoded : Text.decodeUtf8 content.toUTF8 = content := by decide +kernel
    have bare : extractClass content "AHero" "" = some { hero with sourceFile := "" } := by decide +kernel
    rw [decoded,extractClass_sourceFile,bare] at found
    cases found
    simp [hero]
  have admits := precheck_admits_definitions_with_bases t ix "AHero"
  exact ⟨extracted,admits.1 _ _ _ extracted (by simp [hero]),missing,based,admits.2 missing based⟩

/-- A definition line with a comment after the name, its brace on the next line: extraction
    reads the class, the quick test does not pass the header, and the class is refused as not
    found although extraction alone finds it. -/
theorem comment_after_name_skips_definition :
    let content := "class AFoo // the player actor\n\x7b\n\x7d;\n"
    let t : Tree := ⟨[["P"]],[(["P","A.h"],content.toUTF8)]⟩
    let roots : Roots := ⟨some ["P"],none⟩
    let ix : Registry := ⟨roots,Recency.empty defaultCapacity,Recency.empty defaultCapacity⟩
    let foo : Record := ⟨"AFoo","/P/A.h",1,[],[],[],[]⟩
    extractClass content "AFoo" "/P/A.h" = some foo ∧ containsDefinition content "AFoo" = false ∧
      firstExtracted t "AFoo" (roots.classSearchRoots t) = some foo ∧
      ((resolveClass t "AFoo").run.run ix).1 = .error (.classNotFound "AFoo") := by
  intro content t roots ix foo
  exact ⟨by decide +kernel,by decide +kernel,by decide +kernel,by decide +kernel⟩

end ClassAtlas.Index
