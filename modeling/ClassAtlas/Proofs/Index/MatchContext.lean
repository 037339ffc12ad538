import ClassAtlas.Command.Invoke
import ClassAtlas.Proofs.Index.TextSearch
import ClassAtlas.Proofs.Source.Definition

/-!
The lines around a match. A context window joins a run of lines by newlines; when no line of
the run holds a newline, cutting the window at its newlines gives the run back
(`splitAtNewlines_intercalate`). For a centre inside the text the run is the slice from `radius`
lines before the centre up to `radius` lines after it, cut at the ends of the text: it is never
empty, holds at most `2 * radius + 1` lines, and has the centre line at `min index radius`,
whichever end of the text cuts it (`linesAround`).

Lines read from a text hold no newline, so every match a scan reports carries a context whose
line at `min 2 (line - 1)` is the matched line itself, and the table of matches shows that line
stripped of blanks (`contextWindow_splits_into_clipped_lines`).
-/

namespace ClassAtlas.Text

theorem splitNewlines_eq_splitOn (cs : List Char) : splitNewlines cs = cs.splitOn '\n' := by
  induction cs with
  | nil => rfl
  | cons c rest ih =>
    obtain ⟨first, others, split⟩ := List.exists_cons_of_ne_nil (List.splitOn_ne_nil '\n' rest)
    rw [List.splitOn_cons_eq_if_modifyHead, splitNewlines, ih, split]
    by_cases newline : c = '\n' <;> simp [newline]

/-- Texts without newlines, joined by newlines, are read back by cutting at the newlines. -/
theorem splitAtNewlines_intercalate {ls : List String} (unbroken : ∀ l ∈ ls, '\n' ∉ l.toList)
    (nonempty : ls ≠ []) : splitAtNewlines ("\n".intercalate ls) = ls := by
  have pieces : (['\n'].intercalate (ls.map String.toList)).splitOn '\n' = ls.map String.toList :=
    List.splitOn_intercalate '\n' (by simpa using unbroken) (by simpa using nonempty)
  rw [splitAtNewlines, String.toList_intercalate, splitNewlines_eq_splitOn]
  simp [pieces]

/-- The items from `radius` places before `index` up to `radius` places after it, cut at the
    ends of the list. -/
def linesAround {α : Type} (xs : List α) (index radius : Nat) : List α :=
  (xs.drop (index - radius)).take (index + radius + 1 - (index - radius))

section Around

variable {α : Type} (xs : List α) (index radius : Nat)

theorem slice_clip_stop (start stop : Int) :
    slice xs start (min (xs.length : Int) stop) = slice xs start stop := by
  have clipped : sliceBound xs.length (min (xs.length : Int) stop) = sliceBound xs.length stop := by
    unfold sliceBound
    split_ifs <;> omega
  simp only [slice, clipped]

/-- The slice from `radius` before a centre up to `radius` after it is the lines around it. -/
theorem slice_linesAround :
    slice xs (max 0 ((index : Int) - radius)) (index + radius + 1) = linesAround xs index radius := by
  have start : max 0 ((index : Int) - radius) = ((index - radius : Nat) : Int) := by omega
  have stop : (index : Int) + radius + 1 = ((index + radius + 1 : Nat) : Int) := by omega
  rw [start, stop, slice_natCast, linesAround]

theorem contextWindow_natCast (lines : List String) :
    contextWindow lines index radius = "\n".intercalate (linesAround lines index radius) := by
  rw [contextWindow, slice_linesAround]

theorem length_linesAround :
    (linesAround xs index radius).length =
      min (index + radius + 1 - (index - radius)) (xs.length - (index - radius)) := by
  simp [linesAround]

/-- The centre stands at `min index radius`: `radius` places in, unless the start of the list
    cuts the window first. -/
theorem linesAround_getElem?_centre : (linesAround xs index radius)[min index radius]? = xs[index]? := by
  rw [linesAround, List.getElem?_take, if_pos (by omega), List.getElem?_drop]
  congr 1
  omega

theorem mem_of_mem_linesAround {x : α} (member : x ∈ linesAround xs index radius) : x ∈ xs :=
  List.mem_of_mem_drop (List.mem_of_mem_take member)

end Around

/-- A window onto lines without newlines is cut back into the lines around its centre. -/
theorem splitAtNewlines_contextWindow {lines : List String} (unbroken : ∀ l ∈ lines, '\n' ∉ l.toList)
    {index : Nat} (inside : index < lines.length) (radius : Nat) :
    splitAtNewlines (contextWindow lines index radius) = linesAround lines index radius := by
  have nonempty : linesAround lines index radius ≠ [] := by
    rw [← List.length_pos_iff, length_linesAround]
    omega
  rw [contextWindow_natCast]
  exact splitAtNewlines_intercalate
    (fun l member => unbroken l (mem_of_mem_linesAround _ _ _ member)) nonempty

theorem newline_not_mem_of_mem_splitLines {content line : String} (member : line ∈ splitLines content) :
    '\n' ∉ line.toList :=
  fun held => Source.splitLines_unbroken member '\n' (by simpa using held) rfl

end ClassAtlas.Text

namespace ClassAtlas.Index

open ClassAtlas.Files ClassAtlas.Pattern ClassAtlas.Text

/-- A match reported from a file stands for a line of the file read: its number is one more
    than the line's place, and its context is the window of radius two around it. -/
theorem mem_fileMatches {t : Tree} {p : Program} {includeComments : Bool} {file : Location}
    {m : CodeMatch} (member : m ∈ fileMatches t p includeComments file) :
    ∃ content, t.readVia? file = some content ∧ m.file = render file ∧
      ∃ i < (splitLines content).length, m.line = i + 1 ∧
        m.context = contextWindow (splitLines content) i 2 := by
  unfold fileMatches at member
  split at member
  · cases member
  · next content read =>
    simp only [List.mem_filterMap, List.mem_filter, Option.map_eq_some_iff] at member
    obtain ⟨⟨line, i⟩, ⟨listed, -⟩, found, -, rfl⟩ := member
    have inside : i < (splitLines content).length := by
      simpa using (List.mem_zipIdx listed).2.1
    exact ⟨content, read, rfl, i, inside, rfl, rfl⟩

theorem mem_scanFiles {t : Tree} {p : Program} {includeComments : Bool} {limit : Nat}
    {files : List Location} {m : CodeMatch} (member : m ∈ scanFiles t p includeComments limit files) :
    ∃ file ∈ files, m ∈ fileMatches t p includeComments file := by
  rw [scanFiles_eq] at member
  exact List.mem_flatMap.mp (List.mem_of_mem_take member)

theorem matchText_of_getElem? {m : CodeMatch} {line : String}
    (found : (splitAtNewlines m.context)[min 2 (m.line - 1)]? = some line) :
    Command.matchText m = String.ofList (Display.trimBlank line.toList) := by
  simp only [Command.matchText, List.getD_eq_getElem?_getD, found, Option.getD_some]

/-- A reported match comes from a line of a file scanned, numbered from one; cut at its
    newlines, its context holds that line at `min 2 (line - 1)`, and the table of matches shows
    the line stripped of blanks. -/
theorem scanFiles_context_holds_line {t : Tree} {p : Program} {includeComments : Bool} {limit : Nat}
    {files : List Location} {m : CodeMatch} (member : m ∈ scanFiles t p includeComments limit files) :
    ∃ file ∈ files, ∃ content, t.readVia? file = some content ∧ m.file = render file ∧
      0 < m.line ∧ ∃ line, (splitLines content)[m.line - 1]? = some line ∧
        (splitAtNewlines m.context)[min 2 (m.line - 1)]? = some line ∧
        Command.matchText m = String.ofList (Display.trimBlank line.toList) := by
  obtain ⟨file, listed, fromFile⟩ := mem_scanFiles member
  obtain ⟨content, read, named, i, inside, numbered, window⟩ := mem_fileMatches fromFile
  have unbroken : ∀ l ∈ splitLines content, '\n' ∉ l.toList :=
    fun _ member => newline_not_mem_of_mem_splitLines member
  -- the reported radius is two, so the centre stands at `min i 2`
  have centre : (splitAtNewlines m.context)[min 2 i]? = some (splitLines content)[i] := by
    rw [window, show (2 : Int) = ((2 : Nat) : Int) from rfl, splitAtNewlines_contextWindow unbroken inside,
      Nat.min_comm, linesAround_getElem?_centre, List.getElem?_eq_getElem inside]
  have previous : m.line - 1 = i := by omega
  rw [previous]
  exact ⟨file, listed, content, read, named, by omega, _, List.getElem?_eq_getElem inside, centre,
    matchText_of_getElem? (previous ▸ centre)⟩

/-- Lines without newlines are read back from a window onto them: the slice from `r` lines
    before the centre up to `r` lines after it, cut at the ends, never empty and at most
    `2 * r + 1` lines long, with the centre at `min i r`. So every match a scan reports shows, at
    `min 2 (line - 1)` of its context, exactly the matched line of its file. -/
theorem contextWindow_splits_into_clipped_lines :
    (∀ (lines : List String) (i r : Nat), (∀ l ∈ lines, '\n' ∉ l.toList) →
      ∀ (inside : i < lines.length),
      splitAtNewlines (contextWindow lines i r) =
          slice lines (max 0 ((i : Int) - r)) (min (lines.length : Int) (i + r + 1)) ∧
        1 ≤ (splitAtNewlines (contextWindow lines i r)).length ∧
        (splitAtNewlines (contextWindow lines i r)).length ≤ 2 * r + 1 ∧
        (splitAtNewlines (contextWindow lines i r))[min i r]? = some lines[i]) ∧
    ∀ (t : Tree) (p : Program) (includeComments : Bool) (limit : Nat) (files : List Location)
      (m : CodeMatch),
      m ∈ scanFiles t p includeComments limit files →
      ∃ file ∈ files, ∃ content, t.readVia? file = some content ∧ m.file = render file ∧
        0 < m.line ∧ ∃ line, (splitLines content)[m.line - 1]? = some line ∧
          (splitAtNewlines m.context)[min 2 (m.line - 1)]? = some line ∧
          Command.matchText m = String.ofList (Display.trimBlank line.toList) := by
  refine ⟨fun lines i r unbroken inside => ?_,
    fun _ _ _ _ _ _ member => scanFiles_context_holds_line member⟩
  rw [splitAtNewlines_contextWindow unbroken inside, slice_clip_stop, slice_linesAround, length_linesAround,
    linesAround_getElem?_centre, List.getElem?_eq_getElem inside]
  refine ⟨rfl, by omega, by omega, rfl⟩

/-- The last line of six, and a whole-word reference in a file with carriage returns: the window
    is cut at the end of the lines, and the table shows the reference's line without its
    indentation. -/
theorem last_line_window_and_reference_shown :
    let lines := ["a", "b", "c", "d", "e", "f"]
    let t : Tree := ⟨[["P"]], [(["P", "A.h"], "class A;\r\n  AHero* Hero;\r\n\x7d\r\n".toUTF8)]⟩
    let m : CodeMatch := ⟨"/P/A.h", 2, 10, "class A;\n  AHero* Hero;\n\x7d\n"⟩
    ((∀ l ∈ lines, '\n' ∉ l.toList) ∧ 5 < lines.length ∧
      (splitAtNewlines (contextWindow lines 5 2))[min 5 2]? = some "f") ∧
    (m ∈ scanFiles t (wordPattern "Hero") true matchLimit [["P", "A.h"]] ∧
      ∃ line, (splitAtNewlines m.context)[min 2 (m.line - 1)]? = some line ∧
        Command.matchText m = String.ofList (Display.trimBlank line.toList)) := by
  intro lines t m
  have unbroken : ∀ l ∈ lines, '\n' ∉ l.toList := by decide +kernel
  have inside : 5 < lines.length := by decide
  obtain ⟨-, -, -, centre⟩ := contextWindow_splits_into_clipped_lines.1 lines 5 2 unbroken inside
  have reported : m ∈ scanFiles t (wordPattern "Hero") true matchLimit [["P", "A.h"]] := by decide +kernel
  obtain ⟨-, -, -, -, -, -, line, -, found, shown⟩ :=
    contextWindow_splits_into_clipped_lines.2 _ _ _ _ _ m reported
  exact ⟨⟨unbroken, inside, centre⟩, reported, line, found, shown⟩

end ClassAtlas.Index
