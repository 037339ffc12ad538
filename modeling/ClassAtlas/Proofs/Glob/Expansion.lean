import Mathlib.Algebra.GroupWithZero.Nat
import Mathlib.Data.List.Basic
import Mathlib.Data.List.TakeWhile
import ClassAtlas.Glob.Braces

/-!
Brace expansion, exactly. A brace group is an opening brace, text holding no brace, and a
closing brace (`HasBraceGroup`); the expansion replaces the first group by each of its options
and expands the results again. An option holds no brace, so each replacement removes one opening
brace and adds none (`openBraces_replaced`): the recursion is never deeper than the number of
opening braces, and more fuel than that changes nothing (`expandChars_fuel_stable`). Every
pattern expands to at least one pattern (`expandChars_ne_nil`), and none of them holds a group
(`expandChars_settled`).

For a pattern `s0{g1}s1…{gk}sk` written with brace-free texts (`withGroups`) the expansion is
every choice of one trimmed comma-separated option per group (`groupOptions`), the first group's
option varying slowest (`choices`), with repeats kept, so there are as many results as the
product of one more than each group's commas (`expandBraces_chooses_options`).
-/

namespace ClassAtlas.Glob

open ClassAtlas.Text

/-! ### Brace groups -/

def BraceFree (cs : List Char) : Prop := '{' ∉ cs ∧ '}' ∉ cs

instance (cs : List Char) : Decidable (BraceFree cs) := inferInstanceAs (Decidable (_ ∧ _))

/-- A text holds a brace group: an opening brace, text holding no brace, a closing brace. -/
def HasBraceGroup (cs : List Char) : Prop :=
  ∃ before inner after, cs = before ++ '{' :: (inner ++ '}' :: after) ∧ BraceFree inner

theorem firstGroup_cons_none {c : Char} {rest : List Char} (missed : firstGroup (c :: rest) = none) :
    firstGroup rest = none := by
  simp only [firstGroup] at missed
  split at missed
  · split at missed
    · cases missed
    · exact Option.map_eq_none_iff.mp missed
  · exact Option.map_eq_none_iff.mp missed

/-- The group found stands in the text between what comes before and after it. -/
theorem firstGroup_sound : ∀ {cs before inner after : List Char},
    firstGroup cs = some (before, inner, after) →
      cs = before ++ '{' :: (inner ++ '}' :: after) ∧ BraceFree inner
  | [], _, _, _, found => by simp [firstGroup] at found
  | c :: rest, before, inner, after, found => by
    simp only [firstGroup] at found
    -- the group either opens at `c` or lies in the rest, behind `c`
    have later : ∀ {b : List Char}, (firstGroup rest).map (fun x => (c :: x.1, x.2.1, x.2.2)) =
        some (b, inner, after) → c :: rest = b ++ '{' :: (inner ++ '}' :: after) ∧ BraceFree inner := by
      intro b shifted
      obtain ⟨⟨b', g, a⟩, found', same⟩ := Option.map_eq_some_iff.mp shifted
      simp only [Prod.mk.injEq] at same
      obtain ⟨rfl, rfl, rfl⟩ := same
      obtain ⟨whole, free⟩ := firstGroup_sound found'
      exact ⟨by rw [whole]; rfl, free⟩
    split at found
    · next opens =>
      split at found
      · next closing closes =>
        simp only [Option.some.injEq, Prod.mk.injEq] at found
        obtain ⟨rfl, rfl, rfl⟩ := found
        obtain ⟨tail, whole⟩ := (List.takeWhile_prefix (fun d => d != '{' && d != '}') :
          rest.takeWhile (fun d => d != '{' && d != '}') <+: rest)
        have dropped : rest.drop (rest.takeWhile fun d => d != '{' && d != '}').length = tail :=
          calc rest.drop (rest.takeWhile fun d => d != '{' && d != '}').length
              = ((rest.takeWhile fun d => d != '{' && d != '}') ++ tail).drop
                  (rest.takeWhile fun d => d != '{' && d != '}').length := by rw [whole]
            _ = tail := List.drop_left
        rw [dropped] at closes
        subst closes
        refine ⟨by rw [opens, List.nil_append, whole], ?_, ?_⟩
        · intro member
          simpa using List.mem_takeWhile_imp member
        · intro member
          simpa using List.mem_takeWhile_imp member
      · exact later found
    · exact later found

theorem firstGroup_of_open_free {inner after : List Char} (free : BraceFree inner) :
    ∀ {before : List Char}, '{' ∉ before →
      firstGroup (before ++ '{' :: (inner ++ '}' :: after)) = some (before, inner, after)
  | [], _ => by
    have kept : (inner ++ '}' :: after).takeWhile (fun d => d != '{' && d != '}') = inner := by
      rw [List.takeWhile_append_of_pos]
      · simp
      · intro d member
        have : d ≠ '{' ∧ d ≠ '}' := ⟨fun same => free.1 (same ▸ member), fun same => free.2 (same ▸ member)⟩
        simpa using this
    simp [firstGroup, kept]
  | c :: before, clear => by
    have other : c ≠ '{' := fun same => clear (same ▸ List.mem_cons_self)
    have rest : '{' ∉ before := fun member => clear (List.mem_cons_of_mem c member)
    simp [firstGroup, other, firstGroup_of_open_free free rest]

/-- No group is found exactly when the text holds none. -/
theorem firstGroup_eq_none_iff (cs : List Char) : firstGroup cs = none ↔ ¬ HasBraceGroup cs := by
  constructor
  · intro missed ⟨before, inner, after, whole, free⟩
    induction before generalizing cs with
    | nil =>
      subst whole
      rw [firstGroup_of_open_free free (by simp)] at missed
      cases missed
    | cons c before ih =>
      subst whole
      exact ih _ (firstGroup_cons_none missed) rfl
  · intro none_held
    cases found : firstGroup cs with
    | none => rfl
    | some parts =>
      obtain ⟨before, inner, after⟩ := parts
      obtain ⟨whole, free⟩ := firstGroup_sound found
      exact absurd ⟨before, inner, after, whole, free⟩ none_held

theorem splitCommas_eq_splitOn : ∀ cs : List Char, splitCommas cs = cs.splitOn ','
  | [] => rfl
  | c :: rest => by
    obtain ⟨first, others, split⟩ := List.exists_cons_of_ne_nil (List.splitOn_ne_nil ',' rest)
    rw [splitCommas, splitCommas_eq_splitOn rest, split, List.splitOn_cons_eq_if_modifyHead, split]
    by_cases comma : c = ','
    · simp [comma]
    · simp [comma]

theorem splitCommas_ne_nil (cs : List Char) : splitCommas cs ≠ [] := by
  rw [splitCommas_eq_splitOn]
  exact List.splitOn_ne_nil ',' cs

/-- A group has one option more than it has commas. -/
theorem splitCommas_length : ∀ cs : List Char, (splitCommas cs).length = cs.count ',' + 1
  | [] => rfl
  | c :: rest => by
    obtain ⟨first, others, split⟩ := List.exists_cons_of_ne_nil (splitCommas_ne_nil rest)
    have counted := splitCommas_length rest
    rw [split] at counted
    by_cases comma : c = ','
    · simp [splitCommas, split, comma, counted]
    · simp only [List.length_cons] at counted
      simp [splitCommas, split, comma]
      omega

theorem mem_of_mem_splitCommas {x : Char} : ∀ {cs piece : List Char}, piece ∈ splitCommas cs →
    x ∈ piece → x ∈ cs
  | [], piece, listed, member => by simp [splitCommas] at listed; simp [listed] at member
  | c :: rest, piece, listed, member => by
    obtain ⟨first, others, split⟩ := List.exists_cons_of_ne_nil (splitCommas_ne_nil rest)
    have earlier : ∀ {p}, p ∈ first :: others → x ∈ p → x ∈ rest :=
      fun listed' member' => mem_of_mem_splitCommas (split ▸ listed') member'
    simp only [splitCommas, split] at listed
    split at listed
    · rcases List.mem_cons.mp listed with rfl | listed
      · cases member
      · exact List.mem_cons_of_mem c (earlier listed member)
    · rcases List.mem_cons.mp listed with rfl | listed
      · rcases List.mem_cons.mp member with rfl | member
        · exact List.mem_cons_self
        · exact List.mem_cons_of_mem c (earlier List.mem_cons_self member)
      · exact List.mem_cons_of_mem c (earlier (List.mem_cons_of_mem first listed) member)

theorem mem_of_mem_trimBlanks {x : Char} {s : String} (member : x ∈ (trimBlanks s).toList) :
    x ∈ s.toList := by
  simp only [trimBlanks, String.toList_ofList, List.mem_reverse] at member
  exact (List.dropWhile_sublist _).subset (List.mem_reverse.mp ((List.dropWhile_sublist _).subset member))

def optionChars (piece : List Char) : List Char := (trimBlanks (String.ofList piece)).toList

theorem optionChars_free {g piece : List Char} (free : BraceFree g) (listed : piece ∈ splitCommas g) :
    BraceFree (optionChars piece) := by
  have within : ∀ x, x ∈ optionChars piece → x ∈ g := fun x member =>
    mem_of_mem_splitCommas listed (by simpa using mem_of_mem_trimBlanks member)
  exact ⟨fun member => free.1 (within _ member), fun member => free.2 (within _ member)⟩

theorem openBraces_replaced {cs before inner after option : List Char}
    (found : firstGroup cs = some (before, inner, after)) (clear : '{' ∉ option) :
    openBraces (before ++ option ++ after) + 1 = openBraces cs := by
  obtain ⟨whole, free⟩ := firstGroup_sound found
  have none_in : ∀ {xs : List Char}, '{' ∉ xs → openBraces xs = 0 := List.count_eq_zero.mpr
  subst whole
  simp only [openBraces] at *
  simp [none_in clear, none_in free.1]
  omega

theorem openBraces_eq_zero_firstGroup {cs : List Char} (closed : openBraces cs = 0) :
    firstGroup cs = none := by
  cases found : firstGroup cs with
  | none => rfl
  | some parts =>
    obtain ⟨before, inner, after⟩ := parts
    have := openBraces_replaced found (show '{' ∉ ([] : List Char) by simp)
    omega

theorem expandChars_found {cs before inner after : List Char} (n : Nat)
    (found : firstGroup cs = some (before, inner, after)) :
    expandChars (n + 1) cs =
      (splitCommas inner).flatMap fun piece => expandChars n (before ++ optionChars piece ++ after) := by
  simp [expandChars, found, optionChars]

theorem expandChars_settled_eq {cs : List Char} (n : Nat) (missed : firstGroup cs = none) :
    expandChars n cs = [cs] := by
  cases n <;> simp [expandChars, missed]

/-! ### Termination and the shape of the results -/

/-- Fuel beyond the number of opening braces changes nothing. -/
theorem expandChars_fuel_stable (extra : Nat) :
    ∀ (n : Nat) (cs : List Char), openBraces cs = n → expandChars (n + extra) cs = expandChars n cs
  | 0, cs, closed => by
    rw [expandChars_settled_eq _ (openBraces_eq_zero_firstGroup closed),
      expandChars_settled_eq _ (openBraces_eq_zero_firstGroup closed)]
  | n + 1, cs, counted => by
    cases found : firstGroup cs with
    | none => rw [expandChars_settled_eq _ found, expandChars_settled_eq _ found]
    | some parts =>
      obtain ⟨before, inner, after⟩ := parts
      have free := (firstGroup_sound found).2
      rw [show n + 1 + extra = n + extra + 1 by omega, expandChars_found _ found, expandChars_found _ found]
      apply List.flatMap_congr
      intro piece listed
      exact expandChars_fuel_stable extra n _
        (by have := openBraces_replaced found (optionChars_free free listed).1; omega)

theorem expandChars_ne_nil : ∀ (n : Nat) (cs : List Char), expandChars n cs ≠ []
  | 0, cs => by simp [expandChars]
  | n + 1, cs => by
    cases found : firstGroup cs with
    | none => simp [expandChars_settled_eq _ found]
    | some parts =>
      obtain ⟨before, inner, after⟩ := parts
      rw [expandChars_found _ found]
      obtain ⟨piece, listed⟩ := List.exists_mem_of_ne_nil _ (splitCommas_ne_nil inner)
      intro empty
      exact expandChars_ne_nil n _ (List.flatMap_eq_nil_iff.mp empty piece listed)

/-- With fuel for every opening brace, no result holds a group. -/
theorem expandChars_settled : ∀ (n : Nat) (cs : List Char), openBraces cs ≤ n →
    ∀ r ∈ expandChars n cs, ¬ HasBraceGroup r
  | n, cs, enough, r, member => by
    cases found : firstGroup cs with
    | none =>
      rw [expandChars_settled_eq _ found, List.mem_singleton] at member
      subst member
      exact (firstGroup_eq_none_iff _).mp found
    | some parts =>
      obtain ⟨before, inner, after⟩ := parts
      have free := (firstGroup_sound found).2
      -- a group is found, so there is a brace to spend fuel on
      obtain ⟨m, rfl⟩ : ∃ m, n = m + 1 := ⟨n - 1, by
        have := openBraces_replaced found (show '{' ∉ ([] : List Char) by simp); omega⟩
      rw [expandChars_found _ found, List.mem_flatMap] at member
      obtain ⟨piece, listed, member⟩ := member
      exact expandChars_settled m _
        (by have := openBraces_replaced found (optionChars_free free listed).1; omega) r member

/-- Every choice of one item from each list, in order: the first list's item varies slowest. -/
def choices {α : Type} : List (List α) → List (List α)
  | [] => [[]]
  | items :: rest => items.flatMap fun x => (choices rest).map (x :: ·)

theorem choices_length {α : Type} : ∀ lists : List (List α),
    (choices lists).length = (lists.map List.length).prod
  | [] => rfl
  | items :: rest => by
    simp [choices, List.length_flatMap, choices_length rest, List.map_const']

theorem choices_map {α β : Type} (f : α → β) : ∀ lists : List (List α),
    choices (lists.map (List.map f)) = (choices lists).map (List.map f)
  | [] => rfl
  | items :: rest => by
    simp [choices, choices_map f rest, List.map_flatMap, List.flatMap_map, Function.comp_def]

/-- The characters of a pattern `s0{g1}s1…{gk}sk`. -/
def groupsChars (s0 : List Char) (parts : List (List Char × List Char)) : List Char :=
  s0 ++ (parts.map fun gs => '{' :: gs.1 ++ '}' :: gs.2).flatten

/-- The characters of each choice of options put back between the texts. -/
def filledChars (s0 : List Char) (texts : List (List Char)) (options : List (List Char)) : List Char :=
  s0 ++ (List.zipWith (· ++ ·) options texts).flatten

theorem openBraces_groupsChars {s0 : List Char} {parts : List (List Char × List Char)}
    (plain : '{' ∉ s0) (free : ∀ gs ∈ parts, BraceFree gs.1 ∧ BraceFree gs.2) :
    openBraces (groupsChars s0 parts) = parts.length := by
  induction parts generalizing s0 with
  | nil => simp [groupsChars, openBraces, List.count_eq_zero_of_not_mem plain]
  | cons gs parts ih =>
    have here := free gs List.mem_cons_self
    have rest := ih here.2.1 fun gs' member => free gs' (List.mem_cons_of_mem gs member)
    have split : groupsChars s0 (gs :: parts) = s0 ++ '{' :: (gs.1 ++ '}' :: groupsChars gs.2 parts) := by
      simp [groupsChars]
    rw [split]
    simp only [openBraces] at rest ⊢
    simp [List.count_append, List.count_eq_zero_of_not_mem plain, List.count_eq_zero_of_not_mem here.1.1,
      rest]

/-- A pattern written with brace-free texts and groups expands to each choice of options. -/
theorem expandChars_groupsChars {parts : List (List Char × List Char)}
    (free : ∀ gs ∈ parts, BraceFree gs.1 ∧ BraceFree gs.2) :
    ∀ {s0 : List Char}, BraceFree s0 →
      expandChars parts.length (groupsChars s0 parts) =
        (choices (parts.map fun gs => (splitCommas gs.1).map optionChars)).map
          (filledChars s0 (parts.map Prod.snd)) := by
  induction parts with
  | nil =>
    intro s0 plain
    simp [expandChars, groupsChars, filledChars, choices]
  | cons gs parts ih =>
    intro s0 plain
    have here := free gs List.mem_cons_self
    have later := fun gs' member => free gs' (List.mem_cons_of_mem gs member)
    have found : firstGroup (groupsChars s0 (gs :: parts)) =
        some (s0, gs.1, gs.2 ++ (parts.map fun gs => '{' :: gs.1 ++ '}' :: gs.2).flatten) := by
      rw [← firstGroup_of_open_free here.1 plain.1]
      simp [groupsChars]
    rw [List.length_cons, expandChars_found _ found]
    simp only [List.map_cons, choices, List.map_flatMap, List.flatMap_map]
    apply List.flatMap_congr
    intro piece listed
    -- the chosen option joins the texts around it into the first text of a shorter pattern
    have joined : s0 ++ optionChars piece ++
        (gs.2 ++ (parts.map fun gs => '{' :: gs.1 ++ '}' :: gs.2).flatten) =
          groupsChars (s0 ++ optionChars piece ++ gs.2) parts := by
      simp [groupsChars]
    have option := optionChars_free here.1 listed
    rw [joined, ih later ⟨by simp [plain.1, option.1, here.2.1], by simp [plain.2, option.2, here.2.2]⟩]
    simp [filledChars, Function.comp_def]

/-! ### Expanding text -/

/-- A pattern written `s0{g1}s1…{gk}sk`. -/
def withGroups (s0 : String) (parts : List (String × String)) : String :=
  s0 ++ String.join (parts.map fun gs => "\x7b" ++ gs.1 ++ "\x7d" ++ gs.2)

/-- The options of a group: its comma-separated pieces, trimmed. -/
def groupOptions (g : String) : List String :=
  (g.toList.splitOn ',').map fun piece => trimBlanks (String.ofList piece)

theorem withGroups_toList (s0 : String) (parts : List (String × String)) :
    (withGroups s0 parts).toList = groupsChars s0.toList (parts.map fun gs => (gs.1.toList, gs.2.toList)) := by
  simp [withGroups, groupsChars, String.toList_join, List.flatMap_def, Function.comp_def]

/-- A text `s0{g1}s1…{gk}sk` with no brace in the `si` or `gi` expands to one text for each
    choice of options, in the order `choices` lists them. -/
theorem expandBraces_withGroups {s0 : String} {parts : List (String × String)} (plain : BraceFree s0.toList)
    (free : ∀ gs ∈ parts, BraceFree gs.1.toList ∧ BraceFree gs.2.toList) :
    expandBraces (withGroups s0 parts) = (choices (parts.map fun gs => groupOptions gs.1)).map
      (fun options => s0 ++ String.join (List.zipWith (· ++ ·) options (parts.map Prod.snd))) := by
  have charsFree : ∀ gs ∈ parts.map fun gs => (gs.1.toList, gs.2.toList), BraceFree gs.1 ∧ BraceFree gs.2 := by
    intro gs member
    obtain ⟨gs', member', rfl⟩ := List.mem_map.mp member
    exact free gs' member'
  have expanded := expandChars_groupsChars charsFree plain
  rw [← openBraces_groupsChars plain.1 charsFree, ← withGroups_toList] at expanded
  rw [expandBraces, expanded]
  have options : (parts.map fun gs => (gs.1.toList, gs.2.toList)).map
        (fun gs => (splitCommas gs.1).map optionChars) =
      (parts.map fun gs => groupOptions gs.1).map (List.map String.toList) := by
    simp [groupOptions, splitCommas_eq_splitOn, optionChars, Function.comp_def]
  rw [options, choices_map, List.map_map, List.map_map]
  apply List.map_congr_left
  intro chosen _
  apply String.toList_inj.mp
  simp [filledChars, String.toList_join, List.map_zipWith, List.flatMap_def, List.zipWith_map_left,
    List.zipWith_map_right, Function.comp_def]

/-- Brace expansion of any text: the recursion ends within one level per opening brace, the
    result is never empty and holds no brace group; and a text `s0{g1}s1…{gk}sk` with no brace in
    the `si` or `gi` expands to `s0 o1 s1 … ok sk` for every choice of options `oi` of `gi`, the
    first varying slowest, repeats kept, as many as the product of one more than the commas of
    each `gi`. -/
theorem expandBraces_chooses_options (p : String) :
    (∀ extra, expandChars (openBraces p.toList + extra) p.toList =
      expandChars (openBraces p.toList) p.toList) ∧
    expandBraces p ≠ [] ∧
    (∀ r ∈ expandBraces p, ¬ HasBraceGroup r.toList) ∧
    ∀ (s0 : String) (parts : List (String × String)), p = withGroups s0 parts →
      BraceFree s0.toList → (∀ gs ∈ parts, BraceFree gs.1.toList ∧ BraceFree gs.2.toList) →
      expandBraces p = (choices (parts.map fun gs => groupOptions gs.1)).map
          (fun options => s0 ++ String.join (List.zipWith (· ++ ·) options (parts.map Prod.snd))) ∧
        (expandBraces p).length = (parts.map fun gs => gs.1.toList.count ',' + 1).prod := by
  refine ⟨fun extra => expandChars_fuel_stable extra _ _ rfl, ?_, ?_, ?_⟩
  · simpa [expandBraces] using expandChars_ne_nil _ _
  · intro r member
    simp only [expandBraces, List.mem_map] at member
    obtain ⟨chars, member, rfl⟩ := member
    simpa using expandChars_settled _ _ (Nat.le_refl _) chars member
  · intro s0 parts written plain free
    subst written
    have listed := expandBraces_withGroups plain free
    refine ⟨listed, ?_⟩
    rw [listed, List.length_map, choices_length, List.map_map]
    congr 1
    apply List.map_congr_left
    intro gs _
    simp [groupOptions, ← splitCommas_eq_splitOn, splitCommas_length]

/-- A file pattern asking for headers and sources. -/
theorem headers_and_sources_expanded :
    expandBraces "*.\x7bh, cpp\x7d" = ["*.h", "*.cpp"] ∧ (expandBraces "*.\x7bh, cpp\x7d").length = 2 := by
  have chosen := (expandBraces_chooses_options "*.\x7bh, cpp\x7d").2.2.2 "*." [("h, cpp", "")] rfl
    (by decide) (by decide)
  exact ⟨chosen.1.trans (by decide +kernel), chosen.2⟩

end ClassAtlas.Glob
