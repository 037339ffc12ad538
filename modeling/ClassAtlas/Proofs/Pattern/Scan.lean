import ClassAtlas.Pattern.Match

/-!
Scanning a text for matches that do not overlap. `Scans read stop bound i xs` says that `xs` is
what a scan from `i` reads: the item at the first place from `i` on, up to `bound`, where `read`
gives one, and then what a scan from where that item stops reads. A start has one scan at most
(`Scans.unique`), and a scan of items read through a map is the map of a scan (`Scans.of_map`).

Collecting all matches of a program is such a scan whenever every match takes a character
(`findAll_scans`): a search tries the positions from its start in turn (`searchFrom_go_some`,
`searchFrom_go_none`), the next search starts where the match stopped, and the fuel lasts
because each match moves the start on.
-/

namespace ClassAtlas.Pattern

/-- What a scan from `i` reads: the item at the first place from `i` on, up to `bound`, where
    `read` gives one, and then what the scan from where that item stops reads. -/
inductive Scans {α : Type} (read : Nat → Option α) (stop : α → Nat) (bound : Nat) : Nat → List α → Prop
  | done {i : Nat} : (∀ j, i ≤ j → j ≤ bound → read j = none) → Scans read stop bound i []
  | next {i j : Nat} {x : α} {xs : List α} : i ≤ j → j ≤ bound → (∀ l, i ≤ l → l < j → read l = none) →
      read j = some x → Scans read stop bound (stop x) xs → Scans read stop bound i (x :: xs)

section Scans

variable {α β : Type} {read : Nat → Option α} {stop : α → Nat} {bound : Nat}

/-- A scan reads the first item from its start, so it is determined by its start. -/
theorem Scans.unique {i : Nat} {xs ys : List α} (first : Scans read stop bound i xs)
    (second : Scans read stop bound i ys) : xs = ys := by
  induction first generalizing ys with
  | done none =>
    cases second with
    | done => rfl
    | next low high _ found => simp [none _ low high] at found
  | @next i j x xs low high before found _ ih =>
    cases second with
    | done none => simp [none j low high] at found
    | @next _ j' y ys low' high' before' found' rest' =>
      -- both read at the first place from `i` that gives an item
      have same : j = j' := by
        rcases Nat.lt_trichotomy j j' with less | same | more
        · simp [before' j low less] at found
        · exact same
        · simp [before j' low' more] at found'
      subst same
      rw [found, Option.some.injEq] at found'
      subst found'
      rw [ih rest']

theorem Scans.of_map {g : α → β} {stop : β → Nat} {i : Nat} {ys : List β}
    (scanned : Scans (fun j => (read j).map g) stop bound i ys) :
    ∃ xs, Scans read (fun x => stop (g x)) bound i xs ∧ ys = xs.map g := by
  induction scanned with
  | done none => exact ⟨[], .done fun j low high => Option.map_eq_none_iff.mp (none j low high), rfl⟩
  | next low high before found _ ih =>
    obtain ⟨x, read_x, rfl⟩ := Option.map_eq_some_iff.mp found
    obtain ⟨xs, rest, rfl⟩ := ih
    exact ⟨x :: xs, .next low high (fun l low' high' => Option.map_eq_none_iff.mp (before l low' high'))
      read_x rest, rfl⟩

theorem Scans.mem_read {i : Nat} {xs : List α} (scanned : Scans read stop bound i xs) :
    ∀ x ∈ xs, ∃ j, read j = some x := by
  induction scanned with
  | done _ => exact fun x member => nomatch member
  | next _ _ _ found _ ih =>
    intro x member
    rcases List.mem_cons.mp member with rfl | later
    · exact ⟨_, found⟩
    · exact ih x later

/-- Where each item is read at its own place and stops past it, a scan reads its items at
    increasing places, none before its start. -/
theorem Scans.increasing {place : α → Nat} (placed : ∀ j x, read j = some x → place x = j ∧ j < stop x)
    {i : Nat} {xs : List α} (scanned : Scans read stop bound i xs) :
    (∀ x ∈ xs, i ≤ place x) ∧ xs.Pairwise (fun x y => place x < place y) := by
  induction scanned with
  | done _ => exact ⟨fun x member => (nomatch member), .nil⟩
  | @next i j x xs low _ _ found _ ih =>
    obtain ⟨at_j, moved⟩ := placed j x found
    refine ⟨fun y member => ?_, List.pairwise_cons.mpr ⟨fun y member => ?_, ih.2⟩⟩
    · rcases List.mem_cons.mp member with rfl | later
      · omega
      · have := ih.1 y later
        omega
    · have := ih.1 y member
      omega

/-- When no item reaches past a place where another one is read, a scan reads every item, in
    the order of their places. -/
theorem Scans.eq_filterMap (ends : ∀ j x, read j = some x → j < stop x ∧ stop x ≤ bound + 1)
    (apart : ∀ j x, read j = some x → ∀ l, j < l → l < stop x → read l = none)
    {i : Nat} {xs : List α} (scanned : Scans read stop bound i xs) :
    xs = (List.range' i (bound + 1 - i)).filterMap read := by
  induction scanned with
  | done none =>
    refine (List.filterMap_eq_nil_iff.mpr fun j member => ?_).symm
    obtain ⟨n, below, rfl⟩ := List.mem_range'.mp member
    exact none _ (by omega) (by omega)
  | @next i j x xs low high before found _ ih =>
    obtain ⟨moved, within⟩ := ends j x found
    -- the places from `i` are those before `j`, then `j`, then those the item covers, then the rest
    have front : List.range' i (j - i) ++ List.range' j (bound + 1 - j) = List.range' i (bound + 1 - i) := by
      have joined := @List.range'_append i (j - i) (bound + 1 - j) 1
      rwa [show i + 1 * (j - i) = j by omega, show j - i + (bound + 1 - j) = bound + 1 - i by omega] at joined
    have back : List.range' (j + 1) (stop x - (j + 1)) ++ List.range' (stop x) (bound + 1 - stop x) =
        List.range' (j + 1) (bound - j) := by
      have joined := @List.range'_append (j + 1) (stop x - (j + 1)) (bound + 1 - stop x) 1
      rwa [show j + 1 + 1 * (stop x - (j + 1)) = stop x by omega,
        show stop x - (j + 1) + (bound + 1 - stop x) = bound - j by omega] at joined
    have unread : (List.range' i (j - i)).filterMap read = [] := by
      refine List.filterMap_eq_nil_iff.mpr fun l member => ?_
      obtain ⟨n, below, rfl⟩ := List.mem_range'.mp member
      exact before _ (by omega) (by omega)
    have covered : (List.range' (j + 1) (stop x - (j + 1))).filterMap read = [] := by
      refine List.filterMap_eq_nil_iff.mpr fun l member => ?_
      obtain ⟨n, below, rfl⟩ := List.mem_range'.mp member
      exact apart j x found _ (by omega) (by omega)
    rw [← front, show bound + 1 - j = (bound - j) + 1 by omega, List.range'_succ, ← back,
      List.filterMap_append, unread, List.filterMap_cons, found, List.filterMap_append, covered, ih]
    rfl

end Scans

/-! ### Collecting the matches of a program -/

section FindAll

variable (p : Program) (text : Array Char)

theorem matchAt_start {i : Nat} {nonEmpty : Bool} {f : Found} (found : p.matchAt text i nonEmpty = some f) :
    f.start = i := by
  obtain ⟨r, -, rfl⟩ := Option.map_eq_some_iff.mp found
  rfl

/-- A search that finds nothing has tried every position its fuel reaches. -/
theorem searchFrom_go_none : ∀ {n i : Nat}, Program.searchFrom.go p text i false n = none →
    ∀ j, i ≤ j → j < i + n → p.matchAt text j false = none
  | 0, _, _, j, low, high => absurd high (by omega)
  | n + 1, i, missed, j, low, high => by
    rw [Program.searchFrom.go] at missed
    split at missed
    · cases missed
    · next here =>
      rcases Nat.eq_or_lt_of_le low with rfl | later
      · exact here
      · exact searchFrom_go_none missed j (by omega) (by omega)

/-- A search answers the match at the first position from its start that has one. -/
theorem searchFrom_go_some : ∀ {n i : Nat} {f : Found}, Program.searchFrom.go p text i false n = some f →
    ∃ j, i ≤ j ∧ j < i + n ∧ p.matchAt text j false = some f ∧ ∀ l, i ≤ l → l < j → p.matchAt text l false = none
  | 0, _, _, found => by cases found
  | n + 1, i, f, found => by
    rw [Program.searchFrom.go] at found
    split at found
    · next f' here =>
      cases found
      exact ⟨i, Nat.le_refl i, by omega, here, fun l low high => absurd high (by omega)⟩
    · next here =>
      obtain ⟨j, low, high, at_j, before⟩ := searchFrom_go_some found
      refine ⟨j, by omega, by omega, at_j, fun l low' high' => ?_⟩
      rcases Nat.eq_or_lt_of_le low' with rfl | later
      · exact here
      · exact before l later high'

variable {p text}

/-- With fuel enough for one match a character, collecting from `i` is the scan from `i`. -/
theorem findAll_go_scans (advances : ∀ j f, p.matchAt text j false = some f → j < f.stop) :
    ∀ (fuel i : Nat), text.size + 2 ≤ i + fuel →
      Scans (p.matchAt text · false) Found.stop text.size i (Program.findAll.go p text i false fuel)
  | 0, i, enough => .done fun j low high => absurd high (by omega)
  | fuel + 1, i, enough => by
    rw [Program.findAll.go, Program.searchFrom]
    split
    · next missed =>
      exact .done fun j low high => searchFrom_go_none p text missed j low (by omega)
    · next f found =>
      obtain ⟨j, low, high, at_j, before⟩ := searchFrom_go_some p text found
      have started := matchAt_start p text at_j
      have moved := advances j f at_j
      -- the match is not empty, so the next search may start with one at its end
      have nonEmpty : (f.stop == f.start) = false := by simp [started]; omega
      rw [nonEmpty]
      exact .next low (by omega) before at_j (findAll_go_scans advances fuel f.stop (by omega))

/-- The matches of a program that takes a character whenever it matches are the scan of its
    matches from the start of the text. -/
theorem findAll_scans (advances : ∀ j f, p.matchAt text j false = some f → j < f.stop) :
    Scans (p.matchAt text · false) Found.stop text.size 0 (p.findAll text) :=
  findAll_go_scans advances _ 0 (by omega)

end FindAll

end ClassAtlas.Pattern
