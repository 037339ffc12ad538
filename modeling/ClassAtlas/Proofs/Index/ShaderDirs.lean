import ClassAtlas.Proofs.Index.TextSearch

/-!
Why searching the engine's shader directories as well changes no search. A listing reads its
pattern as steps that start by going down any number of directories, so from a directory below
the root of a listing, reached by plain names, it goes down only to directories the root goes
down to (`Tree.dirsBelow_mono`), selects paths the root selects, and keeps them alike, since the
names between the two hold no build output (`Tree.keeps_deeper`). In a tree, whose directories
sit in directories (`Tree.Closed`, kept by every change of the file system), the root is then a
directory whenever the deeper one is, so it lists every file the deeper one lists
(`Tree.listFiles_deeper`), and the same way refuses a pattern first.

The shader directories are searched after the engine root, so each file they list was reached
already: the files searched, and every search, are those without them
(`searchedFilesWith_shaders`, `searchText_ignores_shader_dirs`).
-/

namespace ClassAtlas.Files

open ClassAtlas.Index ClassAtlas.Glob

/-! ### Paths written without stepping back -/

theorem normalize_append (base xs ys : List String) :
    normalize base (xs ++ ys) = normalize (normalize base xs) ys := by
  induction xs generalizing base with
  | nil => rfl
  | cons c rest ih =>
    by_cases up : c = ".."
    · subst up
      rw [List.cons_append, normalize, normalize, ih]
    · rw [List.cons_append, normalize.eq_3 _ _ _ up, normalize.eq_3 _ _ _ up, ih]

theorem normalize_plain {base xs : List String} (plain : ".." ∉ xs) : normalize base xs = base ++ xs := by
  induction xs generalizing base with
  | nil => simp [normalize]
  | cons c rest ih =>
    have up : c ≠ ".." := fun same => plain (same ▸ List.mem_cons_self)
    rw [normalize.eq_3 _ _ _ up, ih (fun member => plain (List.mem_cons_of_mem c member))]
    simp

theorem normalize_no_up {base : List String} (plain : ".." ∉ base) (xs : List String) : ".." ∉ normalize base xs := by
  induction xs generalizing base with
  | nil => simpa [normalize]
  | cons c rest ih =>
    by_cases up : c = ".."
    · subst up
      exact ih (fun member => plain (List.mem_of_mem_dropLast member))
    · rw [normalize.eq_3 _ _ _ up]
      refine ih fun member => ?_
      rcases List.mem_append.mp member with old | new
      · exact plain old
      · exact up (List.mem_singleton.mp new).symm

theorem Tree.walk_plain_prefix {t : Tree} {xs ys : List String} (plain : ".." ∉ xs) (more : ys ≠ []) :
    ∀ {cur : Location} {l : Location}, t.walk cur (xs ++ ys) = some l → t.walk cur xs = some (cur ++ xs) := by
  induction xs with
  | nil => intro cur l _; simp [Tree.walk]
  | cons c rest ih =>
    intro cur l walked
    have up : c ≠ ".." := fun same => plain (same ▸ List.mem_cons_self)
    have later : (rest ++ ys).isEmpty = false := by simp [more]
    rw [List.cons_append, Tree.walk.eq_3 _ _ _ _ up, later] at walked
    simp only [Bool.false_eq_true, if_false] at walked
    split at walked
    · next dir =>
      have inner := ih (fun member => plain (List.mem_cons_of_mem c member)) walked
      rw [Tree.walk.eq_3 _ _ _ _ up]
      by_cases last : rest = []
      · subst last; simp
      · simp [last, dir, inner]
    · cases walked

/-- The directories of a tree form a tree: every directory sits in directories. -/
def Tree.Closed (t : Tree) : Prop := ∀ l ∈ t.dirs, ∀ n < l.length, 0 < n → l.take n ∈ t.dirs

instance (t : Tree) : Decidable t.Closed :=
  inferInstanceAs (Decidable (∀ l ∈ t.dirs, ∀ n < l.length, 0 < n → l.take n ∈ t.dirs))

theorem Tree.Closed.empty : Tree.empty.Closed := fun _ member => by cases member

theorem mem_ancestry {l a : Location} : a ∈ Tree.ancestry l ↔ ∃ n < l.length, a = l.take (n + 1) := by
  simp [Tree.ancestry, eq_comm]

/-- Making the directories on the way to a location keeps a tree a tree. -/
theorem Tree.Closed.makeDirs {t : Tree} (closed : t.Closed) (l : Location) : (t.makeDirs l).Closed := by
  have members (a : Location) : a ∈ (t.makeDirs l).dirs ↔ a ∈ t.dirs ∨ a ∈ Tree.ancestry l := by
    simp only [Tree.makeDirs, List.mem_append, List.mem_filter]
    constructor
    · rintro (old | ⟨new, -⟩)
      · exact .inl old
      · exact .inr new
    · rintro (old | new)
      · exact .inl old
      · by_cases seen : a ∈ t.dirs
        · exact .inl seen
        · exact .inr ⟨new, by simpa using seen⟩
  intro a held n shorter positive
  rcases (members a).mp held with old | new
  · exact (members _).mpr (.inl (closed a old n shorter positive))
  · -- a prefix of a location's prefix is again one of its prefixes
    obtain ⟨k, inside, rfl⟩ := mem_ancestry.mp new
    have within : n ≤ k + 1 := by simp at shorter; omega
    refine (members _).mpr (.inr (mem_ancestry.mpr ⟨n - 1, by omega, ?_⟩))
    rw [List.take_take, Nat.min_eq_left within, Nat.sub_add_cancel positive]

theorem Tree.Closed.write {t : Tree} (closed : t.Closed) (l : Location) (bytes : ByteArray) :
    (t.write l bytes).Closed :=
  closed.makeDirs l.dropLast

theorem Tree.Closed.remove {t : Tree} (closed : t.Closed) (l : Location) : (t.remove l).Closed :=
  closed

theorem Tree.Closed.isDirAt_of_append {t : Tree} (closed : t.Closed) {base more : Location}
    (dir : t.isDirAt (base ++ more) = true) : t.isDirAt base = true := by
  by_cases top : base = []
  · simp [Tree.isDirAt, top]
  by_cases same : more = []
  · simpa [same] using dir
  have held : base ++ more ∈ t.dirs := by simpa [Tree.isDirAt, top] using dir
  have shorter : base.length < (base ++ more).length := by simp [List.length_pos_of_ne_nil same]
  have inside := closed _ held base.length shorter (List.length_pos_of_ne_nil top)
  rw [List.take_left] at inside
  simp [Tree.isDirAt, inside]

/-! ### Listing from a deeper directory -/

/-- Every path a pattern selects from a directory lies under it. -/
theorem Tree.select_extends (t : Tree) (steps : List Step) (path : List String) :
    ∀ q ∈ t.select steps path, path <+: q := by
  induction steps generalizing path with
  | nil => simp [Tree.select]
  | cons step rest ih =>
    intro q member
    cases step with
    | anyDepth =>
      simp only [Tree.select, List.mem_flatMap] at member
      obtain ⟨d, below, selected⟩ := member
      refine List.IsPrefix.trans ?_ (ih d q selected)
      unfold Tree.dirsBelow at below
      split at below
      · cases below
      · rcases List.mem_cons.mp below with rfl | deeper
        · exact List.prefix_refl _
        · obtain ⟨l, -, found⟩ := List.mem_filterMap.mp deeper
          split at found
          · cases found; exact List.prefix_append _ _
          · cases found
    | exact name =>
      simp only [Tree.select] at member
      -- the name is taken only when it leads somewhere
      have inside : q ∈ t.select rest (path ++ [name]) := by
        by_cases go : (if rest.isEmpty then t.existsVia (path ++ [name]) else t.isDirVia (path ++ [name])) = true
        · rwa [if_pos go] at member
        · rw [if_neg go] at member
          cases member
      exact (List.prefix_append _ _).trans (ih _ q inside)
    | matching p =>
      simp only [Tree.select] at member
      split at member
      · cases member
      · obtain ⟨entry, -, selected⟩ := List.mem_flatMap.mp member
        split at selected
        · exact (List.prefix_append _ _).trans (ih _ q selected)
        · cases selected
    | stop =>
      simp only [Tree.select, List.mem_singleton] at member
      subst member
      exact List.prefix_refl _

/-- A directory below a plain directory is below every directory on the way to it. -/
theorem Tree.dirsBelow_mono {t : Tree} {base more : List String} (plain : ".." ∉ base ++ more)
    (deeper : more ≠ []) (dir : t.isDirAt (base ++ more) = true) :
    ∀ x ∈ t.dirsBelow (base ++ more), x ∈ t.dirsBelow base := by
  intro x member
  unfold Tree.dirsBelow at member
  split at member
  · cases member
  · next here walked =>
    have atPath : here = base ++ more := by
      rw [Tree.walk_eq_normalize walked, normalize_plain plain, List.nil_append]
    subst atPath
    have through : t.walk [] base = some base :=
      Tree.walk_plain_prefix (fun member => plain (List.mem_append_left more member)) deeper walked
    have held : base ++ more ∈ t.dirs := by
      simpa [Tree.isDirAt, deeper] using dir
    have longer : base.length < (base ++ more).length := by
      simp [List.length_pos_of_ne_nil deeper]
    -- every directory reached from the deeper path is one reached from `base`
    have reached (l : Location) (inTree : l ∈ t.dirs) (longerL : base.length < l.length)
        (under : base <+: l) : l ∈ t.dirsBelow base := by
      unfold Tree.dirsBelow
      rw [through]
      refine List.mem_cons_of_mem _ (List.mem_filterMap.mpr ⟨l, inTree, ?_⟩)
      simp [longerL, ← List.prefix_iff_eq_take.mp under, List.prefix_iff_eq_append.mp under]
    rcases List.mem_cons.mp member with rfl | lower
    · exact reached _ held longer (List.prefix_append _ _)
    · obtain ⟨l, inTree, found⟩ := List.mem_filterMap.mp lower
      split at found
      · next below =>
        cases found
        simp only [Bool.and_eq_true, decide_eq_true_eq, beq_iff_eq] at below
        have under : base ++ more <+: l := List.prefix_iff_eq_take.mpr below.2.symm
        rw [List.prefix_iff_eq_append.mp under]
        exact reached l inTree (longer.trans below.1) ((List.prefix_append _ _).trans under)
      · cases found

theorem stepsOf_anyDepth {sub : String} {steps : List Step} (read : stepsOf sub = .ok steps) :
    ∃ rest, steps = .anyDepth :: rest := by
  unfold stepsOf at read
  split at read
  · cases read
  · rw [List.mapM_cons] at read
    obtain ⟨first, going, later⟩ := except_bind_eq_ok read
    obtain ⟨rest, -, done⟩ := except_bind_eq_ok later
    cases done
    have down : stepOf "**" = .ok .anyDepth := rfl
    rw [down] at going
    cases going
    exact ⟨rest, rfl⟩

theorem Tree.keeps_deeper (t : Tree) {base more q : List String} (clean : buildOutputDir ∉ more)
    (under : base ++ more <+: q) (excludeGenerated : Bool) :
    t.keeps (base ++ more) excludeGenerated q = t.keeps base excludeGenerated q := by
  obtain ⟨r, rfl⟩ := under
  simp [Tree.keeps, relativeTo, List.append_assoc, clean]

theorem forIn_accumulate {ε α β γ : Type} (f : α → Except ε β) (g : β → List γ)
    {body : α → List γ → Except ε (ForInStep (List γ))}
    (step : ∀ x acc, body x acc = f x >>= fun b => pure (.yield (acc ++ g b))) (xs : List α) (acc : List γ) :
    forIn xs acc body = (xs.mapM f).map fun bs => acc ++ bs.flatMap g := by
  induction xs generalizing acc with
  | nil => simp [Except.map, pure, Except.pure]
  | cons x rest ih =>
    rw [List.forIn_cons, step, List.mapM_cons]
    cases f x with
    | error e => rfl
    | ok b =>
      show forIn rest (acc ++ g b) body = _
      rw [ih]
      cases rest.mapM f with
      | error e => rfl
      | ok bs => simp [Except.map, bind, Except.bind, pure, Except.pure]

/-- A listing: nothing when the base is no directory; else the paths each sub-pattern selects
    and keeps, once each and sorted, or the first sub-pattern refused. -/
theorem Tree.listFiles_eq (t : Tree) (root : Location) (pattern : String) (excludeGenerated : Bool) :
    t.listFiles root pattern excludeGenerated =
      if t.isDirAt (normalize [] root) then
        ((expandBraces pattern).mapM stepsOf).map fun stepss =>
          (stepss.flatMap fun steps => (t.select steps (normalize [] root)).filter
            (t.keeps (normalize [] root) excludeGenerated)).eraseDups.mergeSort fun a b => !Location.before b a
      else .ok [] := by
  unfold Tree.listFiles
  by_cases dir : t.isDirAt (normalize [] root)
  · simp only [dir, Bool.not_true, Bool.false_eq_true, if_false, if_true]
    rw [forIn_accumulate stepsOf _ (fun _ _ => rfl)]
    cases (expandBraces pattern).mapM stepsOf <;> rfl
  · simp [dir]; rfl

/-- A directory below the root of a listing, reached by plain names that hold no build output,
    lists only files the root lists: each path it selects, the root selects too, and keeps alike. -/
theorem Tree.listFiles_deeper {t : Tree} (closed : t.Closed) {root more : Location} (plain : ".." ∉ more)
    (deeper : more ≠ []) (clean : buildOutputDir ∉ more) (pattern : String) {shallow : List (List String)}
    (listed : t.listFiles root pattern false = .ok shallow) :
    ∃ found, t.listFiles (root ++ more) pattern false = .ok found ∧ ∀ x ∈ found, x ∈ shallow := by
  have based : normalize [] (root ++ more) = normalize [] root ++ more := by
    rw [normalize_append, normalize_plain plain]
  rw [Tree.listFiles_eq, based]
  rw [Tree.listFiles_eq] at listed
  by_cases dir : t.isDirAt (normalize [] root ++ more)
  · rw [if_pos (closed.isDirAt_of_append dir)] at listed
    rw [if_pos dir]
    cases read : (expandBraces pattern).mapM stepsOf with
    | error e =>
      rw [read] at listed
      cases listed
    | ok stepss =>
      rw [read] at listed
      simp only [Except.map, Except.ok.injEq] at listed
      subst listed
      refine ⟨_, rfl, fun x member => ?_⟩
      simp only [List.mem_mergeSort, List.mem_eraseDups, List.mem_flatMap, List.mem_filter] at member ⊢
      obtain ⟨steps, inSteps, selected, kept⟩ := member
      obtain ⟨sub, -, readSub⟩ := mapM_ok_mem read inSteps
      obtain ⟨rest, rfl⟩ := stepsOf_anyDepth readSub
      have plainBase : ".." ∉ normalize [] root ++ more := by
        simp only [List.mem_append, not_or]
        exact ⟨normalize_no_up (List.not_mem_nil) root, plain⟩
      refine ⟨_, inSteps, ?_, ?_⟩
      · -- the root goes down to every directory the deeper directory goes down to
        simp only [Tree.select, List.mem_flatMap] at selected ⊢
        obtain ⟨d, below, inner⟩ := selected
        exact ⟨d, Tree.dirsBelow_mono plainBase deeper dir d below, inner⟩
      · rw [← Tree.keeps_deeper t clean (Tree.select_extends t _ _ x selected) false]
        exact kept
  · rw [if_neg dir]
    exact ⟨[], rfl, fun x member => by cases member⟩

end ClassAtlas.Files

namespace ClassAtlas.Index

open ClassAtlas.Files ClassAtlas.Pattern

/-- The files searched under the text roots, with the engine's shader directories or without
    them: listed root by root in order, each resolved location once; or the first refusal. -/
def searchedFilesWith (t : Tree) (roots : Roots) (filePattern : String) (withShaders : Bool) :
    Except Failure (List Location) := do
  let r ← roots.require
  let listings ← (r.textSearchRoots t withShaders).mapM fun root => t.listFiles root filePattern false
  pure (reached listings)

theorem searchedFiles_eq_with (t : Tree) (roots : Roots) (filePattern : String) :
    searchedFiles t roots filePattern = searchedFilesWith t roots filePattern (Glob.isShaderPattern filePattern) :=
  rfl

theorem reached_append_covered {front back : List (List (List String))}
    (covered : ∀ x ∈ back.flatten, x ∈ front.flatten) : reached (front ++ back) = reached front := by
  unfold reached
  rw [List.flatten_append, List.map_append, List.eraseDups_append]
  have gone : (back.flatten.map (normalize [])).removeAll (front.flatten.map (normalize [])) = [] := by
    refine List.filter_eq_nil_iff.mpr fun y member => ?_
    obtain ⟨x, inBack, rfl⟩ := List.mem_map.mp member
    simpa using List.mem_map_of_mem (covered x inBack)
  rw [gone]
  simp

theorem mapM_ok_of_forall {ε α β : Type} {f : α → Except ε β} {P : β → Prop} :
    ∀ {xs : List α}, (∀ x ∈ xs, ∃ y, f x = .ok y ∧ P y) → ∃ ys, xs.mapM f = .ok ys ∧ ∀ y ∈ ys, P y
  | [], _ => ⟨[], rfl, fun _ member => by cases member⟩
  | x :: rest, each => by
    obtain ⟨y, found, holds⟩ := each x List.mem_cons_self
    obtain ⟨ys, later, hold⟩ := mapM_ok_of_forall fun x' member => each x' (List.mem_cons_of_mem x member)
    refine ⟨y :: ys, by simp [List.mapM_cons, found, later, bind, Except.bind, pure, Except.pure], ?_⟩
    rintro y' (_ | ⟨_, member⟩)
    · exact holds
    · exact hold y' member

theorem mapM_ok_of_mem {ε α β : Type} {f : α → Except ε β} {xs : List α} {ys : List β}
    (ok : xs.mapM f = .ok ys) {x : α} (member : x ∈ xs) : ∃ y, y ∈ ys ∧ f x = .ok y := by
  induction xs generalizing ys with
  | nil => cases member
  | cons x' rest ih =>
    rw [List.mapM_cons] at ok
    obtain ⟨first, found, later⟩ := except_bind_eq_ok ok
    obtain ⟨others, listed, done⟩ := except_bind_eq_ok later
    cases done
    rcases List.mem_cons.mp member with rfl | other
    · exact ⟨first, List.mem_cons_self, found⟩
    · obtain ⟨y, inOthers, found'⟩ := ih listed other
      exact ⟨y, List.mem_cons_of_mem _ inOthers, found'⟩

theorem engineShaderDirs_plain {dir : List String} (member : dir ∈ engineShaderDirs) :
    ".." ∉ dir ∧ dir ≠ [] ∧ buildOutputDir ∉ dir := by
  simp only [engineShaderDirs, List.mem_cons, List.not_mem_nil, or_false] at member
  rcases member with rfl | rfl <;> decide

/-- Every file a shader directory of the engine lists, the engine root lists too. -/
theorem shaderDir_listed_under_engine {t : Tree} (closed : t.Closed) {engine dir : Location}
    (member : dir ∈ engineShaderDirs) (filePattern : String) {listed : List (List String)}
    (engineListed : t.listFiles engine filePattern false = .ok listed) :
    ∃ found, t.listFiles (engine ++ dir) filePattern false = .ok found ∧ ∀ x ∈ found, x ∈ listed :=
  let ⟨plain, deeper, clean⟩ := engineShaderDirs_plain member
  Tree.listFiles_deeper closed plain deeper clean filePattern engineListed

/-- With or without the engine's shader directories, the same files are searched: each file
    they list was reached under the engine root, listed before them. -/
theorem searchedFilesWith_shaders (t : Tree) (closed : t.Closed) (roots : Roots) (filePattern : String) :
    searchedFilesWith t roots filePattern true = searchedFilesWith t roots filePattern false := by
  unfold searchedFilesWith
  cases roots.require with
  | error e => rfl
  | ok r =>
    let listing := fun root => t.listFiles root filePattern false
    show ((r.textSearchRoots t true).mapM listing >>= fun listings => pure (reached listings)) =
      ((r.textSearchRoots t false).mapM listing >>= fun listings => pure (reached listings))
    cases engineRoot : r.engine with
    | none => simp [Roots.textSearchRoots, engineRoot]
    | some e =>
      simp only [Roots.textSearchRoots, engineRoot, if_true, if_false, Bool.false_eq_true]
      let shaders := (engineShaderDirs.map (e ++ ·)).filter t.isDirAt
      rw [show r.custom.toList ++ e :: shaders = (r.custom.toList ++ [e]) ++ shaders by simp, List.mapM_append]
      cases listedFront : (r.custom.toList ++ [e]).mapM listing with
      | error err => rfl
      | ok front =>
        obtain ⟨listed, inFront, engineListed⟩ := mapM_ok_of_mem listedFront (List.mem_append_right _ List.mem_cons_self)
        -- each shader directory lists files the engine root listed
        obtain ⟨back, listedBack, covered⟩ := mapM_ok_of_forall (f := listing) (P := fun found => ∀ x ∈ found, x ∈ listed)
          fun root (member : root ∈ shaders) => by
            obtain ⟨dir, isShader, rfl⟩ := List.mem_map.mp (List.mem_filter.mp member).1
            exact shaderDir_listed_under_engine closed isShader filePattern engineListed
        have same : reached (front ++ back) = reached front := by
          refine reached_append_covered fun x inBack => ?_
          obtain ⟨found, inBack', member⟩ := List.mem_flatten.mp inBack
          exact List.mem_flatten.mpr ⟨listed, inFront, covered found inBack' x member⟩
        simp [listedBack, same, bind, Except.bind, pure, Except.pure]


/-- Every file a shader directory of the engine lists, the engine root, searched before it, lists
    too; so a text search, whatever files it asks for, answers what it answers with the shader
    directories left out. -/
theorem searchText_ignores_shader_dirs (t : Tree) (closed : t.Closed) (ix : Registry) :
    (∀ (engine dir : Location), dir ∈ engineShaderDirs → ∀ filePattern listed,
      t.listFiles engine filePattern false = .ok listed →
      ∃ found, t.listFiles (engine ++ dir) filePattern false = .ok found ∧ ∀ x ∈ found, x ∈ listed) ∧
    ∀ query filePattern includeComments,
      (searchText t query filePattern includeComments).run.run ix =
        ((do
          let p ← compileQuery query
          let files ← searchedFilesWith t ix.roots filePattern false
          pure ((files.flatMap (fileMatches t p includeComments)).take matchLimit)),ix) := by
  refine ⟨fun engine dir member filePattern listed engineListed =>
    shaderDir_listed_under_engine closed member filePattern engineListed,fun query filePattern includeComments => ?_⟩
  rw [searchText_run,searchedFiles_eq_with]
  cases Glob.isShaderPattern filePattern with
  | false => rfl
  | true => rw [searchedFilesWith_shaders t closed]

/-- An engine with a shader directory: the tree is a tree, and a search of shader files reads
    them under the engine root alone. -/
theorem shader_files_searched_under_engine :
    let t : Tree := ⟨[["UE"],["UE","Engine"],["UE","Engine","Shaders"]],
      [(["UE","Engine","Shaders","Common.usf"],"float4 Main() : SV_Target;\n".toUTF8)]⟩
    let ix : Registry := ⟨⟨none,some ["UE"]⟩,Cache.Recency.empty 1,Cache.Recency.empty 1⟩
    t.Closed ∧
      ((∀ (engine dir : Location), dir ∈ engineShaderDirs → ∀ filePattern listed,
        t.listFiles engine filePattern false = .ok listed →
        ∃ found, t.listFiles (engine ++ dir) filePattern false = .ok found ∧ ∀ x ∈ found, x ∈ listed) ∧
      ∀ query filePattern includeComments,
        (searchText t query filePattern includeComments).run.run ix =
          ((do
            let p ← compileQuery query
            let files ← searchedFilesWith t ix.roots filePattern false
            pure ((files.flatMap (fileMatches t p includeComments)).take matchLimit)),ix)) := by
  intro t ix
  have closed : t.Closed := by decide
  exact ⟨closed,searchText_ignores_shader_dirs t closed ix⟩

end ClassAtlas.Index
