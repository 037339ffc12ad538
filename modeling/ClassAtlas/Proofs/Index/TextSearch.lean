import Mathlib.Data.List.Nodup
import ClassAtlas.Proofs.Index.CacheFrame

/-!
What a search of the sources reports. The files searched are the listings of the text roots
taken in order, each path resolved, and each resolved location kept the first time it is
reached (`reached`, `collectFiles_run`): a project root inside the engine root has its files
searched once, under the first root that reaches them. Each file's lines are then tried in
order, and the first hundred lines where the pattern is found are the answer, each with the
file, its number, the column of the match and the lines around it (`fileMatches`,
`searchText_run`, `findReferences_run`).

A listed path leads to a file of the tree, and on a tree whose files are named as a file system
names them, locations are written apart; so no file and line is reported twice
(`textSearch_reports_first_matches`).
-/

namespace ClassAtlas.Files

/-- Every file of a tree is named by components that are not empty and hold no slash, as on a
    file system. -/
def Tree.NamedFiles (t : Tree) : Prop := ∀ e ∈ t.files, ∀ c ∈ e.1, c ≠ "" ∧ '/' ∉ c.toList

instance (t : Tree) : Decidable t.NamedFiles :=
  inferInstanceAs (Decidable (∀ e ∈ t.files, ∀ c ∈ e.1, c ≠ "" ∧ '/' ∉ c.toList))

theorem splitOn_render {l : Location} (named : ∀ c ∈ l, c ≠ "" ∧ '/' ∉ c.toList) :
    (['/'].intercalate (l.map String.toList)).splitOn '/' = if l = [] then [[]] else l.map String.toList := by
  cases l with
  | nil => rfl
  | cons c rest =>
    rw [if_neg (List.cons_ne_nil c rest)]
    refine List.splitOn_intercalate '/' ?_ (by simp)
    simp only [List.mem_map]
    rintro _ ⟨c',member,rfl⟩
    exact (named c' member).2

/-- Locations named as on a file system are written apart. -/
theorem render_inj {l l' : Location} (named : ∀ c ∈ l, c ≠ "" ∧ '/' ∉ c.toList)
    (named' : ∀ c ∈ l', c ≠ "" ∧ '/' ∉ c.toList) (same : render l = render l') : l = l' := by
  have chars : ['/'].intercalate (l.map String.toList) = ['/'].intercalate (l'.map String.toList) := by
    have written := congrArg String.toList same
    simpa [render] using written
  have parts := congrArg (List.splitOn '/') chars
  rw [splitOn_render named,splitOn_render named'] at parts
  -- a location with components never reads back as the root's single empty part
  have notRoot {k : Location} (namedK : ∀ c ∈ k, c ≠ "" ∧ '/' ∉ c.toList) (nonEmpty : k ≠ []) :
      k.map String.toList ≠ [[]] := by
    intro single
    obtain ⟨c,rest,rfl⟩ := List.exists_cons_of_ne_nil nonEmpty
    simp only [List.map_cons,List.cons.injEq,List.map_eq_nil_iff] at single
    exact (namedK c List.mem_cons_self).1 (String.toList_eq_nil_iff.mp single.1)
  by_cases empty : l = [] <;> by_cases empty' : l' = []
  · rw [empty,empty']
  · rw [if_pos empty,if_neg empty'] at parts
    exact absurd parts.symm (notRoot named' empty')
  · rw [if_neg empty,if_pos empty'] at parts
    exact absurd parts (notRoot named empty)
  · rw [if_neg empty,if_neg empty'] at parts
    exact List.map_injective_iff.mpr (fun a b h => String.toList_inj.mp h) parts

/-! ### Listed files are files of the tree -/

/-- A walk that arrives somewhere arrives where the path, read without the tree, leads. -/
theorem Tree.walk_eq_normalize {t : Tree} {cur : Location} {parts : List String} {l : Location}
    (walked : t.walk cur parts = some l) : l = normalize cur parts := by
  fun_induction t.walk cur parts with
  | case1 cur => simpa [normalize] using walked.symm
  | case2 cur rest ih => simpa [normalize] using ih walked
  | case3 cur c rest notUp next last =>
    have empty : rest = [] := List.isEmpty_iff.mp last
    subst empty
    simpa [normalize,notUp] using (Option.some.inj walked).symm
  | case4 cur c rest notUp next more dir ih => simpa [normalize,notUp] using ih walked
  | case5 => cases walked

theorem except_bind_eq_ok {ε α β : Type} {x : Except ε α} {f : α → Except ε β} {r : β}
    (ok : x >>= f = .ok r) : ∃ a, x = .ok a ∧ f a = .ok r := by
  cases x with
  | error e => cases ok
  | ok a => exact ⟨a,rfl,ok⟩

/-- A loop that fails or goes on, each step keeping an invariant of its state, ends in a state
    that has it. -/
theorem forIn_except_invariant {ε γ σ : Type} (P : σ → Prop) (xs : List γ)
    {body : γ → σ → Except ε (ForInStep σ)} (step : ∀ x s r, P s → body x s = .ok r → P r.value)
    {init res : σ} (start : P init) (ran : forIn xs init body = .ok res) : P res := by
  induction xs generalizing init with
  | nil =>
    cases ran
    exact start
  | cons x rest ih =>
    rw [List.forIn_cons] at ran
    obtain ⟨r,stepped,later⟩ := except_bind_eq_ok ran
    have kept := step x init r start stepped
    cases r with
    | done s =>
      cases later
      exact kept
    | yield s => exact ih kept later

/-- Every path a listing gives leads, resolved, to a file of the tree. -/
theorem Tree.listFiles_files {t : Tree} {root : Location} {pattern : String} {excludeGenerated : Bool}
    {paths : List (List String)} (listed : t.listFiles root pattern excludeGenerated = .ok paths)
    {p : List String} (member : p ∈ paths) : ∃ e ∈ t.files, e.1 = normalize [] p := by
  unfold Tree.listFiles at listed
  dsimp only at listed
  split at listed
  · cases listed
    cases member
  · obtain ⟨found,ran,sorted⟩ := except_bind_eq_ok listed
    have kept : ∀ q ∈ found, t.keeps (normalize [] root) excludeGenerated q = true := by
      refine forIn_except_invariant (fun found => ∀ q ∈ found, t.keeps (normalize [] root) excludeGenerated q = true)
        _ (fun sub found r inv stepped => ?_) (by simp) ran
      obtain ⟨steps,-,added⟩ := except_bind_eq_ok stepped
      cases added
      intro q member
      rcases List.mem_append.mp member with old | new
      · exact inv q old
      · exact (List.mem_filter.mp new).2
    cases sorted
    have file : t.isFileVia p = true := by
      have passes := kept p (List.mem_eraseDups.mp (List.mem_mergeSort.mp member))
      simp only [Tree.keeps,Bool.and_eq_true] at passes
      exact passes.1.1
    -- the walk ends at a location the tree holds a file at, which is the path resolved
    unfold Tree.isFileVia at file
    cases walked : t.walk [] p with
    | none => simp [walked] at file
    | some l =>
      simp only [walked,Option.map_some,Option.getD_some,Tree.isFileAt,Tree.fileAt?,Option.isSome_map,
        Option.isSome_iff_exists] at file
      obtain ⟨e,found⟩ := file
      refine ⟨e,List.mem_of_find?_eq_some found,?_⟩
      rw [← Tree.walk_eq_normalize walked]
      simpa using List.find?_some found

end ClassAtlas.Files

namespace ClassAtlas.Index

open ClassAtlas.Files ClassAtlas.Pattern ClassAtlas.Text

/-! ### Each location once -/

section Distinct

variable {α : Type} [BEq α] [LawfulBEq α]

theorem nodup_eraseDups (xs : List α) : xs.eraseDups.Nodup := by
  match xs with
  | [] => simp
  | x :: rest =>
    rw [List.eraseDups_cons,List.nodup_cons]
    refine ⟨fun member => by simpa using List.mem_eraseDups.mp member,nodup_eraseDups _⟩
termination_by xs.length
decreasing_by exact Nat.lt_succ_of_le (List.length_filter_le _ _)

theorem eraseDups_of_nodup {xs : List α} (distinct : xs.Nodup) : xs.eraseDups = xs := by
  induction xs with
  | nil => rfl
  | cons x rest ih =>
    obtain ⟨fresh,distinct⟩ := List.nodup_cons.mp distinct
    have kept : rest.filter (fun y => !y == x) = rest := by
      refine List.filter_eq_self.mpr fun y member => ?_
      have apart : y ≠ x := fun same => fresh (same ▸ member)
      simpa using apart
    rw [List.eraseDups_cons,kept,ih distinct]

theorem eraseDups_append_cons_of_mem {seen rest : List α} {x : α} (reached : x ∈ seen) :
    (seen ++ x :: rest).eraseDups = (seen ++ rest).eraseDups := by
  rw [List.eraseDups_append,List.eraseDups_append]
  congr 2
  simp [List.removeAll,reached]

theorem eraseDups_eraseDups_append (xs ys : List α) : (xs.eraseDups ++ ys).eraseDups = (xs ++ ys).eraseDups := by
  have sameMembers : ys.removeAll xs.eraseDups = ys.removeAll xs := by
    simp [List.removeAll]
  rw [List.eraseDups_append,List.eraseDups_append,eraseDups_of_nodup (nodup_eraseDups xs),sameMembers]

end Distinct

/-- The files reached by listings taken in order: each listed path as resolved, the first time
    it is reached. -/
def reached (listings : List (List (List String))) : List Location :=
  (listings.flatten.map (normalize [])).eraseDups

/-- The files searched under the text roots: listed root by root in order, each resolved location
    once; or the first refusal. -/
def searchedFiles (t : Tree) (roots : Roots) (filePattern : String) : Except Failure (List Location) := do
  let r ← roots.require
  let listings ← (r.textSearchRoots t (Glob.isShaderPattern filePattern)).mapM fun root =>
    t.listFiles root filePattern false
  pure (reached listings)

section Loops

variable {body : List String → List Location → IndexM (ForInStep (List Location))}

theorem forIn_paths
    (step : ∀ path seen, body path seen = pure (.yield (if seen.contains (normalize [] path) then seen
      else seen ++ [normalize [] path])))
    (paths : List (List String)) {seen : List Location} (distinct : seen.Nodup) :
    forIn paths seen body = pure (seen ++ paths.map (normalize [])).eraseDups := by
  induction paths generalizing seen with
  | nil => simp [eraseDups_of_nodup distinct]
  | cons path rest ih =>
    rw [List.forIn_cons,step,pure_bind]
    by_cases reached : seen.contains (normalize [] path)
    · rw [if_pos reached]
      simp only [ih distinct,List.map_cons]
      rw [eraseDups_append_cons_of_mem (by simpa using reached)]
    · rw [if_neg reached]
      have fresh : (seen ++ [normalize [] path]).Nodup := by
        refine List.nodup_append.mpr ⟨distinct,List.nodup_singleton _,?_⟩
        intro a member b single same
        rw [List.mem_singleton] at single
        subst single same
        exact reached (by simpa using member)
      simp only [ih fresh,List.map_cons,List.append_assoc,List.singleton_append]

/-- The loop over the roots reaches the locations of their listings in order, or stops at the
    first listing refused. -/
theorem forIn_roots {body : Location → List Location → IndexM (ForInStep (List Location))}
    (t : Tree) (filePattern : String)
    (step : ∀ root seen, seen.Nodup → body root seen = match t.listFiles root filePattern false with
      | .ok paths => pure (.yield (seen ++ paths.map (normalize [])).eraseDups)
      | .error e => throw e)
    (roots : List Location) {seen : List Location} (distinct : seen.Nodup) (ix : Registry) :
    (forIn roots seen body).run.run ix =
      ((roots.mapM fun root => t.listFiles root filePattern false).map fun listings =>
        (seen ++ listings.flatten.map (normalize [])).eraseDups,ix) := by
  induction roots generalizing seen with
  | nil => simp [eraseDups_of_nodup distinct,Except.map,pure,Except.pure]; rfl
  | cons root rest ih =>
    rw [List.forIn_cons,step root seen distinct]
    cases listed : t.listFiles root filePattern false with
    | error e => simp [List.mapM_cons,listed,Except.map,bind,Except.bind]; rfl
    | ok paths =>
      simp only [pure_bind]
      rw [ih (nodup_eraseDups _)]
      cases later : rest.mapM fun root => t.listFiles root filePattern false with
      | error e => simp [List.mapM_cons,listed,later,Except.map,bind,Except.bind]
      | ok listings =>
        simp [List.mapM_cons,listed,later,Except.map,bind,Except.bind,pure,Except.pure,
          eraseDups_eraseDups_append]

end Loops

theorem requireConfigured_run (ix : Registry) : requireConfigured.run.run ix = (ix.roots.require,ix) := by
  simp only [requireConfigured,run_get_bind]
  cases ix.roots.require <;> rfl

/-- The files searched are those listed under the text roots in order, each resolved location
    once. -/
theorem collectFiles_run (t : Tree) (filePattern : String) (ix : Registry) :
    (collectFiles t filePattern).run.run ix = (searchedFiles t ix.roots filePattern,ix) := by
  unfold collectFiles
  rw [run_bind,requireConfigured_run]
  cases required : ix.roots.require with
  | error e => simp [searchedFiles,required,bind,Except.bind]
  | ok roots =>
    dsimp only
    rw [run_bind,forIn_roots t filePattern ?_ _ List.nodup_nil ix]
    · cases listed : (roots.textSearchRoots t (Glob.isShaderPattern filePattern)).mapM fun root =>
          t.listFiles root filePattern false with
      | error e => simp [searchedFiles,required,listed,Except.map,bind,Except.bind]
      | ok listings =>
        simp [searchedFiles,required,listed,Except.map,bind,Except.bind,reached]
        rfl
    · intro root seen distinct
      cases t.listFiles root filePattern false with
      | error e => rfl
      | ok paths =>
        -- within a root, the inner loop adds the resolved locations not reached before
        refine (congrArg (· >>= _) (forIn_paths (fun path seen => ?_) paths distinct)).trans (pure_bind _ _)
        by_cases reached : normalize [] path ∈ seen <;> simp [reached]

/-- The lines of a file where a pattern is found, in order: each reported with the file, its
    number from one, the column of the leftmost match from one and the lines around it. Lines
    that start a comment are left out unless asked for. -/
def fileMatches (t : Tree) (p : Program) (includeComments : Bool) (file : Location) : List CodeMatch :=
  match t.readVia? file with
  | none => []
  | some content =>
    let lines := splitLines content
    (lines.zipIdx.filter fun (line,_) => includeComments || !startsComment line).filterMap fun (line,i) =>
      (p.search line).map fun found => ⟨render file,i + 1,found.start + 1,contextWindow lines i 2⟩

theorem scanFiles_eq (t : Tree) (p : Program) (includeComments : Bool) (limit : Nat) (files : List Location) :
    scanFiles t p includeComments limit files = (files.flatMap (fileMatches t p includeComments)).take limit := by
  unfold scanFiles
  dsimp only
  congr 2
  funext file
  unfold fileMatches
  cases t.readVia? file with
  | none => rfl
  | some content =>
    -- the comment test of a line and its search, taken one after the other
    dsimp only
    rw [List.filterMap_filter]
    congr 1
    funext entry
    obtain ⟨line,i⟩ := entry
    unfold matchLine
    cases includeComments <;> cases startsComment line <;> rfl

/-- A text search answers the matching lines of the searched files, in order, the first hundred;
    a query that does not compile, or a refusal to list, is the answer instead. -/
theorem searchText_run (t : Tree) (query filePattern : String) (includeComments : Bool) (ix : Registry) :
    (searchText t query filePattern includeComments).run.run ix =
      ((do
        let p ← compileQuery query
        let files ← searchedFiles t ix.roots filePattern
        pure ((files.flatMap (fileMatches t p includeComments)).take matchLimit)),ix) := by
  unfold searchText
  cases compileQuery query with
  | error e => rfl
  | ok p =>
    show (collectFiles t filePattern >>= fun files => pure (scanFiles t p includeComments matchLimit files)).run.run ix = _
    rw [run_bind,collectFiles_run]
    cases searchedFiles t ix.roots filePattern with
    | error e => rfl
    | ok files =>
      simp only [scanFiles_eq]
      rfl

theorem findReferences_run (t : Tree) (identifier : String) (ix : Registry) :
    (findReferences t identifier).run.run ix =
      ((searchedFiles t ix.roots defaultFilePattern).map fun files =>
        (files.flatMap (fileMatches t (wordPattern identifier) true)).take matchLimit,ix) := by
  unfold findReferences
  rw [run_bind,collectFiles_run]
  cases searchedFiles t ix.roots defaultFilePattern with
  | error e => rfl
  | ok files =>
    simp only [scanFiles_eq]
    rfl

theorem mapM_ok_mem {ε α β : Type} {f : α → Except ε β} {xs : List α} {ys : List β}
    (ok : xs.mapM f = .ok ys) {y : β} (member : y ∈ ys) : ∃ x ∈ xs, f x = .ok y := by
  induction xs generalizing ys with
  | nil =>
    cases ok
    cases member
  | cons x rest ih =>
    rw [List.mapM_cons] at ok
    obtain ⟨first,found,later⟩ := except_bind_eq_ok ok
    obtain ⟨others,listed,done⟩ := except_bind_eq_ok later
    cases done
    rcases List.mem_cons.mp member with rfl | other
    · exact ⟨x,List.mem_cons_self,found⟩
    · obtain ⟨x',member',found'⟩ := ih listed other
      exact ⟨x',List.mem_cons_of_mem x member',found'⟩

/-- The files searched are distinct files of the tree. -/
theorem searchedFiles_sound {t : Tree} {roots : Roots} {filePattern : String} {files : List Location}
    (searched : searchedFiles t roots filePattern = .ok files) :
    files.Nodup ∧ ∀ l ∈ files, ∃ e ∈ t.files, e.1 = l := by
  unfold searchedFiles at searched
  obtain ⟨r,-,listedAll⟩ := except_bind_eq_ok searched
  obtain ⟨listings,listed,done⟩ := except_bind_eq_ok listedAll
  cases done
  refine ⟨nodup_eraseDups _,fun l member => ?_⟩
  simp only [reached,List.mem_eraseDups,List.mem_map,List.mem_flatten] at member
  obtain ⟨p,⟨listing,inListings,inListing⟩,rfl⟩ := member
  obtain ⟨root,-,rootListed⟩ := mapM_ok_mem listed inListings
  obtain ⟨e,held,named⟩ := Tree.listFiles_files rootListed inListing
  exact ⟨e,held,named⟩

theorem fileMatches_file {t : Tree} {p : Program} {includeComments : Bool} {file : Location}
    {m : CodeMatch} (member : m ∈ fileMatches t p includeComments file) : m.file = render file := by
  unfold fileMatches at member
  split at member
  · cases member
  · simp only [List.mem_filterMap,Option.map_eq_some_iff] at member
    obtain ⟨_,-,_,-,rfl⟩ := member
    rfl

theorem map_filterMap_sublist {α β γ : Type} (xs : List α) (g : α → Option β) (key : β → γ) (k : α → γ)
    (agree : ∀ x b, g x = some b → key b = k x) : ((xs.filterMap g).map key).Sublist (xs.map k) := by
  induction xs with
  | nil => exact .slnil
  | cons x rest ih =>
    cases picked : g x with
    | none =>
      rw [List.filterMap_cons_none picked]
      exact ih.cons _
    | some b =>
      rw [List.filterMap_cons_some picked,List.map_cons,List.map_cons,agree x b picked]
      exact ih.cons_cons _

/-- Within one file, each line is reported at most once. -/
theorem fileMatches_lines_nodup (t : Tree) (p : Program) (includeComments : Bool) (file : Location) :
    ((fileMatches t p includeComments file).map fun m => (m.file,m.line)).Nodup := by
  unfold fileMatches
  split
  · exact List.nodup_nil
  · next content _ =>
    let lines := splitLines content
    -- the keys are those of the numbered lines kept, and line numbers are distinct
    have numbered : (lines.zipIdx.map fun (entry : String × Nat) => (render file,entry.2 + 1)).Nodup := by
      have spread : (lines.zipIdx.map fun (entry : String × Nat) => (render file,entry.2 + 1)) =
          (List.range' 0 lines.length).map fun i => (render file,i + 1) := by
        rw [← List.zipIdx_map_snd 0 lines,List.map_map]
        rfl
      rw [spread]
      exact List.Nodup.map (fun i j same => by simpa using same) List.nodup_range'
    refine ((map_filterMap_sublist _ _ _ (fun (entry : String × Nat) => (render file,entry.2 + 1)) ?_).trans
      (List.filter_sublist.map _)).nodup numbered
    intro entry m found
    obtain ⟨found,-,rfl⟩ := Option.map_eq_some_iff.mp found
    rfl

/-- The lines reported from distinct files of a tree named as a file system are each reported
    once: a file is written apart from every other, and its line numbers are distinct. -/
theorem reportedLines_once {t : Tree} (named : t.NamedFiles) {files : List Location} (distinct : files.Nodup)
    (held : ∀ l ∈ files, ∃ e ∈ t.files, e.1 = l) (p : Program) (includeComments : Bool) (limit : Nat) :
    (((files.flatMap (fileMatches t p includeComments)).take limit).map fun m => (m.file,m.line)).Nodup := by
  refine ((List.take_sublist _ _).map _).nodup ?_
  rw [List.map_flatMap]
  refine List.nodup_flatMap.mpr ⟨fun file _ => fileMatches_lines_nodup t p includeComments file,?_⟩
  have namedFile (l : Location) (member : l ∈ files) : ∀ c ∈ l, c ≠ "" ∧ '/' ∉ c.toList := by
    obtain ⟨e,inTree,rfl⟩ := held l member
    exact named e inTree
  -- two distinct files are written apart, so their reports share no key
  refine List.Pairwise.imp_of_mem (fun {a b} memA memB apart => ?_) distinct
  intro key inA inB
  obtain ⟨m,fromA,rfl⟩ := List.mem_map.mp inA
  obtain ⟨m',fromB,same⟩ := List.mem_map.mp inB
  have written : render b = render a := by
    rw [← fileMatches_file fromA,← fileMatches_file fromB]
    exact (Prod.mk.inj same).1
  exact apart (render_inj (namedFile b memB) (namedFile a memA) written).symm

/-- A text search, and a search for references, reports exactly the first hundred matching lines
    of the files listed under the text roots in order, each file once by its resolved location
    and its lines in order; on a tree named as a file system no file and line is reported twice. -/
theorem textSearch_reports_first_matches (t : Tree) (ix : Registry) (named : t.NamedFiles) :
    (∀ query filePattern includeComments,
      (searchText t query filePattern includeComments).run.run ix =
        ((do
          let p ← compileQuery query
          let files ← searchedFiles t ix.roots filePattern
          pure ((files.flatMap (fileMatches t p includeComments)).take matchLimit)),ix) ∧
      ∀ ms, ((searchText t query filePattern includeComments).run.run ix).1 = .ok ms →
        (ms.map fun m => (m.file,m.line)).Nodup) ∧
    (∀ identifier,
      (findReferences t identifier).run.run ix =
        ((searchedFiles t ix.roots defaultFilePattern).map fun files =>
          (files.flatMap (fileMatches t (wordPattern identifier) true)).take matchLimit,ix) ∧
      ∀ ms, ((findReferences t identifier).run.run ix).1 = .ok ms →
        (ms.map fun m => (m.file,m.line)).Nodup) := by
  refine ⟨fun query filePattern includeComments => ⟨searchText_run t query filePattern includeComments ix,
    fun ms answered => ?_⟩,fun identifier => ⟨findReferences_run t identifier ix,fun ms answered => ?_⟩⟩
  · rw [searchText_run] at answered
    obtain ⟨p,-,searched⟩ := except_bind_eq_ok answered
    obtain ⟨files,found,done⟩ := except_bind_eq_ok searched
    cases done
    obtain ⟨distinct,held⟩ := searchedFiles_sound found
    exact reportedLines_once named distinct held p includeComments matchLimit
  · rw [findReferences_run] at answered
    cases found : searchedFiles t ix.roots defaultFilePattern with
    | error e => simp [found,Except.map] at answered
    | ok files =>
      simp only [found,Except.map,Except.ok.injEq] at answered
      subst answered
      obtain ⟨distinct,held⟩ := searchedFiles_sound found
      exact reportedLines_once named distinct held _ true matchLimit

/-- A project root inside the engine root: the project's header is reached under both roots and
    searched once. -/
theorem nested_roots_search_once :
    let t : Tree := ⟨[["UE"],["UE","Game"]],[(["UE","Game","A.h"],"class AHero : public AActor {};\n".toUTF8)]⟩
    let ix : Registry := ⟨⟨some ["UE","Game"],some ["UE"]⟩,Cache.Recency.empty 1,Cache.Recency.empty 1⟩
    t.NamedFiles ∧
      (∀ query filePattern includeComments,
        (searchText t query filePattern includeComments).run.run ix =
          ((do
            let p ← compileQuery query
            let files ← searchedFiles t ix.roots filePattern
            pure ((files.flatMap (fileMatches t p includeComments)).take matchLimit)),ix) ∧
        ∀ ms, ((searchText t query filePattern includeComments).run.run ix).1 = .ok ms →
          (ms.map fun m => (m.file,m.line)).Nodup) ∧
      (∀ identifier,
        (findReferences t identifier).run.run ix =
          ((searchedFiles t ix.roots defaultFilePattern).map fun files =>
            (files.flatMap (fileMatches t (wordPattern identifier) true)).take matchLimit,ix) ∧
        ∀ ms, ((findReferences t identifier).run.run ix).1 = .ok ms →
          (ms.map fun m => (m.file,m.line)).Nodup) := by
  intro t ix
  have named : t.NamedFiles := by decide
  exact ⟨named,textSearch_reports_first_matches t ix named⟩

end ClassAtlas.Index
