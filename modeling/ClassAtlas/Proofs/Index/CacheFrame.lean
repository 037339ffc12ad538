import Mathlib.Logic.Relation
import ClassAtlas.Workspace
import ClassAtlas.Proofs.Index.ClassCache
import ClassAtlas.Proofs.Index.Configure

/-!
Which requests change the class cache. Reading the reference, searching the sources, setting the
roots and summarizing a subsystem never touch it, failed or not: each is built from steps that
leave it alone (`KeepsClasses`), and a loop of such steps leaves it alone too. A resolution that
fails changes nothing; one that succeeds moves its lowered name to the most recent end when the
record was cached, and puts the scanned record there when it was not (`resolveClass_effect`).
Building a hierarchy is a run of resolutions and nothing else (`Resolving`,
`buildHierarchy_resolves`). Hence along any sequence of requests the class cache moves only by
the steps resolutions take (`performAll_cacheSteps`).
-/

namespace ClassAtlas.Index

open ClassAtlas.Files ClassAtlas.Source ClassAtlas.Cache

section Running

variable {α β : Type}

theorem run_bind (m : IndexM α) (f : α → IndexM β) (ix : Registry) :
    (m >>= f).run.run ix = match m.run.run ix with
      | (.ok a,s) => (f a).run.run s
      | (.error e,s) => (.error e,s) := by
  rcases ran : m.run.run ix with ⟨_ | a,s⟩ <;> simp [ExceptT.run_bind,ran] <;> rfl

theorem run_tryCatch (m : IndexM α) (h : Failure → IndexM α) (ix : Registry) :
    (tryCatch m h).run.run ix = match m.run.run ix with
      | (.ok a,s) => (.ok a,s)
      | (.error e,s) => (h e).run.run s := by
  show (ExceptT.tryCatch m h).run.run ix = _
  simp only [ExceptT.tryCatch,ExceptT.run_mk,StateT.run_bind]
  rw [show StateT.run m ix = m.run.run ix from rfl]
  rcases m.run.run ix with ⟨_ | a,s⟩ <;> rfl

end Running

/-! ### Requests that leave the class cache alone -/

/-- A computation that leaves the class cache as it found it, entries and order, whether it
    succeeds or fails. -/
def KeepsClasses {α : Type} (m : IndexM α) : Prop := ∀ ix, (m.run.run ix).2.classes = ix.classes

namespace KeepsClasses

variable {α β : Type}

theorem pure (a : α) : KeepsClasses (Pure.pure a : IndexM α) := fun _ => rfl

theorem throw (e : Failure) : KeepsClasses (MonadExcept.throw e : IndexM α) := fun _ => rfl

theorem bind {m : IndexM α} {f : α → IndexM β} (first : KeepsClasses m) (rest : ∀ a, KeepsClasses (f a)) :
    KeepsClasses (m >>= f) := by
  intro ix
  rw [run_bind]
  rcases ran : m.run.run ix with ⟨_ | a,s⟩
  · simpa [ran] using first ix
  · simpa [ran,first ix] using (rest a s).trans (by simpa [ran] using first ix)

theorem throw_bind (e : Failure) (f : α → IndexM β) : KeepsClasses (MonadExcept.throw e >>= f) :=
  fun _ => rfl

theorem get_bind {f : Registry → IndexM α} (rest : ∀ s, KeepsClasses (f s)) :
    KeepsClasses (MonadState.get >>= f) := fun ix => rest ix ix

theorem forIn {γ σ : Type} (xs : List γ) (init : σ) {body : γ → σ → IndexM (ForInStep σ)}
    (each : ∀ x s, KeepsClasses (body x s)) : KeepsClasses (ForIn.forIn xs init body) := by
  induction xs generalizing init with
  | nil => exact pure init
  | cons x xs ih =>
    rw [List.forIn_cons]
    refine bind (each x init) fun step => ?_
    cases step with
    | done s => exact pure s
    | yield s => exact ih s

end KeepsClasses

theorem requireConfigured_keeps : KeepsClasses requireConfigured := by
  refine KeepsClasses.get_bind fun ix => ?_
  dsimp only
  split
  · exact KeepsClasses.pure _
  · exact KeepsClasses.throw _

theorem configureRoots_keeps (t : Tree) (custom engine : Option String) :
    KeepsClasses (configureRoots t custom engine) := by
  intro ix
  rw [configureRoots_run]
  split <;> rfl

theorem collectFiles_keeps (t : Tree) (filePattern : String) : KeepsClasses (collectFiles t filePattern) := by
  unfold collectFiles
  refine KeepsClasses.bind requireConfigured_keeps fun roots => ?_
  refine KeepsClasses.bind (KeepsClasses.forIn _ _ fun root seen => ?_) fun _ => KeepsClasses.pure _
  dsimp only
  split
  · refine KeepsClasses.bind (KeepsClasses.forIn _ _ fun path seen => ?_) fun _ => KeepsClasses.pure _
    split <;> exact KeepsClasses.pure _
  · exact KeepsClasses.throw_bind _ _

theorem findReferences_keeps (t : Tree) (identifier : String) :
    KeepsClasses (findReferences t identifier) :=
  KeepsClasses.bind (collectFiles_keeps t _) fun _ => KeepsClasses.pure _

theorem searchText_keeps (t : Tree) (query filePattern : String) (includeComments : Bool) :
    KeepsClasses (searchText t query filePattern includeComments) := by
  unfold searchText
  split
  · exact KeepsClasses.throw _
  · exact KeepsClasses.bind (collectFiles_keeps t _) fun _ => KeepsClasses.pure _

theorem analyzeSubsystem_keeps (t : Tree) (name : String) : KeepsClasses (analyzeSubsystem t name) := by
  unfold analyzeSubsystem
  refine KeepsClasses.bind requireConfigured_keeps fun roots => ?_
  split
  · split
    · -- past the checks, the summary is built from the listing alone
      dsimp only
      split
      · exact KeepsClasses.throw_bind _ _
      · split
        · exact KeepsClasses.bind (KeepsClasses.pure _) fun _ => KeepsClasses.pure _
        · exact KeepsClasses.throw_bind _ _
    · exact KeepsClasses.throw _
  · exact KeepsClasses.throw _

theorem apiEntry_keeps (r : Record) : KeepsClasses (apiEntry r) := by
  intro ix
  cases found : (ix.entries.get r.name).1 with
  | some e => simp only [apiEntry,run_get_bind,run_set_bind,found,run_pure]
  | none => simp only [apiEntry,run_get_bind,run_set_bind,run_modify_bind,found,run_pure]

theorem queryApi_keeps (text : String) (category module : Option String) (withExamples : Bool)
    (count : Int) : KeepsClasses (Reference.queryApi text category module withExamples count) := by
  unfold Reference.queryApi
  refine KeepsClasses.bind requireConfigured_keeps fun _ => KeepsClasses.get_bind fun ix => ?_
  refine KeepsClasses.bind (KeepsClasses.forIn _ _ fun r results => ?_) fun _ => KeepsClasses.pure _
  refine KeepsClasses.bind (apiEntry_keeps r) fun e => ?_
  split <;> exact KeepsClasses.pure _

/-- What resolving `name` may do to the registry, given the answer: a refusal leaves the
    registry as it was; a record found under the lowered name moves to the most recent end; a
    record scanned is put there, evicting the least recent entries beyond the capacity. The roots
    and the reference entries stay as they were. -/
def ResolutionEffect (t : Tree) (name : String) (before : Registry) :
    Except Failure Record × Registry → Prop
  | (.error _,after) => after = before
  | (.ok r,after) =>
    after.roots = before.roots ∧ after.entries = before.entries ∧
      ((before.classes.peek (Text.lower name) = some r ∧ after.classes.capacity = before.classes.capacity ∧
          after.classes.entries =
            Recency.without before.classes.entries (Text.lower name) ++ [(Text.lower name,some r)]) ∨
        (before.classes.peek (Text.lower name) = none ∧ scanClass t before.roots name = .ok r ∧
          after.classes = before.classes.put (Text.lower name) (some r)))

theorem resolveClass_effect (t : Tree) (name : String) (ix : Registry) :
    ResolutionEffect t name ix ((resolveClass t name).run.run ix) := by
  cases found : (ix.classes.get (Text.lower name)).1 with
  | some r =>
    rw [resolveClass_of_cached found]
    have stored : ix.classes.peek (Text.lower name) = some r := by rwa [Recency.get_fst] at found
    refine ⟨rfl,rfl,.inl ⟨stored,?_,?_⟩⟩ <;> simp [Recency.get,stored]
  | none =>
    rw [resolveClass_of_missing found]
    have absent : ix.classes.peek (Text.lower name) = none := by rwa [Recency.get_fst] at found
    cases scanned : scanClass t ix.roots name with
    | error e => exact rfl
    | ok r => exact ⟨rfl,rfl,.inr ⟨absent,scanned,rfl⟩⟩

/-! ### Expansion as a run of resolutions -/

theorem resolveEach_append (t : Tree) (ix : Registry) (front back : List String) :
    (resolveEach t ix (front ++ back)).2 = (resolveEach t (resolveEach t ix front).2 back).2 := by
  induction front generalizing ix with
  | nil => rfl
  | cons n rest ih => simp only [resolveEach,List.cons_append,ih]

/-- A computation that changes the registry as resolving some names in turn would. -/
def Resolving (t : Tree) {α : Type} (m : IndexM α) : Prop :=
  ∀ ix, ∃ names, (m.run.run ix).2 = (resolveEach t ix names).2

namespace Resolving

variable {t : Tree} {α β : Type}

theorem pure (a : α) : Resolving t (Pure.pure a : IndexM α) := fun _ => ⟨[],rfl⟩

theorem throw (e : Failure) : Resolving t (MonadExcept.throw e : IndexM α) := fun _ => ⟨[],rfl⟩

theorem resolve (name : String) : Resolving t (resolveClass t name) := fun _ => ⟨[name],rfl⟩

theorem bind {m : IndexM α} {f : α → IndexM β} (first : Resolving t m) (rest : ∀ a, Resolving t (f a)) :
    Resolving t (m >>= f) := by
  intro ix
  obtain ⟨names,moved⟩ := first ix
  rw [run_bind]
  rcases ran : m.run.run ix with ⟨_ | a,s⟩
  · exact ⟨names,by simpa [ran] using moved⟩
  · obtain ⟨later,moved'⟩ := rest a s
    refine ⟨names ++ later,?_⟩
    rw [resolveEach_append,← show s = (resolveEach t ix names).2 by simpa [ran] using moved]
    exact moved'

theorem tryCatch {m : IndexM α} {h : Failure → IndexM α} (first : Resolving t m)
    (handler : ∀ e, Resolving t (h e)) : Resolving t (MonadExcept.tryCatch m h) := by
  intro ix
  obtain ⟨names,moved⟩ := first ix
  rw [run_tryCatch]
  rcases ran : m.run.run ix with ⟨_ | a,s⟩
  · obtain ⟨later,moved'⟩ := handler _ s
    refine ⟨names ++ later,?_⟩
    rw [resolveEach_append,← show s = (resolveEach t ix names).2 by simpa [ran] using moved]
    exact moved'
  · exact ⟨names,by simpa [ran] using moved⟩

end Resolving

/-- Expanding a class, and the bases of a class, changes the registry only by the resolutions
    it makes. -/
theorem expansion_resolving (t : Tree) (b : Bool) :
    (∀ fuel path name, Resolving t (expand t b fuel path name)) ∧
      ∀ fuel onPath bases, Resolving t (expandBases t b fuel onPath bases) := by
  refine expand.mutual_induct t b _ _ (fun path name => ?_) (fun fuel path name bases => ?_)
    (fun fuel onPath => ?_) (fun fuel onPath base rest onIt later => ?_)
    (fun fuel onPath base rest offIt later expanded => ?_)
  · rw [expand]
    exact Resolving.throw _
  · rw [expand]
    exact Resolving.bind (Resolving.resolve name) fun r => Resolving.bind (bases r) fun _ => Resolving.pure _
  · rw [expandBases]
    exact Resolving.pure _
  · rw [expandBases,if_pos onIt]
    exact Resolving.bind (Resolving.pure _) fun _ => Resolving.bind later fun _ => Resolving.pure _
  · rw [expandBases,if_neg offIt]
    refine Resolving.bind (Resolving.tryCatch expanded fun e => ?_) fun _ =>
      Resolving.bind later fun _ => Resolving.pure _
    -- a missing base becomes a leaf; any other failure is passed on
    cases e with
    | classNotFound => exact Resolving.pure _
    | _ => exact Resolving.throw _

/-- Building a hierarchy changes the registry exactly as resolving the class asked for, then
    some further names in turn. -/
theorem buildHierarchy_resolves (t : Tree) (name : String) (b : Bool) (ix : Registry) :
    ∃ rest, ((buildHierarchy t name b).run.run ix).2 = (resolveEach t ix (name :: rest)).2 := by
  have unfolded : buildHierarchy t name b = (resolveClass t name >>= fun r =>
      expandBases t b 899 [r.name] r.superclassNames >>= fun children =>
        pure (Node.node r.name children (if b then r.interfaceNames else []) false)) := by
    rw [buildHierarchy,hierarchyDepthLimit,expand]
    rfl
  rw [unfolded,run_bind]
  rcases resolved : (resolveClass t name).run.run ix with ⟨_ | r,s⟩
  · exact ⟨[],by simp [resolveEach,resolved]⟩
  · obtain ⟨later,moved⟩ := Resolving.bind ((expansion_resolving t b).2 899 [r.name] r.superclassNames)
      (fun _ => Resolving.pure _) s
    exact ⟨later,by simpa [resolveEach,resolved] using moved⟩

/-- Only resolutions change the class cache. Setting roots, searching, querying the reference
    and summarizing a subsystem leave it as it was, entries and order, whether they succeed or
    fail; a resolution that fails leaves the whole registry as it was, and one that succeeds
    moves its lowered name to the most recent end (found) or puts its record there (scanned);
    building a hierarchy changes the registry as the resolutions it makes, in turn. -/
theorem classCache_moves_only_by_resolution (t : Tree) (ix : Registry) :
    (∀ custom engine, ((configureRoots t custom engine).run.run ix).2.classes = ix.classes) ∧
    (∀ name, ResolutionEffect t name ix ((resolveClass t name).run.run ix)) ∧
    (∀ name b, ∃ rest, ((buildHierarchy t name b).run.run ix).2 = (resolveEach t ix (name :: rest)).2) ∧
    (∀ identifier, ((findReferences t identifier).run.run ix).2.classes = ix.classes) ∧
    (∀ query filePattern includeComments,
      ((searchText t query filePattern includeComments).run.run ix).2.classes = ix.classes) ∧
    (∀ text category module withExamples count,
      ((Reference.queryApi text category module withExamples count).run.run ix).2.classes = ix.classes) ∧
    (∀ name, ((analyzeSubsystem t name).run.run ix).2.classes = ix.classes) :=
  ⟨fun custom engine => configureRoots_keeps t custom engine ix,fun name => resolveClass_effect t name ix,
    fun name b => buildHierarchy_resolves t name b ix,fun identifier => findReferences_keeps t identifier ix,
    fun query filePattern includeComments => searchText_keeps t query filePattern includeComments ix,
    fun text category module withExamples count =>
      queryApi_keeps text category module withExamples count ix,
    fun name => analyzeSubsystem_keeps t name ix⟩

/-- A request to the registry, one for each operation that reads or changes it. -/
inductive Request where
  | configure (custom engine : Option String)
  | resolve (name : String)
  | hierarchy (name : String) (includeInterfaces : Bool)
  | references (identifier : String)
  | search (query filePattern : String) (includeComments : Bool)
  | query (text : String) (category module : Option String) (withExamples : Bool) (count : Int)
  | subsystem (name : String)

/-- The registry a request leaves, whether it succeeds or fails. -/
def Request.perform (t : Tree) (ix : Registry) : Request → Registry
  | .configure custom engine => ((configureRoots t custom engine).run.run ix).2
  | .resolve name => ((resolveClass t name).run.run ix).2
  | .hierarchy name b => ((buildHierarchy t name b).run.run ix).2
  | .references identifier => ((findReferences t identifier).run.run ix).2
  | .search pattern filePattern includeComments =>
    ((searchText t pattern filePattern includeComments).run.run ix).2
  | .query text category module withExamples count =>
    ((Reference.queryApi text category module withExamples count).run.run ix).2
  | .subsystem name => ((analyzeSubsystem t name).run.run ix).2

def performAll (t : Tree) (ix : Registry) (requests : List Request) : Registry :=
  requests.foldl (Request.perform t) ix

/-- One change a resolution makes to the class cache: a stored record moved to the most recent
    end, or a record put there. -/
inductive CacheStep : Recency String Record → Recency String Record → Prop
  | found {c : Recency String Record} {key : String} {r : Record} :
    c.peek key = some r → CacheStep c (c.get key).2
  | stored (c : Recency String Record) (key : String) (r : Record) : CacheStep c (c.put key (some r))

theorem resolveClass_steps (t : Tree) (name : String) (ix : Registry) :
    Relation.ReflGen CacheStep ix.classes ((resolveClass t name).run.run ix).2.classes := by
  have effect := resolveClass_effect t name ix
  rcases answer : (resolveClass t name).run.run ix with ⟨_ | r,after⟩
  · rw [answer] at effect
    cases effect
    exact .refl
  · rw [answer] at effect
    obtain ⟨-,-,⟨stored,capacity,moved⟩ | ⟨-,-,put⟩⟩ := effect
    · have same : after.classes = (ix.classes.get (Text.lower name)).2 := by
        rw [Recency.get,stored]
        cases held : after.classes
        simp_all
      exact .single (same ▸ .found stored)
    · exact .single (put ▸ .stored _ _ _)

theorem resolveEach_steps (t : Tree) (ix : Registry) (names : List String) :
    Relation.ReflTransGen CacheStep ix.classes (resolveEach t ix names).2.classes := by
  induction names generalizing ix with
  | nil => exact .refl
  | cons name rest ih =>
    exact (resolveClass_steps t name ix).to_reflTransGen.trans (by simpa [resolveEach] using ih _)

/-- Along any sequence of requests, the class cache moves only by the steps resolutions take. -/
theorem performAll_cacheSteps (t : Tree) (ix : Registry) (requests : List Request) :
    Relation.ReflTransGen CacheStep ix.classes (performAll t ix requests).classes := by
  induction requests generalizing ix with
  | nil => exact .refl
  | cons request rest ih =>
    refine .trans ?_ (ih (request.perform t ix))
    have kept {α : Type} (m : IndexM α) (keeps : KeepsClasses m) :
        Relation.ReflTransGen CacheStep ix.classes (m.run.run ix).2.classes := by
      rw [keeps ix]
    cases request with
    | configure custom engine => exact kept _ (configureRoots_keeps t custom engine)
    | resolve name => exact (resolveClass_steps t name ix).to_reflTransGen
    | hierarchy name b =>
      obtain ⟨rest,moved⟩ := buildHierarchy_resolves t name b ix
      simpa [Request.perform,moved] using resolveEach_steps t ix (name :: rest)
    | references identifier => exact kept _ (findReferences_keeps t identifier)
    | search pattern filePattern includeComments =>
      exact kept _ (searchText_keeps t pattern filePattern includeComments)
    | query text category module withExamples count =>
      exact kept _ (queryApi_keeps text category module withExamples count)
    | subsystem name => exact kept _ (analyzeSubsystem_keeps t name)

end ClassAtlas.Index
