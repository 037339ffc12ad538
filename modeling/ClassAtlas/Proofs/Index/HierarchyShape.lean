import ClassAtlas.Proofs.Index.CacheFrame

/-!
The shape of a superclass tree. Resolution determines a tree for every class (`Grows`): a base
resolving to a class already on the path from the root closes a cycle, a base not found is a
plain leaf, and any other base is expanded in turn. So no class is expanded twice on one path, a
class reached along two branches is expanded on each, and the tree is at most one node deeper
than the number of classes it reaches (`Grows.depth_add_length_le`).

The expansion builds that tree, within its depth limit, whenever every name it asks for is
spelled as its class is declared and names that lower alike are matched alike
(`hierarchy_grows_when_spelled_as_declared`): the path then holds names that resolve to
themselves, so the on-path test, which compares spellings, agrees with resolution, and the
classes not yet on the path run out before the fuel does. A base naming its own class in
another case breaks the first condition: it resolves to the class on the path, which the
spelling test misses, and the class is expanded below itself until the depth limit
(`expandBases_repeats_case_variant`, `case_variant_base_exhausts_depth`).
-/

namespace ClassAtlas.Index

open ClassAtlas.Files ClassAtlas.Source ClassAtlas.Cache

mutual

/-- The number of nodes on a longest path from the root to a leaf. -/
def Node.depth : Node → Nat
  | .node _ sups _ _ => Node.depthOf sups + 1

def Node.depthOf : List Node → Nat
  | [] => 0
  | n :: rest => max n.depth (Node.depthOf rest)

end

@[simp] theorem Node.depth_leaf (name : String) (cycle : Bool) : (Node.leaf name cycle).depth = 1 := rfl

mutual

/-- `node` is the tree of `name` below the declared names `path` when every class is taken as
    `res` resolves it. -/
inductive Grows (res : String → Except Failure Record) (withIfaces : Bool) :
    List String → String → Node → Prop
  | node {path name children} {r : Record} : res name = .ok r →
      GrowsBases res withIfaces (path ++ [r.name]) r.superclassNames children →
      Grows res withIfaces path name
        (.node r.name children (if withIfaces then r.interfaceNames else []) false)

/-- `children` are the trees of the superclasses `bases` of a class whose path is `onPath`: a
    class already on the path closes a cycle, a class not found is a plain leaf, and any other
    class is expanded. -/
inductive GrowsBases (res : String → Except Failure Record) (withIfaces : Bool) :
    List String → List String → List Node → Prop
  | nil {onPath} : GrowsBases res withIfaces onPath [] []
  | cycle {onPath base rest children} {r : Record} : res base = .ok r → r.name ∈ onPath →
      GrowsBases res withIfaces onPath rest children →
      GrowsBases res withIfaces onPath (base :: rest) (Node.leaf base true :: children)
  | missing {onPath base rest children} : res base = .error (.classNotFound base) →
      GrowsBases res withIfaces onPath rest children →
      GrowsBases res withIfaces onPath (base :: rest) (Node.leaf base false :: children)
  | expanded {onPath base rest child children} {r : Record} : res base = .ok r → r.name ∉ onPath →
      Grows res withIfaces onPath base child → GrowsBases res withIfaces onPath rest children →
      GrowsBases res withIfaces onPath (base :: rest) (child :: children)

end

section Depth

variable {res : String → Except Failure Record} {withIfaces : Bool} (reached : String → Prop)
  {classes : List String}

mutual

/-- A tree grown below a path of distinct classes adds at most one node past the classes not yet
    on the path. -/
theorem Grows.depth_add_length_le {path : List String} {name : String} {node : Node}
    (grown : Grows res withIfaces path name node) (asked : reached name)
    (closed : ∀ n r b, reached n → res n = .ok r → b ∈ r.superclassNames → reached b)
    (counted : ∀ n r, reached n → res n = .ok r → r.name ∈ classes)
    (distinct : path.Nodup) (onPath : path ⊆ classes) (fresh : ∀ r, res name = .ok r → r.name ∉ path) :
    node.depth + path.length ≤ classes.length + 1 :=
  match grown with
  | @Grows.node _ _ _ _ _ r found bases => by
    have longer : (path ++ [r.name]).Nodup :=
      List.nodup_append.mpr ⟨distinct,List.nodup_singleton _,
        fun a member b single same => by
          rw [List.mem_singleton] at single
          rw [same,single] at member
          exact fresh r found member⟩
    have within : path ++ [r.name] ⊆ classes :=
      List.append_subset.mpr ⟨onPath,by simpa using counted name r asked found⟩
    have below := GrowsBases.depthOf_add_length_le bases (fun b member => closed name r b asked found member)
      closed counted longer within
    simp only [Node.depth,List.length_append,List.length_singleton] at below ⊢
    omega

theorem GrowsBases.depthOf_add_length_le {onPath bases : List String} {children : List Node}
    (grown : GrowsBases res withIfaces onPath bases children) (asked : ∀ b ∈ bases, reached b)
    (closed : ∀ n r b, reached n → res n = .ok r → b ∈ r.superclassNames → reached b)
    (counted : ∀ n r, reached n → res n = .ok r → r.name ∈ classes)
    (distinct : onPath.Nodup) (onPath_sub : onPath ⊆ classes) :
    Node.depthOf children + onPath.length ≤ classes.length + 1 := by
  have fits := (List.subperm_of_subset distinct onPath_sub).length_le
  match grown with
  | .nil => simp only [Node.depthOf]; omega
  | .cycle _ _ rest =>
    have later := GrowsBases.depthOf_add_length_le rest (fun b member => asked b (.tail _ member))
      closed counted distinct onPath_sub
    simp only [Node.depthOf,Node.depth_leaf]
    omega
  | .missing _ rest =>
    have later := GrowsBases.depthOf_add_length_le rest (fun b member => asked b (.tail _ member))
      closed counted distinct onPath_sub
    simp only [Node.depthOf,Node.depth_leaf]
    omega
  | .expanded found off child rest =>
    have first := Grows.depth_add_length_le child (asked _ List.mem_cons_self) closed counted distinct
      onPath_sub fun r' found' => by rw [found] at found'; cases found'; exact off
    have later := GrowsBases.depthOf_add_length_le rest (fun b member => asked b (.tail _ member))
      closed counted distinct onPath_sub
    simp only [Node.depthOf]
    omega

end

end Depth

/-! ### The expansion follows resolution -/

/-- The names a hierarchy of `root` asks to resolve: the root, and each base of a class the
    scan finds for a name asked. -/
inductive Asks (t : Tree) (roots : Roots) (root : String) : String → Prop
  | root : Asks t roots root root
  | base {name base : String} {r : Record} : Asks t roots root name →
      scanClass t roots name = .ok r → base ∈ r.superclassNames → Asks t roots root base

/-- When the expansion of `root` follows resolution: names asked that lower alike are matched
    alike, a name asked that resolves is its class's declared name, and `classes` holds every
    class reached. -/
structure SpelledAsDeclared (t : Tree) (roots : Roots) (root : String) (classes : List String) :
    Prop where
  alike : ∀ a b, Asks t roots root a → Asks t roots root b → Text.lower a = Text.lower b →
    SpelledAlike a b
  named : ∀ a r, Asks t roots root a → scanClass t roots a = .ok r → r.name = a
  counted : ∀ a r, Asks t roots root a → scanClass t roots a = .ok r → a ∈ classes

theorem scanClass_error_of_ok {t : Tree} {roots : Roots} {a b : String} {e : Failure} {r : Record}
    (refused : scanClass t roots a = .error e) (found : scanClass t roots b = .ok r) :
    e = .classNotFound a := by
  unfold scanClass at refused found
  split at found
  · cases found
  · next searchable =>
    rw [if_neg searchable] at refused
    split at refused
    · cases refused
    · cases refused
      rfl

section Expansion

variable {t : Tree} {roots : Roots} {root : String} {classes : List String}

/-- The registry along an expansion of `root`: its roots are `roots`, and its class cache is
    sound for names resolved before, each matched alike with every name asked that it lowers
    like. -/
def Tracks (t : Tree) (roots : Roots) (root : String) (ix : Registry) : Prop :=
  ix.roots = roots ∧ ∃ seen, (∀ a ∈ seen, ∀ b, Asks t roots root b →
    Text.lower a = Text.lower b → SpelledAlike a b) ∧ CacheSound t ix seen

theorem Tracks.fresh (t : Tree) (roots : Roots) (root : String) (m : Nat)
    (es : Recency String Reference.Entry) : Tracks t roots root ⟨roots,Recency.empty m,es⟩ :=
  ⟨rfl,[],(fun _ member => nomatch member),CacheSound.empty t roots m es⟩

variable {ix : Registry} {n : String}

theorem Tracks.resolve (tracks : Tracks t roots root ix) (spelled : SpelledAsDeclared t roots root classes)
    (asked : Asks t roots root n) : Tracks t roots root ((resolveClass t n).run.run ix).2 := by
  obtain ⟨rooted,seen,compatible,sound⟩ := tracks
  refine ⟨(resolveClass_roots t ix n).trans rooted,n :: seen,fun a member => ?_,sound.resolve n⟩
  rcases List.mem_cons.mp member with rfl | earlier
  · exact fun b asked' => spelled.alike a b asked asked'
  · exact compatible a earlier

theorem Tracks.answer (tracks : Tracks t roots root ix) (asked : Asks t roots root n) :
    ((resolveClass t n).run.run ix).1 = scanClass t roots n := by
  obtain ⟨rooted,seen,compatible,sound⟩ := tracks
  rw [sound.resolve_answer n fun a member same => compatible a member n asked same,rooted]

theorem resolveClass_refused {e : Failure} (refused : ((resolveClass t n).run.run ix).1 = .error e) :
    (resolveClass t n).run.run ix = (.error e,ix) := by
  have effect := resolveClass_effect t n ix
  rcases ran : (resolveClass t n).run.run ix with ⟨_ | r,s⟩
  · rw [ran] at refused effect
    cases refused
    rw [show s = ix from effect]
  · rw [ran] at refused
    cases refused

theorem expand_refused {b : Bool} {fuel : Nat} {path : List String} {e : Failure}
    (refused : (resolveClass t n).run.run ix = (.error e,ix)) :
    (expand t b (fuel + 1) path n).run.run ix = (.error e,ix) := by
  rw [expand,run_bind,refused]

/-- A path the expansion of `root` can be on: distinct names, each asked and resolving. -/
def WalkedPath (t : Tree) (roots : Roots) (root : String) (path : List String) : Prop :=
  path.Nodup ∧ ∀ x ∈ path, Asks t roots root x ∧ ∃ r, scanClass t roots x = .ok r

theorem WalkedPath.snoc {path : List String} {r : Record} (walked : WalkedPath t roots root path)
    (asked : Asks t roots root n) (found : scanClass t roots n = .ok r) (fresh : n ∉ path) :
    WalkedPath t roots root (path ++ [n]) := by
  refine ⟨List.nodup_append.mpr ⟨walked.1,List.nodup_singleton _,fun a member b single same => ?_⟩,
    fun x member => ?_⟩
  · rw [List.mem_singleton] at single
    rw [same,single] at member
    exact fresh member
  · rcases List.mem_append.mp member with earlier | last
    · exact walked.2 x earlier
    · rw [List.mem_singleton.mp last]
      exact ⟨asked,r,found⟩

theorem WalkedPath.length_le {path : List String} (walked : WalkedPath t roots root path)
    (spelled : SpelledAsDeclared t roots root classes) : path.length ≤ classes.length := by
  refine (List.subperm_of_subset walked.1 fun x member => ?_).length_le
  obtain ⟨asked,r,found⟩ := walked.2 x member
  exact spelled.counted x r asked found

/-- The step and run lemmas of the expansion at once: expanding a name asked, or the bases of a
    class, on a walked path with fuel beyond the classes not yet on it, succeeds with the tree
    that resolution determines and keeps the registry tracking. -/
theorem expansion_grows (spelled : SpelledAsDeclared t roots root classes) {rootRecord : Record}
    (resolves : scanClass t roots root = .ok rootRecord) (b : Bool) :
    (∀ fuel path name ix, Tracks t roots root ix → Asks t roots root name →
      (∃ r, scanClass t roots name = .ok r) → name ∉ path → WalkedPath t roots root path →
      classes.length < fuel + path.length →
      ∃ node s, (expand t b fuel path name).run.run ix = (.ok node,s) ∧ Tracks t roots root s ∧
        Grows (scanClass t roots) b path name node) ∧
    ∀ fuel onPath bases ix, Tracks t roots root ix → (∀ base ∈ bases, Asks t roots root base) →
      WalkedPath t roots root onPath → classes.length < fuel + onPath.length →
      ∃ children s, (expandBases t b fuel onPath bases).run.run ix = (.ok children,s) ∧
        Tracks t roots root s ∧ GrowsBases (scanClass t roots) b onPath bases children := by
  refine expand.mutual_induct t b _ _ (fun path name => ?_) (fun fuel path name bases => ?_)
    (fun fuel onPath => ?_) (fun fuel onPath base rest onIt later => ?_)
    (fun fuel onPath base rest offIt later expanded => ?_)
  · -- no fuel is left only past more classes than there are
    intro ix _ asked resolving fresh walked few
    obtain ⟨r,found⟩ := resolving
    have fits := (walked.snoc asked found fresh).length_le spelled
    simp only [List.length_append,List.length_singleton] at fits
    omega
  · intro ix tracks asked resolving fresh walked few
    obtain ⟨r,found⟩ := resolving
    have answered := tracks.answer asked
    rw [found] at answered
    have self : r.name = name := spelled.named name r asked found
    obtain ⟨children,s,ran,tracks',grown⟩ :=
      bases r _ (tracks.resolve spelled asked) (fun _ member => .base asked found member)
        (self ▸ walked.snoc asked found fresh) (by simp only [List.length_append,List.length_singleton]; omega)
    refine ⟨_,s,?_,tracks',.node found grown⟩
    have resolved : (resolveClass t name).run.run ix = (.ok r,((resolveClass t name).run.run ix).2) :=
      Prod.ext answered rfl
    rw [expand,run_bind,resolved]
    dsimp only
    rw [run_bind,ran]
    rfl
  · intro ix tracks _ _ _
    exact ⟨[],ix,by rw [expandBases]; rfl,tracks,.nil⟩
  · -- a base on the path resolves to itself, a class on the path
    intro ix tracks asked walked few
    have member : base ∈ onPath := List.contains_iff_mem.mp onIt
    obtain ⟨baseAsked,r,found⟩ := walked.2 base member
    obtain ⟨children,s,ran,tracks',grown⟩ :=
      later ix tracks (fun b member => asked b (List.mem_cons_of_mem _ member)) walked few
    refine ⟨_,s,?_,tracks',.cycle found (by rw [spelled.named base r baseAsked found]; exact member) grown⟩
    rw [expandBases,if_pos onIt,run_bind,run_pure]
    dsimp only
    rw [run_bind,ran]
    rfl
  · intro ix tracks asked walked few
    have absent : base ∉ onPath := fun member => offIt (List.contains_iff_mem.mpr member)
    have baseAsked := asked base List.mem_cons_self
    have laterAsked : ∀ b ∈ rest, Asks t roots root b := fun b member => asked b (List.mem_cons_of_mem _ member)
    cases scanned : scanClass t roots base with
    | ok r =>
      obtain ⟨child,s,ran,tracks',grown⟩ := expanded ix tracks baseAsked ⟨r,scanned⟩ absent walked few
      obtain ⟨children,s',ran',tracks'',grownRest⟩ := later s tracks' laterAsked walked few
      refine ⟨_,s',?_,tracks'',.expanded scanned (by rw [spelled.named base r baseAsked scanned]; exact absent)
        grown grownRest⟩
      rw [expandBases,if_neg offIt,run_bind,run_tryCatch,ran]
      dsimp only
      rw [run_bind,ran']
      rfl
    | error e =>
      -- a base not found is refused as such, and some fuel is left to find that out
      have notFound : e = .classNotFound base := scanClass_error_of_ok scanned resolves
      have positive : 0 < fuel := by
        have := walked.length_le spelled
        omega
      obtain ⟨f,rfl⟩ := Nat.exists_eq_add_of_lt positive
      have answered := tracks.answer baseAsked
      rw [scanned,notFound] at answered
      obtain ⟨children,s,ran,tracks',grownRest⟩ := later ix tracks laterAsked walked few
      refine ⟨_,s,?_,tracks',.missing (by rw [scanned,notFound]) grownRest⟩
      rw [expandBases,if_neg offIt,run_bind,run_tryCatch,expand_refused (resolveClass_refused answered)]
      dsimp only
      rw [run_pure]
      dsimp only
      rw [run_bind,ran]
      rfl

end Expansion

/-- The superclass tree of a class that resolves, built on a registry whose cache agrees with the
    names asked, is the tree resolution determines, with depth at most one past the classes
    reached, provided every name asked is spelled as declared, names lowering alike are matched
    alike, and fewer classes are reached than the depth limit. -/
theorem hierarchy_grows_when_spelled_as_declared (t : Tree) (roots : Roots) (ix : Registry)
    (name : String) (b : Bool) (classes : List String) {r : Record}
    (resolves : scanClass t roots name = .ok r) (tracks : Tracks t roots name ix)
    (spelled : SpelledAsDeclared t roots name classes) (few : classes.length < hierarchyDepthLimit) :
    ∃ node, ((buildHierarchy t name b).run.run ix).1 = .ok node ∧
      Grows (scanClass t roots) b [] name node ∧ node.depth ≤ classes.length + 1 := by
  obtain ⟨node,s,ran,-,grown⟩ := (expansion_grows spelled resolves b).1 hierarchyDepthLimit [] name ix
    tracks .root ⟨r,resolves⟩ List.not_mem_nil ⟨List.nodup_nil,fun _ member => nomatch member⟩
    (by simpa using few)
  -- the classes reached are those of names asked, which the cycle test leaves on the path
  have deep := grown.depth_add_length_le (Asks t roots name) .root
    (fun _ _ _ asked found member => .base asked found member)
    (fun n r asked found => by rw [spelled.named n r asked found]; exact spelled.counted n r asked found)
    List.nodup_nil (List.nil_subset _) fun _ _ => List.not_mem_nil
  exact ⟨node,by rw [buildHierarchy,ran],grown,by simpa using deep⟩

/-- A class inheriting from itself, spelled alike: its tree is the class over one leaf closing the
    cycle. -/
theorem self_inheritance_grows :
    let t : Tree := ⟨[["P"]],[(["P","A.h"],"class ASelf : public ASelf {};\n".toUTF8)]⟩
    let roots : Roots := ⟨some ["P"],none⟩
    let ix : Registry := ⟨roots,Recency.empty defaultCapacity,Recency.empty defaultCapacity⟩
    let self : Record := ⟨"ASelf","/P/A.h",1,["ASelf"],[],[],[]⟩
    scanClass t roots "ASelf" = .ok self ∧ Tracks t roots "ASelf" ix ∧
      SpelledAsDeclared t roots "ASelf" ["ASelf"] ∧ ["ASelf"].length < hierarchyDepthLimit ∧
      ∃ node, ((buildHierarchy t "ASelf" true).run.run ix).1 = .ok node ∧
        Grows (scanClass t roots) true [] "ASelf" node ∧ node.depth ≤ ["ASelf"].length + 1 := by
  intro t roots ix self
  have scanned : scanClass t roots "ASelf" = .ok self := by decide +kernel
  -- the only name ever asked is the class itself
  have only : ∀ a, Asks t roots "ASelf" a → a = "ASelf" := by
    intro a asked
    induction asked with
    | root => rfl
    | base _ found member earlier =>
      subst earlier
      rw [scanned] at found
      cases found
      simpa [self] using member
  have spelled : SpelledAsDeclared t roots "ASelf" ["ASelf"] := by
    refine ⟨fun a b asked asked' _ => ?_,fun a r asked found => ?_,fun a _ asked _ => ?_⟩
    · rw [only a asked,only b asked']
      exact SpelledAlike.refl _
    · rw [only a asked,scanned] at found
      cases found
      rw [only a asked]
    · simp [only a asked]
  have few : ["ASelf"].length < hierarchyDepthLimit := by decide
  have tracks := Tracks.fresh t roots "ASelf" defaultCapacity (Recency.empty defaultCapacity)
  exact ⟨scanned,tracks,spelled,few,
    hierarchy_grows_when_spelled_as_declared t roots ix "ASelf" true ["ASelf"] scanned tracks spelled few⟩

/-! ### A base spelled in another case -/

/-- A class whose first base names it in another case is expanded again below itself at every
    level: the base resolves to the cached class, whose declared name is all the path holds, so
    the expansion runs out of depth. -/
theorem expandBases_repeats_case_variant (t : Tree) (b : Bool) {variant : String} {r : Record}
    {rest : List String} (first : r.superclassNames = variant :: rest) (apart : variant ≠ r.name) : ∀ fuel path ix, ix.classes.peek (Text.lower variant) = some r → variant ∉ path →
      ∃ s, (expandBases t b fuel (path ++ [r.name]) r.superclassNames).run.run ix = (.error .tooDeep,s) := by
  intro fuel
  induction fuel with
  | zero =>
    intro path ix _ off
    have off' : ¬ (path ++ [r.name]).contains variant = true := by simp [off,apart]
    refine ⟨ix,?_⟩
    rw [first,expandBases,if_neg off',run_bind,run_tryCatch,expand]
    rfl
  | succ fuel deeper =>
    intro path ix cached off
    have off' : ¬ (path ++ [r.name]).contains variant = true := by simp [off,apart]
    have hit : (ix.classes.get (Text.lower variant)).1 = some r := by rw [Recency.get_fst]; exact cached
    obtain ⟨s,ran⟩ := deeper (path ++ [r.name]) { ix with classes := (ix.classes.get (Text.lower variant)).2 }
      (Recency.peek_get_snd cached) (by simp [off,apart])
    refine ⟨s,?_⟩
    rw [first,expandBases,if_neg off',run_bind,run_tryCatch,expand,run_bind,resolveClass_of_cached hit]
    dsimp only
    rw [run_bind,ran]
    rfl

theorem case_variant_base_exhausts_depth :
    let t : Tree := ⟨[["P"]],[(["P","A.h"],"class AFoo : public afoo {};\n".toUTF8)]⟩
    let roots : Roots := ⟨some ["P"],none⟩
    let foo : Record := ⟨"AFoo","/P/A.h",1,["afoo"],[],[],[]⟩
    scanClass t roots "AFoo" = .ok foo ∧ scanClass t roots "afoo" = .ok foo ∧
      ((buildHierarchy t "AFoo" true).run.run ⟨roots,Recency.empty defaultCapacity,Recency.empty defaultCapacity⟩).1 =
        .error .tooDeep := by
  intro t roots foo
  have scanned : scanClass t roots "AFoo" = .ok foo := by decide +kernel
  have variant : scanClass t roots "afoo" = .ok foo := by decide +kernel
  have cached : ((Recency.empty defaultCapacity).put (Text.lower "AFoo") (some foo)).peek (Text.lower "afoo") = some foo := by
    decide +kernel
  refine ⟨scanned,variant,?_⟩
  obtain ⟨s,ran⟩ := expandBases_repeats_case_variant t true (show foo.superclassNames = ["afoo"] from rfl)
    (by decide +kernel) 899 [] ⟨roots,(Recency.empty defaultCapacity).put (Text.lower "AFoo") (some foo),
      Recency.empty defaultCapacity⟩ cached List.not_mem_nil
  rw [buildHierarchy,hierarchyDepthLimit,expand,run_bind,resolveClass_of_missing rfl]
  dsimp only
  rw [scanned]
  dsimp only
  rw [run_bind,ran]

end ClassAtlas.Index
