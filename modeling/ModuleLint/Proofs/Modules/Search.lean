import Mathlib.Data.List.Chain
import ModuleLint.Proofs.Modules.Reach

/-
  The search for cycles.

  At every moment the modules visited are those on the way and
  those that the search has left for good.  Whatever a module
  of the latter kind imports was left before it, or a cycle on
  record is closed by that import.

  Main declarations:
    * `Cycle.Closes`, `Cycle.IsIn`
    * `CycleSearch.Settled`, `CycleSearch.Valid`
    * `CycleSearch.valid_record`
    * `CycleSearch.visits`, `CycleSearch.valid_run`
-/

namespace ModuleLint

------------------------------------------------------------
-- Cycles of a Graph
------------------------------------------------------------

namespace Cycle

/- The last module of the cycle and the first one. -/
def Closes
    (c : Cycle)
    (a b : String) : Prop :=
  c.modules.getLast? = some a ∧ c.modules.head? = some b

/- The modules import one after the other, and each is once. -/
structure IsIn
    (g : ModuleGraph)
    (c : Cycle) : Prop where
  notEmpty : c.modules ≠ []
  nodup : c.modules.Nodup
  known : ∀ m ∈ c.modules, g.contains m = true
  linked : c.modules.IsChain g.Imports
  closed : ∀ a b, c.Closes a b → g.Imports a b

end Cycle

------------------------------------------------------------
-- Ways Within a List
------------------------------------------------------------

/- Parts of a list are the same if they have the same members. -/
theorem eq_of_sublist_of_perm
    {α : Type}
    {as bs xs : List α}
    (hNodup : xs.Nodup)
    (hAs : as.Sublist xs)
    (hBs : bs.Sublist xs)
    (hPerm : as.Perm bs) :
    as = bs := by
  induction xs generalizing as bs with
  | nil => rw [List.sublist_nil.mp hAs, List.sublist_nil.mp hBs]
  | cons x xs ih =>
      rw [List.nodup_cons] at hNodup
      cases hAs with
      | cons _ hAs =>
          cases hBs with
          | cons _ hBs => exact ih hNodup.2 hAs hBs hPerm
          | cons_cons _ hBs =>
              have hMem := hPerm.mem_iff.mpr List.mem_cons_self
              exact absurd (hAs.subset hMem) hNodup.1
      | cons_cons _ hAs =>
          cases hBs with
          | cons _ hBs =>
              have hMem := hPerm.mem_iff.mp List.mem_cons_self
              exact absurd (hBs.subset hMem) hNodup.1
          | cons_cons _ hBs =>
              rw [ih hNodup.2 hAs hBs hPerm.cons_inv]

theorem isPrefix_takeWhile_append
    {next : String}
    {way : List String}
    (hMem : next ∈ way) :
    (way.takeWhile (· != next) ++ [next]) <+: way := by
  induction way with
  | nil => cases hMem
  | cons name way ih =>
      by_cases hName : name = next
      · subst hName
        simp
      · rw [List.takeWhile_cons_of_pos (by simpa using hName),
          List.cons_append, List.cons_prefix_cons]
        refine ⟨rfl, ih ?_⟩
        rcases List.mem_cons.mp hMem with hHead | hTail
        · exact absurd hHead.symm hName
        · exact hTail

namespace CycleSearch

variable {g : ModuleGraph}
variable {cyclic : List String}

theorem closing_closes
    (name : String)
    (way : List String)
    (next : String) :
    (closing (name :: way) next).Closes name next := by
  unfold closing Cycle.Closes
  refine ⟨?_, by simp⟩
  rw [List.getLast?_reverse]
  by_cases hName : name = next
  · simp [hName]
  · simp [hName]

/- An import back into the way closes a cycle. -/
theorem closing_isIn
    {name next : String}
    {way : List String}
    (hNodup : (name :: way).Nodup)
    (hKnown : ∀ m ∈ name :: way, g.contains m = true)
    (hLinked :
      (name :: way).IsChain (fun a b => g.Imports b a))
    (hNext : next ∈ name :: way)
    (hImports : g.Imports name next) :
    (closing (name :: way) next).IsIn g := by
  have hPrefix := isPrefix_takeWhile_append hNext
  have hFront := List.IsChain.prefix hLinked hPrefix
  refine
    { notEmpty := by simp [closing]
      nodup :=
        (List.reverse_perm _).nodup_iff.mpr
          (hNodup.sublist hPrefix.sublist)
      known := ?_
      linked := List.isChain_reverse.mpr hFront
      closed := ?_ }
  · intro m hMem
    exact hKnown m (hPrefix.subset (List.mem_reverse.mp hMem))
  · intro a b hCloses
    rcases closing_closes name way next with ⟨hLast, hHead⟩
    rw [Cycle.Closes, hLast, hHead, Option.some_inj,
      Option.some_inj] at hCloses
    rw [← hCloses.1, ← hCloses.2]
    exact hImports

------------------------------------------------------------
-- What Holds During a Search
------------------------------------------------------------

/-
  The modules that the search has left, last one first.  What
  they import was left before, unless it closes a cycle.
-/
inductive Settled
    (g : ModuleGraph)
    (cyclic : List String)
    (found : List Cycle) : List String → Prop
| nil :
    Settled g cyclic found []
| cons
    {a : String}
    {left : List String}
    (hImports :
      ∀ b, g.Imports a b → b ∈ cyclic →
        b ∈ left ∨ ∃ c ∈ found, c.Closes a b)
    (hLeft : Settled g cyclic found left) :
    Settled g cyclic found (a :: left)

theorem Settled.mono
    {found found' : List Cycle}
    (hMore : ∀ c ∈ found, c ∈ found')
    {left : List String}
    (hSettled : Settled g cyclic found left) :
    Settled g cyclic found' left := by
  induction hSettled with
  | nil => exact .nil
  | cons hImports _ ih =>
      refine .cons ?_ ih
      intro b hB hCyclic
      rcases hImports b hB hCyclic with hLeft | ⟨c, hC, hCloses⟩
      · exact Or.inl hLeft
      · exact Or.inr ⟨c, hMore c hC, hCloses⟩

/-
  What holds of a search with a way and the modules it has
  left.  Modules come into the list of those visited when the
  way comes to them, so the way and every cycle on record are
  parts of that list, in its order.
-/
structure Valid
    (g : ModuleGraph)
    (cyclic way left : List String)
    (s : CycleSearch) : Prop where
  nodup : s.visited.Nodup
  known : ∀ m ∈ s.visited, g.contains m = true
  onWay : way.Sublist s.visited
  linked : way.IsChain (fun a b => g.Imports b a)
  visited : s.visited.Perm (way ++ left)
  found :
    ∀ c ∈ s.found,
      c.modules.reverse.Sublist s.visited ∧ c.IsIn g
  distinct :
    s.found.Pairwise (fun c d => ¬ c.modules.Perm d.modules)
  settled : Settled g cyclic s.found left

section

variable {way left : List String}
variable {s : CycleSearch}
variable {name next : String}

/- The search comes to a module. -/
theorem Valid.enter
    (hValid : Valid g cyclic way left s)
    (hNew : name ∉ s.visited)
    (hKnown : g.contains name = true)
    (hLinked :
      (name :: way).IsChain (fun a b => g.Imports b a)) :
    Valid g cyclic (name :: way) left
      { s with visited := name :: s.visited } where
  nodup := List.nodup_cons.mpr ⟨hNew, hValid.nodup⟩
  known := List.forall_mem_cons.mpr ⟨hKnown, hValid.known⟩
  onWay := hValid.onWay.cons_cons name
  linked := hLinked
  visited := hValid.visited.cons name
  found := fun c hC =>
    ⟨(hValid.found c hC).1.cons name, (hValid.found c hC).2⟩
  distinct := hValid.distinct
  settled := hValid.settled

/- The search leaves a module. -/
theorem Valid.leave
    (hValid : Valid g cyclic (name :: way) left s)
    (hImports :
      ∀ b, g.Imports name b → b ∈ cyclic →
        b ∈ left ∨ ∃ c ∈ s.found, c.Closes name b) :
    Valid g cyclic way (name :: left) s where
  nodup := hValid.nodup
  known := hValid.known
  onWay := (List.sublist_cons_self name way).trans hValid.onWay
  linked := hValid.linked.tail
  visited := hValid.visited.trans List.perm_middle.symm
  found := hValid.found
  distinct := hValid.distinct
  settled := .cons hImports hValid.settled

/-
  An import back into the way is put on record.  A cycle with
  the same modules on record is the same cycle, since both are
  parts of the list of modules visited.
-/
theorem valid_record
    (hValid : Valid g cyclic (name :: way) left s)
    (hNext : next ∈ name :: way)
    (hImports : g.Imports name next) :
    Valid g cyclic (name :: way) left
        (s.record (closing (name :: way) next)) ∧
      (∀ c ∈ s.found,
        c ∈ (s.record (closing (name :: way) next)).found) ∧
      closing (name :: way) next ∈
        (s.record (closing (name :: way) next)).found := by
  have hPart :
      (closing (name :: way) next).modules.reverse.Sublist
        s.visited := by
    rw [closing, List.reverse_reverse]
    exact (isPrefix_takeWhile_append hNext).sublist.trans
      hValid.onWay
  have hIsIn : (closing (name :: way) next).IsIn g :=
    closing_isIn (hValid.nodup.sublist hValid.onWay)
      (fun m hMem => hValid.known m (hValid.onWay.subset hMem))
      hValid.linked hNext hImports
  unfold record
  by_cases hAny :
      s.found.any (closing (name :: way) next).sameModules =
        true
  · rw [if_pos hAny]
    refine ⟨hValid, fun c hC => hC, ?_⟩
    rcases List.any_eq_true.mp hAny with ⟨c, hC, hSame⟩
    have hPerm := List.isPerm_iff.mp hSame
    have hReverse :=
      eq_of_sublist_of_perm hValid.nodup hPart
        (hValid.found c hC).1
        ((List.reverse_perm _).trans
          (hPerm.trans (List.reverse_perm _).symm))
    have hEq : closing (name :: way) next = c :=
      congrArg Cycle.mk (List.reverse_injective hReverse)
    rw [hEq]
    exact hC
  · rw [if_neg hAny]
    have hMore :
        ∀ c ∈ s.found,
          c ∈ closing (name :: way) next :: s.found :=
      fun c hC => List.mem_cons_of_mem _ hC
    refine ⟨?_, hMore, List.mem_cons_self⟩
    exact
      { hValid with
        found :=
          List.forall_mem_cons.mpr
            ⟨⟨hPart, hIsIn⟩, hValid.found⟩
        distinct := by
          refine List.pairwise_cons.mpr ⟨?_, hValid.distinct⟩
          intro d hD hPerm
          exact hAny (List.any_eq_true.mpr
            ⟨d, hD, List.isPerm_iff.mpr hPerm⟩)
        settled := hValid.settled.mono hMore }

------------------------------------------------------------
-- Steps of the Search
------------------------------------------------------------

/- One import of the first module of the way is looked at. -/
def look
    (g : ModuleGraph)
    (cyclic : List String)
    (depth : Nat)
    (way : List String)
    (s : CycleSearch)
    (next : String) : CycleSearch :=
  if !cyclic.contains next then s
  else if way.contains next then s.record (closing way next)
  else if s.visited.contains next then s
  else visit g cyclic depth way next s

theorem visit_succ
    (g : ModuleGraph)
    (cyclic : List String)
    (depth : Nat)
    (way : List String)
    (name : String)
    (s : CycleSearch) :
    visit g cyclic (depth + 1) way name s =
      (g.successors name).foldl
        (look g cyclic depth (name :: way))
        { s with visited := name :: s.visited } := rfl

/-
  A later moment of a search with the same way: it has left
  more modules, and has more cycles on record.
-/
structure Later
    (g : ModuleGraph)
    (cyclic way left : List String)
    (s : CycleSearch)
    (left' : List String)
    (s' : CycleSearch) : Prop where
  valid : Valid g cyclic way left' s'
  left : ∀ m ∈ left, m ∈ left'
  found : ∀ c ∈ s.found, c ∈ s'.found

theorem Later.refl
    (hValid : Valid g cyclic way left s) :
    Later g cyclic way left s left s :=
  ⟨hValid, fun _ hM => hM, fun _ hC => hC⟩

theorem Later.trans
    {left' left'' : List String}
    {s' s'' : CycleSearch}
    (hFirst : Later g cyclic way left s left' s')
    (hSecond : Later g cyclic way left' s' left'' s'') :
    Later g cyclic way left s left'' s'' :=
  ⟨hSecond.valid,
    fun m hM => hSecond.left m (hFirst.left m hM),
    fun c hC => hSecond.found c (hFirst.found c hC)⟩

/- A visit to a module leaves it, and is a valid search. -/
def Visits
    (g : ModuleGraph)
    (cyclic : List String)
    (depth : Nat) : Prop :=
  ∀ way left s name,
    Valid g cyclic way left s →
      name ∉ s.visited →
        g.contains name = true →
          (name :: way).IsChain (fun a b => g.Imports b a) →
            g.size ≤ way.length + depth →
              ∃ left',
                name ∈ left' ∧
                  Later g cyclic way left s left'
                    (visit g cyclic depth way name s)

/-
  After a look at an import, what is imported has been left or
  closes a cycle on record.
-/
theorem later_look
    {depth : Nat}
    (hVisits : Visits g cyclic depth)
    (hDepth : g.size ≤ (name :: way).length + depth)
    (hValid : Valid g cyclic (name :: way) left s)
    (hImports : g.Imports name next) :
    ∃ left',
      Later g cyclic (name :: way) left s left'
          (look g cyclic depth (name :: way) s next) ∧
        (next ∈ cyclic →
          next ∈ left' ∨
            ∃ c ∈
                (look g cyclic depth (name :: way) s
                  next).found,
              c.Closes name next) := by
  unfold look
  by_cases hCyclic : next ∈ cyclic
  · rw [if_neg (by simpa using hCyclic)]
    by_cases hWay : next ∈ name :: way
    · rw [if_pos (by simpa using hWay)]
      rcases valid_record hValid hWay hImports with
        ⟨hRecord, hMore, hClosing⟩
      refine ⟨left, ⟨hRecord, fun _ hM => hM, hMore⟩, ?_⟩
      intro _
      exact Or.inr
        ⟨_, hClosing, closing_closes name way next⟩
    · rw [if_neg (by simpa using hWay)]
      by_cases hVisited : next ∈ s.visited
      · rw [if_pos (by simpa using hVisited)]
        refine ⟨left, Later.refl hValid, ?_⟩
        intro _
        have hMem := hValid.visited.mem_iff.mp hVisited
        rcases List.mem_append.mp hMem with hOn | hLeft
        · exact absurd hOn hWay
        · exact Or.inl hLeft
      · rw [if_neg (by simpa using hVisited)]
        have hLinked :
            (next :: name :: way).IsChain
              (fun a b => g.Imports b a) :=
          List.isChain_cons_cons.mpr ⟨hImports, hValid.linked⟩
        rcases hVisits (name :: way) left s next hValid
            hVisited hImports.contains.2 hLinked hDepth with
          ⟨left', hLeft, hLater⟩
        exact ⟨left', hLater, fun _ => Or.inl hLeft⟩
  · rw [if_pos (by simpa using hCyclic)]
    exact ⟨left, Later.refl hValid,
      fun hMem => absurd hMem hCyclic⟩

theorem later_foldl_look
    {depth : Nat}
    (hVisits : Visits g cyclic depth)
    (hDepth : g.size ≤ (name :: way).length + depth)
    (hValid : Valid g cyclic (name :: way) left s)
    {nexts : List String}
    (hImports : ∀ b ∈ nexts, g.Imports name b) :
    ∃ left',
      Later g cyclic (name :: way) left s left'
          (nexts.foldl
            (look g cyclic depth (name :: way)) s) ∧
        ∀ b ∈ nexts, b ∈ cyclic →
          b ∈ left' ∨
            ∃ c ∈
                (nexts.foldl
                  (look g cyclic depth (name :: way))
                  s).found,
              c.Closes name b := by
  induction nexts generalizing left s with
  | nil => exact ⟨left, Later.refl hValid, by simp⟩
  | cons next nexts ih =>
      rcases List.forall_mem_cons.mp hImports with
        ⟨hNext, hRest⟩
      rcases later_look hVisits hDepth hValid hNext with
        ⟨left₁, hFirst, hHead⟩
      rcases ih hFirst.valid hRest with
        ⟨left₂, hSecond, hTail⟩
      refine ⟨left₂, hFirst.trans hSecond, ?_⟩
      refine List.forall_mem_cons.mpr ⟨?_, hTail⟩
      intro hCyclic
      rcases hHead hCyclic with hLeft | ⟨c, hC, hCloses⟩
      · exact Or.inl (hSecond.left next hLeft)
      · exact Or.inr ⟨c, hSecond.found c hC, hCloses⟩

/- The way is never longer than there are modules. -/
theorem length_lt_size
    (hValid : Valid g cyclic way left s)
    (hNew : name ∉ s.visited)
    (hKnown : g.contains name = true) :
    way.length < g.size := by
  have hNodup : (name :: way).Nodup :=
    List.nodup_cons.mpr
      ⟨fun hMem => hNew (hValid.onWay.subset hMem),
        hValid.nodup.sublist hValid.onWay⟩
  have hSubset : (name :: way) ⊆ g.nodes.map (·.name) := by
    intro m hMem
    rcases List.mem_cons.mp hMem with rfl | hWay
    · exact ModuleGraph.mem_names_of_contains hKnown
    · exact ModuleGraph.mem_names_of_contains
        (hValid.known m (hValid.onWay.subset hWay))
  have hLength := hNodup.length_le_of_subset hSubset
  rw [List.length_map, List.length_cons] at hLength
  exact hLength

/-
  A visit of any depth that is left.  The depth does not run
  out, since the way never holds a module twice.
-/
theorem visits
    (g : ModuleGraph)
    (cyclic : List String)
    (depth : Nat) :
    Visits g cyclic depth := by
  induction depth with
  | zero =>
      intro way left s name hValid hNew hKnown _ hDepth
      have hLength := length_lt_size hValid hNew hKnown
      omega
  | succ depth ih =>
      intro way left s name hValid hNew hKnown hLinked hDepth
      have hEnter := hValid.enter hNew hKnown hLinked
      have hInner :
          g.size ≤ (name :: way).length + depth := by
        rw [List.length_cons]
        omega
      have hAll :
          ∀ b ∈ g.successors name, g.Imports name b :=
        fun _ hB => hB
      rcases later_foldl_look ih hInner hEnter hAll with
        ⟨left', hLater, hImports⟩
      rw [visit_succ]
      refine ⟨name :: left', List.mem_cons_self, ?_⟩
      exact
        { valid := hLater.valid.leave hImports
          left := fun m hM =>
            List.mem_cons_of_mem name (hLater.left m hM)
          found := hLater.found }

------------------------------------------------------------
-- Whole Searches
------------------------------------------------------------

/- A module to start from is visited unless it was before. -/
def launch
    (g : ModuleGraph)
    (cyclic : List String)
    (s : CycleSearch)
    (name : String) : CycleSearch :=
  if s.visited.contains name then s
  else visit g cyclic g.size [] name s

theorem later_launch
    (hValid : Valid g cyclic [] left s)
    (hKnown : g.contains name = true) :
    ∃ left',
      name ∈ left' ∧
        Later g cyclic [] left s left'
          (launch g cyclic s name) := by
  unfold launch
  by_cases hVisited : name ∈ s.visited
  · rw [if_pos (by simpa using hVisited)]
    refine ⟨left, ?_, Later.refl hValid⟩
    exact hValid.visited.mem_iff.mp hVisited
  · rw [if_neg (by simpa using hVisited)]
    exact visits g cyclic g.size [] left s name hValid hVisited
      hKnown (List.isChain_singleton name) (by simp)

theorem later_foldl_launch
    (hValid : Valid g cyclic [] left s)
    {names : List String}
    (hKnown : ∀ m ∈ names, g.contains m = true) :
    ∃ left',
      (∀ m ∈ names, m ∈ left') ∧
        Later g cyclic [] left s left'
          (names.foldl (launch g cyclic) s) := by
  induction names generalizing left s with
  | nil => exact ⟨left, by simp, Later.refl hValid⟩
  | cons name names ih =>
      rcases List.forall_mem_cons.mp hKnown with
        ⟨hHead, hTail⟩
      rcases later_launch hValid hHead with
        ⟨left₁, hName, hFirst⟩
      rcases ih hFirst.valid hTail with
        ⟨left₂, hNames, hSecond⟩
      refine ⟨left₂, ?_, hFirst.trans hSecond⟩
      exact List.forall_mem_cons.mpr
        ⟨hSecond.left name hName, hNames⟩

theorem valid_empty
    (g : ModuleGraph)
    (cyclic : List String) :
    Valid g cyclic [] [] {} where
  nodup := List.nodup_nil
  known := by simp
  onWay := List.nil_sublist _
  linked := .nil
  visited := .refl _
  found := by simp
  distinct := .nil
  settled := .nil

/- In the end every module on a cycle has been left. -/
theorem valid_run
    (g : ModuleGraph) :
    ∃ left,
      (∀ m ∈ g.cyclic, m ∈ left) ∧
        Valid g g.cyclic [] left (run g) := by
  have hKnown : ∀ m ∈ g.cyclic, g.contains m = true := by
    intro m hMem
    rcases Relation.TransGen.head'_iff.mp
        (ModuleGraph.mem_cyclic_iff.mp hMem) with
      ⟨b, hImports, _⟩
    exact hImports.contains.1
  rcases later_foldl_launch (valid_empty g g.cyclic)
      hKnown with
    ⟨left, hNames, hLater⟩
  exact ⟨left, hNames, hLater.valid⟩

end

end CycleSearch

end ModuleLint
