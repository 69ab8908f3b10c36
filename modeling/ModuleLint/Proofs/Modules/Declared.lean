import ModuleLint.Proofs.Modules.Wiring
import ModuleLint.Rules.Builtin.Architecture
import ModuleLint.Rules.Engine
import ModuleLint.Sources.Modules

/-
  Declarations of modules.

  Every declaration is either kept as the first of its name or
  recorded as one that came too late.  Those that came too
  late leave no other trace, and where there are none, it does
  not matter in which order modules are declared.

  Main declarations:
    * `ModuleGraph.mem_nodes_iff`
    * `ModuleGraph.nodes_eq_of_find?_eq`
    * `ModuleGraph.RepeatsAt`, `ModuleGraph.listed_collisions`
    * `ModuleGraph.declarations_kept_or_recorded`
    * `ModuleGraph.cycles_of_perm`
-/

namespace ModuleLint

namespace ModuleGraph

------------------------------------------------------------
-- Kept Declarations
------------------------------------------------------------

theorem ofNodes_concat
    (ns : List ModuleNode)
    (n : ModuleNode) :
    ofNodes (ns ++ [n]) = (ofNodes ns).declare n :=
  List.foldl_concat declare empty n ns

/- A name that is declared has a first declaration. -/
theorem exists_first
    {ns : List ModuleNode}
    {n : ModuleNode}
    (hMem : n ∈ ns) :
    ∃ first,
      ns.find? (fun m => m.name == n.name) = some first := by
  rw [← Option.isSome_iff_exists, List.find?_isSome]
  exact ⟨n, hMem, beq_self_eq_true n.name⟩

/- Modules are the first declarations of their names. -/
theorem mem_nodes_iff
    {ns : List ModuleNode}
    {n : ModuleNode} :
    n ∈ (ofNodes ns).nodes ↔
      ns.find? (fun m => m.name == n.name) = some n := by
  rw [← node?_ofNodes, node?_eq_some_iff]
  simp

/- The modules depend on the first declarations alone. -/
theorem nodes_eq_of_find?_eq
    {xs ys : List ModuleNode}
    (hFirst : ∀ name,
      xs.find? (fun n => n.name == name) =
        ys.find? (fun n => n.name == name)) :
    (ofNodes xs).nodes = (ofNodes ys).nodes := by
  refine Keyed.eq_of_mem_iff (pairwise_ofNodes xs)
    (pairwise_ofNodes ys) ?_
  intro n
  rw [mem_nodes_iff, mem_nodes_iff, hFirst]

/- The wiring depends on the modules alone. -/
theorem wiring_eq_of_nodes_eq
    {g h : ModuleGraph}
    (hNodes : g.nodes = h.nodes) :
    g.wiring = h.wiring := by
  unfold wiring
  rw [hNodes]

/- A declaration that came too late changes no module. -/
theorem nodes_insert_repeated
    {xs : List ModuleNode}
    {m n : ModuleNode}
    (hMem : m ∈ xs)
    (hName : m.name = n.name)
    (ys : List ModuleNode) :
    (ofNodes (xs ++ n :: ys)).nodes =
      (ofNodes (xs ++ ys)).nodes := by
  refine nodes_eq_of_find?_eq ?_
  intro name
  rw [List.find?_append, List.find?_append, List.find?_cons]
  by_cases hSame : n.name = name
  · rcases exists_first hMem with ⟨first, hFirst⟩
    rw [hName, hSame] at hFirst
    rw [hFirst]
    rfl
  · rw [beq_false_of_ne hSame]

------------------------------------------------------------
-- Repeated Declarations
------------------------------------------------------------

theorem collisions_declare
    (g : ModuleGraph)
    (n : ModuleNode) :
    (g.declare n).collisions =
      g.collisions ++
        ((g.node? n.name).map
          (fun first => collisionOf first n)).toList := by
  unfold declare
  cases g.node? n.name with
  | some first => rfl
  | none => simp

theorem length_place
    (n : ModuleNode)
    (ms : List ModuleNode) :
    (place n ms).length = ms.length + 1 := by
  induction ms with
  | nil => rfl
  | cons m ms ih =>
      rw [place]
      split
      · rfl
      · simp [ih]

theorem size_declare
    (g : ModuleGraph)
    (n : ModuleNode) :
    (g.declare n).size + (g.declare n).collisions.length =
      g.size + g.collisions.length + 1 := by
  unfold declare size
  cases g.node? n.name with
  | some first => simp [Nat.add_assoc]
  | none =>
      simp only [length_place]
      omega

/- Every declaration is kept or recorded. -/
theorem size_add_collisions
    (ns : List ModuleNode) :
    (ofNodes ns).size + (ofNodes ns).collisions.length =
      ns.length := by
  induction ns using List.reverseRecOn with
  | nil => rfl
  | append_singleton ns n ih =>
      rw [ofNodes_concat, size_declare, ih, List.length_append,
        List.length_singleton]

/-
  The record of the declaration at a place, for a name that
  was declared at an earlier place.
-/
def RepeatsAt
    (ns : List ModuleNode)
    (j : Nat)
    (c : Collision) : Prop :=
  ∃ n first,
    ns[j]? = some n ∧
      (∃ i m, i < j ∧ ns[i]? = some m ∧ m.name = n.name) ∧
      (ofNodes ns).node? n.name = some first ∧
      c =
        { name := n.name
          filePath := n.filePath
          line := n.line
          column := n.column
          firstFilePath := first.filePath
          firstLine := first.line }

/- The first declaration before a place is the first of all. -/
theorem find?_take_eq_some_iff
    {ns : List ModuleNode}
    {name : String}
    {j : Nat}
    {first : ModuleNode} :
    (ns.take j).find? (fun m => m.name == name) = some first ↔
      (∃ i m, i < j ∧ ns[i]? = some m ∧ m.name = name) ∧
        ns.find? (fun m => m.name == name) = some first := by
  have hSplit :
      ns.find? (fun m => m.name == name) =
        ((ns.take j).find? (fun m => m.name == name)).or
          ((ns.drop j).find? (fun m => m.name == name)) := by
    rw [← List.find?_append, List.take_append_drop]
  have hSome :
      ((ns.take j).find? (fun m => m.name == name)).isSome ↔
        ∃ i m, i < j ∧ ns[i]? = some m ∧ m.name = name := by
    simp only [List.find?_isSome, beq_iff_eq]
    constructor
    · rintro ⟨m, hMem, hName⟩
      rcases List.mem_iff_getElem?.mp hMem with ⟨i, hAt⟩
      rw [List.getElem?_take] at hAt
      split at hAt
      · next hLt => exact ⟨i, m, hLt, hAt, hName⟩
      · cases hAt
    · rintro ⟨i, m, hLt, hAt, hName⟩
      refine ⟨m, List.mem_iff_getElem?.mpr ⟨i, ?_⟩, hName⟩
      rw [List.getElem?_take_of_lt hLt]
      exact hAt
  rw [hSplit, ← hSome]
  cases (ns.take j).find? (fun m => m.name == name) <;> simp

/- Declarations that came too late are recorded in order. -/
theorem listed_collisions
    (ns : List ModuleNode) :
    Listed (· < ·) (RepeatsAt ns) (ofNodes ns).collisions := by
  have hListed := listed_of_concat
    (fun ns => (ofNodes ns).collisions)
    (fun earlier n =>
      (earlier.find? (fun m => m.name == n.name)).map
        (fun first => collisionOf first n))
    rfl
    (fun ns n => by
      rw [ofNodes_concat, collisions_declare, node?_ofNodes])
    ns
  refine hListed.congr ?_
  intro j c
  simp only [RepeatsAt, node?_ofNodes, Option.map_eq_some_iff,
    find?_take_eq_some_iff]
  constructor
  · rintro ⟨n, hAt, first, ⟨hEarlier, hFirst⟩, rfl⟩
    exact ⟨n, first, hAt, hEarlier, hFirst, rfl⟩
  · rintro ⟨n, first, hAt, hEarlier, hFirst, rfl⟩
    exact ⟨n, hAt, first, ⟨hEarlier, hFirst⟩, rfl⟩

------------------------------------------------------------
-- Declarations in Files
------------------------------------------------------------

/-
  The module declared at the place of a file's path and a
  place among the classes of the file.
-/
def DeclaresAt
    (s : SourceSet)
    (place : String × Nat)
    (n : ModuleNode) : Prop :=
  ∃ u ∈ s.units,
    u.relativePath = place.1 ∧
      ∃ c,
        u.facts.classes[place.2]? = some c ∧
          c.isOf .module = true ∧
          ModuleNode.ofClass u c = n

/- Modules are declared file by file, in the order of paths. -/
theorem listed_declaredModules
    (s : SourceSet) :
    Listed (Prod.Lex (· < ·) (· < ·)) (DeclaresAt s)
      (declaredModules s.units) :=
  Listed.flatMap s.ordered
    (fun u => listed_map_filter
      (fun c : ClassFact => c.isOf .module)
      (ModuleNode.ofClass u) u.facts.classes)

/- A diagnostic for a declaration that came too late. -/
def ReportsRepeated
    (c : Collision)
    (d : Diagnostic) : Prop :=
  d.rule = "architecture/duplicate-module-name" ∧
    d.filePath = c.filePath ∧
    d.line = c.line ∧
    d.column = c.column ∧
    d.message =
      "Module '" ++ c.name ++ "' is already declared in " ++
        c.firstFilePath ++ ":" ++ Builtin.counted c.firstLine

/- There is one diagnostic for each. -/
theorem forall₂_reportsRepeated
    (t : RuleSettings)
    (p : Project) :
    List.Forall₂ ReportsRepeated p.graph.collisions
      (Builtin.duplicateModules.runProject t p).diagnostics := by
  have hDiagnostics :
      (Builtin.duplicateModules.runProject t p).diagnostics =
        (Builtin.findDuplicates p).map
          Builtin.duplicateModules.diagnose := rfl
  rw [hDiagnostics, Builtin.findDuplicates, List.map_map,
    List.forall₂_map_right_iff, List.forall₂_same]
  intro c _
  exact ⟨rfl, rfl, rfl, rfl, rfl⟩

/-
  The graph has the first declaration of each name.  All other
  declarations are recorded in order, each with the place of
  the one that was kept, and leave no import behind.  The
  modules of source files are declared in the order of paths
  and classes, and the rule about names makes one diagnostic
  for each declaration that came too late.
-/
theorem declarations_kept_or_recorded
    (ns : List ModuleNode) :
    (∀ name,
        (ofNodes ns).node? name =
          ns.find? (fun n => n.name == name)) ∧
      (∀ n,
        n ∈ (ofNodes ns).nodes ↔
          (ofNodes ns).node? n.name = some n) ∧
      Listed (· < ·) (RepeatsAt ns) (ofNodes ns).collisions ∧
      (ofNodes ns).size + (ofNodes ns).collisions.length =
        ns.length ∧
      (∀ xs m n ys,
        ns = xs ++ n :: ys →
          m ∈ xs →
            m.name = n.name →
              (ofNodes ns).nodes =
                  (ofNodes (xs ++ ys)).nodes ∧
                (ofNodes ns).edges =
                  (ofNodes (xs ++ ys)).edges ∧
                (ofNodes ns).dangling =
                  (ofNodes (xs ++ ys)).dangling) ∧
      ∀ (t : RuleSettings) (s : SourceSet),
        (Project.ofSources s).graph =
            ofNodes (declaredModules s.units) ∧
          Listed (Prod.Lex (· < ·) (· < ·)) (DeclaresAt s)
            (declaredModules s.units) ∧
          (Builtin.duplicateModules.runProject t
            (.ofSources s)).failures = [] ∧
          List.Forall₂ ReportsRepeated
            (Project.ofSources s).graph.collisions
            (Builtin.duplicateModules.runProject t
              (.ofSources s)).diagnostics := by
  refine ⟨node?_ofNodes ns, ?_, listed_collisions ns,
    size_add_collisions ns, ?_, ?_⟩
  · intro n
    rw [mem_nodes_iff, node?_ofNodes]
  · rintro xs m n ys rfl hMem hName
    have hNodes := nodes_insert_repeated hMem hName ys
    have hWiring := wiring_eq_of_nodes_eq hNodes
    refine ⟨hNodes, ?_, ?_⟩
    · rw [edges, edges, hWiring]
    · rw [dangling, dangling, hWiring]
  · intro t s
    exact ⟨rfl, listed_declaredModules s, rfl,
      forall₂_reportsRepeated t _⟩

/- One name declared three times. -/
theorem declarations_kept_or_recorded_thrice :
    let xs : List ModuleNode :=
      [⟨"S", "a.ts", 4, 1, [], ["T"], [], []⟩,
        ⟨"T", "a.ts", 8, 1, [], [], [], []⟩]
    let n : ModuleNode := ⟨"S", "b.ts", 9, 1, [], ["X"], [], []⟩
    let ys : List ModuleNode :=
      [⟨"S", "c.ts", 2, 1, [], ["S"], [], []⟩]
    (ofNodes (xs ++ n :: ys)).collisions =
        [⟨"S", "b.ts", 9, 1, "a.ts", 4⟩,
          ⟨"S", "c.ts", 2, 1, "a.ts", 4⟩] ∧
      (ofNodes (xs ++ n :: ys)).edges =
        (ofNodes (xs ++ ys)).edges ∧
      (ofNodes (xs ++ n :: ys)).dangling = [] := by
  intro xs n ys
  have hAlone : (ofNodes (xs ++ ys)).dangling = [] := by
    decide +kernel
  rcases declarations_kept_or_recorded (xs ++ n :: ys) with
    ⟨_, _, _, _, hTrace, _⟩
  rcases hTrace xs _ n ys rfl List.mem_cons_self rfl with
    ⟨_, hEdges, hDangling⟩
  exact ⟨by decide +kernel, hEdges, hDangling.trans hAlone⟩

------------------------------------------------------------
-- Order of Declarations
------------------------------------------------------------

/- Where all names differ, every declaration is kept. -/
theorem mem_nodes_iff_of_nodup
    {ns : List ModuleNode}
    (hNames : (ns.map (·.name)).Nodup)
    {n : ModuleNode} :
    n ∈ (ofNodes ns).nodes ↔ n ∈ ns := by
  rw [mem_nodes_iff]
  constructor
  · exact List.mem_of_find?_eq_some
  · intro hMem
    rcases exists_first hMem with ⟨first, hFirst⟩
    have hName : first.name = n.name :=
      eq_of_beq (List.find?_some hFirst :)
    rw [hFirst, List.inj_on_of_nodup_map hNames
      (List.mem_of_find?_eq_some hFirst) hMem hName]

theorem collisions_eq_nil_of_nodup
    {ns : List ModuleNode}
    (hNames : (ns.map (·.name)).Nodup) :
    (ofNodes ns).collisions = [] := by
  have hPerm : (ofNodes ns).nodes.Perm ns :=
    (List.perm_ext_iff_of_nodup (nodup_names ns).of_map
      hNames.of_map).mpr
        (fun _ => mem_nodes_iff_of_nodup hNames)
  have hCount := size_add_collisions ns
  rw [size, hPerm.length_eq] at hCount
  exact List.eq_nil_of_length_eq_zero
    (Nat.add_eq_left.mp hCount)

/- The order of declarations does not matter. -/
theorem ofNodes_eq_of_perm
    {xs ys : List ModuleNode}
    (hPerm : xs.Perm ys)
    (hNames : (xs.map (·.name)).Nodup) :
    ofNodes xs = ofNodes ys := by
  have hNames' : (ys.map (·.name)).Nodup :=
    (hPerm.map _).nodup_iff.mp hNames
  have hNodes : (ofNodes xs).nodes = (ofNodes ys).nodes := by
    refine Keyed.eq_of_mem_iff (pairwise_ofNodes xs)
      (pairwise_ofNodes ys) ?_
    intro n
    rw [mem_nodes_iff_of_nodup hNames,
      mem_nodes_iff_of_nodup hNames', hPerm.mem_iff]
  have hCollisions :
      (ofNodes xs).collisions = (ofNodes ys).collisions := by
    rw [collisions_eq_nil_of_nodup hNames,
      collisions_eq_nil_of_nodup hNames']
  exact congrArg₂ ModuleGraph.mk hNodes hCollisions

/-
  However modules with names of their own are spread over
  files, there are the same modules in the same order, the
  same dangling imports, the same links and the same cycles.
-/
theorem cycles_of_perm
    {xs ys : List ModuleNode}
    (hPerm : xs.Perm ys)
    (hNames : (xs.map (·.name)).Nodup) :
    (ofNodes xs).nodes = (ofNodes ys).nodes ∧
      (ofNodes xs).dangling = (ofNodes ys).dangling ∧
      (ofNodes xs).edges = (ofNodes ys).edges ∧
      (∀ a b,
        (ofNodes xs).hasEdge a b = (ofNodes ys).hasEdge a b) ∧
      (ofNodes xs).cycles = (ofNodes ys).cycles := by
  rw [ofNodes_eq_of_perm hPerm hNames]
  exact ⟨rfl, rfl, rfl, fun _ _ => rfl, rfl⟩

/- Two modules that import each other, either one first. -/
theorem cycles_of_perm_pair :
    let m : ModuleNode :=
      ⟨"A", "a.ts", 1, 1, [], ["B", "X"], [], []⟩
    let n : ModuleNode := ⟨"B", "b.ts", 7, 1, [], ["A"], [], []⟩
    (ofNodes [n, m]).nodes = [m, n] ∧
      (ofNodes [n, m]).dangling = [⟨"A", "X"⟩] ∧
      (ofNodes [n, m]).cycles = [⟨["A", "B"]⟩] := by
  intro m n
  rcases cycles_of_perm (.swap m n []) (by decide) with
    ⟨hNodes, hDangling, _, _, hCycles⟩
  rw [hNodes, hDangling, hCycles]
  exact ⟨by decide +kernel, by decide +kernel,
    by decide +kernel⟩

end ModuleGraph

end ModuleLint
