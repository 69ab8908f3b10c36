import ModuleLint.Proofs.Editor.Foreign

/-
  The life of a worker.

  A worker is started, stopped and asked in any order, and
  files change as they like in between.  Whatever happens, it
  is never left in the middle of a scan, and its project fits
  together.  A request that is answered by an error, and a
  start that fails, leave the project alone.

  Main declarations:
    * `Project.Coherent`, `Coordinator.Told.coherent`
    * `Coordinator.Sound`, `Coordinator.Arises.sound`
    * `Coordinator.Refusal`, `Coordinator.Rooted.refusal_of_error`
    * `Coordinator.Arises.coherent_and_atomic`
-/

namespace ModuleLint

------------------------------------------------------------
-- Projects That Fit Together
------------------------------------------------------------

namespace Project

/-
  The graph is that of the units, and the cycles are those of
  the graph.  Each unit is kept under its own path, and it is
  what its source makes of its file as seen from the root.
-/
structure Coherent
    (root : RawText)
    (p : Project) : Prop where
  graph : p.graph = .ofUnits p.sources.units
  cycles : p.cycles = p.graph.cycles
  keyed :
    ∀ u ∈ p.sources.units,
      p.sources.get? u.relativePath = some u
  read :
    ∀ u ∈ p.sources.units,
      u = .ofSource root u.path u.source

section

variable {root : RawText}
variable {p : Project}

theorem coherent_ofSources
    {s : SourceSet}
    (hRead : ∀ u ∈ s.units, u = .ofSource root u.path u.source) :
    (ofSources s).Coherent root := by
  refine ⟨rfl, rfl, ?_, hRead⟩
  intro u hMem
  exact s.get?_eq_some_iff.mpr ⟨hMem, rfl⟩

theorem Coherent.drop
    (hCoherent : p.Coherent root)
    (file : RawText) :
    (p.drop file).Coherent root := by
  unfold Project.drop
  split
  · apply coherent_ofSources
    intro u hMem
    exact hCoherent.read u
      ((p.sources.mem_remove_iff file u).mp hMem).1
  · exact hCoherent

theorem Coherent.edit
    (hCoherent : p.Coherent root)
    {u : SourceUnit}
    (hUnit : u = .ofSource root u.path u.source) :
    (p.edit u).Coherent root := by
  apply coherent_ofSources
  intro v hMem
  rcases SourceSet.eq_or_mem_of_mem_place hMem with rfl | hOld
  · exact hUnit
  · exact hCoherent.read v hOld

end

end Project

/- A project that is loaded fits together. -/
theorem Analyzer.coherent_of_loadProject
    {a : Analyzer}
    {d : Disk}
    {p : Project}
    (hLoad : a.loadProject d = .ok p) :
    p.Coherent a.root := by
  rcases units_of_loadProject hLoad with
    ⟨files, us, _, hUnits, rfl⟩
  apply Project.coherent_ofSources
  intro u hMem
  rcases SourceSet.mem_or_mem_of_mem_foldl_insert hMem with
    hNone | hUs
  · cases hNone
  · rcases (mem_iff_of_mapM_eq_ok hUnits).mp hUs with
      ⟨file, _, hUnit⟩
    rcases SourceUnit.load_eq_ok_iff.mp hUnit with
      ⟨text, _, rfl⟩
    rfl

namespace Coordinator

section

variable {a : Analyzer}
variable {p q : Project}
variable {d : Disk}
variable {path : String}
variable {response : Response}

/- The project fits together after a change as before it. -/
theorem Told.coherent
    (hTold : Told a p d path response q)
    (hRoot : p.sources.root = a.root)
    (hCoherent : p.Coherent a.root) :
    q.Coherent a.root := by
  cases hTold with
  | gone => exact hCoherent.drop _
  | foreign => exact hCoherent
  | unreadable => exact hCoherent
  | read _ _ _ hUnit =>
      apply hCoherent.edit
      rw [hUnit, hRoot]
      rfl

/- An error says that the file could not be read. -/
theorem Told.of_error
    {message : String}
    (hTold : Told a p d path (.error message) q) :
    q = p ∧
      d.isFile (Path.join a.root path) = true ∧
      (p.sources.contains (Path.join a.root path) = true ∨
        a.accepts (Path.join a.root path) = true) ∧
      ∃ f, d.read (Path.join a.root path) = .error f := by
  cases hTold with
  | unreadable hThere hOurs hRead =>
      exact ⟨rfl, hThere, hOurs, _, hRead⟩

/- A file that cannot be read is answered by an error. -/
theorem Told.eq_error
    (hTold : Told a p d path response q)
    (hThere : d.isFile (Path.join a.root path) = true)
    (hOurs :
      p.sources.contains (Path.join a.root path) = true ∨
        a.accepts (Path.join a.root path) = true)
    {f : ReadFault}
    (hFault : d.read (Path.join a.root path) = .error f) :
    ∃ message, response = .error message := by
  cases hTold with
  | gone hGone =>
      rw [hThere] at hGone
      cases hGone
  | foreign _ hNew hRefused =>
      simp [hNew, hRefused] at hOurs
  | unreadable => exact ⟨_, rfl⟩
  | read _ _ hRead =>
      rw [hFault] at hRead
      cases hRead

end

------------------------------------------------------------
-- What Holds Between Calls
------------------------------------------------------------

/-
  A worker is not left in the middle of a scan, and the project
  it holds fits together.
-/
structure Sound
    (a : Analyzer)
    (c : Coordinator) : Prop where
  rooted : Rooted a c
  idle : c.state ≠ .scanning
  coherent : ∀ p, c.project = some p → p.Coherent a.root

section

variable {a : Analyzer}
variable {c : Coordinator}

theorem sound_holding
    {p : Project}
    (hRoot : p.sources.root = a.root)
    (hCoherent : p.Coherent a.root) :
    Sound a (holding a p) := by
  refine ⟨rooted_holding hRoot, by simp [holding], ?_⟩
  intro q hProject
  cases hProject
  exact hCoherent

theorem Sound.stop
    (hSound : Sound a c) :
    Sound a c.stop :=
  ⟨hSound.rooted.stop, by simp [Coordinator.stop],
    hSound.coherent⟩

theorem Sound.start
    (hSound : Sound a c)
    (d : Disk) :
    Sound a (c.start d).2 := by
  have hRooted := hSound.rooted.start d
  unfold Coordinator.start at hRooted ⊢
  rw [hSound.rooted.analyzer] at hRooted ⊢
  cases hLoad : a.loadProject d with
  | error f =>
      rw [hLoad] at hRooted
      exact ⟨hRooted, by simp, hSound.coherent⟩
  | ok p =>
      rw [hLoad] at hRooted
      refine ⟨hRooted, by simp, ?_⟩
      intro q hProject
      cases hProject
      exact Analyzer.coherent_of_loadProject hLoad

theorem handle_of_not_ready
    (hState : c.state ≠ .ready)
    (d : Disk)
    (r : Request) :
    c.handle d r =
      ( .error
          ("worker is not ready (" ++ c.state.name ++ ")"),
        c ) := by
  unfold handle
  rw [if_pos hState]

theorem Sound.handle
    (hSound : Sound a c)
    (d : Disk)
    (r : Request) :
    Sound a (c.handle d r).2 := by
  by_cases hReady : c.state = .ready
  · rcases hSound.rooted.eq_holding hReady with ⟨p, rfl, hRoot⟩
    have hCoherent := hSound.coherent p rfl
    cases r with
    | fullScan =>
        rw [handle_fullScan]
        cases hLoad : a.loadProject d with
        | error f => exact hSound
        | ok q =>
            exact sound_holding
              (Analyzer.root_of_loadProject hLoad)
              (Analyzer.coherent_of_loadProject hLoad)
    | fileChanged path =>
        rcases told_handle a p d path with
          ⟨_, q, hHandle, hTold⟩
        rw [hHandle]
        exact sound_holding (hTold.root_eq.trans hRoot)
          (hTold.coherent hRoot hCoherent)
    | shutdown => exact hSound.stop
  · rw [handle_of_not_ready hReady]
    exact hSound

/- Whatever a worker was asked, it is sound between calls. -/
theorem Arises.sound
    (hArises : Arises a c) :
    Sound a c := by
  induction hArises with
  | fresh =>
      refine ⟨Arises.fresh.rooted, by simp [Coordinator.fresh], ?_⟩
      intro p hProject
      cases hProject
  | start _ d ih => exact ih.start d
  | stop _ ih => exact ih.stop
  | handle _ d r ih => exact ih.handle d r

end

------------------------------------------------------------
-- Errors
------------------------------------------------------------

/-
  Why a request is answered by an error: the worker takes no
  requests, it is asked to stop, the files cannot be loaded, or
  a file that has changed cannot be read.
-/
inductive Refusal
    (c : Coordinator)
    (d : Disk) : Request → Prop
| notReady
    {r : Request}
    (hState : c.state ≠ .ready) :
    Refusal c d r
| stopped :
    Refusal c d .shutdown
| unloadable
    {f : Fault}
    (hFault : c.analyzer.loadProject d = .error f) :
    Refusal c d .fullScan
| unreadable
    {p : Project}
    {path : String}
    {f : ReadFault}
    (hProject : c.project = some p)
    (hThere : d.isFile (c.resolve path) = true)
    (hOurs :
      p.sources.contains (c.resolve path) = true ∨
        c.analyzer.accepts (c.resolve path) = true)
    (hFault : d.read (c.resolve path) = .error f) :
    Refusal c d (.fileChanged path)

section

variable {a : Analyzer}
variable {c : Coordinator}

/- An error changes nothing, but a worker may be stopped. -/
theorem Rooted.refusal_of_error
    (hRooted : Rooted a c)
    {d : Disk}
    {r : Request}
    {message : String}
    (hError : (c.handle d r).1 = .error message) :
    Refusal c d r ∧ (c.handle d r).2.project = c.project := by
  by_cases hReady : c.state = .ready
  · rcases hRooted.eq_holding hReady with ⟨p, rfl, _⟩
    cases r with
    | fullScan =>
        rw [handle_fullScan] at hError ⊢
        cases hLoad : a.loadProject d with
        | error f => exact ⟨.unloadable hLoad, rfl⟩
        | ok q =>
            rw [hLoad] at hError
            cases hError
    | fileChanged path =>
        rcases told_handle a p d path with
          ⟨response, q, hHandle, hTold⟩
        rw [hHandle] at hError ⊢
        cases hError
        rcases hTold.of_error with
          ⟨rfl, hThere, hOurs, f, hFault⟩
        exact ⟨.unreadable rfl hThere hOurs hFault, rfl⟩
    | shutdown => exact ⟨.stopped, rfl⟩
  · rw [handle_of_not_ready hReady]
    exact ⟨.notReady hReady, rfl⟩

theorem Rooted.error_of_refusal
    (hRooted : Rooted a c)
    {d : Disk}
    {r : Request}
    (hRefusal : Refusal c d r) :
    ∃ message, (c.handle d r).1 = .error message := by
  by_cases hReady : c.state = .ready
  · rcases hRooted.eq_holding hReady with ⟨p, rfl, _⟩
    cases hRefusal with
    | notReady hState => exact absurd hReady hState
    | stopped => exact ⟨_, rfl⟩
    | unloadable hFault =>
        rw [handle_fullScan,
          show a.loadProject d = .error _ from hFault]
        exact ⟨_, rfl⟩
    | @unreadable _ path _ hProject hThere hOurs hFault =>
        cases hProject
        rcases told_handle a p d path with
          ⟨response, q, hHandle, hTold⟩
        rw [hHandle]
        exact hTold.eq_error hThere hOurs hFault
  · rw [handle_of_not_ready hReady]
    exact ⟨_, rfl⟩

/- A start that fails leaves the project alone. -/
theorem project_start_of_error
    {d : Disk}
    {f : Fault}
    (hError : (c.start d).1 = .error f) :
    (c.start d).2.project = c.project := by
  unfold start at hError ⊢
  split
  · next p hLoad =>
      rw [hLoad] at hError
      cases hError
  · rfl

/-
  After any starts, stops and requests, with any files at each
  of them: the worker is not in the middle of a scan, it has a
  project if it is ready, and the project fits together.  An
  error has one of the known causes, and neither an error nor a
  start that fails changes the project.
-/
theorem Arises.coherent_and_atomic
    (hArises : Arises a c) :
    c.state ≠ .scanning ∧
      (c.state = .ready → ∃ p, c.project = some p) ∧
      (∀ p, c.project = some p → p.Coherent a.root) ∧
      (∀ d r,
        (∃ message, (c.handle d r).1 = .error message) ↔
          Refusal c d r) ∧
      (∀ d r message,
        (c.handle d r).1 = .error message →
          (c.handle d r).2.project = c.project) ∧
      ∀ d f,
        (c.start d).1 = .error f →
          (c.start d).2.project = c.project := by
  have hSound := hArises.sound
  have hRooted := hSound.rooted
  refine ⟨hSound.idle, ?_, hSound.coherent, ?_, ?_, ?_⟩
  · intro hReady
    exact Option.isSome_iff_exists.mp (hRooted.loaded hReady)
  · intro d r
    constructor
    · rintro ⟨message, hError⟩
      exact (hRooted.refusal_of_error hError).1
    · exact hRooted.error_of_refusal
  · intro d r message hError
    exact (hRooted.refusal_of_error hError).2
  · intro d f
    exact project_start_of_error

end

------------------------------------------------------------
-- A File That Is No Text
------------------------------------------------------------

/-
  A worker is started at a root with one file.  The file is
  overwritten by what is no text, and the worker is told of it.
-/
theorem handle_unreadable_project_eq :
    let d :=
      (Disk.single "x").write "/r/a.ts" (.file (.raw [255]))
    let c := ((fresh .alarmed).start (.single "x")).2
    ∃ message,
      c.state = .ready ∧
        (Project.single "x").Coherent "/r" ∧
        (c.handle d (.fileChanged "a.ts")).1 =
          .error message ∧
        (c.handle d (.fileChanged "a.ts")).2.project =
          some (.single "x") := by
  intro d c
  have hStart : c = holding .alarmed (.single "x") :=
    start_single "x"
  have hArises : Arises .alarmed c :=
    Arises.fresh.start (.single "x")
  rcases hArises.coherent_and_atomic with
    ⟨_, _, hCoherent, hErrors, hKept, _⟩
  rw [hStart] at hCoherent hErrors hKept ⊢
  have hPath :
      (holding .alarmed (.single "x")).resolve "a.ts" =
        "/r/a.ts" := by
    decide +kernel
  have hRefusal :
      Refusal (holding .alarmed (.single "x")) d
        (.fileChanged "a.ts") := by
    refine .unreadable (f := .notText) rfl ?_ (Or.inl ?_) ?_
    · rw [hPath]
      decide +kernel
    · rw [hPath]
      decide +kernel
    · rw [hPath]
      decide +kernel
  rcases (hErrors d _).mpr hRefusal with ⟨message, hError⟩
  exact ⟨message, rfl, hCoherent _ rfl, hError,
    hKept d _ message hError⟩

end Coordinator

end ModuleLint
