import ModuleLint.Editor.Server
import ModuleLint.Proofs.Editor.Store

/-
  What an editor shows.

  Responses come in batches.  After a batch, the diagnostics of
  every file that was touched are published, and a file shows
  what was published for it last.  Each change of a store names
  all files whose diagnostics are not what they were, so a file
  always shows what the store holds.

  Main declarations:
    * `Store.Filed`, `Store.Keeps`
    * `Store.keeps_apply`, `Folder.keeps_absorb`
    * `Screen`, `Screen.receive`, `Screen.shown`
    * `Screen.shown_eq_get`
-/

namespace ModuleLint

------------------------------------------------------------
-- Names in Order
------------------------------------------------------------

namespace Text

theorem mem_insertName_iff
    {name n : String}
    {ns : List String} :
    n ∈ insertName name ns ↔ n = name ∨ n ∈ ns := by
  fun_induction insertName name ns with
  | case1 => simp
  | case2 m ms => simp
  | case3 m ms _ hSame =>
      have hName := eq_of_beq hSame
      simp [hName]
  | case4 m ms _ _ ih =>
      rw [List.mem_cons, ih, List.mem_cons]
      exact or_left_comm

theorem mem_sortedNames_iff
    {names : List String}
    {n : String} :
    n ∈ sortedNames names ↔ n ∈ names := by
  suffices hFold :
      ∀ sorted : List String,
        n ∈ names.foldl (fun ns m => insertName m ns) sorted ↔
          n ∈ sorted ∨ n ∈ names by
    simpa [sortedNames] using hFold []
  induction names with
  | nil => simp
  | cons m ms ih =>
      intro sorted
      rw [List.foldl_cons, ih, mem_insertName_iff,
        List.mem_cons, or_comm (a := n = m), or_assoc]

end Text

------------------------------------------------------------
-- Stores in Order
------------------------------------------------------------

namespace Store

/-
  Files are in order, each of them has diagnostics, and every
  diagnostic is kept under its own file.
-/
structure Filed
    (s : Store) : Prop where
  canonical : s.Canonical
  placed : ∀ file, ∀ d ∈ s.get file, d.filePath = file

/- A change of a store that touches some files only. -/
structure Keeps
    (s : Store)
    (touched : List String)
    (t : Store) : Prop where
  filed : t.Filed
  same : ∀ file, file ∉ touched → t.get file = s.get file

section

variable {s t u : Store}

theorem filed_empty :
    empty.Filed := by
  refine ⟨⟨List.Pairwise.nil, ?_⟩, ?_⟩
  · intro r hMem
    cases hMem
  · intro file d hMem
    cases hMem

theorem Keeps.trans
    {touched more : List String}
    (hFirst : s.Keeps touched t)
    (hSecond : t.Keeps more u) :
    s.Keeps (touched ++ more) u := by
  refine ⟨hSecond.filed, ?_⟩
  intro file hFile
  rw [List.mem_append, not_or] at hFile
  rw [hSecond.same file hFile.2, hFirst.same file hFile.1]

theorem get_eq_nil_of_not_mem_files
    {file : String}
    (hFile : file ∉ s.files) :
    s.get file = [] := by
  unfold get
  split
  · next r hFound =>
      have hMem := List.mem_of_find?_eq_some hFound
      have hName : r.file = file := by
        simpa using List.find?_some hFound
      exact absurd
        (hName ▸ List.mem_map_of_mem (f := (·.file)) hMem) hFile
  · rfl

/- Diagnostics of other files are no diagnostics of a file. -/
theorem filter_eq_nil_of_not_mem
    {ds : List Diagnostic}
    {file : String}
    (hFile : file ∉ ds.map (·.filePath)) :
    ds.filter (·.filePath == file) = [] := by
  apply List.filter_eq_nil_iff.mpr
  intro d hMem hSame
  exact hFile (List.mem_map.mpr ⟨d, hMem, eq_of_beq hSame⟩)

theorem keeps_replaceAll
    (s : Store)
    (ds : List Diagnostic) :
    s.Keeps (s.replaceAll ds).1 (s.replaceAll ds).2 := by
  refine ⟨⟨canonical_ofDiagnostics ds, ?_⟩, ?_⟩
  · intro file d hMem
    rw [replaceAll, get_ofDiagnostics] at hMem
    simpa using List.of_mem_filter hMem
  · intro file hFile
    rw [replaceAll, Text.mem_sortedNames_iff, List.mem_append,
      not_or] at hFile
    rw [replaceAll, get_ofDiagnostics,
      filter_eq_nil_of_not_mem hFile.2,
      get_eq_nil_of_not_mem_files hFile.1]

/- A file that lost nothing has what it had. -/
theorem filter_outlives_of_not_mem
    {changed file : String}
    (hFile :
      file ∉
        (s.reports.filter
          (fun r =>
            (survivors changed r).diagnostics.length !=
              r.diagnostics.length)).map (·.file)) :
    (s.get file).filter (outlives changed) = s.get file := by
  unfold get
  split
  · next r hFound =>
      have hMem := List.mem_of_find?_eq_some hFound
      have hName : r.file = file := by
        simpa using List.find?_some hFound
      have hLength :
          (r.diagnostics.filter (outlives changed)).length =
            r.diagnostics.length := by
        by_contra hLost
        apply hFile
        rw [← hName]
        apply List.mem_map_of_mem
        apply List.mem_filter.mpr
        exact ⟨hMem, by simpa [survivors] using hLost⟩
      exact List.filter_eq_self.mpr
        (List.length_filter_eq_length_iff.mp hLength)
  · rfl

theorem keeps_merge
    (hFiled : s.Filed)
    (changed : String)
    (ds : List Diagnostic) :
    s.Keeps (s.merge changed ds).1 (s.merge changed ds).2 := by
  have hOrdered := hFiled.canonical.ordered
  refine ⟨⟨canonical_merge hOrdered changed ds, ?_⟩, ?_⟩
  · intro file d hMem
    rw [get_merge hOrdered, List.mem_append] at hMem
    rcases hMem with hOld | hNew
    · exact hFiled.placed file d (List.mem_of_mem_filter hOld)
    · simpa using List.of_mem_filter hNew
  · intro file hFile
    unfold merge at hFile
    rw [Text.mem_sortedNames_iff, List.mem_append, not_or,
      List.mem_append, not_or] at hFile
    rw [get_merge hOrdered,
      filter_outlives_of_not_mem hFile.1.1,
      filter_eq_nil_of_not_mem hFile.2, List.append_nil]

theorem get_clear
    (s : Store)
    (file other : String) :
    (s.clear file).2.get other =
      if other = file then [] else s.get other := by
  unfold clear get
  rw [List.find?_filter]
  by_cases hSame : other = file
  · have hNone :
        s.reports.find?
            (fun r =>
              decide
                ((r.file != file) = true ∧
                  (r.file == other) = true)) =
          none := by
      apply List.find?_eq_none.mpr
      intro r _
      simp [hSame]
    rw [hNone, if_pos hSame]
  · have hKept :
        (fun r : FileReport =>
          decide
            ((r.file != file) = true ∧
              (r.file == other) = true)) =
          fun r => r.file == other := by
      funext r
      by_cases hName : r.file = other
      · simp [hName, hSame]
      · simp [hName]
    rw [hKept, if_neg hSame]

theorem keeps_clear
    (hFiled : s.Filed)
    (file : String) :
    s.Keeps (s.clear file).1 (s.clear file).2 := by
  refine ⟨⟨⟨?_, ?_⟩, ?_⟩, ?_⟩
  · exact hFiled.canonical.ordered.filter _
  · intro r hMem
    exact hFiled.canonical.inhabited r
      (List.mem_of_mem_filter hMem)
  · intro other d hMem
    rw [get_clear] at hMem
    split at hMem
    · cases hMem
    · exact hFiled.placed other d hMem
  · intro other hOther
    rw [get_clear, if_neg (by simpa [clear] using hOther)]

/- Every change names all files that it changes. -/
theorem keeps_apply
    (hFiled : s.Filed)
    {root : RawText}
    {changed : Option RawText}
    {response : Response}
    {touched : List String}
    (hApply :
      s.apply root changed response = .ok (touched, t)) :
    s.Keeps touched t := by
  unfold apply at hApply
  cases response with
  | ready =>
      cases hApply
      exact ⟨hFiled, fun _ _ => rfl⟩
  | error message => cases hApply
  | missing path =>
      cases hApply
      exact keeps_clear hFiled _
  | result ds elapsed kind failures =>
      cases kind with
      | full =>
          cases hApply
          exact keeps_replaceAll s ds
      | incremental =>
          cases changed with
          | none =>
              cases hApply
              exact keeps_replaceAll s ds
          | some path =>
              cases hApply
              exact keeps_merge hFiled _ ds

end

end Store

------------------------------------------------------------
-- Batches
------------------------------------------------------------

/- Responses that are taken in together. -/
structure Batch where
  changed : Option RawText
  responses : List Response

namespace Folder

/- Several responses touch what each of them touches. -/
theorem keeps_absorb
    {s : Store}
    (hFiled : s.Filed)
    (root : RawText)
    (changed : Option RawText)
    (responses : List Response) :
    s.Keeps (absorb root changed responses s).2.1
      (absorb root changed responses s).2.2 := by
  induction responses generalizing s with
  | nil => exact ⟨hFiled, fun _ _ => rfl⟩
  | cons r rs ih =>
      unfold absorb
      cases hApply : s.apply root changed r with
      | error message => exact ih hFiled
      | ok result =>
          have hStep := Store.keeps_apply hFiled hApply
          exact hStep.trans (ih hStep.filed)

/- What is published after a batch: files with what they hold. -/
def published
    (root : RawText)
    (f : Folder)
    (b : Batch) : List (String × List Diagnostic) :=
  let (_, touched, store) :=
    absorb root b.changed b.responses f.store
  (Text.sortedNames touched).map
    (fun file => (file, store.get file))

/- A file that is published, as a notice to an editor. -/
def notice?
    (root : RawText)
    (p : String × List Diagnostic) : Option Notice :=
  (Uri.ofPath? (Path.join root p.1)).map
    (fun uri => .publish uri (p.2.map Marker.ofDiagnostic))

/- The notices after a batch: errors, and what is published. -/
theorem notices_apply
    (root : RawText)
    (f : Folder)
    (b : Batch) :
    (f.apply root b.changed b.responses).1 =
      (absorb root b.changed b.responses f.store).1.map
          Notice.ofError ++
        (f.published root b).filterMap (notice? root) := by
  unfold apply published
  rw [List.filterMap_map]
  rfl

end Folder

------------------------------------------------------------
-- What Is Shown
------------------------------------------------------------

/- A folder, and all that was published about it so far. -/
structure Screen where
  folder : Folder
  log : List (String × List Diagnostic)

namespace Screen

/- Nothing has been scanned or published. -/
def blank : Screen :=
  ⟨.fresh, []⟩

/- A batch is taken in, and touched files are published. -/
def receive
    (root : RawText)
    (v : Screen)
    (b : Batch) : Screen :=
  { folder := (v.folder.apply root b.changed b.responses).2
    log := v.log ++ v.folder.published root b }

/- What was published last for a file, if anything was. -/
def shown
    (v : Screen)
    (file : String) : List Diagnostic :=
  match v.log.reverse.find? (fun p => p.1 == file) with
  | some p => p.2
  | none => []

/- The files are shown as the store has them. -/
structure Faithful
    (v : Screen) : Prop where
  filed : v.folder.store.Filed
  shows : ∀ file, v.shown file = v.folder.store.get file

theorem shown_append
    (f : Folder)
    (log : List (String × List Diagnostic))
    (names : List String)
    (g : String → List Diagnostic)
    (file : String) :
    shown ⟨f, log ++ names.map (fun n => (n, g n))⟩ file =
      if file ∈ names then g file else shown ⟨f, log⟩ file := by
  unfold shown
  rw [List.reverse_append, List.find?_append]
  split_ifs with hFile
  · have hSome :
        ((names.map (fun n => (n, g n))).reverse.find?
          (fun p => p.1 == file)).isSome = true := by
      rw [List.find?_isSome]
      exact ⟨(file, g file), by simpa using hFile, by simp⟩
    rcases Option.isSome_iff_exists.mp hSome with ⟨p, hFound⟩
    have hMem := List.mem_of_find?_eq_some hFound
    rw [List.mem_reverse] at hMem
    rcases List.mem_map.mp hMem with ⟨n, _, rfl⟩
    have hName : n = file := by
      simpa using List.find?_some hFound
    rw [hFound, Option.some_or]
    exact congrArg g hName
  · have hNone :
        (names.map (fun n => (n, g n))).reverse.find?
            (fun p => p.1 == file) = none := by
      apply List.find?_eq_none.mpr
      intro p hMem hName
      rw [List.mem_reverse] at hMem
      rcases List.mem_map.mp hMem with ⟨n, hN, rfl⟩
      exact hFile (eq_of_beq hName ▸ hN)
    rw [hNone, Option.none_or]

theorem faithful_blank :
    blank.Faithful :=
  ⟨Store.filed_empty, fun _ => rfl⟩

theorem Faithful.receive
    {v : Screen}
    (hFaithful : v.Faithful)
    (root : RawText)
    (b : Batch) :
    (v.receive root b).Faithful := by
  have hKeeps :=
    Folder.keeps_absorb hFaithful.filed root b.changed
      b.responses
  refine ⟨hKeeps.filed, ?_⟩
  intro file
  unfold Screen.receive Folder.published
  rw [shown_append]
  split_ifs with hFile
  · rfl
  · -- The file was not touched, so store and screen agree
    -- about it as they did before.
    rw [Text.mem_sortedNames_iff] at hFile
    exact (hFaithful.shows file).trans
      (hKeeps.same file hFile).symm

theorem faithful_foldl
    {v : Screen}
    (hFaithful : v.Faithful)
    (root : RawText)
    (batches : List Batch) :
    (batches.foldl (receive root) v).Faithful := by
  induction batches generalizing v with
  | nil => exact hFaithful
  | cons b bs ih => exact ih (hFaithful.receive root b)

/-
  Whatever responses come in, in whatever batches: every file
  shows what the store holds for it, no file of the store is
  without diagnostics, and every diagnostic is kept under its
  own file.  The editor is told of what is published and of
  errors, and a response that is an error leaves the store and
  the screen alone.
-/
theorem shown_eq_get
    (root : RawText)
    (batches : List Batch) :
    let v := batches.foldl (receive root) blank
    (∀ file, v.shown file = v.folder.store.get file) ∧
      (∀ r ∈ v.folder.store.reports,
        r.diagnostics ≠ [] ∧
          ∀ d ∈ r.diagnostics, d.filePath = r.file) ∧
      (∀ b,
        (v.folder.apply root b.changed b.responses).1 =
          (Folder.absorb root b.changed b.responses
              v.folder.store).1.map Notice.ofError ++
            (v.folder.published root b).filterMap
              (Folder.notice? root)) ∧
      ∀ changed response message,
        v.folder.store.apply root changed response =
            .error message →
          v.receive root ⟨changed, [response]⟩ = v := by
  intro v
  have hFaithful : v.Faithful :=
    faithful_foldl faithful_blank root batches
  have hFiled := hFaithful.filed
  refine ⟨hFaithful.shows, ?_, v.folder.notices_apply root, ?_⟩
  · intro r hMem
    rcases (hFiled.canonical.mem_reports_iff r).mp hMem with
      ⟨hGet, hSome⟩
    refine ⟨hSome, ?_⟩
    rw [← hGet]
    exact hFiled.placed r.file
  · intro changed response message hError
    unfold receive Folder.apply Folder.published Folder.absorb
    rw [hError]
    simp [Folder.absorb, Text.sortedNames]

end Screen

end ModuleLint
