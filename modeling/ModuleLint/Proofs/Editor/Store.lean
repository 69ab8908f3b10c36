import ModuleLint.Editor.Store
import ModuleLint.Proofs.Text.Keyed

/-
  What the changes of a store do to the diagnostics of a file.

  A store is canonical when its files are in order and none of
  them is without diagnostics.  A canonical store is determined
  by the diagnostics of each file, and every change leads to a
  canonical store again.

  Main declarations:
    * `Store.Canonical`, `Store.eq_of_get_eq`
    * `Store.get_addAll`, `Store.get_ofDiagnostics`
    * `Store.get_merge`, `Store.canonical_merge`
-/

namespace ModuleLint

namespace Store

------------------------------------------------------------
-- Looking Up a File
------------------------------------------------------------

@[simp] theorem get_nil
    (file : String) :
    get ⟨[]⟩ file = [] := rfl

theorem get_cons
    (r : FileReport)
    (rs : List FileReport)
    (file : String) :
    get ⟨r :: rs⟩ file =
      if r.file = file then r.diagnostics
      else get ⟨rs⟩ file := by
  by_cases hFile : r.file = file
  · simp [get, hFile]
  · simp [get, hFile]

/- Files in order, each of them once. -/
def Ordered
    (rs : List FileReport) : Prop :=
  rs.Pairwise (fun r t => r.file < t.file)

/- A file below all files of a store has no diagnostics. -/
theorem get_eq_nil_of_lt
    {rs : List FileReport}
    {file : String}
    (hBelow : ∀ r ∈ rs, file < r.file) :
    get ⟨rs⟩ file = [] := by
  simp [get, Keyed.find?_eq_none_of_lt hBelow]

------------------------------------------------------------
-- Canonical Stores
------------------------------------------------------------

/-
  Files are in order, and each of them has diagnostics.
-/
structure Canonical
    (s : Store) : Prop where
  ordered : Ordered s.reports
  inhabited : ∀ r ∈ s.reports, r.diagnostics ≠ []

/- The reports of a canonical store, seen through `get`. -/
theorem Canonical.mem_reports_iff
    {s : Store}
    (hCanonical : s.Canonical)
    (r : FileReport) :
    r ∈ s.reports ↔
      s.get r.file = r.diagnostics ∧
        r.diagnostics ≠ [] := by
  constructor
  · intro hMem
    have hFound :
        s.reports.find? (fun t => t.file == r.file) =
          some r :=
      (Keyed.find?_eq_some_iff hCanonical.ordered).mpr
        ⟨hMem, rfl⟩
    exact ⟨by simp [get, hFound],
      hCanonical.inhabited r hMem⟩
  · rintro ⟨hGet, hSome⟩
    unfold get at hGet
    split at hGet
    · next t hFound =>
        rcases (Keyed.find?_eq_some_iff
          hCanonical.ordered).mp hFound with ⟨hMem, hFile⟩
        have hSame : t = r := by
          cases t
          cases r
          simp_all
        exact hSame ▸ hMem
    · exact absurd hGet.symm hSome

/- A canonical store is what it says about each file. -/
theorem eq_of_get_eq
    {s t : Store}
    (hS : s.Canonical)
    (hT : t.Canonical)
    (hGet : ∀ file, s.get file = t.get file) :
    s = t := by
  have hReports : s.reports = t.reports := by
    apply Keyed.eq_of_mem_iff hS.ordered hT.ordered
    intro r
    rw [hS.mem_reports_iff, hT.mem_reports_iff, hGet]
  cases s
  cases t
  exact congrArg Store.mk hReports

------------------------------------------------------------
-- Adding Diagnostics
------------------------------------------------------------

/- A report after a diagnostic is added was there or is new. -/
theorem file_of_mem_place
    {d : Diagnostic}
    {rs : List FileReport}
    {r : FileReport}
    (hMem : r ∈ place d rs) :
    r.file = d.filePath ∨ ∃ t ∈ rs, t.file = r.file := by
  fun_induction place d rs <;> grind

theorem ordered_place
    (d : Diagnostic)
    {rs : List FileReport}
    (hOrdered : Ordered rs) :
    Ordered (place d rs) := by
  fun_induction place d rs with
  | case1 => exact List.pairwise_singleton _ _
  | case2 r rs hBefore =>
      refine List.pairwise_cons.mpr ⟨?_, hOrdered⟩
      intro t hMem
      rcases List.mem_cons.mp hMem with rfl | hLater
      · exact hBefore
      · exact String.lt_trans hBefore
          (List.rel_of_pairwise_cons hOrdered hLater)
  | case3 r rs _ _ =>
      refine List.pairwise_cons.mpr ⟨?_, hOrdered.of_cons⟩
      intro t hMem
      exact List.rel_of_pairwise_cons hOrdered hMem
  | case4 r rs hBefore hSame ih =>
      refine List.pairwise_cons.mpr ⟨?_, ih hOrdered.of_cons⟩
      intro t hMem
      rcases file_of_mem_place hMem with
        hNew | ⟨w, hOld, hFile⟩
      · have hNe : r.file ≠ d.filePath :=
          fun hEq => hSame (beq_iff_eq.mpr hEq.symm)
        rw [hNew]
        exact Std.lt_of_le_of_ne
          (String.not_lt.mp hBefore) hNe
      · rw [← hFile]
        exact List.rel_of_pairwise_cons hOrdered hOld

/- A diagnostic comes after the others of its file. -/
theorem get_place
    (d : Diagnostic)
    {rs : List FileReport}
    (hOrdered : Ordered rs)
    (file : String) :
    get ⟨place d rs⟩ file =
      get ⟨rs⟩ file ++ [d].filter (·.filePath == file) := by
  fun_induction place d rs with
  | case1 =>
      by_cases hFile : d.filePath = file
      · simp [get_cons, hFile]
      · simp [get_cons, hFile]
  | case2 r rs hBefore =>
      by_cases hFile : d.filePath = file
      · have hBelow : ∀ t ∈ r :: rs, file < t.file := by
          intro t hMem
          rw [← hFile]
          rcases List.mem_cons.mp hMem with rfl | hLater
          · exact hBefore
          · exact String.lt_trans hBefore
              (List.rel_of_pairwise_cons hOrdered hLater)
        rw [get_eq_nil_of_lt hBelow]
        simp [get_cons, hFile]
      · rw [get_cons, if_neg hFile]
        simp [hFile]
  | case3 r rs _ hSame =>
      have hPath := eq_of_beq hSame
      by_cases hFile : d.filePath = file
      · simp [get_cons, ← hPath, hFile]
      · simp [get_cons, ← hPath, hFile]
  | case4 r rs _ hSame ih =>
      rw [get_cons, get_cons, ih hOrdered.of_cons]
      by_cases hFile : r.file = file
      · have hOther : d.filePath ≠ file :=
          fun hEq => hSame (beq_iff_eq.mpr (hEq.trans hFile.symm))
        simp [hFile, hOther]
      · simp [hFile]

theorem inhabited_place
    {d : Diagnostic}
    {rs : List FileReport}
    (hInhabited : ∀ r ∈ rs, r.diagnostics ≠ []) :
    ∀ r ∈ place d rs, r.diagnostics ≠ [] := by
  fun_induction place d rs with
  | case1 => simp
  | case2 r rs _ =>
      exact List.forall_mem_cons.mpr ⟨by simp, hInhabited⟩
  | case3 r rs _ _ =>
      exact List.forall_mem_cons.mpr
        ⟨by simp, (List.forall_mem_cons.mp hInhabited).2⟩
  | case4 r rs _ _ ih =>
      rcases List.forall_mem_cons.mp hInhabited with
        ⟨hHead, hTail⟩
      exact List.forall_mem_cons.mpr ⟨hHead, ih hTail⟩

theorem ordered_addAll
    {s : Store}
    (hOrdered : Ordered s.reports)
    (ds : List Diagnostic) :
    Ordered (s.addAll ds).reports := by
  induction ds generalizing s with
  | nil => exact hOrdered
  | cons d ds ih =>
      exact ih (s := ⟨place d s.reports⟩)
        (ordered_place d hOrdered)

/- Diagnostics come after the others of their files. -/
theorem get_addAll
    {s : Store}
    (hOrdered : Ordered s.reports)
    (ds : List Diagnostic)
    (file : String) :
    (s.addAll ds).get file =
      s.get file ++ ds.filter (·.filePath == file) := by
  induction ds generalizing s with
  | nil => simp [addAll]
  | cons d ds ih =>
      have hTail := ih (s := ⟨place d s.reports⟩)
        (ordered_place d hOrdered)
      calc
        (s.addAll (d :: ds)).get file
            = get ⟨place d s.reports⟩ file ++
                ds.filter (·.filePath == file) := hTail
        _ = s.get file ++
              (d :: ds).filter (·.filePath == file) := by
            rw [get_place d hOrdered, List.append_assoc,
              ← List.filter_append, List.singleton_append]

theorem inhabited_addAll
    {s : Store}
    (hInhabited : ∀ r ∈ s.reports, r.diagnostics ≠ [])
    (ds : List Diagnostic) :
    ∀ r ∈ (s.addAll ds).reports, r.diagnostics ≠ [] := by
  induction ds generalizing s with
  | nil => exact hInhabited
  | cons d ds ih =>
      exact ih (s := ⟨place d s.reports⟩)
        (inhabited_place hInhabited)

/- A store of diagnostics has those of each file, in order. -/
theorem get_ofDiagnostics
    (ds : List Diagnostic)
    (file : String) :
    (ofDiagnostics ds).get file =
      ds.filter (·.filePath == file) := by
  have hEmpty : Ordered empty.reports := List.Pairwise.nil
  exact get_addAll hEmpty ds file

theorem canonical_ofDiagnostics
    (ds : List Diagnostic) :
    (ofDiagnostics ds).Canonical :=
  ⟨ordered_addAll List.Pairwise.nil ds,
    inhabited_addAll (by simp [empty]) ds⟩

------------------------------------------------------------
-- Merging
------------------------------------------------------------

theorem ordered_survivors
    (changed : String)
    {rs : List FileReport}
    (hOrdered : Ordered rs) :
    Ordered (rs.map (survivors changed)) :=
  List.pairwise_map.mpr hOrdered

theorem get_survivors
    (changed : String)
    (rs : List FileReport)
    (file : String) :
    get ⟨rs.map (survivors changed)⟩ file =
      (get ⟨rs⟩ file).filter (outlives changed) := by
  induction rs with
  | nil => rfl
  | cons r rs ih =>
      rw [List.map_cons, get_cons, get_cons, ih]
      by_cases hFile : r.file = file
      · simp [survivors, hFile]
      · simp [survivors, hFile]

/- Files without diagnostics can be left out. -/
theorem get_filter_inhabited
    {rs : List FileReport}
    (hOrdered : Ordered rs)
    (file : String) :
    get ⟨rs.filter (fun r => !r.diagnostics.isEmpty)⟩ file =
      get ⟨rs⟩ file := by
  induction rs with
  | nil => rfl
  | cons r rs ih =>
      have hTail := ih hOrdered.of_cons
      by_cases hEmpty : r.diagnostics = []
      · rw [get_cons, List.filter_cons_of_neg (by simp [hEmpty]),
          hTail]
        split
        · next hFile =>
            have hBelow : ∀ t ∈ rs, file < t.file := by
              intro t hMem
              rw [← hFile]
              exact List.rel_of_pairwise_cons hOrdered hMem
            rw [get_eq_nil_of_lt hBelow, hEmpty]
        · rfl
      · rw [List.filter_cons_of_pos (by simp [hEmpty]),
          get_cons, get_cons, hTail]

/-
  After a merge a file has what outlived the change, followed
  by what is new.
-/
theorem get_merge
    {s : Store}
    (hOrdered : Ordered s.reports)
    (changed : String)
    (ds : List Diagnostic)
    (file : String) :
    (s.merge changed ds).2.get file =
      (s.get file).filter (outlives changed) ++
        ds.filter (·.filePath == file) := by
  have hKept := ordered_survivors changed hOrdered
  have hGrown := ordered_addAll (s := ⟨_⟩) hKept ds
  calc
    (s.merge changed ds).2.get file
        = (addAll ⟨s.reports.map (survivors changed)⟩
            ds).get file :=
          get_filter_inhabited hGrown file
    _ = get ⟨s.reports.map (survivors changed)⟩ file ++
          ds.filter (·.filePath == file) :=
        get_addAll (s := ⟨_⟩) hKept ds file
    _ = (s.get file).filter (outlives changed) ++
          ds.filter (·.filePath == file) := by
        rw [get_survivors]

theorem canonical_merge
    {s : Store}
    (hOrdered : Ordered s.reports)
    (changed : String)
    (ds : List Diagnostic) :
    (s.merge changed ds).2.Canonical := by
  have hKept := ordered_survivors changed hOrdered
  refine ⟨?_, ?_⟩
  · exact (ordered_addAll (s := ⟨_⟩) hKept ds).filter _
  · intro r hMem
    simpa using List.of_mem_filter hMem

end Store

end ModuleLint
