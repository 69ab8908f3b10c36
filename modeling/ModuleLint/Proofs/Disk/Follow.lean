import ModuleLint.Proofs.Disk.Tree

/-
  Where paths lead to.

  A path that leads to something leads to what its plain names
  lead to.  Names behind a path are followed from where the
  path leads to, and a path to a directory still leads to it
  after an edit.

  Main declarations:
    * `Entry.lookup`
    * `Disk.at?_of_entry`, `Disk.entry_below`
    * `Disk.namesOf_below`
    * `Disk.entry_of_keeps`
-/

namespace ModuleLint

------------------------------------------------------------
-- Names Only
------------------------------------------------------------

namespace Entry

/- Names followed from an entry, with the fault if they end. -/
def lookup
    (e : Entry) : List RawText → Except ReadFault Entry
  | [] => .ok e
  | n :: ns =>
      match e with
      | file _ => .error .notDirectory
      | directory _ =>
          match e.member? n with
          | none => .error .missing
          | some m => m.lookup ns

theorem lookup_eq_ok_iff
    {e m : Entry}
    {ns : List RawText} :
    e.lookup ns = .ok m ↔ e.at? ns = some m := by
  induction ns generalizing e with
  | nil => simp [lookup]
  | cons n ns ih =>
      cases e with
      | file c => simp [lookup, at?_cons]
      | directory ms =>
          rw [lookup, at?_cons]
          cases (directory ms).member? n with
          | none => simp
          | some inner => exact ih

/- The way is open where a file is or nothing is yet. -/
theorem open_of_lookup
    {e : Entry}
    {ns : List RawText}
    (hEnd :
      e.lookup ns = .error .missing ∨
        ∃ c, e.lookup ns = .ok (file c)) :
    Open (some e) ns := by
  induction ns generalizing e with
  | nil =>
      rcases hEnd with hMissing | ⟨c, hFile⟩
      · cases hMissing
      · cases hFile
        rfl
  | cons n ns ih =>
      cases e with
      | file c => simp [lookup] at hEnd
      | directory ms =>
          rw [lookup] at hEnd
          rw [open_cons_iff]
          refine ⟨rfl, ?_⟩
          cases hMember : (directory ms).member? n with
          | none => simp [Open]
          | some inner =>
              rw [hMember] at hEnd
              exact ih hEnd

end Entry

namespace Disk

theorem follow_names
    (top : Entry)
    (above : List Entry)
    (e : Entry)
    (ns : List RawText) :
    follow top above e (ns.map .name) = e.lookup ns := by
  induction ns generalizing above e with
  | nil => rfl
  | cons n ns ih =>
      cases e with
      | file c => rfl
      | directory ms =>
          rw [List.map_cons, follow, Entry.lookup]
          cases (Entry.directory ms).member? n with
          | none => rfl
          | some m => exact ih _ m

------------------------------------------------------------
-- Names Behind a Path
------------------------------------------------------------

/- Names are followed from where the parts before them end. -/
theorem follow_append_names
    {top : Entry}
    {above : List Entry}
    {here e : Entry}
    {ps : List Part}
    (hOk : follow top above here ps = .ok e)
    (ns : List RawText) :
    follow top above here (ps ++ ns.map .name) =
      e.lookup ns := by
  fun_induction follow top above here ps with
  | case1 above =>
      cases hOk
      exact follow_names top above e ns
  | case2 above here ps ih => exact ih hOk
  | case3 above here ps ih => exact ih hOk
  | case4 => cases hOk
  | case5 ps ms ih => exact ih hOk
  | case6 ps ms up above ih => exact ih hOk
  | case7 => cases hOk
  | case8 above n ps ms hMember =>
      rw [hMember] at hOk
      cases hOk
  | case9 above n ps ms m hMember ih =>
      rw [hMember] at hOk
      rw [List.cons_append, follow, hMember]
      exact ih hOk

theorem plainNames_append_names
    (ps : List Part)
    (seen ns : List RawText) :
    plainNames (ps ++ ns.map .name) seen =
      plainNames ps seen ++ ns := by
  induction ps generalizing seen with
  | nil =>
      induction ns generalizing seen with
      | nil => exact (List.append_nil _).symm
      | cons n ns ih =>
          calc
            plainNames (ns.map .name) (n :: seen)
                = plainNames [] (n :: seen) ++ ns :=
                  ih (n :: seen)
            _ = plainNames [] seen ++ n :: ns := by
                simp [plainNames]
  | cons p ps ih =>
      cases p with
      | root => exact ih []
      | here => exact ih seen
      | parent => exact ih seen.tail
      | name n => exact ih (n :: seen)

/- The names of a path below a root. -/
theorem namesOf_below
    (root : RawText)
    {names : List RawText}
    (hSome : names ≠ [])
    (hNames : ∀ n ∈ names, Path.IsName n) :
    namesOf (Path.below root names) =
      namesOf root ++ names := by
  unfold namesOf
  rw [Path.below_eq_join root hSome hNames,
    Path.partsOf_join root hSome hNames,
    plainNames_append_names]

/- A path that ends in a name may lead to a file. -/
theorem asksDirectory_below
    (root : RawText)
    {names : List RawText}
    (hSome : names ≠ [])
    (hNames : ∀ n ∈ names, Path.IsName n) :
    asksDirectory (Path.below root names) = false := by
  rw [Path.below_eq_join root hSome hNames]
  rcases Path.ofText_join root
      (Path.follow_names hSome hNames) with
    ⟨steps, hText, _⟩
  rcases List.exists_cons_of_ne_nil
      (List.reverse_ne_nil_iff.mpr hSome) with
    ⟨last, before, hReverse⟩
  have hMem : last ∈ names := by
    rw [← List.mem_reverse, hReverse]
    exact List.mem_cons_self
  unfold asksDirectory
  rw [hText, List.reverse_append, hReverse, List.cons_append]
  split
  · next hSteps =>
      rw [List.cons.injEq] at hSteps
      rw [← hSteps.1]
      exact (hNames last hMem).not_idle
  · rfl

theorem entry_eq_ok_iff_of_isDirectory
    {d : Disk}
    {path : RawText}
    {e : Entry}
    (hDirectory : e.isDirectory = true) :
    d.entry path = .ok e ↔
      follow d.root [] d.root (Path.partsOf path) = .ok e := by
  have hFile : e.isFile = false := by
    cases e with
    | file c => cases hDirectory
    | directory ms => rfl
  unfold entry
  constructor
  · intro hOk
    split at hOk
    · split at hOk
      · cases hOk
      · next hFollow _ =>
          cases hOk
          exact hFollow
    · cases hOk
  · intro hFollow
    rw [hFollow]
    simp [hFile]

theorem exists_entry_of_isDirectory
    {d : Disk}
    {path : RawText}
    (hDirectory : d.isDirectory path = true) :
    ∃ e, d.entry path = .ok e ∧ e.isDirectory = true := by
  unfold isDirectory at hDirectory
  cases hEntry : d.entry path with
  | error f => simp [hEntry] at hDirectory
  | ok e =>
      rw [hEntry] at hDirectory
      exact ⟨e, rfl, hDirectory⟩

theorem isFile_iff
    {d : Disk}
    {path : RawText} :
    d.isFile path = true ↔
      ∃ c, d.entry path = .ok (.file c) := by
  unfold isFile
  rcases d.entry path with f | (c | ms)
  · simp
  · simp [Entry.isFile]
  · simp [Entry.isFile]

theorem read_eq_ok_iff
    {d : Disk}
    {path : RawText}
    {text : String} :
    d.read path = .ok text ↔
      d.entry path = .ok (.file (.text text)) := by
  unfold read
  rcases d.entry path with f | ((s | bytes) | ms)
  · simp
  · simp [Entry.readText]
  · simp [Entry.readText]
  · simp [Entry.readText]

theorem read_eq_missing_iff
    {d : Disk}
    {path : RawText} :
    d.read path = .error .missing ↔
      d.entry path = .error .missing := by
  unfold read
  rcases d.entry path with f | ((s | bytes) | ms)
  · simp
  · simp [Entry.readText]
  · simp [Entry.readText]
  · simp [Entry.readText]

theorem isFile_of_read
    {d : Disk}
    {path : RawText}
    {text : String}
    (hRead : d.read path = .ok text) :
    d.isFile path = true :=
  isFile_iff.mpr ⟨_, read_eq_ok_iff.mp hRead⟩

/- Below a directory, names are looked up from there. -/
theorem entry_below
    {d : Disk}
    {root : RawText}
    {top : Entry}
    (hTop : d.entry root = .ok top)
    (hDirectory : top.isDirectory = true)
    {names : List RawText}
    (hSome : names ≠ [])
    (hNames : ∀ n ∈ names, Path.IsName n) :
    d.entry (Path.below root names) = top.lookup names := by
  rw [entry_eq_ok_iff_of_isDirectory hDirectory] at hTop
  have hParts :=
    Path.partsOf_join root hSome hNames
  have hFollow := follow_append_names hTop names
  rw [← hParts, ← Path.below_eq_join root hSome hNames]
    at hFollow
  unfold entry
  rw [hFollow, asksDirectory_below root hSome hNames]
  cases top.lookup names with
  | ok e => simp
  | error f => rfl

------------------------------------------------------------
-- Plain Names
------------------------------------------------------------

/-
  Names from the top of a tree, the last one first, with the
  directories that they lead through and where they end.
-/
inductive Way
    (top : Entry) :
    List RawText → List Entry → Entry → Prop
| start :
    Way top [] [] top
| step
    {seen : List RawText}
    {above : List Entry}
    {here m : Entry}
    {n : RawText}
    (hWay : Way top seen above here)
    (hMember : here.member? n = some m) :
    Way top (n :: seen) (here :: above) m

theorem Way.at?_eq
    {top here : Entry}
    {seen : List RawText}
    {above : List Entry}
    (hWay : Way top seen above here) :
    top.at? seen.reverse = some here := by
  induction hWay with
  | start => exact Entry.at?_nil top
  | step _ hMember ih =>
      rw [List.reverse_cons, Entry.at?_append, ih,
        Option.bind_some, Entry.at?_cons, hMember]
      exact Entry.at?_nil _

/- Parts that lead to something lead to their plain names. -/
theorem at?_of_follow
    {top here e : Entry}
    {seen : List RawText}
    {above : List Entry}
    {ps : List Part}
    (hWay : Way top seen above here)
    (hOk : follow top above here ps = .ok e) :
    top.at? (plainNames ps seen) = some e := by
  induction ps generalizing seen above here with
  | nil =>
      cases hOk
      exact hWay.at?_eq
  | cons p ps ih =>
      cases p with
      | root => exact ih .start hOk
      | here => exact ih hWay hOk
      | parent =>
          cases here with
          | file c => cases hOk
          | directory ms =>
              cases hWay with
              | start => exact ih .start hOk
              | step hUp _ => exact ih hUp hOk
      | name n =>
          cases here with
          | file c => cases hOk
          | directory ms =>
              rw [follow] at hOk
              cases hMember :
                  (Entry.directory ms).member? n with
              | none =>
                  rw [hMember] at hOk
                  cases hOk
              | some m =>
                  rw [hMember] at hOk
                  exact ih (hWay.step hMember) hOk

theorem at?_of_entry
    {d : Disk}
    {path : RawText}
    {e : Entry}
    (hEntry : d.entry path = .ok e)
    (hDirectory : e.isDirectory = true) :
    d.root.at? (namesOf path) = some e := by
  rw [entry_eq_ok_iff_of_isDirectory hDirectory] at hEntry
  exact at?_of_follow .start hEntry

------------------------------------------------------------
-- Directories After an Edit
------------------------------------------------------------

/- From a file, parts lead nowhere else. -/
theorem eq_file_of_follow
    {top e : Entry}
    {above : List Entry}
    {c : Content}
    {ps : List Part}
    (hRoot : .root ∉ ps)
    (hOk : follow top above (.file c) ps = .ok e) :
    e = .file c := by
  induction ps with
  | nil =>
      cases hOk
      rfl
  | cons p ps ih =>
      rw [List.mem_cons, not_or] at hRoot
      cases p with
      | root => exact absurd rfl hRoot.1
      | here => exact ih hRoot.2 hOk
      | parent => cases hOk
      | name n => cases hOk

theorem Way.isDirectory
    {top top' here here' : Entry}
    {seen : List RawText}
    {above above' : List Entry}
    (hKeeps : Entry.Keeps top top')
    (hWay : Way top seen above here)
    (hWay' : Way top' seen above' here')
    (hDirectory : here.isDirectory = true) :
    here'.isDirectory = true := by
  rcases hKeeps _ _ hWay.at?_eq hDirectory with
    ⟨m', hAt, hM'⟩
  rw [hWay'.at?_eq, Option.some_inj] at hAt
  exact hAt ▸ hM'

/-
  Parts that lead to a directory lead to one in every tree
  that has the same directories and maybe more.
-/
theorem follow_of_keeps
    {top top' here here' e : Entry}
    {seen : List RawText}
    {above above' : List Entry}
    (hKeeps : Entry.Keeps top top')
    (hWay : Way top seen above here)
    (hWay' : Way top' seen above' here')
    {ps : List Part}
    (hRoot : .root ∉ ps)
    (hOk : follow top above here ps = .ok e)
    (hDirectory : e.isDirectory = true) :
    ∃ e',
      follow top' above' here' ps = .ok e' ∧
        e'.isDirectory = true := by
  -- Both walks see the same names, so the ways stay in step.
  induction ps generalizing seen above above' here here' with
  | nil =>
      cases hOk
      exact ⟨here', rfl, hWay.isDirectory hKeeps hWay' hDirectory⟩
  | cons p ps ih =>
      rw [List.mem_cons, not_or] at hRoot
      cases p with
      | root => exact absurd rfl hRoot.1
      | here => exact ih hWay hWay' hRoot.2 hOk
      | parent =>
          cases here with
          | file c => cases hOk
          | directory ms =>
              have hHere := hWay.isDirectory hKeeps hWay' rfl
              cases here' with
              | file c => cases hHere
              | directory ms' =>
                  cases hWay with
                  | start =>
                      cases hWay' with
                      | start => exact ih .start .start hRoot.2 hOk
                  | step hUp _ =>
                      cases hWay' with
                      | step hUp' _ => exact ih hUp hUp' hRoot.2 hOk
      | name n =>
          cases here with
          | file c => cases hOk
          | directory ms =>
              have hHere := hWay.isDirectory hKeeps hWay' rfl
              cases here' with
              | file c => cases hHere
              | directory ms' =>
                  rw [follow] at hOk ⊢
                  cases hMember :
                      (Entry.directory ms).member? n with
                  | none =>
                      rw [hMember] at hOk
                      cases hOk
                  | some m =>
                      rw [hMember] at hOk
                      have hStep := hWay.step hMember
                      have hM : m.isDirectory = true := by
                        cases m with
                        | directory xs => rfl
                        | file c =>
                            cases eq_file_of_follow hRoot.2 hOk
                            exact hDirectory
                      rcases hKeeps _ _ hStep.at?_eq hM with
                        ⟨m', hAt, hM'⟩
                      rw [List.reverse_cons, Entry.at?_append,
                        hWay'.at?_eq, Option.bind_some,
                        Entry.at?_cons,
                        Option.bind_eq_some_iff] at hAt
                      rcases hAt with ⟨inner, hMember', _⟩
                      rw [hMember']
                      exact ih hStep (hWay'.step hMember')
                        hRoot.2 hOk

/- The start of a path is where following starts anyway. -/
theorem follow_partsOf
    (top : Entry)
    (path : RawText) :
    follow top [] top (Path.partsOf path) =
      follow top [] top
        ((Path.ofText path).steps.filterMap Part.ofStep?) := by
  unfold Path.partsOf Path.parts
  cases (Path.ofText path).start <;> rfl

theorem root_not_mem_steps
    (steps : List RawText) :
    .root ∉ steps.filterMap Part.ofStep? := by
  intro hMem
  rcases List.mem_filterMap.mp hMem with ⟨s, _, hStep⟩
  unfold Part.ofStep? at hStep
  split at hStep
  · cases hStep
  · split at hStep <;> cases hStep

/- A path to a directory leads to it after an edit, too. -/
theorem entry_of_keeps
    {d d' : Disk}
    (hKeeps : Entry.Keeps d.root d'.root)
    {path : RawText}
    {top : Entry}
    (hTop : d.entry path = .ok top)
    (hDirectory : top.isDirectory = true) :
    ∃ top',
      d'.entry path = .ok top' ∧
        top'.isDirectory = true := by
  rw [entry_eq_ok_iff_of_isDirectory hDirectory,
    follow_partsOf] at hTop
  rcases follow_of_keeps hKeeps .start .start
      (root_not_mem_steps _) hTop hDirectory with
    ⟨top', hTop', hDirectory'⟩
  refine ⟨top', ?_, hDirectory'⟩
  rw [entry_eq_ok_iff_of_isDirectory hDirectory',
    follow_partsOf]
  exact hTop'

end Disk

end ModuleLint
