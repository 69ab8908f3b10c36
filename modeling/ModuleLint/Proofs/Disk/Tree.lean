import ModuleLint.Disk.Basic
import ModuleLint.Proofs.Path.Join

/-
  Directories as trees of named entries, and changes of one
  file in them.

  An edit of a tree changes nothing but the one file that a
  way of names leads to.  Directories on the way may be made,
  and none goes away.

  Main declarations:
    * `Entry.at?`, `Entry.Tidy`
    * `Entry.Edited`, `Entry.Edited.at?_cases`
    * `Entry.edited_put`, `Entry.edited_remove`
    * `Entry.tidy_put`, `Entry.tidy_remove`
-/

namespace ModuleLint

namespace Entry

------------------------------------------------------------
-- Following Names
------------------------------------------------------------

/- The entry that a way of names leads to. -/
def at? : Entry → List RawText → Option Entry
  | e, [] => some e
  | e, n :: ns => (e.member? n).bind (fun m => m.at? ns)

@[simp] theorem at?_nil
    (e : Entry) :
    e.at? [] = some e := by
  cases e <;> rfl

theorem at?_cons
    (e : Entry)
    (n : RawText)
    (ns : List RawText) :
    e.at? (n :: ns) =
      (e.member? n).bind (fun m => m.at? ns) := by
  cases e <;> rfl

theorem at?_append
    (e : Entry)
    (ns ks : List RawText) :
    e.at? (ns ++ ks) =
      (e.at? ns).bind (fun m => m.at? ks) := by
  induction ns generalizing e with
  | nil => simp
  | cons n ns ih =>
      rw [List.cons_append, at?_cons, at?_cons]
      cases e.member? n with
      | none => rfl
      | some m => exact ih m

@[simp] theorem member?_file
    (c : Content)
    (n : RawText) :
    (file c).member? n = none := rfl

theorem at?_file_eq_some_iff
    {c : Content}
    {ns : List RawText}
    {e : Entry} :
    (file c).at? ns = some e ↔ ns = [] ∧ e = file c := by
  cases ns with
  | nil => simp [eq_comm]
  | cons n ns => simp [at?_cons]

@[simp] theorem member?_empty
    (n : RawText) :
    (directory []).member? n = none := rfl

------------------------------------------------------------
-- Members
------------------------------------------------------------

theorem member?_cons
    (m : RawText × Entry)
    (ms : List (RawText × Entry))
    (k : RawText) :
    (directory (m :: ms)).member? k =
      if m.1 = k then some m.2
      else (directory ms).member? k := by
  by_cases hName : m.1 = k
  · simp [member?, hName]
  · simp [member?, hName]

theorem member?_eq_none_iff
    {ms : List (RawText × Entry)}
    {k : RawText} :
    (directory ms).member? k = none ↔
      ∀ m ∈ ms, m.1 ≠ k := by
  simp [member?]

theorem mem_of_member?
    {ms : List (RawText × Entry)}
    {k : RawText}
    {e : Entry}
    (hMember : (directory ms).member? k = some e) :
    (k, e) ∈ ms := by
  induction ms with
  | nil => cases hMember
  | cons m ms ih =>
      rw [member?_cons] at hMember
      split at hMember
      · next hName =>
          rw [← hName, ← Option.some.inj hMember]
          exact List.mem_cons_self
      · exact List.mem_cons_of_mem m (ih hMember)

/- With names once each, every member is found. -/
theorem member?_of_mem
    {ms : List (RawText × Entry)}
    (hNames : (ms.map (·.1)).Nodup)
    {k : RawText}
    {e : Entry}
    (hMem : (k, e) ∈ ms) :
    (directory ms).member? k = some e := by
  induction ms with
  | nil => cases hMem
  | cons m ms ih =>
      rw [List.map_cons, List.nodup_cons] at hNames
      rw [member?_cons]
      rcases List.mem_cons.mp hMem with hHead | hTail
      · rw [← hHead, if_pos rfl]
      · have hNe : m.1 ≠ k := by
          intro hEq
          exact hNames.1
            (hEq ▸ List.mem_map.mpr ⟨(k, e), hTail, rfl⟩)
        rw [if_neg hNe]
        exact ih hNames.2 hTail

theorem member?_append_singleton
    (ms : List (RawText × Entry))
    (n : RawText)
    (e : Entry)
    (k : RawText) :
    (directory (ms ++ [(n, e)])).member? k =
      ((directory ms).member? k).or
        (if k = n then some e else none) := by
  induction ms with
  | nil =>
      rw [List.nil_append, member?_cons]
      simp [eq_comm]
  | cons m ms ih =>
      rw [List.cons_append, member?_cons, member?_cons, ih]
      split
      · rfl
      · rfl

theorem member?_map_at
    (f : RawText × Entry → Entry)
    (n : RawText)
    (ms : List (RawText × Entry))
    (k : RawText) :
    (directory
        (ms.map
          (fun m => if m.1 == n then (n, f m) else m))).member?
        k =
      if k = n then
        ((directory ms).member? n).map (fun e => f (n, e))
      else (directory ms).member? k := by
  induction ms with
  | nil => simp
  | cons m ms ih =>
      rcases m with ⟨name, e⟩
      rw [List.map_cons, member?_cons, ih, member?_cons,
        member?_cons]
      by_cases hName : name = n
      · by_cases hK : k = n
        · simp [hName, hK]
        · simp [hName, hK, Ne.symm hK]
      · by_cases hK : k = n
        · simp [hName, hK]
        · simp [hName, hK]

theorem map_fst_map_at
    (f : RawText × Entry → Entry)
    (n : RawText)
    (ms : List (RawText × Entry)) :
    (ms.map (fun m => if m.1 == n then (n, f m) else m)).map
        (·.1) =
      ms.map (·.1) := by
  rw [List.map_map]
  apply List.map_congr_left
  intro m _
  by_cases hName : m.1 = n
  · simp [hName]
  · simp [hName]

/- One member put in place, and the others as before. -/
theorem member?_putMember
    (n : RawText)
    (e : Entry)
    (ms : List (RawText × Entry))
    (k : RawText) :
    (directory (putMember n e ms)).member? k =
      if k = n then some e
      else (directory ms).member? k := by
  unfold putMember
  split
  · next hAny =>
      rw [member?_map_at (fun _ => e)]
      split
      · cases hMember : (directory ms).member? n with
        | none =>
            rw [member?_eq_none_iff] at hMember
            rcases List.any_eq_true.mp hAny with
              ⟨m, hMem, hName⟩
            exact absurd (eq_of_beq hName) (hMember m hMem)
        | some x => rfl
      · rfl
  · next hAny =>
      rw [member?_append_singleton]
      split
      · next hK =>
          have hNone : (directory ms).member? k = none := by
            rw [member?_eq_none_iff]
            intro m hMem hName
            apply hAny
            exact List.any_eq_true.mpr
              ⟨m, hMem, beq_iff_eq.mpr (hName.trans hK)⟩
          rw [hNone]
          rfl
      · exact Option.or_none

/- One member taken out, and the others as before. -/
theorem member?_filter_ne
    (n : RawText)
    (ms : List (RawText × Entry))
    (k : RawText) :
    (directory (ms.filter (fun m => m.1 != n))).member? k =
      if k = n then none
      else (directory ms).member? k := by
  induction ms with
  | nil => simp
  | cons m ms ih =>
      by_cases hName : m.1 = n
      · rw [List.filter_cons_of_neg (by simp [hName]), ih,
          member?_cons]
        split
        · rfl
        · next hK =>
            have hNe : m.1 ≠ k :=
              fun hEq => hK (hEq.symm.trans hName)
            rw [if_neg hNe]
      · rw [List.filter_cons_of_pos (by simp [hName]),
          member?_cons, member?_cons, ih]
        by_cases hK : k = n
        · simp [hK, hName]
        · simp [hK]

------------------------------------------------------------
-- Well-Formed Trees
------------------------------------------------------------

/-
  Every directory has names of files only, each once, and the
  names are texts without backslashes.
-/
inductive Tidy : Entry → Prop
| file
    (c : Content) :
    Tidy (file c)
| directory
    {ms : List (RawText × Entry)}
    (hNames : (ms.map (·.1)).Nodup)
    (hPlain : ∀ m ∈ ms, Path.IsPlainName m.1)
    (hMembers : ∀ m ∈ ms, Tidy m.2) :
    Tidy (directory ms)

theorem Tidy.member?
    {e m : Entry}
    {n : RawText}
    (hTidy : Tidy e)
    (hMember : e.member? n = some m) :
    Tidy m ∧ Path.IsPlainName n := by
  cases hTidy with
  | file c => cases hMember
  | directory _ hPlain hMembers =>
      have hMem := mem_of_member? hMember
      exact ⟨hMembers _ hMem, hPlain _ hMem⟩

/- All below a tidy entry is tidy, and so are the names. -/
theorem Tidy.at?
    {e m : Entry}
    {ns : List RawText}
    (hTidy : Tidy e)
    (hAt : e.at? ns = some m) :
    Tidy m ∧
      ∀ n ∈ ns, Path.IsPlainName n := by
  induction ns generalizing e with
  | nil =>
      rw [at?_nil, Option.some_inj] at hAt
      exact ⟨hAt ▸ hTidy, by simp⟩
  | cons n ns ih =>
      rw [at?_cons, Option.bind_eq_some_iff] at hAt
      rcases hAt with ⟨inner, hMember, hAt⟩
      rcases hTidy.member? hMember with ⟨hInner, hName⟩
      rcases ih hInner hAt with ⟨hM, hNames⟩
      exact ⟨hM, List.forall_mem_cons.mpr ⟨hName, hNames⟩⟩

------------------------------------------------------------
-- Edits of One File
------------------------------------------------------------

/-
  The second tree is the first one with another file, or none,
  where the names lead to.  What stands next to the way is the
  same.  Directories on the way may be new.
-/
inductive Edited : List RawText → Entry → Entry → Prop
| here
    {n : RawText}
    {ms ms' : List (RawText × Entry)}
    (hOthers :
      ∀ k, k ≠ n →
        (directory ms').member? k = (directory ms).member? k)
    (hBefore :
      ∀ m, (directory ms).member? n = some m → m.isFile)
    (hAfter :
      ∀ m, (directory ms').member? n = some m → m.isFile) :
    Edited [n] (directory ms) (directory ms')
| inside
    {n : RawText}
    {names : List RawText}
    {ms ms' : List (RawText × Entry)}
    {inner : Entry}
    (hOthers :
      ∀ k, k ≠ n →
        (directory ms').member? k = (directory ms).member? k)
    (hAfter : (directory ms').member? n = some inner)
    (hInner :
      Edited names
        (((directory ms).member? n).getD (directory []))
        inner) :
    Edited (n :: names) (directory ms) (directory ms')

/- Both trees are directories. -/
theorem Edited.isDirectory
    {names : List RawText}
    {e e' : Entry}
    (hEdit : Edited names e e') :
    e.isDirectory = true ∧ e'.isDirectory = true := by
  cases hEdit <;> exact ⟨rfl, rfl⟩

/- A missing directory has as many files as an empty one. -/
theorem at?_getD_eq_file_iff
    {o : Option Entry}
    {ks : List RawText}
    {c : Content} :
    (o.getD (directory [])).at? ks = some (file c) ↔
      (o.bind (fun m => m.at? ks)) = some (file c) := by
  cases o with
  | some m => rfl
  | none => cases ks <;> simp [at?_cons]

theorem at?_cons_of_isFile
    {o : Option Entry}
    (hFile : ∀ m, o = some m → m.isFile)
    (k : RawText)
    (ks : List RawText) :
    (o.bind (fun m => m.at? (k :: ks))) = none := by
  cases o with
  | none => rfl
  | some m =>
      cases m with
      | file c => rfl
      | directory ms => cases hFile _ rfl

/-
  What an edit does to the entry at some place: it is the file
  of the edit, it is as before, or it is a directory on the
  way, which may be new.
-/
theorem Edited.at?_cases
    {names : List RawText}
    {e e' : Entry}
    (hEdit : Edited names e e')
    (ks : List RawText) :
    (ks = names ∧ ∀ m, e.at? ks = some m → m.isFile) ∨
      e'.at? ks = e.at? ks ∨
      (ks <+: names ∧
        (∃ ms, e'.at? ks = some (directory ms)) ∧
        ∀ c, e.at? ks ≠ some (file c)) := by
  induction hEdit generalizing ks with
  | @here n ms ms' hOthers hBefore hAfter =>
      cases ks with
      | nil => exact Or.inr (Or.inr ⟨by simp, by simp, by simp⟩)
      | cons k ks =>
          rw [at?_cons, at?_cons]
          by_cases hK : k = n
          · subst hK
            cases ks with
            | nil =>
                left
                refine ⟨rfl, ?_⟩
                intro m hAt
                rcases Option.bind_eq_some_iff.mp hAt with
                  ⟨inner, hMember, hInner⟩
                rw [at?_nil, Option.some_inj] at hInner
                exact hInner ▸ hBefore inner hMember
            | cons j ks =>
                right
                left
                rw [at?_cons_of_isFile hBefore,
                  at?_cons_of_isFile hAfter]
          · right
            left
            rw [hOthers k hK]
  | @inside n names ms ms' inner hOthers hAfter _ ih =>
      cases ks with
      | nil => exact Or.inr (Or.inr ⟨by simp, by simp, by simp⟩)
      | cons k ks =>
          rw [at?_cons, at?_cons]
          by_cases hK : k = n
          · subst hK
            rw [hAfter, Option.bind_some]
            rcases ih ks with
              ⟨rfl, hFile⟩ | hSame | ⟨hOn, hNew, hNone⟩
            · left
              refine ⟨rfl, ?_⟩
              intro m hAt
              rcases Option.bind_eq_some_iff.mp hAt with
                ⟨x, hMember, hX⟩
              rw [hMember] at hFile
              exact hFile m hX
            · right
              cases hMember : (directory ms).member? k with
              | some x =>
                  left
                  rw [hMember] at hSame
                  exact hSame
              | none =>
                  rw [hMember] at hSame
                  cases ks with
                  | nil =>
                      right
                      exact ⟨by simp, ⟨[], hSame⟩, by simp⟩
                  | cons j ks =>
                      left
                      exact hSame
            · right
              right
              refine ⟨List.cons_prefix_cons.mpr ⟨rfl, hOn⟩,
                hNew, ?_⟩
              intro c hAt
              exact hNone c (at?_getD_eq_file_iff.mpr hAt)
          · right
            left
            rw [hOthers k hK]

/- The files at other places are the same. -/
theorem Edited.at?_eq_file_iff
    {names : List RawText}
    {e e' : Entry}
    (hEdit : Edited names e e')
    {ks : List RawText}
    (hNe : ks ≠ names)
    {c : Content} :
    e'.at? ks = some (file c) ↔ e.at? ks = some (file c) := by
  rcases hEdit.at?_cases ks with
    ⟨hSame, _⟩ | hAt | ⟨_, ⟨ms, hNew⟩, hNone⟩
  · exact absurd hSame hNe
  · rw [hAt]
  · simp [hNew, hNone]

/- Off the way, all is the same. -/
theorem Edited.at?_eq
    {names : List RawText}
    {e e' : Entry}
    (hEdit : Edited names e e')
    {ks : List RawText}
    (hOff : ¬ ks <+: names) :
    e'.at? ks = e.at? ks := by
  rcases hEdit.at?_cases ks with
    ⟨rfl, _⟩ | hAt | ⟨hOn, _⟩
  · exact absurd List.prefix_rfl hOff
  · exact hAt
  · exact absurd hOn hOff

/- Where the first tree has a directory, the second has one. -/
def Keeps
    (e e' : Entry) : Prop :=
  ∀ ks m,
    e.at? ks = some m → m.isDirectory = true →
      ∃ m', e'.at? ks = some m' ∧ m'.isDirectory = true

theorem Edited.keeps
    {names : List RawText}
    {e e' : Entry}
    (hEdit : Edited names e e') :
    Keeps e e' := by
  intro ks m hAt hDirectory
  rcases hEdit.at?_cases ks with
    ⟨_, hFile⟩ | hSame | ⟨_, ⟨ms, hNew⟩, _⟩
  · have hIsFile := hFile m hAt
    cases m with
    | file c => cases hDirectory
    | directory ms => cases hIsFile
  · exact ⟨m, hSame.trans hAt, hDirectory⟩
  · exact ⟨_, hNew, rfl⟩

/- An edit further down, seen from a directory on the way. -/
theorem Edited.of_append
    {front names : List RawText}
    {e e' top : Entry}
    (hEdit : Edited (front ++ names) e e')
    (hSome : names ≠ [])
    (hTop : e.at? front = some top) :
    ∃ top',
      e'.at? front = some top' ∧ Edited names top top' := by
  induction front generalizing e e' with
  | nil =>
      rw [at?_nil, Option.some_inj] at hTop
      exact ⟨e', at?_nil e', hTop ▸ hEdit⟩
  | cons n front ih =>
      rw [List.cons_append] at hEdit
      generalize hWay : n :: (front ++ names) = way at hEdit
      cases hEdit with
      | here hOthers hBefore hAfter =>
          simp [hSome] at hWay
      | inside hOthers hAfter hInner =>
          rw [List.cons.injEq] at hWay
          rcases hWay with ⟨rfl, rfl⟩
          rw [at?_cons, Option.bind_eq_some_iff] at hTop
          rcases hTop with ⟨inner, hMember, hTop⟩
          rw [hMember, Option.getD_some] at hInner
          rw [at?_cons, hAfter]
          exact ih hInner hTop

------------------------------------------------------------
-- Files Put in Place
------------------------------------------------------------

/-
  The names lead through directories to a file, or to where
  nothing is yet.
-/
def Open : Option Entry → List RawText → Prop
  | none, _ => True
  | some e, [] => e.isFile = true
  | some e, n :: ns =>
      e.isDirectory = true ∧ Open (e.member? n) ns

theorem open_cons_iff
    {e : Entry}
    {n : RawText}
    {ns : List RawText} :
    Open (some e) (n :: ns) ↔
      e.isDirectory = true ∧ Open (e.member? n) ns := by
  cases e <;> rfl

theorem open_append
    {front names : List RawText}
    {e top : Entry}
    (hTop : e.at? front = some top)
    (hOpen : Open (some top) names) :
    Open (some e) (front ++ names) := by
  induction front generalizing e with
  | nil =>
      rw [at?_nil, Option.some_inj] at hTop
      exact hTop ▸ hOpen
  | cons n front ih =>
      rw [at?_cons, Option.bind_eq_some_iff] at hTop
      rcases hTop with ⟨inner, hMember, hTop⟩
      rw [List.cons_append, open_cons_iff, hMember]
      refine ⟨?_, ih hTop⟩
      cases e with
      | file c => cases hMember
      | directory ms => rfl

/- A file put where the way is open is an edit. -/
theorem edited_put
    {names : List RawText}
    {e : Entry}
    (hSome : names ≠ [])
    (hOpen : Open (some e) names)
    (c : Content) :
    Edited names e (put (file c) names e) := by
  induction names generalizing e with
  | nil => exact absurd rfl hSome
  | cons n names ih =>
      rw [open_cons_iff] at hOpen
      rcases hOpen with ⟨hDirectory, hInner⟩
      cases e with
      | file _ => cases hDirectory
      | directory ms =>
          have hOthers :
              ∀ inner k, k ≠ n →
                (directory (putMember n inner ms)).member? k =
                  (directory ms).member? k := by
            intro inner k hK
            rw [member?_putMember, if_neg hK]
          cases names with
          | nil =>
              refine .here (hOthers (file c)) ?_ ?_
              · intro m hMember
                rw [hMember] at hInner
                cases m <;> exact hInner
              · intro m hMember
                rw [member?_putMember, if_pos rfl,
                  Option.some_inj] at hMember
                exact hMember ▸ rfl
          | cons k names =>
              refine .inside (hOthers _) ?_ (ih (by simp) ?_)
              · rw [member?_putMember, if_pos rfl]
              · cases hMember : (directory ms).member? n with
                | none =>
                    rw [Option.getD_none, open_cons_iff]
                    exact ⟨rfl, by simp [Open]⟩
                | some x =>
                    rw [hMember] at hInner
                    exact hInner

theorem at?_put
    (new e : Entry)
    (names : List RawText) :
    (put new names e).at? names = some new := by
  induction names generalizing e with
  | nil => exact at?_nil new
  | cons n names ih =>
      rw [put.eq_def, at?_cons]
      simp only [member?_putMember, if_true]
      exact ih _

theorem tidy_empty :
    Tidy (directory []) :=
  .directory .nil (by simp) (by simp)

theorem mem_putMember
    {n : RawText}
    {e : Entry}
    {ms : List (RawText × Entry)}
    {m : RawText × Entry}
    (hMem : m ∈ putMember n e ms) :
    m = (n, e) ∨ m ∈ ms := by
  unfold putMember at hMem
  split at hMem
  · rcases List.mem_map.mp hMem with ⟨x, hX, rfl⟩
    split
    · exact Or.inl rfl
    · exact Or.inr hX
  · rcases List.mem_append.mp hMem with hOld | hNew
    · exact Or.inr hOld
    · exact Or.inl (List.mem_singleton.mp hNew)

/- The names of the members are kept, or there is one more. -/
theorem nodup_putMember
    (n : RawText)
    (e : Entry)
    {ms : List (RawText × Entry)}
    (hNames : (ms.map (·.1)).Nodup) :
    ((putMember n e ms).map (·.1)).Nodup := by
  unfold putMember
  split
  · rw [map_fst_map_at (fun _ => e)]
    exact hNames
  · next hAny =>
      rw [List.map_append, List.nodup_append]
      refine ⟨hNames, by simp, ?_⟩
      intro a hA b hB hEq
      rcases List.mem_map.mp hA with ⟨m, hMem, rfl⟩
      rw [List.map_singleton, List.mem_singleton] at hB
      apply hAny
      exact List.any_eq_true.mpr
        ⟨m, hMem, beq_iff_eq.mpr (hEq.trans hB)⟩

theorem tidy_putMember
    {n : RawText}
    {e : Entry}
    {ms : List (RawText × Entry)}
    (hName : Path.IsPlainName n)
    (hNew : Tidy e)
    (hTidy : Tidy (directory ms)) :
    Tidy (directory (putMember n e ms)) := by
  cases hTidy with
  | directory hNames hPlain hMembers =>
      refine .directory (nodup_putMember n e hNames) ?_ ?_
      · intro m hMem
        rcases mem_putMember hMem with rfl | hOld
        · exact hName
        · exact hPlain m hOld
      · intro m hMem
        rcases mem_putMember hMem with rfl | hOld
        · exact hNew
        · exact hMembers m hOld

theorem tidy_put
    {new e : Entry}
    {names : List RawText}
    (hNew : Tidy new)
    (hNames :
      ∀ n ∈ names, Path.IsPlainName n)
    (hTidy : Tidy e) :
    Tidy (put new names e) := by
  induction names generalizing e with
  | nil => exact hNew
  | cons n names ih =>
      rcases List.forall_mem_cons.mp hNames with
        ⟨hName, hRest⟩
      cases e with
      | file c =>
          exact tidy_putMember hName (ih hRest tidy_empty)
            tidy_empty
      | directory ms =>
          apply tidy_putMember hName (ih hRest ?_) hTidy
          cases hMember : (directory ms).member? n with
          | none => exact tidy_empty
          | some m => exact (hTidy.member? hMember).1

------------------------------------------------------------
-- Files Taken Out
------------------------------------------------------------

theorem remove_cons_cons
    (n k : RawText)
    (ns : List RawText)
    (ms : List (RawText × Entry)) :
    remove (n :: k :: ns) (directory ms) =
      directory
        (ms.map
          (fun m =>
            if m.1 == n then (n, remove (k :: ns) m.2)
            else m)) := by
  rw [remove]
  · congr 1
    apply List.map_congr_left
    intro m _
    by_cases hName : m.1 = n
    · simp [hName]
    · simp [hName]
  · simp

/- Taking out a file is an edit. -/
theorem edited_remove
    {names : List RawText}
    {e : Entry}
    {c : Content}
    (hSome : names ≠ [])
    (hAt : e.at? names = some (file c)) :
    Edited names e (remove names e) := by
  induction names generalizing e with
  | nil => exact absurd rfl hSome
  | cons n names ih =>
      rw [at?_cons, Option.bind_eq_some_iff] at hAt
      rcases hAt with ⟨inner, hMember, hInner⟩
      cases e with
      | file _ => cases hMember
      | directory ms =>
          cases names with
          | nil =>
              rw [at?_nil, Option.some_inj] at hInner
              refine .here ?_ ?_ ?_
              · intro k hK
                rw [member?_filter_ne, if_neg hK]
              · intro m hM
                rw [hMember, Option.some_inj] at hM
                rw [← hM, hInner]
                rfl
              · intro m hM
                rw [member?_filter_ne, if_pos rfl] at hM
                cases hM
          | cons k names =>
              have hMap :=
                member?_map_at
                  (fun m => remove (k :: names) m.2) n ms
              have hAfter := hMap n
              rw [if_pos rfl, hMember, Option.map_some] at hAfter
              rw [remove_cons_cons]
              refine .inside ?_ hAfter ?_
              · intro j hJ
                rw [hMap, if_neg hJ]
              · rw [hMember]
                exact ih (by simp) hInner

theorem at?_remove
    {names : List RawText}
    (hSome : names ≠ [])
    (e : Entry) :
    (remove names e).at? names = none := by
  induction names generalizing e with
  | nil => exact absurd rfl hSome
  | cons n names ih =>
      cases e with
      | file c =>
          cases names <;> rfl
      | directory ms =>
          cases names with
          | nil =>
              rw [at?_cons, remove, member?_filter_ne,
                if_pos rfl]
              rfl
          | cons k names =>
              rw [remove_cons_cons, at?_cons,
                member?_map_at
                  (fun m => remove (k :: names) m.2),
                if_pos rfl]
              cases (directory ms).member? n with
              | none => rfl
              | some m => exact ih (by simp) m

theorem tidy_remove
    {e : Entry}
    {names : List RawText}
    (hTidy : Tidy e) :
    Tidy (remove names e) := by
  induction names generalizing e with
  | nil =>
      rw [remove]
      exact hTidy
  | cons n names ih =>
      cases hTidy with
      | file c => cases names <;> exact .file c
      | @directory ms hNames hPlain hMembers =>
          cases names with
          | nil =>
              refine .directory ?_ ?_ ?_
              · exact hNames.sublist
                  (List.filter_sublist.map _)
              · intro m hMem
                exact hPlain m (List.mem_filter.mp hMem).1
              · intro m hMem
                exact hMembers m (List.mem_filter.mp hMem).1
          | cons k names =>
              rw [remove_cons_cons]
              refine .directory ?_ ?_ ?_
              · rw [map_fst_map_at
                  (fun m => remove (k :: names) m.2)]
                exact hNames
              · intro m hMem
                rcases List.mem_map.mp hMem with ⟨x, hX, rfl⟩
                split
                · next hName =>
                    rw [← eq_of_beq hName]
                    exact hPlain x hX
                · exact hPlain x hX
              · intro m hMem
                rcases List.mem_map.mp hMem with ⟨x, hX, rfl⟩
                split
                · exact ih (hMembers x hX)
                · exact hMembers x hX

end Entry

end ModuleLint
