import ModuleLint.Proofs.Editor.Address
import ModuleLint.Proofs.Editor.Shown
import ModuleLint.Proofs.Sources.Files

/-
  Files that diagnostics are published for.

  The path under which diagnostics are stored leads back to the
  file that was scanned, so its address is the one they are
  published under.

  This holds of paths of which a text is seen.  For a name that
  is no text, replacements are seen, and they lead elsewhere.

  Main declarations:
    * `Folder.publish?_relative`
    * `Path.relative_leads_back`
    * `Path.relative_replaced_leads_astray`
-/

namespace ModuleLint

namespace Folder

/-
  Diagnostics under a path as seen from the root are published
  under the address of that path.
-/
theorem publish?_relative
    {root path : RawText}
    (hRoot : Path.isAbsolute root = true)
    (hPath : Path.IsPlain root path)
    (s : Store) :
    ∃ uri,
      Uri.ofPath? path = some uri ∧
        publish? root s (Path.relative root path) =
          some
            (.publish uri
              ((s.get (Path.relative root path)).map
                Marker.ofDiagnostic)) := by
  have hSame :
      Uri.ofPath? (Path.join root (Path.relative root path)) =
        Uri.ofPath? path :=
    Uri.ofPath?_congr (Path.isAbsolute_join hRoot _)
      hPath.absolute (Path.partsOf_join_relative hRoot hPath)
  have hUri := Uri.ofPath?_of_isAbsolute hPath.absolute
  refine ⟨_, hUri, ?_⟩
  unfold publish?
  rw [hSame, hUri, Option.map_some]

/- All touched files that have an address are published. -/
theorem publish_mem_apply
    (f : Folder)
    (root : RawText)
    (changed : Option RawText)
    (responses : List Response)
    {file : String}
    (hTouched :
      file ∈ (absorb root changed responses f.store).2.1)
    {notice : Notice}
    (hNotice :
      publish? root (f.apply root changed responses).2.store
          file =
        some notice) :
    notice ∈ (f.apply root changed responses).1 := by
  unfold apply
  rw [List.mem_append, List.mem_filterMap]
  right
  exact ⟨file, Text.mem_sortedNames_iff.mpr hTouched, hNotice⟩

end Folder

namespace Path

/-
  Seen from a root, a path leads back to itself, wherever it
  lies, if and only if a text is seen of it.  So different
  paths of this kind are seen differently, every file that is
  read has a unit of its own, and diagnostics stored under a
  path as seen from the root are published for the file there,
  and for no other.
-/
theorem relative_leads_back
    {root : RawText}
    (hRoot : isAbsolute root = true) :
    (∀ path, isAbsolute path = true → 0x5c ∉ path.bytes →
        (partsOf (join root (relative root path)) =
            partsOf path ↔
          ((behind? root path).getD path).IsText)) ∧
      (∀ p q, IsPlain root p → IsPlain root q →
        relative root p = relative root q →
          partsOf p = partsOf q) ∧
      (∀ (d : Disk) (paths : List RawText),
        (∀ p ∈ paths, IsPlain root p) →
          (∀ p ∈ paths, ∃ text, d.read p = .ok text) →
            ∃ s,
              SourceSet.ingest d root paths = .ok s ∧
                s.root = root ∧ s.Holds d paths) ∧
      ∀ (f : Folder) changed responses path,
        IsPlain root path →
          relative root path ∈
              (Folder.absorb root changed responses
                f.store).2.1 →
            ∃ uri,
              Uri.ofPath? path = some uri ∧
                .publish uri
                    (((f.apply root changed
                          responses).2.store.get
                        (relative root path)).map
                      Marker.ofDiagnostic) ∈
                  (f.apply root changed responses).1 ∧
                ∀ other, Uri.ofPath? other = some uri →
                  partsOf other = partsOf path := by
  refine ⟨?_, ?_, ?_, ?_⟩
  · intro path hPath hSlash
    exact partsOf_join_relative_iff hRoot hPath hSlash
  · intro p q hP hQ hSame
    exact partsOf_eq_of_relative_eq hRoot hP hQ hSame
  · intro d paths hPlain hText
    exact SourceSet.exists_ingest_holds hRoot hPlain hText
  · intro f changed responses path hPath hTouched
    rcases Folder.publish?_relative hRoot hPath
        (f.apply root changed responses).2.store with
      ⟨uri, hUri, hNotice⟩
    refine ⟨uri, hUri, ?_, ?_⟩
    · exact Folder.publish_mem_apply f root changed responses
        hTouched hNotice
    · intro other hOther
      exact Uri.partsOf_eq_of_ofPath?_eq hOther hUri

/- A file below a root and one beside it, both spelled oddly. -/
theorem relative_leads_back_spelled :
    let root : RawText := "/ws/"
    let inner : RawText := "/ws//src/./a.ts"
    let outer : RawText := "/ws2/./b.ts"
    let paths : List RawText := [inner, outer]
    let disk : Disk :=
      ⟨.directory
        [ ("ws",
            .directory
              [("src", .directory [("a.ts", .file (.text ""))])]),
          ("ws2", .directory [("b.ts", .file (.text ""))]) ]⟩
    let found : Diagnostic :=
      { (default : Diagnostic) with filePath := "src/./a.ts" }
    relative root inner = "src/./a.ts" ∧
      relative root outer = "/ws2/./b.ts" ∧
      partsOf (join root (relative root inner)) =
        [.root, .name "ws", .name "src", .name "a.ts"] ∧
      partsOf inner ≠ partsOf outer ∧
      (∃ s,
        SourceSet.ingest disk root paths = .ok s ∧
          s.size = 2) ∧
      ∃ uri,
        Uri.ofPath? inner = some uri ∧
          .publish uri [Marker.ofDiagnostic found] ∈
            (Folder.fresh.apply root none
              [.result [found] 0 .full []]).1 := by
  intro root inner outer paths disk found
  have hInner : IsPlain root inner := by decide +kernel
  have hKey : relative root inner = "src/./a.ts" := by
    decide +kernel
  have hParts : partsOf inner ≠ partsOf outer := by
    decide +kernel
  have hTouched :
      relative root inner ∈
        (Folder.absorb root none [.result [found] 0 .full []]
          Folder.fresh.store).2.1 := by
    decide +kernel
  have hStored :
      ((Folder.fresh.apply root none
          [.result [found] 0 .full []]).2.store.get
        (relative root inner)) = [found] := by
    decide +kernel
  have hText :
      ∀ p ∈ paths, ∃ text, disk.read p = .ok text := by
    intro p hMem
    apply Analyzer.exists_eq_ok_of_isOk
    revert p
    decide +kernel
  have hPlain : ∀ p ∈ paths, IsPlain root p := by
    decide +kernel
  have hRoot : isAbsolute root = true := by decide +kernel
  rcases relative_leads_back hRoot with
    ⟨hBack, _, hIngest, hPublish⟩
  have hBackInner :=
    (hBack inner hInner.absolute hInner.noBackslash).mpr
      hInner.isText
  rcases hIngest disk paths hPlain hText with
    ⟨s, hSet, _, hHolds⟩
  rcases hPublish Folder.fresh none [.result [found] 0 .full []]
      inner hInner hTouched with
    ⟨uri, hUri, hNotice, _⟩
  rw [hStored] at hNotice
  exact ⟨hKey, by decide +kernel,
    hBackInner.trans (by decide +kernel), hParts,
    ⟨s, hSet, hHolds.size (by simpa [paths] using hParts)⟩,
    ⟨uri, hUri, hNotice⟩⟩

/-
  Two files whose names are no texts are seen alike.  The way
  back leads to neither of them, and one loses its unit to the
  other.
-/
theorem relative_replaced_leads_astray :
    let root : RawText := "/ws"
    let name (b : UInt8) : RawText := ⟨[b]⟩ ++ ".ts"
    let p := root ++ "/" ++ name 0xfe
    let q := root ++ "/" ++ name 0xff
    let paths : List RawText := [p, q]
    let disk : Disk :=
      ⟨.directory
        [ ("ws",
            .directory
              [ (name 0xfe, .file (.text "")),
                (name 0xff, .file (.text "")) ]) ]⟩
    isAbsolute root = true ∧
      (∀ path ∈ paths,
        isAbsolute path = true ∧
          0x5c ∉ path.bytes ∧
            partsOf (join root (relative root path)) ≠
              partsOf path) ∧
      partsOf p ≠ partsOf q ∧
      relative root p = relative root q ∧
      ∃ s,
        SourceSet.ingest disk root paths = .ok s ∧
          s.size = 1 := by
  intro root name p q paths disk
  have hSize :
      (SourceSet.ingest disk root paths).toOption.map
          SourceSet.size =
        some 1 := by
    decide +kernel
  refine ⟨by decide +kernel, by decide +kernel,
    by decide +kernel, by decide +kernel, ?_⟩
  cases hSet : SourceSet.ingest disk root paths with
  | error f =>
      rw [hSet] at hSize
      cases hSize
  | ok s =>
      rw [hSet] at hSize
      exact ⟨s, rfl, Option.some_inj.mp hSize⟩

end Path

end ModuleLint
