import ModuleLint.Report.Diagnostic
import ModuleLint.Settings.Validate

/-
  Diagnostics that are dropped.

  Key definitions include:
    * `Filter`, `Filter.ofLists`
    * `Filter.ignores`, `Filter.apply`
-/

namespace ModuleLint

/- Rules and files whose diagnostics are dropped. -/
structure Filter where
  rules : List String
  files : GlobSet
deriving Inhabited

namespace Filter

/- Nothing is dropped. -/
def none : Filter :=
  ⟨[], .empty⟩

/- The rules and files that are listed. -/
def ofLists
    (l : IgnoreLists) : Except ConfigFault Filter := do
  let files ← Config.globs l.files
  .ok ⟨l.rules, files⟩

/- The diagnostic is dropped. -/
def ignores
    (f : Filter)
    (d : Diagnostic) : Bool :=
  f.rules.contains d.rule ||
    f.files.accepts (Path.slashed d.filePath)

/- The diagnostics that are left. -/
def apply
    (f : Filter)
    (ds : List Diagnostic) : List Diagnostic :=
  ds.filter (fun d => !f.ignores d)

end Filter

end ModuleLint
