import ModuleLint.Disk.Ignore

/-
  The files below a directory.

  Key definitions include:
    * `Entry.walk`
    * `Disk.layersAbove`
    * `Disk.filesBelow`
-/

namespace ModuleLint

------------------------------------------------------------
-- Walking
------------------------------------------------------------

mutual

/-
  The files of an entry that the layers do not ignore, each by
  the names that lead to it.
-/
def Entry.walk
    (o : IgnoreOptions)
    (layers : List Layer)
    (way : List RawText) : Entry → List (List RawText)
  | .file _ => [way]
  | .directory ms =>
      walkMembers o
        (Layer.ofDirectory o (.directory ms) :: layers) way ms

/- The files of the members of a directory. -/
def walkMembers
    (o : IgnoreOptions)
    (layers : List Layer)
    (way : List RawText) :
    List (RawText × Entry) → List (List RawText)
  | [] => []
  | (name, e) :: ms =>
      let found :=
        if Layers.verdict o layers name e.isDirectory ==
            some .ignored then
          []
        else
          e.walk o (layers.map (·.descend name)) (way ++ [name])
      found ++ walkMembers o layers way ms

end

------------------------------------------------------------
-- Order
------------------------------------------------------------

/- Names in the order of paths, step by step. -/
def Path.namesLe : List RawText → List RawText → Bool
  | [], _ => true
  | _ :: _, [] => false
  | a :: as, b :: bs =>
      if a == b then namesLe as bs else decide (a < b)

------------------------------------------------------------
-- Directories of a Disk
------------------------------------------------------------

namespace Disk

/-
  The layers of the directories above a way of names, nearest
  one first.  Repositories above do not end where rules apply.
-/
def layersAbove
    (o : IgnoreOptions) :
    Entry → List RawText → List Layer → List Layer
  | _, [], layers => layers
  | e, name :: names, layers =>
      let here := { Layer.ofDirectory o e with hasGit := false }
      match e.member? name with
      | none => layers
      | some inner =>
          layersAbove o inner names
            ((here :: layers).map (·.descend name))

/-
  The files below a directory in the order of their paths,
  each by the names that lead to it from there.
-/
def filesBelow
    (d : Disk)
    (o : IgnoreOptions)
    (path : RawText) : List (List RawText) :=
  match d.entry path with
  | .error _ => []
  | .ok e =>
      let layers := layersAbove o d.root (namesOf path) []
      (e.walk o layers []).mergeSort Path.namesLe

end Disk

end ModuleLint
