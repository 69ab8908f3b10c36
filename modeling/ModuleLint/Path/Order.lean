import ModuleLint.Path.Basic

/-
  The order of paths, which is that of their parts.

  Key definitions include:
    * `Path.isBefore`
    * `Path.sortedPaths`
-/

namespace ModuleLint

/- A part comes before another one. -/
def Part.isBefore : Part → Part → Bool
  | .name a, .name b => a < b
  | .name _, _ => false
  | _, .name _ => true
  | .root, b => b != .root
  | .here, b => b == .parent
  | .parent, _ => false

namespace Path

/- Parts come before other ones. -/
def partsBefore : List Part → List Part → Bool
  | [], [] => false
  | [], _ => true
  | _, [] => false
  | a :: as, b :: bs =>
      a.isBefore b || (a == b && partsBefore as bs)

/- A path comes before another one. -/
def isBefore
    (a b : RawText) : Bool :=
  partsBefore (partsOf a) (partsOf b)

/- One more path in a list of paths in order. -/
def insertPath
    (path : RawText) : List RawText → List RawText
  | [] => [path]
  | p :: ps =>
      if isBefore path p then path :: p :: ps
      else if partsOf path == partsOf p then p :: ps
      else p :: insertPath path ps

/- Paths in order, each of them once. -/
def sortedPaths
    (paths : List RawText) : List RawText :=
  paths.foldl (fun sorted p => insertPath p sorted) []

end Path

end ModuleLint
