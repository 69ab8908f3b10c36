import ModuleLint.Path.Basic
import ModuleLint.Settings.Basic

/-
  Files and directories.

  Key definitions include:
    * `Content`, `Entry`, `Disk`
    * `Disk.entry`, `Disk.read`
    * `Disk.write`, `Disk.delete`
    * `Disk.canonical`
-/

namespace ModuleLint

------------------------------------------------------------
-- Entries
------------------------------------------------------------

/- The content of a file: text, or bytes that are no text. -/
inductive Content where
  | text (value : String)
  | raw (bytes : List UInt8)
deriving DecidableEq, Repr, Inhabited

/- A file or a directory. -/
inductive Entry where
  | file (content : Content)
  | directory (members : List (RawText × Entry))
deriving Repr, Inhabited

namespace Entry

/- The member of a directory that has the given name. -/
def member?
    (e : Entry)
    (name : RawText) : Option Entry :=
  match e with
  | file _ => none
  | directory ms => (ms.find? (fun m => m.1 == name)).map (·.2)

/- The entry is a file. -/
def isFile : Entry → Bool
  | file _ => true
  | directory _ => false

/- The entry is a directory. -/
def isDirectory : Entry → Bool
  | file _ => false
  | directory _ => true

/- The text of a file. -/
def readText : Entry → Except ReadFault String
  | file (.text s) => .ok s
  | file (.raw _) => .error .notText
  | directory _ => .error .directory

/- The members with an entry put under a name. -/
def putMember
    (name : RawText)
    (e : Entry)
    (ms : List (RawText × Entry)) : List (RawText × Entry) :=
  if ms.any (fun m => m.1 == name) then
    ms.map (fun m => if m.1 == name then (name, e) else m)
  else
    ms ++ [(name, e)]

/-
  An entry put where a way of names leads to.  Directories on
  the way are made.
-/
def put
    (new : Entry) : List RawText → Entry → Entry
  | [], _ => new
  | name :: names, e =>
      let ms :=
        match e with
        | directory ms => ms
        | file _ => []
      let inner :=
        ((directory ms).member? name).getD (directory [])
      directory (putMember name (put new names inner) ms)

/- The entry that a way of names leads to removed. -/
def remove : List RawText → Entry → Entry
  | [], e => e
  | [name], e =>
      match e with
      | directory ms =>
          directory (ms.filter (fun m => m.1 != name))
      | file c => file c
  | name :: names, e =>
      match e with
      | directory ms =>
          directory
            (ms.map
              (fun m =>
                if m.1 == name then (m.1, remove names m.2)
                else m))
      | file c => file c

end Entry

------------------------------------------------------------
-- Disks
------------------------------------------------------------

/- All files, by the directory at the root. -/
structure Disk where
  root : Entry
deriving Repr, Inhabited

namespace Disk

/- The disk without files. -/
def empty : Disk :=
  ⟨.directory []⟩

/-
  The entry that parts of a path lead to, from an entry below
  the given directories.
-/
def follow
    (top : Entry) :
    List Entry → Entry → List Part → Except ReadFault Entry
  | _, here, [] => .ok here
  | _, _, .root :: ps => follow top [] top ps
  | above, here, .here :: ps => follow top above here ps
  | above, here, .parent :: ps =>
      match here, above with
      | .file _, _ => .error .notDirectory
      | .directory _, [] => follow top [] here ps
      | .directory _, up :: above => follow top above up ps
  | above, here, .name n :: ps =>
      match here with
      | .file _ => .error .notDirectory
      | .directory _ =>
          match here.member? n with
          | none => .error .missing
          | some e => follow top (here :: above) e ps

/-
  The path ends in a step without meaning, so that it can only
  lead to a directory.
-/
def asksDirectory
    (path : RawText) : Bool :=
  match (Path.ofText path).steps.reverse with
  | last :: _ :: _ => Path.isIdle last
  | _ => false

/- The entry that a path from the root leads to. -/
def entry
    (d : Disk)
    (path : RawText) : Except ReadFault Entry :=
  match follow d.root [] d.root (Path.partsOf path) with
  | .ok e =>
      if e.isFile && asksDirectory path then
        .error .notDirectory
      else
        .ok e
  | .error f => .error f

/- Something is there. -/
def hasEntry
    (d : Disk)
    (path : RawText) : Bool :=
  match d.entry path with
  | .ok _ => true
  | .error _ => false

/- A file is there. -/
def isFile
    (d : Disk)
    (path : RawText) : Bool :=
  match d.entry path with
  | .ok e => e.isFile
  | .error _ => false

/- A directory is there. -/
def isDirectory
    (d : Disk)
    (path : RawText) : Bool :=
  match d.entry path with
  | .ok e => e.isDirectory
  | .error _ => false

/- The text of a file. -/
def read
    (d : Disk)
    (path : RawText) : Except ReadFault String :=
  match d.entry path with
  | .ok e => e.readText
  | .error f => .error f

------------------------------------------------------------
-- Plain Paths
------------------------------------------------------------

/- The names that are left when steps back are carried out. -/
def plainNames : List Part → List RawText → List RawText
  | [], seen => seen.reverse
  | .root :: ps, _ => plainNames ps []
  | .here :: ps, seen => plainNames ps seen
  | .parent :: ps, seen => plainNames ps seen.tail
  | .name n :: ps, seen => plainNames ps (n :: seen)

/- The names on the way to a path from the root. -/
def namesOf
    (path : RawText) : List RawText :=
  plainNames (Path.partsOf path) []

/- The path of the names on the way. -/
def pathOf
    (names : List RawText) : RawText :=
  "/" ++ RawText.ofSteps names

/- The plain path of something that is there. -/
def canonical
    (d : Disk)
    (path : RawText) : Except ReadFault RawText :=
  match d.entry path with
  | .ok _ => .ok (pathOf (namesOf path))
  | .error f => .error f

------------------------------------------------------------
-- Changes
------------------------------------------------------------

/- A file or a directory put in place. -/
def write
    (d : Disk)
    (path : RawText)
    (e : Entry) : Disk :=
  ⟨Entry.put e (namesOf path) d.root⟩

/- What a path leads to removed. -/
def delete
    (d : Disk)
    (path : RawText) : Disk :=
  ⟨Entry.remove (namesOf path) d.root⟩

end Disk

end ModuleLint
