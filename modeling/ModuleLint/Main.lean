import ModuleLint.CommandLine.Run
import ModuleLint.Editor.Session

/-
  The program.  It reads files and lines, and prints what comes
  of them.

  Key definitions include:
    * `main`
-/

namespace ModuleLint

namespace Program

------------------------------------------------------------
-- Files
------------------------------------------------------------

/- The content of bytes. -/
def contentOf
    (bytes : ByteArray) : Content :=
  match String.fromUTF8? bytes with
  | some s => .text s
  | none => .raw bytes.toList

/- A file or a directory on the disk, if it is one. -/
partial def entryOf
    (e : IO.FS.DirEntry) : IO (Option Entry) := do
  match (← e.path.symlinkMetadata).type with
  | .dir =>
      let found ← (← e.path.readDir).toList.mapM
        (fun m => do
          return (← entryOf m).map (RawText.ofText m.fileName, ·))
      return some (.directory (found.filterMap id))
  | .file =>
      return some (.file (contentOf (← IO.FS.readBinFile e.path)))
  | _ => return none

/- What there is at a path, put on a disk. -/
def load
    (d : Disk)
    (path : RawText) : IO Disk := do
  try
    let found ← IO.FS.realPath path.toText
    if ← found.isDir then
      let members ← (← found.readDir).toList.mapM
        (fun m => do
          return (← entryOf m).map (RawText.ofText m.fileName, ·))
      return d.write found.toString
        (.directory (members.filterMap id))
    else
      return d.write found.toString
        (.file (contentOf (← IO.FS.readBinFile found)))
  catch _ =>
    return d

/-
  The disk with the current directory and what there is at the
  given paths.
-/
def loadAll
    (here : String)
    (paths : List RawText) : IO Disk :=
  (paths.map (Path.join here)).foldlM load
    (Disk.empty.write here (.directory []))

/- The paths that an invocation reads. -/
def pathsOf
    (i : Invocation) : List RawText :=
  match i.command with
  | .scan _ (some file) _ => [i.path, file]
  | _ => [i.path]

/-
  The disk for an invocation, with the rules that the settings
  found on it lead to.
-/
def diskFor
    (here : String)
    (i : Invocation) : IO Disk := do
  let d ← loadAll here (pathsOf i)
  match d.resolved here i.path with
  | .error _ => return d
  | .ok root =>
      match d.projectConfig root with
      | .error _ => return d
      | .ok c => (c.rulesDirIn root).toList.foldlM load d

------------------------------------------------------------
-- Conversations
------------------------------------------------------------

/- Print a text at once. -/
def say
    (text : String) : IO Unit := do
  let out ← IO.getStdout
  out.putStr text
  out.flush

/- Print replies, each on its line. -/
def sayReplies
    (replies : List Response) : IO Unit :=
  say (String.join (replies.map (fun r => r.line ++ "\n")))

/- Serve requests until the lines end. -/
partial def serveLines
    (here : String)
    (i : Invocation)
    (s : Service) : IO Unit := do
  let line ← (← IO.getStdin).getLine
  let d ← diskFor here i
  if line.isEmpty then
    sayReplies (s.close d).1
  else
    let (replies, t) := s.hear d line
    sayReplies replies
    unless t.isOver do
      serveLines here i t

/- The lines before a message, up to an empty one. -/
partial def headerLines
    (seen : List String) : IO (List String) := do
  let line ← (← IO.getStdin).getLine
  if (Text.trim line).isEmpty then return seen
  else headerLines (line :: seen)

/- Talk to an editor until it leaves. -/
partial def serveEditor
    (here : String)
    (s : Session) : IO Unit := do
  let header ← headerLines []
  match header.findSome? Session.lengthOf? with
  | none => return
  | some n =>
      let bytes ← (← IO.getStdin).read n.toUSize
      let d ← loadAll here s.roots
      let m := (String.fromUTF8? bytes).bind Json.read?
      let (sent, t) := s.receive d (m.getD .null)
      say (String.join (sent.map Session.framed))
      unless t.isOver do
        serveEditor here t

/- Run a worker for an invocation. -/
def work
    (here : String)
    (i : Invocation) : IO UInt32 := do
  let d ← diskFor here i
  match CommandLine.workerFor d here i.path with
  | .error f =>
      (← IO.getStderr).putStr f.report
      return 1
  | .ok (root, a) =>
      match Service.greet a d with
      | (greeting, some s) =>
          sayReplies [greeting]
          serveLines here i s
          return 0
      | (greeting, none) =>
          sayReplies [greeting]
          (← IO.getStderr).putStr
            (CommandFault.notIngested root).report
          return 1

/- Print an output that took the time since `start`. -/
def finish
    (start : Nat)
    (o : Output) : IO UInt32 := do
  let stop ← IO.monoMsNow
  say (o.printed (stop - start))
  (← IO.getStderr).putStr o.complaint
  return o.exit.toUInt32

end Program

end ModuleLint

------------------------------------------------------------
-- The Program
------------------------------------------------------------

open ModuleLint in
/- Run the program. -/
def main
    (args : List String) : IO UInt32 := do
  let start ← IO.monoMsNow
  let here := (← IO.currentDir).toString
  match Invocation.ofArguments args with
  | .error r => Program.finish start (CommandLine.refused r)
  | .ok i =>
      match i.command with
      | .lsp =>
          Program.serveEditor here {}
          return 0
      | .worker => Program.work here i
      | _ =>
          let d ← Program.diskFor here i
          Program.finish start (CommandLine.output d here [] i)
