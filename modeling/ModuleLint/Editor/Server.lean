import ModuleLint.Editor.Marker
import ModuleLint.Editor.Store
import ModuleLint.Editor.Uri
import ModuleLint.Path.Order
import ModuleLint.Worker.Hosted
import ModuleLint.Worker.Pool

/-
  The part that speaks with an editor.

  Each folder has a worker, which is started when it is needed,
  and a store.  All of a folder is scanned once at the start.
  A file is scanned anew when it is saved or when the editor sees
  it change.

  Key definitions include:
    * `Notice`
    * `Server`, `Server.ofFolders`
    * `Server.scanAll`, `Server.fileChanged`, `Server.watched`
    * `Server.capabilities`, `Server.registration`
-/

namespace ModuleLint

------------------------------------------------------------
-- Notices
------------------------------------------------------------

/- What an editor is told. -/
inductive Notice where
  | publish (uri : String) (markers : List Marker)
  | logError (message : String)
deriving DecidableEq, Repr, Inhabited

namespace Notice

/- The words about an error. -/
def ofError
    (message : String) : Notice :=
  logError ("nestlint: " ++ message)

/- A notice as JSON. -/
def toJson : Notice → Json
  | publish uri markers =>
      .object
        [ ("method", .string "textDocument/publishDiagnostics"),
          ("params",
            .object
              [ ("uri", .string uri),
                ("diagnostics",
                  .array (markers.map Marker.toJson)) ]) ]
  | logError message =>
      .object
        [ ("method", .string "window/logMessage"),
          ("params",
            .object
              [ ("type", .nat 1),
                ("message", .string message) ]) ]

end Notice

------------------------------------------------------------
-- Folders
------------------------------------------------------------

/- What is kept for a folder. -/
structure Folder where
  client : Option (Client Hosted)
  store : Store

namespace Folder

/- A folder that has not been scanned. -/
def fresh : Folder :=
  ⟨none, .empty⟩

/-
  Something is done with the client of a folder.  A client that
  cannot be started is not kept, so that the next try starts
  afresh.
-/
def withClient
    {α : Type}
    (f : Folder)
    (root : RawText)
    (d : Disk)
    (act : Client.Action Disk Hosted α) :
    Except ClientFault α × Folder :=
  let transport := Transport.separate
  let started : Except ClientFault (Client Hosted) :=
    match f.client with
    | some c => .ok c
    | none =>
        match (Client.start transport).run.run (.idle root, d) with
        | (.ok (), c, _) => .ok c
        | (.error e, _, _) => .error e
  match started with
  | .error e => (.error e, f)
  | .ok c =>
      let (result, c, _) := act.run.run (c, d)
      (result, { f with client := some c })

/- Responses are taken into the store of a folder. -/
def absorb
    (root : RawText)
    (changed : Option RawText) :
    List Response → Store → List String × List String × Store
  | [], s => ([], [], s)
  | r :: rs, s =>
      match s.apply root changed r with
      | .ok (touched, t) =>
          let (failures, more, u) := absorb root changed rs t
          (failures, touched ++ more, u)
      | .error message =>
          let (failures, more, u) := absorb root changed rs s
          (message :: failures, more, u)

/- The notice of the diagnostics of a file. -/
def publish?
    (root : RawText)
    (s : Store)
    (file : String) : Option Notice :=
  (Uri.ofPath? (Path.join root file)).map
    (fun uri =>
      .publish uri ((s.get file).map Marker.ofDiagnostic))

/- Responses are taken in, and the editor is told. -/
def apply
    (f : Folder)
    (root : RawText)
    (changed : Option RawText)
    (responses : List Response) : List Notice × Folder :=
  let (failures, touched, store) :=
    absorb root changed responses f.store
  ( failures.map Notice.ofError ++
      (Text.sortedNames touched).filterMap (publish? root store),
    { f with store } )

/- A scan of everything. -/
def scan
    (f : Folder)
    (root : RawText)
    (d : Disk) : List Notice × Folder :=
  match f.withClient root d
      (Client.request .separate .fullScan) with
  | (.ok response, f) => f.apply root none [response]
  | (.error e, f) =>
      ( [ .ofError
            ("cannot scan " ++ root.toText ++ ": " ++
              e.fullMessage) ],
        f )

/- A scan after the change of a file. -/
def fileChanged
    (f : Folder)
    (root : RawText)
    (d : Disk)
    (path : RawText) : List Notice × Folder :=
  match f.withClient root d (Client.syncPath .separate path) with
  | (.ok responses, f) => f.apply root (some path) responses
  | (.error e, f) => ([.ofError e.fullMessage], f)

end Folder

------------------------------------------------------------
-- Servers
------------------------------------------------------------

/- The folders of an editor. -/
structure Server where
  pool : Pool Folder

namespace Server

/- The server for folders. -/
def ofFolders
    (roots : List RawText) : Server :=
  ⟨roots.foldl (fun p root => p.register root .fresh) .empty⟩

/- The folders that an editor opens, or else the one root. -/
def rootsOf
    (folders : List RawText)
    (root : Option RawText) : List RawText :=
  if folders.isEmpty then root.toList else folders

/- All folders are scanned. -/
def scanAll
    (s : Server)
    (d : Disk) : List Notice × Server :=
  let results :=
    s.pool.slots.map
      (fun slot =>
        let (notices, content) := slot.content.scan slot.root d
        (notices, { slot with content }))
  (results.flatMap (·.1), ⟨⟨results.map (·.2)⟩⟩)

/- A file has changed. -/
def fileChanged
    (s : Server)
    (d : Disk)
    (path : RawText) : List Notice × Server :=
  match s.pool.slotFor? path with
  | none => ([], s)
  | some slot =>
      let (notices, folder) :=
        slot.content.fileChanged slot.root d path
      (notices, ⟨s.pool.update slot.root folder⟩)

/- Files have changed, as the editor has seen. -/
def watched
    (s : Server)
    (d : Disk)
    (paths : List RawText) : List Notice × Server :=
  (Path.sortedPaths paths).foldl
    (fun (notices, s) path =>
      let (more, t) := s.fileChanged d path
      (notices ++ more, t))
    ([], s)

/- All folders are closed. -/
def shutdown
    (_ : Server) : Server :=
  ⟨.empty⟩

------------------------------------------------------------
-- What Is Offered
------------------------------------------------------------

/- The answer to an editor that starts. -/
def capabilities : Json :=
  .object
    [ ("capabilities",
        .object
          [ ("textDocumentSync",
              .object
                [ ("openClose", .bool false), ("change", .nat 0),
                  ("save", .bool true) ]) ]),
      ("serverInfo",
        .object
          [ ("name", .string "nestlint"),
            ("version", .string "0.3.0") ]) ]

/- The files that the editor should watch. -/
def registration : Json :=
  .object
    [ ("registrations",
        .array
          [ .object
              [ ("id", .string "nestlint-watched-files"),
                ("method",
                  .string "workspace/didChangeWatchedFiles"),
                ("registerOptions",
                  .object
                    [ ("watchers",
                        .array
                          [ .object
                              [ ("globPattern",
                                  .string
                                    ("**/*.\x7bts,tsx,js,jsx," ++
                                      "mjs,cjs\x7d")) ]
                            ]) ]) ] ]) ]

end Server

end ModuleLint
