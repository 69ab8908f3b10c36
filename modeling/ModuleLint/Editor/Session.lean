import ModuleLint.Editor.Server
import ModuleLint.Json.Reader

/-
  Messages between an editor and a server.

  A message is a JSON object with a method and, if an answer is
  wanted, an identifier.  On the wire the number of its bytes
  stands before it.

  Key definitions include:
    * `Session`
    * `Session.receive`
    * `Session.framed`, `Session.lengthOf?`
-/

namespace ModuleLint

/- The server of an editor, and whether it may leave. -/
structure Session where
  server : Server := .ofFolders []
  isOver : Bool := false

namespace Session

------------------------------------------------------------
-- Sending
------------------------------------------------------------

/- A message with the given members. -/
def message
    (members : List (String × Json)) : Json :=
  .object (("jsonrpc", .string "2.0") :: members)

/- The answer to a request. -/
def reply
    (id result : Json) : Json :=
  message [("id", id), ("result", result)]

/- The answer to a request that the server does not know. -/
def refusal
    (id : Json) : Json :=
  message
    [ ("id", id),
      ("error",
        .object
          [ ("code", .int (-32601)),
            ("message", .string "Method not found") ]) ]

/- What an editor is told, as a message. -/
def told
    (n : Notice) : Json :=
  match n.toJson with
  | .object members => message members
  | other => other

/- The editor is asked to watch files. -/
def registration : Json :=
  message
    [ ("id", .nat 0),
      ("method", .string "client/registerCapability"),
      ("params", Server.registration) ]

------------------------------------------------------------
-- Receiving
------------------------------------------------------------

/- The path behind the address in a member of an object. -/
def pathOf?
    (j : Json) : Option RawText :=
  ((j.get? "uri").bind Json.asString?).bind Uri.toPath?

/- The folders of an editor that starts. -/
def opened
    (params : Json) : Server :=
  let folders :=
    ((params.get? "workspaceFolders").bind Json.asArray?).getD []
  let root :=
    ((params.get? "rootUri").bind Json.asString?).bind
      Uri.toPath?
  .ofFolders (Server.rootsOf (folders.filterMap pathOf?) root)

/- The file that was saved. -/
def saved?
    (params : Json) : Option RawText :=
  (params.get? "textDocument").bind pathOf?

/- The files that have changed. -/
def changed
    (params : Json) : List RawText :=
  (((params.get? "changes").bind Json.asArray?).getD
    []).filterMap pathOf?

/- Go on with what a server says and what becomes of it. -/
def goOn
    (s : Session)
    (result : List Notice × Server) : List Json × Session :=
  (result.1.map told, { s with server := result.2 })

/- Deal with a message. -/
def receive
    (s : Session)
    (d : Disk)
    (m : Json) : List Json × Session :=
  let params := (m.get? "params").getD .null
  match (m.get? "method").bind Json.asString?, m.get? "id" with
  | some "initialize", some id =>
      ([reply id Server.capabilities],
        { s with server := opened params })
  | some "initialized", none =>
      let (sent, t) := s.goOn (s.server.scanAll d)
      (registration :: sent, t)
  | some "textDocument/didSave", none =>
      match saved? params with
      | some path => s.goOn (s.server.fileChanged d path)
      | none => ([], s)
  | some "workspace/didChangeWatchedFiles", none =>
      s.goOn (s.server.watched d (changed params))
  | some "shutdown", some id =>
      ([reply id .null], { s with server := s.server.shutdown })
  | some "exit", none => ([], { s with isOver := true })
  | some _, some id => ([refusal id], s)
  | _, _ => ([], s)

/- The folders that are open. -/
def roots
    (s : Session) : List RawText :=
  s.server.pool.slots.map (·.root)

------------------------------------------------------------
-- The Wire
------------------------------------------------------------

/- A message with the number of its bytes. -/
def framed
    (m : Json) : String :=
  let text := m.write
  "Content-Length: " ++ text.utf8ByteSize.repr ++ "\r\n\r\n" ++
    text

/- The number of bytes that a line before a message gives. -/
def lengthOf?
    (line : String) : Option Nat :=
  match Text.splitAt ':' line with
  | [name, value] =>
      if Text.trim name == "Content-Length" then
        (Text.trim value).toNat?
      else
        none
  | _ => none

end Session

end ModuleLint
