import ModuleLint.Json.Decode
import ModuleLint.Json.Reader
import ModuleLint.Json.Writer
import ModuleLint.Report.Json
import ModuleLint.Text.Blank

/-
  Messages between a worker and its client.

  A message is an object on a line of its own, with a member
  that names its kind.  It may also be read from an array that
  starts with the kind.

  Key definitions include:
    * `Request`, `Response`
    * `Request.line`, `Request.ofLine`
    * `Response.line`, `Response.ofLine`
-/

namespace ModuleLint

------------------------------------------------------------
-- Messages
------------------------------------------------------------

/- What a client asks of a worker. -/
inductive Request where
  | fullScan
  | fileChanged (path : String)
  | shutdown
deriving DecidableEq, Repr, Inhabited

/- How much a scan looked at. -/
inductive ScanKind where
  | full
  | incremental
deriving DecidableEq, Repr, Inhabited

/- What a worker answers. -/
inductive Response where
  | ready
  | result
      (diagnostics : List Diagnostic)
      (elapsed : Nat)
      (kind : ScanKind)
      (failures : List RuleFailure)
  | error (message : String)
  | missing (path : String)
deriving DecidableEq, Repr, Inhabited

/- A line that is no message. -/
structure BadMessage where
  line : String
deriving DecidableEq, Repr, Inhabited

/- The words for a line that is no message. -/
def BadMessage.message
    (b : BadMessage) : String :=
  "Invalid worker message: " ++ b.line

------------------------------------------------------------
-- Tagged Values
------------------------------------------------------------

namespace Json

/- A value with a kind. -/
def tagged
    (kind : String)
    (members : List (String × Json)) : Json :=
  .object (("kind", .string kind) :: members)

/- The kind of a value, and the value without it. -/
def untag? : Json → Option (String × Json)
  | object ms =>
      match ms.filter (fun m => m.1 == "kind") with
      | [(_, string kind)] =>
          some (kind, object (ms.filter (fun m => m.1 != "kind")))
      | _ => none
  | array (string kind :: xs) => some (kind, array xs)
  | _ => none

/- A value without fields. -/
def asBare? : Json → Option Unit
  | object _ => some ()
  | array [] => some ()
  | _ => none

/- A value with one text. -/
def asTextField?
    (name : String)
    (j : Json) : Option String := do
  (← row? [name] j).required name asString?

end Json

------------------------------------------------------------
-- Requests
------------------------------------------------------------

namespace Request

open Json

/- A request as JSON. -/
def toJson : Request → Json
  | fullScan => tagged "fullScan" []
  | fileChanged path =>
      tagged "fileChanged" [("filePath", .string path)]
  | shutdown => tagged "shutdown" []

/- The request that JSON stands for. -/
def ofJson?
    (j : Json) : Option Request := do
  let (kind, rest) ← untag? j
  match kind with
  | "fullScan" =>
      asBare? rest
      some fullScan
  | "fileChanged" =>
      some (fileChanged (← asTextField? "filePath" rest))
  | "shutdown" =>
      asBare? rest
      some shutdown
  | _ => none

/- A request on a line. -/
def line
    (r : Request) : String :=
  r.toJson.write

/- The request on a line. -/
def ofLine
    (s : String) : Except BadMessage Request :=
  let text := Text.trim s
  match (read? text).bind ofJson? with
  | some r => .ok r
  | none => .error ⟨text⟩

end Request

------------------------------------------------------------
-- Responses
------------------------------------------------------------

namespace ScanKind

/- The name of a kind of scan. -/
def name : ScanKind → String
  | full => "full"
  | incremental => "incremental"

/- The kind of scan with the given name. -/
def ofName? : String → Option ScanKind
  | "full" => some full
  | "incremental" => some incremental
  | _ => none

end ScanKind

namespace Response

open Json

/- A response as JSON. -/
def toJson : Response → Json
  | ready => tagged "ready" []
  | result diagnostics elapsed kind failures =>
      tagged "result"
        ([ ("diagnostics",
             .array (diagnostics.map Diagnostic.toJson)),
           ("elapsedMs", .nat elapsed),
           ("scanType", .string kind.name) ] ++
          if failures.isEmpty then []
          else
            [ ("ruleErrors",
                .array (failures.map RuleFailure.toJson)) ])
  | error message => tagged "error" [("message", .string message)]
  | missing path => tagged "missing" [("filePath", .string path)]

/- The result of a scan that JSON stands for. -/
def resultOfJson?
    (j : Json) : Option Response := do
  let r ←
    row? ["diagnostics", "elapsedMs", "scanType", "ruleErrors"] j
  some
    (result
      (← r.required "diagnostics" (asList? Diagnostic.ofJson?))
      (← r.required "elapsedMs" asNat64?)
      (← r.required "scanType" (asEnum? ScanKind.ofName?))
      (← r.defaulted "ruleErrors"
          (asList? RuleFailure.ofJson?) []))

/- The response that JSON stands for. -/
def ofJson?
    (j : Json) : Option Response := do
  let (kind, rest) ← untag? j
  match kind with
  | "ready" =>
      asBare? rest
      some ready
  | "result" => resultOfJson? rest
  | "error" => some (error (← asTextField? "message" rest))
  | "missing" => some (missing (← asTextField? "filePath" rest))
  | _ => none

/- A response on a line. -/
def line
    (r : Response) : String :=
  r.toJson.write

/- The response on a line. -/
def ofLine
    (s : String) : Except BadMessage Response :=
  let text := Text.trim s
  match (read? text).bind ofJson? with
  | some r => .ok r
  | none => .error ⟨text⟩

/- The same response after another time. -/
def timed
    (elapsed : Nat) : Response → Response
  | result diagnostics _ kind failures =>
      result diagnostics elapsed kind failures
  | r => r

end Response

end ModuleLint
