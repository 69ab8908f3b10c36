import ModuleLint.Rules.Definition

/-
  Rules about performance.

  Key definitions include:
    * `Builtin.syncIoInHandler`
-/

namespace ModuleLint

namespace Builtin

/- Calls that wait. -/
def blockingCalls : List String :=
  [ "readFileSync", "writeFileSync", "appendFileSync",
    "existsSync", "readdirSync", "statSync", "lstatSync",
    "mkdirSync", "rmSync", "unlinkSync", "copyFileSync",
    "execSync", "execFileSync", "spawnSync", "pbkdf2Sync",
    "scryptSync" ]

/- The class answers requests. -/
def isHandler
    (c : ClassFact) : Bool :=
  c.isOf .controller || c.isOf .resolver || c.isOf .gateway

/- Calls that wait while a request is answered. -/
def findBlockingCalls
    (u : SourceUnit) : List Finding :=
  u.facts.calls.filterMap
    (fun call =>
      let name := Text.lastName call.callee
      match call.methodName with
      | none => none
      | some method =>
          if blockingCalls.contains name &&
              u.facts.callerIs call isHandler then
            some
              (u.atCall call
                (name ++ "() blocks the event loop inside " ++
                  method))
          else
            none)

/- Requests are answered without waiting. -/
def syncIoInHandler : Rule :=
  { id := "performance/sync-io-in-handler"
    category := .performance
    severity := .warning
    description := "synchronous I/O in a request handler"
    help :=
      "Use the async variant (fs/promises, exec with a " ++
        "callback) or move the work to a service"
    check := .file (fun _ u => { findings := findBlockingCalls u }) }

end Builtin

end ModuleLint
