import ModuleLint.Settings.Basic
import ModuleLint.Json.Writer

/-
  What keeps a scan from being carried out.

  Key definitions include:
    * `ScanCause`, `Fault`
    * `Fault.message`
-/

namespace ModuleLint

/- Why a path could not be scanned. -/
inductive ScanCause where
  | unreadable (cause : ReadFault)
  | noDirectory
deriving DecidableEq, Repr, Inhabited

/- The words for a cause. -/
def ScanCause.message : ScanCause → String
  | unreadable cause => cause.message
  | noDirectory => "not a directory"

/- What keeps a scan from being carried out. -/
inductive Fault where
  | configuration (cause : ConfigFault)
  | scan (path : RawText) (cause : ScanCause)
  | badMinimum (value : Int)
deriving Repr, Inhabited

/- The words for a fault. -/
def Fault.message : Fault → String
  | configuration cause =>
      "Invalid configuration: " ++ cause.message
  | scan path cause =>
      "Failed to scan " ++ path.toText ++ ": " ++ cause.message
  | badMinimum value =>
      "Invalid parameter: --min-score must be between 0 and " ++
        "100, got " ++ String.ofList (Json.writeInt value)

end ModuleLint
