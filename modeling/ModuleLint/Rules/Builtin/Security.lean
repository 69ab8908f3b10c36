import ModuleLint.Rules.Definition

/-
  Rules about security.

  Key definitions include:
    * `Builtin.noEval`
    * `Builtin.noHardcodedSecrets`
-/

namespace ModuleLint

namespace Builtin

/- Calls that run any code. -/
def noEval : RuleDefinition :=
  { id := "security/no-eval"
    category := .security
    severity := .error
    description := "eval() executes arbitrary code"
    help :=
      "Remove eval(); parse data with JSON.parse or use an " ++
        "explicit lookup table"
    matcher := .forbiddenCall "eval" }

------------------------------------------------------------
-- Secrets
------------------------------------------------------------

/- Parts of names of secrets. -/
def secretNames : List String :=
  [ "password", "passwd", "secret", "apikey", "token",
    "privatekey", "accesskey", "credential" ]

/- One text occurs in another. -/
def occursIn
    (part : List Char) : List Char → Bool
  | [] => part.isEmpty
  | c :: cs => part.isPrefixOf (c :: cs) || occursIn part cs

/- The name is that of a secret. -/
def isSecretName
    (name : String) : Bool :=
  let plain := (name.toList.filter Char.isAlphanum).map Char.toLower
  secretNames.any (fun s => occursIn s.toList plain)

/- The text may be a secret: long, whole and not a template. -/
def looksSecret
    (value : String) : Bool :=
  let cs := value.toList
  8 ≤ value.utf8ByteSize && !cs.any Text.isBlank &&
    !occursIn ['$', '\x7b'] cs &&
    !occursIn ['\x7b', '\x7b'] cs &&
    !value.startsWith "process.env"

/- Secrets in the source text. -/
def findSecrets
    (u : SourceUnit) : List Finding :=
  (u.facts.literals.filter
      (fun l => isSecretName l.name && looksSecret l.value)).map
    (fun l =>
      { filePath := u.relativePath
        line := l.line
        column := l.column
        message := "Hardcoded secret assigned to '" ++ l.name ++ "'" })

/- Secrets are not written in the source text. -/
def noHardcodedSecrets : Rule :=
  { id := "security/no-hardcoded-secrets"
    category := .security
    severity := .error
    description := "credential stored as a string literal"
    help :=
      "Load secrets from the environment or a secret store " ++
        "(e.g. ConfigService)"
    check := .file (fun _ u => { findings := findSecrets u }) }

end Builtin

end ModuleLint
