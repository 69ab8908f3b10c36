import ModuleLint.CommandLine.Arguments

/-
  What the program says about itself.

  Key definitions include:
    * `Help.text`, `Help.version`
-/

namespace ModuleLint

namespace Help

/- The version of the program. -/
def version : String :=
  "nestlint 0.3.0\n"

/- What a command is for. -/
def about : String → String
  | "scan" =>
      "Scan the project once and print diagnostics and the " ++
        "health score"
  | "rules" => "List built-in and external rules"
  | "watch" => "Watch the project and re-scan changed files"
  | "worker" =>
      "Run a scan worker on stdin/stdout (used by the language " ++
        "server)"
  | "lsp" => "Start the language server on stdin/stdout"
  | "help" =>
      "Print this message or the help of the given subcommand(s)"
  | _ =>
      "Static analysis and health score for NestJS-style " ++
        "dependency-injection backends"

/- The lines about the path. -/
def pathLines : List String :=
  [ "Arguments:",
    "  [PATH]  Path to the project root (default: current " ++
      "directory) [default: .]",
    "" ]

/- The line about how much is logged. -/
def logLevelLine : String :=
  "      --log-level <LOG_LEVEL>  Log level (error, warn, info, " ++
    "debug, trace) [default: warn] [possible values: error, " ++
    "warn, info, debug, trace]"

/- The line about help. -/
def helpLine : String :=
  "  -h, --help                   Print help"

/- The help on the program. -/
def overview : List String :=
  [ about "", "",
    "Usage: nestlint [OPTIONS] [PATH] [COMMAND]", "",
    "Commands:",
    "  scan   " ++ about "scan",
    "  rules  " ++ about "rules",
    "  watch  " ++ about "watch",
    "  lsp    " ++ about "lsp",
    "  help   " ++ about "help", "" ] ++
  pathLines ++
  [ "Options:",
    logLevelLine,
    helpLine,
    "  -V, --version                Print version", "",
    "Examples:",
    "  nestlint scan .                      Scan the current " ++
      "directory",
    "  nestlint scan ./api --format json    JSON output for " ++
      "scripting",
    "  nestlint scan . --min-score 75       Exit code 1 below " ++
      "75 (CI mode)",
    "  nestlint rules                       List every rule and " ++
      "whether it is enabled",
    "  nestlint watch .                     Re-scan on every save",
    "  nestlint lsp                         Language server on " ++
      "stdio" ]

/- The lines about the options of a command. -/
def optionLines : String → List String
  | "scan" =>
      [ "  -f, --format <FORMAT>        Output format: text, " ++
          "json [default: text] [possible values: text, json]",
        logLevelLine,
        "  -c, --config <CONFIG>        Config file to use " ++
          "instead of nestlint.toml / .nestlintrc.json",
        "      --min-score <MIN_SCORE>  Exit with code 1 if the " ++
          "score is below this value (0-100)" ]
  | _ => [logLevelLine]

/- The help on a command. -/
def details
    (name : String) : List String :=
  if name == "help" then
    [ about name, "", "Usage: nestlint help [COMMAND]...", "",
      "Arguments:",
      "  [COMMAND]...  Print help for the subcommand(s)" ]
  else
    [ about name, "",
      "Usage: nestlint " ++ name ++ " [OPTIONS] [PATH]", "" ] ++
    pathLines ++ ["Options:"] ++ optionLines name ++ [helpLine]

/- Help on the program or on a command. -/
def text
    (command : Option String) : String :=
  let lines :=
    match command with
    | none => overview
    | some name => details name
  Text.joinWith "\n" lines ++ "\n"

end Help

end ModuleLint
