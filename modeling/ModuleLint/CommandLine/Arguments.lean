import ModuleLint.Json.Writer
import ModuleLint.Path.Basic

/-
  The arguments of the program.

  A command has options with values, and a path.  The path and
  some options may stand before or after the name of the command,
  and what stands after it counts.  No option may be given twice
  in one place.

  Key definitions include:
    * `Invocation`, `Command`, `Refusal`
    * `Invocation.ofArguments`
-/

namespace ModuleLint

------------------------------------------------------------
-- Invocations
------------------------------------------------------------

/- How results are written. -/
inductive OutputFormat where
  | text
  | json
deriving DecidableEq, Repr, Inhabited

/- What is to be done. -/
inductive Command where
  | scan
      (format : OutputFormat)
      (config : Option String)
      (minScore : Option Int)
  | rules
  | watch
  | worker
  | lsp
deriving DecidableEq, Repr, Inhabited

/- A command and the directory it is for. -/
structure Invocation where
  path : String
  logLevel : String
  command : Command
deriving DecidableEq, Repr, Inhabited

/- Why nothing is to be done. -/
inductive Refusal where
  | usage
  | help (command : Option String)
  | version
deriving DecidableEq, Repr, Inhabited

------------------------------------------------------------
-- Options
------------------------------------------------------------

/- An option with a value. -/
structure OptionForm where
  name : String
  letter : Option Char
  accepts : String → Bool
  allowsNegative : Bool

/- The options of a command, and the commands it may start. -/
structure CommandForm where
  name : Option String
  options : List OptionForm
  commands : List String
  hasVersion : Bool

/- What is given at one place: a path, and values of options. -/
structure Given where
  path : Option String := none
  values : List (String × String) := []
deriving DecidableEq, Repr, Inhabited

namespace Given

/- The value of an option. -/
def value?
    (g : Given)
    (name : String) : Option String :=
  (g.values.find? (fun v => v.1 == name)).map (·.2)

/- One more value, which must not be there already. -/
def set
    (g : Given)
    (o : OptionForm)
    (value : String) : Except Refusal Given :=
  if o.accepts value && (g.value? o.name).isNone then
    .ok { g with values := g.values ++ [(o.name, value)] }
  else
    .error .usage

/- The path, of which there is only one and not an empty one. -/
def setPath
    (g : Given)
    (path : String) : Except Refusal Given :=
  if path.isEmpty || g.path.isSome then .error .usage
  else .ok { g with path := some path }

end Given

------------------------------------------------------------
-- Reading
------------------------------------------------------------

/- A whole number of sixty-four bits with a sign. -/
def asInt64?
    (s : String) : Option Int :=
  let magnitude? (cs : List Char) : Option Nat :=
    if cs.isEmpty || !cs.all Char.isDigit then none
    else
      some (cs.foldl (fun n c => n * 10 + (c.toNat - 48)) 0)
  let value : Option Int :=
    match s.toList with
    | '-' :: cs => (magnitude? cs).map (fun n => -(n : Int))
    | '+' :: cs => (magnitude? cs).map (fun n => (n : Int))
    | cs => (magnitude? cs).map (fun n => (n : Int))
  value.filter
    (fun n => -Int.pow 2 63 ≤ n && n < Int.pow 2 63)

/-
  The characters may be a number: digits, with a point behind
  some of them and an exponent.
-/
def looksLikeNumber
    (cs : List Char) : Bool :=
  let mantissa := cs.takeWhile (fun c => c != 'e' && c != 'E')
  let whole := mantissa.takeWhile Char.isDigit
  let plain :=
    match mantissa.drop whole.length with
    | [] => true
    | '.' :: rest => !whole.isEmpty && rest.all Char.isDigit
    | _ => false
  match cs.drop mantissa.length with
  | [] => plain
  | _ :: e =>
      plain && !mantissa.isEmpty && !e.isEmpty &&
        e.all Char.isDigit

/- What the next argument is read as. -/
inductive Expectation where
  | anything
  | value (o : OptionForm)
  | pathOnly

/- The name of an option, and the value that comes with it. -/
def splitLong
    (cs : List Char) : String × Option String :=
  let name := cs.takeWhile (· != '=')
  match cs.drop name.length with
  | _ :: value => (String.ofList name, some (String.ofList value))
  | [] => (String.ofList name, none)

namespace CommandForm

/- An option that is written as a word. -/
def readLong
    (f : CommandForm)
    (g : Given)
    (cs : List Char) : Except Refusal (Given × Expectation) :=
  let (name, value?) := splitLong cs
  match f.options.find? (fun o => o.name == name) with
  | some o =>
      match value? with
      | some value => (g.set o value).map (·, .anything)
      | none => .ok (g, .value o)
  | none =>
      match name, value? with
      | "help", none => .error (.help f.name)
      | "version", none =>
          .error (if f.hasVersion then .version else .usage)
      | _, _ => .error .usage

/- An option that is written as a letter. -/
def readShort
    (f : CommandForm)
    (g : Given)
    (c : Char)
    (cs : List Char) : Except Refusal (Given × Expectation) :=
  match f.options.find? (fun o => o.letter == some c) with
  | some o =>
      match cs with
      | [] => .ok (g, .value o)
      | '=' :: value =>
          (g.set o (String.ofList value)).map (·, .anything)
      | value =>
          (g.set o (String.ofList value)).map (·, .anything)
  | none =>
      match c with
      | 'h' => .error (.help f.name)
      | 'V' => .error (if f.hasVersion then .version else .usage)
      | _ => .error .usage

/- An argument where anything may stand. -/
def readAny
    (f : CommandForm)
    (g : Given)
    (arg : String) : Except Refusal (Given × Expectation) :=
  match arg.toList with
  | ['-', '-'] => .ok (g, .pathOnly)
  | '-' :: '-' :: cs => f.readLong g cs
  | '-' :: c :: cs => f.readShort g c cs
  | _ => (g.setPath arg).map (·, .anything)

/- An argument where the value of an option is due. -/
def readValue
    (g : Given)
    (o : OptionForm)
    (arg : String) : Except Refusal (Given × Expectation) :=
  let taken := (g.set o arg).map (·, Expectation.anything)
  match arg.toList with
  | '-' :: '-' :: _ => .error .usage
  | '-' :: c :: cs =>
      if o.allowsNegative && looksLikeNumber (c :: cs) then taken
      else .error .usage
  | _ => taken

/-
  The arguments of a command up to the name of a command that it
  starts, with that name and what follows it.
-/
def read
    (f : CommandForm)
    (g : Given) :
    Expectation → List String →
      Except Refusal (Given × Option (String × List String))
  | .value _, [] => .error .usage
  | _, [] => .ok (g, none)
  | .value o, arg :: rest =>
      match readValue g o arg with
      | .ok (g, e) => f.read g e rest
      | .error r => .error r
  | .pathOnly, arg :: rest =>
      match g.setPath arg with
      | .ok g => f.read g .pathOnly rest
      | .error r => .error r
  | .anything, arg :: rest =>
      if f.commands.contains arg then
        .ok (g, some (arg, rest))
      else
        match f.readAny g arg with
        | .ok (g, e) => f.read g e rest
        | .error r => .error r

end CommandForm

------------------------------------------------------------
-- This Program
------------------------------------------------------------

namespace Invocation

/- How much is logged. -/
def logLevelForm : OptionForm :=
  { name := "log-level"
    letter := none
    accepts := ["error", "warn", "info", "debug", "trace"].contains
    allowsNegative := false }

/- The options of a scan. -/
def scanForms : List OptionForm :=
  [ { name := "format"
      letter := some 'f'
      accepts := ["text", "json"].contains
      allowsNegative := false },
    { name := "config"
      letter := some 'c'
      accepts := fun s => !s.isEmpty
      allowsNegative := false },
    { name := "min-score"
      letter := none
      accepts := fun s => (asInt64? s).isSome
      allowsNegative := true } ]

/- The names of commands. -/
def commandNames : List String :=
  ["scan", "rules", "watch", "worker", "lsp"]

/- What may stand before the name of a command. -/
def outerForm : CommandForm :=
  { name := none
    options := [logLevelForm]
    commands := commandNames ++ ["help"]
    hasVersion := true }

/- What may stand after the name of a command. -/
def innerForm
    (name : String) : CommandForm :=
  { name := some name
    options :=
      (if name == "scan" then scanForms else []) ++ [logLevelForm]
    commands := []
    hasVersion := false }

/- The command of the given name with its options. -/
def commandOf
    (name : String)
    (g : Given) : Command :=
  match name with
  | "rules" => .rules
  | "watch" => .watch
  | "worker" => .worker
  | "lsp" => .lsp
  | _ =>
      .scan
        (if g.value? "format" == some "json" then .json else .text)
        (g.value? "config")
        ((g.value? "min-score").bind asInt64?)

/- The help that is asked for by name. -/
def helpOn : List String → Refusal
  | [] => .help none
  | [name] =>
      if commandNames.contains name then .help (some name)
      else if name == "help" then .help (some "help")
      else .usage
  | _ => .usage

/- The invocation that arguments stand for. -/
def ofArguments
    (args : List String) : Except Refusal Invocation := do
  let (outer, rest) ← outerForm.read {} .anything args
  match rest with
  | none =>
      .ok
        { path := outer.path.getD "."
          logLevel := (outer.value? "log-level").getD "warn"
          command := .scan .text none none }
  | some ("help", topics) => .error (helpOn topics)
  | some (name, args) =>
      let (inner, _) ← (innerForm name).read {} .anything args
      let level := inner.value? "log-level"
      .ok
        { path := (inner.path.or outer.path).getD "."
          logLevel :=
            (level.or (outer.value? "log-level")).getD "warn"
          command := commandOf name inner }

end Invocation

end ModuleLint
