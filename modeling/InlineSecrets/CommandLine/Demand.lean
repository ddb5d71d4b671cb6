/-
**What a command line asks for.**

Options for the whole program come first, then the name of a command, and then its own options and
its arguments.

Main definitions:

* `InlineSecrets.CommandLine.Task` — the tasks of the program;
* `InlineSecrets.CommandLine.Demand` — what a command line asks for;
* `InlineSecrets.CommandLine.Demand.read` — that, from the words of the command line.
-/

import InlineSecrets.CommandLine.Options
import InlineSecrets.Engine
import InlineSecrets.Number.Reading

set_option relaxedAutoImplicit false
set_option autoImplicit false

namespace InlineSecrets

namespace CommandLine

/-- The tasks of the program: to make a key of some kind, to do something to the tokens of a text,
which is given by words or else read, and to run a command, which is restarted or stopped when its
inputs have changed, if they are rendered again at all after a positive number of seconds. -/
inductive Task where
  | makeKey (kind : Text)
  | transform (action : Action) (wrapTokens : Bool) (words : List Text)
  | supervise (command : List Text) (restart stop : Double)
  deriving DecidableEq, Repr

/-- A task, with the files that the settings come from, and whether all messages are to be shown. -/
structure Invocation where
  configurationFile : Option Text := none
  variablesFile : Option Text := none
  verbose : Bool := false
  task : Task
  deriving DecidableEq, Repr

/-- What a command line asks for. -/
inductive Demand where
  | help
  | version
  | perform (invocation : Invocation)
  deriving DecidableEq, Repr

/-! ### Options -/

/-- The options of the program and of its commands. -/
inductive OptionKey where
  | help
  | version
  | verbose
  | configurationFile
  | variablesFile
  | kind
  | wrapTokens
  | restart
  | stop
  deriving DecidableEq, Repr

/-- The option that every command has. -/
def helpRule : OptionRule OptionKey := ⟨.help, ["--help"], false⟩

/-- The options of the program. -/
def programRules : Rules OptionKey where
  options :=
    [ helpRule, ⟨.version, ["--version"], false⟩, ⟨.verbose, ["--verbose", "-v"], false⟩,
      ⟨.configurationFile, ["--config", "-c"], true⟩, ⟨.variablesFile, ["--env-file"], true⟩ ]
  optionsAnywhere := false

/-- The commands. -/
inductive CommandName where
  | keygen
  | transform (action : Action)
  | exec
  deriving DecidableEq, Repr

namespace CommandName

/-- The command of a name. -/
def ofText? (name : Text) : Option CommandName :=
  match String.ofList name with
  | "keygen" => some .keygen
  | "encode" => some (.transform .encode)
  | "decode" => some (.transform .decode)
  | "redact" => some (.transform .redact)
  | "unredact" => some (.transform .unredact)
  | "exec" => some .exec
  | _ => none

/-- The options of a command.  One that runs another command leaves the options that it does not
know to that. -/
def rules : CommandName → Rules OptionKey
  | keygen => { options := [helpRule, ⟨.kind, ["--type", "-t"], true⟩] }
  | transform .encode | transform .redact => { options := [helpRule] }
  | transform .decode | transform .unredact =>
      { options := [helpRule, ⟨.wrapTokens, ["--wrap-tokens", "-w"], false⟩] }
  | exec =>
      { options :=
          [ helpRule, ⟨.restart, ["--restart-if-env-changes", "-r"], true⟩,
            ⟨.stop, ["--stop-if-env-changes", "-s"], true⟩ ]
        passesUnknown := true }

end CommandName

/-- The only kind of key. -/
def usualKind : Text := "32byte".toList

/-- The number that an option gives, or zero. -/
def numberOf (p : Parsed OptionKey) (key : OptionKey) : Except UsageFault Double :=
  match p.value? key with
  | none => .ok (.zero false)
  | some t =>
      match Text.readDouble? t with
      | some x => .ok x
      | none => .error (.notNumber t)

/-- The task of a command with its options and arguments. -/
def CommandName.task (p : Parsed OptionKey) : CommandName → Except UsageFault Task
  | keygen =>
      match p.arguments with
      | [] => .ok (.makeKey ((p.value? .kind).getD usualKind))
      | w :: _ => .error (.extraArgument w)
  | transform action => .ok (.transform action (p.has .wrapTokens) p.arguments)
  | exec => do
      let restart ← numberOf p .restart
      let stop ← numberOf p .stop
      if p.arguments.isEmpty then throw .missingArgument
      return .supervise p.arguments restart stop

/-- Which of the options come first that ask for something else than a task. -/
def demandFirst? (p : Parsed OptionKey) : Option Demand :=
  p.options.findSome? fun o =>
    match o.1 with
    | .help => some .help
    | .version => some .version
    | _ => none

/-- **What a command line asks for.**  Words behind a double dash that do not begin with the name of
a command may still be options of the program. -/
def Demand.read (words : List Text) : Except UsageFault Demand := do
  let p ← programRules.parse words
  if let some d := demandFirst? p then return d
  match p.arguments with
  | [] => throw .missingCommand
  | name :: rest =>
      match CommandName.ofText? name with
      | none =>
          if let some d := demandFirst? (← programRules.parse p.arguments) then return d
          throw (.unknownCommand name)
      | some command =>
          let q ← command.rules.parse rest
          if let some d := demandFirst? q then return d
          return .perform
            { configurationFile := p.value? .configurationFile
              variablesFile := p.value? .variablesFile
              verbose := p.has .verbose
              task := ← command.task q }

end CommandLine

end InlineSecrets
