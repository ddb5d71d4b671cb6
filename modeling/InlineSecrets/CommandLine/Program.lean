/-
**The program.**

The program is started with the words of its command line in some surroundings.  All tasks but one
are done at once.  The one that runs another command goes on as a supervised runner, and ends as
that does.

Main definitions:

* `InlineSecrets.CommandLine.Surroundings` — what the program finds when it is started;
* `InlineSecrets.CommandLine.Ending` — how it ends;
* `InlineSecrets.CommandLine.Program`, `InlineSecrets.CommandLine.start` — the program when it has
  been started;
* `InlineSecrets.CommandLine.Ending.ofReport` — how it ends when it has run a command.
-/

import InlineSecrets.Command.Supervision
import InlineSecrets.CommandLine.Demand
import InlineSecrets.CommandLine.Markup
import InlineSecrets.CommandLine.Output
import InlineSecrets.Config.Sources

set_option relaxedAutoImplicit false
set_option autoImplicit false

namespace InlineSecrets

namespace CommandLine

/-- What the program finds when it is started: the variables of the environment, the files, what can
be read, random bytes, and the vault server. -/
structure Surroundings where
  environment : Assoc Text Text
  files : Files
  input : Text
  entropy : Entropy
  server : Vault.Server

/-- How the program ends: with a status, results and messages; or because it is misused; or because
the configuration, or the start of a command, fails in a way that there is no message for. -/
inductive Ending where
  | exited (status : Nat) (results messages : Text)
  | misused (fault : UsageFault)
  | crashed (fault : Config.Failure)
  | broken (fault : Command.Fault)
  deriving DecidableEq, Repr

namespace Ending

/-- The exit status. -/
def status : Ending → Nat
  | exited status _ _ => status
  | misused _ => 2
  | crashed _ | broken _ => 1

/-- The end with a result. -/
def success (t : Text) : Ending := .exited 0 (withoutSequences t) []

/-- The end with a message. -/
def failure (status : Nat) (message : String) : Ending :=
  .exited status [] (inColumns (Markup.render (Markup.ofError message.toList)) ++ ['\n'])

/-- **The end of the program that has run a command,** from the end of that. -/
def ofReport (r : Command.Report) : Ending :=
  match r with
  | .ran .finished | .ran .stopped => .exited r.exitStatus [] []
  | .ran (.failed f) =>
      if f.kind = .foreign then .broken f else .failure r.exitStatus f.message
  | .ran .interrupted => .exited r.exitStatus [] "Aborted.\n".toList
  | .drifted f => .failure r.exitStatus (Command.driftMessage f)

end Ending

/-- How far the program is: it has ended, or it runs a command with a tool. -/
inductive Progress where
  | ended (ending : Ending)
  | supervising (supervision : Command.Supervision) (tool : Tool)

/-- The program when it has been started: the vault that it is connected to, the world as it has
left it, and how far it is. -/
structure Program where
  vault : Option VaultSettings := none
  world : World
  progress : Progress

/-! ### Settings -/

/-- The wording of a failure of the configuration, with the number of complaints. -/
def configMessage (f : Config.Failure) : String :=
  match f with
  | .rejected _ complaints =>
      f.message ++ ": " ++ toString complaints.length ++ " validation error" ++
        (if complaints.length = 1 then "" else "s") ++ " for ToolConfig"
  | _ => f.message

/-- Whether there is a message for a failure of the configuration. -/
def isReported : Config.Failure → Bool
  | .noVariables _ | .unclearVersion _ | .unreadable _ _ | .unparsable _ | .notMapping _
  | .rejected _ _ => true
  | _ => false

/-- The end because of a failure of the configuration; the message begins with what could not be
done. -/
def configEnding (aim : String) (f : Config.Failure) : Ending :=
  if isReported f then .failure 1 (aim ++ configMessage f) else .crashed f

/-- A tool with the world it runs in and the vault it is connected to. -/
structure Equipment where
  tool : Tool
  world : World
  vault : Option VaultSettings

/-- The tool that the settings ask for.  Settings are only accepted with a key that is one. -/
def equip (s : Surroundings) (i : Invocation) : Except Config.Failure Equipment :=
  (fun (settings : Settings) =>
    { tool := (Tool.ofSettings settings false).toOption.getD ⟨[]⟩
      world := ⟨s.entropy, .remote ⟨s.server, settings.vault.layout⟩⟩
      vault := if settings.vault.enabled then some settings.vault else none }) <$>
    Config.load s.files i.configurationFile i.variablesFile s.environment s.environment

/-- The world in which no tool has been made. -/
def Surroundings.world (s : Surroundings) : World := ⟨s.entropy, .remote ⟨s.server, none⟩⟩

/-- The program that has ended before a tool was made. -/
def Surroundings.ended (s : Surroundings) (e : Ending) : Program :=
  { world := s.world, progress := .ended e }

/-! ### Tasks -/

/-- Makes a key. -/
def makeKey (s : Surroundings) (kind : Text) : Program :=
  if kind = usualKind then
    let (key, entropy) := Key.generate s.entropy
    { world := { s.world with entropy }
      progress := .ended (.success (key.text ++ ['\n'])) }
  else s.ended (.failure 1 ("type must be in: [" ++ String.ofList usualKind ++ "]"))

/-- Does something to the tokens of a text: of the words, separated by blanks, or of what can be
read.  The end of a line is added to the result in the first case only. -/
def transform (s : Surroundings) (i : Invocation) (action : Action) (wrapTokens : Bool)
    (words : List Text) : Program :=
  let aim := "failed to " ++ action.word ++ " tokens: "
  match equip s i with
  | .error f => s.ended (configEnding aim f)
  | .ok e =>
      let (text, terminator) : Text × Text :=
        if words.isEmpty then (s.input.unifyBreaks, []) else (List.intercalate [' '] words, ['\n'])
      let (result, world) := e.tool.run action wrapTokens text e.world
      let ending : Ending :=
        match result with
        | .ok t => .success (t ++ terminator)
        | .error f => .failure 1 (aim ++ f.message Cause.message)
      { vault := e.vault, world, progress := .ended ending }

/-- The plan for polling, from the two numbers of seconds, of which one is positive at most. -/
def pollingOf (restart stop : Double) : Command.Polling :=
  if stop.isPositive then ⟨.stop, stop⟩
  else if restart.isPositive then ⟨.restart, restart⟩
  else {}

/-- The runner of a command with the variables of the environment. -/
def runnerOf (environment : Assoc Text Text) (command : List Text) : Command.Runner where
  given :=
    ⟨command.headD [], command.tail, environment.map fun (name, value) => name ++ '=' :: value⟩
  grace := Command.usualGrace

/-- Runs a command. -/
def supervise (s : Surroundings) (i : Invocation) (command : List Text) (restart stop : Double) :
    Program :=
  if restart.isPositive && stop.isPositive then
    s.ended (.failure 1
      "--restart-if-env-changes and --stop-if-env-changes cannot be used together")
  else
    match equip s i with
    | .error f => s.ended (configEnding "" f)
    | .ok e =>
        let runner := runnerOf s.environment command
        let begun := Command.Supervision.supervised? runner (pollingOf restart stop)
        { vault := e.vault
          world := e.world
          progress := .supervising (begun.getD { runner }) e.tool }

/-! ### The program -/

/-- The name and the version of the program. -/
def versionText : Text := "secretsplice 0.1.0\n".toList

/-- How the program is used. -/
def usageText : Text :=
  ("Usage: secretsplice [OPTIONS] COMMAND [ARGS]...\n\n" ++
    "Commands: keygen redact unredact encode decode exec\n").toList

/-- **The program, started with the words of its command line.** -/
def start (s : Surroundings) (words : List Text) : Program :=
  match Demand.read words with
  | .error f => s.ended (.misused f)
  | .ok .help => s.ended (.success usageText)
  | .ok .version => s.ended (.success versionText)
  | .ok (.perform i) =>
      match i.task with
      | .makeKey kind => makeKey s kind
      | .transform action wrapTokens words => transform s i action wrapTokens words
      | .supervise command restart stop => supervise s i command restart stop

end CommandLine

end InlineSecrets
