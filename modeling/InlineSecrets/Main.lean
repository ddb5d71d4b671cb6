/-
**The executable.**

What the program finds when it is started is read here, and what it says is written: the variables
of the environment, the two files that may be named on the command line, the text to be processed,
and random bytes, which are drawn beforehand.  There is no connection to a vault, so a result for
which one was asked does not count; and no other command can be started.
-/

import InlineSecrets.Command.Rehearsal
import InlineSecrets.CommandLine.Program

set_option relaxedAutoImplicit false
set_option autoImplicit false

namespace InlineSecrets

namespace CommandLine

/-- The random bytes that each draw takes its own from. -/
def bytesPerDraw : Nat := 32

/-- The source whose draws are taken from bytes drawn beforehand. -/
def entropyOf (b : ByteArray) : Entropy where
  draw := fun i n => Vector.ofFn fun (j : Fin n) => (b.data[bytesPerDraw * i + j.val]?).getD 0
  drawn := 0

/-- The variables in a list of entries that end with zero bytes. -/
def variablesIn (b : Bytes) : Assoc Text Text :=
  Assoc.ofEntries ((b.splitOnP (· == 0)).filterMap fun e =>
    ((Utf8.decode e).toOption.bind fun t => t.cut? '='))

/-- The contents of a file, if it can be read. -/
def contents? (name : String) : IO (Option Bytes) := do
  try
    return some (← IO.FS.readBinFile name).toList
  catch _ =>
    return none

/-- The file of a name, if it is asked for and can be read. -/
def fileNamed (name : Option Text) : IO Files := do
  match name with
  | none => return []
  | some name =>
      match ← contents? (String.ofList name) with
      | none => return []
      | some b => return [(name, b)]

/-- Whether a command line asks for a text to be read. -/
def readsInput : Demand → Bool
  | .perform ⟨_, _, _, .transform _ _ []⟩ => true
  | _ => false

/-- What the program finds. -/
def findSurroundings (words : List Text) : IO Surroundings := do
  let environment := ((← contents? "/proc/self/environ").map variablesIn).getD []
  match Demand.read words with
  | .ok (.perform i) =>
      let files := (← fileNamed i.configurationFile) ++ (← fileNamed i.variablesFile)
      let input ←
        if readsInput (.perform i) then do
          let b := (← contents? "/dev/stdin").getD []
          match Utf8.decode b with
          | .ok t => pure t
          | .error f => throw (IO.userError f.message)
        else pure []
      let size := input.length + words.flatten.length + 1
      let random ← IO.getRandomBytes (USize.ofNat (bytesPerDraw * size))
      return { environment, files, input, entropy := entropyOf random, server := {} }
  | _ => return { environment, files := [], input := [], entropy := entropyOf .empty, server := {} }

/-- Whether a vault was asked for something. -/
def askedVault : World → Bool
  | ⟨_, .memory _ requests⟩ => !requests.isEmpty
  | ⟨_, .remote c⟩ => !c.server.received.isEmpty

/-- The end of the program when no command can be started and no vault be reached. -/
def endingAlone (p : Program) : Ending :=
  let (ending, world) : Ending × World :=
    match p.progress with
    | .ended e => (e, p.world)
    | .supervising supervision tool =>
        let h : Command.Rehearsal :=
          { supervision, tool := some tool, world := p.world, plans := [.refused .unsupported] }
        let h := h.settle
        (.ofReport (h.supervision.verdict?.getD (.ran .interrupted)), h.world)
  if askedVault world then .failure 1 "no connection to a vault" else ending

/-- Writes the results and the messages of the program. -/
def Ending.write : Ending → IO Unit
  | exited _ results messages => do
      IO.print (String.ofList results)
      IO.eprint (String.ofList messages)
  | misused f => IO.eprintln ("Error: " ++ f.message)
  | crashed f => IO.eprintln f.message
  | broken f => IO.eprintln f.message

end CommandLine

end InlineSecrets

/-- The program. -/
def main (args : List String) : IO UInt32 := do
  let words := args.map String.toList
  let ending :=
    InlineSecrets.CommandLine.endingAlone
      (InlineSecrets.CommandLine.start (← InlineSecrets.CommandLine.findSurroundings words) words)
  ending.write
  (← IO.getStdout).flush
  return UInt32.ofNat ending.status
