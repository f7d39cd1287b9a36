/-
FlashSeal.Command.Run — a whole run of the program, from its arguments to its exit code.

The exit code is 0 for success, 1 for a command that failed and 2 for arguments that cannot be
understood.
-/
import FlashSeal.Command.Arguments
import FlashSeal.Command.Embed
import FlashSeal.Command.Inspect
import FlashSeal.Command.Listing

namespace FlashSeal

/-- The paths that a command names. -/
def Command.paths : Command → List String
  | embed map input output _ => [map, input, output]
  | describe input map => input :: map.toList
  | verify input map => input :: map.toList
  | listAreas map => [map]

/-- The course of a command. -/
def Command.session : Command → Session Unit
  | embed map input output padTo => Session.embed map input output padTo
  | describe input map => Session.describe input map
  | verify input map => Session.verify input map
  | listAreas map => Session.listAreas map

/-- The line that tells the program's version. -/
def versionLine : String := "mfgimg 0.1.0"

/-- The lines that tell how the program is used. -/
def usageLines : List String :=
  ["usage: mfgimg [-v]... embed -m MAP -i IMAGE -o IMAGE [--pad-to SIZE]",
   "       mfgimg [-v]... show -i IMAGE [-m MAP]",
   "       mfgimg [-v]... verify -i IMAGE [-m MAP]",
   "       mfgimg [-v]... areas -m MAP"]

/-- Whether an event is told to someone who asked so many times for more. -/
def Level.isTold (verbosity : Nat) : Level → Bool
  | info => true
  | debug => decide (1 ≤ verbosity)
  | trace => decide (2 ≤ verbosity)

/-- What a run leaves behind. -/
structure RunResult where
  /-- 0 for success, 1 for a failed command, 2 for arguments that make no sense. -/
  exitCode : Nat
  lines : List String
  failure : Option CommandError
  events : List Event
  store : Store

/-- Runs the program on a store. -/
def run (args : List String) (store : Store) : RunResult :=
  match Invocation.ofArguments? args with
  | none => ⟨2, [], none, [], store⟩
  | some .help => ⟨0, usageLines, none, [], store⟩
  | some .version => ⟨0, [versionLine], none, [], store⟩
  | some (.run verbosity command) =>
    let (outcome, p) := command.session.on store
    let events := p.events.filter fun e => e.level.isTold verbosity
    match outcome with
    | .ok () => ⟨0, p.lines, none, events, p.store⟩
    | .error e => ⟨1, p.lines, some e, events, p.store⟩

end FlashSeal
