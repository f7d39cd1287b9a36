/-
FlashSeal.Main — the program: files from the disk into a store, a run on the store, and back.

Everything that decides is in `FlashSeal.run`; here only the files that a command names are read,
its lines and events are printed, and the files that it changed are written.
-/
import FlashSeal.Command.Run

open FlashSeal

namespace FlashSeal.Disk

/-- The text of a place. -/
def placeText : Place → String
  | [] => "."
  | "/" :: names => "/" ++ String.intercalate "/" names
  | names => String.intercalate "/" names

/-- Adds what stands on the disk at a place.  A directory opens and then refuses to be read. -/
def probe (store : Store) (place : Place) : IO Store := do
  match ← (IO.FS.readBinFile (placeText place)).toBaseIO with
  | .ok bytes => return { store with files := (place, bytes.data.toList) :: store.files }
  | .error (.inappropriateType _ code _) =>
    if some code.toNat = FileError.isDirectory.code? then
      return { store with directories := place :: store.directories }
    return store
  | .error _ => return store

/-- The places on the way along names. -/
def trail (here : Place) : List String → List Place
  | [] => []
  | name :: names => here.enter name :: trail (here.enter name) names

/-- The part of the disk that a command can see. -/
def storeFor (command : Command) : IO Store := do
  let places := command.paths.flatMap fun path =>
    match Path.ofText path with
    | .ok p => trail p.start p.names
    | .error _ => []
  let mut store : Store := ⟨[], []⟩
  for place in places.eraseDups do
    store ← probe store place
  return store

/-- Writes the files that differ between two stores. -/
def save (before after : Store) : IO Unit := do
  for (place, bytes) in after.files do
    unless before.file? place == some bytes do
      IO.FS.writeBinFile (placeText place) ⟨bytes.toArray⟩

end FlashSeal.Disk

/-- Runs the program on the disk. -/
def main (args : List String) : IO UInt32 := do
  let store ← match Invocation.ofArguments? args with
    | some (.run _ command) => Disk.storeFor command
    | _ => pure ⟨[], []⟩
  let result := run args store
  Disk.save store result.store
  for e in result.events do
    IO.eprintln ("[" ++ e.level.label ++ "] " ++ e.message)
  for line in result.lines do
    IO.println line
  match result.failure with
  | some e => IO.eprintln ("Error: " ++ e.diagnostic)
  | none => if result.exitCode = 2 then IO.eprintln "error: unusable arguments"
  return UInt32.ofNat result.exitCode
