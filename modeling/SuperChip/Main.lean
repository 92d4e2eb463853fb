import SuperChip.Launch

/-!
# The program

The program as it is started from a command line. There is no window system, so it can list
program files but not show a session.

- `Program.host`: what the operating system has to say before the program starts.
- `main`: launches the program and hands on what it printed.
-/

namespace SuperChip.Program

/-- The contents of a file, if it can be read. -/
def contents? (path : Path) : IO (Option (List UInt8)) := do
  try
    return some (← IO.FS.readBinFile path.text).toList
  catch _ =>
    return none

/-- The program file that a command line names, with its contents. -/
def romFile (arguments : List String) : IO Files := do
  match Options.parse arguments with
  | .error _ => return .empty
  | .ok options => return Files.empty.put options.rom (← contents? options.rom)

/-- The host for a command line: its program file, the clock, chance and the switches for
messages. -/
def host (arguments : List String) : IO Host := do
  let files ← romFile arguments
  let nanoseconds ← IO.monoNanosNow
  let entropy ← IO.getRandomBytes 8
  let switches ← IO.getEnv "CHIP8_DEBUG"
  return {
    hasWindows := false
    sampleRates := .ofList none []
    freeChannels := .ofList false []
    channelsFound := 0
    console := []
    files := files
    room := .all
    now := nanoseconds.toFloat / 1000000000.0
    entropy := entropy.toList.foldl (fun n b => n * 256 + b.toNat) 0
    categories := .ofText (switches.getD "")
    calls := []
    printed := [] }

/-- The exit status of an ending, after its complaint if it has one. -/
def conclude : Launch.Ending → IO UInt32
  | .done => return 0
  | .exit status complaint => do
    complaint.forM fun line => IO.eprintln line
    return status.toUInt32
  | .broken error => do
    IO.eprintln error.message
    return 1
  | .blank setting => do
    IO.eprintln (Launch.blankMessage setting)
    return 1

end SuperChip.Program

def main (arguments : List String) : IO UInt32 := do
  let outcome := SuperChip.Launch.run arguments [] (← SuperChip.Program.host arguments)
  outcome.host.printed.reverse.forM fun line => IO.println line
  SuperChip.Program.conclude outcome.ending
