import RestGraph.Command.Run
/-!
The program: the library's run on the real file system, with the words of the command line and the
variables of the environment.
-/

set_option autoImplicit false

namespace RestGraph

open Files (Fault FileSystem Path)

/-- The cause of a failed system call, as far as it matters. -/
def faultOfError : IO.Error → Fault
  | .noFileOrDirectory .. => .missing
  | _ => .other

def attempt {α : Type} (action : IO α) : IO (Except Fault α) := do
  try
    return .ok (← action)
  catch error =>
    return .error (faultOfError error)

instance : FileSystem IO where
  makeDirectory path := attempt (IO.FS.createDir path.text)
  isDirectory path := do
    match ← attempt (do (← IO.FS.realPath path.text).isDir) with
    | .ok answer => return answer
    | .error _ => return false
  writeFile path content := attempt (IO.FS.writeBinFile path.text content)
  rename source target := attempt (IO.FS.rename source.text target.text)
  removeFile path := attempt (IO.FS.removeFile path.text)
  readFile path := attempt (IO.FS.readBinFile path.text)

instance : Command.Host IO where
  standardInput := do (← IO.getStdin).readBinToEnd

def isSwitchedOn (name : String) : IO Bool := do
  return (← IO.getEnv name).any (· != "0")

/-- Headings are coloured on a terminal, unless the environment says otherwise. -/
def wantsColor : IO Bool := do
  if ← isSwitchedOn "CLICOLOR_FORCE" then return true
  if (← IO.getEnv "NO_COLOR").isSome then return false
  if (← IO.getEnv "CLICOLOR") == some "0" then return false
  (← IO.getStdout).isTty

def clock : IO String := do
  let micros := (← IO.monoNanosNow) / 1000
  let fraction := toString (micros % 1000000)
  return toString (micros / 1000000) ++ "." ++
    String.ofList (List.replicate (6 - fraction.length) '0') ++ fraction ++ "s"

end RestGraph

open RestGraph in
def main (words : List String) : IO UInt32 := do
  -- Of the message for a refused command line only the end is given, which names none of its words.
  let surroundings : Command.Surroundings :=
    { log := ← IO.getEnv "RUST_LOG", color := ← wantsColor
      refusal := fun _ => "For more information, try '--help'." }
  let report ← Command.run (m := IO) surroundings words
  IO.print report.output
  for line in report.log do
    IO.eprintln ((← clock) ++ " " ++ line)
  if let some error := report.error then
    IO.eprintln error
  return report.status.toUInt32
