import RangeTest.Command.Outcome

namespace RangeTest

/-- Tries an action that may fail. -/
def Disk.attempt? (act : IO α) : IO (Option α) := do
  match ← act.toBaseIO with
  | .ok value => return some value
  | .error _ => return none

/-- What stands on disk under a path. A folder is what can be stepped into. -/
def Disk.look? (path : String) : IO (Option FileEntry) := do
  match ← attempt? (IO.FS.readBinFile path) with
  | some content => return some (.file content)
  | none => return (← attempt? (IO.FS.Handle.mk (path ++ "/.") .read)).map fun _ => .folder

/-- Adds to the known files what stands on disk under a path. -/
def Disk.add (files : FileTree) (path : String) : IO FileTree := do
  match files.locate path, ← look? path with
  | .ok place, some entry => return ⟨(place, entry) :: files.entries⟩
  | _, _ => return files

/-- The files and folders that a run can come across. -/
def Disk.load (arguments : Arguments) : IO FileTree :=
  arguments.allPaths.foldlM (fun files path => (Path.leads path).foldlM add files) .empty

/-- Writes to disk what a run wrote. -/
def Disk.store (outcome : Outcome) (arguments : Arguments) (before : FileTree) : IO Unit := do
  for path in arguments.paths.map (·.2) do
    match before.read path, outcome.files.read path with
    | .ok old, .ok new => if old != new then IO.FS.writeBinFile path new
    | _, .ok new => IO.FS.writeBinFile path new
    | _, _ => pure ()

/-- Runs with the lines typed so far, and again with one more whenever the run asks for one. Only
what was not printed before is printed. -/
partial def Terminal.converse (arguments : Arguments) (files : FileTree) (typed : List RawLine)
    (printed : Nat) : IO Outcome := do
  let outcome := Outcome.ofRun arguments files typed
  let stdout ← IO.getStdout
  stdout.putStr (outcome.printed.drop printed).toString
  stdout.flush
  if outcome.session.console.starved then
    let line ← Disk.attempt? (do (← IO.getStdin).getLine)
    match line with
    | some "" => return outcome
    | some text => converse arguments files (typed ++ [.ok text]) outcome.printed.length
    | none => converse arguments files (typed ++ [.error .invalidUtf8]) outcome.printed.length
  else return outcome

/-- Runs what a command line asks for. -/
def Terminal.run (arguments : Arguments) : IO Nat := do
  let files ← Disk.load arguments
  let outcome ← converse arguments files [] 0
  IO.eprint (String.join (outcome.notices.map Notice.text))
  Disk.store outcome arguments files
  if outcome.failure.isSome then IO.eprintln outcome.account
  return outcome.status

end RangeTest

def main (arguments : List String) : IO UInt32 := do
  let status ← match RangeTest.Arguments.parse arguments with
    | .ok arguments => RangeTest.Terminal.run arguments
    | .error .misuse => do
      IO.eprint RangeTest.Halt.misuse.text
      pure RangeTest.Halt.misuse.status
    | .error reason => do
      IO.print reason.text
      pure reason.status
  return UInt32.ofNat status
