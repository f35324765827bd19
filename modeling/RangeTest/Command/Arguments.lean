namespace RangeTest

/-- The files that an option of the command line can name. -/
inductive PathOption where
  | csv
  | nodes
  | sights
  | summary
  | settings
  deriving DecidableEq, Repr

inductive Switch where
  | path (option : PathOption)
  | interactive
  | verbose
  | help
  | version
  deriving DecidableEq, Repr

def Switch.ofName? : String → Option Switch
  | "csvfile" => some (.path .csv)
  | "nodes" => some (.path .nodes)
  | "los" => some (.path .sights)
  | "summary" => some (.path .summary)
  | "config" => some (.path .settings)
  | "interactive" => some .interactive
  | "help" => some .help
  | "version" => some .version
  | _ => none

def Switch.ofLetter? : Char → Option Switch
  | 'c' => some (.path .csv)
  | 'n' => some (.path .nodes)
  | 'l' => some (.path .sights)
  | 's' => some (.path .summary)
  | 'i' => some .interactive
  | 'v' => some .verbose
  | 'h' => some .help
  | 'V' => some .version
  | _ => none

/-- What the shape of an argument says. -/
inductive Word where
  | value (text : String)
  | named (name : List Char) (attached : Option (List Char))
  | letters (letters : List Char)
  | separator
  deriving DecidableEq, Repr

/-- A name and what is attached to it behind an equals sign. -/
def Word.cutName (s : List Char) : Word :=
  match s.dropWhile (· != '=') with
  | [] => named s none
  | _ :: attached => named (s.takeWhile (· != '=')) (some attached)

/-- A lone dash is a value. -/
def Word.ofArgument (argument : String) : Word :=
  match argument.toList with
  | ['-', '-'] => separator
  | '-' :: '-' :: s => cutName s
  | ['-'] => value argument
  | '-' :: s => letters s
  | _ => value argument

/-- Why a command line asks for no run. -/
inductive Halt where
  | misuse
  | help
  | version
  deriving DecidableEq, Repr

/-- A command line as far as it was read. -/
structure Draft where
  logs : List String := []
  paths : List (PathOption × String) := []
  isInteractive : Bool := false
  isVerbose : Bool := false
  /-- An option that still needs its path. -/
  awaiting : Option PathOption := none
  /-- Behind the separator all arguments are values. -/
  isLiteral : Bool := false

/-- A run has two logs. -/
def Draft.addLog (d : Draft) (path : String) : Except Halt Draft :=
  if path.isEmpty || 2 ≤ d.logs.length then throw .misuse
  else return { d with logs := d.logs ++ [path] }

/-- Gives an option its path. An option can be given once. -/
def Draft.addPath (d : Draft) (option : PathOption) (path : String) : Except Halt Draft :=
  if path.isEmpty || d.paths.any (·.1 == option) then throw .misuse
  else return { d with paths := d.paths ++ [(option, path)], awaiting := none }

def Draft.setInteractive (d : Draft) : Except Halt Draft :=
  if d.isInteractive then throw .misuse
  else return { d with isInteractive := true }

/-- An option with its long name. Only options that take a path can have one attached. -/
def Draft.addNamed (d : Draft) (name : List Char) (attached : Option (List Char)) :
    Except Halt Draft :=
  match Switch.ofName? (String.ofList name), attached with
  | some (.path option), some path => d.addPath option (String.ofList path)
  | some (.path option), none => return { d with awaiting := some option }
  | some .interactive, none => d.setInteractive
  | some .help, none => throw .help
  | some .version, none => throw .version
  | _, _ => throw .misuse

/-- Options by their letters. What follows the letter of an option with a path is the path. -/
def Draft.addLetters (d : Draft) : List Char → Except Halt Draft
  | [] => return d
  | letter :: rest =>
    match Switch.ofLetter? letter, rest with
    | some (.path option), [] => return { d with awaiting := some option }
    | some (.path option), '=' :: path => d.addPath option (String.ofList path)
    | some (.path option), path => d.addPath option (String.ofList path)
    | some .interactive, _ => do addLetters (← d.setInteractive) rest
    | some .verbose, _ => addLetters { d with isVerbose := true } rest
    | some .help, _ => throw .help
    | some .version, _ => throw .version
    | none, _ => throw .misuse

/-- Reads one more argument. -/
def Draft.add (d : Draft) (argument : String) : Except Halt Draft :=
  if d.isLiteral then d.addLog argument
  else match d.awaiting, Word.ofArgument argument with
    | some option, .value path => d.addPath option path
    | some _, _ => throw .misuse
    | none, .value path => d.addLog path
    | none, .named name attached => d.addNamed name attached
    | none, .letters letters => d.addLetters letters
    | none, .separator => return { d with isLiteral := true }

structure Arguments where
  rxLog : String
  txLog : String
  paths : List (PathOption × String)
  isInteractive : Bool
  isVerbose : Bool

def Arguments.path? (a : Arguments) (option : PathOption) : Option String :=
  (a.paths.find? (·.1 == option)).map (·.2)

def Arguments.parse (arguments : List String) : Except Halt Arguments := do
  let draft ← arguments.foldlM Draft.add {}
  match draft.logs, draft.awaiting with
  | [rxLog, txLog], none =>
    return {
      rxLog
      txLog
      paths := draft.paths
      isInteractive := draft.isInteractive
      isVerbose := draft.isVerbose }
  | _, _ => throw .misuse

end RangeTest
