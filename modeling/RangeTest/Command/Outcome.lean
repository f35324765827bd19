import RangeTest.Command.Session
import RangeTest.Command.Usage

namespace RangeTest

structure Outcome where
  /-- There is none if all went well. -/
  failure : Option Failure
  session : Session
  /-- Notices of every severity are shown. -/
  isVerbose : Bool

/-- Runs what a command line asks for on some files and with an operator. -/
def Outcome.ofRun (arguments : Arguments) (files : FileTree) (typed : List RawLine) : Outcome :=
  let (result, session) := Act.from (Session.run arguments) (.start files typed)
  let failure := match result with
    | .ok _ => none
    | .error failure => some failure
  { failure, session, isVerbose := arguments.isVerbose }

def Outcome.status (o : Outcome) : Nat :=
  if o.failure.isSome then 1 else 0

def Outcome.files (o : Outcome) : FileTree :=
  o.session.workspace.files

/-- All that was printed for the operator. -/
def Outcome.printed (o : Outcome) : String :=
  o.session.console.output.text

def Outcome.notices (o : Outcome) : List Notice :=
  o.session.workspace.notices.filter fun notice => o.isVerbose || notice.severity != .debug

def Outcome.account (o : Outcome) : String :=
  (o.failure.map Failure.account).getD ""

inductive Reply where
  | halt (reason : Halt)
  | ran (outcome : Outcome)

def Reply.ofCommand (command : List String) (files : FileTree) (typed : List RawLine) : Reply :=
  match Arguments.parse command with
  | .error reason => .halt reason
  | .ok arguments => .ran (.ofRun arguments files typed)

def Reply.status : Reply → Nat
  | halt reason => reason.status
  | ran outcome => outcome.status

end RangeTest
