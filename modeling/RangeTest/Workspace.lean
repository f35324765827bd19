import RangeTest.Export.Error
import RangeTest.Files.Tree
import RangeTest.Notice
import RangeTest.Stream

namespace RangeTest

/-- What a run works on: the files that it can reach, and the notices that it has given. -/
structure Workspace where
  files : FileTree
  notices : List Notice

/-- The files before anything was done. -/
def Workspace.ofFiles (files : FileTree) : Workspace where
  files
  notices := []

/-- Gives notices, one after the other. -/
def Workspace.notify (notices : List Notice) : Act Workspace ε Unit :=
  modify fun w => { w with notices := w.notices ++ notices }

/-- Looks at the files without changing them. -/
def Workspace.inspect (view : FileTree → Except ε α) : Act Workspace ε α := do
  MonadExcept.ofExcept (view (← get).files)

@[simp] theorem Workspace.from_inspect (view : FileTree → Except ε α) (w : Workspace) :
    Act.from (inspect view) w = (view w.files, w) := by
  simp [inspect, Act.from_bind]

/-- Makes a file of some output. A file that cannot be made stays as it was; otherwise it holds
what was delivered, also where the output breaks off. -/
def Workspace.create (path : String) (output : Act Sink ExportError Unit) :
    Act Workspace ExportError Unit := do
  let (outcome, sink) := Act.from output .unlimited
  let files ← Act.mapError .io (inspect fun files => files.write path sink.delivered)
  modify fun w => { w with files }
  MonadExcept.ofExcept outcome

end RangeTest
