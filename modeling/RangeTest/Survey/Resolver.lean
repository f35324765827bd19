import RangeTest.Act
import RangeTest.Export.Error
import RangeTest.Survey.Node
import RangeTest.Survey.Sight
import RangeTest.Workspace

namespace RangeTest

structure Survey where
  nodes : NodeTable
  sights : SightTable

def Survey.empty : Survey where
  nodes := .empty
  sights := .empty

/-- Where the description of nodes and sights comes from. Looking something up may change the
state of the source. -/
structure Resolver (σ : Type) where
  nodeInfo : String → Act σ ExportError NodeInfo
  lineOfSight : String → String → Act σ ExportError LineOfSight

def Survey.nodeInfo (s : Survey) (address : String) : Except ExportError NodeInfo :=
  match s.nodes.get? address with
  | some info => return info
  | none => throw (.missingNodeInfo address)

def Survey.lineOfSight (s : Survey) (idA idB : String) : Except ExportError LineOfSight :=
  match s.sights.get? idA idB with
  | some flag => return flag
  | none => throw (.missingLineOfSight idA idB)

def Resolver.strict : Resolver Survey where
  nodeInfo address := do MonadExcept.ofExcept ((← get).nodeInfo address)
  lineOfSight idA idB := do MonadExcept.ofExcept ((← get).lineOfSight idA idB)

/-- Reads a table from a file. -/
def SurveyError.load (parse : String → Except SurveyError α) (path : String) :
    Act Workspace SurveyError α := do
  let content ← Act.mapError (.unreadable path) (Workspace.inspect (·.readText path))
  MonadExcept.ofExcept (parse content)

def NodeTable.load (path : String) : Act Workspace SurveyError NodeTable :=
  SurveyError.load parse path

def SightTable.load (path : String) : Act Workspace SurveyError SightTable :=
  SurveyError.load parse path

end RangeTest
