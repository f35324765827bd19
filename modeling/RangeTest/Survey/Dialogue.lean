import RangeTest.Stream
import RangeTest.Survey.Resolver

namespace RangeTest

/-- The operator's terminal: the lines still to be typed and what was printed. -/
structure Console where
  input : List RawLine
  output : Sink
  /-- A question has met the end of the input. -/
  starved : Bool

def Console.start (input : List RawLine) (output : Sink) : Console where
  input
  output
  starved := false

def Console.print (fragments : List String) : Act Console ExportError Unit :=
  Act.mapError .io <| Act.zoom Console.output (fun output console => { console with output })
    (Sink.writeAll fragments)

/-- Asks one question until the answer makes sense; there is no answer where the input ends. -/
def Console.askLines (prompt : String) (parse : List Char → Option α) :
    List RawLine → Act Console ExportError (Option α)
  | [] => do
    print [prompt]
    modify fun console => { console with starved := true }
    return none
  | line :: rest => do
    print [prompt]
    modify fun console => { console with input := rest }
    match line with
    | .error cause => throw (.io cause)
    | .ok text =>
      let answer := Text.trim text.toList
      match parse answer with
      | some value => return some value
      | none =>
        print ["Invalid value '", String.ofList answer, "', try again.\n"]
        askLines prompt parse rest

def Console.ask (prompt : String) (parse : List Char → Option α) :
    Act Console ExportError (Option α) := do
  askLines prompt parse (← get).input

/-- An answer that says something. -/
def Answer.text? (s : List Char) : Option String :=
  if s.isEmpty then none else some (String.ofList s)

/-- An answer of three numbers. -/
def Answer.position? (s : List Char) : Option Position :=
  match (Text.words s).mapM FloatText.read? with
  | some [x, y, z] => some { x, y, z }
  | _ => none

/-- Asks for the description of a node, item by item. -/
def Console.askNode (address : String) : Act Console ExportError (Option NodeInfo) := do
  print ["No node-info for link address ", address, ".\n"]
  let some id ← ask "Node id: " Answer.text? | return none
  let some height ← ask "Height: " FloatText.read? | return none
  let some antenna ← ask "Antenna type: " Answer.text? | return none
  let some temperature ← ask "Temperature: " FloatText.read? | return none
  let some position ← ask "Position (x y z): " Answer.position? | return none
  return some { id, height, antenna, temperature, position }

/-- Asks whether the way between two nodes is unobstructed. -/
def Console.askSight (idA idB : String) : Act Console ExportError (Option LineOfSight) :=
  ask s!"Is there line of sight between {idA} and {idB}? [yes/no]: " LineOfSight.parse?

/-- Tables of a site together with an operator who knows what they lack. -/
structure Interview where
  survey : Survey
  console : Console

/-- Talks to the operator. -/
def Interview.talk (act : Act Console ExportError α) : Act Interview ExportError α :=
  Act.zoom Interview.console (fun console interview => { interview with console }) act

/-- Looks an address up, or asks for it and remembers the answer. -/
def Interview.nodeInfo (address : String) : Act Interview ExportError NodeInfo := do
  match (← get).survey.nodes.get? address with
  | some info => return info
  | none =>
    let some info ← talk (Console.askNode address) | throw (.missingNodeInfo address)
    modify fun interview =>
      { interview with
        survey.nodes := (interview.survey.nodes.insert address info).toOption.getD
          interview.survey.nodes }
    return info

/-- Looks a pair of ids up, or asks for it and remembers the answer. -/
def Interview.lineOfSight (idA idB : String) : Act Interview ExportError LineOfSight := do
  match (← get).survey.sights.get? idA idB with
  | some flag => return flag
  | none =>
    let some flag ← talk (Console.askSight idA idB) | throw (.missingLineOfSight idA idB)
    modify fun interview =>
      { interview with
        survey.sights := (interview.survey.sights.insert idA idB flag).toOption.getD
          interview.survey.sights }
    return flag

/-- Knows what the tables say and what the operator answers. -/
def Resolver.interactive : Resolver Interview where
  nodeInfo := Interview.nodeInfo
  lineOfSight := Interview.lineOfSight

end RangeTest
