import RangeTest.Text.Parts

namespace RangeTest

def Path.pieces (path : String) : List (List Char) :=
  path.toList.foldr (fun c pieces => if c = '/' then [] :: pieces else pieces.modifyHead (c :: ·))
    [[]]

/-- A piece that leads nowhere else. -/
def Path.isIdle (piece : List Char) : Bool :=
  piece.isEmpty || piece == ['.']

def Path.join (pieces : List (List Char)) : String :=
  String.ofList (pieces.intersperse ['/']).flatten

/-- Drops idle pieces from the end. -/
def Path.dropIdle (pieces : List (List Char)) : List (List Char) :=
  (pieces.reverse.dropWhile isIdle).reverse

/-- The path of the folder that a path lies in, written as in that path. There is none for the root
and for the empty path. -/
def Path.parent? (path : String) : Option String :=
  let pieces := pieces path
  let isRooted := 1 < pieces.length && pieces.head? == some []
  let isDotted := pieces.head? == some ['.']
  let lead := pieces.take (if isRooted || isDotted then 1 else 0)
  match (dropIdle (pieces.drop lead.length)).reverse with
  | [] => if isDotted then some "" else none
  | _ :: above =>
    let above := dropIdle above.reverse
    if isRooted && above.isEmpty then some "/" else some (join (lead ++ above))

/-- The paths on the way to a path, which is the last of them. -/
def Path.leads (path : String) : List String :=
  let pieces := pieces path
  (List.range pieces.length).map fun index => join (pieces.take (index + 1))

def Path.within (folder name : String) : String :=
  if folder.isEmpty || folder.endsWith "/" then folder ++ name else folder ++ "/" ++ name

/-- The path of a file beside another one. -/
def Path.beside (path name : String) : String :=
  within ((parent? path).getD ".") name

end RangeTest
