import RangeTest.Files.Path
import RangeTest.Stream

namespace RangeTest

inductive FileEntry where
  | file (content : ByteArray)
  | folder

/-- The names on the way from the working folder to a place. A way out of the working folder begins
with `..`, and a way from the root with `/`. -/
abbrev Place := List String

/-- Files and folders by their places. The folders on the way to an entry exist as well. -/
structure FileTree where
  entries : List (Place × FileEntry)

def FileTree.empty : FileTree :=
  ⟨[]⟩

/-- The working folder, the folders above it and the root. -/
def Place.isAbove (place : Place) : Bool :=
  place.all (· == "..") || place == ["/"]

def FileTree.at? (t : FileTree) (place : Place) : Option FileEntry :=
  match t.entries.find? (·.1 == place) with
  | some (_, entry) => some entry
  | none =>
    if Place.isAbove place || t.entries.any (fun entry => place.isPrefixOf entry.1) then
      some .folder
    else none

def Place.maxName : Nat := 255

/-- Refuses a place that is no folder. -/
def FileTree.enter (t : FileTree) (place : Place) : Except IoError Unit :=
  match t.at? place with
  | none => throw .notFound
  | some (.file _) => throw .notADirectory
  | some .folder => return ()

/-- Goes one step from a place, which has to be a folder. -/
def FileTree.step (t : FileTree) (place : Place) (piece : List Char) : Except IoError Place := do
  t.enter place
  let name := String.ofList piece
  if Path.isIdle piece then return place
  else if Place.maxName < name.utf8ByteSize then throw .nameTooLong
  else if name == ".." then
    if Place.isAbove place && place != ["/"] then return place ++ [".."]
    else if place == ["/"] then return place
    else return place.dropLast
  else return place ++ [name]

/-- Where a path begins, and the pieces still to go. -/
def FileTree.origin (path : String) : Place × List (List Char) :=
  let pieces := Path.pieces path
  if path.startsWith "/" then (["/"], pieces) else ([], pieces)

def FileTree.maxPath : Nat := 4095

/-- Refuses texts that are no paths at all. -/
def FileTree.checkPath (path : String) : Except IoError Unit :=
  if path.toList.contains '\x00' then throw .nulInName
  else if path.isEmpty then throw .notFound
  else if maxPath < path.utf8ByteSize then throw .nameTooLong
  else return ()

/-- The place that a path leads to, whether or not something stands there. -/
def FileTree.locate (t : FileTree) (path : String) : Except IoError Place := do
  checkPath path
  let (start, pieces) := origin path
  pieces.foldlM t.step start

def FileTree.look (t : FileTree) (path : String) : Except IoError FileEntry := do
  match t.at? (← t.locate path) with
  | some entry => return entry
  | none => throw .notFound

def FileTree.isFile (t : FileTree) (path : String) : Bool :=
  match t.look path with
  | .ok (.file _) => true
  | _ => false

def FileTree.read (t : FileTree) (path : String) : Except IoError ByteArray := do
  match ← t.look path with
  | .file content => return content
  | .folder => throw .isADirectory

def FileTree.readText (t : FileTree) (path : String) : Except IoError String := do
  match String.fromUTF8? (← t.read path) with
  | some text => return text
  | none => throw .invalidUtf8

/-- The place of a file that is to be written, provided that its folder exists. A path that ends in
a slash names no file, however long the name before the slash. -/
def FileTree.locateNew (t : FileTree) (path : String) : Except IoError Place := do
  checkPath path
  let (start, pieces) := origin path
  match (pieces.reverse.dropWhile List.isEmpty) with
  | [] => throw .isADirectory
  | last :: above =>
    let folder ← above.reverse.foldlM t.step start
    t.enter folder
    if path.endsWith "/" then throw .isADirectory
    t.step folder last

/-- Writes a file, which is made if it does not exist. -/
def FileTree.write (t : FileTree) (path : String) (content : ByteArray) :
    Except IoError FileTree := do
  let place ← t.locateNew path
  match t.at? place with
  | some .folder => throw .isADirectory
  | _ => return ⟨(place, .file content) :: t.entries.filter (·.1 != place)⟩

end RangeTest
