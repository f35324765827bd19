import RangeTest.Toml.Value

namespace RangeTest

/-- How a table came into being, which decides how it may grow. -/
inductive Toml.Origin where
  /-- By a heading of its own, or as the whole document. -/
  | heading
  /-- On the way to a table below it. -/
  | passage
  /-- By a key with points. -/
  | dotted
  deriving DecidableEq

/-- A document in the making. -/
inductive Toml.Tree where
  | leaf (value : Toml)
  | table (origin : Origin) (entries : List (String × Tree))
  /-- The tables of one heading in double brackets, the latest first. -/
  | series (latest : List (String × Tree)) (earlier : List (List (String × Tree)))

namespace Toml

/-- The entries of a table that can still grow. -/
abbrev Entries := List (String × Tree)

/-- Replaces the entry under a name, or adds one at the end. -/
def Entries.put (name : String) (tree : Tree) : Entries → Entries
  | [] => [(name, tree)]
  | entry :: rest => if entry.1 = name then (name, tree) :: rest else entry :: put name tree rest

/-- Changes the table at the end of a path; tables on the way that do not exist yet are made, with
the origin that is given for them. A key with points must not reach into a table that has a heading,
and no path leads through a value. -/
def Entries.alter (via : Origin) (change : Origin → Entries → Option Entries) (origin : Origin)
    (entries : Entries) : List String → Option Entries
  | [] => change origin entries
  | name :: path =>
    match entries.find? (·.1 == name) with
    | none => do
      let inner ← alter via change via [] path
      return entries.put name (.table via inner)
    | some (_, .leaf _) => none
    | some (_, .series latest earlier) => do
      let inner ← alter via change .heading latest path
      return entries.put name (.series inner earlier)
    | some (_, .table own inner) =>
      if via = .dotted ∧ own = .heading then none
      else do
        let inner ← alter via change own inner path
        return entries.put name (.table own inner)

/-- Sets a key of a table once. Keys with points and plain keys do not mix in one table. -/
def Entries.assign (path : List String) (value : Toml) (entries : Entries) : Option Entries := do
  let name ← path.getLast?
  let way := path.dropLast
  entries.alter .dotted
    (fun origin table =>
      if origin = .dotted ↔ way = [] then none
      else if table.any (·.1 == name) then none
      else some (table.put name (.leaf value)))
    .heading way

/-- Opens the table of a heading, which may have been passed through but not opened before. -/
def Entries.openTable (path : List String) (entries : Entries) : Option Entries := do
  let name ← path.getLast?
  entries.alter .passage
    (fun _ table => match table.find? (·.1 == name) with
      | none => some (table.put name (.table .heading []))
      | some (_, .table .passage inner) => some (table.put name (.table .heading inner))
      | some _ => none)
    .heading path.dropLast

/-- Opens one more table of a series. -/
def Entries.openSeries (path : List String) (entries : Entries) : Option Entries := do
  let name ← path.getLast?
  entries.alter .passage
    (fun _ table => match table.find? (·.1 == name) with
      | none => some (table.put name (.series [] []))
      | some (_, .series latest earlier) => some (table.put name (.series [] (latest :: earlier)))
      | some _ => none)
    .heading path.dropLast

/-- Sets a key of the table under an open heading. -/
def Entries.assignUnder (heading path : List String) (value : Toml) (entries : Entries) :
    Option Entries :=
  entries.alter .passage (fun _ table => table.assign path value) .heading heading

mutual

def Tree.value : Tree → Toml
  | .leaf value => value
  | .table _ entries => .table (entryValues entries)
  | .series latest earlier => .array (seriesValues earlier ++ [.table (entryValues latest)])

def entryValues : List (String × Tree) → List (String × Toml)
  | [] => []
  | (name, tree) :: rest => (name, tree.value) :: entryValues rest

def seriesValues : List (List (String × Tree)) → List Toml
  | [] => []
  | entries :: rest => seriesValues rest ++ [.table (entryValues entries)]

end

end Toml

end RangeTest
