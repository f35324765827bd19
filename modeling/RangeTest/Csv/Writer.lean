import RangeTest.Export.Error
import RangeTest.Stream

namespace RangeTest

/-- A cell is quoted if a reader could take part of it for the end of the cell. -/
def Csv.needsQuotes (cell : List Char) : Bool :=
  cell.any fun c => c == ',' || c == '"' || c == '\r' || c == '\n'

def Csv.doubleQuotes (cell : List Char) : List Char :=
  cell.flatMap fun c => if c = '"' then ['"', '"'] else [c]

def Csv.writeCell (cell : List Char) : List Char :=
  if needsQuotes cell then '"' :: doubleQuotes cell ++ ['"'] else cell

/-- The written form of a row: its cells with commas between them, then a line feed. A row that
would leave no trace is written as an empty quoted cell. -/
def Csv.writeRow (cells : List String) : List Char :=
  let written := cells.map fun cell => writeCell cell.toList
  let line := (written.intersperse [',']).flatten
  (if line.isEmpty then ['"', '"'] else line) ++ ['\n']

def Csv.text (rows : List (List String)) : String :=
  String.ofList (rows.flatMap writeRow)

/-- A writer of CSV: the bytes that it holds back, and the sink that gets them. -/
structure CsvWriter where
  held : ByteArray
  sink : Sink

def CsvWriter.capacity : Nat :=
  8192

def CsvWriter.flush : Act CsvWriter IoError Unit := do
  let writer ← get
  Act.zoom CsvWriter.sink (fun sink writer => { writer with sink }) (Sink.write writer.held)
  modify fun writer => { writer with held := .empty }

/-- Holds back a few bytes that stay together; those held before are delivered first if there is no
room for more. -/
def CsvWriter.push (bytes : List UInt8) : Act CsvWriter IoError Unit := do
  if capacity < (← get).held.size + bytes.length then flush
  modify fun writer => { writer with held := bytes.foldl ByteArray.push writer.held }

/-- The bytes of a cell in groups that stay together, which are the two quotes that stand for one
and every other byte by itself. The quote that closes a quoted cell is not among them. -/
def CsvWriter.cellGroups (cell : String) : List (List UInt8) :=
  let bytes := cell.toUTF8.data.toList
  if Csv.needsQuotes cell.toList then
    [34] :: bytes.map fun b => if b = 34 then [34, 34] else [b]
  else bytes.map fun b => [b]

/-- The quote that closes a cell, which is written together with what comes after the cell. -/
def CsvWriter.closing (cell : String) : List (List UInt8) :=
  if Csv.needsQuotes cell.toList then [[34]] else []

/-- The groups of bytes of the cells of a row, up to the end of the last one. -/
def CsvWriter.rowGroups : List String → List (List UInt8)
  | [] => []
  | [cell] => cellGroups cell
  | cell :: rest => cellGroups cell ++ closing cell ++ [44] :: rowGroups rest

/-- What ends a row. A row that left no trace so far gets a pair of quotes. -/
def CsvWriter.ending (cells : List String) : List (List UInt8) :=
  if (rowGroups cells).isEmpty then [[34, 34], [10]]
  else (cells.getLast?.map closing).getD [] ++ [[10]]

/-- Writes a row that has to have as many cells as the header. The cells are written before they
are counted, and the row is ended after that. -/
def CsvWriter.row (width : Nat) (cells : List String) : Act CsvWriter CsvError Unit := do
  Act.mapError .io ((rowGroups cells).forM push)
  if cells.length ≠ width then throw (.unequalLengths cells.length width)
  Act.mapError .io ((ending cells).forM push)

def CsvWriter.table (header : List String) (rows : List (List String)) :
    Act CsvWriter ExportError Unit := do
  Act.mapError .csv ((header :: rows).forM (row header.length))
  Act.mapError .io flush

/-- What a sink has once its writer is given up. The writer delivers what it still holds back, and
nobody hears of it if that fails. -/
def CsvWriter.release (writer : CsvWriter) : Sink :=
  (Act.from flush writer).2.sink

/-- Writes a table. The writer is given up in the end, also behind an error. -/
def Csv.write (header : List String) (rows : List (List String)) : Act Sink ExportError Unit :=
  ExceptT.mk fun sink =>
    let (outcome, writer) := Act.from (CsvWriter.table header rows) ⟨.empty, sink⟩
    (outcome, writer.release)

end RangeTest
