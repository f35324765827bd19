namespace RangeTest

/-- Where a reader of CSV stands: the text of the open cell, whether it is quoted, the cells before
it in its row and the rows before that, the latest first. -/
structure CsvCursor where
  rows : List (List String)
  cells : List String
  cell : List Char

def CsvCursor.endCell (k : CsvCursor) : CsvCursor :=
  { k with cells := String.ofList k.cell.reverse :: k.cells, cell := [] }

def CsvCursor.endRow (k : CsvCursor) : CsvCursor :=
  let closed := k.endCell
  { rows := closed.cells.reverse :: closed.rows, cells := [], cell := [] }

def CsvCursor.push (k : CsvCursor) (c : Char) : CsvCursor :=
  { k with cell := c :: k.cell }

/-- Where a character stands that is about to be read. -/
inductive CsvPlace where
  | cellStart
  | plain
  | quoted
  deriving DecidableEq, Repr

/-- Reads the rest of a table. Inside of quotes two quotes stand for one and every other character
for itself; a quote that opens no cell is refused, and so is a quoted cell that is not closed or
goes on after its closing quote. -/
def Csv.readFrom (k : CsvCursor) : CsvPlace → List Char → Option (List (List String))
  | .cellStart, [] => some (if k.cells.isEmpty then k.rows else k.endRow.rows).reverse
  | .plain, [] => some k.endRow.rows.reverse
  | .quoted, [] => none
  | .quoted, '"' :: '"' :: rest => readFrom (k.push '"') .quoted rest
  | .quoted, ['"'] => some k.endRow.rows.reverse
  | .quoted, '"' :: ',' :: rest => readFrom k.endCell .cellStart rest
  | .quoted, '"' :: '\n' :: rest => readFrom k.endRow .cellStart rest
  | .quoted, '"' :: '\r' :: '\n' :: rest => readFrom k.endRow .cellStart rest
  | .quoted, '"' :: _ :: _ => none
  | .quoted, c :: rest => readFrom (k.push c) .quoted rest
  | .cellStart, '"' :: rest => readFrom k .quoted rest
  | .plain, '"' :: _ => none
  | _, ',' :: rest => readFrom k.endCell .cellStart rest
  | _, '\n' :: rest => readFrom k.endRow .cellStart rest
  | _, '\r' :: '\n' :: rest => readFrom k.endRow .cellStart rest
  | _, '\r' :: _ => none
  | _, c :: rest => readFrom (k.push c) .plain rest

/-- Reads a table: rows end at a line feed or at carriage return and line feed, commas part the
cells, and double quotes may stand around a cell. -/
def Csv.read? (text : String) : Option (List (List String)) :=
  readFrom ⟨[], [], []⟩ .cellStart text.toList

end RangeTest
