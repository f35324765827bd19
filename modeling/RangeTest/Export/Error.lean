import RangeTest.Stream

namespace RangeTest

inductive CsvError where
  | io (cause : IoError)
  /-- A row is not as long as the header. -/
  | unequalLengths (found expected : Nat)
  deriving DecidableEq, Repr

def CsvError.message : CsvError → String
  | io cause => cause.message
  | unequalLengths found expected =>
    s!"CSV error: found record with {found} fields, " ++
      s!"but the previous record has {expected} fields"

inductive ExportError where
  | missingNodeInfo (address : String)
  | missingLineOfSight (idA idB : String)
  | invalidCrcPoly (text : String)
  | io (cause : IoError)
  | csv (cause : CsvError)
  | json (cause : IoError)
  deriving DecidableEq, Repr

/-- The text of the error behind this one, where there is one. -/
def ExportError.cause? : ExportError → Option String
  | io cause => some cause.message
  | csv cause => some cause.message
  | json cause => some cause.message
  | _ => none

def ExportError.message : ExportError → String
  | missingNodeInfo address => s!"No node-info entry for link address {address}"
  | missingLineOfSight idA idB => s!"No los-info entry for nodes {idA} and {idB}"
  | invalidCrcPoly text => s!"CRC polynomial is not hexadecimal: '{text}'"
  | io cause => s!"I/O error: {cause.message}"
  | csv cause => s!"CSV error: {cause.message}"
  | json cause => s!"JSON error: {cause.message}"

end RangeTest
