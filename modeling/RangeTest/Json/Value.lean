import RangeTest.Decimal.Style

namespace RangeTest

/-- A value of JSON as far as summaries need it. -/
inductive Json where
  | null
  | natural (n : Nat)
  | float (x : Float)
  | text (s : String)
  | array (items : List Json)
  | object (members : List (String × Json))

/-- The escape of a character, where it needs one. -/
def Json.escape? (c : Char) : Option (List Char) :=
  if c = '"' then some ['\\', '"']
  else if c = '\\' then some ['\\', '\\']
  else if c = '\x08' then some ['\\', 'b']
  else if c = '\x0c' then some ['\\', 'f']
  else if c = '\n' then some ['\\', 'n']
  else if c = '\r' then some ['\\', 'r']
  else if c = '\t' then some ['\\', 't']
  else if c.toNat < 32 then
    some ['\\', 'u', '0', '0', Nat.digitChar (c.toNat / 16), Nat.digitChar (c.toNat % 16)]
  else none

/-- A text in quotes. -/
def Json.quote (s : String) : String :=
  String.ofList ('"' :: s.toList.flatMap (fun c => (escape? c).getD [c]) ++ ['"'])

/-- The beginning of a line at some depth. -/
def Json.newline (depth : Nat) : String :=
  String.ofList ('\n' :: List.replicate (2 * depth) ' ')

/-- Puts the parts of an array or object between its brackets, each on a line of its own. -/
def Json.enclose (opening closing : String) (depth : Nat) (parts : List (List String)) :
    List String :=
  if parts.isEmpty then [opening, closing]
  else
    let lines := parts.map (newline (depth + 1) :: ·)
    opening :: (lines.intersperse [","]).flatten ++ [newline depth, closing]

mutual

/-- The text of a value that begins at some depth, in the pieces in which it is written. -/
def Json.fragments (depth : Nat) : Json → List String
  | null => ["null"]
  | natural n => [toString n]
  | float x => [FloatText.json x]
  | text s => [quote s]
  | array items => enclose "[" "]" depth (itemFragments (depth + 1) items)
  | object members => enclose "\x7b" "\x7d" depth (memberFragments (depth + 1) members)

def Json.itemFragments (depth : Nat) : List Json → List (List String)
  | [] => []
  | item :: rest => fragments depth item :: itemFragments depth rest

def Json.memberFragments (depth : Nat) : List (String × Json) → List (List String)
  | [] => []
  | (name, value) :: rest =>
    (quote name :: ": " :: fragments depth value) :: memberFragments depth rest

end

end RangeTest
