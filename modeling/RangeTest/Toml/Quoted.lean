import RangeTest.Numeral
import RangeTest.Toml.Value

namespace RangeTest

/-- Reads what is left of a quoted text and returns it with what follows the closing quotes. -/
abbrev Toml.Tail := List Char → Option (List Char × List Char)

/-- Puts characters in front of the text that a reader returns. -/
def Toml.cons (front : List Char) (tail : Option (List Char × List Char)) :
    Option (List Char × List Char) :=
  tail.map fun (text, rest) => (front ++ text, rest)

/-- The character that a backslash and a letter stand for. -/
def Toml.escaped? : Char → Option Char
  | 'b' => some '\x08'
  | 't' => some '\t'
  | 'n' => some '\n'
  | 'f' => some '\x0c'
  | 'r' => some '\r'
  | '"' => some '"'
  | '\\' => some '\\'
  | _ => none

/-- The character with a hexadecimal number. -/
def Toml.scalar? (digits : List Char) : Option Char :=
  match Numeral.hex? digits with
  | some n => if n.isValidChar then some (Char.ofNat n) else none
  | none => none

/-- A text between double quotes, in which a backslash begins an escape. -/
def Toml.basic : Tail
  | [] => none
  | '"' :: rest => some ([], rest)
  | '\\' :: 'u' :: a :: b :: c :: d :: rest => do
    let char ← scalar? [a, b, c, d]
    cons [char] (basic rest)
  | '\\' :: 'U' :: a :: b :: c :: d :: e :: f :: g :: h :: rest => do
    let char ← scalar? [a, b, c, d, e, f, g, h]
    cons [char] (basic rest)
  | '\\' :: letter :: rest => do
    let char ← escaped? letter
    cons [char] (basic rest)
  | c :: rest => if isPrintable c && c != '\\' then cons [c] (basic rest) else none

/-- A text between single quotes, in which every character stands for itself. -/
def Toml.literal : Tail
  | [] => none
  | '\'' :: rest => some ([], rest)
  | c :: rest => if isPrintable c then cons [c] (literal rest) else none

/-- What a reader of a text of many lines is about to do. -/
inductive Toml.Phase where
  | text
  /-- A backslash stands at the end of the line, so only blanks may follow on it. -/
  | lineEnd
  /-- Blanks and line ends after such a line do not count. -/
  | margin
  deriving DecidableEq

/-- A text between triple double quotes. Up to two quotes may stand before the closing ones. -/
def Toml.basicLines : Phase → Tail
  | _, [] => none
  | .lineEnd, '\n' :: rest => basicLines .margin rest
  | .lineEnd, '\r' :: '\n' :: rest => basicLines .margin rest
  | .lineEnd, c :: rest => if isSpace c then basicLines .lineEnd rest else none
  | .margin, '\n' :: rest => basicLines .margin rest
  | .margin, '\r' :: '\n' :: rest => basicLines .margin rest
  | .margin, ' ' :: rest => basicLines .margin rest
  | .margin, '\t' :: rest => basicLines .margin rest
  | _, '"' :: '"' :: '"' :: '"' :: '"' :: rest => some (['"', '"'], rest)
  | _, '"' :: '"' :: '"' :: '"' :: rest => some (['"'], rest)
  | _, '"' :: '"' :: '"' :: rest => some ([], rest)
  | _, '\n' :: rest => cons ['\n'] (basicLines .text rest)
  | _, '\r' :: '\n' :: rest => cons ['\n'] (basicLines .text rest)
  | _, '\\' :: '\n' :: rest => basicLines .margin rest
  | _, '\\' :: '\r' :: '\n' :: rest => basicLines .margin rest
  | _, '\\' :: ' ' :: rest => basicLines .lineEnd rest
  | _, '\\' :: '\t' :: rest => basicLines .lineEnd rest
  | _, '\\' :: 'u' :: a :: b :: c :: d :: rest => do
    let char ← scalar? [a, b, c, d]
    cons [char] (basicLines .text rest)
  | _, '\\' :: 'U' :: a :: b :: c :: d :: e :: f :: g :: h :: rest => do
    let char ← scalar? [a, b, c, d, e, f, g, h]
    cons [char] (basicLines .text rest)
  | _, '\\' :: letter :: rest => do
    let char ← escaped? letter
    cons [char] (basicLines .text rest)
  | _, c :: rest =>
    if isPrintable c && c != '\\' then cons [c] (basicLines .text rest) else none

/-- A text between triple single quotes. Up to two quotes may stand before the closing ones. -/
def Toml.literalLines : Tail
  | [] => none
  | '\'' :: '\'' :: '\'' :: '\'' :: '\'' :: rest => some (['\'', '\''], rest)
  | '\'' :: '\'' :: '\'' :: '\'' :: rest => some (['\''], rest)
  | '\'' :: '\'' :: '\'' :: rest => some ([], rest)
  | '\r' :: '\n' :: rest => cons ['\n'] (literalLines rest)
  | c :: rest =>
    if isPrintable c || c == '\n' then cons [c] (literalLines rest) else none

/-- Drops the line end right after opening quotes. -/
def Toml.afterOpening : List Char → List Char
  | '\n' :: rest => rest
  | '\r' :: '\n' :: rest => rest
  | s => s

/-- A text in quotes on one line. -/
def Toml.quotedLine? : Tail
  | '"' :: rest => basic rest
  | '\'' :: rest => literal rest
  | _ => none

/-- A text in quotes of any kind. -/
def Toml.quoted? : Tail
  | '"' :: '"' :: '"' :: rest => basicLines .text (afterOpening rest)
  | '\'' :: '\'' :: '\'' :: rest => literalLines (afterOpening rest)
  | s => quotedLine? s

end RangeTest
