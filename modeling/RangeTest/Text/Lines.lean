import RangeTest.Stream

namespace RangeTest

/-- A line as a reader meets it: its text with the terminator, or why it cannot be read. -/
abbrev RawLine := Except IoError String

/-- Puts a byte in front of lines that are already split. A line feed ends a line, so what follows
it begins the next one. -/
def Text.consByte (b : UInt8) (lines : List (List UInt8)) : List (List UInt8) :=
  if b = 10 then [b] :: lines
  else match lines with
    | [] => [[b]]
    | line :: rest => (b :: line) :: rest

/-- The lines of a stream of bytes, each with the line feed that ends it. The last line may lack
one. -/
def Text.byteLines (bytes : List UInt8) : List (List UInt8) :=
  bytes.foldr consByte []

/-- Reads one line. Bytes that are not UTF-8 spoil their own line only. -/
def Text.decodeLine (bytes : List UInt8) : RawLine :=
  match String.fromUTF8? bytes.toByteArray with
  | some text => .ok text
  | none => .error .invalidUtf8

/-- The lines a reader finds in some content. -/
def Text.rawLines (content : ByteArray) : List RawLine :=
  (byteLines content.data.toList).map decodeLine

/-- Puts a character in front of lines that are already split; line feeds are dropped. -/
def Text.consChar (c : Char) (lines : List (List Char)) : List (List Char) :=
  if c = '\n' then [] :: lines else lines.modifyHead (c :: ·)

/-- The lines of a text, which stand between one line feed and the next. -/
def Text.lines (s : List Char) : List (List Char) :=
  s.foldr consChar [[]]

end RangeTest
