import RangeTest.Act

namespace RangeTest

/-- What can go wrong outside the program when it opens, reads or writes. -/
inductive IoError where
  | notFound
  | notADirectory
  | isADirectory
  | nameTooLong
  | nulInName
  | invalidUtf8
  | writerFull
  deriving DecidableEq, Repr

/-- The text shown for an error, with the number the system gives it where it has one. -/
def IoError.message : IoError → String
  | notFound => "No such file or directory (os error 2)"
  | notADirectory => "Not a directory (os error 20)"
  | isADirectory => "Is a directory (os error 21)"
  | nameTooLong => "File name too long (os error 36)"
  | nulInName => "file name contained an unexpected NUL byte"
  | invalidUtf8 => "stream did not contain valid UTF-8"
  | writerFull => "writer full"

/-- Where output goes. It may hold a limited number of bytes only. -/
structure Sink where
  capacity : Option Nat
  delivered : ByteArray

def Sink.ofCapacity (capacity : Option Nat) : Sink where
  capacity
  delivered := .empty

def Sink.unlimited : Sink :=
  ofCapacity none

def Sink.fits (sink : Sink) (size : Nat) : Bool :=
  match sink.capacity with
  | none => true
  | some capacity => sink.delivered.size + size ≤ capacity

/-- Delivers some bytes, or none of them where not all of them fit. -/
def Sink.write (bytes : ByteArray) : Act Sink IoError Unit := do
  let sink ← get
  if sink.fits bytes.size then set { sink with delivered := sink.delivered ++ bytes }
  else throw .writerFull

/-- Delivers fragments of a text one after the other, up to the first that does not fit. -/
def Sink.writeAll (fragments : List String) : Act Sink IoError Unit :=
  fragments.forM fun fragment => write fragment.toUTF8

def Sink.text (sink : Sink) : String :=
  (String.fromUTF8? sink.delivered).getD ""

end RangeTest
