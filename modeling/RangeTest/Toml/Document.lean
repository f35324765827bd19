import RangeTest.Toml.Reader
import RangeTest.Toml.Tree

namespace RangeTest

namespace Toml

/-- A table in braces. Its keys may have points, and none may be set twice. -/
def inlineTable (pairs : List (List String × Toml)) : Option Toml := do
  let entries ← pairs.foldlM (fun entries (path, value) => Entries.assign path value entries) []
  return .table (entryValues entries)

/-- A value. Arrays and tables in braces nest to a limited depth. -/
def value : Nat → Scan Toml
  | 0 => do
    match quoted? (← get) with
    | some (text, rest) =>
      set rest
      return string (String.ofList text)
    | none => bareValue
  | depth + 1 => do
    match ← get with
    | '[' :: rest =>
      set rest
      return array (← items (value depth) (rest.length + 1))
    | '\x7b' :: rest =>
      set rest
      spaces
      if (← peek?) = some '\x7d' then
        skip
        return table []
      inlineTable (← pairs (value depth) (rest.length + 1))
    | s =>
      match quoted? s with
      | some (text, rest) =>
        set rest
        return string (String.ofList text)
      | none => bareValue

/-- A document that was read up to some line, and the heading that its next keys belong to. -/
structure Progress where
  entries : Entries
  heading : List String

/-- Reads a heading with one pair of brackets or two, or a key with its value. -/
def statement (progress : Progress) : Scan Progress := do
  match ← get with
  | '[' :: '[' :: rest =>
    set rest
    let heading ← key
    expect ']'
    expect ']'
    lineEnd
    return ⟨← progress.entries.openSeries heading, heading⟩
  | '[' :: rest =>
    set rest
    let heading ← key
    expect ']'
    lineEnd
    return ⟨← progress.entries.openTable heading, heading⟩
  | _ =>
    let path ← key
    expect '='
    spaces
    let entry ← value maxDepth
    lineEnd
    return { progress with
      entries := ← progress.entries.assignUnder progress.heading path entry }

/-- Reads statements to the end of the text. There is one round for each. -/
def statements (progress : Progress) : Nat → Scan Progress
  | 0 => failure
  | rounds + 1 => do
    filler
    if (← get).isEmpty then return progress
    statements (← statement progress) rounds

/-- Reads a document, which is a table; a byte order mark in front of it does not matter. -/
def read? (content : String) : Option (List (String × Toml)) := do
  let text := match content.toList with
    | '\uFEFF' :: rest => rest
    | s => s
  let progress ← (statements ⟨[], []⟩ (text.length + 1)).run' text
  return entryValues progress.entries

end Toml

end RangeTest
