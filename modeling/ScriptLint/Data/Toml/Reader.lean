import ScriptLint.Data.Toml.Scalar
import ScriptLint.Data.Toml.Table

namespace ScriptLint.Data.Toml

open Entries (Key)

/-! Reading TOML. -/

/-- How many levels of lists and tables, and how many parts of a key, are too many. -/
def maxDepth : Nat := 80

/-! ### Keys -/

def isBareKeyChar (c : Char) : Bool := c.isAlphanum || c == '-' || c == '_'

def readKeyPart (cs : List Char) : Option (String × List Char) :=
  match skipSpace cs with
  | '"' :: rest => (readBasic (rest.length + 1) rest).map finish
  | '\'' :: rest => (readLiteral rest).map finish
  | cs =>
      let name := cs.takeWhile isBareKeyChar
      if name.isEmpty then none else some (finish (name, cs.drop name.length))
where
  finish (part : List Char × List Char) : String × List Char :=
    (String.ofList part.1, skipSpace part.2)

def readKeyParts : Nat → List Char → Option (List String × List Char)
  | 0, _ => none
  | fuel + 1, cs =>
      match readKeyPart cs with
      | some (part, '.' :: rest) =>
          (readKeyParts fuel rest).map fun (parts, rest) => (part :: parts, rest)
      | some (part, rest) => some ([part], rest)
      | none => none

def readKey (cs : List Char) : Option (Key × List Char) :=
  match readKeyParts (cs.length + 1) cs with
  | some (parts, rest) =>
      if maxDepth ≤ parts.length then none
      else parts.getLast?.map fun name => (⟨parts.dropLast, name⟩, rest)
  | none => none

/-! ### Comments and line ends -/

def skipComment : List Char → List Char
  | '#' :: rest => rest.dropWhile isPlain
  | cs => cs

/-- What lies behind the end of a line, with blanks and a comment before it. -/
def endLine (cs : List Char) : Option (List Char) :=
  match skipComment (skipSpace cs) with
  | [] => some []
  | cs => newline? cs

def skipBetween : Nat → List Char → Option (List Char)
  | 0, cs => some cs
  | fuel + 1, cs =>
      match skipSpace cs with
      | '#' :: rest => (newline? (rest.dropWhile isPlain)).bind (skipBetween fuel)
      | '\n' :: rest => skipBetween fuel rest
      | '\r' :: rest => (newline? ('\r' :: rest)).bind (skipBetween fuel)
      | cs => some cs

/-! ### Values -/

mutual

/-- A value inside `depth` lists and tables. `fuel` bounds how much is read. -/
def readValue (depth : Nat) : Nat → List Char → Option (Value × List Char)
  | 0, _ => none
  | fuel + 1, cs =>
      match cs with
      | '"' :: _ => (readText cs).map fun (s, rest) => (.text (String.ofList s), rest)
      | '\'' :: _ => (readText cs).map fun (s, rest) => (.text (String.ofList s), rest)
      | '[' :: rest =>
          if maxDepth ≤ depth + 1 then none
          else (readItems (depth + 1) fuel rest).map fun (vs, rest) => (.list vs, rest)
      | '\x7b' :: rest =>
          if maxDepth ≤ depth + 1 then none
          else
            match skipSpace rest with
            | '\x7d' :: rest => some (.record [], rest)
            | rest =>
                match readPairs (depth + 1) fuel rest with
                | some (pairs, rest) =>
                    (Entries.addValues [] pairs).map fun es =>
                      (.record (Item.entriesToMembers es), rest)
                | none => none
      | 't' :: 'r' :: 'u' :: 'e' :: rest => some (.bool true, rest)
      | 'f' :: 'a' :: 'l' :: 's' :: 'e' :: rest => some (.bool false, rest)
      | cs => readNumberOrMoment cs

def readItems (depth : Nat) : Nat → List Char → Option (List Value × List Char)
  | 0, _ => none
  | fuel + 1, cs =>
      match skipBetween cs.length cs with
      | none => none
      | some (']' :: rest) => some ([], rest)
      | some cs =>
          match readValue depth fuel cs with
          | none => none
          | some (v, rest) =>
              match skipBetween rest.length rest with
              | some (',' :: rest) =>
                  (readItems depth fuel rest).map fun (vs, rest) => (v :: vs, rest)
              | some (']' :: rest) => some ([v], rest)
              | _ => none

/-- The keys and values of a table on one line up to its closing brace, at least one. -/
def readPairs (depth : Nat) : Nat → List Char → Option (List (Key × Value) × List Char)
  | 0, _ => none
  | fuel + 1, cs =>
      match readKey cs with
      | some (key, '=' :: rest) =>
          match readValue depth fuel (skipSpace rest) with
          | none => none
          | some (v, rest) =>
              match skipSpace rest with
              | ',' :: rest =>
                  (readPairs depth fuel rest).map fun (ps, rest) => ((key, v) :: ps, rest)
              | '\x7d' :: rest => some ([(key, v)], rest)
              | _ => none
      | _ => none

end

/-! ### Documents -/

inductive Header where
  | table (key : Key)
  | tables (key : Key)

structure Section where
  header : Header
  pairs : List (Key × Value)

def readHeader : List Char → Option (Header × List Char)
  | '[' :: '[' :: rest =>
      match readKey rest with
      | some (key, ']' :: ']' :: rest) => (endLine rest).map (.tables key, ·)
      | _ => none
  | '[' :: rest =>
      match readKey rest with
      | some (key, ']' :: rest) => (endLine rest).map (.table key, ·)
      | _ => none
  | _ => none

def readPair (cs : List Char) : Option ((Key × Value) × List Char) :=
  match readKey cs with
  | some (key, '=' :: rest) =>
      match readValue 0 (2 * rest.length + 2) (skipSpace rest) with
      | some (v, rest) => (endLine rest).map ((key, v), ·)
      | none => none
  | _ => none

/-- The pairs before the first header, and the sections. -/
def readSections : Nat → List Char → Option (List (Key × Value) × List Section)
  | 0, _ => none
  | fuel + 1, cs =>
      match skipSpace cs with
      | [] => some ([], [])
      | '[' :: rest =>
          match readHeader ('[' :: rest) with
          | some (header, rest) =>
              (readSections fuel rest).map fun (pairs, sections) =>
                ([], ⟨header, pairs⟩ :: sections)
          | none => none
      | c :: rest =>
          if c == '#' || c == '\n' || c == '\r' then
            (endLine (c :: rest)).bind (readSections fuel)
          else
            match readPair (c :: rest) with
            | some (pair, rest) =>
                (readSections fuel rest).map fun (pairs, sections) =>
                  (pair :: pairs, sections)
            | none => none

def addSection (es : Entries) (s : Section) : Option Entries :=
  match s.header with
  | .table key => es.addTable key s.pairs
  | .tables key => es.addToTables key s.pairs

/-- The value that a text is the TOML of; a byte order mark before it is left out. -/
def ofText? (cs : List Char) : Option Value := do
  let cs := match cs with
    | '\uFEFF' :: rest => rest
    | cs => cs
  let (pairs, sections) ← readSections (cs.length + 1) cs
  let root ← Entries.addValues [] pairs
  let es ← sections.foldlM addSection root
  return .record (Item.entriesToMembers es)

end ScriptLint.Data.Toml
