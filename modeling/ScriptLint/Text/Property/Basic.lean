import ScriptLint.Text.CharSet
import ScriptLint.Text.Property.Binary
import ScriptLint.Text.Property.Category
import ScriptLint.Text.Property.Script

namespace ScriptLint.Text.Property

/-! Looking up characters in tables. Names are compared without case, spaces, hyphens and
low lines, and an `is` before a name is left out. -/

def hexDigit (c : Char) : Nat :=
  if c.isDigit then c.toNat - '0'.toNat else c.toNat - 'a'.toNat + 10

/-- One run: the distance from the run before it, and how many characters it has after the
first. -/
def readRun (digits : List Char) : Nat × Nat :=
  go 0 digits
where
  go (n : Nat) : List Char → Nat × Nat
    | [] => (n, 0)
    | c :: cs => if c = '.' then (n, (go 0 cs).1) else go (16 * n + hexDigit c) cs

def rangesOf (next : Nat) : List (List Char) → List (Nat × Nat)
  | [] => []
  | digits :: rest =>
      let (gap, more) := readRun digits
      (next + gap, next + gap + more) :: rangesOf (next + gap + more + 1) rest

def parts (word : List Char) : List Char → List (List Char)
  | [] => flush word []
  | c :: cs =>
      if c = ' ' || c = '\n' then flush word (parts [] cs) else parts (c :: word) cs
where
  flush (word : List Char) (rest : List (List Char)) : List (List Char) :=
    if word.isEmpty then rest else word.reverse :: rest

def ofEntry (entry : String) : CharSet := ⟨rangesOf 0 (parts [] entry.toList)⟩

def charsOf? (table : List (List String × String)) (n : String) : Option CharSet :=
  (table.find? fun e => e.1.contains n).map (ofEntry ·.2)

/-- The name as tables hold it. `isc` keeps its first letters, or it would be the category
`c`. -/
def normalize (n : String) : String :=
  let cs := n.toList
  let (stripped, rest) := match cs with
    | a :: b :: rest => if a.toLower = 'i' && b.toLower = 's' then (true, rest) else (false, cs)
    | _ => (false, cs)
  let kept := (rest.filter fun c => c.toNat < 128 && !(c == ' ' || c == '_' || c == '-')).map
    Char.toLower
  String.ofList (if stripped && kept == ['c'] then ['i', 's', 'c'] else kept)

def assigned : CharSet :=
  categories.foldl (fun s e => s.union (ofEntry e.2)) (.range 0xD800 0xDFFF)

def category? (n : String) : Option CharSet :=
  match n with
  | "any" => some .all
  | "ascii" => some (.range 0 0x7F)
  | "assigned" => some assigned
  | "cn" | "unassigned" => some assigned.complement
  | "c" | "other" =>
      some (["cc", "cf", "co"].foldl (fun s k => s.union ((charsOf? categories k).getD .empty))
        assigned.complement)
  | _ =>
      match categoryGroups.find? fun e => e.1.contains n with
      | some (_, parts) =>
          some (parts.foldl (fun s k => s.union ((charsOf? categories k).getD .empty)) .empty)
      | none => charsOf? categories n

def binary? (n : String) : Option CharSet := charsOf? binaries n

def script? (n : String) : Option CharSet := charsOf? scripts n

def extendedScript? (n : String) : Option CharSet :=
  charsOf? scriptExtensions n <|> script? n

end ScriptLint.Text.Property
