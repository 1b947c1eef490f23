import ScriptLint.Data.Value

namespace ScriptLint.Data.Toml

/-! Tables under construction. A table is made by a header of its own, by a header of a
table inside it, or by a dotted key; each of these says what may still be added to it. -/

inductive Item where
  | value (v : Value)
  /-- `implicit` tables have had no header yet, and `dotted` ones come from dotted keys. -/
  | table (implicit dotted : Bool) (entries : List (String × Item))
  | tables (all : List (List (String × Item)))
  deriving Inhabited

abbrev Entries := List (String × Item)

namespace Item

mutual

def toValue : Item → Value
  | value v => v
  | table _ _ entries => .record (entriesToMembers entries)
  | tables all => .list (tablesToRecords all)

def entriesToMembers : List (String × Item) → List (String × Value)
  | [] => []
  | (k, i) :: rest => (k, i.toValue) :: entriesToMembers rest

def tablesToRecords : List (List (String × Item)) → List Value
  | [] => []
  | t :: ts => .record (entriesToMembers t) :: tablesToRecords ts

end

end Item

namespace Entries

def get? (es : Entries) (key : String) : Option Item := es.lookup key

/-- The entries with the item of a key replaced, or added at the end. -/
def put (es : Entries) (key : String) (item : Item) : Entries :=
  if (es.get? key).isSome then es.map fun e => if e.1 == key then (key, item) else e
  else es ++ [(key, item)]

/-- Changes the table that a path leads to, and makes the tables on the way that are not
there. `dotted` tells the path of a dotted key from that of a header, and `f` learns
whether the table comes from a dotted key. A dotted key does not lead into a table with a
header. -/
def modifyAt (dotted : Bool) (f : Bool → Entries → Option Entries) :
    List String → Bool → Entries → Option Entries
  | [], isDotted, es => f isDotted es
  | key :: path, _, es =>
      match es.get? key with
      | none =>
          (modifyAt dotted f path dotted []).map fun inner =>
            es.put key (.table true dotted inner)
      | some (.value _) => none
      | some (.table implicit isDotted inner) =>
          if dotted && !implicit then none
          else (modifyAt dotted f path isDotted inner).map fun inner =>
            es.put key (.table implicit isDotted inner)
      | some (.tables all) =>
          match all.getLast? with
          | some last => (modifyAt dotted f path false last).map fun last =>
              es.put key (.tables (all.dropLast ++ [last]))
          | none => none

/-- A key with all its parts: the path to a table and the name in it. -/
structure Key where
  path : List String
  name : String
  deriving Repr

def addValue (es : Entries) (key : Key) (v : Value) : Option Entries :=
  modifyAt true
    (fun isDotted inner =>
      if isDotted == key.path.isEmpty || (inner.get? key.name).isSome then none
      else some (inner.put key.name (.value v)))
    key.path false es

def addValues (es : Entries) (pairs : List (Key × Value)) : Option Entries :=
  pairs.foldlM (fun es p => es.addValue p.1 p.2) es

def addTable (es : Entries) (key : Key) (pairs : List (Key × Value)) : Option Entries :=
  modifyAt false
    (fun _ parent =>
      let start? : Option Entries := match parent.get? key.name with
        | none => some []
        | some (.table true false inner) => some inner
        | some _ => none
      (start?.bind (addValues · pairs)).map fun inner =>
        parent.put key.name (.table false false inner))
    key.path false es

def addToTables (es : Entries) (key : Key) (pairs : List (Key × Value)) : Option Entries :=
  modifyAt false
    (fun _ parent =>
      let before? : Option (List Entries) := match parent.get? key.name with
        | none => some []
        | some (.tables all) => some all
        | some _ => none
      match before?, addValues [] pairs with
      | some before, some inner => some (parent.put key.name (.tables (before ++ [inner])))
      | _, _ => none)
    key.path false es

end Entries

end ScriptLint.Data.Toml
