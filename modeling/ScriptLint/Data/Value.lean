namespace ScriptLint.Data

/-! Values of data files. -/

/-- What files may hold but no record here has a use for. -/
inductive Alien where
  /-- A number that is not natural, or not written as one. -/
  | number
  /-- A text, or a record with a key, that holds half of a character. -/
  | text
  | moment
  deriving DecidableEq, Inhabited, Repr

inductive Value where
  | null
  | bool (b : Bool)
  | natural (n : Nat)
  | text (s : String)
  | list (items : List Value)
  | record (members : List (String × Value))
  | alien (a : Alien)
  deriving Inhabited, Repr

namespace Value

mutual

def isPlain : Value → Bool
  | alien _ => false
  | list items => arePlain items
  | record members => membersArePlain members
  | _ => true

def arePlain : List Value → Bool
  | [] => true
  | v :: vs => v.isPlain && arePlain vs

def membersArePlain : List (String × Value) → Bool
  | [] => true
  | (_, v) :: ms => v.isPlain && membersArePlain ms

end

/-! ### Access -/

def text? : Value → Option String
  | text s => some s
  | _ => none

def bool? : Value → Option Bool
  | bool b => some b
  | _ => none

def naturalBelow? (limit : Nat) : Value → Option Nat
  | natural n => if n < limit then some n else none
  | _ => none

def list? : Value → Option (List Value)
  | list items => some items
  | _ => none

/-- None for null, and otherwise what `f` makes of the value. -/
def nullable? {α : Type} (f : Value → Option α) : Value → Option (Option α)
  | null => some none
  | v => (f v).map some

def listOf? {α : Type} (f : Value → Option α) (v : Value) : Option (List α) :=
  v.list?.bind fun items => items.mapM f

/-- One of some names, given as a text or as the key of a record that holds null. -/
def choice? {α : Type} (name : α → String) (all : List α) : Value → Option α
  | text s => all.find? fun a => name a == s
  | record [(s, null)] => all.find? fun a => name a == s
  | _ => none

/-! ### Records -/

/-- How the fields of records are given in a kind of file. -/
inductive Strictness where
  /-- A list in place of a record must not be longer than its fields. -/
  | exact
  /-- Whatever follows the fields in such a list is left out. -/
  | lenient
  deriving DecidableEq, Repr

def named (names : List String) (members : List (String × Value)) : List Value :=
  (members.filter fun m => names.contains m.1).map (·.2)

def atMostOne? : List Value → Option (Option Value)
  | [] => some none
  | [v] => some (some v)
  | _ => none

/-- The values of the fields of a record, each with all its names, in order. Other members
are left out; none of the fields may be given twice. A list gives the fields in their
order, and a point in time is a record of which no field is known. -/
def fields? (strictness : Strictness) (fields : List (List String)) : Value →
    Option (List (Option Value))
  | record members => fields.mapM fun names => atMostOne? (named names members)
  | list items =>
      if strictness = .exact && fields.length < items.length then none
      else some ((List.range fields.length).map fun i => items[i]?)
  | alien .moment => some (fields.map fun _ => none)
  | _ => none

def orDefault? {α : Type} (default : α) (f : Value → Option α) : Option Value → Option α
  | none => some default
  | some v => f v

end Value

end ScriptLint.Data
