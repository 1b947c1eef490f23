import ScriptLint.Script.Grammar
import ScriptLint.Script.Node
import ScriptLint.Parse.Run

namespace ScriptLint.Script

open ScriptLint.Grammar ScriptLint.Parse

/-! Reading a script: the tree that the parser builds, with its hidden rules left out. -/

namespace Node

mutual

/-- The nodes that a subtree leaves in the tree: one, or those below it if it is hidden. -/
def ofSubtree (table : Table) (text : Input) (rename : Option Alias)
    (role : Option String) :
    Subtree → List Node
  | .node f cs =>
      let layout : Layout := match f.layout with
        | some l => table.layouts.getD l #[]
        | none => #[]
      let kind : Kind := match rename, f.label with
        | some a, _ => .ofName a.name a.named
        | none, .symbol s => .ofName (table.grammar.info s).name (table.isNamed s)
        | none, _ => .error
      if f.label == .symbol 0 then []
      else if rename.isSome || f.visible then
        [.mk kind (role.map Role.ofName) (text.mark f.start) (text.mark f.stop).byte
          f.missing (ofSubtrees table text layout none 0 cs.toList)]
      else ofSubtrees table text layout role 0 cs.toList
termination_by t => sizeOf t
decreasing_by
  all_goals
    simp
    have : sizeOf cs.toList < sizeOf cs := by cases cs; simp
    omega

/-- The nodes of children in order. A child without a role of its own takes that of its
hidden parent; comments and other extras have none. -/
def ofSubtrees (table : Table) (text : Input) (layout : Layout) (inherited : Option String)
    (index : Nat) : List Subtree → List Node
  | [] => []
  | c :: cs =>
      let extra := c.facts.extra
      let (rename, role) := layout.getD index (none, none)
      (if extra then ofSubtree table text none none c
        else ofSubtree table text rename (role <|> inherited) c)
        ++ ofSubtrees table text layout inherited (if extra then index else index + 1) cs
termination_by ts => sizeOf ts

end

end Node

structure Tree where
  root : Node
  flawed : Bool
  deriving Inhabited

/-- The tables of the grammar. They take a moment to build, so they are built once and
shared. -/
@[noinline] def buildTable (_ : Unit) : Table := .ofGrammar grammar

def table : Thunk Table := .mk buildTable

def Tree.ofSource (source : List Char) : Tree :=
  let text : Input := .ofChars source
  let t := parse table.get text
  { root := (Node.ofSubtree table.get text none none t).headD default
    flawed := t.cost > 0 }

end ScriptLint.Script
