import ScriptLint.Check.Basic

namespace ScriptLint

/-! What a node is to the checks, by its kind. -/

namespace Script.Node

variable {source : List Char} {n : Node} {entryName : String}

theorem construct_declarator (source : List Char) (hn : n.kind = .variableDeclarator) :
    n.construct source = .other ∨ ∃ name, n.construct source = .binding name := by
  simp only [construct, hn]
  cases n.child? .name with
  | none => exact .inl rfl
  | some b =>
      by_cases hb : b.kind = .identifier
      · exact .inr ⟨b.name source, by simp [hb]⟩
      · exact .inl (by simp [hb])

theorem construct_eq_function_iff :
    n.construct source = .function ↔ n.kind = .functionDeclaration := by
  cases hk : n.kind with
  | variableDeclarator =>
      rcases construct_declarator source hk with h | ⟨name, h⟩ <;> simp [h]
  | _ => simp [construct, hk]

theorem construct_eq_return_iff :
    n.construct source = .return ↔ n.kind = .returnStatement := by
  cases hk : n.kind with
  | variableDeclarator =>
      rcases construct_declarator source hk with h | ⟨name, h⟩ <;> simp [h]
  | _ => simp [construct, hk]

def IsModule (n : Node) : Prop := n.kind = .importStatement ∨ n.kind = .exportStatement

theorem construct_eq_module_iff : n.construct source = .module ↔ n.IsModule := by
  unfold IsModule
  cases hk : n.kind with
  | variableDeclarator =>
      rcases construct_declarator source hk with h | ⟨name, h⟩ <;> simp [h]
  | _ => simp [construct, hk]

def IsJsx (n : Node) : Prop := ∃ name, n.kind = .jsx name

theorem construct_eq_jsx_iff : n.construct source = .jsx ↔ n.IsJsx := by
  unfold IsJsx
  cases hk : n.kind with
  | variableDeclarator =>
      rcases construct_declarator source hk with h | ⟨name, h⟩ <;> simp [h]
  | _ => simp [construct, hk]

theorem IsJsx.isNamed (hn : n.IsJsx) : n.isNamed = true := by
  obtain ⟨name, hk⟩ := hn
  rw [Node.isNamed, hk]
  rfl

/-- A declaration of a function with a name. Generators, function expressions and variables
that hold functions are none. -/
def Declares (source : List Char) (entryName : String) (n : Node) : Prop :=
  n.kind = .functionDeclaration ∧ ∃ b, n.child? .name = some b ∧ b.name source = entryName

theorem isDeclaration_iff :
    Entry.isDeclaration source entryName n = true ↔ n.Declares source entryName := by
  simp [Entry.isDeclaration, Declares, construct_eq_function_iff, functionName?]

end Script.Node

open ScriptLint.Script

theorem Context.function?_eq_none_iff {s : Script} {entryName : String}
    {outputs : List Socket} {inputs : Option (List Socket)} :
    (Context.ofScript s entryName outputs inputs).function? = none ↔
      ∀ n ∈ s.topLevel, ¬ n.Declares s.source entryName := by
  simp only [function?, Entry.function?, ofScript, Entry.locate, List.getLast?_eq_none_iff,
    List.filter_eq_nil_iff, Node.isDeclaration_iff]

end ScriptLint
