import Mathlib.Data.List.Pairwise
import ScriptLint.Proofs.Script.Blame
import ScriptLint.Proofs.Script.Place

namespace ScriptLint.Script

open ScriptLint.Text

/-! How the nodes of a tree lie in its text, and what this says of nodes that start at one
place. -/

namespace Node

variable {root n c d t : Node} {P : Node → Prop}

/-- Children lie in their parents, one behind the other. -/
@[mk_iff]
structure Laid (root : Node) : Prop where
  forward : ∀ n ∈ root.preorderAll, n.start.byte ≤ n.stop
  inside : ∀ n ∈ root.preorderAll, ∀ c ∈ n.children,
    n.start.byte ≤ c.start.byte ∧ c.stop ≤ n.stop
  ordered : ∀ n ∈ root.preorderAll, n.children.Pairwise fun c d => c.stop ≤ d.start.byte

/-- Whether a node is a name that is written as such. -/
def IsWord (n : Node) : Prop := n.kind = .identifier ∨ n.kind = .shorthandPattern

def IsAccess (n : Node) : Prop :=
  n.kind = .memberExpression ∨ n.kind = .subscriptExpression

/-- Whether a node calls what it declares by a name. -/
def IsNaming (n : Node) : Prop :=
  n.kind = .classDeclaration ∨ n.kind = .functionDeclaration ∨
    n.kind = .generatorFunctionDeclaration

/-- What the grammar makes of words: each has text and nothing inside, an access begins
with its object, a return statement with its keyword, and declarations are called by
words. -/
@[mk_iff]
structure Worded (root : Node) : Prop where
  bare : root.TokensBare
  texts : ∀ n ∈ root.preorderAll, n.isNamed = false ∨ n.IsWord → n.start.byte < n.stop
  words : ∀ n ∈ root.preorderAll, n.IsWord → n.namedChildren = []
  accesses : ∀ n ∈ root.preorderAll, n.IsAccess → n.children.head?.bind role = some .object
  returns : ∀ n ∈ root.preorderAll, n.kind = .returnStatement →
    n.children.head?.map isNamed = some false
  names : ∀ n ∈ root.preorderAll, n.IsNaming → ∀ b ∈ n.child? .name, b.kind = .identifier

instance : DecidablePred IsWord := fun n =>
  inferInstanceAs (Decidable (n.kind = Kind.identifier ∨ n.kind = Kind.shorthandPattern))

instance : DecidablePred IsAccess := fun n =>
  inferInstanceAs
    (Decidable (n.kind = Kind.memberExpression ∨ n.kind = Kind.subscriptExpression))

instance : DecidablePred IsNaming := fun n =>
  inferInstanceAs
    (Decidable (n.kind = Kind.classDeclaration ∨ n.kind = Kind.functionDeclaration ∨
      n.kind = Kind.generatorFunctionDeclaration))

instance : DecidablePred Laid := fun n => decidable_of_iff _ n.laid_iff.symm

instance : DecidablePred TokensBare := fun n =>
  inferInstanceAs (Decidable (∀ t ∈ n.preorderAll, t.isNamed = false →
    ∀ d ∈ t.preorderAll, d.isNamed = false))

instance : DecidablePred Worded := fun n => decidable_of_iff _ n.worded_iff.symm

theorem Laid.of_mem (h : root.Laid) (hn : n ∈ root.preorderAll) : n.Laid where
  forward d hd := h.forward d (mem_preorderAll_trans hd hn)
  inside d hd := h.inside d (mem_preorderAll_trans hd hn)
  ordered d hd := h.ordered d (mem_preorderAll_trans hd hn)

theorem Worded.of_mem (h : root.Worded) (hn : n ∈ root.preorderAll) : n.Worded where
  bare d hd := h.bare d (mem_preorderAll_trans hd hn)
  texts d hd := h.texts d (mem_preorderAll_trans hd hn)
  words d hd := h.words d (mem_preorderAll_trans hd hn)
  accesses d hd := h.accesses d (mem_preorderAll_trans hd hn)
  returns d hd := h.returns d (mem_preorderAll_trans hd hn)
  names d hd := h.names d (mem_preorderAll_trans hd hn)

theorem IsWord.isNamed (h : n.IsWord) : n.isNamed = true := by
  obtain hk | hk := h
  · rw [Node.isNamed, hk]
    rfl
  · rw [Node.isNamed, hk]
    rfl

/-! ### Places below a node -/

theorem Laid.within (h : n.Laid) (hd : d ∈ n.preorderAll) :
    n.start.byte ≤ d.start.byte ∧ d.stop ≤ n.stop := by
  induction n using induct with
  | h n ih =>
      obtain rfl | ⟨c, hc, hd⟩ := mem_preorderAll_iff.mp hd
      · exact ⟨Nat.le_refl _, Nat.le_refl _⟩
      · have hmem := mem_preorderAll_of_child hc (self_mem_preorderAll c)
        obtain ⟨hstart, hstop⟩ := h.inside n (self_mem_preorderAll n) c hc
        obtain ⟨hstart', hstop'⟩ := ih c hc (h.of_mem hmem) hd
        exact ⟨Nat.le_trans hstart hstart', Nat.le_trans hstop' hstop⟩

theorem Laid.of_child (h : n.Laid) (hc : c ∈ n.children) : c.Laid :=
  h.of_mem (mem_preorderAll_of_child hc (self_mem_preorderAll c))

theorem Worded.of_child (h : n.Worded) (hc : c ∈ n.children) : c.Worded :=
  h.of_mem (mem_preorderAll_of_child hc (self_mem_preorderAll c))

/-- What lies in a child ends before anything in a child behind it starts. -/
theorem Laid.pairwise_apart (h : n.Laid) :
    n.children.Pairwise fun c c' =>
      ∀ d ∈ c.preorderAll, ∀ d' ∈ c'.preorderAll, d.stop ≤ d'.start.byte := by
  refine (h.ordered n (self_mem_preorderAll n)).imp_of_mem ?_
  intro c c' hc hc' hstop d hd d' hd'
  calc d.stop ≤ c.stop := ((h.of_child hc).within hd).2
    _ ≤ c'.start.byte := hstop
    _ ≤ d'.start.byte := ((h.of_child hc').within hd').1

/-- What lies below a node, and not in its first child, starts behind that child's text. -/
theorem Laid.start_lt {rest : List Node} (h : n.Laid) (hchildren : n.children = t :: rest)
    (htext : t.start.byte < t.stop) (hc : c ∈ rest) (hd : d ∈ c.preorderAll) :
    n.start.byte < d.start.byte := by
  have ht : t ∈ n.children := hchildren ▸ List.mem_cons_self
  have hapart := h.pairwise_apart
  rw [hchildren, List.pairwise_cons] at hapart
  calc n.start.byte ≤ t.start.byte := (h.inside n (self_mem_preorderAll n) t ht).1
    _ < t.stop := htext
    _ ≤ d.start.byte := hapart.1 c hc t (self_mem_preorderAll t) d hd

theorem Laid.disjoint {c d : Node} (h : n.Laid) (hc : c ∈ n.namedChildren)
    (hd : d ∈ n.namedChildren) (hne : c ≠ d) :
    c.stop ≤ d.start.byte ∨ d.stop ≤ c.start.byte := by
  have hordered := (h.ordered n (self_mem_preorderAll n)).filter isNamed
  have hapart : n.namedChildren.Pairwise fun c d =>
      c.stop ≤ d.start.byte ∨ d.stop ≤ c.start.byte := hordered.imp Or.inl
  have hsym : Std.Symm fun c d : Node => c.stop ≤ d.start.byte ∨ d.stop ≤ c.start.byte :=
    ⟨fun _ _ => Or.symm⟩
  exact hapart.forall hc hd hne

/-- What stands directly below a node does not stand below another child of it. -/
theorem Laid.not_mem_preorder {c d : Node} (h : n.Laid) (hc : c ∈ n.namedChildren)
    (hd : d ∈ n.namedChildren) (hne : c ≠ d) (htext : d.start.byte < d.stop) :
    d ∉ c.preorder := by
  intro hmem
  have hchild := (mem_namedChildren.mp hc).1
  have hwithin := (h.of_child hchild).within (mem_preorderAll_of_mem_preorder hmem)
  obtain hbefore | hbehind := h.disjoint hc hd hne
  · omega
  · omega

/-! ### Nodes that start at one place -/

/-- A property of nodes with text, of which those below another start behind it. -/
def Steps (P : Node → Prop) (root : Node) : Prop :=
  ∀ n ∈ root.preorder, P n → n.start.byte < n.stop ∧
    ∀ c ∈ n.namedChildren, ∀ d ∈ c.preorder, P d → n.start.byte < d.start.byte

theorem Steps.of_child (h : n.Steps P) (hc : c ∈ n.namedChildren) : c.Steps P :=
  fun d hd => h d (mem_preorder_of_child hc hd)

/-- Such nodes are met in the order in which they start. -/
theorem Steps.pairwise (h : n.Steps P) (hlaid : n.Laid) :
    n.preorder.Pairwise fun c d => P c → P d → c.start.byte < d.start.byte := by
  induction n using induct with
  | h n ih =>
      rw [preorder_eq, List.pairwise_cons, List.pairwise_flatMap]
      refine ⟨?_, ?_, ?_⟩
      · intro d hd hn hPd
        obtain ⟨c, hc, hd⟩ := List.mem_flatMap.mp hd
        exact (h n (self_mem_preorder n) hn).2 c hc d hd hPd
      · intro c hc
        have hchild := (mem_namedChildren.mp hc).1
        exact ih c hchild (h.of_child hc) (hlaid.of_child hchild)
      · have hapart := hlaid.pairwise_apart.filter isNamed
        apply hapart.imp_of_mem
        intro c c' hc _ hapart d hd d' hd' hPd _
        calc d.start.byte < d.stop := (h d (mem_preorder_of_child hc hd) hPd).1
          _ ≤ d'.start.byte :=
            hapart d (mem_preorderAll_of_mem_preorder hd) d'
              (mem_preorderAll_of_mem_preorder hd')

theorem Steps.eq_of_start_eq (h : n.Steps P) (hlaid : n.Laid) (hc : c ∈ n.preorder)
    (hd : d ∈ n.preorder) (hPc : P c) (hPd : P d) (hstart : c.start.byte = d.start.byte) :
    c = d := by
  have hsym : Std.Symm fun c d : Node => P c → P d → c.start.byte = d.start.byte → c = d :=
    ⟨fun _ _ h hPd hPc hstart => (h hPc hPd hstart.symm).symm⟩
  have hdistinct : n.preorder.Pairwise fun c d =>
      P c → P d → c.start.byte = d.start.byte → c = d := by
    apply (h.pairwise hlaid).imp
    intro c d hlt hPc hPd hstart
    exact absurd hstart (Nat.ne_of_lt (hlt hPc hPd))
  exact hdistinct.forall_of_forall (fun _ _ _ _ _ => rfl) hc hd hPc hPd hstart

/-! ### Words, accesses and returns -/

theorem Worded.steps_isWord (h : root.Worded) : root.Steps IsWord := by
  intro n hn hword
  have hmem := mem_preorderAll_of_mem_preorder hn
  refine ⟨h.texts n hmem (.inr hword), ?_⟩
  intro c hc
  rw [h.words n hmem hword] at hc
  exact absurd hc List.not_mem_nil

/-- Words stand where named children lead. -/
theorem Worded.mem_preorder (h : root.Worded) (hd : d ∈ root.preorderAll)
    (hword : d.IsWord) : d ∈ root.preorder := by
  have hmem := List.mem_filter.mpr ⟨hd, hword.isNamed⟩
  rw [h.bare.filter_isNamed] at hmem
  exact List.mem_of_mem_filter hmem

/-- A property steps from one node to the next if the nodes begin with a text outside of
it. -/
theorem steps_of_first (hlaid : root.Laid)
    (hfirst : ∀ n ∈ root.preorderAll, P n → ∃ t rest, n.children = t :: rest ∧
      t.start.byte < t.stop ∧ ∀ d ∈ t.preorder, ¬ P d) : root.Steps P := by
  intro n hn hP
  have hmem := mem_preorderAll_of_mem_preorder hn
  obtain ⟨t, rest, hchildren, htext, hnone⟩ := hfirst n hmem hP
  have hlaid := hlaid.of_mem hmem
  constructor
  · have ht : t ∈ n.children := hchildren ▸ List.mem_cons_self
    obtain ⟨hstart, hstop⟩ := hlaid.inside n (self_mem_preorderAll n) t ht
    omega
  · intro c hc d hd hPd
    have hchild := (mem_namedChildren.mp hc).1
    rw [hchildren, List.mem_cons] at hchild
    obtain rfl | hrest := hchild
    · exact absurd hPd (hnone d hd)
    · exact hlaid.start_lt hchildren htext hrest (mem_preorderAll_of_mem_preorder hd)

theorem Worded.steps_return (h : root.Worded) (hlaid : root.Laid) :
    root.Steps fun n => n.kind = .returnStatement := by
  apply steps_of_first hlaid
  intro n hn hkind
  obtain ⟨t, ht, hnamed⟩ := Option.map_eq_some_iff.mp (h.returns n hn hkind)
  obtain ⟨rest, hchildren⟩ := List.head?_eq_some_iff.mp ht
  have hmem : t ∈ root.preorderAll :=
    mem_preorderAll_trans (mem_preorderAll_of_child (List.mem_of_head? ht)
      (self_mem_preorderAll t)) hn
  refine ⟨t, rest, hchildren, h.texts t hmem (.inl hnamed), ?_⟩
  intro d hd hreturn
  -- Nothing inside a keyword has a name, so no return statement does.
  have hbare := h.bare t hmem hnamed d (mem_preorderAll_of_mem_preorder hd)
  rw [isNamed, hreturn] at hbare
  cases hbare

/-- Whether a node accesses a member of what is a plain name. -/
def IsPlainAccess (n : Node) : Prop :=
  n.IsAccess ∧ ∃ o, n.child? .object = some o ∧ o.kind = .identifier

theorem Worded.steps_access (h : root.Worded) (hlaid : root.Laid) :
    root.Steps IsPlainAccess := by
  apply steps_of_first hlaid
  intro n hn ⟨haccess, o, hobject, hkind⟩
  obtain ⟨t, ht, hrole⟩ := Option.bind_eq_some_iff.mp (h.accesses n hn haccess)
  obtain ⟨rest, hchildren⟩ := List.head?_eq_some_iff.mp ht
  obtain rfl : t = o := by
    rw [child?, hchildren, List.find?_cons, beq_iff_eq.mpr hrole] at hobject
    exact Option.some.inj hobject
  have hmem : t ∈ root.preorderAll :=
    mem_preorderAll_trans (mem_preorderAll_of_child (List.mem_of_head? ht)
      (self_mem_preorderAll t)) hn
  refine ⟨t, rest, hchildren, h.texts t hmem (.inr (.inl hkind)), ?_⟩
  intro d hd hplain
  rw [preorder_eq, h.words t hmem (.inl hkind), List.flatMap_nil, List.mem_singleton] at hd
  subst hd
  obtain ⟨hmember | hsubscript, -⟩ := hplain
  · cases hkind.symm.trans hmember
  · cases hkind.symm.trans hsubscript

end Node

/-! ### Trees of scripts -/

/-- A tree is laid out if it lies in its text and has the shape the grammar gives to words.
The first is so of the tree of every text (`laid_ofText`, `within_of_mem_ofText`); a tree
with tokens missing may fall short of the second. -/
structure LaidOut (s : Script) : Prop where
  laid : s.root.Laid
  worded : s.root.Worded
  starts : ∀ n ∈ s.root.preorderAll, n.start.Within s.source

theorem within_of_eq_take {source : List Char} {n : Node}
    (h : n.start = Mark.after (source.take n.start.byte)) : n.start.Within source := by
  have hfollows := Mark.follows_after (source.take n.start.byte)
  rw [← h] at hfollows
  exact ⟨source.take n.start.byte, List.take_prefix _ _, hfollows⟩

/-- In a text of one byte for each character the starts of nodes can be counted. -/
theorem LaidOut.of_take {s : Script} (hlaid : s.root.Laid) (hworded : s.root.Worded)
    (hstarts : ∀ n ∈ s.root.preorderAll,
      n.start = Mark.after (s.source.take n.start.byte)) :
    s.LaidOut where
  laid := hlaid
  worded := hworded
  starts n hn := within_of_eq_take (hstarts n hn)

theorem LaidOut.precedes_iff {s : Script} (h : s.LaidOut) {n m : Node}
    (hn : n ∈ s.root.preorderAll) (hm : m ∈ s.root.preorderAll) :
    (n.location s.source).Precedes (m.location s.source) ↔ n.start.byte < m.start.byte :=
  Node.precedes_iff_of_within (h.starts n hn) (h.starts m hm)

/-- Nodes stand at one place if they start at one byte. -/
theorem LaidOut.location_eq_iff {s : Script} (h : s.LaidOut) {n m : Node}
    (hn : n ∈ s.root.preorderAll) (hm : m ∈ s.root.preorderAll) :
    n.location s.source = m.location s.source ↔ n.start.byte = m.start.byte := by
  constructor
  · intro heq
    have hlt := h.precedes_iff hn hm
    have hgt := h.precedes_iff hm hn
    rw [heq] at hlt hgt
    have hirrefl : ¬ (m.location s.source).Precedes (m.location s.source) :=
      fun hprecedes => hprecedes.asymm hprecedes
    have hle := mt hgt.mpr hirrefl
    have hge := mt hlt.mpr hirrefl
    omega
  · intro hstart
    obtain ⟨before, hbefore, hfollows⟩ := h.starts n hn
    obtain ⟨before', hbefore', hfollows'⟩ := h.starts m hm
    rw [hfollows.byte, hfollows'.byte] at hstart
    obtain rfl := eq_of_byteLength_eq hbefore hbefore' hstart
    rw [Node.location, Node.location, Location.ofMark_of_follows hfollows hbefore,
      Location.ofMark_of_follows hfollows' hbefore]

/-- Words that start at one byte are one word. -/
theorem LaidOut.eq_of_isWord {s : Script} (h : s.LaidOut) {n m : Node}
    (hn : n ∈ s.root.preorderAll) (hm : m ∈ s.root.preorderAll) (hnWord : n.IsWord)
    (hmWord : m.IsWord) (hstart : n.start.byte = m.start.byte) : n = m :=
  h.worded.steps_isWord.eq_of_start_eq h.laid (h.worded.mem_preorder hn hnWord)
    (h.worded.mem_preorder hm hmWord) hnWord hmWord hstart

end ScriptLint.Script
