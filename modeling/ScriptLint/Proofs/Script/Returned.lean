import ScriptLint.Proofs.Script.Comments.Syntax
import ScriptLint.Proofs.Script.Rejection

namespace ScriptLint

open ScriptLint.Script

/-! What return statements return and which keys objects have, told without saying how they
are looked for. -/

/-! ### What belongs to the entries of a list -/

/-- The second list has what belongs to the entries of the first, in order. Entries to
which nothing belongs are left out. -/
inductive Selects {α β : Type} (R : α → β → Prop) : List α → List β → Prop
  | nil : Selects R [] []
  | keep {a : α} {b : β} {as : List α} {bs : List β} (hab : R a b) (h : Selects R as bs) :
      Selects R (a :: as) (b :: bs)
  | drop {a : α} {as : List α} {bs : List β} (ha : ∀ b, ¬ R a b) (h : Selects R as bs) :
      Selects R (a :: as) bs

theorem selects_iff {α β : Type} {R : α → β → Prop} {f : α → Option β} {as : List α}
    {bs : List β} (hf : ∀ a ∈ as, ∀ b, f a = some b ↔ R a b) :
    Selects R as bs ↔ bs = as.filterMap f := by
  constructor
  · intro h
    induction h with
    | nil => rfl
    | keep hab _ ih =>
        rw [List.forall_mem_cons] at hf
        rw [List.filterMap_cons_some ((hf.1 _).mpr hab), ← ih hf.2]
    | @drop a _ _ ha _ ih =>
        rw [List.forall_mem_cons] at hf
        have hnone : f a = none := Option.eq_none_iff_forall_ne_some.mpr fun b hb =>
          ha b ((hf.1 b).mp hb)
        rw [List.filterMap_cons_none hnone, ih hf.2]
  · rintro rfl
    induction as with
    | nil => exact .nil
    | cons a as ih =>
        rw [List.forall_mem_cons] at hf
        cases ha : f a with
        | some b =>
            rw [List.filterMap_cons_some ha]
            exact .keep ((hf.1 b).mp ha) (ih hf.2)
        | none =>
            rw [List.filterMap_cons_none ha]
            refine .drop (fun b hb => ?_) (ih hf.2)
            rw [(hf.1 b).mpr hb] at ha
            cases ha

namespace Script.Node

variable {source : List Char} {skipped : Node → Prop} {n a o m k : Node} {name : String}

/-! ### Returned objects -/

def Operand (skipped : Node → Prop) (n a : Node) : Prop :=
  FirstOf (fun c => ¬ skipped c) n.namedChildren a

/-- A node is an object, or has one inside any number of parentheses. -/
inductive Encloses (skipped : Node → Prop) : Node → Node → Prop
  | bare {o : Node} (hkind : o.kind = .object) : Encloses skipped o o
  | parentheses {n a o : Node} (hkind : n.kind = .parenthesizedExpression)
      (ha : n.Operand skipped a) (h : Encloses skipped a o) : Encloses skipped n o

def Returns (skipped : Node → Prop) (n o : Node) : Prop :=
  n.kind = .returnStatement ∧ ∃ a, n.Operand skipped a ∧ a.Encloses skipped o

/-- Of the nodes in a tree those are skipped that are comments. -/
def SkipsComments (skipped : Node → Prop) (root : Node) : Prop :=
  ∀ n ∈ root.preorderAll, skipped n ↔ n.kind = .comment

theorem SkipsComments.child (h : n.SkipsComments skipped) (ha : a ∈ n.children) :
    a.SkipsComments skipped :=
  fun d hd => h d (mem_preorderAll_of_child ha hd)

theorem operand?_eq_some_iff (h : n.SkipsComments skipped) :
    n.operand? = some a ↔ n.Operand skipped a := by
  have hskip : ∀ c ∈ n.namedChildren, (c.kind != .comment) = true ↔ ¬ skipped c := by
    intro c hc
    rw [h c (mem_preorderAll_of_mem_namedChildren hc), bne_iff_ne]
  rw [operand?, List.find?_eq_some_iff_append]
  constructor
  · rintro ⟨ha, front, back, hsplit, hfront⟩
    rw [hsplit, List.forall_mem_append, List.forall_mem_cons] at hskip
    refine ⟨hskip.2.1.mp ha, front, back, hsplit, fun c hc hnot => ?_⟩
    have hcomment := hfront c hc
    rw [(hskip.1 c hc).mpr hnot] at hcomment
    cases hcomment
  · rintro ⟨ha, front, back, hsplit, hfront⟩
    rw [hsplit, List.forall_mem_append, List.forall_mem_cons] at hskip
    refine ⟨hskip.2.1.mpr ha, front, back, hsplit, fun c hc => ?_⟩
    rw [Bool.not_eq_true', ← Bool.not_eq_true, hskip.1 c hc]
    exact hfront c hc

theorem stripParentheses_iff {fuel : Nat} (hfuel : n.size ≤ fuel)
    (h : n.SkipsComments skipped) :
    n.stripParentheses fuel = some o ∧ o.kind = .object ↔ n.Encloses skipped o := by
  induction n using induct generalizing fuel with
  | h n ih =>
      have hpos : 0 < n.size := by
        rw [size_eq]
        exact Nat.lt_of_lt_of_le Nat.zero_lt_one (Nat.le_add_right 1 _)
      obtain ⟨fuel, rfl⟩ := Nat.exists_eq_add_one.mpr (hpos.trans_le hfuel)
      -- What is inside parentheses is smaller, so the fuel that is left is enough for it.
      have hinner (a : Node) (ha : n.operand? = some a) :
          a.stripParentheses fuel = some o ∧ o.kind = .object ↔ a.Encloses skipped o := by
        have hmem := mem_children_of_operand? ha
        have hlt := (size_lt_of_mem_children hmem).trans_le hfuel
        exact ih a hmem (Nat.le_of_lt_succ hlt) (h.child hmem)
      rw [stripParentheses]
      by_cases hkind : n.kind = .parenthesizedExpression
      · rw [if_pos (beq_iff_eq.mpr hkind), Option.bind_eq_some_iff]
        constructor
        · rintro ⟨⟨a, ha, hstrip⟩, hobject⟩
          exact .parentheses hkind ((operand?_eq_some_iff h).mp ha)
            ((hinner a ha).mp ⟨hstrip, hobject⟩)
        · intro hencloses
          cases hencloses with
          | bare hobject => cases hkind.symm.trans hobject
          | @parentheses _ a _ _ ha hencloses =>
              have ha' := (operand?_eq_some_iff h).mpr ha
              obtain ⟨hstrip, hobject⟩ := (hinner a ha').mpr hencloses
              exact ⟨⟨a, ha', hstrip⟩, hobject⟩
      · rw [if_neg (by simpa using hkind)]
        constructor
        · rintro ⟨heq, hobject⟩
          obtain rfl := Option.some.inj heq
          exact .bare hobject
        · intro hencloses
          cases hencloses with
          | bare hobject => exact ⟨rfl, hobject⟩
          | parentheses hkind' => exact absurd hkind' hkind

theorem returnedObject?_eq_some_iff (h : n.SkipsComments skipped)
    (hn : n.kind = .returnStatement) :
    n.returnedObject? = some o ↔ n.Returns skipped o := by
  have hinner (a : Node) (ha : n.operand? = some a) :
      a.stripParentheses a.size = some o ∧ o.kind = .object ↔ a.Encloses skipped o :=
    stripParentheses_iff (Nat.le_refl _) (h.child (mem_children_of_operand? ha))
  rw [returnedObject?, Option.filter_eq_some_iff, Option.bind_eq_some_iff, beq_iff_eq]
  constructor
  · rintro ⟨⟨a, ha, hstrip⟩, hobject⟩
    exact ⟨hn, a, (operand?_eq_some_iff h).mp ha, (hinner a ha).mp ⟨hstrip, hobject⟩⟩
  · rintro ⟨-, a, ha, hencloses⟩
    have ha' := (operand?_eq_some_iff h).mpr ha
    obtain ⟨hstrip, hobject⟩ := (hinner a ha').mpr hencloses
    exact ⟨⟨a, ha', hstrip⟩, hobject⟩

/-! ### Keys -/

/-- What a member of an object has as its key: that of a pair, the name of a method, or the
member itself where it is a name alone. -/
inductive KeyNode (m : Node) : Node → Prop
  | pair {k : Node} (hkind : m.kind = .pair) (hk : m.child? .key = some k) : KeyNode m k
  | method {k : Node} (hkind : m.kind = .methodDefinition) (hk : m.child? .name = some k) :
      KeyNode m k
  | shorthand (hkind : m.kind = .shorthandProperty) : KeyNode m m

/-- A key that is a name, or a string with its value. No other keys are known without
running anything. -/
inductive HasKey (source : List Char) (m : Node) : String → Prop
  | name {k : Node} (hk : m.KeyNode k)
      (hkind : k.kind = .propertyIdentifier ∨ k.kind = .shorthandProperty) :
      HasKey source m (k.name source)
  | string {k : Node} (hk : m.KeyNode k) (hkind : k.kind = .string) :
      HasKey source m (String.ofList (stringValue source k))

theorem keyNode?_eq_some_iff : m.keyNode? = some k ↔ m.KeyNode k := by
  constructor
  · intro h
    unfold keyNode? at h
    split at h
    · next hkind => exact .pair hkind h
    · next hkind => exact .method hkind h
    · next hkind =>
        obtain rfl := Option.some.inj h
        exact .shorthand hkind
    · cases h
  · rintro (⟨hkind, hk⟩ | ⟨hkind, hk⟩ | hkind)
    · rw [keyNode?, hkind, hk]
    · rw [keyNode?, hkind, hk]
    · rw [keyNode?, hkind]

theorem name_key?_iff :
    (m.key? source).map (·.name) = some name ↔ m.HasKey source name := by
  rw [key?]
  constructor
  · intro h
    obtain ⟨key, hkey, rfl⟩ := Option.map_eq_some_iff.mp h
    obtain ⟨k, hk, hkey⟩ := Option.bind_eq_some_iff.mp hkey
    have hk := keyNode?_eq_some_iff.mp hk
    split at hkey
    · next hkind =>
        obtain rfl := Option.some.inj hkey
        exact .name hk (.inl hkind)
    · next hkind =>
        obtain rfl := Option.some.inj hkey
        exact .name hk (.inr hkind)
    · next hkind =>
        obtain rfl := Option.some.inj hkey
        exact .string hk hkind
    · cases hkey
  · rintro (⟨hk, hkind | hkind⟩ | ⟨hk, hkind⟩)
    all_goals
      rw [keyNode?_eq_some_iff.mpr hk, Option.bind_some, hkind]
      rfl

theorem selects_keys_iff {names : List String} :
    Selects (HasKey source) o.namedChildren names ↔
      names = (o.keys source).map (·.name) := by
  rw [keys, List.map_filterMap]
  exact selects_iff fun _ _ _ => name_key?_iff

end Script.Node

end ScriptLint
