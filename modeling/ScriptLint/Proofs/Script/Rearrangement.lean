import Mathlib.Data.List.Forall2
import Mathlib.Data.Multiset.Bind
import Mathlib.Data.Multiset.Filter
import ScriptLint.Proofs.Script.Binding
import ScriptLint.Proofs.Script.Scope

namespace ScriptLint.Script

/-! Scopes with their statements in another order. -/

namespace Node

/-- Whether a node lists statements: a scope does, and so does a case of a switch. -/
def listsStatements (n : Node) : Bool :=
  n.kind.isScope || n.kind == .other "switch_case" || n.kind == .other "switch_default"

def isValue (n : Node) : Bool := n.role == some .value

/-- Whether a text stands for itself: that of a name, or the word that a declaration begins
with. -/
def IsSpelled (n : Node) : Prop :=
  n.kind = .identifier ∨ n.kind = .shorthandPattern ∨ n.role = some .name ∨
    n.role = some .kind

/-- Trees over two sources that say the same, but may list the statements of their scopes
in different orders and may have them at different places. -/
inductive Rearranged (source source' : List Char) : Node → Node → Prop
  | same {n n' : Node} (hkind : n.kind = n'.kind) (hrole : n.role = n'.role)
      (htext : n.IsSpelled → n.text source = n'.text source')
      (hcs : List.Forall₂ (Rearranged source source') n.children n'.children) :
      Rearranged source source' n n'
  | reordered {n n' : Node} (hkind : n.kind = n'.kind) (hrole : n.role = n'.role)
      (htext : n.IsSpelled → n.text source = n'.text source')
      (hlists : n.listsStatements = true) (hvalue : n.children.countP isValue ≤ 1)
      (hcs : Multiset.Rel (Rearranged source source') n.children n'.children) :
      Rearranged source source' n n'

/-! ### Lists that correspond -/

section Lists

variable {α β γ δ : Type} {R : α → β → Prop}

theorem rel_coe_of_forall₂ {as : List α} {bs : List β} (h : List.Forall₂ R as bs) :
    Multiset.Rel R as bs := by
  induction h with
  | nil => exact .zero
  | cons hab _ ih => exact .cons hab ih

theorem rel_filter {p : α → Bool} {q : β → Bool} (hpq : ∀ a b, R a b → p a = q b)
    {s : Multiset α} {t : Multiset β} (h : Multiset.Rel R s t) :
    Multiset.Rel R (s.filter (p ·)) (t.filter (q ·)) := by
  induction h with
  | zero => exact .zero
  | @cons a b as bs hab _ ih =>
      have heq := hpq a b hab
      cases hb : q b with
      | true => simpa [heq, hb] using Multiset.Rel.cons hab ih
      | false => simpa [heq, hb] using ih

theorem forall_mem_iff_of_rel {p : α → Prop} {q : β → Prop} {as : List α} {bs : List β}
    (h : Multiset.Rel R as bs) (hpq : ∀ a ∈ as, ∀ b, R a b → (p a ↔ q b)) :
    (∀ a ∈ as, p a) ↔ ∀ b ∈ bs, q b := by
  constructor
  · intro hp b hb
    obtain ⟨a, ha, hab⟩ := Multiset.exists_mem_of_rel_of_mem (Multiset.rel_flip.mpr h) hb
    exact (hpq a ha b hab).mp (hp a ha)
  · intro hq a ha
    obtain ⟨b, hb, hab⟩ := Multiset.exists_mem_of_rel_of_mem h ha
    exact (hpq a ha b hab).mpr (hq b hb)

theorem rel_flatMap {P : γ → δ → Prop} {f : α → List γ} {g : β → List δ} {as : List α}
    {bs : List β} (h : Multiset.Rel R as bs)
    (hfg : ∀ a ∈ as, ∀ b, R a b → Multiset.Rel P (f a) (g b)) :
    Multiset.Rel P (as.flatMap f) (bs.flatMap g) := by
  have hrel : Multiset.Rel (fun a b => Multiset.Rel P (f a) (g b)) as bs :=
    h.mono fun a ha b _ hab => hfg a ha b hab
  have hbind := Multiset.rel_bind (r := fun a b => Multiset.Rel P (f a) (g b))
    (fun _ _ hab => hab) hrel
  rwa [Multiset.coe_bind, Multiset.coe_bind] at hbind

/-- Names collected from corresponding lists are the same up to their order. -/
theorem perm_flatMap_of_rel {f : α → List γ} {g : β → List γ} {as : List α} {bs : List β}
    (h : Multiset.Rel R as bs) (hfg : ∀ a ∈ as, ∀ b, R a b → (f a).Perm (g b)) :
    (as.flatMap f).Perm (bs.flatMap g) := by
  rw [← Multiset.coe_eq_coe, ← Multiset.rel_eq]
  refine rel_flatMap h fun a ha b hab => ?_
  exact Multiset.rel_eq.mpr (Multiset.coe_eq_coe.mpr (hfg a ha b hab))

theorem forall₂_eraseP {p : α → Bool} {q : β → Bool} (hpq : ∀ a b, R a b → p a = q b)
    {as : List α} {bs : List β} (h : List.Forall₂ R as bs) :
    List.Forall₂ R (as.eraseP p) (bs.eraseP q) := by
  induction h with
  | nil => exact .nil
  | @cons a b as bs hab h ih =>
      have heq := hpq a b hab
      cases hb : q b with
      | true => simpa [heq, hb] using h
      | false => simpa [heq, hb] using List.Forall₂.cons hab ih

theorem eraseP_eq_filter {p : α → Bool} {as : List α} (h : as.countP p ≤ 1) :
    as.eraseP p = as.filter (!p ·) := by
  induction as with
  | nil => rfl
  | cons a as ih =>
      cases ha : p a with
      | true =>
          have hnone : as.countP p = 0 := by simpa [ha] using h
          have hall : as.filter (!p ·) = as := by
            simpa [List.filter_eq_self, List.countP_eq_zero] using hnone
          simp [ha, hall]
      | false => simpa [ha] using ih (by simpa [ha] using h)

theorem find?_cases {p : α → Bool} {q : β → Bool} (hpq : ∀ a b, R a b → p a = q b)
    {as : List α} {bs : List β} (h : List.Forall₂ R as bs) :
    (as.find? p = none ∧ bs.find? q = none) ∨
      ∃ a b, as.find? p = some a ∧ bs.find? q = some b ∧ R a b := by
  induction h with
  | nil => exact .inl ⟨rfl, rfl⟩
  | @cons a b as bs hab _ ih =>
      have heq := hpq a b hab
      cases hb : q b with
      | true => exact .inr ⟨a, b, by simp [heq, hb], by simp [hb], hab⟩
      | false => simpa [heq, hb] using ih

end Lists

namespace Rearranged

variable {source source' : List Char} {n n' : Node}

protected theorem refl (source : List Char) (n : Node) : Rearranged source source n n := by
  induction n using induct with
  | h n ih => exact .same rfl rfl (fun _ => rfl) (List.forall₂_same.mpr ih)

/-- A scope may list its statements in any order. -/
theorem of_perm {k : Kind} {r : Option Role} {s : Text.Mark} {e : Nat} {m : Bool}
    {cs ds : List Node} (hk : k.isScope = true) (hvalue : cs.countP isValue ≤ 1)
    (hperm : cs.Perm ds) :
    Rearranged source source (mk k r s e m cs) (mk k r s e m ds) := by
  refine .reordered rfl rfl (fun _ => rfl) (by simp [listsStatements, kind, hk]) hvalue ?_
  simp only [Node.children, ← Multiset.coe_eq_coe.mpr hperm]
  exact Multiset.rel_refl_of_refl_on fun c _ => .refl source c

theorem kind_eq (h : Rearranged source source' n n') : n.kind = n'.kind := by
  cases h <;> assumption

theorem role_eq (h : Rearranged source source' n n') : n.role = n'.role := by
  cases h <;> assumption

theorem isNamed_eq (h : Rearranged source source' n n') : n.isNamed = n'.isNamed := by
  simp only [isNamed, h.kind_eq]

theorem name_eq (h : Rearranged source source' n n') (hn : n.IsSpelled) :
    n.text source = n'.text source' := by
  cases h <;> simp_all

theorem children (h : Rearranged source source' n n') :
    Multiset.Rel (Rearranged source source') n.children n'.children := by
  cases h with
  | same _ _ _ hcs => exact rel_coe_of_forall₂ hcs
  | reordered _ _ _ _ _ hcs => exact hcs

theorem namedChildren (h : Rearranged source source' n n') :
    Multiset.Rel (Rearranged source source') n.namedChildren n'.namedChildren := by
  have hfilter := rel_filter (fun _ _ hab => isNamed_eq hab) h.children
  simpa [Node.namedChildren] using hfilter

theorem forall₂_children (h : Rearranged source source' n n')
    (hn : n.listsStatements = false) :
    List.Forall₂ (Rearranged source source') n.children n'.children := by
  cases h with
  | same _ _ _ hcs => exact hcs
  | reordered _ _ _ hlists => simp [hn] at hlists

theorem forall₂_namedChildren (h : Rearranged source source' n n')
    (hn : n.listsStatements = false) :
    List.Forall₂ (Rearranged source source') n.namedChildren n'.namedChildren :=
  List.rel_filter (fun _ _ hab => by simp [isNamed_eq hab]) (h.forall₂_children hn)

theorem child?_cases (h : Rearranged source source' n n') (hn : n.listsStatements = false)
    (r : Role) :
    (n.child? r = none ∧ n'.child? r = none) ∨
      ∃ c c', n.child? r = some c ∧ n'.child? r = some c' ∧
        Rearranged source source' c c' :=
  find?_cases (fun _ _ hab => by rw [role_eq hab]) (h.forall₂_children hn)

/-! ### Names -/

theorem names_flatMap {f f' : Node → List String} {ns ns' : List Node}
    (h : List.Forall₂ (Rearranged source source') ns ns')
    (hf : ∀ n ∈ ns, ∀ n', Rearranged source source' n n' → f n = f' n') :
    ns.flatMap f = ns'.flatMap f' := by
  induction h with
  | nil => rfl
  | @cons n n' _ _ hn _ ih =>
      rw [List.flatMap_cons, List.flatMap_cons, hf n List.mem_cons_self n' hn,
        ih fun m hm => hf m (List.mem_cons_of_mem _ hm)]

theorem names_child? (h : Rearranged source source' n n') (hn : n.listsStatements = false)
    (r : Role) {f f' : Node → List String}
    (hf : ∀ c ∈ n.children, ∀ c', Rearranged source source' c c' → f c = f' c') :
    ((n.child? r).map f).getD [] = ((n'.child? r).map f').getD [] := by
  rcases h.child?_cases hn r with ⟨hc, hc'⟩ | ⟨c, c', hc, hc', hcc⟩
  · simp [hc, hc']
  · simpa [hc, hc'] using hf c (List.mem_of_find?_eq_some hc) c' hcc

theorem map_bound_getD (o : Option Node) (f : Node → String) :
    ((o.map bound).getD []).map f = (o.map fun c => c.bound.map f).getD [] := by
  cases o <;> rfl

theorem names_bound (h : Rearranged source source' n n') :
    n.bound.map (·.name source) = n'.bound.map (·.name source') := by
  induction n using induct generalizing n' with
  | h n ih =>
      have hchild (hn : n.listsStatements = false) (r : Role) :
          (((n.child? r).map bound).getD []).map (·.name source) =
            (((n'.child? r).map bound).getD []).map (·.name source') := by
        rw [map_bound_getD, map_bound_getD]
        exact h.names_child? hn r fun c hc _ hcc => ih c hc hcc
      have hall (hn : n.listsStatements = false) :
          (n.namedChildren.flatMap bound).map (·.name source) =
            (n'.namedChildren.flatMap bound).map (·.name source') := by
        rw [List.map_flatMap, List.map_flatMap]
        exact names_flatMap (h.forall₂_namedChildren hn)
          fun c hc _ hcc => ih c (mem_namedChildren.mp hc).1 hcc
      rw [bound_eq, bound_eq n', ← h.kind_eq]
      split <;> rename_i hk
      · simp [name, h.name_eq (.inl hk)]
      · simp [name, h.name_eq (.inr (.inl hk))]
      · exact hchild (by simp [listsStatements, hk, Kind.isScope]) .left
      · exact hchild (by simp [listsStatements, hk, Kind.isScope]) .left
      · exact hchild (by simp [listsStatements, hk, Kind.isScope]) .value
      · exact hall (by simp [listsStatements, hk, Kind.isScope])
      · exact hall (by simp [listsStatements, hk, Kind.isScope])
      · exact hall (by simp [listsStatements, hk, Kind.isScope])
      · rfl

theorem forall₂_declarators (h : Rearranged source source' n n')
    (hn : n.listsStatements = false) :
    List.Forall₂ (Rearranged source source') n.declarators n'.declarators :=
  List.rel_filter (fun _ _ hab => by simp [kind_eq hab]) (h.forall₂_namedChildren hn)

theorem names_declared (h : Rearranged source source' n n')
    (hn : n.listsStatements = false) :
    n.declared.map (·.name source) = n'.declared.map (·.name source') := by
  unfold declared
  rw [List.map_flatMap, List.map_flatMap]
  refine names_flatMap (h.forall₂_declarators hn) fun d hd d' hdd => ?_
  have hk : d.kind = .variableDeclarator := by simpa using (List.mem_filter.mp hd).2
  rw [map_bound_getD, map_bound_getD]
  exact hdd.names_child? (by simp [listsStatements, hk, Kind.isScope]) .name
    fun _ _ _ hcc => hcc.names_bound

theorem names_name? (h : Rearranged source source' n n') (hn : n.listsStatements = false) :
    (n.child? .name).toList.map (·.name source) =
      (n'.child? .name).toList.map (·.name source') := by
  rcases h.child?_cases hn .name with ⟨hc, hc'⟩ | ⟨c, c', hc, hc', hcc⟩
  · simp [hc, hc']
  · have hrole : c.role = some .name := by simpa using List.find?_some hc
    simp [hc, hc', name, hcc.name_eq (.inr (.inr (.inl hrole)))]

theorem lexicalNames_eq (h : Rearranged source source' n n') :
    n.lexicalNames source = n'.lexicalNames source' := by
  unfold lexicalNames lexicallyDeclared
  rw [← h.kind_eq]
  split <;> rename_i hk
  · have hn : n.listsStatements = false := by simp [listsStatements, hk, Kind.isScope]
    simpa [hk] using h.names_declared hn
  · have hn : n.listsStatements = false := by simp [listsStatements, hk, Kind.isScope]
    simpa [hk] using h.names_name? hn
  · rfl

theorem functionNames_eq (h : Rearranged source source' n n') :
    n.functionNames source = n'.functionNames source' := by
  unfold functionNames
  rw [← h.kind_eq]
  split <;> rename_i hk
  · exact h.names_name? (by simp [listsStatements, hk, Kind.isScope])
  · exact h.names_name? (by simp [listsStatements, hk, Kind.isScope])
  · rfl

theorem paramNames_perm (h : Rearranged source source' n n') :
    (n.paramNames source).Perm (n'.paramNames source') := by
  unfold paramNames
  rw [← h.kind_eq]
  split <;> rename_i hk
  · have hn : n.listsStatements = false := by
      unfold Kind.isFunctionBoundary at hk
      split at hk <;> simp_all [listsStatements, Kind.isScope]
    unfold boundParams
    rcases h.child?_cases hn .parameters with ⟨hc, hc'⟩ | ⟨ps, ps', hc, hc', hps⟩
    · simp only [hc, hc', map_bound_getD]
      rw [h.names_child? hn .parameter fun _ _ _ hcc => hcc.names_bound]
    · simp only [hc, hc', List.map_flatMap]
      exact perm_flatMap_of_rel hps.namedChildren fun _ _ _ hcc => by rw [hcc.names_bound]
  · rfl

/-! ### Scopes -/

theorem hoisted_perm (h : Rearranged source source' n n') :
    (n.hoisted source).Perm (n'.hoisted source') := by
  induction n using induct generalizing n' with
  | h n ih =>
      rw [hoisted_eq, hoisted_eq, ← h.kind_eq]
      refine List.Perm.append ?_ ?_
      · split <;> rename_i hk
        · rw [beq_iff_eq] at hk
          rw [h.names_declared (by simp [listsStatements, hk, Kind.isScope])]
        · rfl
      · split
        · rfl
        · rw [hoistedBelow_eq, hoistedBelow_eq]
          exact perm_flatMap_of_rel h.namedChildren
            fun c hc _ hcc => ih c (mem_namedChildren.mp hc).1 hcc

theorem hoistsTo_iff (h : Rearranged source source' n n') (name : String) :
    n.HoistsTo source name ↔ n'.HoistsTo source' name := by
  rw [← mem_hoistedBelow_iff, ← mem_hoistedBelow_iff, hoistedBelow_eq, hoistedBelow_eq]
  exact (perm_flatMap_of_rel h.namedChildren fun _ _ _ hcc => hcc.hoisted_perm).mem_iff

/-- The statements of a case, without what it compares with. -/
theorem caseStatements (h : Rearranged source source' n n') :
    Multiset.Rel (Rearranged source source')
      (n.namedChildren.eraseP isValue) (n'.namedChildren.eraseP isValue) := by
  have hisValue : ∀ a b, Rearranged source source' a b → a.isValue = b.isValue :=
    fun _ _ hab => by rw [isValue, isValue, hab.role_eq]
  -- Where statements are reordered there is at most one value: the first in any order.
  cases h with
  | same hkind hrole htext hcs =>
      exact rel_coe_of_forall₂ (forall₂_eraseP hisValue
        (List.rel_filter (fun _ _ hab => by simp [isNamed_eq hab]) hcs))
  | reordered hkind hrole htext hlists hvalue hcs =>
      have hcount := Multiset.card_eq_card_of_rel (rel_filter hisValue hcs)
      simp only [Multiset.filter_coe, Multiset.coe_card, Bool.decide_eq_true,
        ← List.countP_eq_length_filter] at hcount
      have hle (m : Node) : m.namedChildren.countP isValue ≤ m.children.countP isValue :=
        List.filter_sublist.countP_le
      rw [eraseP_eq_filter ((hle n).trans hvalue),
        eraseP_eq_filter ((hle n').trans (hcount ▸ hvalue))]
      have hnamed := rel_filter (fun _ _ hab => isNamed_eq hab) hcs
      have hrest := rel_filter (p := (!isValue ·)) (q := (!isValue ·))
        (fun a b hab => by rw [hisValue a b hab]) hnamed
      simpa [Node.namedChildren] using hrest

theorem scopeStatements (h : Rearranged source source' n n') :
    Multiset.Rel (Rearranged source source') n.scopeStatements n'.scopeStatements := by
  unfold Node.scopeStatements
  rw [← h.kind_eq]
  split
  · exact rel_flatMap h.namedChildren fun _ _ _ hcase => hcase.caseStatements
  · exact h.namedChildren

theorem scopeAgrees_iff (h : Rearranged source source' n n') {parent parent' : Option Node}
    (hparent : Option.Rel (Rearranged source source') parent parent') :
    n.ScopeAgrees source parent ↔ n'.ScopeAgrees source' parent' := by
  have hlexical := perm_flatMap_of_rel (f := Node.lexicalNames source)
    (g := Node.lexicalNames source') h.scopeStatements
    fun _ _ _ hs => by rw [hs.lexicalNames_eq]
  have hfunctions := perm_flatMap_of_rel (f := Node.functionNames source)
    (g := Node.functionNames source') h.scopeStatements
    fun _ _ _ hs => by rw [hs.functionNames_eq]
  have hparams (name : String) : (∀ f, parent = some f → name ∉ f.paramNames source) ↔
      ∀ f, parent' = some f → name ∉ f.paramNames source' := by
    cases hparent with
    | none => simp
    | some hff => simp [hff.paramNames_perm.mem_iff]
  rw [Node.scopeAgrees_iff, Node.scopeAgrees_iff, hlexical.nodup_iff]
  refine and_congr_right fun _ => forall_congr' fun name => ?_
  rw [hlexical.mem_iff, hfunctions.mem_iff, h.hoistsTo_iff, hparams]

/-! ### Whole trees -/

theorem withParents (h : Rearranged source source' n n') {parent parent' : Option Node}
    (hparent : Option.Rel (Rearranged source source') parent parent') :
    Multiset.Rel
      (fun (v v' : Option Node × Node) => Option.Rel (Rearranged source source') v.1 v'.1 ∧
        Rearranged source source' v.2 v'.2)
      (n.withParents parent) (n'.withParents parent') := by
  induction n using induct generalizing n' parent parent' with
  | h n ih =>
      rw [withParents_eq, withParents_eq, ← Multiset.cons_coe, ← Multiset.cons_coe]
      refine .cons ⟨hparent, h⟩ ?_
      exact rel_flatMap h.namedChildren
        fun c hc _ hcc => ih c (mem_namedChildren.mp hc).1 hcc (.some h)

theorem preorder (h : Rearranged source source' n n') :
    Multiset.Rel (Rearranged source source') n.preorder n'.preorder := by
  rw [← map_snd_withParents none n, ← map_snd_withParents none n', ← Multiset.map_coe,
    ← Multiset.map_coe, Multiset.rel_map]
  exact (h.withParents .none).mono fun _ _ _ _ hv => hv.2

theorem isConst_iff (h : Rearranged source source' n n') (hn : n.listsStatements = false) :
    n.IsConst source ↔ n'.IsConst source' := by
  unfold IsConst
  rcases h.child?_cases hn .kind with ⟨hc, hc'⟩ | ⟨c, c', hc, hc', hcc⟩
  · simp [hc, hc']
  · have hrole : c.role = some .kind := by simpa using List.find?_some hc
    simp [hc, hc', hcc.name_eq (.inr (.inr (.inr hrole)))]

theorem uninitialized_eq_nil_iff (h : Rearranged source source' n n')
    (hk : n.kind = .lexicalDeclaration) :
    n.uninitialized source = [] ↔ n'.uninitialized source' = [] := by
  have hn : n.listsStatements = false := by simp [listsStatements, hk, Kind.isScope]
  rw [Node.uninitialized_eq_nil_iff, Node.uninitialized_eq_nil_iff, h.isConst_iff hn]
  refine imp_congr_right fun _ => ?_
  refine forall_mem_iff_of_rel (rel_coe_of_forall₂ (h.forall₂_declarators hn)) ?_
  intro d hd d' hdd
  have hk : d.kind = .variableDeclarator := by simpa using (List.mem_filter.mp hd).2
  rcases hdd.child?_cases (by simp [listsStatements, hk, Kind.isScope]) .value with
    ⟨hc, hc'⟩ | ⟨c, c', hc, hc', -⟩
  · simp [hc, hc']
  · simp [hc, hc']

theorem agrees_iff (h : Rearranged source source' n n') :
    n.Agrees source ↔ n'.Agrees source' := by
  rw [agrees_iff_forall, agrees_iff_forall]
  refine and_congr (forall_mem_iff_of_rel h.preorder fun d _ d' hdd => ?_)
    (forall_mem_iff_of_rel (h.withParents .none) fun v _ v' hvv => ?_)
  · rw [← hdd.kind_eq]
    exact imp_congr_right fun hk => hdd.uninitialized_eq_nil_iff hk
  · rw [← hvv.2.kind_eq]
    exact imp_congr_right fun _ => hvv.2.scopeAgrees_iff hvv.1

end Rearranged

/-- The early errors of a tree are none exactly if its declarations agree, which does not
depend on the order in which its scopes list their statements. -/
theorem no_earlyError_iff_agrees (source : List Char) (root : Node) :
    (EarlyError.first? (root.earlyErrors source) = none ↔ root.Agrees source) ∧
      ∀ source' root', Rearranged source source' root root' →
        (EarlyError.first? (root.earlyErrors source) = none ↔
          EarlyError.first? (root'.earlyErrors source') = none) := by
  simp only [EarlyError.first?_eq_none_iff, earlyErrors_eq_nil_iff, true_and]
  exact fun _ _ h => h.agrees_iff

end Node

end ScriptLint.Script
