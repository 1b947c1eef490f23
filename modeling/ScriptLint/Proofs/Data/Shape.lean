import Mathlib.Data.List.Nodup
import Mathlib.Logic.Relation
import ScriptLint.Proofs.Data.Node

namespace ScriptLint.Data

open Value

/-! Values that are spelled in different ways, and readers that do not tell them apart.
What may be spelled differently depends on what is looked for in a value, its shape. -/

inductive Shape where
  | plain
  | list (item : Shape)
  | map (entry : Shape)
  /-- A record of fields, each with all its names. -/
  | record (fields : List (List String × Shape))

namespace Shape

def member (key : String) : Shape → Shape
  | map entry => entry
  | record fields => ((fields.find? fun f => f.1.contains key).map (·.2)).getD plain
  | _ => plain

/-- What is looked for in an item of a list, which may stand for a record. -/
def item (i : Nat) : Shape → Shape
  | list item => item
  | record fields => (fields[i]?.map (·.2)).getD plain
  | _ => plain

def Separate (fields : List (List String × Shape)) : Prop :=
  fields.Pairwise fun f g => ∀ key ∈ f.1, key ∉ g.1

end Shape

variable {α β : Type} {shape : Shape} {fields : List (List String × Shape)}
  {f : List String × Shape} {key : String} {u v v' : Value}
    {ms ms' : List (String × Value)}
  {items : List Value} {s : Strictness}

/-! ### Spellings -/

/-- One way in which two spellings of a value may differ, at some depth: the order of
members, a member that is not looked for, or the name that is chosen for a field. The
members of a map are put in another order only if no name occurs twice among them. -/
inductive Respells : Shape → Value → Value → Prop
  | reordered {shape : Shape} {ms ms' : List (String × Value)} (hperm : ms.Perm ms')
      (hmap : ∀ entry, shape = .map entry → (ms.map Prod.fst).Nodup) :
      Respells shape (.record ms) (.record ms')
  | extended {fields : List (List String × Shape)} {front back : List (String × Value)}
      {key : String} {v : Value} (hkey : ∀ f ∈ fields, key ∉ f.1) :
      Respells (.record fields) (.record (front ++ back))
      (.record (front ++ (key, v) :: back))
  | renamed {fields : List (List String × Shape)} {f : List String × Shape}
      {front back : List (String × Value)} {key key' : String} {v : Value}
      (hf : f ∈ fields)
      (hkey : key ∈ f.1) (hkey' : key' ∈ f.1) :
      Respells (.record fields) (.record (front ++ (key, v) :: back))
        (.record (front ++ (key', v) :: back))
  | member {shape : Shape} {front back : List (String × Value)} {key : String}
      {v v' : Value}
      (h : Respells (shape.member key) v v') :
      Respells shape (.record (front ++ (key, v) :: back))
      (.record (front ++ (key, v') :: back))
  | item {shape : Shape} {front back : List Value} {v v' : Value}
      (h : Respells (shape.item front.length) v v') :
      Respells shape (.list (front ++ v :: back)) (.list (front ++ v' :: back))

/-- Whether a field is given twice at some depth, under one name or under two. -/
inductive Doubled : Shape → Value → Prop
  | here {fields : List (List String × Shape)} {f : List String × Shape}
      {front middle back : List (String × Value)} {key key' : String} {v v' : Value}
      (hf : f ∈ fields) (hkey : key ∈ f.1) (hkey' : key' ∈ f.1) :
      Doubled (.record fields)
        (.record (front ++ (key, v) :: (middle ++ (key', v') :: back)))
  | member {shape : Shape} {front back : List (String × Value)} {key : String} {v : Value}
      (h : Doubled (shape.member key) v) :
      Doubled shape (.record (front ++ (key, v) :: back))
  | item {shape : Shape} {front back : List Value} {v : Value}
      (h : Doubled (shape.item front.length) v) :
      Doubled shape (.list (front ++ v :: back))

/-- Whether a reader makes the same of all spellings of a value, and nothing of a value
that gives a field twice. -/
structure Tolerant (shape : Shape) (read : Value → Option α) : Prop where
  respelled : ∀ v v', Relation.EqvGen (Respells shape) v v' → read v = read v'
  doubled : ∀ v, Doubled shape v → read v = none

/-- What a value becomes: another spelling, or nothing if it gives a field twice. -/
inductive Becomes (shape : Shape) (v : Value) : Option Value → Prop
  | respelled {v' : Value} (h : Respells shape v v') : Becomes shape v (some v')
  | doubled (h : Doubled shape v) : Becomes shape v none

/-- A reader makes of a value what it makes of what the value becomes. -/
def Tolerates (shape : Shape) (read : Value → Option α) : Prop :=
  ∀ v o, Becomes shape v o → read v = o.bind read

theorem Tolerates.tolerant {read : Value → Option α} (h : Tolerates shape read) :
    Tolerant shape read where
  respelled v v' hv := by
    induction hv with
    | rel v v' hv => exact h v (some v') (.respelled hv)
    | refl v => rfl
    | symm v v' _ ih => exact ih.symm
    | trans v v' v'' _ _ ih ih' => exact ih.trans ih'
  doubled v hv := h v none (.doubled hv)

/-! ### Values inside -/

theorem Becomes.compound {o : Option Value} (h : Becomes shape v o) :
    (∃ ms, v = .record ms ∧ ∀ v' ∈ o, ∃ ms', v' = .record ms') ∨
      ∃ items, v = .list items ∧ ∀ v' ∈ o, ∃ items', v' = .list items' := by
  cases h with
  | respelled h =>
      cases h with
      | item => exact .inr ⟨_, rfl, by simp⟩
      | _ => exact .inl ⟨_, rfl, by simp⟩
  | doubled h =>
      cases h with
      | item => exact .inr ⟨_, rfl, by simp⟩
      | _ => exact .inl ⟨_, rfl, by simp⟩

theorem not_doubled_plain : ¬ Doubled .plain v := by
  intro h
  generalize hshape : Shape.plain = shape at h
  induction h with
  | here => cases hshape
  | member _ ih => subst hshape; exact ih rfl
  | item _ ih => subst hshape; exact ih rfl

theorem Becomes.ne_null {o : Option Value} (h : Becomes shape v o) :
    v ≠ .null ∧ ∀ v' ∈ o, v' ≠ .null := by
  obtain ⟨ms, rfl, ho⟩ | ⟨items, rfl, ho⟩ := h.compound
  · refine ⟨nofun, fun v' hv' => ?_⟩
    obtain ⟨ms', rfl⟩ := ho v' hv'
    exact nofun
  · refine ⟨nofun, fun v' hv' => ?_⟩
    obtain ⟨items', rfl⟩ := ho v' hv'
    exact nofun

/-! ### Readers of values -/

theorem Tolerates.of_scalar {read : Value → Option α}
    (hrecord : ∀ ms, read (.record ms) = none)
    (hlist : ∀ items, read (.list items) = none) : Tolerates shape read := by
  intro v o h
  obtain ⟨ms, rfl, ho⟩ | ⟨items, rfl, ho⟩ := h.compound
  · rw [hrecord, eq_comm, Option.bind_eq_none_iff]
    intro v' hv'
    obtain ⟨ms', rfl⟩ := ho v' hv'
    exact hrecord ms'
  · rw [hlist, eq_comm, Option.bind_eq_none_iff]
    intro v' hv'
    obtain ⟨items', rfl⟩ := ho v' hv'
    exact hlist items'

theorem tolerates_text? : Tolerates shape text? :=
  .of_scalar (fun _ => rfl) fun _ => rfl

theorem tolerates_bool? : Tolerates shape bool? :=
  .of_scalar (fun _ => rfl) fun _ => rfl

theorem tolerates_naturalBelow? {limit : Nat} : Tolerates shape (naturalBelow? limit) :=
  .of_scalar (fun _ => rfl) fun _ => rfl

theorem choice?_record {name : α → String} {all : List α}
    (h : ∀ key, ms ≠ [(key, .null)]) : choice? name all (.record ms) = none := by
  unfold choice?
  split
  · next hv => cases hv
  · next hv =>
      cases hv
      exact (h _ rfl).elim
  · rfl

theorem append_cons_ne_singleton {front back : List (String × Value)} (hv : v ≠ .null)
    (key' : String) : front ++ (key, v) :: back ≠ [(key', .null)] := by
  intro h
  have hmem : (key, v) ∈ [(key', Value.null)] := by
    rw [← h]
    exact List.mem_append_right _ List.mem_cons_self
  exact hv (congrArg Prod.snd (List.mem_singleton.mp hmem))

/-- A record that stands for a name holds nothing but null, so it has one spelling. -/
theorem tolerates_choice? {name : α → String} {all : List α} :
    Tolerates .plain (choice? name all) := by
  intro v o h
  cases h with
  | doubled h => exact absurd h not_doubled_plain
  | respelled h =>
      cases h with
      | @reordered _ ms ms' hperm _ =>
          by_cases hms : ∃ key, ms = [(key, .null)]
          · obtain ⟨key, rfl⟩ := hms
            rw [List.singleton_perm.mp hperm]
            rfl
          · rw [not_exists] at hms
            refine (choice?_record hms).trans (choice?_record fun key hkey => ?_).symm
            rw [hkey, List.perm_singleton] at hperm
            exact hms key hperm
      | member h =>
          have hnull := (Becomes.respelled h).ne_null
          refine (choice?_record (append_cons_ne_singleton hnull.1)).trans ?_
          exact (choice?_record (append_cons_ne_singleton (hnull.2 _ rfl))).symm
      | item h => rfl

theorem nullable?_of_ne {read : Value → Option α} (hv : v ≠ .null) :
    nullable? read v = (read v).map some := by
  cases v with
  | null => exact absurd rfl hv
  | _ => rfl

theorem Tolerates.nullable? {read : Value → Option α} (h : Tolerates shape read) :
    Tolerates shape (Value.nullable? read) := by
  intro v o hv
  rw [nullable?_of_ne hv.ne_null.1, h v o hv]
  cases o with
  | none => rfl
  | some v' => exact (nullable?_of_ne (hv.ne_null.2 v' rfl)).symm

theorem mapM_append_cons {γ : Type} {read : γ → Option α} {place : Value → γ}
    {front back : List γ} {o : Option Value}
    (h : read (place u) = o.bind fun u' => read (place u')) :
    (front ++ place u :: back).mapM read =
      o.bind fun u' => (front ++ place u' :: back).mapM read := by
  simp only [List.mapM_append, List.mapM_cons, h, Option.bind_eq_bind]
  cases o with
  | none => simp
  | some u' => rfl

theorem Tolerates.listOf? {read : Value → Option α} (h : Tolerates shape read) :
    Tolerates (.list shape) (Value.listOf? read) := by
  intro v o hv
  cases hv with
  | respelled hv =>
      cases hv with
      | reordered => rfl
      | member => rfl
      | item hv => exact mapM_append_cons (h _ (some _) (.respelled hv))
  | doubled hv =>
      cases hv with
      | member => rfl
      | item hv => exact mapM_append_cons (h _ none (.doubled hv))

/-! ### Fields -/

namespace Shape

theorem Separate.not_mem_of_append {front back : List (List String × Shape)}
    (h : Separate (front ++ f :: back)) (hkey : key ∈ f.1) :
    ∀ g ∈ front ++ back, key ∉ g.1 := by
  rw [Separate, List.pairwise_append, List.pairwise_cons] at h
  obtain ⟨-, ⟨hback, -⟩, hfront⟩ := h
  intro g hg
  rcases List.mem_append.mp hg with hg | hg
  · intro hkey'
    exact hfront g hg f List.mem_cons_self key hkey' hkey
  · exact hback g hg key hkey

theorem Separate.eq_of_mem {g : List String × Shape} (h : Separate fields)
    (hf : f ∈ fields) (hg : g ∈ fields) (hkey : key ∈ f.1) (hkey' : key ∈ g.1) :
    f = g := by
  obtain ⟨front, back, rfl⟩ := List.append_of_mem hf
  by_contra hne
  have hothers : g ∈ front ++ back := by
    rw [List.mem_append, List.mem_cons] at hg
    rw [List.mem_append]
    rcases hg with hg | rfl | hg
    · exact .inl hg
    · exact absurd rfl hne
    · exact .inr hg
  exact h.not_mem_of_append hkey g hothers hkey'

theorem member_record_of_mem (hsep : Separate fields) (hf : f ∈ fields)
    (hkey : key ∈ f.1) : (record fields).member key = f.2 := by
  obtain ⟨front, back, rfl⟩ := List.append_of_mem hf
  have hfind : (front ++ f :: back).find? (fun g => g.1.contains key) = some f := by
    rw [List.find?_eq_some_iff_append]
    refine ⟨List.contains_iff_mem.mpr hkey, front, back, rfl, fun g hg => ?_⟩
    simpa using hsep.not_mem_of_append hkey g (List.mem_append_left _ hg)
  rw [member, hfind]
  rfl

theorem member_record_of_not_mem (hkey : ∀ f ∈ fields, key ∉ f.1) :
    (record fields).member key = plain := by
  have hfind : fields.find? (fun g => g.1.contains key) = none := by
    rw [List.find?_eq_none]
    intro g hg hcontains
    exact hkey g hg (List.contains_iff_mem.mp hcontains)
  rw [member, hfind]
  rfl

end Shape

theorem named_cons_of_mem {names : List String} (hkey : key ∈ names) :
    named names ((key, v) :: ms) = v :: named names ms := by
  simp [named, hkey]

theorem named_cons_of_not_mem {names : List String} (hkey : key ∉ names) :
    named names ((key, v) :: ms) = named names ms := by
  simp [named, hkey]

theorem named_insert_of_not_mem {names : List String} {front back : List (String × Value)}
    (hkey : key ∉ names) :
    named names (front ++ (key, v) :: back) = named names (front ++ back) := by
  rw [named_append, named_append, named_cons_of_not_mem hkey]

theorem named_insert_of_mem {names : List String} {front back : List (String × Value)}
    (hkey : key ∈ names) :
    named names (front ++ (key, v) :: back) = named names front ++ v ::
      named names back := by
  rw [named_append, named_cons_of_mem hkey]

theorem atMostOne?_of_two {vs : List Value} (h : 2 ≤ vs.length) :
    atMostOne? vs = none := by
  rcases vs with _ | ⟨v, _ | ⟨v', vs⟩⟩
  · simp at h
  · simp at h
  · rfl

theorem atMostOne?_perm {vs vs' : List Value} (h : vs.Perm vs') :
    atMostOne? vs = atMostOne? vs' := by
  rcases vs with _ | ⟨v, _ | ⟨v', vs⟩⟩
  · rw [h.nil_eq]
  · rw [List.singleton_perm.mp h]
  · have hlong : 2 ≤ vs'.length := by
      rw [← h.length_eq]
      simp
    exact (atMostOne?_of_two hlong).symm

theorem atMostOne?_append_cons (vs vs' : List Value) :
    (∀ u, atMostOne? (vs ++ u :: vs') = some (some u)) ∨
      ∀ u, atMostOne? (vs ++ u :: vs') = none := by
  by_cases h : vs.length + vs'.length = 0
  · obtain ⟨hvs, hvs'⟩ := Nat.add_eq_zero_iff.mp h
    rw [List.length_eq_zero_iff] at hvs hvs'
    subst hvs hvs'
    exact .inl fun u => rfl
  · exact .inr fun u => atMostOne?_of_two (by simp; omega)

theorem mapM_congr {γ : Type} {read read' : γ → Option α} {cs : List γ}
    (h : ∀ c ∈ cs, read c = read' c) : cs.mapM read = cs.mapM read' := by
  induction cs with
  | nil => rfl
  | cons c cs ih =>
      rw [List.forall_mem_cons] at h
      rw [List.mapM_cons, List.mapM_cons, h.1, ih h.2]

theorem fields?_congr (h : ∀ f ∈ fields,
      atMostOne? (named f.1 ms) = atMostOne? (named f.1 ms')) :
    (Value.record ms).fields? s (fields.map Prod.fst) =
      (Value.record ms').fields? s (fields.map Prod.fst) := by
  rw [fields?, fields?, List.mapM_map, List.mapM_map]
  exact mapM_congr h

theorem fields?_of_two (hf : f ∈ fields) (h : 2 ≤ (named f.1 ms).length) :
    (Value.record ms).fields? s (fields.map Prod.fst) = none := by
  obtain ⟨before, after, rfl⟩ := List.append_of_mem hf
  rw [fields?, List.mapM_map, List.mapM_append, List.mapM_cons, Function.comp_apply,
    atMostOne?_of_two h]
  simp

/-- What the fields of a value have to do with one value inside it, of some shape: they
cannot be told whatever it is, or do not depend on it, or it is the value of one of
them. -/
inductive Slot (s : Strictness) (fields : List (List String × Shape))
    (place : Value → Value) :
    Shape → Prop
  | refused {shape : Shape} (h : ∀ u, (place u).fields? s (fields.map Prod.fst) = none) :
      Slot s fields place shape
  | unread (h : ∀ u u', (place u).fields? s (fields.map Prod.fst) =
      (place u').fields? s (fields.map Prod.fst)) : Slot s fields place .plain
  | field {front back : List (List String × Shape)} {f : List String × Shape}
      {ws ws' : List (Option Value)} (hfields : fields = front ++ f :: back)
      (hlength : ws.length = front.length)
      (h : ∀ u, (place u).fields? s (fields.map Prod.fst) = some (ws ++ some u :: ws')) :
      Slot s fields place f.2

theorem forall₂_of_mapM {γ : Type} {read : γ → Option α} {cs : List γ} {as : List α}
    (h : cs.mapM read = some as) : List.Forall₂ (fun c a => read c = some a) cs as := by
  induction cs generalizing as with
  | nil =>
      cases h
      exact .nil
  | cons c cs ih =>
      simp only [List.mapM_cons, Option.bind_eq_bind, Option.bind_eq_some_iff,
        Option.pure_def, Option.some.injEq] at h
      obtain ⟨a, ha, as, has, rfl⟩ := h
      exact .cons ha (ih has)

theorem fields?_known {before after : List (List String × Shape)}
    (hsep : Shape.Separate (before ++ f :: after)) (hkey : key ∈ f.1)
    (front back : List (String × Value)) (u : Value) :
    (Value.record (front ++ (key, u) :: back)).fields? s
      ((before ++ f :: after).map Prod.fst) =
      (before.mapM fun g => atMostOne? (named g.1 (front ++ back))).bind fun ws =>
        (atMostOne? (named f.1 front ++ u :: named f.1 back)).bind fun w =>
          (after.mapM fun g => atMostOne? (named g.1 (front ++ back))).bind fun ws' =>
            some (ws ++ w :: ws') := by
  have hothers := hsep.not_mem_of_append hkey
  rw [List.forall_mem_append] at hothers
  have hrest : ∀ fs : List (List String × Shape), (∀ g ∈ fs, key ∉ g.1) →
      fs.mapM (fun g => atMostOne? (named g.1 (front ++ (key, u) :: back))) =
        fs.mapM fun g => atMostOne? (named g.1 (front ++ back)) := by
    intro fs hfs
    refine mapM_congr fun g hg => ?_
    rw [named_insert_of_not_mem (hfs g hg)]
  rw [fields?, List.mapM_map, Function.comp_def, List.mapM_append, List.mapM_cons,
    hrest before hothers.1, hrest after hothers.2, named_insert_of_mem hkey]
  simp only [bind_assoc, pure_bind]
  rfl

theorem slot_known {before after : List (List String × Shape)}
    (hsep : Shape.Separate (before ++ f :: after)) (hkey : key ∈ f.1)
    (front back : List (String × Value)) :
    Slot s (before ++ f :: after) (fun u => .record (front ++ (key, u) :: back)) f.2 := by
  have hfields := fields?_known hsep hkey (s := s) front back
  cases hbefore : before.mapM fun g => atMostOne? (named g.1 (front ++ back)) with
  | none =>
      refine .refused fun u => ?_
      rw [hfields, hbefore, Option.bind_none]
  | some ws =>
      cases hafter : after.mapM fun g => atMostOne? (named g.1 (front ++ back)) with
      | none =>
          refine .refused fun u => ?_
          simp only [hfields, hafter, Option.bind_none, Option.bind_fun_none]
      | some ws' =>
          rcases atMostOne?_append_cons (named f.1 front)
            (named f.1 back) with hone | hmany
          · have hvalues : ∀ u, (Value.record (front ++ (key, u) :: back)).fields? s
                ((before ++ f :: after).map Prod.fst) = some (ws ++ some u :: ws') := by
              intro u
              rw [hfields, hbefore, hafter, hone]
              rfl
            exact .field rfl (forall₂_of_mapM hbefore).length_eq.symm hvalues
          · refine .refused fun u => ?_
            rw [hfields, hbefore, hmany]
            rfl

/-- A member of a record is the value of the field that has its name. -/
theorem slot_member (hsep : Shape.Separate fields) (front back : List (String × Value))
    (key : String) :
    Slot s fields (fun u => .record (front ++ (key, u) :: back))
      ((Shape.record fields).member key) := by
  by_cases hknown : ∃ f ∈ fields, key ∈ f.1
  · obtain ⟨f, hf, hkey⟩ := hknown
    rw [Shape.member_record_of_mem hsep hf hkey]
    obtain ⟨before, after, rfl⟩ := List.append_of_mem hf
    exact slot_known hsep hkey front back
  · have hkey : ∀ f ∈ fields, key ∉ f.1 := fun f hf hkey => hknown ⟨f, hf, hkey⟩
    rw [Shape.member_record_of_not_mem hkey]
    refine .unread fun u u' => fields?_congr fun f hf => ?_
    rw [named_insert_of_not_mem (hkey f hf), named_insert_of_not_mem (hkey f hf)]

theorem fields?_list (items : List Value) {names : List (List String)}
    (h : ¬(s = .exact ∧ names.length < items.length)) :
    (Value.list items).fields? s names =
      some ((List.range names.length).map fun i => items[i]?) := by
  rw [fields?, if_neg (by simpa using h)]

theorem map_getElem?_range (front back : List Value) (u : Value) (n : Nat) :
    (List.range (front.length + (n + 1))).map (fun i => (front ++ u :: back)[i]?) =
      front.map some ++ some u :: (List.range n).map fun i => back[i]? := by
  rw [List.range_add, List.map_append, List.range_succ_eq_map, List.map_map]
  congr 1
  · refine List.ext_getElem (by simp) fun i _ hi => ?_
    rw [List.length_map] at hi
    rw [List.getElem_map, List.getElem_map, List.getElem_range,
      List.getElem?_append_left hi, List.getElem?_eq_getElem hi]
  · have hbehind : ∀ i, (front ++ u :: back)[front.length + (i + 1)]? = back[i]? := by
      intro i
      rw [List.getElem?_append_right (Nat.le_add_right _ _), Nat.add_sub_cancel_left,
        List.getElem?_cons_succ]
    simp [Function.comp_def, hbehind]

/-- An item of a list is the value of the field with its number. -/
theorem slot_item (front back : List Value) :
    Slot s fields (fun u => .list (front ++ u :: back))
      ((Shape.record fields).item front.length) := by
  by_cases hlong : s = .exact ∧ fields.length < (front ++ .null :: back).length
  · refine .refused fun u => ?_
    rw [fields?, if_pos (by simpa using hlong)]
  · have hfields : ∀ u, (Value.list (front ++ u :: back)).fields? s (fields.map Prod.fst) =
        some ((List.range fields.length).map fun i => (front ++ u :: back)[i]?) := by
      intro u
      rw [fields?_list _ (by simpa using hlong), List.length_map]
    by_cases hlength : front.length < fields.length
    · have hsplit : fields = fields.take front.length ++
          fields[front.length] :: fields.drop (front.length + 1) := by
        rw [← List.drop_eq_getElem_cons hlength, List.take_append_drop]
      have hitem : (Shape.record fields).item front.length = fields[front.length].2 := by
        rw [Shape.item, List.getElem?_eq_getElem hlength]
        rfl
      rw [hitem]
      have htake : (front.map some).length = (fields.take front.length).length := by
        rw [List.length_map, List.length_take_of_le (Nat.le_of_lt hlength)]
      have hvalues : ∀ u,
          (Value.list (front ++ u :: back)).fields? s (fields.map Prod.fst) =
            some (front.map some ++ some u ::
              (List.range (fields.length - front.length - 1)).map fun i => back[i]?) := by
        intro u
        have hn :
            fields.length = front.length + (fields.length - front.length - 1 + 1) := by
          omega
        rw [hfields, hn, map_getElem?_range, ← hn]
      exact .field hsplit htake hvalues
    · have hitem : (Shape.record fields).item front.length = .plain := by
        rw [Shape.item, List.getElem?_eq_none (Nat.le_of_not_lt hlength)]
        rfl
      rw [hitem]
      refine .unread fun u u' => ?_
      rw [hfields, hfields, Option.some.injEq]
      refine List.map_congr_left fun i hi => ?_
      have hi' : i < front.length := by
        rw [List.mem_range] at hi
        omega
      rw [List.getElem?_append_left hi', List.getElem?_append_left hi']

/-! ### Readers of records -/

/-- Reads the first of the values of some fields, and the rest depending on what that
was. -/
def field? (read : Option Value → Option β) (rest : β → List (Option Value) → Option α) :
    List (Option Value) → Option α
  | [] => none
  | w :: ws => (read w).bind fun b => rest b ws

def done? (a : α) : List (Option Value) → Option α
  | [] => some a
  | _ :: _ => none

/-- Whether the values of fields are read one after another, each by a reader that
tolerates what is looked for in it. -/
inductive Reads {α : Type} :
    List (List String × Shape) → (List (Option Value) → Option α) → Prop
  | done (a : α) : Reads [] (done? a)
  | field {f : List String × Shape} {fields : List (List String × Shape)} {β : Type}
      {read : Option Value → Option β} {rest : β → List (Option Value) → Option α}
      (hread : Tolerates f.2 fun v => read (some v)) (hrest : ∀ b, Reads fields (rest b)) :
      Reads (f :: fields) (field? read rest)

theorem Reads.becomes {front back : List (List String × Shape)}
    {readAll : List (Option Value) → Option α} {ws ws' : List (Option Value)}
    {o : Option Value} (h : Reads (front ++ f :: back) readAll)
    (hlength : ws.length = front.length) (hu : Becomes f.2 u o) :
    readAll (ws ++ some u :: ws') = o.bind fun u' => readAll (ws ++ some u' :: ws') := by
  induction front generalizing ws readAll with
  | nil =>
      rw [List.length_nil, List.length_eq_zero_iff] at hlength
      subst hlength
      cases h with
      | @field _ _ _ read rest hread hrest =>
          have hfirst : read (some u) = o.bind fun u' => read (some u') := hread u o hu
          simp only [List.nil_append, field?]
          rw [hfirst, Option.bind_assoc]
  | cons g front ih =>
      obtain ⟨w, ws, rfl⟩ := List.exists_cons_of_length_eq_add_one hlength
      rw [List.length_cons, List.length_cons, Nat.add_right_cancel_iff] at hlength
      cases h with
      | field hread hrest =>
          simp only [List.cons_append, field?, ih (hrest _) hlength]
          cases o with
          | none => simp only [Option.bind_none, Option.bind_fun_none]
          | some u' => rfl

theorem Slot.becomes {place : Value → Value} {readAll : List (Option Value) → Option α}
    {o : Option Value} (h : Slot s fields place shape) (hreads : Reads fields readAll)
    (hu : Becomes shape u o) :
    ((place u).fields? s (fields.map Prod.fst)).bind readAll =
      o.bind fun u' => ((place u').fields? s (fields.map Prod.fst)).bind readAll := by
  cases h with
  | refused h =>
      simp only [h, Option.bind_none, Option.bind_fun_none]
  | unread h =>
      cases hu with
      | respelled hu => rw [Option.bind_some, h]
      | doubled hu => exact absurd hu not_doubled_plain
  | field hfields hlength h =>
      subst hfields
      simp only [h, Option.bind_some]
      exact hreads.becomes hlength hu

theorem Tolerates.record {read : Value → Option α}
    {readAll : List (Option Value) → Option α} (hsep : Shape.Separate fields)
    (hreads : Reads fields readAll)
    (hread : ∀ v, read v = (v.fields? s (fields.map Prod.fst)).bind readAll) :
    Tolerates (.record fields) read := by
  have hfields :
      ∀ ms ms', (∀ f ∈ fields, atMostOne? (named f.1 ms) = atMostOne? (named f.1 ms')) →
      read (.record ms) = read (.record ms') := by
    intro ms ms' h
    rw [hread, hread, fields?_congr h]
  intro v o hv
  cases hv with
  | respelled hv =>
      cases hv with
      | reordered hperm _ =>
          exact hfields _ _ fun f _ => atMostOne?_perm ((hperm.filter _).map _)
      | extended hkey =>
          refine hfields _ _ fun f hf => ?_
          rw [named_insert_of_not_mem (hkey f hf)]
      | @renamed _ f front back key key' v hf hkey hkey' =>
          refine hfields _ _ fun g hg => ?_
          by_cases hkeyg : key ∈ g.1
          · obtain rfl := hsep.eq_of_mem hf hg hkey hkeyg
            rw [named_insert_of_mem hkey, named_insert_of_mem hkey']
          · have hkeyg' : key' ∉ g.1 := by
              intro hkeyg'
              obtain rfl := hsep.eq_of_mem hf hg hkey' hkeyg'
              exact hkeyg hkey
            rw [named_insert_of_not_mem hkeyg, named_insert_of_not_mem hkeyg']
      | @member _ front back key u u' hu =>
          rw [hread, (slot_member hsep front back key).becomes hreads (.respelled hu)]
          exact (hread _).symm
      | @item _ front back u u' hu =>
          rw [hread, (slot_item front back).becomes hreads (.respelled hu)]
          exact (hread _).symm
  | doubled hv =>
      cases hv with
      | @here _ f front middle back key key' u u' hf hkey hkey' =>
          rw [hread, fields?_of_two hf, Option.bind_none, Option.bind_none]
          rw [named_insert_of_mem hkey, named_insert_of_mem hkey', List.length_append,
            List.length_cons, List.length_append, List.length_cons]
          omega
      | @member _ front back key u hu =>
          rw [hread, (slot_member hsep front back key).becomes hreads (.doubled hu)]
          rfl
      | @item _ front back u hu =>
          rw [hread, (slot_item front back).becomes hreads (.doubled hu)]
          rfl

end ScriptLint.Data
