import ScriptLint.Parse.Stack

namespace ScriptLint.Parse

open ScriptLint.Grammar

/-! How trees under construction lie in the text: the children of a tree one behind the
other, from where it starts to where it stops. -/

variable {table : Table} {text : Input} {t : Subtree} {ts us : List Subtree}
  {label : Label} {layout : Option Nat} {p p' q q' r place : Nat}

mutual

/-- The children of a tree lie one behind the other, between its start and its stop, and
so do theirs. An extra has some text. -/
inductive Subtree.Laid : Subtree → Prop
  | node {f : Facts} {cs : Array Subtree} (h : Row f.start cs.toList f.stop)
      (hsolid : f.extra = true → f.hollow = false) : Subtree.Laid (.node f cs)

/-- `Row p ts q`: the trees lie one behind the other, from place `p` on and up to `q`. -/
inductive Row : Nat → List Subtree → Nat → Prop
  | nil {p q : Nat} (h : p ≤ q) : Row p [] q
  | cons {p q : Nat} {t : Subtree} {ts : List Subtree} (hp : p ≤ t.facts.start)
      (ht : t.Laid) (hts : Row t.facts.stop ts q) : Row p (t :: ts) q

end

mutual

theorem Subtree.Laid.start_le_stop {t : Subtree} : t.Laid → t.facts.start ≤ t.facts.stop
  | .node h _ => h.le

theorem Row.le {p q : Nat} {ts : List Subtree} : Row p ts q → p ≤ q
  | .nil h => h
  | .cons hp ht hts => Nat.le_trans hp (Nat.le_trans ht.start_le_stop hts.le)

end

namespace Row

theorem mono (h : Row p ts q) (hp : p' ≤ p) (hq : q ≤ q') : Row p' ts q' := by
  induction ts generalizing p p' with
  | nil =>
      obtain ⟨hle⟩ := h
      exact .nil (by omega)
  | cons t ts ih =>
      cases h with
      | cons hstart ht hts =>
          exact .cons (Nat.le_trans hp hstart) ht (ih hts (Nat.le_refl _))

theorem append (h : Row p ts q) (h' : Row q us r) : Row p (ts ++ us) r := by
  induction ts generalizing p with
  | nil => exact h'.mono h.le (Nat.le_refl r)
  | cons t ts ih =>
      cases h with
      | cons hstart ht hts => exact .cons hstart ht (ih hts)

/-- Between the two parts of a row there is a place. -/
theorem exists_of_append (h : Row p (ts ++ us) r) : ∃ q, Row p ts q ∧ Row q us r := by
  induction ts generalizing p with
  | nil => exact ⟨p, .nil (Nat.le_refl p), h⟩
  | cons t ts ih =>
      cases h with
      | cons hstart ht hts =>
          obtain ⟨q, hfront, hback⟩ := ih hts
          exact ⟨q, .cons hstart ht hfront, hback⟩

theorem singleton (hp : p ≤ t.facts.start) (ht : t.Laid) (hq : t.facts.stop ≤ q) :
    Row p [t] q :=
  .cons hp ht (.nil hq)

theorem singleton_iff : Row p [t] q ↔ p ≤ t.facts.start ∧ t.Laid ∧ t.facts.stop ≤ q := by
  constructor
  · intro h
    cases h with
    | cons hp ht hts => exact ⟨hp, ht, hts.le⟩
  · intro h
    exact singleton h.1 h.2.1 h.2.2

end Row

namespace Subtree

theorem Laid.row_children (h : t.Laid) :
    Row t.facts.start t.children.toList t.facts.stop := by
  cases h with
  | node h hsolid => exact h

theorem Laid.solid (h : t.Laid) : t.facts.extra = true → t.facts.hollow = false := by
  cases h with
  | node h hsolid => exact hsolid

theorem Laid.asExtra (h : t.Laid) (hsolid : t.facts.hollow = false) : t.asExtra.Laid := by
  cases t
  exact .node h.row_children fun _ => hsolid

theorem Laid.withWeight (h : t.Laid) (w : Int) : (t.withWeight w).Laid := by
  cases t
  exact .node h.row_children h.solid

/-- A tree over children takes its text from them. -/
theorem branch_eq (table : Table) (text : Input) (label : Label) (cs : Array Subtree)
    (layout : Option Nat) (place : Nat) :
    ∃ f : Facts, branch table text label cs layout place = .node f cs ∧
      f.start = (cs[0]?.map (·.facts.start)).getD place ∧
      f.stop = (cs.back?.map (·.facts.stop)).getD place ∧ f.hollow = cs.isEmpty ∧
      f.extra = false := by
  unfold branch
  cases label with
  | symbol s => exact ⟨_, rfl, rfl, rfl, rfl, rfl⟩
  | error => exact ⟨_, rfl, rfl, rfl, rfl, rfl⟩
  | skipped => exact ⟨_, rfl, rfl, rfl, rfl, rfl⟩

end Subtree

theorem Row.getLast_stop_le (h : Row p ts q) (hts : ts ≠ []) :
    Row p ts (ts.getLast hts).facts.stop ∧ (ts.getLast hts).facts.stop ≤ q := by
  induction ts generalizing p with
  | nil => exact absurd rfl hts
  | cons t ts ih =>
      cases h with
      | cons hp ht hrest =>
          cases ts with
          | nil => exact ⟨.singleton hp ht (Nat.le_refl _), hrest.le⟩
          | cons u us =>
              obtain ⟨hrow, hle⟩ := ih hrest (List.cons_ne_nil u us)
              rw [List.getLast_cons (List.cons_ne_nil u us)]
              exact ⟨.cons hp ht hrow, hle⟩

/-- Trees in a row make one tree in their place. -/
theorem Row.branch (h : Row p ts q) (hp : p ≤ place) (hq : place ≤ q) :
    Row p [Subtree.branch table text label ts.toArray layout place] q := by
  obtain ⟨f, hbranch, hstart, hstop, -, hextra⟩ :=
    Subtree.branch_eq table text label ts.toArray layout place
  have hsolid : f.extra = true → f.hollow = false := by
    rw [hextra]
    exact nofun
  rw [hbranch]
  cases ts with
  | nil =>
      obtain rfl : place = f.start := hstart.symm
      obtain hstop : f.stop = f.start := hstop
      exact .singleton hp (.node (.nil (by omega)) hsolid) (by rw [Subtree.facts]; omega)
  | cons t ts =>
      have hback :
          (t :: ts).toArray.back? = some ((t :: ts).getLast (List.cons_ne_nil t ts)) := by
        rw [List.back?_toArray, List.getLast?_eq_some_getLast]
      obtain ⟨hrow, hle⟩ := h.getLast_stop_le (List.cons_ne_nil t ts)
      rw [hback] at hstop
      cases hrow with
      | cons hp' ht hts =>
          have hstart : f.start = t.facts.start := hstart
          have hstop :
              f.stop = ((t :: ts).getLast (List.cons_ne_nil t ts)).facts.stop := hstop
          refine .singleton (Nat.le_trans hp' (Nat.le_of_eq hstart.symm)) (.node ?_ hsolid)
            (Nat.le_trans (Nat.le_of_eq hstop) hle)
          rw [hstart, hstop]
          exact .cons (Nat.le_refl _) ht hts

/-- The children of a tree in a row may stand in its place. -/
theorem Row.unwrap (h : Row p (ts ++ t :: us) q) :
    Row p (ts ++ t.children.toList ++ us) q := by
  obtain ⟨r, hfront, hback⟩ := h.exists_of_append
  cases hback with
  | cons hr ht hus =>
      exact (hfront.append (ht.row_children.mono hr (Nat.le_refl _))).append hus

namespace Subtree

theorem splitTrailing_append (ts : List Subtree) :
    (splitTrailing ts).1 ++ (splitTrailing ts).2 = ts := by
  rw [splitTrailing, ← List.reverse_append, List.takeWhile_append_dropWhile,
    List.reverse_reverse]

theorem row_complete (h : Row p ts q) :
    Row p ((complete table text label layout p ts).1 ::
      (complete table text label layout p ts).2) q := by
  rw [← splitTrailing_append ts] at h
  obtain ⟨r, hfront, hback⟩ := h.exists_of_append
  exact Row.append (hfront.branch (Nat.le_refl p) hfront.le) hback

theorem row_gather? (h : Row 0 ts q) (ht : gather? table text ts = some t) :
    Row 0 [t] q := by
  have happend := splitTrailing_append ts
  unfold gather? at ht
  generalize splitTrailing ts = split at ht happend
  obtain ⟨inner, extras⟩ := split
  obtain ⟨u, hu, rfl⟩ := Option.map_eq_some_iff.mp ht
  obtain ⟨front, rfl⟩ := List.getLast?_eq_some_iff.mp hu
  rw [← happend, List.append_assoc] at h
  rw [List.dropLast_concat]
  exact h.unwrap.branch (Nat.zero_le 0) (Nat.zero_le q)

end Subtree

end ScriptLint.Parse
