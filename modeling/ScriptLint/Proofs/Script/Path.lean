import ScriptLint.Proofs.Script.Tree

namespace ScriptLint.Script

/-! The nodes of a tree by the paths that lead to them. Nodes in different places can be
alike, and their paths tell them apart. -/

/-- The way from the root of a tree to a node: at each node the number of the child that
comes next, counted among all children. -/
abbrev Path := List Nat

namespace Path

variable {p q : Path}

/-- Whether a path comes before another: it leads to a node above, or it turns to an
earlier child where the two part. -/
inductive Precedes : Path → Path → Prop
  | above (p : Path) (i : Nat) (rest : Path) : Precedes p (p ++ i :: rest)
  | beside (p : Path) {i j : Nat} (hlt : i < j) (rest rest' : Path) :
      Precedes (p ++ i :: rest) (p ++ j :: rest')

theorem Precedes.cons (h : p.Precedes q) (i : Nat) : Precedes (i :: p) (i :: q) := by
  cases h with
  | above p j rest => exact .above (i :: p) j rest
  | beside p hlt rest rest' => exact .beside (i :: p) hlt rest rest'

theorem Precedes.ne (h : p.Precedes q) : p ≠ q := by
  cases h with
  | above p i rest =>
      exact fun heq => List.cons_ne_nil i rest (List.self_eq_append_right.mp heq)
  | beside p hlt rest rest' =>
      intro heq
      obtain ⟨hij, -⟩ := List.cons.inj (List.append_cancel_left heq)
      exact Nat.ne_of_lt hlt hij

end Path

namespace Node

variable {n c d : Node} {namedOnly : Bool} {path : Path}

def isMet (namedOnly : Bool) (c : Node) : Bool := !namedOnly || c.isNamed

theorem next_eq_filter_isMet (w : Walk) (n : Node) :
    w.next n = n.children.filter (isMet w.namedOnly) := by
  unfold Walk.next
  cases w.namedOnly with
  | true => rfl
  | false => exact (List.filter_true n.children).symm

/-- `Leads namedOnly n path d`: the path leads from `n` to `d`, and where a visit goes to
named children only, through such children. -/
inductive Leads (namedOnly : Bool) : Node → Path → Node → Prop
  | here (n : Node) : Leads namedOnly n [] n
  | down {n c d : Node} {i : Nat} {path : Path} (hc : n.children[i]? = some c)
      (hmet : c.isMet namedOnly = true) (h : Leads namedOnly c path d) :
      Leads namedOnly n (i :: path) d

mutual

/-- The nodes that a visit meets, each with its path, parents before children and children
in order. -/
def places (namedOnly : Bool) : Node → List (Path × Node)
  | mk k r s e m cs => ([], mk k r s e m cs) :: placesAmong namedOnly 0 cs

def placesAmong (namedOnly : Bool) (i : Nat) : List Node → List (Path × Node)
  | [] => []
  | c :: cs =>
      (if c.isMet namedOnly then (c.places namedOnly).map
        fun t => (i :: t.1, t.2) else []) ++
        placesAmong namedOnly (i + 1) cs

end

theorem places_eq (namedOnly : Bool) (n : Node) :
    n.places namedOnly = ([], n) :: placesAmong namedOnly 0 n.children := by
  cases n
  rfl

theorem mem_placesAmong {i : Nat} {cs : List Node} {t : Path × Node} :
    t ∈ placesAmong namedOnly i cs ↔
      ∃ k c path, t.1 = (i + k) :: path ∧ cs[k]? = some c ∧ c.isMet namedOnly = true ∧
        (path, t.2) ∈ c.places namedOnly := by
  induction cs generalizing i with
  | nil => simp [placesAmong]
  | cons c cs ih =>
      rw [placesAmong, List.mem_append, ih]
      constructor
      · rintro (ht | ⟨k, c', path, hpath, hc', hmet, ht⟩)
        · by_cases hmet : c.isMet namedOnly = true
          · rw [if_pos hmet, List.mem_map] at ht
            obtain ⟨⟨path, d⟩, hd, rfl⟩ := ht
            exact ⟨0, c, path, rfl, rfl, hmet, hd⟩
          · rw [if_neg hmet] at ht
            exact absurd ht List.not_mem_nil
        · have hnumber : i + 1 + k = i + (k + 1) := by omega
          exact ⟨k + 1, c', path, hnumber ▸ hpath, hc', hmet, ht⟩
      · rintro ⟨k, c', path, hpath, hc', hmet, ht⟩
        cases k with
        | zero =>
            obtain rfl := Option.some.inj hc'
            refine .inl ?_
            rw [if_pos hmet, List.mem_map]
            exact ⟨(path, t.2), ht, Prod.ext hpath.symm rfl⟩
        | succ k =>
            have hnumber : i + (k + 1) = i + 1 + k := by omega
            exact .inr ⟨k, c', path, hnumber ▸ hpath, hc', hmet, ht⟩

/-- What is listed are the nodes that paths lead to. -/
theorem mem_places_iff_leads :
    (path, d) ∈ n.places namedOnly ↔ n.Leads namedOnly path d := by
  induction n using induct generalizing path with
  | h n ih =>
      rw [places_eq, List.mem_cons, mem_placesAmong]
      constructor
      · rintro (hroot | ⟨k, c, rest, hpath, hc, hmet, hd⟩)
        · obtain ⟨rfl, rfl⟩ := Prod.mk.inj hroot
          exact .here d
        · obtain rfl : path = k :: rest := by
            rw [← Nat.zero_add k]
            exact hpath
          exact .down hc hmet ((ih c (List.mem_of_getElem? hc)).mp hd)
      · intro h
        cases h with
        | here => exact .inl rfl
        | @down _ c _ k rest hc hmet h =>
            refine .inr ⟨k, c, rest, ?_, hc, hmet, (ih c (List.mem_of_getElem? hc)).mpr h⟩
            rw [Nat.zero_add]

theorem pairwise_placesAmong {i : Nat} {cs : List Node}
    (h : ∀ c ∈ cs, (c.places namedOnly).Pairwise fun t u => t.1.Precedes u.1) :
    (placesAmong namedOnly i cs).Pairwise fun t u => t.1.Precedes u.1 := by
  induction cs generalizing i with
  | nil => exact List.Pairwise.nil
  | cons c cs ih =>
      rw [List.forall_mem_cons] at h
      rw [placesAmong, List.pairwise_append]
      by_cases hmet : c.isMet namedOnly = true
      · rw [if_pos hmet, List.pairwise_map]
        refine ⟨h.1.imp fun hprecedes => hprecedes.cons i, ih h.2, ?_⟩
        intro t ht u hu
        obtain ⟨t, -, rfl⟩ := List.mem_map.mp ht
        obtain ⟨k, -, path, hpath, -⟩ := mem_placesAmong.mp hu
        rw [hpath]
        exact .beside [] (by omega) t.1 path
      · rw [if_neg hmet]
        exact ⟨List.Pairwise.nil, ih h.2, List.forall_mem_nil _⟩

theorem pairwise_places (namedOnly : Bool) (n : Node) :
    (n.places namedOnly).Pairwise fun t u => t.1.Precedes u.1 := by
  induction n using induct with
  | h n ih =>
      rw [places_eq, List.pairwise_cons]
      refine ⟨fun t ht => ?_, pairwise_placesAmong ih⟩
      obtain ⟨k, -, path, hpath, -⟩ := mem_placesAmong.mp ht
      rw [hpath]
      exact .above [] (0 + k) path

theorem nodup_map_fst_places (namedOnly : Bool) (n : Node) :
    ((n.places namedOnly).map (·.1)).Nodup := by
  rw [List.Nodup, List.pairwise_map]
  exact (n.pairwise_places namedOnly).imp Path.Precedes.ne

theorem map_snd_placesAmong {i : Nat} {cs : List Node}
    (h : ∀ c ∈ cs, (c.places namedOnly).map (·.2) = Walk.listing namedOnly c) :
    (placesAmong namedOnly i cs).map (·.2) =
      (cs.filter (isMet namedOnly)).flatMap (Walk.listing namedOnly) := by
  induction cs generalizing i with
  | nil => rfl
  | cons c cs ih =>
      rw [List.forall_mem_cons] at h
      rw [placesAmong, List.map_append, ih h.2]
      by_cases hmet : c.isMet namedOnly = true
      · rw [if_pos hmet, List.filter_cons_of_pos hmet, List.flatMap_cons, ← h.1,
          List.map_map]
        rfl
      · rw [if_neg hmet, List.filter_cons_of_neg hmet, List.map_nil, List.nil_append]

/-- Without their paths, the nodes are those of the recursive listing. -/
theorem map_snd_places (namedOnly : Bool) (n : Node) :
    (n.places namedOnly).map (·.2) = Walk.listing namedOnly n := by
  induction n using induct with
  | h n ih =>
      have hlisting := Walk.listing_eq (.ofNode namedOnly n) n
      rw [next_eq_filter_isMet] at hlisting
      rw [places_eq, List.map_cons, map_snd_placesAmong ih]
      exact hlisting.symm

end Node

end ScriptLint.Script
