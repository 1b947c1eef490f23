import ScriptLint.Proofs.Script.Layout
import ScriptLint.Proofs.Script.Returned

namespace ScriptLint

open ScriptLint.Text

/-! One tree in two sources that agree on it: what is read from its nodes is the same. -/

namespace Text

variable {before before' : List Char}

/-- If a place is the same behind two texts, so is what is reached from it through a
third. -/
theorem place_append_congr (mid : List Char)
    (hline : before.count '\n' = before'.count '\n')
    (hcolumn : (openLine before).length = (openLine before').length) :
    (before ++ mid).count '\n' = (before' ++ mid).count '\n' ∧
      (openLine (before ++ mid)).length = (openLine (before' ++ mid)).length := by
  refine ⟨by rw [List.count_append, List.count_append, hline], ?_⟩
  by_cases hend : '\n' ∈ mid
  · rw [openLine_append_of_mem hend, openLine_append_of_mem hend]
  · rw [openLine_append hend, openLine_append hend, List.length_append, List.length_append,
      hcolumn]

end Text

namespace Script

namespace Node

variable {source source' : List Char} {root n f m o : Node}

/-- The nodes of a tree have the same texts and the same places in two sources. -/
structure Alike (source source' : List Char) (root : Node) : Prop where
  texts : ∀ n ∈ root.preorderAll, n.text source = n.text source'
  places : ∀ n ∈ root.preorderAll, n.location source = n.location source'

namespace Alike

theorem of_mem (h : root.Alike source source') (hn : n ∈ root.preorderAll) :
    n.Alike source source' where
  texts d hd := h.texts d (mem_preorderAll_trans hd hn)
  places d hd := h.places d (mem_preorderAll_trans hd hn)

theorem of_child (h : n.Alike source source') (hm : m ∈ n.children) :
    m.Alike source source' :=
  h.of_mem (mem_preorderAll_of_child hm (self_mem_preorderAll m))

theorem of_child? {r : Role} (h : n.Alike source source') (hm : n.child? r = some m) :
    m.Alike source source' :=
  h.of_child (mem_children_of_child? hm)

theorem text_eq (h : n.Alike source source') : n.text source = n.text source' :=
  h.texts n (self_mem_preorderAll n)

theorem name_eq (h : n.Alike source source') : n.name source = n.name source' := by
  rw [name, name, h.text_eq]

theorem location_eq (h : n.Alike source source') :
    n.location source = n.location source' :=
  h.places n (self_mem_preorderAll n)

theorem stringValue_eq (h : n.Alike source source') :
    stringValue source n = stringValue source' n := by
  unfold stringValue
  apply List.flatMap_congr
  intro part hpart
  rw [(h.of_child (mem_namedChildren.mp hpart).1).text_eq]

/-! ### Functions -/

theorem of_mem_params {p : Node} (h : f.Alike source source') (hp : p ∈ f.params) :
    p.Alike source source' := by
  unfold params at hp
  split at hp
  · next ps hps =>
      have hnamed := (List.mem_filter.mp hp).1
      exact (h.of_child? hps).of_child (mem_namedChildren.mp hnamed).1
  · cases hp

theorem paramName?_eq (h : f.Alike source source') (i : Nat) :
    f.paramName? source i = f.paramName? source' i := by
  apply Option.map_congr
  intro p hp
  have hget := (Option.filter_eq_some_iff.mp hp).1
  exact (h.of_mem_params (List.mem_of_getElem? hget)).name_eq

/-! ### Objects and members -/

theorem key?_eq (h : m.Alike source source') : m.key? source = m.key? source' := by
  unfold key?
  cases hk : m.keyNode? with
  | none => rfl
  | some k =>
      have hkey : k.Alike source source' := by
        rw [keyNode?_eq_some_iff] at hk
        cases hk with
        | pair _ hk => exact h.of_child? hk
        | method _ hk => exact h.of_child? hk
        | shorthand => exact h
      simp only [Option.bind_some, hkey.name_eq, hkey.stringValue_eq]

theorem keys_eq (h : o.Alike source source') : o.keys source = o.keys source' := by
  unfold keys
  apply List.filterMap_congr
  intro m hm
  exact (h.of_child (mem_namedChildren.mp hm).1).key?_eq

theorem objectName?_eq (h : n.Alike source source') :
    n.objectName? source = n.objectName? source' := by
  apply Option.map_congr
  intro o ho
  exact (h.of_child? (Option.filter_eq_some_iff.mp ho).1).name_eq

theorem propertyName?_eq (h : n.Alike source source') :
    n.propertyName? source = n.propertyName? source' := by
  unfold propertyName?
  cases hp : n.child? .property with
  | some p => simp only [(h.of_child? hp).name_eq]
  | none =>
      cases hi : n.child? .index with
      | some i => simp only [(h.of_child? hi).stringValue_eq]
      | none => rfl

end Alike

/-! ### Returned objects -/

theorem mem_preorderAll_of_encloses {skipped : Node → Prop} (h : n.Encloses skipped o) :
    o ∈ n.preorderAll := by
  induction h with
  | bare => exact self_mem_preorderAll _
  | parentheses _ ha _ ih =>
      exact mem_preorderAll_trans ih (mem_preorderAll_of_mem_namedChildren ha.mem)

theorem mem_preorderAll_of_returnedObject? (hkind : n.kind = .returnStatement)
    (h : n.returnedObject? = some o) : o ∈ n.preorderAll := by
  have hskips : n.SkipsComments fun d => d.kind = .comment := fun _ _ => Iff.rfl
  obtain ⟨-, a, ha, hencloses⟩ := (returnedObject?_eq_some_iff hskips hkind).mp h
  exact mem_preorderAll_trans (mem_preorderAll_of_encloses hencloses)
    (mem_preorderAll_of_mem_namedChildren ha.mem)

end Node

/-! ### The same text at the same place -/

variable {s s' : Script} {f : Node} {before before' text after after' : List Char}

/-- The text of a node in a part of a source is cut out of the part. -/
theorem Node.text_append {n : Node} (hstart : byteLength before ≤ n.start.byte)
    (hforward : n.start.byte ≤ n.stop) (hstop : n.stop ≤ byteLength (before ++ text)) :
    n.text (before ++ text ++ after) =
      (slice? text (n.start.byte - byteLength before) (n.stop - byteLength before)).getD
        [] := by
  have hpart : n.stop - byteLength before ≤ byteLength text := by
    rw [byteLength_append] at hstop
    omega
  have hbyte : n.start.byte = byteLength before + (n.start.byte - byteLength before) := by
    omega
  have hend : n.stop = byteLength before + (n.stop - byteLength before) := by omega
  rw [Node.text, hbyte, hend, slice?_append_append hpart, Nat.add_sub_cancel_left,
    Nat.add_sub_cancel_left]

/-- A node in a part of a source stands behind a beginning of the part. -/
theorem Node.exists_location_append {n : Node}
    (hn : n.start.Within (before ++ text ++ after))
    (hstart : byteLength before ≤ n.start.byte)
    (hstop : n.start.byte ≤ byteLength (before ++ text)) :
    ∃ mid, mid <+: text ∧ byteLength (before ++ mid) = n.start.byte ∧
      n.location (before ++ text ++ after) =
        ⟨(before ++ mid).count '\n' + 1, (openLine (before ++ mid)).length + 1⟩ := by
  obtain ⟨upto, hupto, hfollows⟩ := hn
  rw [hfollows.byte] at hstart hstop
  have hbefore : before <+: before ++ text ++ after :=
    (List.prefix_append before text).trans (List.prefix_append _ after)
  obtain ⟨mid, rfl⟩ := prefix_of_byteLength_le hbefore hupto hstart
  have hprefix := prefix_of_byteLength_le hupto (List.prefix_append _ after) hstop
  exact ⟨mid, (List.prefix_append_right_inj before).mp hprefix, hfollows.byte.symm,
    Location.ofMark_of_follows hfollows hupto⟩

/-- A tree that has the same text in two sources, and starts at the same place, is alike in
them. -/
theorem LaidOut.alike (hs : s.LaidOut) (hs' : s'.LaidOut) (hf : f ∈ s.root.preorderAll)
    (hf' : f ∈ s'.root.preorderAll) (hsource : s.source = before ++ text ++ after)
    (hsource' : s'.source = before' ++ text ++ after')
    (hstart : byteLength before = f.start.byte)
    (hstart' : byteLength before' = f.start.byte)
    (hstop : byteLength (before ++ text) = f.stop)
    (hplace : f.location s.source = f.location s'.source) :
    f.Alike s.source s'.source := by
  have hstop' : byteLength (before' ++ text) = f.stop := by
    rw [byteLength_append] at hstop ⊢
    omega
  have hlaid := hs.laid.of_mem hf
  have hplaces {n : Node} (hn : n ∈ f.preorderAll) :
      ∃ mid, byteLength (before ++ mid) = n.start.byte ∧
        n.location s.source =
          ⟨(before ++ mid).count '\n' + 1, (openLine (before ++ mid)).length + 1⟩ ∧
        n.location s'.source =
          ⟨(before' ++ mid).count '\n' + 1, (openLine (before' ++ mid)).length + 1⟩ := by
    obtain ⟨hnstart, hnstop⟩ := hlaid.within hn
    have hforward := hlaid.forward n hn
    have hwithin := hs.starts n (Node.mem_preorderAll_trans hn hf)
    have hwithin' := hs'.starts n (Node.mem_preorderAll_trans hn hf')
    rw [hsource] at hwithin ⊢
    rw [hsource'] at hwithin' ⊢
    obtain ⟨mid, hmid, hbyte, hlocation⟩ :=
      Node.exists_location_append hwithin (by omega) (by omega)
    obtain ⟨mid', hmid', hbyte', hlocation'⟩ :=
      Node.exists_location_append hwithin' (by omega) (by omega)
    have hlength : byteLength mid = byteLength mid' := by
      rw [byteLength_append] at hbyte hbyte'
      omega
    obtain rfl := eq_of_byteLength_eq hmid hmid' hlength
    exact ⟨mid, hbyte, hlocation, hlocation'⟩
  -- The tree itself stands behind `before` and `before'`, so these end at one place.
  obtain ⟨hline, hcolumn⟩ : before.count '\n' = before'.count '\n' ∧
      (openLine before).length = (openLine before').length := by
    obtain ⟨mid, hbyte, hlocation, hlocation'⟩ := hplaces (Node.self_mem_preorderAll f)
    have hnone : mid = [] := by
      have hle := length_le_byteLength mid
      rw [byteLength_append] at hbyte
      exact List.length_eq_zero_iff.mp (by omega)
    rw [hlocation, hlocation', hnone, List.append_nil, List.append_nil,
      Location.mk.injEq] at hplace
    omega
  constructor
  · intro n hn
    obtain ⟨hnstart, hnstop⟩ := hlaid.within hn
    have hforward := hlaid.forward n hn
    rw [hsource, hsource', Node.text_append (by omega) hforward (by omega),
      Node.text_append (by omega) hforward (by omega), hstart, hstart']
  · intro n hn
    obtain ⟨mid, -, hlocation, hlocation'⟩ := hplaces hn
    obtain ⟨hlines, hcolumns⟩ := place_append_congr mid hline hcolumn
    rw [hlocation, hlocation', hlines, hcolumns]

end Script

end ScriptLint
