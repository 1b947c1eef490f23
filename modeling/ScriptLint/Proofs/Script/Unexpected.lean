import ScriptLint.Proofs.Check.Coverage
import ScriptLint.Proofs.Script.Layout
import ScriptLint.Proofs.Text.Lines

namespace ScriptLint

open ScriptLint.Script ScriptLint.Text

/-! Which token of a faulty node is said to be unexpected. -/

namespace Script

namespace Node

variable {n t u : Node}

/-- A token with text in it, comments included. -/
def IsSolid (n : Node) : Prop := n.children = [] ∧ n.start.byte < n.stop

instance : DecidablePred IsSolid := fun n =>
  decidable_of_iff (n.children.isEmpty = true ∧ n.start.byte < n.stop) (by
    rw [List.isEmpty_iff, IsSolid])

def IsProper (n : Node) : Prop := n.IsSolid ∧ ¬ n.IsAnyComment

instance : DecidablePred IsProper := fun n =>
  inferInstanceAs (Decidable (n.IsSolid ∧ ¬ n.IsAnyComment))

theorem Laid.pairwise_solid (h : n.Laid) :
    n.preorderAll.Pairwise fun c d => c.IsSolid → c.stop ≤ d.start.byte := by
  induction n using induct with
  | h n ih =>
      rw [preorderAll_eq, List.pairwise_cons, List.pairwise_flatMap]
      refine ⟨fun d hd hsolid => ?_, fun c hc => ih c hc (h.of_child hc), ?_⟩
      · rw [hsolid.1] at hd
        cases hd
      · exact h.pairwise_apart.imp fun hapart d hd d' hd' _ => hapart d hd d' hd'

theorem firstOf_solid_eq_iff (ht : FirstOf IsSolid n.preorderAll t)
    (hu : FirstOf IsProper n.preorderAll u) : t = u ↔ ¬ t.IsAnyComment := by
  constructor
  · rintro rfl
    exact hu.1.2
  · intro hcomment
    obtain ⟨hsolid, front, back, hsplit, hfront⟩ := ht
    refine FirstOf.unique ⟨⟨hsolid, hcomment⟩, front, back, hsplit, ?_⟩ hu
    exact fun b hb hproper => hfront b hb hproper.1

theorem exists_firstOf_solid (hu : FirstOf IsProper n.preorderAll u) :
    ∃ t, FirstOf IsSolid n.preorderAll t := by
  have hq (t : Node) : decide t.IsSolid = true ↔ t.IsSolid := decide_eq_true_iff
  cases hfind : n.preorderAll.find? (fun t => decide t.IsSolid) with
  | some t => exact ⟨t, (find?_eq_some_iff_firstOf hq).mp hfind⟩
  | none => exact absurd ⟨u, hu.mem, hu.1.1⟩ ((find?_eq_none_iff_forall hq).mp hfind)

theorem Laid.stop_le_of_firstOf (h : n.Laid) (ht : FirstOf IsSolid n.preorderAll t)
    (hu : u ∈ n.preorderAll) (hproper : u.IsProper) (hne : t ≠ u) :
    t.stop ≤ u.start.byte := by
  obtain ⟨hsolid, front, back, hsplit, hfront⟩ := ht
  rw [hsplit, List.mem_append, List.mem_cons] at hu
  have hpairwise := h.pairwise_solid
  rw [hsplit, List.pairwise_append, List.pairwise_cons] at hpairwise
  rcases hu with hu | rfl | hu
  · exact absurd hproper.1 (hfront u hu)
  · exact absurd rfl hne
  · exact hpairwise.2.1.1 u hu hsolid

end Node

def unexpected (s : Script) (t : Node) : Rejection :=
  let text := trim (t.text s.source)
  let shown := ((lines text).headD text).take shownLength
  ⟨if text = [] then .unexpectedEnd else .unexpectedToken (String.ofList shown),
    t.location s.source⟩

variable {s : Script} {n t u : Node}

theorem describe_of_firstOf (hmissing : n.missing = false)
    (ht : FirstOf Node.IsSolid n.preorderAll t) : s.describe n = s.unexpected t := by
  have hsolid (m : Node) :
      (m.children.isEmpty && decide (m.start.byte < m.stop)) = true ↔ m.IsSolid := by
    rw [Bool.and_eq_true, List.isEmpty_iff, decide_eq_true_iff, Node.IsSolid]
  have hfind :
      n.findAny? (fun m => m.children.isEmpty && decide (m.start.byte < m.stop)) =
        some t := by
    rw [Node.findAny?_eq]
    exact (find?_eq_some_iff_firstOf hsolid).mpr ht
  simp [describe, hmissing, hfind, unexpected, reject]

theorem unexpected_of_line (text : List Char) (htext : trim (t.text s.source) = text)
    (hne : text ≠ []) (hfeed : '\n' ∉ text) :
    s.unexpected t =
      ⟨.unexpectedToken (String.ofList (text.take shownLength)), t.location s.source⟩ := by
  simp only [unexpected, htext, if_neg hne, lines_of_not_mem hne hfeed, List.headD_cons]

theorem rejection?_of_firstOf (hs : s.flawed = true)
    (hn : FirstOf (fun n => n.isFault = true) s.root.preorderAll n) :
    s.rejection? = some (s.describe n) := by
  have hfind : s.root.findAny? Node.isFault = some n := by
    rw [Node.findAny?_eq]
    exact (find?_eq_some_iff_firstOf fun _ => Iff.rfl).mpr hn
  rw [rejection?, if_pos hs, hfind, Option.map_some]

theorem location_precedes_of_firstOf (hlaid : n.Laid)
    (hwithin : ∀ m ∈ n.preorderAll, m.start.Within s.source)
    (ht : FirstOf Node.IsSolid n.preorderAll t) (hu : u ∈ n.preorderAll)
    (hproper : u.IsProper) (hne : t ≠ u) :
    (t.location s.source).Precedes (u.location s.source) := by
  refine (Node.precedes_iff_of_within (hwithin t ht.mem) (hwithin u hu)).mpr ?_
  exact Nat.lt_of_lt_of_le ht.1.2 (hlaid.stop_le_of_firstOf ht hu hproper hne)

/-- Of a node whose text fits nowhere, the first token with text is reported, comments
included. So it is the first token that is no comment exactly if no comment with text comes
before that in the node; otherwise it is such a comment, and what is reported stands too
early. -/
theorem rejection?_shows_first_token (hs : s.flawed = true)
    (hn : FirstOf (fun n => n.isFault = true) s.root.preorderAll n)
    (hmissing : n.missing = false) (hu : FirstOf Node.IsProper n.preorderAll u) :
    ∃ t, FirstOf Node.IsSolid n.preorderAll t ∧ s.rejection? = some (s.unexpected t) ∧
      (t = u ↔ ¬ t.IsAnyComment) ∧
      (n.Laid → (∀ m ∈ n.preorderAll, m.start.Within s.source) →
        (s.rejection? = some (s.unexpected u) ↔ ¬ t.IsAnyComment) ∧
        (t.IsAnyComment → (t.location s.source).Precedes (u.location s.source))) := by
  obtain ⟨t, ht⟩ := Node.exists_firstOf_solid hu
  have hreported : s.rejection? = some (s.unexpected t) := by
    rw [rejection?_of_firstOf hs hn, describe_of_firstOf hmissing ht]
  have hsame := Node.firstOf_solid_eq_iff ht hu
  refine ⟨t, ht, hreported, hsame, fun hlaid hwithin => ?_⟩
  have hprecedes (hcomment : t.IsAnyComment) :
      (t.location s.source).Precedes (u.location s.source) :=
    location_precedes_of_firstOf hlaid hwithin ht hu.mem hu.1 fun heq =>
      hsame.mp heq hcomment
  refine ⟨⟨fun hshown hcomment => ?_, fun hcomment => ?_⟩, hprecedes⟩
  · have heq : s.unexpected t = s.unexpected u :=
      Option.some.inj (hreported.symm.trans hshown)
    have hlocation : t.location s.source = u.location s.source :=
      congrArg Rejection.location heq
    have hbefore := hprecedes hcomment
    rw [hlocation] at hbefore
    exact hbefore.asymm hbefore
  · rw [hreported, hsame.mpr hcomment]

/-! ### A comment before and behind -/

def noteText : List Char := "/* note */".toList

/-- More parentheses than a repair looks back over. -/
def openText : List Char := List.replicate 24 '('

def openToken (start : Nat) : Node := .onLine (.token "(") none start (start + 1) []

def openTokens (start : Nat) : List Node :=
  (List.range 24).map fun k => openToken (start + k)

def noteBehind : Script where
  source := openText ++ ' ' :: noteText
  root := .onLine .error none 0 35 (openTokens 0 ++ [.onLine .comment none 25 35 []])
  flawed := true

def noteBefore : Script where
  source := noteText ++ ' ' :: openText
  root := .onLine .error none 0 35 (.onLine .comment none 0 10 [] :: openTokens 11)
  flawed := true

theorem noteBehind_shows_first_token :
    noteBehind.root.Laid ∧
    (∀ m ∈ noteBehind.root.preorderAll, m.start.Within noteBehind.source) ∧
      noteBehind.rejection? = some ⟨.unexpectedToken "(", ⟨1, 1⟩⟩ := by
  have hlaid : noteBehind.root.Laid := by
    decide
  have hwithin : ∀ m ∈ noteBehind.root.preorderAll, m.start.Within noteBehind.source := by
    have htake : ∀ m ∈ noteBehind.root.preorderAll,
        m.start = Mark.after (noteBehind.source.take m.start.byte) := by
      decide
    exact fun m hm => within_of_eq_take (htake m hm)
  have hn :
      FirstOf (fun n => n.isFault = true) noteBehind.root.preorderAll noteBehind.root :=
    ⟨rfl, [], _, rfl, List.forall_mem_nil _⟩
  have hu : FirstOf Node.IsProper noteBehind.root.preorderAll (openToken 0) :=
    ⟨by decide, [noteBehind.root], _, rfl, by decide⟩
  have hopen : FirstOf Node.IsSolid noteBehind.root.preorderAll (openToken 0) :=
    ⟨hu.1.1, [noteBehind.root], _, rfl, by decide⟩
  obtain ⟨t, ht, -, hsame, hplaced⟩ := rejection?_shows_first_token rfl hn rfl hu
  have hcomment : ¬ t.IsAnyComment := hsame.mp (ht.unique hopen)
  refine ⟨hlaid, hwithin, ?_⟩
  rw [(hplaced hlaid hwithin).1.mpr hcomment,
    unexpected_of_line ['('] rfl (by decide) (by decide)]
  rfl

/-- The comment before the parentheses is said to be the unexpected token. -/
theorem noteBefore_shows_comment :
    FirstOf (fun n => n.isFault = true) noteBefore.root.preorderAll noteBefore.root ∧
      FirstOf Node.IsProper noteBefore.root.preorderAll (openToken 11) ∧
      noteBefore.unexpected (openToken 11) = ⟨.unexpectedToken "(", ⟨1, 12⟩⟩ ∧
      noteBefore.rejection? = some ⟨.unexpectedToken "/* note */", ⟨1, 1⟩⟩ := by
  have hn :
      FirstOf (fun n => n.isFault = true) noteBefore.root.preorderAll noteBefore.root :=
    ⟨rfl, [], _, rfl, List.forall_mem_nil _⟩
  have hu : FirstOf Node.IsProper noteBefore.root.preorderAll (openToken 11) :=
    ⟨by decide, [noteBefore.root, .onLine .comment none 0 10 []], _, rfl, by decide⟩
  have ht :
      FirstOf Node.IsSolid noteBefore.root.preorderAll (.onLine .comment none 0 10 []) :=
    ⟨by decide, [noteBefore.root], _, rfl, by decide⟩
  refine ⟨hn, hu, ?_, ?_⟩
  · rw [unexpected_of_line ['('] rfl (by decide) (by decide)]
    rfl
  · rw [rejection?_of_firstOf rfl hn, describe_of_firstOf rfl ht,
      unexpected_of_line noteText rfl (by decide) (by decide)]
    rfl

end Script

end ScriptLint
