import ScriptLint.Proofs.Parse.Token

namespace ScriptLint.Parse

/-! What the parser keeps of its session: the trees on every way down a stack lie one
behind the other, from the place of the node below them to that of the node above them. -/

namespace Session

/-- How far the text has been read at a node. -/
def place (s : Session) (n : Nat) : Nat := s.nodes[n]!.position

/-- How far a reading has come. -/
def reached (s : Session) (v : Nat) : Nat := s.place s.heads[v]!.node

end Session

/-- What decides how a reading goes on. -/
structure Stance where
  node : Nat
  status : Status
  lookahead : Option Subtree

def Head.stance (h : Head) : Stance := ⟨h.node, h.status, h.lookahead⟩

def Session.stance? (s : Session) (v : Nat) : Option Stance := s.heads[v]?.map Head.stance

/-- A reading stands on a node; the token that a paused one waits for is behind it. -/
structure Stance.Sound (size : Nat) (s : Session) (r : Stance) : Prop where
  on : r.node < s.nodes.size
  waits : r.status = .paused → ∀ t ∈ r.lookahead, t.Fits (s.place r.node) size

/-- A way down leads to a node, with the tree between its place and `q`. -/
structure Link.Sound (s : Session) (q : Nat) (l : Link) : Prop where
  on : l.node < s.nodes.size
  row : Row (s.place l.node) l.tree.toList q

structure Session.Sound (size : Nat) (s : Session) : Prop where
  root : 0 < s.nodes.size
  bottom : s.place 0 = 0
  within : ∀ n, s.place n ≤ size
  links : ∀ n : Nat, ∀ l ∈ s.nodes[n]!.links, l.Sound s (s.place n)
  heads : ∀ v r, s.stance? v = some r → r.Sound size s
  finished : ∀ t ∈ s.finished, Row 0 [t] size

/-- Nodes are only added, and keep their places. -/
structure Session.Grows (s s' : Session) : Prop where
  size : s.nodes.size ≤ s'.nodes.size
  place : ∀ n < s.nodes.size, s'.place n = s.place n

/-- What is done to one session to get another one does not change the readings of which
`P` holds. -/
structure Session.Keeps (P : Nat → Prop) (s s' : Session) : Prop extends s.Grows s' where
  stance : ∀ v, P v → s'.stance? v = s.stance? v

def Session.KeepsAll (s s' : Session) : Prop := s.Keeps (fun _ => True) s'

/-- One of the readings has been taken out. -/
structure Session.Drops (v : Nat) (s s' : Session) : Prop extends s.Grows s' where
  before : ∀ w < v, s'.stance? w = s.stance? w
  behind : ∀ w, v ≤ w → s'.stance? w = s.stance? (w + 1)

/-- A reading goes on, and has come no further than `q`. -/
def Session.Holds (s : Session) (v q : Nat) : Prop :=
  ∃ r, s.stance? v = some r ∧ r.status = .active ∧ r.node < s.nodes.size ∧
    s.place r.node ≤ q

/-- Every reading from `low` on goes on, and has come no further than `q`. -/
def Session.AllHold (low q : Nat) (s : Session) : Prop :=
  ∀ v, low ≤ v → v < s.heads.size → s.Holds v q

variable {c : Context} {s s' s'' : Session} {P Q : Nat → Prop} {n v w low q q' size : Nat}
  {r : Stance} {l : Link}

namespace Session

theorem Grows.rfl : s.Grows s := ⟨Nat.le_refl _, fun _ _ => Eq.refl _⟩

theorem Grows.trans (h : s.Grows s') (h' : s'.Grows s'') : s.Grows s'' where
  size := Nat.le_trans h.size h'.size
  place n hn := (h'.place n (Nat.lt_of_lt_of_le hn h.size)).trans (h.place n hn)

theorem Keeps.rfl : s.Keeps P s := ⟨.rfl, fun _ _ => Eq.refl _⟩

theorem Keeps.trans (h : s.Keeps P s') (h' : s'.Keeps P s'') : s.Keeps P s'' where
  toGrows := h.toGrows.trans h'.toGrows
  stance v hv := (h'.stance v hv).trans (h.stance v hv)

theorem Keeps.mono (h : s.Keeps P s') (hQ : ∀ v, Q v → P v) : s.Keeps Q s' :=
  ⟨h.toGrows, fun v hv => h.stance v (hQ v hv)⟩

theorem Drops.keeps (h : s.Drops v s') : s.Keeps (· < v) s' := ⟨h.toGrows, h.before⟩

/-- A reading holds wherever it comes to stand. -/
theorem Holds.move (h : s.Holds v q) (hgrows : s.Grows s')
    (hw : s'.stance? w = s.stance? v) :
    s'.Holds w q := by
  obtain ⟨r, hr, hactive, hlt, hq⟩ := h
  refine ⟨r, hw.trans hr, hactive, Nat.lt_of_lt_of_le hlt hgrows.size, ?_⟩
  rw [hgrows.place r.node hlt]
  exact hq

theorem Holds.keeps (h : s.Holds v q) (hkeeps : s.Keeps P s') (hv : P v) : s'.Holds v q :=
  h.move hkeeps.toGrows (hkeeps.stance v hv)

theorem Holds.mono (h : s.Holds v q) (hq : q ≤ q') : s.Holds v q' := by
  obtain ⟨r, hr, hactive, hlt, hle⟩ := h
  exact ⟨r, hr, hactive, hlt, Nat.le_trans hle hq⟩

theorem stance?_isSome : (s.stance? v).isSome ↔ v < s.heads.size := by
  rw [stance?, Option.isSome_map]
  simp

theorem Holds.lt (h : s.Holds v q) : v < s.heads.size := by
  obtain ⟨r, hr, -⟩ := h
  exact stance?_isSome.mp (by rw [hr]; rfl)

theorem Keeps.lt_iff (h : s.Keeps P s') (hv : P v) :
    v < s'.heads.size ↔ v < s.heads.size := by
  rw [← stance?_isSome, h.stance v hv, stance?_isSome]

/-- What leaves all readings as they are may be done one after the other. -/
theorem Keeps.extend (h : s.Keeps (· < s.heads.size) s')
    (h' : s'.Keeps (· < s'.heads.size) s'') :
    s.Keeps (· < s.heads.size) s'' :=
  h.trans (h'.mono fun _ hv => (h.lt_iff hv).mpr hv)

theorem Keeps.size_le (h : s.Keeps (· < s.heads.size) s') : s.heads.size ≤ s'.heads.size :=
  Nat.le_of_not_lt fun hlt => Nat.lt_irrefl _ ((h.lt_iff hlt).mpr hlt)

theorem Drops.holds (h : s.Drops v s') (hall : s.AllHold low q) : s'.AllHold low q := by
  intro w hlow hw
  by_cases hlt : w < v
  · exact (hall w hlow ((h.keeps.lt_iff hlt).mp hw)).keeps h.keeps hlt
  · have hbehind := h.behind w (Nat.le_of_not_lt hlt)
    have hw' : w + 1 < s.heads.size := by
      rw [← stance?_isSome, ← hbehind, stance?_isSome]
      exact hw
    exact (hall (w + 1) (by omega) hw').move h.toGrows hbehind

theorem AllHold.keeps (hall : s.AllHold low q) (h : s.Keeps (· ≠ v) s')
    (hv : s'.Holds v q) :
    s'.AllHold low q := by
  intro w hlow hw
  by_cases hwv : w = v
  · exact hwv ▸ hv
  · exact (hall w hlow ((h.lt_iff hwv).mp hw)).keeps h hwv

theorem stance_of (hr : s.stance? v = some r) : s.heads[v]!.stance = r := by
  obtain ⟨h, hh, rfl⟩ := Option.map_eq_some_iff.mp hr
  rw [getElem!_def, hh]

theorem reached_of (hr : s.stance? v = some r) : s.reached v = s.place r.node := by
  rw [← stance_of hr]
  rfl

theorem Grows.reached (h : s.Grows s') (hs : s.Sound size) (hv : v < s.heads.size)
    (hw : s'.stance? w = s.stance? v) : s'.reached w = s.reached v := by
  obtain ⟨r, hr⟩ := Option.isSome_iff_exists.mp (stance?_isSome.mpr hv)
  rw [reached_of hr, reached_of (hw.trans hr), h.place r.node (hs.heads v r hr).on]

theorem Keeps.reached (h : s.Keeps P s') (hs : s.Sound size) (hP : P v)
    (hv : v < s.heads.size) :
    s'.reached v = s.reached v :=
  h.toGrows.reached hs hv (h.stance v hP)

theorem Holds.reached_le (h : s.Holds v q) : s.reached v ≤ q := by
  obtain ⟨r, hr, -, -, hq⟩ := h
  rw [reached_of hr]
  exact hq

theorem Holds.here (h : s.Holds v q) : s.Holds v (s.reached v) := by
  obtain ⟨r, hr, hactive, hlt, -⟩ := h
  exact ⟨r, hr, hactive, hlt, Nat.le_of_eq (reached_of hr).symm⟩

end Session

theorem Stance.Sound.grow (h : r.Sound size s) (hg : s.Grows s') : r.Sound size s' where
  on := Nat.lt_of_lt_of_le h.on hg.size
  waits hpaused t ht := by
    rw [hg.place r.node h.on]
    exact h.waits hpaused t ht

theorem Link.Sound.grow (h : l.Sound s q) (hg : s.Grows s') : l.Sound s' q where
  on := Nat.lt_of_lt_of_le h.on hg.size
  row := by
    rw [hg.place l.node h.on]
    exact h.row

end ScriptLint.Parse
