import Mathlib.Tactic.ByContra
import ScriptLint.Parse.Lexeme
import ScriptLint.Proofs.Parse.Ends
import ScriptLint.Proofs.Parse.Row

namespace ScriptLint.Parse

open ScriptLint.Grammar

/-! Where tokens lie: behind the place that they are looked for, and in the text. -/

namespace Input

variable {t : Input} {p q lo : Nat} {f : Char → Bool} {cs : List Char}

theorem le_seek : p ≤ t.seek f p := by
  fun_induction seek t f p with
  | case1 p h hf => exact Nat.le_refl p
  | case2 p h hf ih => omega
  | case3 p h => exact Nat.le_refl p

theorem seek_le (hp : p ≤ t.size) : t.seek f p ≤ t.size := by
  fun_induction seek t f p with
  | case1 p h hf => exact hp
  | case2 p h hf ih => exact ih h
  | case3 p h => exact hp

theorem lt_size_of_peek (h : t.peek p ≠ '\x00') : p < t.size := by
  by_contra hp
  refine h ?_
  rw [peek, Array.getD_eq_getD_getElem?, Array.getElem?_eq_none (Nat.le_of_not_lt hp)]
  rfl

theorem add_length_le (h : t.continuesWith p cs = true) (hcs : '\x00' ∉ cs)
    (hp : p ≤ t.size) : p + cs.length ≤ t.size := by
  induction cs generalizing p with
  | nil => exact hp
  | cons c cs ih =>
      rw [continuesWith, Bool.and_eq_true, beq_iff_eq] at h
      rw [List.mem_cons, not_or] at hcs
      have hlt : p < t.size := lt_size_of_peek (h.1 ▸ Ne.symm hcs.1)
      have hrest := ih h.2 hcs.2 hlt
      rw [List.length_cons]
      omega

/-- A part of the text, from some place on. -/
structure Spans (t : Input) (p start stop : Nat) : Prop where
  from_le : p ≤ start
  ordered : start ≤ stop
  within : stop ≤ t.size

/-- What is read from `p` on ends in the text, and so does a token that was found. -/
structure Within (t : Input) (lo p : Nat) (r : Reading) : Prop where
  token : ∀ x ∈ r.token, t.Spans lo x.2.1 x.2.2
  reached : t.Spans lo r.start r.reached
  on : p ≤ r.reached

theorem within_read {r : Reader} {state start : Nat} {best : Option (Nat × Nat × Nat)}
    (hstart : t.Spans lo start p) (hbest : ∀ x ∈ best, t.Spans lo x.2.1 x.2.2) :
    t.Within lo p (t.read r state start p best) := by
  have hnext : ∀ {state start p : Nat} {best : Option (Nat × Nat × Nat)},
      t.Spans lo start p → (∀ x ∈ best, t.Spans lo x.2.1 x.2.2) →
      ∀ x ∈ (r.complete.getD state none).elim best fun token => some (token, start, p),
        t.Spans lo x.2.1 x.2.2 := by
    intro state start p best hstart hbest
    cases r.complete.getD state none with
    | none => exact hbest
    | some token => exact fun x hx => Option.mem_some.mp hx ▸ hstart
  fun_induction read t r state start p best with
  | case1 state start p best' best h c move hmove =>
      exact ⟨hnext hstart hbest, hstart, Nat.le_refl p⟩
  | case2 state start' p best' best h c move hmove start ih =>
      have hstart' : t.Spans lo start (p + 1) := by
        obtain ⟨hlo, hle, -⟩ := hstart
        dsimp only [start]
        split
        · exact ⟨by omega, Nat.le_refl _, h⟩
        · exact ⟨hlo, by omega, h⟩
      obtain ⟨htoken, hreached, hon⟩ := ih hstart' (hnext hstart hbest)
      exact ⟨htoken, hreached, by omega⟩
  | case3 state start p best' h hends =>
      exact ⟨fun x hx => Option.mem_some.mp hx ▸ hstart, hstart, Nat.le_refl p⟩
  | case4 state start p best' best h hends =>
      exact ⟨hnext hstart hbest, hstart, Nat.le_refl p⟩

end Input

namespace Scanner

variable {t : Input} {p q lo fuel : Nat} {lineEnded saw whole afterComment : Bool}
  {found : Found}

theorem le_closeComment : p ≤ (closeComment t p lineEnded).1 := by
  fun_induction closeComment t p lineEnded with
  | case1 | case5 => exact Nat.le_refl _
  | case2 => exact Nat.le_add_right _ 2
  | case3 _ _ _ _ _ _ _ ih | case4 _ _ _ _ _ _ ih => exact Nat.le_of_succ_le ih

theorem le_passGap : p ≤ (passGap t whole fuel p lineEnded saw).2.1 := by
  fun_induction passGap t whole fuel p lineEnded saw with
  | case1 => exact Nat.le_refl _
  | case2 => exact Input.le_seek
  | case3 fuel p lineEnded saw q _ _ ih =>
      have hq : p ≤ q := Input.le_seek
      have hr : q + 2 ≤ t.seek (fun c => isNul c || isLineEnd c) (q + 2) := Input.le_seek
      omega
  | case4 fuel p lineEnded saw q _ _ _ r closed ended hclose =>
      have hq : p ≤ q := Input.le_seek
      have hr : q + 2 ≤ r := Nat.le_trans le_closeComment
        (Nat.le_of_eq (congrArg Prod.fst hclose))
      exact Nat.le_trans hq (Nat.le_of_add_right_le hr)
  | case5 fuel p lineEnded saw q _ _ _ r closed ended hclose _ ih =>
      have hq : p ≤ q := Input.le_seek
      have hr : q + 2 ≤ r := Nat.le_trans le_closeComment
        (Nat.le_of_eq (congrArg Prod.fst hclose))
      omega
  | case6 => exact Nat.le_succ_of_le Input.le_seek

theorem le_endsStatement : p ≤ (endsStatement t p).2 := by
  unfold endsStatement
  dsimp only
  repeat' split
  all_goals omega

theorem le_impliesSemicolon : p ≤ (impliesSemicolon t afterComment fuel p saw).2.1 := by
  have hgap : ∀ {p q : Nat} {gap : Gap} {saw saw' : Bool},
      (if (t.peek p == '/') = true then passGap t false (t.size + 1) p false saw
        else (.inLine, p, saw)) = (gap, q, saw') → p ≤ q := by
    intro p q gap saw saw' h
    split at h
    · exact Nat.le_trans le_passGap (Nat.le_of_eq (congrArg (·.2.1) h))
    · exact Nat.le_trans (Nat.le_refl p) (Nat.le_of_eq (congrArg (·.2.1) h))
  fun_induction impliesSemicolon t afterComment fuel p saw with
  | case1 | case2 => exact Nat.le_refl _
  | case3 _ _ _ _ _ _ _ h | case4 _ _ _ _ _ _ _ h => exact hgap h
  | case5 _ _ _ _ _ _ _ h | case8 _ _ _ _ _ _ _ h => exact hgap h
  | case6 fuel p saw _ gap q saw' h _ _ _ _ _ gap' r saw'' h' =>
      have hr : q + 1 ≤ r := Nat.le_trans le_passGap (Nat.le_of_eq (congrArg (·.2.1) h'))
      exact Nat.le_trans (hgap h) (Nat.le_of_succ_le hr)
  | case7 fuel p saw _ gap q saw' h _ _ _ _ _ gap' r saw'' h' _ answer u hu =>
      have hr : q + 1 ≤ r := Nat.le_trans le_passGap (Nat.le_of_eq (congrArg (·.2.1) h'))
      have hs : r ≤ u :=
        Nat.le_trans le_endsStatement (Nat.le_of_eq (congrArg Prod.snd hu))
      have hq := hgap h
      dsimp only
      omega
  | case9 fuel p saw _ gap q saw' h _ _ _ _ _ _ ih =>
      exact Nat.le_trans (hgap h) (Nat.le_of_succ_le ih)

theorem jsxTextEnd_spans (h : t.Spans lo lo p) :
    t.Spans lo lo (jsxTextEnd t p saw lineEnded).1 := by
  fun_induction jsxTextEnd t p saw lineEnded with
  | case1 | case4 => exact h
  | case2 p _ _ hp _ _ _ ih | case3 p _ _ hp _ _ _ _ ih =>
      exact ih ⟨h.from_le, Nat.le_succ_of_le h.ordered, hp⟩

theorem templateEnd?_le (hp : p ≤ t.size) (hq : templateEnd? t fuel p = some q) :
    q ≤ t.size := by
  induction fuel generalizing p with
  | zero => exact absurd hq nofun
  | succ fuel ih =>
      rw [templateEnd?] at hq
      have hr : t.seek (fun c => c == '\x60' || c == '$' || c == '\\' || isNul c) p ≤
          t.size := Input.seek_le hp
      generalize t.seek (fun c => c == '\x60' || c == '$' || c == '\\' || isNul c) p = r
        at hq hr
      split at hq
      · exact absurd hq nofun
      · rename_i hnul
        have hlt : r < t.size := Input.lt_size_of_peek fun h => hnul (by rw [h]; rfl)
        split at hq
        · exact ih hlt hq
        · exact Option.some.inj hq ▸ hr

theorem spans_ternaryMark? (hlo : lo ≤ p) (h : ternaryMark? t p = some found) :
    t.Spans lo found.start found.stop := by
  have hq : p ≤ t.seek (fun c => !isBlank c) p := Input.le_seek
  unfold ternaryMark? at h
  generalize t.seek (fun c => !isBlank c) p = q at h hq
  dsimp only at h
  split at h
  · exact absurd h nofun
  · rename_i hmark
    split at h
    · exact absurd h nofun
    · obtain rfl := Option.some.inj h
      have hlt : q < t.size := Input.lt_size_of_peek fun hnul => hmark (by rw [hnul]; rfl)
      exact ⟨Nat.le_trans hlo hq, Nat.le_succ q, hlt⟩

theorem spans_htmlComment? (hlo : lo ≤ p) (hp : p ≤ t.size)
    (h : htmlComment? t lo p = some found) : t.Spans lo found.start found.stop := by
  unfold htmlComment? at h
  have hq : p ≤ t.seek (fun c => !isBlank c && c != '\u2028' && c != '\u2029') p :=
    Input.le_seek
  have hsize : t.seek (fun c => !isBlank c && c != '\u2028' && c != '\u2029') p ≤ t.size :=
    Input.seek_le hp
  generalize t.seek (fun c => !isBlank c && c != '\u2028' && c != '\u2029') p = q
    at h hq hsize
  have hnul : '\x00' ∉ (if (t.peek q == '<') = true then "<!--" else "-->").toList := by
    split <;> decide
  dsimp only at h
  generalize (if (t.peek q == '<') = true then "<!--" else "-->") = opening at h hnul
  split at h
  · rename_i hopening
    obtain rfl := Option.some.inj h
    have hend : q + opening.length ≤ t.size := Input.add_length_le hopening hnul hsize
    have hstop : q + opening.length ≤
        t.seek (fun c => isNul c || isLineEnd c) (q + opening.length) := Input.le_seek
    refine ⟨?_, ?_, Input.seek_le hend⟩
    · dsimp only
      split <;> omega
    · dsimp only
      split <;> omega
  · exact absurd h nofun

theorem jsxText_spans (hp : p ≤ t.size) (jsxText : Bool) :
    t.Spans p p (if jsxText then jsxTextEnd t p false false else (p, false)).1 := by
  have hstart : t.Spans p p p := ⟨Nat.le_refl p, Nat.le_refl p, hp⟩
  split
  · exact jsxTextEnd_spans hstart
  · exact hstart

theorem spans_scan? {allowed : Allowed} (hp : p ≤ t.size)
    (h : scan? t allowed p = some found) : t.Spans p found.start found.stop := by
  unfold scan? at h
  split at h
  · split at h
    · exact absurd h nofun
    · obtain ⟨q, hq, h⟩ := Option.bind_eq_some_iff.mp h
      split at h
      · rename_i hlt
        obtain rfl := Option.some.inj h
        exact ⟨Nat.le_refl p, Nat.le_of_lt hlt, templateEnd?_le hp hq⟩
      · exact absurd h nofun
  · have hq := jsxText_spans hp allowed.jsxText
    generalize (if allowed.jsxText then jsxTextEnd t p false false else (p, false)) = text
      at h hq
    obtain ⟨q, saw⟩ := text
    obtain ⟨-, hle, hsize⟩ := hq
    dsimp only at h hle hsize
    split at h
    · obtain rfl := Option.some.inj h
      exact ⟨Nat.le_refl p, hle, hsize⟩
    · split at h
      · have hr : q ≤ (impliesSemicolon t (!allowed.logicalOr) (t.size + 1) q false).2.1 :=
          le_impliesSemicolon
        generalize impliesSemicolon t (!allowed.logicalOr) (t.size + 1) q false = implied
          at h hr
        split at h
        · obtain rfl := Option.some.inj h
          exact ⟨hle, Nat.le_refl q, hsize⟩
        · split at h
          · exact spans_ternaryMark? (Nat.le_trans hle hr) h
          · exact absurd h nofun
      · split at h
        · exact spans_ternaryMark? hle h
        · split at h
          · exact spans_htmlComment? hle hsize h
          · exact absurd h nofun

end Scanner

variable {c : Context} {s : Session} {v p q state origin opening mode position fuel : Nat}
  {skipping : Option (Nat × Nat)} {found : Found} {t : Subtree}

theorem Input.Spans.mono {text : Input} {start stop : Nat} (h : text.Spans q start stop)
    (hp : p ≤ q) : text.Spans p start stop :=
  ⟨Nat.le_trans hp h.from_le, h.ordered, h.within⟩

namespace Parser

def Lexeme.Spans (text : Input) (p : Nat) : Lexeme → Prop
  | .scanned f => text.Spans p f.start f.stop
  | .token _ start stop => text.Spans p start stop
  | .skipped start stop => text.Spans p start stop

theorem Lexeme.Spans.mono {text : Input} {l : Lexeme} (h : l.Spans text q) (hp : p ≤ q) :
    l.Spans text p := by
  cases l with
  | scanned f => exact Input.Spans.mono h hp
  | token symbol start stop => exact Input.Spans.mono h hp
  | skipped start stop => exact Input.Spans.mono h hp

theorem scanned?_spans (hposition : position ≤ c.text.size)
    (h : scanned? c s v state mode position = some found) :
    c.text.Spans position found.start found.stop := by
  unfold scanned? at h
  dsimp only at h
  split at h
  · exact absurd h nofun
  · exact Scanner.spans_scan? hposition (Option.filter_eq_some_iff.mp h).1

/-- Text that was skipped, if any was, lies between two places. -/
def Skips (p q : Nat) (skipping : Option (Nat × Nat)) : Prop :=
  ∀ x ∈ skipping, p ≤ x.1 ∧ x.1 ≤ x.2 ∧ x.2 ≤ q

/-- What is found, or was skipped before it, lies behind the opening. -/
theorem Skips.spans (h : Skips opening position skipping) (hle : opening ≤ position)
    (hposition : position ≤ c.text.size) {l : Lexeme} (hl : l.Spans c.text position) :
    (match skipping with
      | some (start, stop) => Lexeme.skipped start stop
      | none => l).Spans c.text opening := by
  cases skipping with
  | none => exact hl.mono hle
  | some x =>
      obtain ⟨hlo, hordered, hstop⟩ := h x rfl
      exact ⟨hlo, hordered, Nat.le_trans hstop hposition⟩

theorem Skips.getD (h : Skips opening position skipping) (hle : opening ≤ position)
    {r : Reading} (hr : c.text.Within position position r) :
    Skips opening r.reached (some (skipping.getD (r.start, r.start))) := by
  intro x hx
  obtain rfl := Option.mem_some.mp hx
  cases skipping with
  | none => exact ⟨Nat.le_trans hle hr.reached.from_le, Nat.le_refl _, hr.reached.ordered⟩
  | some x =>
      obtain ⟨hlo, hordered, hstop⟩ := h x rfl
      exact ⟨hlo, hordered, Nat.le_trans hstop hr.on⟩

/-- The text skipped so far gets longer, up to the end of the whole. -/
theorem Skips.lengthen {x : Nat × Nat} {reached size : Nat} (h : Skips opening q (some x))
    (hq : q ≤ size) (hend : ¬ (q = x.2 ∧ q ≥ size))
    (hreached : (if q = x.2 then q + 1 else q) = reached) :
    opening ≤ reached ∧ reached ≤ size ∧ Skips opening reached (some (x.1, reached)) := by
  obtain ⟨hlo, hordered, hstop⟩ := h x rfl
  have hbehind : x.2 ≤ reached ∧ reached ≤ size := by
    by_cases hsame : q = x.2
    · rw [if_pos hsame] at hreached
      have hless : ¬ q ≥ size := fun h => hend ⟨hsame, h⟩
      omega
    · rw [if_neg hsame] at hreached
      omega
  refine ⟨by omega, hbehind.2, fun y hy => ?_⟩
  obtain rfl := Option.mem_some.mp hy
  exact ⟨hlo, Nat.le_trans hordered hbehind.1, Nat.le_refl _⟩

theorem lookFor_spans (hopening : opening ≤ c.text.size) (hle : opening ≤ position)
    (hposition : position ≤ c.text.size)
    (hmode : mode ≠ Table.repairState → skipping = none)
    (hskipping : Skips opening position skipping) :
    (lookFor c s v state opening fuel mode position skipping).Spans c.text opening := by
  induction fuel generalizing mode position skipping with
  | zero => exact ⟨Nat.le_refl opening, hopening, Nat.le_refl _⟩
  | succ fuel ih =>
      rw [lookFor]
      cases hscan : scanned? c s v state mode position with
      | some f =>
          exact hskipping.spans hle hposition (l := .scanned f)
            (scanned?_spans hposition hscan)
      | none =>
          have hread : c.text.Within position position (c.text.read c.table.reader
              (c.table.states.getD mode default).mode position position none) :=
            Input.within_read ⟨Nat.le_refl _, Nat.le_refl _, hposition⟩ nofun
          generalize c.text.read c.table.reader (c.table.states.getD mode default).mode
            position position none = r at hread
          dsimp only
          cases hr : r.token with
          | some x =>
              exact hskipping.spans hle hposition (l := .token x.1 x.2.1 x.2.2)
                (hread.token x hr)
          | none =>
              dsimp only
              split
              · rename_i hmode'
                rw [hmode (bne_iff_ne.mp hmode')]
                exact ih (Nat.le_refl opening) hopening (fun h => absurd rfl h) nofun
              · rename_i hmode'
                have hskipped := hskipping.getD hle hread
                generalize skipping.getD (r.start, r.start) = x at hskipped
                have hwithin := hread.reached.within
                split
                · obtain ⟨hlo, hordered, hstop⟩ := hskipped x rfl
                  exact ⟨hlo, Nat.le_trans hordered hstop, hwithin⟩
                · rename_i hend
                  rw [Bool.and_eq_true, decide_eq_true_eq, decide_eq_true_eq] at hend
                  generalize hreached :
                    (if r.reached = x.2 then r.reached + 1 else r.reached) = reached
                  obtain ⟨hahead, hinside, hlonger⟩ :=
                    hskipped.lengthen hwithin hend hreached
                  have hrepair : mode ≠ Table.repairState → some (x.1, reached) = none :=
                    fun h => absurd (bne_iff_ne.mpr h) hmode'
                  exact ih hahead hinside hrepair hlonger

theorem lexeme_spans (horigin : origin ≤ c.text.size) :
    (lexeme c s v state origin).Spans c.text origin := by
  have hopening : ∀ opening : Nat, origin ≤ opening → opening ≤ c.text.size →
      (lookFor c s v state opening (c.text.size + 3) state opening none).Spans c.text
        origin :=
    fun opening hle hsize =>
      (lookFor_spans hsize (Nat.le_refl opening) hsize (fun _ => rfl) nofun).mono hle
  unfold lexeme
  dsimp only
  split
  · rename_i hmark
    rw [Bool.and_eq_true, decide_eq_true_eq, beq_iff_eq] at hmark
    have hsize : 0 < c.text.size :=
      Input.lt_size_of_peek (by rw [hmark.2]; decide)
    exact hopening 1 (by omega) hsize
  · exact hopening origin (Nat.le_refl origin) horigin

end Parser

/-- A tree that may be put on a stack behind `p`: some text, with `q` behind it. -/
structure Subtree.Fits (p q : Nat) (t : Subtree) : Prop where
  solid : t.facts.hollow = false
  row : Row p [t] q

theorem Subtree.Fits.mono (h : t.Fits p q) (hp : opening ≤ p) : t.Fits opening q :=
  ⟨h.solid, h.row.mono hp (Nat.le_refl q)⟩

theorem Parser.Lexeme.fits_toTree {l : Lexeme} (h : l.Spans c.text origin) :
    (l.toTree c state origin).Fits origin c.text.size := by
  have hleaf : ∀ {f : Facts}, c.text.Spans origin f.start f.stop → f.hollow = false →
      (Subtree.node f #[]).Fits origin c.text.size := by
    intro f hf hhollow
    have hlaid : (Subtree.node f #[]).Laid := .node (.nil hf.ordered) fun _ => hhollow
    exact ⟨hhollow, .singleton hf.from_le hlaid hf.within⟩
  cases l with
  | scanned f => exact hleaf h rfl
  | skipped start stop => exact hleaf h rfl
  | token symbol start stop =>
      unfold toTree
      dsimp only
      split
      · exact hleaf h rfl
      · exact hleaf h rfl

theorem Parser.ends_nextToken (hv : s.nodes[s.heads[v]!.node]!.position ≤ c.text.size) :
    Ends c s (nextToken v state) fun t s' =>
      s' = s ∧ t.Fits s.nodes[s.heads[v]!.node]!.position c.text.size :=
  ⟨rfl, Lexeme.fits_toTree (lexeme_spans hv)⟩

end ScriptLint.Parse
