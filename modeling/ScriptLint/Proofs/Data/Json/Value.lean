import Mathlib.Data.List.DropRight
import ScriptLint.Proofs.Data.Json.Scalar

namespace ScriptLint.Data.Json

/-! Values read back from their JSON, whatever the layout. -/

/-! ### Blanks -/

theorem isSpace_of_mem_newline {layout : Layout} {c : Char} (hc : c ∈ layout.newline) :
    isSpace c = true := by
  cases layout with
  | compact => cases hc
  | indented n =>
      rcases List.mem_cons.mp hc with rfl | hc
      · rfl
      · rw [List.eq_of_mem_replicate hc]
        rfl

theorem skipSpace_newline (layout : Layout) (cs : List Char) :
    skipSpace (layout.newline ++ cs) = skipSpace cs :=
  List.dropWhile_append_of_pos fun _ => isSpace_of_mem_newline

@[simp] theorem colon_inner (layout : Layout) : layout.inner.colon = layout.colon := by
  cases layout <;> rfl

theorem skipSpace_cons {c : Char} (hc : isSpace c = false) (cs : List Char) :
    skipSpace (c :: cs) = c :: cs :=
  List.dropWhile_cons_of_neg (by simp [hc])

theorem skipSpace_skipSpace (cs : List Char) : skipSpace (skipSpace cs) = skipSpace cs :=
  List.dropWhile_idempotent ..

theorem readValue_skipSpace (fuel : Nat) (cs : List Char) :
    readValue fuel (skipSpace cs) = readValue fuel cs := by
  cases fuel with
  | zero => rfl
  | succ fuel => simp only [readValue, skipSpace_skipSpace]

theorem readItems_skipSpace (fuel : Nat) (cs : List Char) :
    readItems fuel (skipSpace cs) = readItems fuel cs := by
  cases fuel with
  | zero => rfl
  | succ fuel => simp only [readItems, readValue_skipSpace]

theorem readMembers_skipSpace (fuel : Nat) (cs : List Char) :
    readMembers fuel (skipSpace cs) = readMembers fuel cs := by
  cases fuel with
  | zero => rfl
  | succ fuel => simp only [readMembers, skipSpace_skipSpace]

theorem readValue_newline (fuel : Nat) (layout : Layout) (cs : List Char) :
    readValue fuel (layout.newline ++ cs) = readValue fuel cs := by
  rw [← readValue_skipSpace, skipSpace_newline, readValue_skipSpace]

theorem readMembers_newline (fuel : Nat) (layout : Layout) (cs : List Char) :
    readMembers fuel (layout.newline ++ cs) = readMembers fuel cs := by
  rw [← readMembers_skipSpace, skipSpace_newline, readMembers_skipSpace]

theorem readValue_blank (fuel : Nat) (cs : List Char) :
    readValue fuel (' ' :: cs) = readValue fuel cs := by
  rw [← readValue_skipSpace fuel cs, ← readValue_skipSpace fuel (' ' :: cs)]
  rfl

/-! ### What may follow a number -/

theorem not_extends_cons {c : Char} (hdigit : c.isDigit = false)
    (hletter : c ∉ ['.', 'e', 'E']) (cs : List Char) : ¬ Extends (c :: cs) := by
  rintro ⟨d, hd, h⟩
  cases Option.some.inj hd
  rcases h with h | h
  · simp [hdigit] at h
  · exact hletter (by simpa using h)

theorem not_extends_newline (layout : Layout) {cs : List Char} (hcs : ¬ Extends cs) :
    ¬ Extends (layout.newline ++ cs) := by
  cases layout with
  | compact => exact hcs
  | indented n => exact not_extends_cons (by decide) (by decide) _

theorem not_extends_printItems (layout : Layout) (vs : List Value) {cs : List Char}
    (hcs : ¬ Extends cs) : ¬ Extends (printItems layout vs ++ cs) := by
  cases vs with
  | nil => simpa [printItems] using hcs
  | cons v vs =>
      rw [printItems]
      exact not_extends_cons (by decide) (by decide) _

theorem not_extends_printMembers (layout : Layout) (ms : List (String × Value))
    {cs : List Char} (hcs : ¬ Extends cs) : ¬ Extends (printMembers layout ms ++ cs) := by
  cases ms with
  | nil => simpa [printMembers] using hcs
  | cons m ms =>
      rw [printMembers]
      exact not_extends_cons (by decide) (by decide) _

/-! ### Values that begin with a digit, a quote, a bracket or a brace -/

theorem readValue_digit {c : Char} (hc : c.isDigit = true) (fuel : Nat) (cs : List Char) :
    readValue (fuel + 1) (c :: cs) = readNumber (c :: cs) := by
  have hspace : isSpace c = false := by
    by_contra h
    simp only [isSpace, Bool.or_eq_true, beq_iff_eq, Bool.not_eq_false] at h
    rcases h with ((rfl | rfl) | rfl) | rfl <;> cases hc
  rw [readValue, skipSpace_cons hspace]
  split
  case h_7 => rfl
  all_goals
    rename_i heq
    cases heq
    cases hc

theorem readValue_quoted (s : String) (fuel : Nat) (cs : List Char) :
    readValue (fuel + 1) (quoted s ++ cs) = some (.text s, cs) := by
  simp [quoted, readValue, skipSpace_cons, isSpace, readText_escape]

theorem readItems_closed (fuel : Nat) (cs : List Char) :
    readItems fuel (']' :: cs) = none := by
  have hvalue (n : Nat) : readValue n (']' :: cs) = none := by
    cases n <;>
      simp [readValue, skipSpace_cons, isSpace, readNumber, readUnsigned, readDigits]
  cases fuel <;> simp [readItems, hvalue]

theorem readMembers_closed (fuel : Nat) (cs : List Char) :
    readMembers fuel ('\x7d' :: cs) = none := by
  cases fuel <;> simp [readMembers, skipSpace_cons, isSpace]

/-- A list is read from its first item on. -/
theorem readValue_bracket {fuel : Nat} {cs rest : List Char} {vs : List Value}
    (h : readItems fuel cs = some (vs, rest)) :
    readValue (fuel + 1) ('[' :: cs) = some (.list vs, rest) := by
  rw [← readItems_skipSpace] at h
  simp only [readValue, skipSpace_cons (show isSpace '[' = false from rfl)]
  split
  · rename_i hclose
    -- no item begins with the closing bracket
    rw [hclose, readItems_closed] at h
    cases h
  · rw [h]
    rfl

theorem readValue_brace {fuel : Nat} {cs rest : List Char}
    {ms : List (Option String × Value)} (h : readMembers fuel cs = some (ms, rest)) :
    readValue (fuel + 1) ('\x7b' :: cs) = some (recordOf ms, rest) := by
  rw [← readMembers_skipSpace] at h
  simp only [readValue, skipSpace_cons (show isSpace '\x7b' = false from rfl)]
  split
  · rename_i hclose
    rw [hclose, readMembers_closed] at h
    cases h
  · rw [h]
    rfl

/-! ### Items and members -/

theorem readItems_last {fuel : Nat} {cs rest : List Char} {v : Value} {layout : Layout}
    (h : readValue fuel cs = some (v, layout.newline ++ ']' :: rest)) :
    readItems (fuel + 1) cs = some ([v], rest) := by
  simp [readItems, h, skipSpace_newline, skipSpace_cons, isSpace]

theorem readItems_cons {fuel : Nat} {cs behind rest : List Char} {v : Value}
    {vs : List Value} (h : readValue fuel cs = some (v, ',' :: behind))
    (hvs : readItems fuel behind = some (vs, rest)) :
    readItems (fuel + 1) cs = some (v :: vs, rest) := by
  simp [readItems, h, hvs, skipSpace_cons, isSpace]

theorem readMembers_last {layout outer : Layout} {fuel : Nat} {k : String}
    {cs rest : List Char} {v : Value}
    (h : readValue fuel cs = some (v, outer.newline ++ '\x7d' :: rest)) :
    readMembers (fuel + 1) (quoted k ++ layout.colon ++ cs) =
      some ([(some k, v)], rest) := by
  cases layout <;>
    simp [readMembers, quoted, Layout.colon, readText_escape, readValue_blank, h,
      skipSpace_newline, skipSpace_cons, isSpace]

theorem readMembers_cons {layout : Layout} {fuel : Nat} {k : String}
    {cs behind rest : List Char} {v : Value} {ms : List (Option String × Value)}
    (h : readValue fuel cs = some (v, ',' :: behind))
    (hms : readMembers fuel behind = some (ms, rest)) :
    readMembers (fuel + 1) (quoted k ++ layout.colon ++ cs) =
      some ((some k, v) :: ms, rest) := by
  cases layout <;>
    simp [readMembers, quoted, Layout.colon, readText_escape, readValue_blank, h, hms,
      skipSpace_cons, isSpace]

theorem recordOf_some (ms : List (String × Value)) :
    recordOf (ms.map fun m => (some m.1, m.2)) = .record ms := by
  have hkeys : (ms.map fun m => (some m.1, m.2)).mapM
      (fun m : Option String × Value => m.1.map (·, m.2)) = some ms := by
    induction ms with
    | nil => rfl
    | cons m ms ih => simp [List.mapM_cons, ih]
  simp [recordOf, hkeys]

/-! ### Values -/

theorem length_print_pos (layout : Layout) (v : Value) : 0 < (print layout v).length := by
  cases v with
  | natural n => exact Nat.length_toDigits_pos
  | bool b => cases b <;> simp [print]
  | text s => simp [print, quoted]
  | list vs => cases vs <;> simp [print]
  | record ms => rcases ms with _ | ⟨⟨k, v⟩, ms⟩ <;> simp [print]
  | null | alien a => simp [print]

mutual

/-- Whatever the layout, a value without anything alien is read back from its JSON,
together with what lies behind it. -/
theorem readValue_print (layout : Layout) : (v : Value) → v.isPlain = true →
    ∀ (fuel : Nat) {rest : List Char}, 2 * (print layout v).length ≤ fuel →
    ¬ Extends rest →
      readValue fuel (print layout v ++ rest) = some (v, rest)
  | v, hv, 0, rest, hfuel, hrest => by
      have hpos := length_print_pos layout v
      omega
  | .null, _, fuel + 1, rest, _, _ => by simp [print, readValue, skipSpace_cons, isSpace]
  | .bool true, _, fuel + 1, rest, _, _ =>
      by simp [print, readValue, skipSpace_cons, isSpace]
  | .bool false, _, fuel + 1, rest, _, _ =>
      by simp [print, readValue, skipSpace_cons, isSpace]
  | .natural n, _, fuel + 1, rest, _, hrest => by
      obtain ⟨c, ds, hds, hdigit⟩ := exists_toDigits_eq_cons n
      have hnumber := readNumber_toDigits n hrest
      rw [hds, List.cons_append] at hnumber
      rw [print, hds, List.cons_append, readValue_digit hdigit, hnumber]
  | .text s, _, fuel + 1, rest, _, _ => readValue_quoted s fuel rest
  | .list [], _, fuel + 1, rest, _, _ =>
      by simp [print, readValue, skipSpace_cons, isSpace]
  | .list (v :: vs), hv, fuel + 1, rest, hfuel, _ => by
      rw [print, List.length_append, List.length_append, List.length_cons] at hfuel
      have hitems := readItems_print layout.inner (v :: vs) hv (by simp) fuel
        layout rest (by rw [printItems, List.tail_cons]; omega)
      rw [print, List.append_assoc, List.append_assoc]
      exact readValue_bracket (by simpa [printItems] using hitems)
  | .record [], _, fuel + 1, rest, _, _ =>
      by simp [print, readValue, skipSpace_cons, isSpace]
  | .record ((k, v) :: ms), hv, fuel + 1, rest, hfuel, _ => by
      rw [print, List.length_append, List.length_append, List.length_cons] at hfuel
      have hmembers := readMembers_print layout.inner ((k, v) :: ms) hv (by simp)
        fuel layout rest (by rw [printMembers, List.tail_cons, colon_inner]; omega)
      rw [print, ← recordOf_some]
      exact readValue_brace (by simpa [printMembers] using hmembers)

theorem readItems_print (layout : Layout) :
    (vs : List Value) → Value.arePlain vs = true → vs ≠ [] →
    ∀ (fuel : Nat) (outer : Layout) (rest : List Char),
      2 * (printItems layout vs).tail.length + 1 ≤ fuel →
      readItems fuel ((printItems layout vs).tail ++ (outer.newline ++ ']' :: rest)) =
        some (vs, rest)
  | [], _, hne, _, _, _, _ => absurd rfl hne
  | _ :: _, _, _, 0, _, _, hfuel => absurd hfuel (by omega)
  | v :: vs, hvs, _, fuel + 1, outer, rest, hfuel => by
      rw [Value.arePlain, Bool.and_eq_true] at hvs
      rw [printItems, List.tail_cons, List.length_append, List.length_append] at hfuel
      have hclose : ¬ Extends (outer.newline ++ ']' :: rest) :=
        not_extends_newline outer (not_extends_cons (by decide) (by decide) rest)
      have hv := readValue_print layout v hvs.1 fuel (by omega)
        (not_extends_printItems layout vs hclose)
      rw [printItems, List.tail_cons, List.append_assoc, List.append_assoc]
      rw [← readValue_newline fuel layout] at hv
      cases vs with
      | nil => exact readItems_last hv
      | cons w vs =>
          refine readItems_cons hv
            (readItems_print layout (w :: vs) hvs.2 (by simp) fuel outer rest ?_)
          simp only [printItems, List.length_cons] at hfuel
          rw [printItems, List.tail_cons]
          omega

theorem readMembers_print (layout : Layout) : (ms : List (String × Value)) →
    Value.membersArePlain ms = true → ms ≠ [] →
    ∀ (fuel : Nat) (outer : Layout) (rest : List Char),
      2 * (printMembers layout ms).tail.length + 1 ≤ fuel →
      readMembers fuel
        ((printMembers layout ms).tail ++ (outer.newline ++ '\x7d' :: rest)) =
        some (ms.map fun m => (some m.1, m.2), rest)
  | [], _, hne, _, _, _, _ => absurd rfl hne
  | _ :: _, _, _, 0, _, _, hfuel => absurd hfuel (by omega)
  | (k, v) :: ms, hms, _, fuel + 1, outer, rest, hfuel => by
      rw [Value.membersArePlain, Bool.and_eq_true] at hms
      rw [printMembers, List.tail_cons] at hfuel
      simp only [List.length_append] at hfuel
      have hclose : ¬ Extends (outer.newline ++ '\x7d' :: rest) :=
        not_extends_newline outer (not_extends_cons (by decide) (by decide) rest)
      have hv := readValue_print layout v hms.1 fuel (by omega)
        (not_extends_printMembers layout ms hclose)
      rw [printMembers, List.tail_cons]
      simp only [List.append_assoc]
      rw [readMembers_newline, ← List.append_assoc (quoted k)]
      cases ms with
      | nil => exact readMembers_last hv
      | cons m ms =>
          refine readMembers_cons hv
            (readMembers_print layout (m :: ms) hms.2 (by simp) fuel outer rest ?_)
          simp only [printMembers, List.length_cons] at hfuel
          rw [printMembers, List.tail_cons]
          omega

end

/-- Reading gives back what was written. -/
theorem ofText?_print (layout : Layout) {v : Value} (hv : v.isPlain = true) :
    ofText? (print layout v) = some v := by
  have hread := readValue_print layout v hv (2 * (print layout v).length + 2) (by omega)
    not_extends_nil
  rw [List.append_nil] at hread
  rw [ofText?, hread]
  rfl

end ScriptLint.Data.Json
