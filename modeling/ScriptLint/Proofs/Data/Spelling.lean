import Mathlib.Data.List.Perm.Basic
import Mathlib.Data.String.Basic
import ScriptLint.Config.File
import ScriptLint.Proofs.Data.Shape

namespace ScriptLint

open ScriptLint.Data Value

/-! Sockets, findings, nodes and configurations are read alike from all spellings of a
record. -/

variable {v : Value} {s : Strictness}

def Data.required? {α : Type} (read : Value → Option α) (w : Option Value) : Option α :=
  w.bind read

/-! ### Sockets -/

namespace Socket

def shape : Shape := .record (fieldNames.zip [.plain, .plain])

theorem ofValue?_eq (v : Value) : ofValue? v = (v.fields? .exact fieldNames).bind
    (field? (required? text?) fun name =>
      field? (orDefault? .any (choice? DataType.name DataType.all)) fun dataType =>
        done? ⟨name, dataType⟩) := by
  rw [ofValue?]
  cases v.fields? .exact fieldNames with
  | none => rfl
  | some ws =>
      rcases ws with _ | ⟨_ | name, _ | ⟨dataType, _ | _⟩⟩ <;>
        simp [field?, required?, done?]

theorem tolerates_ofValue? : Tolerates shape ofValue? := by
  refine .record (by simp [Shape.Separate, fieldNames]) ?_ ofValue?_eq
  apply Reads.field tolerates_text?
  intro name
  apply Reads.field tolerates_choice?
  intro dataType
  exact .done _

end Socket

/-! ### Findings -/

namespace Finding

def shape : Shape := .record (fieldNames.zip [.plain, .plain, .plain, .plain, .plain])

theorem tolerates_position? {shape : Shape} :
    Tolerates shape fun v => position? (some v) :=
  tolerates_naturalBelow?.nullable?

theorem ofValue?_eq (v : Value) : ofValue? v = (v.fields? .exact fieldNames).bind
    (field? (required? (choice? FindingKind.name FindingKind.all)) fun kind =>
      field? (required? (choice? Severity.name Severity.all)) fun severity =>
        field? (required? text?) fun message =>
          field? position? fun line =>
            field? position? fun column =>
              done? ⟨kind, severity, message, line, column⟩) := by
  rw [ofValue?]
  cases v.fields? .exact fieldNames with
  | none => rfl
  | some ws =>
      rcases ws with _ | ⟨_ | kind, _ | ⟨_ | severity, _ | ⟨_ | message, _ | ⟨line, _ |
        ⟨column, _ | _⟩⟩⟩⟩⟩ <;> simp [field?, required?, done?]

theorem tolerates_ofValue? : Tolerates shape ofValue? := by
  refine .record (by simp [Shape.Separate, fieldNames]) ?_ ofValue?_eq
  apply Reads.field tolerates_choice?
  intro kind
  apply Reads.field tolerates_choice?
  intro severity
  apply Reads.field tolerates_text?
  intro message
  apply Reads.field tolerates_position?
  intro line
  apply Reads.field tolerates_position?
  intro column
  exact .done _

end Finding

/-! ### Nodes -/

namespace NodeDefinition

def shape : Shape :=
  .record (fieldNames.zip [.plain, .plain, .list Socket.shape, .list Socket.shape])

theorem ofValue?_eq (v : Value) : ofValue? v = (v.fields? .exact fieldNames).bind
    (field? (orDefault? none (nullable? text?)) fun name =>
      field? (required? text?) fun code =>
        field? (orDefault? [] (listOf? Socket.ofValue?)) fun outputs =>
          field? (orDefault? none (nullable? (listOf? Socket.ofValue?))) fun inputs =>
            done? ⟨name, code, outputs, inputs⟩) := by
  rw [ofValue?]
  cases v.fields? .exact fieldNames with
  | none => rfl
  | some ws =>
      rcases ws with _ | ⟨name, _ | ⟨_ | code, _ | ⟨outputs, _ | ⟨inputs, _ | _⟩⟩⟩⟩ <;>
        simp [field?, required?, done?]

theorem tolerates_ofValue? : Tolerates shape ofValue? := by
  refine .record (by simp [Shape.Separate, fieldNames]) ?_ ofValue?_eq
  apply Reads.field tolerates_text?.nullable?
  intro name
  apply Reads.field tolerates_text?
  intro code
  apply Reads.field Socket.tolerates_ofValue?.listOf?
  intro outputs
  apply Reads.field Socket.tolerates_ofValue?.listOf?.nullable?
  intro inputs
  exact .done _

end NodeDefinition

/-! ### Configurations -/

namespace Config

def settingsShape : Shape :=
  .record [(["entry_function"], .plain), (["timeout_ms"], .plain)]

theorem settings?_eq (v : Value) :
    settings? s v = (v.fields? s [["entry_function"], ["timeout_ms"]]).bind
      (field? (orDefault? defaultEntryName text?) fun entry =>
        field? (orDefault? defaultTimeoutMs (naturalBelow? (1 <<< 64))) fun timeout =>
          done? (entry, timeout)) := by
  rw [settings?]
  cases v.fields? s [["entry_function"], ["timeout_ms"]] with
  | none => rfl
  | some ws => rcases ws with _ | ⟨entry, _ | ⟨timeout, _ | _⟩⟩ <;> simp [field?, done?]

theorem tolerates_settings? : Tolerates settingsShape (settings? s) := by
  refine .record (by simp [Shape.Separate]) ?_ settings?_eq
  apply Reads.field tolerates_text?
  intro entry
  apply Reads.field tolerates_naturalBelow?
  intro timeout
  exact .done _

def switchShape : Shape := .record [(["enabled"], .plain)]

theorem switch?_eq (v : Value) : switch? s v = (v.fields? s [["enabled"]]).bind
    (field? (orDefault? none (nullable? bool?)) done?) := by
  rw [switch?]
  cases v.fields? s [["enabled"]] with
  | none => rfl
  | some ws => rcases ws with _ | ⟨enabled, _ | _⟩ <;> simp [field?, done?]

theorem tolerates_switch? : Tolerates switchShape (switch? s) := by
  refine .record (by simp [Shape.Separate]) ?_ switch?_eq
  apply Reads.field tolerates_bool?.nullable?
  intro enabled
  exact .done _

def patternShape : Shape := .record [(["pattern"], .plain), (["message"], .plain)]

theorem pattern?_eq (v : Value) :
    pattern? s v = (v.fields? s [["pattern"], ["message"]]).bind
    (field? (required? text?) fun pattern =>
      field? (required? text?) fun message => done? ⟨pattern, message⟩) := by
  rw [pattern?]
  cases v.fields? s [["pattern"], ["message"]] with
  | none => rfl
  | some ws =>
      rcases ws with _ | ⟨_ | pattern, _ | ⟨_ | message, _ | _⟩⟩ <;>
        simp [field?, required?, done?]

theorem tolerates_pattern? : Tolerates patternShape (pattern? s) := by
  refine .record (by simp [Shape.Separate]) ?_ pattern?_eq
  apply Reads.field tolerates_text?
  intro pattern
  apply Reads.field tolerates_text?
  intro message
  exact .done _

def patternsShape : Shape := .record [(["extra_patterns"], .list patternShape)]

theorem patterns?_eq (v : Value) : patterns? s v = (v.fields? s [["extra_patterns"]]).bind
    (field? (orDefault? [] (listOf? (pattern? s))) done?) := by
  rw [patterns?]
  cases v.fields? s [["extra_patterns"]] with
  | none => rfl
  | some ws => rcases ws with _ | ⟨patterns, _ | _⟩ <;> simp [field?, done?]

theorem tolerates_patterns? : Tolerates patternsShape (patterns? s) := by
  refine .record (by simp [Shape.Separate]) ?_ patterns?_eq
  apply Reads.field tolerates_pattern?.listOf?
  intro patterns
  exact .done _

def defaultsShape : Shape := .record [(["format"], .plain), (["fail_on"], .plain)]

theorem defaults?_eq (v : Value) :
    defaults? s v = (v.fields? s [["format"], ["fail_on"]]).bind
    (field? (orDefault? none (nullable? text?)) fun format =>
      field? (orDefault? none (nullable? text?)) fun failOn =>
        done? (format, failOn)) := by
  rw [defaults?]
  cases v.fields? s [["format"], ["fail_on"]] with
  | none => rfl
  | some ws => rcases ws with _ | ⟨format, _ | ⟨failOn, _ | _⟩⟩ <;> simp [field?, done?]

theorem tolerates_defaults? : Tolerates defaultsShape (defaults? s) := by
  refine .record (by simp [Shape.Separate]) ?_ defaults?_eq
  apply Reads.field tolerates_text?.nullable?
  intro format
  apply Reads.field tolerates_text?.nullable?
  intro failOn
  exact .done _

/-! #### Switches -/

variable {α : Type} {key key' : String} {a b : α}
  {members members' : List (String × Value)}

theorem put_cons_of_gt {entries : List (String × α)} (h : key < key') :
    put key a ((key', b) :: entries) = (key, a) :: (key', b) :: entries := by
  rw [put, if_neg h.ne', if_pos h]

theorem put_cons_of_lt {entries : List (String × α)} (h : key' < key) :
    put key a ((key', b) :: entries) = (key', b) :: put key a entries := by
  rw [put, if_neg h.ne, if_neg h.not_gt]

theorem put_cons_self {entries : List (String × α)} :
    put key a ((key, b) :: entries) = (key, a) :: entries := by
  rw [put, if_pos rfl]

theorem put_put_of_lt (h : key < key') (entries : List (String × α)) :
    put key a (put key' b entries) = put key' b (put key a entries) := by
  induction entries with
  | nil =>
      rw [put, put, put_cons_of_gt h, put_cons_of_lt h]
      rfl
  | cons e rest ih =>
      obtain ⟨k, c⟩ := e
      rcases lt_trichotomy k key with hk | rfl | hk
      · have hk' : k < key' := hk.trans h
        rw [put_cons_of_lt hk', put_cons_of_lt hk, put_cons_of_lt hk, put_cons_of_lt hk',
          ih]
      · rw [put_cons_of_lt h, put_cons_self, put_cons_self, put_cons_of_lt h]
      · rcases lt_trichotomy k key' with hk' | rfl | hk'
        · rw [put_cons_of_lt hk', put_cons_of_gt hk, put_cons_of_gt hk, put_cons_of_lt h,
            put_cons_of_lt hk']
        · rw [put_cons_self, put_cons_of_gt h, put_cons_of_gt hk, put_cons_of_lt h,
            put_cons_self]
        · rw [put_cons_of_gt hk', put_cons_of_gt h, put_cons_of_gt hk, put_cons_of_lt h,
            put_cons_of_gt hk']

theorem put_put_comm (hne : key ≠ key') (entries : List (String × α)) :
    put key a (put key' b entries) = put key' b (put key a entries) := by
  rcases lt_or_gt_of_ne hne with h | h
  · exact put_put_of_lt h entries
  · exact (put_put_of_lt h entries).symm

theorem foldl_put_perm {switches switches' : List (String × α)}
    (hperm : switches.Perm switches') (hkeys : (switches.map Prod.fst).Nodup) :
    switches.foldl (fun all e => put e.1 e.2 all) [] =
      switches'.foldl (fun all e => put e.1 e.2 all) [] := by
  refine hperm.foldl_eq' (fun e he e' he' entries => ?_) []
  by_cases heq : e.1 = e'.1
  · rw [List.inj_on_of_nodup_map hkeys he he' heq]
  · exact put_put_comm (Ne.symm heq) entries

theorem exists_mapM_perm {read : String × Value → Option α} {as : List α}
    (hperm : members'.Perm members) (h : members.mapM read = some as) :
    ∃ as', members'.mapM read = some as' ∧ as'.Perm as := by
  obtain ⟨as', h', has⟩ := List.perm_comp_forall₂ hperm (forall₂_of_mapM h)
  exact ⟨as', mapM_of_forall₂ h', has⟩

def namedSwitch? (s : Strictness) (m : String × Value) : Option (String × Option Bool) :=
  (switch? s m.2).map (m.1, ·)

theorem switches?_record (members : List (String × Value)) :
    switches? s (.record members) = (members.mapM (namedSwitch? s)).map fun switches =>
      switches.foldl (fun all e => put e.1 e.2 all) [] := by
  rw [switches?, Option.map_eq_bind]
  rfl

theorem map_fst_of_mapM {switches : List (String × Option Bool)}
    (h : members.mapM (namedSwitch? s) = some switches) :
    switches.map Prod.fst = members.map Prod.fst := by
  rw [eq_comm, ← List.forall₂_eq_eq_eq, List.forall₂_map_left_iff,
    List.forall₂_map_right_iff]
  refine (forall₂_of_mapM h).imp fun m e he => ?_
  obtain ⟨on, -, rfl⟩ := Option.map_eq_some_iff.mp he
  rfl

theorem switches?_perm (hperm : members.Perm members')
    (hkeys : (members.map Prod.fst).Nodup) :
    switches? s (.record members) = switches? s (.record members') := by
  rw [switches?_record, switches?_record]
  cases h : members.mapM (namedSwitch? s) with
  | none =>
      cases h' : members'.mapM (namedSwitch? s) with
      | none => rfl
      | some switches' =>
          obtain ⟨switches, h'', -⟩ := exists_mapM_perm hperm h'
          rw [h] at h''
          cases h''
  | some switches =>
      obtain ⟨switches', h', hswitches⟩ := exists_mapM_perm hperm.symm h
      rw [← map_fst_of_mapM h] at hkeys
      rw [h', Option.map_some, Option.map_some, foldl_put_perm hswitches.symm hkeys]

theorem tolerates_switches? : Tolerates (.map switchShape) (switches? s) := by
  have hmember : ∀ (front back : List (String × Value)) (key : String) (u : Value)
      (o : Option Value), Becomes switchShape u o →
      switches? s (.record (front ++ (key, u) :: back)) =
        o.bind fun u' => switches? s (.record (front ++ (key, u') :: back)) := by
    intro front back key u o hu
    have hread : namedSwitch? s (key, u) = o.bind fun u' => namedSwitch? s (key, u') := by
      rw [namedSwitch?, tolerates_switch? u o hu]
      cases o <;> rfl
    simp only [switches?_record]
    rw [mapM_append_cons hread]
    cases o <;> rfl
  intro v o hv
  cases hv with
  | respelled hv =>
      cases hv with
      | reordered hperm hmap => exact switches?_perm hperm (hmap _ rfl)
      | member hu => exact hmember _ _ _ _ _ (.respelled hu)
      | item => rfl
  | doubled hv =>
      cases hv with
      | member hu => exact hmember _ _ _ _ _ (.doubled hu)
      | item => rfl

/-! #### Sections -/

def shape : Shape :=
  .record (sectionNames.zip
    [settingsShape, .map switchShape, patternsShape, defaultsShape])

theorem ofValue?_eq (v : Value) : ofValue? s v = (v.fields? s sectionNames).bind
    (field? (orDefault? (defaultEntryName, defaultTimeoutMs) (settings? s)) fun settings =>
      field? (orDefault? [] (switches? s)) fun switches =>
        field? (orDefault? [] (patterns? s)) fun patterns =>
          field? (orDefault? (none, none) (defaults? s)) fun names =>
            done? ⟨settings.1, settings.2, switches, patterns, names.1, names.2⟩) := by
  rw [ofValue?]
  cases v.fields? s sectionNames with
  | none => rfl
  | some ws =>
      rcases ws with _ | ⟨settings, _ | ⟨switches, _ | ⟨patterns, _ | ⟨names, _ | _⟩⟩⟩⟩ <;>
        simp [field?, done?]

theorem tolerates_ofValue? : Tolerates shape (ofValue? s) := by
  refine .record (by simp [Shape.Separate, sectionNames]) ?_ ofValue?_eq
  apply Reads.field tolerates_settings?
  intro settings
  apply Reads.field tolerates_switches?
  intro switches
  apply Reads.field tolerates_patterns?
  intro patterns
  apply Reads.field tolerates_defaults?
  intro names
  exact .done _

end Config

/-- Sockets, findings, nodes and configurations are read alike whatever the order of
members, the names chosen for fields and the members that are not known, at every depth;
what gives a field twice is none of them. -/
theorem Data.records_tolerant (s : Strictness) :
    Tolerant Socket.shape Socket.ofValue? ∧ Tolerant Finding.shape Finding.ofValue? ∧
      Tolerant NodeDefinition.shape NodeDefinition.ofValue? ∧
      Tolerant Config.shape (Config.ofValue? s) :=
  ⟨Socket.tolerates_ofValue?.tolerant, Finding.tolerates_ofValue?.tolerant,
    NodeDefinition.tolerates_ofValue?.tolerant, Config.tolerates_ofValue?.tolerant⟩

/-- The output of a node, with one of the names for its type. -/
def Data.outputsNode (key : String) : String × Value :=
  ("outputs", .list [.record [("name", .text "a"), (key, .text "number")]])

def Data.nodeRecord : Value := .record [("code", .text "return a"), outputsNode "type"]

/-- The same node with other names for two of the fields, in another order and with an
unknown member. -/
def Data.nodeRecordRespelled : Value :=
  .record [outputsNode "dataType", ("id", .alien .number), ("script", .text "return a")]

theorem Data.respells_node :
    Relation.EqvGen (Respells NodeDefinition.shape) nodeRecord nodeRecordRespelled := by
  have htype : Respells NodeDefinition.shape nodeRecord
      (.record [("code", .text "return a"), outputsNode "dataType"]) := by
    refine @Respells.member _ [("code", .text "return a")] [] "outputs" _ _ ?_
    refine @Respells.item _ [] [] _ _ ?_
    exact @Respells.renamed _ (["dataType", "data_type", "type"], .plain)
      [("name", .text "a")] []
      "type" "dataType" _ (by simp [Socket.fieldNames]) (by simp) (by simp)
  have hcode : Respells NodeDefinition.shape
      (.record [("code", .text "return a"), outputsNode "dataType"])
      (.record [("script", .text "return a"), outputsNode "dataType"]) :=
    @Respells.renamed _ (["code", "script"], .plain) [] _ "code" "script" _
      (by simp [NodeDefinition.fieldNames]) (by simp) (by simp)
  have hid : Respells NodeDefinition.shape
      (.record [("script", .text "return a"), outputsNode "dataType"])
      (.record [("script", .text "return a"), outputsNode "dataType",
        ("id", .alien .number)]) :=
    @Respells.extended _ [("script", .text "return a"), outputsNode "dataType"] [] "id" _
      (by simp [NodeDefinition.fieldNames])
  have horder : Respells NodeDefinition.shape
      (.record [("script", .text "return a"), outputsNode "dataType",
        ("id", .alien .number)])
      nodeRecordRespelled :=
    .reordered (@List.perm_append_comm _ [_] [_, _]) nofun
  exact .trans _ _ _ (.rel _ _ htype) <| .trans _ _ _ (.rel _ _ hcode) <|
    .trans _ _ _ (.rel _ _ hid) (.rel _ _ horder)

theorem Data.records_tolerant_node :
    Relation.EqvGen (Respells NodeDefinition.shape) nodeRecord nodeRecordRespelled ∧
      NodeDefinition.ofValue? nodeRecord = NodeDefinition.ofValue? nodeRecordRespelled ∧
      NodeDefinition.ofValue? nodeRecordRespelled =
        some ⟨none, "return a", [⟨"a", .number⟩], none⟩ ∧
      NodeDefinition.ofValue?
        (.record [("code", .text "a"), ("script", .text "a")]) = none := by
  have h := (records_tolerant .exact).2.2.1
  refine ⟨respells_node, h.respelled _ _ respells_node, by decide, h.doubled _ ?_⟩
  exact @Doubled.here _ (["code", "script"], .plain) [] [] [] _ _ _ _
    (by simp [NodeDefinition.fieldNames]) (by simp) (by simp)

end ScriptLint
