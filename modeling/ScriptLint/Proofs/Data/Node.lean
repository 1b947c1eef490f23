import ScriptLint.Proofs.Data.Record

namespace ScriptLint

open ScriptLint.Data

/-! Nodes read from records, whatever the order of the members, the names that are chosen
for them and what else there is. -/

/-! ### Fields -/

namespace Data.Value

variable {members : List (String × Value)} {names : List String} {value : Option Value}

/-- What a record gives for a field with some names: the value of the one member with any
of them, or nothing. -/
inductive Gives (members : List (String × Value))
    (names : List String) : Option Value → Prop
  | given (front back : List (String × Value)) {key : String} {v : Value}
      (hmembers : members = front ++ (key, v) :: back) (hkey : key ∈ names)
      (hothers : ∀ m ∈ front ++ back, m.1 ∉ names) : Gives members names (some v)
  | absent (hothers : ∀ m ∈ members, m.1 ∉ names) : Gives members names none

theorem named_append (front back : List (String × Value)) :
    named names (front ++ back) = named names front ++ named names back := by
  simp [named]

theorem Gives.atMostOne?_eq (h : Gives members names value) :
    atMostOne? (named names members) = some value := by
  cases h with
  | @given front back key v hmembers hkey hothers =>
      rw [List.forall_mem_append] at hothers
      have hback : named names ((key, v) :: back) = v :: named names back := by
        simp [named, hkey]
      rw [hmembers, named_append, hback, named_of_others hothers.1,
        named_of_others hothers.2]
      rfl
  | absent hothers =>
      rw [named_of_others hothers]
      rfl

/-- The fields of a record are what it gives for them, in the order of the fields. -/
theorem fields?_of_gives {strictness : Strictness} {fields : List (List String)}
    {values : List (Option Value)} (h : List.Forall₂ (Gives members) fields values) :
    (record members).fields? strictness fields = some values :=
  mapM_of_forall₂ (h.imp fun _ _ h => h.atMostOne?_eq)

end Data.Value

/-! ### Sockets -/

theorem DataType.mem_all (t : DataType) : t ∈ all := by
  cases t <;> decide

theorem DataType.choice?_name (t : DataType) :
    Value.choice? name all (.text t.name) = some t :=
  Value.choice?_name t.mem_all (by cases t <;> decide)

/-- A record stands for a socket: it gives the name, and it gives the data type under one
of its names or leaves it out where the socket takes any. -/
inductive Socket.StoredAs (o : Socket) : Value → Prop
  | typed {members : List (String × Value)}
      (hname : Value.Gives members ["name"] (some (.text o.name)))
      (htype : Value.Gives members ["dataType", "data_type", "type"]
        (some (.text o.dataType.name))) : StoredAs o (.record members)
  | untyped {members : List (String × Value)}
      (hname : Value.Gives members ["name"] (some (.text o.name)))
      (htype : Value.Gives members ["dataType", "data_type", "type"] none)
      (hany : o.dataType = .any) : StoredAs o (.record members)

theorem Socket.StoredAs.ofValue?_eq {o : Socket} {v : Value} (h : o.StoredAs v) :
    Socket.ofValue? v = some o := by
  cases h with
  | @typed members hname htype =>
      have hfields : (Value.record members).fields? .exact fieldNames =
          some [some (.text o.name), some (.text o.dataType.name)] :=
        Value.fields?_of_gives (.cons hname (.cons htype .nil))
      simp [ofValue?, hfields, Value.text?, Value.orDefault?, DataType.choice?_name]
  | @untyped members hname htype hany =>
      have hfields : (Value.record members).fields? .exact fieldNames =
          some [some (.text o.name), none] :=
        Value.fields?_of_gives (.cons hname (.cons htype .nil))
      simp [ofValue?, hfields, Value.text?, Value.orDefault?, ← hany]

theorem Socket.listOf?_eq {sockets : List Socket} {items : List Value}
    (h : List.Forall₂ Socket.StoredAs sockets items) :
    Value.listOf? Socket.ofValue? (.list items) = some sockets :=
  Value.mapM_of_forall₂ (h.flip.imp fun _ _ h => h.ofValue?_eq)

/-! ### Nodes -/

namespace NodeDefinition

/-- A node with or without a name. An empty list of inputs stands for none. -/
def ofSockets (name : Option String) (code : String) (outputs inputs : List Socket) :
    NodeDefinition :=
  ⟨name, code, outputs, if inputs.isEmpty then none else some inputs⟩

/-- A record holds the code of a node and its sockets, and for its name what may stand for
one. Without outputs or inputs their member can be left out, and that of the inputs can be
null. -/
structure Stored (members : List (String × Value)) (code : String)
    (outputs inputs : List Socket) : Prop where
  name : Value.Gives members ["name"] none ∨ Value.Gives members ["name"] (some .null) ∨
    ∃ name, Value.Gives members ["name"] (some (.text name))
  code : Value.Gives members ["code", "script"] (some (.text code))
  outputs : (outputs = [] ∧ Value.Gives members ["outputs"] none) ∨
    ∃ items, Value.Gives members ["outputs"] (some (.list items)) ∧
      List.Forall₂ Socket.StoredAs outputs items
  inputs : (inputs = [] ∧
      (Value.Gives members ["inputs"] none ∨
        Value.Gives members ["inputs"] (some .null))) ∨
    (inputs ≠ [] ∧ ∃ items, Value.Gives members ["inputs"] (some (.list items)) ∧
      List.Forall₂ Socket.StoredAs inputs items)

variable {members : List (String × Value)} {code : String} {outputs inputs : List Socket}

theorem Stored.exists_name (h : Stored members code outputs inputs) :
    ∃ value name, Value.Gives members ["name"] value ∧
      Value.orDefault? none (Value.nullable? Value.text?) value = some name := by
  rcases h.name with hvalue | hvalue | ⟨name, hvalue⟩
  · exact ⟨_, none, hvalue, rfl⟩
  · exact ⟨_, none, hvalue, rfl⟩
  · exact ⟨_, some name, hvalue, rfl⟩

theorem Stored.exists_outputs (h : Stored members code outputs inputs) :
    ∃ value, Value.Gives members ["outputs"] value ∧
      Value.orDefault? [] (Value.listOf? Socket.ofValue?) value = some outputs := by
  rcases h.outputs with ⟨rfl, hvalue⟩ | ⟨items, hvalue, hitems⟩
  · exact ⟨_, hvalue, rfl⟩
  · exact ⟨_, hvalue, Socket.listOf?_eq hitems⟩

theorem Stored.exists_inputs (h : Stored members code outputs inputs) :
    ∃ value, Value.Gives members ["inputs"] value ∧
      Value.orDefault? none (Value.nullable? (Value.listOf? Socket.ofValue?)) value =
        some (if inputs.isEmpty then none else some inputs) := by
  rcases h.inputs with ⟨rfl, hvalue | hvalue⟩ | ⟨hinputs, items, hvalue, hitems⟩
  · exact ⟨_, hvalue, rfl⟩
  · exact ⟨_, hvalue, rfl⟩
  · refine ⟨_, hvalue, ?_⟩
    rw [if_neg (by simpa using hinputs), Value.orDefault?, Value.nullable?,
      Socket.listOf?_eq hitems]
    · rfl
    · simp

theorem Stored.ofValue?_eq (h : Stored members code outputs inputs) :
    ∃ name, ofValue? (.record members) = some (ofSockets name code outputs inputs) := by
  obtain ⟨nameValue, name, hname, hreadName⟩ := h.exists_name
  obtain ⟨outputsValue, houtputs, hreadOutputs⟩ := h.exists_outputs
  obtain ⟨inputsValue, hinputs, hreadInputs⟩ := h.exists_inputs
  have hfields : (Value.record members).fields? .exact fieldNames =
      some [nameValue, some (.text code), outputsValue, inputsValue] :=
    Value.fields?_of_gives
      (.cons hname (.cons h.code (.cons houtputs (.cons hinputs .nil))))
  refine ⟨name, ?_⟩
  simp [ofValue?, hfields, hreadName, hreadOutputs, hreadInputs, Value.text?, ofSockets]

end NodeDefinition

end ScriptLint
