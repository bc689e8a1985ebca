import Flowcheck.Proofs.Document.Loading

/-!
# What a refusal blames

A value that is not read as a document is refused with a place or with a name. The place is an
address: followed from the outside it goes through objects and lists that are all there, and it ends
at a field that has to be something else (`Rule`). The name is one that two functions have, or two
blocks of one function. `blames_of_refused` says so of every value.

The readers are taken one by one, each at the place where it reads. What the readers before it have
found out about the value stands in its hypotheses.
-/

namespace Flowcheck

namespace Ir

/-! ## Places -/

/-- The part of a value that a step leads to. -/
def PathStep.part? (j : Json) : PathStep → Option Json
  | .field key => j.get? key
  | .item key index =>
    match j.get? key with
    | some (.list items) => items[index]?
    | _ => none

/-- The part of a value at a place. -/
def partAt? (j : Json) (path : Path) : Option Json := path.foldlM PathStep.part? j

theorem partAt?_concat (j : Json) (path : Path) (step : PathStep) :
    partAt? j (path ++ [step]) = (partAt? j path).bind step.part? := by
  rw [partAt?, List.foldlM_append, partAt?]
  refine congrArg (Option.bind _) (funext fun v ↦ ?_)
  exact Option.bind_fun_some (step.part? v)

/-- What stands at a place, or that nothing does. All that is around it is there and has the right
kind: a field is one of an object, an item is in a list that is a field of an object. -/
inductive Leads (d : Json) : Path → Option Json → Prop where
  | whole : Leads d [] (some d)
  | field {path : Path} {members : List (String × Json)}
    (around : Leads d path (some (.obj members))) (key : String) :
    Leads d (path ++ [.field key]) (Json.member? key members)
  | item {path : Path} {members : List (String × Json)} {key : String} {items : List Json}
    {index : Nat} {v : Json} (around : Leads d path (some (.obj members)))
    (list : Json.member? key members = some (.list items)) (there : items[index]? = some v) :
    Leads d (path ++ [.item key index]) (some v)

theorem Leads.partAt?_eq {d : Json} {path : Path} {v? : Option Json} (h : Leads d path v?) :
    partAt? d path = v? := by
  induction h with
  | whole => rfl
  | field _ key ih => rw [partAt?_concat, ih]; rfl
  | item _ list there ih =>
    rw [partAt?_concat, ih]
    show PathStep.part? (.obj _) (.item _ _) = _
    rw [PathStep.part?, Json.get?, list]
    exact there

namespace Document

/-! ## The shape, place by place -/

/-- What a field has to be. A name of a block is one of a block of the function with an index. -/
inductive Rule where
  | object
  | list
  | text
  | block (function : Nat)
  deriving DecidableEq, Repr

/-- The places of a function, of a block and of a statement. -/
def functionAt (i : Nat) : Path := [.item "functions" i]

@[inherit_doc functionAt]
def blockAt (i j : Nat) : Path := functionAt i ++ [.item "blocks" j]

@[inherit_doc functionAt]
def statementAt (i j k : Nat) : Path := blockAt i j ++ [.item "statements" k]

/-- The rules of the documented shape. -/
inductive Requires : Path → Rule → Prop where
  | document : Requires [] .object
  | functions : Requires [.field "functions"] .list
  | function (i : Nat) : Requires (functionAt i) .object
  | functionName (i : Nat) : Requires (functionAt i ++ [.field "name"]) .text
  | blocks (i : Nat) : Requires (functionAt i ++ [.field "blocks"]) .list
  | entry (i : Nat) : Requires (functionAt i ++ [.field "entry"]) (.block i)
  | exit (i : Nat) : Requires (functionAt i ++ [.field "exit"]) (.block i)
  | block (i j : Nat) : Requires (blockAt i j) .object
  | blockName (i j : Nat) : Requires (blockAt i j ++ [.field "name"]) .text
  | statements (i j : Nat) : Requires (blockAt i j ++ [.field "statements"]) .list
  | successors (i j : Nat) : Requires (blockAt i j ++ [.field "successors"]) .list
  | successor (i j k : Nat) : Requires (blockAt i j ++ [.item "successors" k]) (.block i)
  | statement (i j k : Nat) : Requires (statementAt i j k) .object
  | opcode (i j k : Nat) : Requires (statementAt i j k ++ [.field "op"]) .text
  | operands (i j k : Nat) : Requires (statementAt i j k ++ [.field "operands"]) .list

/-- A function has a name. -/
def Called (d : Json) (i : Nat) (name : String) : Prop :=
  Leads d (functionAt i ++ [.field "name"]) (some (.str name))

/-- A block of a function has a name. -/
def BlockCalled (d : Json) (i j : Nat) (name : String) : Prop :=
  Leads d (blockAt i j ++ [.field "name"]) (some (.str name))

/-- What stands in a field breaks a rule, and the fault that is told about it. Only a text is missed
where it is not there. -/
inductive Breaks (d : Json) : Rule → Option Json → FieldFault → Prop where
  | object {v : Json} (other : ∀ members, v ≠ .obj members) :
    Breaks d .object (some v) (.mistyped "dict" v.typeName)
  | list {v : Json} (other : ∀ items, v ≠ .list items) :
    Breaks d .list (some v) (.mistyped "list" v.typeName)
  | text {v? : Option Json} (other : ∀ s, v? = some (.str s) → s = "") :
    Breaks d .text v? .emptyText
  | block {i : Nat} {v : Json} (other : ∀ s, v = .str s → ∀ j, ¬ BlockCalled d i j s) :
    Breaks d (.block i) (some v) (.unknownBlock v.shown)

/-- What an error says about a value, and how it is reported. -/
inductive Blames (d : Json) : Error → Report → Prop where
  | field {path : Path} {rule : Rule} {v? : Option Json} {fault : FieldFault}
    (required : Requires path rule) (leads : Leads d path v?) (broken : Breaks d rule v? fault) :
    Blames d (.badField path fault)
      { kind := .graph, code? := some .badInput, message := path.text ++ ": " ++ fault.phrase }
  | function {name bundle : String} {i i' : Nat} (lt : i < i') (first : Called d i name)
    (second : Called d i' name) :
    Blames d (.duplicateFunction name bundle)
      { kind := .graph, code? := some .nameTaken
        message := "duplicate function " ++ Text.quoted name ++ " in bundle " ++
          Text.quoted bundle }
  | block {name owner : String} {i j j' : Nat} (called : Called d i owner) (lt : j < j')
    (first : BlockCalled d i j name) (second : BlockCalled d i j' name) :
    Blames d (.duplicateBlock name ("function " ++ Text.quoted owner))
      { kind := .graph, code? := some .nameTaken
        message := "duplicate basic block " ++ Text.quoted name ++ " in " ++
          ("function " ++ Text.quoted owner) }

/-- A reader whose errors say something true about a value. -/
def Accounts (d : Json) {α : Type} (read : Except Error α) : Prop :=
  ∀ e, read = .error e → Blames d e e.report

namespace Accounts

variable {d : Json} {α β : Type}

theorem ok (a : α) : Accounts d (.ok a : Except Error α) := fun _ h ↦ nomatch h

theorem error {e : Error} (h : Blames d e e.report) : Accounts d (.error e : Except Error α) := by
  rintro _ ⟨⟩
  exact h

/-- What was read before is known to what reads on. -/
theorem bind {read : Except Error α} {next : α → Except Error β} (h : Accounts d read)
    (hnext : ∀ a, read = .ok a → Accounts d (next a)) : Accounts d (read >>= next) := by
  intro e failed
  rcases bind_eq_error_iff.1 failed with failed | ⟨a, read, failed⟩
  · exact h e failed
  · exact hnext a read e failed

end Accounts

/-! ## Members -/

section Members

variable {d : Json} {path : Path} {key : String} {ms : List (String × Json)}

theorem HasItems.leads {items : List Json} (h : HasItems key (.obj ms) items)
    (around : Leads d path (some (.obj ms))) {index : Nat} {v : Json}
    (there : items[index]? = some v) : Leads d (path ++ [.item key index]) (some v) := by
  rcases h with here | -
  · exact .item around here there
  · cases there

theorem HasText.leads {text : String} (h : HasText key (.obj ms) text)
    (around : Leads d path (some (.obj ms))) :
    Leads d (path ++ [.field key]) (some (.str text)) := by
  have leads := Leads.field around key
  rwa [show Json.member? key ms = some (.str text) from h.1] at leads

theorem HasItems.part?_eq {j : Json} {items : List Json} (h : HasItems key j items) (index : Nat) :
    PathStep.part? j (.item key index) = items[index]? := by
  rcases h with here | missing
  · rw [PathStep.part?, Json.get?, here]
  · rw [PathStep.part?, Json.get?, missing]
    rfl

theorem accounts_expectObject {j : Json} (leads : Leads d path (some j))
    (required : Requires path .object) : Accounts d (expectObject path j) := by
  unfold expectObject
  split
  · exact .ok _
  · rename_i other
    exact .error (.field required leads (.object other))

theorem accounts_listMember (around : Leads d path (some (.obj ms)))
    (required : Requires (path ++ [.field key]) .list) : Accounts d (listMember path key ms) := by
  have leads := Leads.field around key
  rw [listMember]
  split
  · exact .ok _
  · rename_i j here
    rw [here] at leads
    unfold expectList
    split
    · exact .ok _
    · rename_i other
      exact .error (.field required leads (.list other))

theorem accounts_textMember (around : Leads d path (some (.obj ms)))
    (required : Requires (path ++ [.field key]) .text) : Accounts d (textMember path key ms) := by
  have leads := Leads.field around key
  rw [textMember]
  split
  · rename_i s here
    rw [here] at leads
    split
    · rename_i empty
      refine .error (.field required leads (.text ?_))
      rintro _ ⟨⟩
      exact empty
    · exact .ok _
  · rename_i other
    exact .error (.field required leads (.text fun s here ↦ absurd here (other s)))

/-- What holds of the items of a list from an index on holds of the ones after the first. -/
theorem items_tail {P : Nat → Json → Prop} {index : Nat} {j : Json} {js : List Json}
    (item : ∀ i v, (j :: js)[i]? = some v → P (index + i) v) (i : Nat) (v : Json)
    (there : js[i]? = some v) : P (index + 1 + i) v := by
  rw [Nat.add_right_comm, Nat.add_assoc]
  exact item (i + 1) v there

/-- One more name is taken. -/
theorem taken_concat {P : Nat → String → Prop} {taken : List String} {index : Nat}
    {name : String} (before : ∀ old ∈ taken, ∃ i < index, P i old) (here : P index name) :
    ∀ old ∈ taken ++ [name], ∃ i < index + 1, P i old := by
  intro old mem
  rcases List.mem_append.1 mem with mem | mem
  · obtain ⟨i, lt, first⟩ := before old mem
    exact ⟨i, Nat.lt_succ_of_lt lt, first⟩
  · obtain rfl := List.mem_singleton.1 mem
    exact ⟨index, Nat.lt_succ_self index, here⟩

/-- A list is read item by item, each at its own place. -/
theorem accounts_readItems {α : Type} {read : Path → Json → Except Error α} {index : Nat}
    {js : List Json}
    (item : ∀ i j, js[i]? = some j → Accounts d (read (path ++ [.item key (index + i)]) j)) :
    Accounts d (readItems path key read index js) := by
  induction js generalizing index with
  | nil => exact .ok _
  | cons j js ih =>
    have rest := ih (items_tail
      (P := fun i j ↦ Accounts d (read (path ++ [.item key i]) j)) item)
    exact (item 0 j rfl).bind fun _ _ ↦ rest.bind fun _ _ ↦ .ok _

end Members

/-! ## Blocks -/

section Blocks

variable {d : Json} {i j : Nat}

theorem accounts_readStatement {k : Nat} {v : Json} (leads : Leads d (statementAt i j k) (some v)) :
    Accounts d (readStatement (statementAt i j k) v) := by
  refine (accounts_expectObject leads (.statement i j k)).bind fun ms object ↦ ?_
  obtain rfl := expectObject_eq_ok_iff.1 object
  refine (accounts_textMember leads (.opcode i j k)).bind fun _ _ ↦ ?_
  exact (accounts_listMember leads (.operands i j k)).bind fun _ _ ↦ .ok _

theorem accounts_readBlock {v : Json} (leads : Leads d (blockAt i j) (some v)) :
    Accounts d (readBlock (blockAt i j) v) := by
  refine (accounts_expectObject leads (.block i j)).bind fun ms object ↦ ?_
  obtain rfl := expectObject_eq_ok_iff.1 object
  refine (accounts_textMember leads (.blockName i j)).bind fun _ _ ↦ ?_
  refine (accounts_listMember leads (.statements i j)).bind fun items given ↦ ?_
  refine .bind (accounts_readItems fun k s there ↦ ?_) fun _ _ ↦ .ok _
  rw [Nat.zero_add]
  exact accounts_readStatement ((listMember_eq_ok_iff.1 given).leads leads there)

/-- The names that are taken are those of the blocks before. -/
theorem accounts_readBlocks {owner : String} (called : Called d i owner) {taken : List String}
    {index : Nat} {js : List Json}
    (before : ∀ name ∈ taken, ∃ j < index, BlockCalled d i j name)
    (item : ∀ k v, js[k]? = some v → Leads d (blockAt i (index + k)) (some v)) :
    Accounts d (readBlocks (functionAt i) ("function " ++ Text.quoted owner) taken index js) := by
  induction js generalizing taken index with
  | nil => exact .ok _
  | cons v js ih =>
    have leads : Leads d (blockAt i index) (some v) := item 0 v rfl
    refine (accounts_readBlock leads).bind fun b read ↦ ?_
    have here : BlockCalled d i index b.name := by
      obtain ⟨named, items, given, -⟩ := (readBlock_eq_ok_iff.1 read).1
      obtain ⟨ms, rfl⟩ := given.exists_obj
      exact named.leads leads
    split
    · rename_i old
      obtain ⟨j, lt, first⟩ := before b.name old
      exact .error (.block called lt first here)
    · have rest := ih (taken_concat before here)
        (items_tail (P := fun k v ↦ Leads d (blockAt i k) (some v)) item)
      exact rest.bind fun _ _ ↦ .ok _

end Blocks

/-! ## Names of blocks -/

section Names

variable {d : Json} {i : Nat} {names : List String}

/-- The names that the first pass has read are all there are. -/
theorem not_blockCalled {ms : List (String × Json)} {items : List Json}
    (around : Leads d (functionAt i) (some (.obj ms))) (given : HasItems "blocks" (.obj ms) items)
    {bs : List BlockSpec}
    (each : List.Forall₂ (fun v b ↦ HasOutline v b.outline ∧ b.successors = []) items bs)
    {s : String} (unknown : s ∉ bs.map BlockSpec.name) (j : Nat) : ¬ BlockCalled d i j s := by
  intro called
  have here := Leads.partAt?_eq called
  rw [partAt?_concat, blockAt, partAt?_concat, around.partAt?_eq, Option.bind_some,
    given.part?_eq, Option.bind_eq_some_iff] at here
  obtain ⟨v, there, named⟩ := here
  obtain ⟨b, hb, outline, -⟩ := exists_of_mem_left each (List.mem_of_getElem? there)
  obtain rfl : b.name = s := Json.str.inj (Option.some.inj (outline.name.1.symm.trans named))
  exact unknown (List.mem_map_of_mem hb)

variable (known : ∀ s ∉ names, ∀ j, ¬ BlockCalled d i j s)

include known

theorem accounts_readBlockName {path : Path} {v : Json} (leads : Leads d path (some v))
    (required : Requires path (.block i)) : Accounts d (readBlockName names path v) := by
  unfold readBlockName
  split
  · split
    · exact .ok _
    · rename_i s unknown
      refine .error (.field required leads (.block ?_))
      rintro _ ⟨⟩
      exact known s unknown
  · rename_i other
    exact .error (.field required leads (.block fun s same ↦ absurd same (other s)))

theorem accounts_readSuccessors {j : Nat} {v : Json} (leads : Leads d (blockAt i j) (some v)) :
    Accounts d (readSuccessors names (blockAt i j) v) := by
  refine (accounts_expectObject leads (.block i j)).bind fun ms object ↦ ?_
  obtain rfl := expectObject_eq_ok_iff.1 object
  refine (accounts_listMember leads (.successors i j)).bind fun items given ↦ ?_
  refine accounts_readItems fun k s there ↦ ?_
  rw [Nat.zero_add]
  have leads := (listMember_eq_ok_iff.1 given).leads leads there
  exact accounts_readBlockName known leads (.successor i j k)

theorem accounts_blockMember {path : Path} {key : String} {ms : List (String × Json)}
    (around : Leads d path (some (.obj ms)))
    (required : Requires (path ++ [.field key]) (.block i)) :
    Accounts d (blockMember names path key ms) := by
  have leads := Leads.field around key
  rw [blockMember]
  split
  · exact .ok _
  · rename_i v here
    rw [here] at leads
    exact (accounts_readBlockName known leads required).bind fun _ _ ↦ .ok _

end Names

/-! ## Functions -/

theorem accounts_readFunctionBody {d : Json} {i : Nat} {owner : String} {ms : List (String × Json)}
    (around : Leads d (functionAt i) (some (.obj ms))) (called : Called d i owner) :
    Accounts d (readFunctionBody (functionAt i) owner ms) := by
  refine (accounts_listMember around (.blocks i)).bind fun items given ↦ ?_
  have given := listMember_eq_ok_iff.1 given
  have block (j : Nat) (v : Json) (there : items[j]? = some v) :
      Leads d (blockAt i (0 + j)) (some v) := by
    rw [Nat.zero_add]
    exact given.leads around there
  refine (accounts_readBlocks called (by simp) block).bind fun bs read ↦ ?_
  obtain ⟨each, -⟩ := (readBlocks_eq_ok_iff List.nodup_nil).1 read
  have known (s : String) (unknown : s ∉ bs.map BlockSpec.name) (j : Nat) :
      ¬ BlockCalled d i j s := not_blockCalled around given each unknown j
  refine .bind (accounts_readItems fun j v there ↦ ?_) fun _ _ ↦ ?_
  · exact accounts_readSuccessors known (block j v there)
  · refine (accounts_blockMember known around (.entry i)).bind fun _ _ ↦ ?_
    exact (accounts_blockMember known around (.exit i)).bind fun _ _ ↦ .ok _

/-- The names that are taken are those of the functions before. -/
theorem accounts_readFunctions {d : Json} {bundle : String} {taken : List String} {index : Nat}
    {js : List Json}
    (before : ∀ name ∈ taken, ∃ i < index, Called d i name)
    (item : ∀ k v, js[k]? = some v → Leads d (functionAt (index + k)) (some v)) :
    Accounts d (readFunctions bundle taken index js) := by
  induction js generalizing taken index with
  | nil => exact .ok _
  | cons v js ih =>
    have leads : Leads d (functionAt index) (some v) := item 0 v rfl
    refine (accounts_expectObject leads (.function index)).bind fun ms object ↦ ?_
    obtain rfl := expectObject_eq_ok_iff.1 object
    refine (accounts_textMember leads (.functionName index)).bind fun name named ↦ ?_
    have here : Called d index name := (textMember_eq_ok_iff.1 named).leads leads
    split
    · rename_i old
      obtain ⟨i, lt, first⟩ := before name old
      exact .error (.function lt first here)
    · have rest := ih (taken_concat before here)
        (items_tail (P := fun k v ↦ Leads d (functionAt k) (some v)) item)
      exact (accounts_readFunctionBody leads here).bind fun _ _ ↦ rest.bind fun _ _ ↦ .ok _

/-! ## Documents -/

theorem accounts_ofJson (d : Json) : Accounts d (ofJson d) := by
  refine (accounts_expectObject .whole .document).bind fun ms object ↦ ?_
  obtain rfl := expectObject_eq_ok_iff.1 object
  refine (accounts_listMember .whole .functions).bind fun items given ↦ ?_
  refine .bind (accounts_readFunctions (by simp) fun i v there ↦ ?_) fun _ _ ↦ .ok _
  rw [Nat.zero_add]
  exact (listMember_eq_ok_iff.1 given).leads .whole there

/-- **Whatever is refused, its error blames a part that breaks a rule of the shape, with nothing
wrong around it, or a name that is there twice.** The check of the bundle at the end refuses nothing
more. -/
theorem blames_of_refused {d : Json} {e : Error} (next : Nat)
    (refused : (ofJson d >>= fun document ↦ (document.build next).1.validate) = .error e) :
    Blames d e e.report := by
  rcases bind_eq_error_iff.1 refused with refused | ⟨document, read, refused⟩
  · exact accounts_ofJson d e refused
  · rw [(loads d next).valid document read] at refused
    cases refused

/-- A statement without an opcode, in the second block of the only function. -/
def withoutOpcode : Json :=
  .obj [("functions", .list [.obj [("name", .str "f"), ("blocks", .list [.obj [("name", .str "a")],
    .obj [("name", .str "b"), ("statements", .list [.obj [("op", .str "")]])]])]])]

theorem blames_withoutOpcode :
    ofJson withoutOpcode = .error (.badField (statementAt 0 1 0 ++ [.field "op"]) .emptyText) ∧
      Blames withoutOpcode (.badField (statementAt 0 1 0 ++ [.field "op"]) .emptyText)
        { kind := .graph, code? := some .badInput
          message := "functions[0].blocks[1].statements[0].op: expected a non-empty string" } := by
  have refused : ofJson withoutOpcode =
      .error (.badField (statementAt 0 1 0 ++ [.field "op"]) .emptyText) := by decide
  have message : (Error.badField (statementAt 0 1 0 ++ [.field "op"]) .emptyText).message =
      "functions[0].blocks[1].statements[0].op: expected a non-empty string" := by decide
  exact ⟨refused, message ▸ blames_of_refused 1 (bind_eq_error_iff.2 (.inl refused))⟩

end Document

end Ir

end Flowcheck
