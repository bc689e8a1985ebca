import Flowcheck.Json.Access
import Flowcheck.Proofs.Document.Shape

/-!
# What loads, and as what

Two descriptions that mention neither readers nor documents. `Shaped` says what a value has to look
like: which keys of which objects hold texts and lists, and which names have to be distinct or
there. `RepresentsBundle` says what a bundle has to look like to be the one that a value stands for.
A value is accepted exactly if it has the shape, whatever is made of it is the bundle that it stands
for, and whatever is refused is refused with an error of the graph.
-/

namespace Flowcheck.Ir.Document

/-! ## The shape -/

/-- A value of the shape of a statement. -/
structure StatementShaped (j : Json) : Prop where
  opcode : ∃ op, HasText "op" j op
  operands : ∃ items, HasItems "operands" j items

/-- A value of the shape of a block in a function whose blocks have the given names. -/
structure BlockShaped (names : List String) (j : Json) : Prop where
  statements : ∃ items, HasItems "statements" j items ∧ ∀ item ∈ items, StatementShaped item
  successors : ∃ items, HasItems "successors" j items ∧
    ∀ item ∈ items, ∃ name, item = .str name ∧ name ∈ names

/-- A value of the shape of a function. A successor may name any of the blocks, earlier or later. -/
inductive FunctionShaped (j : Json) : Prop where
  | intro {blocks : List Json} {names : List String} (given : HasItems "blocks" j blocks)
    (named : List.Forall₂ (HasText "name") blocks names) (distinct : names.Nodup)
    (block : ∀ item ∈ blocks, BlockShaped names item)
    (entry : ∀ v, j.get? "entry" = some v → ∃ name, v = .str name ∧ name ∈ names)
    (exit : ∀ v, j.get? "exit" = some v → ∃ name, v = .str name ∧ name ∈ names)

/-- A value of the shape of a bundle. -/
inductive Shaped (j : Json) : Prop where
  | intro {functions : List Json} {names : List String}
    (given : HasItems "functions" j functions)
    (named : List.Forall₂ (HasText "name") functions names) (distinct : names.Nodup)
    (function : ∀ item ∈ functions, FunctionShaped item)

section Lists

variable {α β γ : Type} {as : List α}

theorem exists_forall₂ {R : α → β → Prop} (h : ∀ a ∈ as, ∃ b, R a b) :
    ∃ bs, List.Forall₂ R as bs := by
  induction as with
  | nil => exact ⟨[], .nil⟩
  | cons a as ih =>
    obtain ⟨⟨b, hb⟩, has⟩ := List.forall_mem_cons.1 h
    obtain ⟨bs, hbs⟩ := ih has
    exact ⟨b :: bs, .cons hb hbs⟩

/-- Related lists, one of which is to be an image. -/
theorem exists_forall₂_map {R : α → γ → Prop} {S : α → β → Prop} {f : β → γ} {cs : List γ}
    (h : List.Forall₂ R as cs) (lift : ∀ a ∈ as, ∀ c, R a c → ∃ b, f b = c ∧ S a b) :
    ∃ bs, bs.map f = cs ∧ List.Forall₂ S as bs := by
  induction h with
  | nil => exact ⟨[], rfl, .nil⟩
  | cons first _ ih =>
    obtain ⟨lifts, rest⟩ := List.forall_mem_cons.1 lift
    obtain ⟨b, rfl, hb⟩ := lifts _ first
    obtain ⟨bs, rfl, hbs⟩ := ih rest
    exact ⟨b :: bs, rfl, .cons hb hbs⟩

theorem exists_of_mem_left {R : α → β → Prop} {bs : List β} (h : List.Forall₂ R as bs) {a : α}
    (ha : a ∈ as) : ∃ b ∈ bs, R a b :=
  exists_of_mem_right h.flip ha

theorem forall₂_comp {R : α → β → Prop} {S : β → γ → Prop} {T : α → γ → Prop} {bs : List β}
    {cs : List γ} (h : List.Forall₂ R as bs) (h' : List.Forall₂ S bs cs)
    (compose : ∀ a b c, R a b → S b c → T a c) : List.Forall₂ T as cs := by
  induction h generalizing cs with
  | nil => rw [List.forall₂_nil_left_iff.1 h']; exact .nil
  | cons first _ ih =>
    obtain ⟨c, cs, first', rest', rfl⟩ := List.forall₂_cons_left_iff.1 h'
    exact .cons (compose _ _ _ first first') (ih rest')

end Lists

theorem statementShaped_iff {j : Json} : StatementShaped j ↔ ∃ s, IsStatement j s := by
  constructor
  · rintro ⟨⟨op, opcode⟩, items, operands⟩
    exact ⟨⟨op, items.map Json.display⟩, opcode, items, operands, rfl⟩
  · rintro ⟨s, opcode, items, operands, -⟩
    exact ⟨⟨s.opcode, opcode⟩, items, operands⟩

theorem exists_isBlock {names : List String} {j : Json} {name : String}
    (named : HasText "name" j name) (shaped : BlockShaped names j) :
    ∃ b : BlockSpec, b.name = name ∧ IsBlock names j b := by
  obtain ⟨⟨items, given, each⟩, _, given', names⟩ := shaped
  obtain ⟨statements, each⟩ := exists_forall₂ fun item hi ↦ statementShaped_iff.1 (each item hi)
  obtain ⟨successors, names⟩ := exists_forall₂ names
  obtain ⟨rfl, own⟩ := forall₂_names_iff.1 names
  exact ⟨⟨name, statements, successors⟩, rfl, ⟨named, items, given, each⟩, given', own⟩

theorem IsBlock.shaped {names : List String} {j : Json} {b : BlockSpec} (h : IsBlock names j b) :
    BlockShaped names j := by
  obtain ⟨items, given, each⟩ := h.outline.statements
  refine ⟨⟨items, given, fun item hi ↦ ?_⟩, _, h.successors.items, fun item hi ↦ ?_⟩
  · obtain ⟨s, -, hs⟩ := exists_of_mem_left each hi
    exact statementShaped_iff.2 ⟨s, hs⟩
  · obtain ⟨name, hn, rfl⟩ := List.mem_map.1 hi
    exact ⟨name, rfl, h.successors.own name hn⟩

theorem exists_names_iff {names : List String} {key : String} {j : Json} :
    (∃ name?, Names names key j name?) ↔
      ∀ v, j.get? key = some v → ∃ name, v = .str name ∧ name ∈ names := by
  constructor
  · rintro ⟨name?, here, own⟩ v hv
    rw [here, Option.map_eq_some_iff] at hv
    obtain ⟨name, rfl, rfl⟩ := hv
    exact ⟨name, rfl, own name rfl⟩
  · intro shaped
    cases here : j.get? key with
    | none => exact ⟨none, here, by simp⟩
    | some v =>
      obtain ⟨name, rfl, own⟩ := shaped v here
      exact ⟨some name, here, by simpa using own⟩

theorem exists_isFunction {j : Json} {name : String} (named : HasText "name" j name)
    (shaped : FunctionShaped j) : ∃ f : FunctionSpec, f.name = name ∧ IsFunction j f := by
  obtain ⟨given, names, distinct, block, entry, exit⟩ := shaped
  -- The blocks are found for the names that are given, so the names stay what they are.
  obtain ⟨blocks, rfl, each⟩ := exists_forall₂_map names fun item hi _ named ↦
    exists_isBlock named (block item hi)
  obtain ⟨ entry?, entry⟩ := exists_names_iff.2 entry
  obtain ⟨exit?, exit⟩ := exists_names_iff.2 exit
  exact ⟨⟨name, entry?, exit?, blocks⟩, rfl, named, ⟨_, given, each⟩, distinct, entry, exit⟩

theorem IsFunction.shaped {j : Json} {f : FunctionSpec} (h : IsFunction j f) :
    FunctionShaped j := by
  obtain ⟨items, given, each⟩ := h.body.blocks
  have named : List.Forall₂ (HasText "name") items f.names :=
    List.forall₂_map_right_iff.2 (each.imp fun _ _ block ↦ block.outline.name)
  refine .intro given named h.body.distinct (fun item hi ↦ ?_)
    (exists_names_iff.1 ⟨_, h.body.entry⟩) (exists_names_iff.1 ⟨_, h.body.exit⟩)
  obtain ⟨b, -, block⟩ := exists_of_mem_left each hi
  exact block.shaped

/-- **The values of the shape are those that describe a document.** -/
theorem shaped_iff {j : Json} : Shaped j ↔ ∃ d, IsDocument j d := by
  constructor
  · rintro ⟨given, named, distinct, function⟩
    obtain ⟨functions, rfl, each⟩ := exists_forall₂_map named fun item hi _ named ↦
      exists_isFunction named (function item hi)
    exact ⟨⟨_, functions⟩, rfl, ⟨_, given, each⟩, distinct⟩
  · rintro ⟨d, -, ⟨items, given, each⟩, distinct⟩
    have named : List.Forall₂ (HasText "name") items (d.functions.map FunctionSpec.name) :=
      List.forall₂_map_right_iff.2 (each.imp fun _ _ function ↦ function.name)
    refine .intro given named distinct fun item hi ↦ ?_
    obtain ⟨f, -, function⟩ := exists_of_mem_left each hi
    exact function.shaped

/-! ## The bundle -/

/-- A block with the name and the statements that a value asks for. -/
def RepresentsBlock (j : Json) (bb : Block) : Prop := HasOutline j bb.outline

/-- An edge that a value lists: the name of a block and one of its successors. -/
def Lists (blocks : List Json) (src dst : String) : Prop :=
  ∃ item ∈ blocks, HasText "name" item src ∧
    ∃ listed, HasItems "successors" item listed ∧ .str dst ∈ listed

/-- A function with the blocks and the edges that a value asks for. -/
structure RepresentsFunction (j : Json) (f : Function) : Prop where
  name : HasText "name" j f.name
  blocks : ∃ items, HasItems "blocks" j items ∧ List.Forall₂ RepresentsBlock items f.body.blocks ∧
    ∀ src dst, f.body.NamedEdge src dst ↔ Lists items src dst
  /-- Unless another one is named the first block is the entry. -/
  entry : f.body.entryName? = (j.text? "entry").or (f.body.blocks.head?.map Block.name)
  exit : f.body.exitName? = j.text? "exit"

/-- A bundle with the functions that a value asks for. -/
structure RepresentsBundle (j : Json) (b : Bundle) : Prop where
  name : b.name = ((j.get? "name").map Json.display).getD defaultBundleName
  functions : ∃ items, HasItems "functions" j items ∧
    List.Forall₂ RepresentsFunction items b.functions

theorem IsBlock.wellFormed {names : List String} {j : Json} {b : BlockSpec}
    (h : IsBlock names j b) : b.WellFormed names where
  name_ne := h.outline.name.2
  opcode_ne s hs := by
    obtain ⟨items, -, each⟩ := h.outline.statements
    obtain ⟨item, -, statement⟩ := exists_of_mem_right each hs
    exact statement.opcode.2
  successors := h.successors.own

theorem IsFunction.wellFormed {j : Json} {f : FunctionSpec} (h : IsFunction j f) :
    f.WellFormed where
  name_ne := h.name.2
  names_nodup := h.body.distinct
  block b hb := by
    obtain ⟨items, -, each⟩ := h.body.blocks
    obtain ⟨item, -, block⟩ := exists_of_mem_right each hb
    exact block.wellFormed
  entry := h.body.entry.2
  exit := h.body.exit.2

theorem IsDocument.wellFormed {j : Json} {d : Document} (h : IsDocument j d) : d.WellFormed where
  names_nodup := h.distinct
  function f hf := by
    obtain ⟨items, -, each⟩ := h.functions
    obtain ⟨item, -, function⟩ := exists_of_mem_right each hf
    exact function.wellFormed

/-- The listed edges are the pairs of a description. -/
theorem lists_iff {names : List String} {items : List Json} {f : FunctionSpec}
    (each : List.Forall₂ (IsBlock names) items f.blocks) {src dst : String} :
    (src, dst) ∈ f.pairs ↔ Lists items src dst := by
  rw [FunctionSpec.mem_pairs_iff]
  constructor
  · rintro ⟨b, hb, rfl, hd⟩
    obtain ⟨item, hi, block⟩ := exists_of_mem_right each hb
    exact ⟨item, hi, block.outline.name, _, block.successors.items, List.mem_map_of_mem hd⟩
  · rintro ⟨item, hi, named, listed, given, hd⟩
    obtain ⟨b, hb, block⟩ := exists_of_mem_left each hi
    obtain rfl := given.unique block.successors.items
    obtain ⟨_, hd, ⟨⟩⟩ := List.mem_map.1 hd
    exact ⟨b, hb, block.outline.name.unique named, hd⟩

theorem Names.text?_eq {names : List String} {key : String} {j : Json} {name? : Option String}
    (h : Names names key j name?) : j.text? key = name? := by
  rw [Json.text?, Json.field, h.1]
  cases name? <;> rfl

theorem IsFunction.represents {j : Json} {spec : FunctionSpec} {f : Function}
    (h : IsFunction j spec) (described : spec.Describes f) : RepresentsFunction j f := by
  obtain ⟨items, given, each⟩ := h.body.blocks
  have outlines : List.Forall₂ HasOutline items (spec.blocks.map BlockSpec.outline) :=
    List.forall₂_map_right_iff.2 (each.imp fun _ _ block ↦ block.outline)
  rw [← described.outlines, List.forall₂_map_right_iff] at outlines
  constructor
  case name => exact described.name ▸ h.name
  case blocks =>
    exact ⟨items, given, outlines, fun src dst ↦ (described.edge src dst).trans (lists_iff each)⟩
  case entry =>
    have first : spec.blocks.head?.map BlockSpec.name = f.body.blocks.head?.map Block.name := by
      rw [← List.head?_map, ← List.head?_map, map_name_of_outlines described.outlines]
    rw [described.entry, h.body.entry.text?_eq, first]
  case exit => rw [described.exit, h.body.exit.text?_eq]

theorem IsDocument.represents {j : Json} {d : Document} (h : IsDocument j d) (next : Nat) :
    RepresentsBundle j (d.build next).1 := by
  obtain ⟨items, given, each⟩ := h.functions
  exact ⟨h.name, items, given, forall₂_comp each (builds_build h.wellFormed next)
    fun _ _ _ function made ↦ function.represents made.describes⟩

/-! ## Errors -/

/-- The errors of reading: a misplaced value, and a name given twice. -/
inductive Refusal : Error → Prop where
  | field (path : Path) (fault : FieldFault) : Refusal (.badField path fault)
  | block (name scope : String) : Refusal (.duplicateBlock name scope)
  | function (name bundle : String) : Refusal (.duplicateFunction name bundle)

theorem Refusal.kind {e : Error} (h : Refusal e) : e.report.kind = .graph := by
  cases h <;> rfl

/-- A reader that fails with errors of reading only. -/
def Refuses {α : Type} (read : Except Error α) : Prop := ∀ e, read = .error e → Refusal e

namespace Refuses

variable {α β : Type}

theorem ok (a : α) : Refuses (.ok a) := fun _ h ↦ nomatch h

theorem error {e : Error} (h : Refusal e) : Refuses (.error e : Except Error α) := by
  rintro _ ⟨⟩
  exact h

theorem bind {read : Except Error α} {next : α → Except Error β} (h : Refuses read)
    (hnext : ∀ a, Refuses (next a)) : Refuses (read >>= next) := by
  intro e failed
  rcases bind_eq_error_iff.1 failed with failed | ⟨a, -, failed⟩
  · exact h e failed
  · exact hnext a e failed

end Refuses

section Readers

variable {names : List String} (path : Path) (key : String) (ms : List (String × Json))

theorem refuses_expectObject (j : Json) : Refuses (expectObject path j) := by
  unfold expectObject
  split
  · exact .ok _
  · exact .error (.field _ _)

theorem refuses_listMember : Refuses (listMember path key ms) := by
  rw [listMember]
  split
  · exact .ok _
  · unfold expectList
    split
    · exact .ok _
    · exact .error (.field _ _)

theorem refuses_textMember : Refuses (textMember path key ms) := by
  rw [textMember]
  split
  · split
    · exact .error (.field _ _)
    · exact .ok _
  · exact .error (.field _ _)

theorem refuses_readItems {α : Type} {read : Path → Json → Except Error α}
    (item : ∀ path j, Refuses (read path j)) (index : Nat) (js : List Json) :
    Refuses (readItems path key read index js) := by
  induction js generalizing index with
  | nil => exact .ok _
  | cons j js ih => exact (item _ j).bind fun _ ↦ (ih _).bind fun _ ↦ .ok _

theorem refuses_readStatement (j : Json) : Refuses (readStatement path j) :=
  (refuses_expectObject path j).bind fun ms ↦ (refuses_textMember path _ ms).bind fun _ ↦
    (refuses_listMember path _ ms).bind fun _ ↦ .ok _

theorem refuses_readBlock (j : Json) : Refuses (readBlock path j) :=
  (refuses_expectObject path j).bind fun ms ↦ (refuses_textMember path _ ms).bind fun _ ↦
    (refuses_listMember path _ ms).bind fun items ↦
      (refuses_readItems path _ refuses_readStatement 0 items).bind fun _ ↦ .ok _

theorem refuses_readBlocks (scope : String) (taken : List String) (index : Nat) (js : List Json) :
    Refuses (readBlocks path scope taken index js) := by
  induction js generalizing taken index with
  | nil => exact .ok _
  | cons j js ih =>
    refine (refuses_readBlock _ j).bind fun b ↦ ?_
    split
    · exact .error (.block _ _)
    · exact (ih _ _).bind fun _ ↦ .ok _

theorem refuses_readBlockName (j : Json) : Refuses (readBlockName names path j) := by
  unfold readBlockName
  split
  · split
    · exact .ok _
    · exact .error (.field _ _)
  · exact .error (.field _ _)

theorem refuses_readSuccessors (j : Json) : Refuses (readSuccessors names path j) :=
  (refuses_expectObject path j).bind fun ms ↦ (refuses_listMember path _ ms).bind fun items ↦
    refuses_readItems path _ refuses_readBlockName 0 items

theorem refuses_blockMember : Refuses (blockMember names path key ms) := by
  rw [blockMember]
  split
  · exact .ok _
  · exact (refuses_readBlockName _ _).bind fun _ ↦ .ok _

theorem refuses_readFunctionBody (name : String) : Refuses (readFunctionBody path name ms) :=
  (refuses_listMember path _ ms).bind fun items ↦
    (refuses_readBlocks path _ [] 0 items).bind fun _ ↦
      (refuses_readItems path _ refuses_readSuccessors 0 items).bind fun _ ↦
        (refuses_blockMember path _ ms).bind fun _ ↦
          (refuses_blockMember path _ ms).bind fun _ ↦ .ok _

theorem refuses_readFunctions (bundle : String) (taken : List String) (index : Nat)
    (js : List Json) : Refuses (readFunctions bundle taken index js) := by
  induction js generalizing taken index with
  | nil => exact .ok _
  | cons j js ih =>
    refine (refuses_expectObject _ j).bind fun ms ↦ (refuses_textMember _ _ ms).bind fun name ↦ ?_
    split
    · exact .error (.function _ _)
    · exact (refuses_readFunctionBody _ ms name).bind fun _ ↦ (ih _ _).bind fun _ ↦ .ok _

end Readers

/-- **Reading fails with nothing but errors of the graph.** -/
theorem refuses_ofJson (j : Json) : Refuses (ofJson j) :=
  (refuses_expectObject [] j).bind fun ms ↦ (refuses_listMember [] _ ms).bind fun items ↦
    (refuses_readFunctions _ [] 0 items).bind fun _ ↦ .ok _

/-! ## Loading -/

/-- What becomes of a value: a bundle numbered from `next`, or an error. -/
structure Loads (j : Json) (next : Nat) : Prop where
  accepts : (∃ d, ofJson j = .ok d) ↔ Shaped j
  refuses : ∀ e, ofJson j = .error e → e.report.kind = .graph
  valid : ∀ d, ofJson j = .ok d → (d.build next).1.validate = .ok ()
  frozen : ∀ d, ofJson j = .ok d → (d.build next).1.Frozen
  represents : ∀ d, ofJson j = .ok d → RepresentsBundle j (d.build next).1

/-- **Loading accepts the shape and nothing else, and makes of it what it says.** -/
theorem loads (j : Json) (next : Nat) : Loads j next where
  accepts := by simp only [ofJson_eq_ok_iff, shaped_iff]
  refuses e failed := (refuses_ofJson j e failed).kind
  valid d read := (wellFormed_build (ofJson_eq_ok_iff.1 read).wellFormed next).validate_ok
  frozen d read := frozen_build (ofJson_eq_ok_iff.1 read).wellFormed next
  represents d read := (ofJson_eq_ok_iff.1 read).represents next

-- A successor may be declared later, and an entry that is no block is refused with its place.
example :
    let ofEntry (entry : String) : Json := .obj [("functions", .list [.obj [("name", .str "f"),
      ("blocks", .list [.obj [("name", .str "a"), ("successors", .list [.str "b", .str "b"])],
        .obj [("name", .str "b")]]), ("entry", .str entry)]])]
    ofJson (ofEntry "b") =
        .ok ⟨defaultBundleName, [⟨"f", some "b", none, [⟨"a", [], ["b", "b"]⟩, ⟨"b", [], []⟩]⟩]⟩ ∧
      ofJson (ofEntry "c") = .error (.badField [.item "functions" 0, .field "entry"]
        (.unknownBlock (Json.str "c").shown)) := by
  decide

end Flowcheck.Ir.Document
