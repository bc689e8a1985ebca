import Flowcheck.Ir.Document
import Flowcheck.Proofs.Checks
import Mathlib.Data.List.Nodup

/-!
# Reading a written document

A document is well formed if names and opcodes are not empty, no name is used twice where it has to
be found again, and every block that is called by name is there. The JSON form of such a document
reads as the document. Fields that are left out when they would be empty come back as their
defaults.
-/

namespace Flowcheck.Ir

/-! ## Well-formed documents -/

/-- A block of a function whose blocks have the given names. -/
structure BlockSpec.WellFormed (names : List String) (b : BlockSpec) : Prop where
  name_ne : b.name ≠ ""
  opcode_ne : ∀ s ∈ b.statements, s.opcode ≠ ""
  successors : ∀ name ∈ b.successors, name ∈ names

/-- The names of the blocks in declaration order. -/
def FunctionSpec.names (f : FunctionSpec) : List String := f.blocks.map BlockSpec.name

/-- A function in which every name leads to one block. -/
structure FunctionSpec.WellFormed (f : FunctionSpec) : Prop where
  name_ne : f.name ≠ ""
  names_nodup : f.names.Nodup
  block : ∀ b ∈ f.blocks, b.WellFormed f.names
  entry : ∀ name ∈ f.entry?, name ∈ f.names
  exit : ∀ name ∈ f.exit?, name ∈ f.names

/-- A document in which every name leads to one function or block. -/
structure Document.WellFormed (d : Document) : Prop where
  names_nodup : (d.functions.map FunctionSpec.name).Nodup
  function : ∀ f ∈ d.functions, f.WellFormed

namespace Document

/-! ## Members -/

section Members

variable {path : Path} {key other : String} {rest members : List (String × Json)}

theorem textMember_of_member? {text : String} (h : Json.member? key members = some (.str text))
    (ne : text ≠ "") : textMember path key members = .ok text := by
  rw [textMember, h]
  exact if_neg ne

theorem listMember_of_member? {items : List Json}
    (h : Json.member? key members = some (.list items)) :
    listMember path key members = .ok items := by
  rw [listMember, h]
  rfl

theorem member?_cons_of_ne (ne : other ≠ key) (j : Json) :
    Json.member? key ((other, j) :: rest) = Json.member? key rest :=
  if_neg ne

/-- A list under another name is passed over. -/
theorem member?_listField_of_ne (ne : other ≠ key) (items : List Json) :
    Json.member? key (listField other items ++ rest) = Json.member? key rest := by
  rw [listField]
  split
  · rfl
  · exact member?_cons_of_ne ne _

/-- A text under another name is passed over. -/
theorem member?_textField_of_ne (ne : other ≠ key) (text? : Option String) :
    Json.member? key (textField other text? ++ rest) = Json.member? key rest := by
  cases text? with
  | none => rfl
  | some text => exact member?_cons_of_ne ne _

theorem member?_textField (absent : Json.member? key rest = none) (text? : Option String) :
    Json.member? key (textField key text? ++ rest) = text?.map .str := by
  cases text? with
  | none => exact absent
  | some text => exact if_pos rfl

/-- A list that was left out because it is empty is read as the empty list. -/
theorem listMember_listField (absent : Json.member? key rest = none) (items : List Json) :
    listMember path key (listField key items ++ rest) = .ok items := by
  cases items with
  | nil =>
    have left : listField key [] ++ rest = rest := rfl
    rw [left, listMember, absent]
  | cons item items => exact listMember_of_member? (if_pos rfl)

/-- What is read of a list depends on the member alone. -/
theorem listMember_congr (h : Json.member? key members = Json.member? key rest) :
    listMember path key members = listMember path key rest := by
  rw [listMember, h, listMember]

end Members

/-! ## Lists -/

/-- If each item is read right then so is the list, wherever it stands. -/
theorem readItems_map {α β : Type} {path : Path} {list : String}
    {read : Path → Json → Except Error β} {write : α → Json} {value : α → β} {as : List α}
    (item : ∀ a ∈ as, ∀ path, read path (write a) = .ok (value a)) (index : Nat) :
    readItems path list read index (as.map write) = .ok (as.map value) := by
  induction as generalizing index with
  | nil => rfl
  | cons a as ih =>
    obtain ⟨ha, has⟩ := List.forall_mem_cons.1 item
    rw [List.map_cons, readItems, ha, ih has]
    rfl

/-! ## Blocks -/

theorem readStatement_toJson {s : StatementSpec} (ne : s.opcode ≠ "") (path : Path) :
    readStatement path s.toJson = .ok s := by
  have texts : (s.operands.map Json.str).map Json.display = s.operands := by
    rw [List.map_map]
    exact List.map_id _
  rw [readStatement]
  refine bind_eq_ok_iff.2 ⟨_, rfl, bind_eq_ok_iff.2 ⟨s.opcode, textMember_of_member? rfl ne, ?_⟩⟩
  refine bind_eq_ok_iff.2 ⟨s.operands.map .str, listMember_of_member? rfl, ?_⟩
  rw [texts]
  rfl

/-- The block without its successors, which are read in a second pass. -/
def bare (b : BlockSpec) : BlockSpec := { b with successors := [] }

theorem listMember_statements (path : Path) (b : BlockSpec) :
    listMember path "statements" (("name", .str b.name) ::
      listField "statements" (b.statements.map StatementSpec.toJson) ++
        listField "successors" (b.successors.map .str)) =
      .ok (b.statements.map StatementSpec.toJson) := by
  rw [List.cons_append, listMember_congr (member?_cons_of_ne (by decide) _)]
  refine listMember_listField ?_ _
  rw [← List.append_nil (listField _ _), member?_listField_of_ne (by decide)]
  rfl

theorem listMember_successors (path : Path) (b : BlockSpec) :
    listMember path "successors" (("name", .str b.name) ::
      listField "statements" (b.statements.map StatementSpec.toJson) ++
        listField "successors" (b.successors.map .str)) =
      .ok (b.successors.map .str) := by
  rw [List.cons_append, listMember_congr (member?_cons_of_ne (by decide) _),
    listMember_congr (member?_listField_of_ne (by decide) _), ← List.append_nil (listField _ _)]
  exact listMember_listField rfl _

theorem readBlock_toJson {names : List String} {b : BlockSpec} (h : b.WellFormed names)
    (path : Path) : readBlock path b.toJson = .ok (bare b) := by
  have statements : readItems path "statements" readStatement 0
      (b.statements.map StatementSpec.toJson) = .ok (b.statements.map id) :=
    readItems_map (fun s hs path ↦ readStatement_toJson (h.opcode_ne s hs) path) 0
  rw [List.map_id] at statements
  rw [readBlock]
  refine bind_eq_ok_iff.2 ⟨_, rfl, bind_eq_ok_iff.2 ⟨b.name, ?_, ?_⟩⟩
  · exact textMember_of_member? (if_pos rfl) h.name_ne
  · refine bind_eq_ok_iff.2 ⟨_, listMember_statements path b, ?_⟩
    exact bind_eq_ok_iff.2 ⟨b.statements, statements, rfl⟩

/-- The names that are taken grow by the name of each block that is read. -/
theorem readBlocks_toJson {path : Path} {scope : String} {names taken : List String}
    {bs : List BlockSpec} (block : ∀ b ∈ bs, b.WellFormed names)
    (nodup : (taken ++ bs.map BlockSpec.name).Nodup) (index : Nat) :
    readBlocks path scope taken index (bs.map BlockSpec.toJson) = .ok (bs.map bare) := by
  induction bs generalizing taken index with
  | nil => rfl
  | cons b bs ih =>
    obtain ⟨hb, hbs⟩ := List.forall_mem_cons.1 block
    have new : b.name ∉ taken := fun old ↦
      List.disjoint_of_nodup_append nodup old List.mem_cons_self
    rw [List.map_cons, List.append_cons] at nodup
    have rest := ih hbs nodup (index + 1)
    rw [List.map_cons, readBlocks]
    refine bind_eq_ok_iff.2 ⟨bare b, readBlock_toJson hb _, ?_⟩
    refine (if_neg new).trans ?_
    exact bind_eq_ok_iff.2 ⟨_, rest, rfl⟩

theorem readBlockName_str {names : List String} {name : String} (h : name ∈ names) (path : Path) :
    readBlockName names path (.str name) = .ok name :=
  if_pos h

theorem readSuccessors_toJson {names : List String} {b : BlockSpec} (h : b.WellFormed names)
    (path : Path) : readSuccessors names path b.toJson = .ok b.successors := by
  have successors : readItems path "successors" (readBlockName names) 0
      (b.successors.map Json.str) = .ok (b.successors.map id) :=
    readItems_map (fun name hn path ↦ readBlockName_str (h.successors name hn) path) 0
  rw [List.map_id] at successors
  rw [readSuccessors]
  refine bind_eq_ok_iff.2 ⟨_, rfl, ?_⟩
  exact bind_eq_ok_iff.2 ⟨_, listMember_successors path b, successors⟩

/-! ## Functions -/

/-- The members of the JSON form of a function. -/
def members (f : FunctionSpec) : List (String × Json) :=
  ("name", .str f.name) :: textField "entry" f.entry? ++ textField "exit" f.exit? ++
    [("blocks", .list (f.blocks.map BlockSpec.toJson))]

theorem member?_entry (f : FunctionSpec) :
    Json.member? "entry" (members f) = f.entry?.map .str := by
  rw [members, List.append_assoc, List.cons_append, member?_cons_of_ne (by decide)]
  refine member?_textField ?_ _
  rw [member?_textField_of_ne (by decide)]
  rfl

theorem member?_exit (f : FunctionSpec) : Json.member? "exit" (members f) = f.exit?.map .str := by
  rw [members, List.append_assoc, List.cons_append, member?_cons_of_ne (by decide),
    member?_textField_of_ne (by decide)]
  exact member?_textField rfl _

theorem member?_blocks (f : FunctionSpec) :
    Json.member? "blocks" (members f) = some (.list (f.blocks.map BlockSpec.toJson)) := by
  rw [members, List.append_assoc, List.cons_append, member?_cons_of_ne (by decide),
    member?_textField_of_ne (by decide), member?_textField_of_ne (by decide)]
  rfl

theorem blockMember_of_member? {names : List String} {path : Path} {key : String}
    {ms : List (String × Json)} {name? : Option String}
    (h : Json.member? key ms = name?.map .str) (own : ∀ name ∈ name?, name ∈ names) :
    blockMember names path key ms = .ok name? := by
  rw [blockMember, h]
  cases name? with
  | none => rfl
  | some name =>
    show some <$> readBlockName names _ (.str name) = _
    rw [readBlockName_str (own name rfl)]
    rfl

/-- The two passes over the blocks together give the blocks. -/
theorem zipWith_bare (bs : List BlockSpec) :
    (bs.map bare).zipWith (fun b names ↦ { b with successors := names })
      (bs.map BlockSpec.successors) = bs := by
  rw [List.zipWith_map, List.zipWith_self]
  exact List.map_id _

theorem readFunctionBody_members {f : FunctionSpec} (h : f.WellFormed) (path : Path) :
    readFunctionBody path f.name (members f) = .ok f := by
  have names : (f.blocks.map bare).map BlockSpec.name = f.names := by
    rw [List.map_map]
    rfl
  have successors : readItems path "blocks" (readSuccessors f.names) 0
      (f.blocks.map BlockSpec.toJson) = .ok (f.blocks.map BlockSpec.successors) :=
    readItems_map (fun b hb path ↦ readSuccessors_toJson (h.block b hb) path) 0
  rw [readFunctionBody]
  refine bind_eq_ok_iff.2 ⟨_, listMember_of_member? (member?_blocks f), ?_⟩
  refine bind_eq_ok_iff.2 ⟨_, readBlocks_toJson h.block h.names_nodup 0, ?_⟩
  rw [names]
  refine bind_eq_ok_iff.2 ⟨_, successors, ?_⟩
  refine bind_eq_ok_iff.2 ⟨_, blockMember_of_member? (member?_entry f) h.entry, ?_⟩
  refine bind_eq_ok_iff.2 ⟨_, blockMember_of_member? (member?_exit f) h.exit, ?_⟩
  rw [zipWith_bare]
  rfl

theorem readFunctions_toJson {bundle : String} {taken : List String} {fs : List FunctionSpec}
    (function : ∀ f ∈ fs, f.WellFormed) (nodup : (taken ++ fs.map FunctionSpec.name).Nodup)
    (index : Nat) :
    readFunctions bundle taken index (fs.map FunctionSpec.toJson) = .ok fs := by
  induction fs generalizing taken index with
  | nil => rfl
  | cons f fs ih =>
    obtain ⟨hf, hfs⟩ := List.forall_mem_cons.1 function
    have new : f.name ∉ taken := fun old ↦
      List.disjoint_of_nodup_append nodup old List.mem_cons_self
    rw [List.map_cons, List.append_cons] at nodup
    have rest := ih hfs nodup (index + 1)
    rw [List.map_cons, readFunctions]
    refine bind_eq_ok_iff.2 ⟨members f, rfl, ?_⟩
    refine bind_eq_ok_iff.2 ⟨f.name, textMember_of_member? (if_pos rfl) hf.name_ne, ?_⟩
    refine (if_neg new).trans ?_
    refine bind_eq_ok_iff.2 ⟨f, readFunctionBody_members hf _, ?_⟩
    exact bind_eq_ok_iff.2 ⟨fs, rest, rfl⟩

/-! ## Documents -/

/-- **A well-formed document is read back from its JSON form.** -/
theorem ofJson_toJson {d : Document} (h : d.WellFormed) : ofJson d.toJson = .ok d := by
  have functions : readFunctions d.name [] 0 (d.functions.map FunctionSpec.toJson) =
      .ok d.functions := readFunctions_toJson h.function h.names_nodup 0
  rw [ofJson]
  refine bind_eq_ok_iff.2 ⟨_, rfl, ?_⟩
  refine bind_eq_ok_iff.2 ⟨_, listMember_of_member? rfl, ?_⟩
  exact bind_eq_ok_iff.2 ⟨_, functions, rfl⟩

end Document

end Flowcheck.Ir
