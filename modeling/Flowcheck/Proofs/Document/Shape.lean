import Flowcheck.Proofs.Document.RoundTrip
import Mathlib

/-!
# What is read as a document

Reading goes over a JSON value in passes and stops at the first fault. Here it is said in one piece,
and without any order, which document a value is read as: `IsDocument` relates a value to a document
part by part, each list item by item, and reading succeeds with a document exactly if the value is
related to it (`ofJson_eq_ok_iff`).
-/

namespace Flowcheck.Ir.Document

/-! ## Members -/

/-- Under the key stands a text that is not empty. -/
def HasText (key : String) (j : Json) (text : String) : Prop :=
  j.get? key = some (.str text) ∧ text ≠ ""

/-- The items under a key of an object: those of a list, and none when the key is not there. -/
inductive HasItems (key : String) : Json → List Json → Prop where
  | given {ms : List (String × Json)} {items : List Json}
    (here : Json.member? key ms = some (.list items)) : HasItems key (.obj ms) items
  | absent {ms : List (String × Json)} (missing : Json.member? key ms = none) :
    HasItems key (.obj ms) []

/-- Under the key stands one of the names, or the key is not there. -/
def Names (names : List String) (key : String) (j : Json) (name? : Option String) : Prop :=
  j.get? key = name?.map .str ∧ ∀ name ∈ name?, name ∈ names

theorem HasText.unique {key : String} {j : Json} {text text' : String} (h : HasText key j text)
    (h' : HasText key j text') : text = text' :=
  Json.str.inj (Option.some.inj (h.1.symm.trans h'.1))

section Members

variable {path : Path} {key : String} {ms : List (String × Json)}

theorem expectObject_eq_ok_iff {j : Json} : expectObject path j = .ok ms ↔ j = .obj ms := by
  cases j <;> simp [expectObject]

theorem expectList_eq_ok_iff {j : Json} {items : List Json} :
    expectList path j = .ok items ↔ j = .list items := by
  cases j <;> simp [expectList]

theorem textMember_eq_ok_iff {text : String} :
    textMember path key ms = .ok text ↔ HasText key (.obj ms) text := by
  constructor
  · intro read
    rw [textMember] at read
    split at read
    · rename_i s here
      split at read
      · cases read
      · rename_i ne
        obtain rfl := Except.ok.inj read
        exact ⟨here, ne⟩
    · cases read
  · rintro ⟨here, ne⟩
    exact textMember_of_member? here ne

theorem listMember_eq_ok_iff {items : List Json} :
    listMember path key ms = .ok items ↔ HasItems key (.obj ms) items := by
  constructor
  · intro read
    rw [listMember] at read
    split at read
    · rename_i missing
      obtain rfl := Except.ok.inj read
      exact .absent missing
    · rename_i j here
      obtain rfl := expectList_eq_ok_iff.1 read
      exact .given here
  · intro h
    cases h with
    | given here => exact listMember_of_member? here
    | absent missing => rw [listMember, missing]

theorem HasItems.exists_obj {j : Json} {items : List Json} (h : HasItems key j items) :
    ∃ ms, j = .obj ms := by
  cases h with
  | given _ => exact ⟨_, rfl⟩
  | absent _ => exact ⟨_, rfl⟩

theorem HasItems.unique {j : Json} {items items' : List Json} (h : HasItems key j items)
    (h' : HasItems key j items') : items = items' := by
  cases h with
  | given here =>
    cases h' with
    | given here' => exact Json.list.inj (Option.some.inj (here.symm.trans here'))
    | absent missing => rw [missing] at here; cases here
  | absent missing =>
    cases h' with
    | given here => rw [missing] at here; cases here
    | absent _ => rfl

end Members

/-! ## Lists -/

theorem readItems_eq_ok_iff {α : Type} {path : Path} {list : String}
    {read : Path → Json → Except Error α} {R : Json → α → Prop}
    (item : ∀ path j a, read path j = .ok a ↔ R j a) {js : List Json} {as : List α}
    {index : Nat} : readItems path list read index js = .ok as ↔ List.Forall₂ R js as := by
  induction js generalizing as index with
  | nil => rw [readItems, List.forall₂_nil_left_iff, Except.ok.injEq, eq_comm]
  | cons j js ih =>
    rw [readItems, bind_eq_ok_iff, List.forall₂_cons_left_iff]
    constructor
    · rintro ⟨a, first, rest⟩
      obtain ⟨as, rest, same⟩ := bind_eq_ok_iff.1 rest
      exact ⟨a, as, (item _ j a).1 first, ih.1 rest, (Except.ok.inj same).symm⟩
    · rintro ⟨a, as, first, rest, rfl⟩
      exact ⟨a, (item _ j a).2 first, bind_eq_ok_iff.2 ⟨as, ih.2 rest, rfl⟩⟩

/-! ## Statements and blocks -/

/-- What a value says about a statement. Operands of any kind count as their texts. -/
structure IsStatement (j : Json) (s : StatementSpec) : Prop where
  opcode : HasText "op" j s.opcode
  operands : ∃ items, HasItems "operands" j items ∧ s.operands = items.map Json.display

theorem readStatement_eq_ok_iff (path : Path) (j : Json) (s : StatementSpec) :
    readStatement path j = .ok s ↔ IsStatement j s := by
  rw [readStatement, bind_eq_ok_iff]
  constructor
  · rintro ⟨ms, object, read⟩
    obtain rfl := expectObject_eq_ok_iff.1 object
    obtain ⟨op, opcode, read⟩ := bind_eq_ok_iff.1 read
    obtain ⟨items, operands, done⟩ := bind_eq_ok_iff.1 read
    obtain rfl := Except.ok.inj done
    exact ⟨textMember_eq_ok_iff.1 opcode, items, listMember_eq_ok_iff.1 operands, rfl⟩
  · rintro ⟨opcode, items, operands, same⟩
    obtain ⟨ms, rfl⟩ := operands.exists_obj
    refine ⟨ms, rfl, bind_eq_ok_iff.2 ⟨s.opcode, textMember_eq_ok_iff.2 opcode, ?_⟩⟩
    refine bind_eq_ok_iff.2 ⟨items, listMember_eq_ok_iff.2 operands, ?_⟩
    rw [← same]
    rfl

/-- What a value says about a block but for its successors. -/
structure HasOutline (j : Json) (o : String × List StatementSpec) : Prop where
  name : HasText "name" j o.1
  statements : ∃ items, HasItems "statements" j items ∧ List.Forall₂ IsStatement items o.2

theorem readBlock_eq_ok_iff {path : Path} {j : Json} {b : BlockSpec} :
    readBlock path j = .ok b ↔ HasOutline j b.outline ∧ b.successors = [] := by
  rw [readBlock, bind_eq_ok_iff]
  constructor
  · rintro ⟨ms, object, read⟩
    obtain rfl := expectObject_eq_ok_iff.1 object
    obtain ⟨name, named, read⟩ := bind_eq_ok_iff.1 read
    obtain ⟨items, given, read⟩ := bind_eq_ok_iff.1 read
    obtain ⟨statements, each, done⟩ := bind_eq_ok_iff.1 read
    obtain rfl := Except.ok.inj done
    refine ⟨⟨textMember_eq_ok_iff.1 named, items, listMember_eq_ok_iff.1 given, ?_⟩, rfl⟩
    exact (readItems_eq_ok_iff readStatement_eq_ok_iff).1 each
  · rintro ⟨⟨named, items, given, each⟩, none⟩
    obtain ⟨ms, rfl⟩ := given.exists_obj
    refine ⟨ms, rfl, bind_eq_ok_iff.2 ⟨b.name, textMember_eq_ok_iff.2 named, ?_⟩⟩
    refine bind_eq_ok_iff.2 ⟨items, listMember_eq_ok_iff.2 given, ?_⟩
    refine bind_eq_ok_iff.2 ⟨b.statements,
      (readItems_eq_ok_iff readStatement_eq_ok_iff).2 each, ?_⟩
    rw [← none]
    rfl

/-- The names that are taken are those of the blocks before. -/
theorem readBlocks_eq_ok_iff {path : Path} {scope : String} {taken : List String} {index : Nat}
    {js : List Json} {bs : List BlockSpec} (distinct : taken.Nodup) :
    readBlocks path scope taken index js = .ok bs ↔
      List.Forall₂ (fun j b ↦ HasOutline j b.outline ∧ b.successors = []) js bs ∧
        (taken ++ bs.map BlockSpec.name).Nodup := by
  induction js generalizing taken bs index with
  | nil =>
    rw [readBlocks, List.forall₂_nil_left_iff, Except.ok.injEq, eq_comm]
    refine (and_iff_left_of_imp ?_).symm
    rintro rfl
    rwa [List.map_nil, List.append_nil]
  | cons j js ih =>
    rw [readBlocks, bind_eq_ok_iff, List.forall₂_cons_left_iff]
    constructor
    · rintro ⟨b, first, read⟩
      split at read
      · cases read
      · rename_i new
        obtain ⟨bs, rest, done⟩ := bind_eq_ok_iff.1 read
        obtain rfl := Except.ok.inj done
        have longer : (taken ++ [b.name]).Nodup :=
          List.concat_eq_append ▸ List.Nodup.concat new distinct
        obtain ⟨rest, nodup⟩ := (ih longer).1 rest
        refine ⟨⟨b, bs, readBlock_eq_ok_iff.1 first, rest, rfl⟩, ?_⟩
        rwa [List.map_cons, List.append_cons]
    · rintro ⟨⟨b, bs, first, rest, rfl⟩, nodup⟩
      have new : b.name ∉ taken := fun old ↦
        List.disjoint_of_nodup_append nodup old List.mem_cons_self
      rw [List.map_cons, List.append_cons] at nodup
      refine ⟨b, readBlock_eq_ok_iff.2 first, ?_⟩
      refine (if_neg new).trans ?_
      exact bind_eq_ok_iff.2 ⟨bs, (ih nodup.of_append_left).2 ⟨rest, nodup⟩, rfl⟩

/-! ## Successors -/

/-- What a value says about the successors of a block, which are among the given names. -/
structure HasSuccessors (names : List String) (j : Json) (successors : List String) : Prop where
  items : HasItems "successors" j (successors.map .str)
  own : ∀ name ∈ successors, name ∈ names

section Successors

variable {names : List String}

theorem readBlockName_eq_ok_iff (path : Path) (j : Json) (name : String) :
    readBlockName names path j = .ok name ↔ j = .str name ∧ name ∈ names := by
  constructor
  · intro read
    unfold readBlockName at read
    split at read
    · split at read
      · obtain rfl := Except.ok.inj read
        exact ⟨rfl, ‹_›⟩
      · cases read
    · cases read
  · rintro ⟨rfl, own⟩
    exact readBlockName_str own path

/-- Items that are names are the texts of those names. -/
theorem forall₂_names_iff {js : List Json} {successors : List String} :
    List.Forall₂ (fun j name ↦ j = .str name ∧ name ∈ names) js successors ↔
      js = successors.map .str ∧ ∀ name ∈ successors, name ∈ names := by
  induction successors generalizing js with
  | nil => simp
  | cons name successors ih =>
    rw [List.forall₂_cons_right_iff, List.map_cons, List.forall_mem_cons]
    constructor
    · rintro ⟨j, js, ⟨rfl, own⟩, rest, rfl⟩
      obtain ⟨rfl, owns⟩ := ih.1 rest
      exact ⟨rfl, own, owns⟩
    · rintro ⟨rfl, own, owns⟩
      exact ⟨_, _, ⟨rfl, own⟩, ih.2 ⟨rfl, owns⟩, rfl⟩

theorem readSuccessors_eq_ok_iff (path : Path) (j : Json) (successors : List String) :
    readSuccessors names path j = .ok successors ↔ HasSuccessors names j successors := by
  rw [readSuccessors, bind_eq_ok_iff]
  constructor
  · rintro ⟨ms, object, read⟩
    obtain rfl := expectObject_eq_ok_iff.1 object
    obtain ⟨items, given, each⟩ := bind_eq_ok_iff.1 read
    obtain ⟨rfl, own⟩ := forall₂_names_iff.1 ((readItems_eq_ok_iff readBlockName_eq_ok_iff).1 each)
    exact ⟨listMember_eq_ok_iff.1 given, own⟩
  · rintro ⟨given, own⟩
    obtain ⟨ms, rfl⟩ := given.exists_obj
    refine ⟨ms, rfl, bind_eq_ok_iff.2 ⟨_, listMember_eq_ok_iff.2 given, ?_⟩⟩
    exact (readItems_eq_ok_iff readBlockName_eq_ok_iff).2 (forall₂_names_iff.2 ⟨rfl, own⟩)

theorem blockMember_eq_ok_iff {path : Path} {key : String} {ms : List (String × Json)}
    {name? : Option String} :
    blockMember names path key ms = .ok name? ↔ Names names key (.obj ms) name? := by
  constructor
  · intro read
    rw [blockMember] at read
    split at read
    · rename_i missing
      obtain rfl := Except.ok.inj read
      exact ⟨missing, by simp⟩
    · rename_i j here
      obtain ⟨name, found, rfl⟩ := map_eq_ok_iff.1 read
      obtain ⟨rfl, own⟩ := (readBlockName_eq_ok_iff _ _ _).1 found
      exact ⟨here, by simpa using own⟩
  · rintro ⟨here, own⟩
    exact blockMember_of_member? here own

end Successors

/-! ## Functions -/

/-- What a value says about a block of a function whose blocks have the given names. -/
structure IsBlock (names : List String) (j : Json) (b : BlockSpec) : Prop where
  outline : HasOutline j b.outline
  successors : HasSuccessors names j b.successors

/-- What a value says about a function but for its name. -/
structure HasBody (j : Json) (f : FunctionSpec) : Prop where
  blocks : ∃ items, HasItems "blocks" j items ∧ List.Forall₂ (IsBlock f.names) items f.blocks
  distinct : f.names.Nodup
  entry : Names f.names "entry" j f.entry?
  exit : Names f.names "exit" j f.exit?

/-- What a value says about a function. -/
structure IsFunction (j : Json) (f : FunctionSpec) : Prop where
  name : HasText "name" j f.name
  body : HasBody j f

theorem forall₂_and_iff {α β : Type} {R S : α → β → Prop} {as : List α} {bs : List β} :
    List.Forall₂ (fun a b ↦ R a b ∧ S a b) as bs ↔ List.Forall₂ R as bs ∧ List.Forall₂ S as bs := by
  simp only [List.forall₂_iff_zip, forall_and]
  exact and_and_left

/-- The blocks of a function are what the first pass and the second say together. -/
theorem forall₂_isBlock_iff {names : List String} {items : List Json} {bs : List BlockSpec} :
    List.Forall₂ (IsBlock names) items bs ↔
      List.Forall₂ (fun j b ↦ HasOutline j b.outline ∧ b.successors = []) items (bs.map bare) ∧
        List.Forall₂ (HasSuccessors names) items (bs.map BlockSpec.successors) := by
  rw [List.forall₂_map_right_iff, List.forall₂_map_right_iff, ← forall₂_and_iff]
  have split (j : Json) (b : BlockSpec) : IsBlock names j b ↔
      (HasOutline j (bare b).outline ∧ (bare b).successors = []) ∧
        HasSuccessors names j b.successors :=
    ⟨fun h ↦ ⟨⟨h.outline, rfl⟩, h.successors⟩, fun h ↦ ⟨h.1.1, h.2⟩⟩
  exact ⟨fun h ↦ h.imp fun j b ↦ (split j b).1, fun h ↦ h.imp fun j b ↦ (split j b).2⟩

theorem map_name_bare (bs : List BlockSpec) :
    (bs.map bare).map BlockSpec.name = bs.map BlockSpec.name := by
  rw [List.map_map]
  rfl

/-- Blocks that get their successors in a second pass are otherwise as before. -/
theorem map_zipWith_successors {bs : List BlockSpec} {successors : List (List String)}
    (none : ∀ b ∈ bs, b.successors = []) (length : bs.length = successors.length) :
    (bs.zipWith (fun b names ↦ { b with successors := names }) successors).map bare = bs ∧
      (bs.zipWith (fun b names ↦ { b with successors := names }) successors).map
        BlockSpec.successors = successors := by
  induction bs generalizing successors with
  | nil =>
    rw [List.length_nil, eq_comm, List.length_eq_zero_iff] at length
    rw [length]
    exact ⟨rfl, rfl⟩
  | cons b bs ih =>
    obtain ⟨hb, hbs⟩ := List.forall_mem_cons.1 none
    obtain ⟨names, successors, rfl⟩ := List.exists_cons_of_length_eq_add_one length.symm
    obtain ⟨outlines, rest⟩ := ih hbs (Nat.succ.inj length)
    rw [List.zipWith_cons_cons, List.map_cons, List.map_cons, outlines, rest]
    refine ⟨?_, rfl⟩
    rw [bare, ← hb]

theorem readFunctionBody_eq_ok_iff {path : Path} {name : String} {ms : List (String × Json)}
    {f : FunctionSpec} : readFunctionBody path name ms = .ok f ↔
      f.name = name ∧ HasBody (.obj ms) f := by
  rw [readFunctionBody, bind_eq_ok_iff]
  constructor
  · rintro ⟨items, given, read⟩
    obtain ⟨bs, first, read⟩ := bind_eq_ok_iff.1 read
    obtain ⟨successors, second, read⟩ := bind_eq_ok_iff.1 read
    obtain ⟨ entry?, entry, read⟩ := bind_eq_ok_iff.1 read
    obtain ⟨exit?, exit, done⟩ := bind_eq_ok_iff.1 read
    obtain ⟨first, distinct⟩ := (readBlocks_eq_ok_iff List.nodup_nil).1 first
    have second := (readItems_eq_ok_iff readSuccessors_eq_ok_iff).1 second
    have none (b : BlockSpec) (hb : b ∈ bs) : b.successors = [] := by
      obtain ⟨_, _, _, none⟩ := exists_of_mem_right first hb
      exact none
    obtain ⟨outlines, rest⟩ := map_zipWith_successors none
      (first.length_eq.symm.trans second.length_eq)
    obtain rfl := Except.ok.inj done
    refine ⟨rfl, ?_⟩
    set blocks := bs.zipWith (fun b names ↦ { b with successors := names }) successors
    -- The second pass takes no name from a block.
    have names : bs.map BlockSpec.name = blocks.map BlockSpec.name := by
      rw [← outlines, map_name_bare]
    rw [names] at second entry exit distinct
    have each := forall₂_isBlock_iff.2 ⟨outlines.symm ▸ first, rest.symm ▸ second⟩
    exact ⟨⟨items, listMember_eq_ok_iff.1 given, each⟩, distinct, blockMember_eq_ok_iff.1 entry,
      blockMember_eq_ok_iff.1 exit⟩
  · rintro ⟨rfl, ⟨items, given, each⟩, distinct, entry, exit⟩
    obtain ⟨first, second⟩ := forall₂_isBlock_iff.1 each
    have names : (f.blocks.map bare).map BlockSpec.name = f.names := map_name_bare f.blocks
    refine ⟨items, listMember_eq_ok_iff.2 given, ?_⟩
    refine bind_eq_ok_iff.2 ⟨f.blocks.map bare, (readBlocks_eq_ok_iff List.nodup_nil).2
      ⟨first, by rwa [List.nil_append, names]⟩, ?_⟩
    rw [names]
    refine bind_eq_ok_iff.2 ⟨_, (readItems_eq_ok_iff readSuccessors_eq_ok_iff).2 second, ?_⟩
    refine bind_eq_ok_iff.2 ⟨ f.entry?, blockMember_eq_ok_iff.2 entry, ?_⟩
    refine bind_eq_ok_iff.2 ⟨f.exit?, blockMember_eq_ok_iff.2 exit, ?_⟩
    rw [zipWith_bare]
    rfl

/-- The names that are taken are those of the functions before. -/
theorem readFunctions_eq_ok_iff {bundle : String} {taken : List String} {index : Nat}
    {js : List Json} {fs : List FunctionSpec} (distinct : taken.Nodup) :
    readFunctions bundle taken index js = .ok fs ↔
      List.Forall₂ IsFunction js fs ∧ (taken ++ fs.map FunctionSpec.name).Nodup := by
  induction js generalizing taken fs index with
  | nil =>
    rw [readFunctions, List.forall₂_nil_left_iff, Except.ok.injEq, eq_comm]
    refine (and_iff_left_of_imp ?_).symm
    rintro rfl
    rwa [List.map_nil, List.append_nil]
  | cons j js ih =>
    rw [readFunctions, bind_eq_ok_iff, List.forall₂_cons_left_iff]
    constructor
    · rintro ⟨ms, object, read⟩
      obtain rfl := expectObject_eq_ok_iff.1 object
      obtain ⟨name, named, read⟩ := bind_eq_ok_iff.1 read
      split at read
      · cases read
      · rename_i new
        obtain ⟨f, within, read⟩ := bind_eq_ok_iff.1 read
        obtain ⟨fs, rest, done⟩ := bind_eq_ok_iff.1 read
        obtain rfl := Except.ok.inj done
        obtain ⟨rfl, body⟩ := readFunctionBody_eq_ok_iff.1 within
        have longer : (taken ++ [f.name]).Nodup :=
          List.concat_eq_append ▸ List.Nodup.concat new distinct
        obtain ⟨rest, nodup⟩ := (ih longer).1 rest
        refine ⟨⟨f, fs, ⟨textMember_eq_ok_iff.1 named, body⟩, rest, rfl⟩, ?_⟩
        rwa [List.map_cons, List.append_cons]
    · rintro ⟨⟨f, fs, ⟨named, body⟩, rest, rfl⟩, nodup⟩
      obtain ⟨ms, rfl⟩ := body.blocks.choose_spec.1.exists_obj
      have new : f.name ∉ taken := fun old ↦
        List.disjoint_of_nodup_append nodup old List.mem_cons_self
      rw [List.map_cons, List.append_cons] at nodup
      refine ⟨ms, rfl, bind_eq_ok_iff.2 ⟨f.name, textMember_eq_ok_iff.2 named, ?_⟩⟩
      refine (if_neg new).trans ?_
      refine bind_eq_ok_iff.2 ⟨f, readFunctionBody_eq_ok_iff.2 ⟨rfl, body⟩, ?_⟩
      exact bind_eq_ok_iff.2 ⟨fs, (ih nodup.of_append_left).2 ⟨rest, nodup⟩, rfl⟩

/-! ## Documents -/

/-- What a value says about a document. A name of any kind counts as its text. -/
structure IsDocument (j : Json) (d : Document) : Prop where
  name : d.name = ((j.get? "name").map Json.display).getD defaultBundleName
  functions : ∃ items, HasItems "functions" j items ∧ List.Forall₂ IsFunction items d.functions
  distinct : (d.functions.map FunctionSpec.name).Nodup

/-- **A value is read as exactly the document that it describes.** -/
theorem ofJson_eq_ok_iff {j : Json} {d : Document} : ofJson j = .ok d ↔ IsDocument j d := by
  rw [ofJson, bind_eq_ok_iff]
  constructor
  · rintro ⟨ms, object, read⟩
    obtain rfl := expectObject_eq_ok_iff.1 object
    obtain ⟨items, given, read⟩ := bind_eq_ok_iff.1 read
    obtain ⟨functions, each, done⟩ := bind_eq_ok_iff.1 read
    obtain rfl := Except.ok.inj done
    obtain ⟨each, distinct⟩ := (readFunctions_eq_ok_iff List.nodup_nil).1 each
    exact ⟨rfl, ⟨items, listMember_eq_ok_iff.1 given, each⟩, distinct⟩
  · rintro ⟨name, ⟨items, given, each⟩, distinct⟩
    obtain ⟨ms, rfl⟩ := given.exists_obj
    refine ⟨ms, rfl, bind_eq_ok_iff.2 ⟨items, listMember_eq_ok_iff.2 given, ?_⟩⟩
    refine bind_eq_ok_iff.2 ⟨d.functions,
      (readFunctions_eq_ok_iff List.nodup_nil).2 ⟨each, distinct⟩, ?_⟩
    exact congrArg (fun name ↦ Except.ok (Document.mk name d.functions)) name.symm

end Flowcheck.Ir.Document
