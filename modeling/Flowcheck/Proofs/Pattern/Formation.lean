import Flowcheck.Proofs.Pattern.Matching
import Flowcheck.Proofs.Sexp.Adequacy

/-!
# Which trees and which texts are patterns

The check of a tree is one pass from left to right that carries the names in use. What it decides
does not mention an order: rest captures are inside lists and last in them, and the capture names of
the whole tree are distinct. Names of different subtrees meet only in the list that is carried
along, so what the pass does with a tree is told by the names before it and those of the tree.

A text is a pattern through the one value that it holds. What an atom of that value stands for is
said by the marks in front of its text, for all texts and without an error. The two marks that have
no name behind them denote a node like any other atom does, and they are refused for the empty name
alone.
-/

namespace Flowcheck

/-! ## Trees -/

namespace PatternNode

mutual

/-- The tree consists of nodes only. -/
def Genuine : PatternNode → Prop
  | .list elements => GenuineAll elements
  | .foreign _ => False
  | .literal _ | .capture _ | .wildcard | .rest _ => True

/-- The trees consist of nodes only. -/
def GenuineAll : List PatternNode → Prop
  | [] => True
  | e :: es => Genuine e ∧ GenuineAll es

end

/-- What makes a tree a pattern. -/
structure IsPattern (root : PatternNode) : Prop where
  genuine : root.Genuine
  inside : root.isRest = false
  restsLast : root.RestsLast
  distinct : root.captureNames.Nodup

theorem isRest_iff {n : PatternNode} : n.isRest = true ↔ ∃ name, n = .rest name := by
  cases n <;> simp [isRest]

/-! ### What passes -/

theorem addName_of_nodup {names : List String} {name : String} (h : (names ++ [name]).Nodup) :
    addName names name = .ok (names ++ [name]) := by
  refine addName_eq_ok_iff.2 ⟨fun used ↦ ?_, rfl⟩
  exact List.disjoint_of_nodup_append h used (List.mem_singleton_self name)

/-- Elements are looked at one after the other, unless a rest capture comes too early. -/
theorem collectAll_cons_of_last {e : PatternNode} {es : List PatternNode}
    (last : e.isRest = true → es = []) (names : List String) :
    collectAll names (e :: es) = collect names e >>= fun between ↦ collectAll between es := by
  rw [collectAll]
  rintro name e' es' rfl rfl
  exact List.cons_ne_nil _ _ (last rfl)

mutual

theorem genuine_of_collect : ∀ (e : PatternNode) {names names' : List String},
    collect names e = .ok names' → Genuine e
  | .literal _, _, _, _ | .capture _, _, _, _ | .wildcard, _, _, _ | .rest _, _, _, _ => trivial
  | .foreign shown, names, names', h => by
    rw [collect] at h
    cases h
  | .list elements, names, names', h => by
    rw [collect] at h
    exact genuineAll_of_collectAll elements h

theorem genuineAll_of_collectAll : ∀ (es : List PatternNode) {names names' : List String},
    collectAll names es = .ok names' → GenuineAll es
  | [], _, _, _ => trivial
  | e :: es, names, names', h => by
    obtain ⟨-, between, he, hes⟩ := collectAll_cons h
    exact ⟨genuine_of_collect e he, genuineAll_of_collectAll es hes⟩

end

mutual

/-- A tree passes if its names are new and distinct. -/
theorem collect_of_nodup : ∀ (e : PatternNode) {names : List String}, Genuine e → RestsLast e →
    (names ++ captureNames e).Nodup → collect names e = .ok (names ++ captureNames e)
  | .literal text, names, _, _, _ | .wildcard, names, _, _, _ => by
    rw [collect, captureNames, List.append_nil]
  | .capture name, names, _, _, nodup | .rest name, names, _, _, nodup => by
    rw [collect]
    exact addName_of_nodup nodup
  | .list elements, names, genuine, restsLast, nodup => by
    rw [collect]
    exact collectAll_of_nodup elements genuine restsLast nodup

theorem collectAll_of_nodup : ∀ (es : List PatternNode) {names : List String}, GenuineAll es →
    RestsLastAll es → (names ++ captureNamesAll es).Nodup →
    collectAll names es = .ok (names ++ captureNamesAll es)
  | [], names, _, _, _ => by rw [collectAll, captureNamesAll, List.append_nil]
  | e :: es, names, ⟨genuine, genuineAll⟩, ⟨last, restsLast, restsLastAll⟩, nodup => by
    rw [captureNamesAll, ← List.append_assoc] at nodup ⊢
    rw [collectAll_cons_of_last last,
      collect_of_nodup e genuine restsLast (List.Nodup.of_append_left nodup)]
    exact collectAll_of_nodup es genuineAll restsLastAll nodup

end

/-- **The check decides which trees are patterns**, and it answers with their names. -/
theorem captures?_eq_ok_iff {root : PatternNode} {names : List String} :
    root.captures? = .ok names ↔ root.IsPattern ∧ names = root.captureNames := by
  constructor
  · intro passed
    have inside : root.isRest = false := by
      cases root with
      | rest name => cases passed
      | _ => rfl
    have collected := Pattern.collect_root ⟨root, names, passed⟩
    obtain ⟨restsLast, same, nodup⟩ := collect_eq_ok root collected
    rw [List.nil_append] at same
    subst same
    exact ⟨⟨genuine_of_collect root collected, inside, restsLast, nodup List.nodup_nil⟩, rfl⟩
  · rintro ⟨⟨genuine, inside, restsLast, distinct⟩, rfl⟩
    rw [captures?.eq_def]
    split
    · cases inside
    · exact collect_of_nodup root genuine restsLast distinct

/-! ### What is refused -/

/-- The defect that an error tells of, in trees with the names `found` that come after the names
`before`. -/
def Defect (before found : List String) (genuine restsLast : Prop) : PatternError → Prop
  | .misplacedRest name => name ∈ found ∧ ¬ restsLast
  | .repeatedCapture name => 2 ≤ (before ++ found).count name
  | .notANode _ => ¬ genuine
  | _ => False

/-- A defect is still there when the trees are part of more trees. -/
theorem Defect.mono {before before' found found' : List String}
    {genuine genuine' restsLast restsLast' : Prop} {e : PatternError}
    (h : Defect before found genuine restsLast e)
    (names : (before ++ found).Sublist (before' ++ found')) (more : found ⊆ found')
    (genuine_of : genuine' → genuine) (last_of : restsLast' → restsLast) :
    Defect before' found' genuine' restsLast' e := by
  cases e with
  | misplacedRest name => exact ⟨more h.1, mt last_of h.2⟩
  | repeatedCapture name => exact Nat.le_trans h (names.count_le name)
  | notANode shown => exact mt genuine_of h
  | _ => exact h

theorem defect_of_addName {names : List String} {name : String} {e : PatternError}
    {genuine restsLast : Prop} (h : addName names name = .error e) :
    Defect names [name] genuine restsLast e := by
  rw [addName] at h
  split at h
  · next used =>
    cases h
    have before := List.one_le_count_iff.2 used
    rw [Defect, List.count_append, List.count_singleton_self]
    omega
  · cases h

mutual

theorem defect_of_collect : ∀ (n : PatternNode) {names : List String} {e : PatternError},
    collect names n = .error e → Defect names (captureNames n) (Genuine n) (RestsLast n) e
  | .literal _, names, e, h | .wildcard, names, e, h => by
    rw [collect] at h
    cases h
  | .capture name, names, e, h | .rest name, names, e, h => by
    rw [collect] at h
    exact defect_of_addName h
  | .foreign shown, names, e, h => by
    rw [collect] at h
    cases h
    exact id
  | .list elements, names, e, h => by
    rw [collect] at h
    exact defect_of_collectAll elements h

theorem defect_of_collectAll : ∀ (ns : List PatternNode) {names : List String} {e : PatternError},
    collectAll names ns = .error e →
    Defect names (captureNamesAll ns) (GenuineAll ns) (RestsLastAll ns) e
  | [], names, e, h => by
    rw [collectAll] at h
    cases h
  | n :: ns, names, e, h => by
    by_cases last : n.isRest = true → ns = []
    · rw [collectAll_cons_of_last last, bind_eq_error_iff] at h
      rcases h with here | ⟨between, passed, there⟩
      · exact (defect_of_collect n here).mono
          ((List.Sublist.refl names).append (List.sublist_append_left _ _))
          (List.subset_append_left _ _) And.left fun h ↦ h.2.1
      · obtain rfl := (collect_eq_ok n passed).2.1
        refine (defect_of_collectAll ns there).mono ?_ (List.subset_append_right _ _) And.right
          fun h ↦ h.2.2
        rw [captureNamesAll, List.append_assoc]
    · obtain ⟨isRest, more⟩ := Classical.not_imp.1 last
      obtain ⟨name, rfl⟩ := isRest_iff.1 isRest
      obtain ⟨n', ns, rfl⟩ := List.exists_cons_of_ne_nil more
      rw [collectAll] at h
      cases h
      exact ⟨List.mem_cons_self, fun restsLast ↦ last restsLast.1⟩

end

/-- The defect that an error tells of, in a whole tree. -/
def Defective (root : PatternNode) : PatternError → Prop
  | .topLevelRest name => root = .rest name
  | e => Defect [] root.captureNames root.Genuine root.RestsLast e

theorem defective_of_captures? {root : PatternNode} {e : PatternError}
    (refused : root.captures? = .error e) : root.Defective e := by
  rw [captures?.eq_def] at refused
  split at refused
  · cases refused
    exact rfl
  · have defect := defect_of_collect root refused
    cases e with
    | topLevelRest name => exact defect.elim
    | _ => exact defect

/-! ## Notation -/

/-- What the text of an atom stands for. The marks are tried from the longest to the shortest. -/
inductive Marks : String → PatternNode → Prop
  | wildcard : Marks "_" .wildcard
  | rest (name : String) : Marks ("?..." ++ name) (.rest name)
  | capture {name : String} (unmarked : ∀ name', name ≠ "..." ++ name') :
    Marks ("?" ++ name) (.capture name)
  | literal {text : String} (known : text ≠ "_") (unmarked : ∀ name, text ≠ "?" ++ name) :
    Marks text (.literal text)

mutual

/-- The node that a value stands for. -/
inductive Denotes : Sexp → PatternNode → Prop
  | atom {a : Atom} {n : PatternNode} (marks : Marks a.text n) : Denotes (.atom a) n
  | list {items : List Sexp} {elements : List PatternNode} (each : DenotesAll items elements) :
    Denotes (.list items) (.list elements)

/-- The nodes that the items of a list stand for. -/
inductive DenotesAll : List Sexp → List PatternNode → Prop
  | nil : DenotesAll [] []
  | cons {v : Sexp} {vs : List Sexp} {n : PatternNode} {ns : List PatternNode}
    (first : Denotes v n) (others : DenotesAll vs ns) : DenotesAll (v :: vs) (n :: ns)

end

/-- Every text of an atom stands for some node. -/
theorem exists_marks (text : String) : ∃ n, Marks text n := by
  by_cases known : text = "_"
  · exact ⟨.wildcard, known ▸ .wildcard⟩
  by_cases marked : ∃ name, text = "?" ++ name
  · obtain ⟨name, rfl⟩ := marked
    by_cases longer : ∃ name', name = "..." ++ name'
    · obtain ⟨name', rfl⟩ := longer
      rw [← String.append_assoc]
      exact ⟨_, .rest name'⟩
    · exact ⟨_, .capture (not_exists.1 longer)⟩
  · exact ⟨_, .literal known (not_exists.1 marked)⟩

mutual

/-- Every value stands for some tree. -/
theorem exists_denotes : ∀ v : Sexp, ∃ n, Denotes v n
  | .atom a => by
    obtain ⟨n, marks⟩ := exists_marks a.text
    exact ⟨n, .atom marks⟩
  | .list items => by
    obtain ⟨ns, each⟩ := exists_denotesAll items
    exact ⟨.list ns, .list each⟩

theorem exists_denotesAll : ∀ vs : List Sexp, ∃ ns, DenotesAll vs ns
  | [] => ⟨[], .nil⟩
  | v :: vs => by
    obtain ⟨n, first⟩ := exists_denotes v
    obtain ⟨ns, others⟩ := exists_denotesAll vs
    exact ⟨n :: ns, .cons first others⟩

end

/-! ### Reading the notation -/

theorem ofAtomText_rest (name : String) : ofAtomText ("?..." ++ name) = ofRest name := by
  simp [ofAtomText]

theorem ofAtomText_capture {name : String} (unmarked : ∀ name', name ≠ "..." ++ name') :
    ofAtomText ("?" ++ name) = ofCapture name := by
  rw [ofAtomText]
  split
  · next h => simp at h
  · next name' h =>
    refine absurd ?_ (unmarked (String.ofList name'))
    rw [← String.toList_inj]
    simpa using h
  · next name' _ h =>
    obtain rfl : name = String.ofList name' := by
      rw [← String.toList_inj]
      simpa using h
    rfl
  · next _ _ marked => exact (marked name.toList (by simp)).elim

theorem ofAtomText_literal {text : String} (known : text ≠ "_")
    (unmarked : ∀ name, text ≠ "?" ++ name) : ofAtomText text = ofLiteral (.str text) := by
  rw [ofAtomText]
  split
  · next h => exact absurd (String.toList_inj.1 h) known
  · next name h =>
    refine absurd ?_ (unmarked ("..." ++ String.ofList name))
    rw [← String.toList_inj, h]
    simp
  · next name _ h =>
    refine absurd ?_ (unmarked (String.ofList name))
    rw [← String.toList_inj, h]
    simp
  · rfl

theorem ofLiteral_text (a : Atom) : ofLiteral (.str a.text) = .ok (.literal a.text) := by
  simp [ofLiteral, Sexp.atomOfJson, Sexp.atomOfText]

/-- Every mark in the tokens has a name behind it. -/
def Named (ts : List Sexp.Token) : Prop := ∀ a, .atom a ∈ ts → a.text ≠ "?" ∧ a.text ≠ "?..."

theorem named_atom {a : Atom} : Named [.atom a] ↔ a.text ≠ "?" ∧ a.text ≠ "?..." := by
  simp [Named]

theorem named_append {ts us : List Sexp.Token} : Named (ts ++ us) ↔ Named ts ∧ Named us := by
  simp only [Named, List.mem_append, or_imp, forall_and]
  exact and_and_and_comm

theorem named_list {items : List Sexp} :
    Named (Sexp.valueTokens (.list items)) ↔ Named (Sexp.itemTokens items) := by
  simp [Named, Sexp.valueTokens]

theorem ofAtomText_of_marks {a : Atom} {n : PatternNode} (marks : Marks a.text n)
    (named : a.text ≠ "?" ∧ a.text ≠ "?...") : ofAtomText a.text = .ok n := by
  generalize text_eq : a.text = text at marks named
  cases marks with
  | wildcard => rfl
  | rest name =>
    have nonempty : name ≠ "" := by
      rintro rfl
      exact named.2 rfl
    rw [ofAtomText_rest, ofRest, if_neg nonempty]
  | @capture name unmarked =>
    have nonempty : name ≠ "" := by
      rintro rfl
      exact named.1 rfl
    rw [ofAtomText_capture unmarked, ofCapture, if_neg nonempty]
  | literal known unmarked =>
    rw [ofAtomText_literal known unmarked, ← text_eq, ofLiteral_text]

theorem named_of_ofAtomText {text : String} {n : PatternNode} (h : ofAtomText text = .ok n) :
    text ≠ "?" ∧ text ≠ "?..." := by
  constructor
  · rintro rfl
    cases h
  · rintro rfl
    cases h

mutual

theorem ofSexp_of_denotes : ∀ {v : Sexp} {n : PatternNode}, Denotes v n →
    Named (Sexp.valueTokens v) → ofSexp v = .ok n
  | _, _, .atom marks, named => by
    rw [ofSexp]
    exact ofAtomText_of_marks marks (named_atom.1 named)
  | _, _, .list each, named => by
    rw [ofSexp, ofItems_of_denotesAll each (named_list.1 named)]
    rfl

theorem ofItems_of_denotesAll : ∀ {vs : List Sexp} {ns : List PatternNode}, DenotesAll vs ns →
    Named (Sexp.itemTokens vs) → ofItems vs = .ok ns
  | _, _, .nil, _ => rfl
  | _, _, .cons first others, named => by
    obtain ⟨named, namedAll⟩ := named_append.1 named
    rw [ofItems, ofSexp_of_denotes first named, ofItems_of_denotesAll others namedAll]
    rfl

end

mutual

theorem named_of_ofSexp : ∀ {v : Sexp} {n : PatternNode}, ofSexp v = .ok n →
    Named (Sexp.valueTokens v)
  | .atom a, n, h => by
    rw [ofSexp] at h
    exact named_atom.2 (named_of_ofAtomText h)
  | .list items, n, h => by
    rw [ofSexp] at h
    obtain ⟨ns, answered, -⟩ := bind_eq_ok_iff.1 h
    exact named_list.2 (named_of_ofItems answered)

theorem named_of_ofItems : ∀ {vs : List Sexp} {ns : List PatternNode}, ofItems vs = .ok ns →
    Named (Sexp.itemTokens vs)
  | [], _, _ => by simp [Named, Sexp.itemTokens]
  | v :: vs, ns, h => by
    rw [ofItems] at h
    obtain ⟨n, first, h⟩ := bind_eq_ok_iff.1 h
    obtain ⟨ns', others, -⟩ := bind_eq_ok_iff.1 h
    exact named_append.2 ⟨named_of_ofSexp first, named_of_ofItems others⟩

end

/-- **A value is read as what it stands for**, unless there is a mark with no name behind it. -/
theorem ofSexp_eq_ok_iff {v : Sexp} {n : PatternNode} :
    ofSexp v = .ok n ↔ Named (Sexp.valueTokens v) ∧ Denotes v n := by
  constructor
  · intro h
    have named := named_of_ofSexp h
    obtain ⟨m, denotes⟩ := exists_denotes v
    obtain rfl : m = n := Except.ok.inj ((ofSexp_of_denotes denotes named).symm.trans h)
    exact ⟨named, denotes⟩
  · rintro ⟨named, denotes⟩
    exact ofSexp_of_denotes denotes named

end PatternNode

/-! ## Patterns -/

namespace Pattern

open PatternNode

theorem ofNode_eq_ok_iff {root : PatternNode} {p : Pattern} :
    ofNode root = .ok p ↔
      root.IsPattern ∧ p.root = root ∧ p.captures = root.captureNames := by
  obtain ⟨root', names, checked⟩ := p
  obtain ⟨isPattern, rfl⟩ := captures?_eq_ok_iff.1 checked
  rw [ofNode]
  split
  · next names' passed =>
    obtain ⟨isPattern', rfl⟩ := captures?_eq_ok_iff.1 passed
    constructor
    · intro same
      cases same
      exact ⟨isPattern, rfl, rfl⟩
    · rintro ⟨-, rfl, -⟩
      rfl
  · next e refused =>
    constructor
    · intro h
      cases h
    · rintro ⟨-, rfl, -⟩
      cases checked.symm.trans refused

theorem compile_eq_ok_iff {text : String} {p : Pattern} :
    compile text = .ok p ↔ ∃ v, Sexp.readAll text none = .ok [v] ∧
      ∃ root, ofSexp v = .ok root ∧ ofNode root = .ok p := by
  have one (v : Sexp) : Sexp.readAll text none = .ok [v] ↔ Sexp.read text none = .ok (some v) :=
    by rw [Sexp.read_eq_ok_iff, Option.toList_some]
  simp only [one]
  rw [compile]
  cases Sexp.read text none with
  | error cause => simp
  | ok v? =>
    cases v? with
    | none => simp
    | some v => simp [bind_eq_ok_iff]

/-- What becomes of a tree of nodes. -/
structure Checked (root : PatternNode) : Prop where
  accepted : (∃ p, ofNode root = .ok p) ↔ root.IsPattern
  made : ∀ p, ofNode root = .ok p → p.root = root ∧ p.captures = root.captureNames
  refused : (∃ e, ofNode root = .error e) ↔ ¬ root.IsPattern
  /-- A refusal tells of a defect that the tree has. -/
  blamed : ∀ e, ofNode root = .error e → root.Defective e

/-- A text in notation holds one value, and its marks have names. -/
structure Notates (text : String) (v : Sexp) : Prop where
  one : Sexp.readAll text none = .ok [v]
  named : Named (Sexp.valueTokens v)

/-- What becomes of a text. -/
structure Compiled (text : String) : Prop where
  accepted : (∃ p, compile text = .ok p) ↔
    ∃ v root, Notates text v ∧ Denotes v root ∧ root.IsPattern
  made : ∀ p, compile text = .ok p → ∃ v, Notates text v ∧ Denotes v p.root ∧
    p.captures = p.root.captureNames
  refused : (∃ e, compile text = .error e) ↔
    ¬ ∃ v root, Notates text v ∧ Denotes v root ∧ root.IsPattern
  /-- The text stands for one tree at most. -/
  unique : ∀ v root w root', Notates text v → Denotes v root → Notates text w →
    Denotes w root' → v = w ∧ root = root'

theorem checked_of_node (root : PatternNode) : Checked root := by
  have accepted : (∃ p, ofNode root = .ok p) ↔ root.IsPattern := by
    constructor
    · rintro ⟨p, h⟩
      exact (ofNode_eq_ok_iff.1 h).1
    · intro isPattern
      exact ⟨⟨root, root.captureNames, captures?_eq_ok_iff.2 ⟨isPattern, rfl⟩⟩,
        ofNode_eq_ok_iff.2 ⟨isPattern, rfl, rfl⟩⟩
  refine ⟨accepted, fun p h ↦ (ofNode_eq_ok_iff.1 h).2, ?_, fun e h ↦ ?_⟩
  · rw [exists_error_iff, accepted]
  · rw [ofNode] at h
    split at h
    · cases h
    · next e' refused =>
      cases h
      exact defective_of_captures? refused

theorem exists_compile_iff {text : String} :
    (∃ p, compile text = .ok p) ↔
      ∃ v root, Notates text v ∧ Denotes v root ∧ root.IsPattern := by
  constructor
  · rintro ⟨p, h⟩
    obtain ⟨v, one, root, read, formed⟩ := compile_eq_ok_iff.1 h
    obtain ⟨named, denotes⟩ := ofSexp_eq_ok_iff.1 read
    exact ⟨v, root, ⟨one, named⟩, denotes, (ofNode_eq_ok_iff.1 formed).1⟩
  · rintro ⟨v, root, ⟨one, named⟩, denotes, isPattern⟩
    obtain ⟨p, formed⟩ := (checked_of_node root).accepted.2 isPattern
    exact ⟨p, compile_eq_ok_iff.2 ⟨v, one, root, ofSexp_eq_ok_iff.2 ⟨named, denotes⟩, formed⟩⟩

/-- **What a pattern is.** A tree of nodes is accepted exactly if no rest capture is at the top or
before the end of its list and no name is used twice, and it has its names from left to right. A
text is accepted exactly if it holds one value, every mark in it has a name, and the tree that the
value stands for is accepted. -/
theorem formation : (∀ root, Checked root) ∧ ∀ text, Compiled text := by
  refine ⟨checked_of_node, fun text ↦ ⟨exists_compile_iff, fun p h ↦ ?_, ?_, ?_⟩⟩
  · obtain ⟨v, one, root, read, formed⟩ := compile_eq_ok_iff.1 h
    obtain ⟨named, denotes⟩ := ofSexp_eq_ok_iff.1 read
    obtain ⟨-, rfl, captures⟩ := ofNode_eq_ok_iff.1 formed
    exact ⟨v, ⟨one, named⟩, denotes, captures⟩
  · rw [exists_error_iff, exists_compile_iff]
  · rintro v root w root' ⟨one, named⟩ denotes ⟨one', -⟩ denotes'
    obtain rfl : v = w := List.singleton_inj.1 (Except.ok.inj (one.symm.trans one'))
    have read := ofSexp_of_denotes denotes named
    have read' := ofSexp_of_denotes denotes' named
    exact ⟨rfl, Except.ok.inj (read.symm.trans read')⟩

example : (compile "(edge (?src) ?...dest)").toOption.map (·.captures) = some ["src", "dest"] := by
  cbv

end Pattern

end Flowcheck
