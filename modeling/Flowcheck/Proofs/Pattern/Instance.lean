import Flowcheck.Pattern.Match
import Flowcheck.Proofs.Checks
import Mathlib.Data.List.Nodup

/-!
# Instances of patterns

What a pattern means is said without the matcher. An assignment gives values to capture names, and a
value is an *instance* of a node under it when replacing each capture by its value, and splicing the
items of each rest capture into its list, gives that value; a wildcard may be replaced by anything.
The relation allows a rest capture to stand anywhere in its list and a name to occur any number of
times.

The matcher handles neither: it takes a rest capture for all remaining items, and it collects
bindings without comparing them. That it still decides the relation is due to the check that every
pattern has passed. Rest captures are last, so nothing is left to choose, and names are distinct, so
nothing has to be compared.
-/

namespace Flowcheck

namespace PatternNode

/-! ## The relation -/

/-- Values of capture names. -/
abbrev Assignment := String → Option Sexp

mutual

/-- The value is an instance of the node under the assignment. -/
inductive Instance (σ : Assignment) : PatternNode → Sexp → Prop
  | literal (a : Atom) : Instance σ (.literal a.text) (.atom a)
  | capture {name : String} {v : Sexp} : σ name = some v → Instance σ (.capture name) v
  | wildcard (v : Sexp) : Instance σ .wildcard v
  | list {elements : List PatternNode} {items : List Sexp} :
    Instances σ elements items → Instance σ (.list elements) (.list items)

/-- The items are, from left to right, instances of the elements or spliced in by them. -/
inductive Instances (σ : Assignment) : List PatternNode → List Sexp → Prop
  | nil : Instances σ [] []
  | cons {e : PatternNode} {es : List PatternNode} {v : Sexp} {vs : List Sexp} :
    Instance σ e v → Instances σ es vs → Instances σ (e :: es) (v :: vs)
  | rest {name : String} {es : List PatternNode} {spliced vs : List Sexp} :
    σ name = some (.list spliced) → Instances σ es vs →
    Instances σ (.rest name :: es) (spliced ++ vs)

end

/-! ## What the check establishes -/

mutual

/-- The capture names of a tree from left to right. -/
def captureNames : PatternNode → List String
  | .capture name => [name]
  | .rest name => [name]
  | .list elements => captureNamesAll elements
  | .literal _ | .wildcard | .foreign _ => []

/-- The capture names of several trees from left to right. -/
def captureNamesAll : List PatternNode → List String
  | [] => []
  | e :: es => captureNames e ++ captureNamesAll es

end

/-- Whether a node is a rest capture. -/
def isRest : PatternNode → Bool
  | .rest _ => true
  | _ => false

mutual

/-- Every rest capture inside the tree is the last element of its list. -/
def RestsLast : PatternNode → Prop
  | .list elements => RestsLastAll elements
  | _ => True

/-- Every rest capture among the elements or inside them is the last element of its list. -/
def RestsLastAll : List PatternNode → Prop
  | [] => True
  | e :: es => (e.isRest = true → es = []) ∧ RestsLast e ∧ RestsLastAll es

end

theorem addName_eq_ok_iff {names names' : List String} {name : String} :
    addName names name = .ok names' ↔ name ∉ names ∧ names' = names ++ [name] := by
  rw [addName]
  by_cases h : name ∈ names
  · simp [h]
  · simp [h, eq_comm]

theorem collectAll_cons {names names' : List String} {e : PatternNode} {es : List PatternNode}
    (h : collectAll names (e :: es) = .ok names') :
    (e.isRest = true → es = []) ∧
      ∃ between, collect names e = .ok between ∧ collectAll between es = .ok names' := by
  match e, es with
  | .rest name, e' :: es' =>
    rw [collectAll] at h
    exact absurd h (by simp)
  | .rest name, [] =>
    rw [collectAll] at h
    · exact ⟨fun _ ↦ rfl, bind_eq_ok_iff.mp h⟩
    · simp
  | .literal _, es | .capture _, es | .wildcard, es | .list _, es | .foreign _, es =>
    rw [collectAll] at h
    · exact ⟨by simp [isRest], bind_eq_ok_iff.mp h⟩
    · simp

theorem nodup_of_addName {names names' : List String} {name : String}
    (h : addName names name = .ok names') (hnodup : names.Nodup) : names'.Nodup := by
  obtain ⟨hnew, rfl⟩ := addName_eq_ok_iff.mp h
  rw [← List.concat_eq_append]
  exact hnodup.concat hnew

mutual

/-- A tree that passes the check contributes its capture names, each of them new, and has its rest
captures in place. -/
theorem collect_eq_ok : ∀ (e : PatternNode) {names names' : List String},
    collect names e = .ok names' →
    RestsLast e ∧ names' = names ++ captureNames e ∧ (names.Nodup → names'.Nodup)
  | .literal text, names, names', h => by
    rw [collect, Except.ok.injEq] at h
    subst h
    exact ⟨trivial, (List.append_nil names).symm, id⟩
  | .wildcard, names, names', h => by
    rw [collect, Except.ok.injEq] at h
    subst h
    exact ⟨trivial, (List.append_nil names).symm, id⟩
  | .capture name, names, names', h => by
    rw [collect] at h
    exact ⟨trivial, (addName_eq_ok_iff.mp h).2, nodup_of_addName h⟩
  | .rest name, names, names', h => by
    rw [collect] at h
    exact ⟨trivial, (addName_eq_ok_iff.mp h).2, nodup_of_addName h⟩
  | .list elements, names, names', h => by
    rw [collect] at h
    exact collectAll_eq_ok elements h
  | .foreign shown, names, names', h => by
    rw [collect] at h
    exact absurd h (by simp)

theorem collectAll_eq_ok : ∀ (es : List PatternNode) {names names' : List String},
    collectAll names es = .ok names' →
    RestsLastAll es ∧ names' = names ++ captureNamesAll es ∧ (names.Nodup → names'.Nodup)
  | [], names, names', h => by
    rw [collectAll, Except.ok.injEq] at h
    subst h
    exact ⟨trivial, (List.append_nil names).symm, id⟩
  | e :: es, names, names', h => by
    obtain ⟨hlast, between, he, hes⟩ := collectAll_cons h
    obtain ⟨hrests, rfl, hnodup⟩ := collect_eq_ok e he
    obtain ⟨hrestsAll, rfl, hnodupAll⟩ := collectAll_eq_ok es hes
    refine ⟨⟨hlast, hrests, hrestsAll⟩, ?_, fun hnames ↦ hnodupAll (hnodup hnames)⟩
    rw [captureNamesAll, List.append_assoc]

end

end PatternNode

end Flowcheck
