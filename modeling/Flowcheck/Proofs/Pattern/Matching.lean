import Flowcheck.Assoc
import Flowcheck.Proofs.Pattern.Instance

/-!
# Matching decides the instance relation

Soundness needs no assumption on the pattern: whatever bindings the matcher collects, an assignment
that agrees with all of them makes the value an instance. Completeness needs rest captures to be
last, because the matcher gives them all remaining items. That the bindings of one match agree with
each other needs the names to be distinct, and so does reading the assignment off them.
-/

namespace Flowcheck

namespace PatternNode

/-! ## Lists of elements -/

theorem bindAll?_cons {e : PatternNode} {es : List PatternNode} {items : List Sexp} {bs : Bindings}
    (h : bindAll? (e :: es) items = some bs) :
    (∃ name, e = .rest name ∧ es = [] ∧ bs = [(name, .list items)]) ∨
      ∃ v vs here there, items = v :: vs ∧ bind? e v = some here ∧ bindAll? es vs = some there ∧
        bs = here ++ there := by
  by_cases hlast : ∃ name, e = .rest name ∧ es = []
  · obtain ⟨name, rfl, rfl⟩ := hlast
    rw [bindAll?, Option.some_inj] at h
    exact .inl ⟨name, rfl, rfl, h.symm⟩
  · have hrest : ∀ name, e = .rest name → es = [] → False := fun name he hes ↦
      hlast ⟨name, he, hes⟩
    cases items with
    | nil =>
      rw [bindAll?] at h
      · exact absurd h (by simp)
      · exact hrest
    | cons v vs =>
      rw [bindAll?] at h
      · obtain ⟨here, hhere, h⟩ := Option.bind_eq_some_iff.mp h
        obtain ⟨there, hthere, h⟩ := Option.bind_eq_some_iff.mp h
        exact .inr ⟨v, vs, here, there, rfl, hhere, hthere, (Option.some_inj.mp h).symm⟩
      · exact hrest

/-! ## Names, soundness, completeness -/

mutual

/-- The bindings come in the order of the captures in the tree. -/
theorem names_bind? : ∀ (e : PatternNode) {v : Sexp} {bs : Bindings}, bind? e v = some bs →
    bs.map Prod.fst = captureNames e
  | .literal text, .atom a, bs, h => by
    rw [bind?] at h
    split at h
    · cases h
      rfl
    · exact absurd h (by simp)
  | .capture name, v, bs, h => by
    rw [bind?, Option.some_inj] at h
    subst h
    rfl
  | .wildcard, v, bs, h => by
    rw [bind?, Option.some_inj] at h
    subst h
    rfl
  | .list elements, .list items, bs, h => by
    rw [bind?] at h
    exact names_bindAll? elements h
  | .literal _, .list _, _, h | .rest _, _, _, h | .list _, .atom _, _, h | .foreign _, _, _, h => by
    rw [bind?] at h
    exact absurd h (by simp)

theorem names_bindAll? : ∀ (es : List PatternNode) {items : List Sexp} {bs : Bindings},
    bindAll? es items = some bs → bs.map Prod.fst = captureNamesAll es
  | [], [], bs, h => by
    rw [bindAll?, Option.some_inj] at h
    subst h
    rfl
  | [], v :: vs, bs, h => by
    rw [bindAll?] at h
    exact absurd h (by simp)
  | e :: es, items, bs, h => by
    rcases bindAll?_cons h with ⟨name, rfl, rfl, rfl⟩ | ⟨v, vs, here, there, rfl, he, hes, rfl⟩
    · rfl
    · rw [List.map_append, names_bind? e he, names_bindAll? es hes, captureNamesAll]

end

/-- The assignment gives every name the value that the bindings give it. -/
def Agrees (σ : Assignment) (bs : Bindings) : Prop := ∀ b ∈ bs, σ b.1 = some b.2

theorem agrees_append {σ : Assignment} {bs bs' : Bindings} :
    Agrees σ (bs ++ bs') ↔ Agrees σ bs ∧ Agrees σ bs' := List.forall_mem_append

theorem agrees_singleton {σ : Assignment} {name : String} {v : Sexp} :
    Agrees σ [(name, v)] ↔ σ name = some v := List.forall_mem_singleton

mutual

theorem instance_of_bind? {σ : Assignment} : ∀ (e : PatternNode) {v : Sexp} {bs : Bindings},
    bind? e v = some bs → Agrees σ bs → Instance σ e v
  | .literal text, .atom a, bs, h, _ => by
    rw [bind?] at h
    split at h
    · subst text
      exact .literal a
    · exact absurd h (by simp)
  | .capture name, v, bs, h, hσ => by
    rw [bind?, Option.some_inj] at h
    subst h
    exact .capture (agrees_singleton.mp hσ)
  | .wildcard, v, bs, _, _ => .wildcard v
  | .list elements, .list items, bs, h, hσ => by
    rw [bind?] at h
    exact .list (instances_of_bindAll? elements h hσ)
  | .literal _, .list _, _, h, _ | .rest _, _, _, h, _ | .list _, .atom _, _, h, _
  | .foreign _, _, _, h, _ => by
    rw [bind?] at h
    exact absurd h (by simp)

theorem instances_of_bindAll? {σ : Assignment} : ∀ (es : List PatternNode) {items : List Sexp}
    {bs : Bindings}, bindAll? es items = some bs → Agrees σ bs → Instances σ es items
  | [], [], _, _, _ => .nil
  | [], v :: vs, _, h, _ => by
    rw [bindAll?] at h
    exact absurd h (by simp)
  | e :: es, items, bs, h, hσ => by
    rcases bindAll?_cons h with ⟨name, rfl, rfl, rfl⟩ | ⟨v, vs, here, there, rfl, he, hes, rfl⟩
    · rw [← List.append_nil items]
      exact .rest (agrees_singleton.mp hσ) .nil
    · obtain ⟨hhere, hthere⟩ := agrees_append.mp hσ
      exact .cons (instance_of_bind? e he hhere) (instances_of_bindAll? es hes hthere)

end

theorem bindAll?_cons_of_not_isRest {e : PatternNode} (h : e.isRest = false)
    (es : List PatternNode) (v : Sexp) (vs : List Sexp) {here there : Bindings}
    (hhere : bind? e v = some here) (hthere : bindAll? es vs = some there) :
    bindAll? (e :: es) (v :: vs) = some (here ++ there) := by
  rw [bindAll?]
  · rw [hhere, hthere]
    rfl
  · rintro name rfl -
    exact absurd h (by simp [isRest])

theorem instances_nil {σ : Assignment} {items : List Sexp} (h : Instances σ [] items) :
    items = [] := by
  cases h
  rfl

theorem instances_cons {σ : Assignment} {e : PatternNode} {es : List PatternNode}
    {items : List Sexp} (h : Instances σ (e :: es) items) :
    (∃ v vs, items = v :: vs ∧ Instance σ e v ∧ Instances σ es vs) ∨
      ∃ name spliced vs, e = .rest name ∧ items = spliced ++ vs ∧
        σ name = some (.list spliced) ∧ Instances σ es vs := by
  cases h with
  | cons he hes => exact .inl ⟨_, _, rfl, he, hes⟩
  | rest hσ hes => exact .inr ⟨_, _, _, rfl, rfl, hσ, hes⟩

theorem instances_cons_of_not_isRest {σ : Assignment} {e : PatternNode} (single : e.isRest = false)
    {es : List PatternNode} {items : List Sexp} (h : Instances σ (e :: es) items) :
    ∃ v vs, items = v :: vs ∧ Instance σ e v ∧ Instances σ es vs := by
  rcases instances_cons h with here | ⟨name, _, _, rfl, _⟩
  · exact here
  · cases single

theorem instance_literal {σ : Assignment} {text : String} {v : Sexp}
    (h : Instance σ (.literal text) v) : ∃ a : Atom, v = .atom a ∧ a.text = text := by
  cases h with
  | literal a => exact ⟨a, rfl, rfl⟩

theorem instance_list {σ : Assignment} {elements : List PatternNode} {v : Sexp}
    (h : Instance σ (.list elements) v) : ∃ items, v = .list items ∧ Instances σ elements items := by
  cases h with
  | list each => exact ⟨_, rfl, each⟩

/-- A list with a capture in it matches what the capture stands for in a list of its own. -/
theorem instance_list_capture {σ : Assignment} {name : String} {v : Sexp}
    (h : Instance σ (.list [.capture name]) v) : ∃ w, v = .list [w] ∧ σ name = some w := by
  obtain ⟨items, rfl, each⟩ := instance_list h
  obtain ⟨w, ws, rfl, first, others⟩ := instances_cons_of_not_isRest rfl each
  obtain rfl := instances_nil others
  cases first with
  | capture bound => exact ⟨w, rfl, bound⟩

theorem isRest_of_instance {σ : Assignment} {e : PatternNode} {v : Sexp} (h : Instance σ e v) :
    e.isRest = false := by
  cases h <;> rfl

mutual

theorem bind?_of_instance {σ : Assignment} : ∀ (e : PatternNode) {v : Sexp}, RestsLast e →
    Instance σ e v → ∃ bs, bind? e v = some bs ∧ Agrees σ bs
  | .literal _, _, _, .literal a => ⟨[], by rw [bind?, if_pos rfl], by simp [Agrees]⟩
  | .capture name, v, _, .capture h => ⟨[(name, v)], by rw [bind?], agrees_singleton.mpr h⟩
  | .wildcard, v, _, .wildcard _ => ⟨[], by rw [bind?], by simp [Agrees]⟩
  | .list elements, _, hrests, .list h => by
    rw [RestsLast] at hrests
    obtain ⟨bs, hbs, hσ⟩ := bindAll?_of_instances elements hrests h
    exact ⟨bs, by rw [bind?, hbs], hσ⟩

theorem bindAll?_of_instances {σ : Assignment} : ∀ (es : List PatternNode) {items : List Sexp},
    RestsLastAll es → Instances σ es items → ∃ bs, bindAll? es items = some bs ∧ Agrees σ bs
  | [], _, _, .nil => ⟨[], by rw [bindAll?], by simp [Agrees]⟩
  | e :: es, items, hrests, h => by
    obtain ⟨hlast, hrest, hrests⟩ := hrests
    rcases instances_cons h with ⟨v, vs, rfl, he, hes⟩ | ⟨name, spliced, vs, rfl, rfl, hσ, hes⟩
    · obtain ⟨here, hhere, hσ⟩ := bind?_of_instance e hrest he
      obtain ⟨there, hthere, hσ'⟩ := bindAll?_of_instances es hrests hes
      exact ⟨here ++ there,
        bindAll?_cons_of_not_isRest (isRest_of_instance he) es v vs hhere hthere,
        agrees_append.mpr ⟨hσ, hσ'⟩⟩
    · -- The rest capture is last, so there are no items left for elements behind it.
      obtain rfl : es = [] := hlast rfl
      obtain rfl : vs = [] := instances_nil hes
      exact ⟨[(name, .list spliced)], by rw [bindAll?, List.append_nil], agrees_singleton.mpr hσ⟩

end

end PatternNode

/-! ## The assignment of a match -/

namespace Match

open PatternNode

theorem get?_eq_none_iff {m : Match} {name : String} : m.get? name = none ↔ name ∉ m.names := by
  simp only [get?, names, Option.map_eq_none_iff, List.find?_eq_none, List.mem_map,
    decide_eq_true_eq, not_exists, not_and]

/-- A binding list without repeated names is a table of its bindings. -/
theorem agrees_get? {m : Match} (h : m.names.Nodup) : Agrees m.get? m.bindings := by
  intro b hb
  rw [get?, find?_key_of_mem h hb, Option.map_some]

end Match

namespace Pattern

open PatternNode

/-- What the check of a pattern has established. -/
theorem collect_root (p : Pattern) : collect [] p.root = .ok p.captures := by
  have hchecked := p.checked
  rw [captures?.eq_def] at hchecked
  split at hchecked
  · exact absurd hchecked (by simp)
  · exact hchecked

/-- The assignment gives values to the captures of the pattern and to nothing else. -/
def Assigns (p : Pattern) (σ : Assignment) : Prop :=
  ∀ name, (σ name).isSome = true ↔ name ∈ p.captures

theorem assigns_get? {p : Pattern} {m : Match} (h : m.names = p.captures) : p.Assigns m.get? := by
  intro name
  rw [← h, Option.isSome_iff_ne_none, ne_eq, Match.get?_eq_none_iff, Decidable.not_not]

/-- Two assignments for a pattern that agree with the same bindings of all its captures are one. -/
theorem eq_of_agrees {p : Pattern} {bs : Bindings} (hnames : bs.map Prod.fst = p.captures)
    {σ τ : Assignment} (hσ : p.Assigns σ) (hτ : p.Assigns τ) (hσbs : Agrees σ bs)
    (hτbs : Agrees τ bs) : σ = τ := by
  funext name
  by_cases hmem : name ∈ p.captures
  · rw [← hnames] at hmem
    obtain ⟨b, hb, rfl⟩ := List.mem_map.mp hmem
    rw [hσbs b hb, hτbs b hb]
  · have hσnone : σ name = none := by simpa [← hσ name] using hmem
    have hτnone : τ name = none := by simpa [← hτ name] using hmem
    rw [hσnone, hτnone]

variable {p : Pattern} {v : Sexp} {m : Match}

theorem nodup_captures (p : Pattern) : p.captures.Nodup :=
  (collect_eq_ok p.root p.collect_root).2.2 List.nodup_nil

theorem bind?_of_match? (h : p.match? v = some m) : p.root.bind? v = some m.bindings := by
  obtain ⟨bs, hbs, rfl⟩ := Option.map_eq_some_iff.mp h
  exact hbs

theorem names_of_match? (h : p.match? v = some m) : m.names = p.captures := by
  have hcaptures := (collect_eq_ok p.root p.collect_root).2.1
  rw [Match.names, names_bind? p.root (bind?_of_match? h), hcaptures, List.nil_append]

theorem agrees_of_match? (h : p.match? v = some m) : Agrees m.get? m.bindings := by
  refine Match.agrees_get? ?_
  rw [names_of_match? h]
  exact p.nodup_captures

theorem instance_of_match? (h : p.match? v = some m) : Instance m.get? p.root v :=
  instance_of_bind? p.root (bind?_of_match? h) (agrees_of_match? h)

/-- **Matching decides the instance relation.** A value matches exactly if it is an instance of the
pattern under some assignment of its captures. The match then names the captures in their order and
is that assignment, and there is no other. -/
theorem match?_decides_instance (p : Pattern) (v : Sexp) :
    ((p.match? v).isSome = true ↔ ∃ σ, p.Assigns σ ∧ Instance σ p.root v) ∧
      ∀ m, p.match? v = some m →
        m.names = p.captures ∧ p.Assigns m.get? ∧ Instance m.get? p.root v ∧
          ∀ σ, p.Assigns σ → Instance σ p.root v → σ = m.get? := by
  have hrests := (collect_eq_ok p.root p.collect_root).1
  refine ⟨⟨fun h ↦ ?_, ?_⟩, fun m hm ↦ ?_⟩
  · obtain ⟨m, hm⟩ := Option.isSome_iff_exists.mp h
    exact ⟨m.get?, assigns_get? (names_of_match? hm), instance_of_match? hm⟩
  · rintro ⟨σ, -, hσ⟩
    obtain ⟨bs, hbs, -⟩ := bind?_of_instance p.root hrests hσ
    rw [match?, hbs]
    rfl
  · have hnames := names_of_match? hm
    refine ⟨hnames, assigns_get? hnames, instance_of_match? hm, fun σ hσ hσv ↦ ?_⟩
    obtain ⟨bs, hbs, hσbs⟩ := bind?_of_instance p.root hrests hσv
    obtain rfl : bs = m.bindings := Option.some_inj.mp (hbs.symm.trans (bind?_of_match? hm))
    exact eq_of_agrees hnames hσ (assigns_get? hnames) hσbs (agrees_of_match? hm)

end Pattern

end Flowcheck
