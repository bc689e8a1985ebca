/-!
# Maps in insertion order

A finite map that remembers the order in which its keys were first written. Writing a key again
changes the value and keeps the place; a removed key that comes back goes to the end. The maps here
are small and read far more often than they grow, so a list of pairs serves, with the distinctness
of the keys carried in the type.
-/

namespace Flowcheck

/-! ## Distinct keys -/

section Keys

variable {α : Type u} {κ : Type v} [DecidableEq κ] {key : α → κ} {as : List α}

/-- Where the keys are distinct, the search for the key of a member finds the member. -/
theorem find?_key_of_mem (nodup : (as.map key).Nodup) {a : α} (mem : a ∈ as) :
    as.find? (fun a' ↦ key a' = key a) = some a := by
  induction as with
  | nil => exact absurd mem List.not_mem_nil
  | cons a' as ih =>
    obtain ⟨new, nodup⟩ := List.nodup_cons.1 nodup
    rcases List.mem_cons.1 mem with rfl | mem
    · simp
    · have ne : key a' ≠ key a := fun same ↦ new (same ▸ List.mem_map_of_mem mem)
      rw [List.find?_cons_of_neg (by simpa using ne), ih nodup mem]

theorem find?_key_eq_some_iff (nodup : (as.map key).Nodup) {k : κ} {a : α} :
    as.find? (fun a' ↦ key a' = k) = some a ↔ a ∈ as ∧ key a = k := by
  constructor
  · intro found
    exact ⟨List.mem_of_find?_eq_some found, by simpa using List.find?_some found⟩
  · rintro ⟨mem, rfl⟩
    exact find?_key_of_mem nodup mem

/-- Where the keys are distinct, only the member itself has its key. -/
theorem filter_key_of_mem (nodup : (as.map key).Nodup) {a : α} (mem : a ∈ as) :
    as.filter (fun a' ↦ key a' = key a) = [a] := by
  induction as with
  | nil => exact absurd mem List.not_mem_nil
  | cons a' as ih =>
    obtain ⟨new, nodup⟩ := List.nodup_cons.1 nodup
    rcases List.mem_cons.1 mem with rfl | mem
    · have others : as.filter (fun a' ↦ key a' = key a) = [] := by
        rw [List.filter_eq_nil_iff]
        intro a' mem' same
        exact new (of_decide_eq_true same ▸ List.mem_map_of_mem mem')
      rw [List.filter_cons_of_pos (by simp), others]
    · have ne : key a' ≠ key a := fun same ↦ new (same ▸ List.mem_map_of_mem mem)
      rw [List.filter_cons_of_neg (by simpa using ne), ih nodup mem]

end Keys

/-! ## The type -/

/-- A finite map from `κ` to `ν` in the order of first insertion. -/
structure Assoc (κ : Type u) (ν : Type v) where
  entries : List (κ × ν)
  nodup : (entries.map Prod.fst).Nodup

namespace Assoc

variable {κ : Type u} {ν : Type v}

theorem ext_entries {m m' : Assoc κ ν} (h : m.entries = m'.entries) : m = m' := by
  cases m; cases m'; simpa using h

instance [DecidableEq κ] [DecidableEq ν] : DecidableEq (Assoc κ ν) := fun m m' ↦
  decidable_of_iff (m.entries = m'.entries) ⟨ext_entries, fun h ↦ h ▸ rfl⟩

instance [Repr κ] [Repr ν] : Repr (Assoc κ ν) := ⟨fun m n ↦ reprPrec m.entries n⟩

/-! ## Views -/

/-- The map without entries. -/
def empty : Assoc κ ν := ⟨[], List.nodup_nil⟩

instance : EmptyCollection (Assoc κ ν) := ⟨empty⟩

instance : Inhabited (Assoc κ ν) := ⟨empty⟩

/-- The keys in insertion order. -/
def keys (m : Assoc κ ν) : List κ := m.entries.map Prod.fst

/-- The values in insertion order. -/
def values (m : Assoc κ ν) : List ν := m.entries.map Prod.snd

/-- How many keys the map has. -/
def size (m : Assoc κ ν) : Nat := m.entries.length

theorem nodup_keys (m : Assoc κ ν) : m.keys.Nodup := m.nodup

@[simp] theorem entries_empty : (∅ : Assoc κ ν).entries = [] := rfl

@[simp] theorem keys_empty : (∅ : Assoc κ ν).keys = [] := rfl

/-! ## Operations -/

variable [DecidableEq κ]

/-- The value of a key. -/
def get? (m : Assoc κ ν) (k : κ) : Option ν :=
  (m.entries.find? fun e ↦ e.1 = k).map Prod.snd

/-- Whether the map has the key. -/
def contains (m : Assoc κ ν) (k : κ) : Bool := (m.get? k).isSome

/-- Changes the value of a key that is there, in its place. -/
def modify (m : Assoc κ ν) (k : κ) (f : ν → ν) : Assoc κ ν where
  entries := m.entries.map fun e ↦ if e.1 = k then (e.1, f e.2) else e
  nodup := by
    have : (m.entries.map fun e ↦ if e.1 = k then (e.1, f e.2) else e).map Prod.fst =
        m.entries.map Prod.fst := by
      rw [List.map_map]
      refine List.map_congr_left fun e _ ↦ ?_
      by_cases h : e.1 = k <;> simp [h]
    rw [this]
    exact m.nodup

/-- Takes the key out of the map. -/
def erase (m : Assoc κ ν) (k : κ) : Assoc κ ν where
  entries := m.entries.filter fun e ↦ e.1 ≠ k
  nodup := m.nodup.sublist (List.filter_sublist.map _)

theorem get?_eq_none_iff {m : Assoc κ ν} {k : κ} : m.get? k = none ↔ k ∉ m.keys := by
  simp only [get?, keys, Option.map_eq_none_iff, List.find?_eq_none, List.mem_map,
    decide_eq_true_eq, not_exists, not_and]

/-- Writes the value of a key: in its place if the map has the key, at the end otherwise. -/
def insert (m : Assoc κ ν) (k : κ) (v : ν) : Assoc κ ν :=
  if h : k ∈ m.entries.map Prod.fst then m.modify k fun _ ↦ v
  else
    { entries := m.entries ++ [(k, v)]
      nodup := by
        rw [List.map_append, List.nodup_append]
        refine ⟨m.nodup, by simp, fun a ha b hb ↦ ?_⟩
        simp only [List.map_cons, List.map_nil, List.mem_singleton] at hb
        exact fun e ↦ h (hb ▸ e ▸ ha) }

/-- Writes the pairs in order. -/
def ofList (pairs : List (κ × ν)) : Assoc κ ν :=
  pairs.foldl (fun m e ↦ m.insert e.1 e.2) empty

/-! ## Laws -/

theorem get?_of_mem_entries {m : Assoc κ ν} {k : κ} {v : ν} (h : (k, v) ∈ m.entries) :
    m.get? k = some v := by
  rw [get?, find?_key_of_mem m.nodup h, Option.map_some]

theorem mem_entries_of_get? {m : Assoc κ ν} {k : κ} {v : ν} (h : m.get? k = some v) :
    (k, v) ∈ m.entries := by
  obtain ⟨e, found, rfl⟩ := Option.map_eq_some_iff.1 h
  have key : e.1 = k := by simpa using List.find?_some found
  exact key ▸ List.mem_of_find?_eq_some found

theorem mem_entries_iff {m : Assoc κ ν} {k : κ} {v : ν} : (k, v) ∈ m.entries ↔ m.get? k = some v :=
  ⟨get?_of_mem_entries, mem_entries_of_get?⟩

@[simp] theorem get?_empty (k : κ) : (∅ : Assoc κ ν).get? k = none := rfl

@[simp] theorem keys_modify (m : Assoc κ ν) (k : κ) (f : ν → ν) : (m.modify k f).keys = m.keys := by
  simp only [keys, modify, List.map_map]
  refine List.map_congr_left fun e _ ↦ ?_
  by_cases h : e.1 = k <;> simp [h]

theorem keys_insert (m : Assoc κ ν) (k : κ) (v : ν) :
    (m.insert k v).keys = if k ∈ m.keys then m.keys else m.keys ++ [k] := by
  by_cases h : k ∈ m.keys
  · have h' : k ∈ m.entries.map Prod.fst := h
    simp only [insert, h', ↓reduceDIte, keys_modify, h, ↓reduceIte]
  · have h' : k ∉ m.entries.map Prod.fst := h
    simp only [insert, h', ↓reduceDIte, h, ↓reduceIte]
    simp [keys]

theorem keys_insert_new {m : Assoc κ ν} {k : κ} (new : k ∉ m.keys) (v : ν) :
    (m.insert k v).keys = m.keys ++ [k] := by
  rw [keys_insert, if_neg new]

theorem keys_insert_old {m : Assoc κ ν} {k : κ} (old : k ∈ m.keys) (v : ν) :
    (m.insert k v).keys = m.keys := by
  rw [keys_insert, if_pos old]

theorem count_keys_insert_new {m : Assoc κ ν} {k : κ} (new : k ∉ m.keys) (v : ν) (k' : κ) :
    (m.insert k v).keys.count k' = m.keys.count k' + [k].count k' := by
  rw [keys_insert_new new, List.count_append]

theorem mem_keys_insert {m : Assoc κ ν} {k k' : κ} {v : ν} :
    k' ∈ (m.insert k v).keys ↔ k' = k ∨ k' ∈ m.keys := by
  rw [keys_insert]
  by_cases h : k ∈ m.keys
  · rw [if_pos h]
    refine ⟨.inr, ?_⟩
    rintro (rfl | h')
    · exact h
    · exact h'
  · rw [if_neg h, List.mem_append, List.mem_singleton, or_comm]

theorem entries_insert_old {m : Assoc κ ν} {k : κ} (old : k ∈ m.keys) (v : ν) :
    (m.insert k v).entries = m.entries.map fun e ↦ if e.1 = k then (e.1, v) else e := by
  have old' : k ∈ m.entries.map Prod.fst := old
  rw [insert, dif_pos old', modify]

theorem entries_insert_new {m : Assoc κ ν} {k : κ} (new : k ∉ m.keys) (v : ν) :
    (m.insert k v).entries = m.entries ++ [(k, v)] := by
  have new' : k ∉ m.entries.map Prod.fst := new
  rw [insert, dif_neg new']

/-- Of two values written to a key the second one stays. -/
theorem insert_insert (m : Assoc κ ν) (k : κ) (v w : ν) :
    (m.insert k v).insert k w = m.insert k w := by
  apply ext_entries
  have again : k ∈ (m.insert k v).keys := mem_keys_insert.2 (.inl rfl)
  rw [entries_insert_old again]
  by_cases h : k ∈ m.keys
  · rw [entries_insert_old h, entries_insert_old h, List.map_map]
    refine List.map_congr_left fun e _ ↦ ?_
    by_cases he : e.1 = k <;> simp [he]
  · have untouched : (m.entries.map fun e ↦ if e.1 = k then (e.1, w) else e) = m.entries := by
      refine (List.map_congr_left fun e he ↦ if_neg ?_).trans (List.map_id _)
      rintro rfl
      exact h (List.mem_map_of_mem he)
    rw [entries_insert_new h, entries_insert_new h, List.map_append, untouched]
    simp

theorem keys_erase (m : Assoc κ ν) (k : κ) : (m.erase k).keys = m.keys.filter (· ≠ k) := by
  simp only [keys, erase, List.filter_map]
  rfl

private theorem find?_map_eq (es : List (κ × ν)) (k k' : κ) (f : ν → ν) :
    ((es.map fun e ↦ if e.1 = k then (e.1, f e.2) else e).find? fun e ↦ e.1 = k').map Prod.snd =
      ((es.find? fun e ↦ e.1 = k').map Prod.snd).map (if k = k' then f else id) := by
  induction es with
  | nil => rfl
  | cons e es ih =>
    simp only [List.map_cons, List.find?_cons]
    by_cases hk : e.1 = k <;> by_cases hk' : e.1 = k'
    · simp [hk, hk ▸ hk']
    · have : ¬ k = k' := fun h ↦ hk' (hk.trans h)
      simpa [hk, this] using ih
    · have : ¬ k = k' := fun h ↦ hk (hk'.trans h.symm)
      simp [hk', this, Ne.symm this]
    · simpa [hk, hk'] using ih

theorem get?_modify (m : Assoc κ ν) (k k' : κ) (f : ν → ν) :
    (m.modify k f).get? k' = (m.get? k').map (if k = k' then f else id) :=
  find?_map_eq m.entries k k' f

/-- Reading back what was written. -/
theorem get?_insert (m : Assoc κ ν) (k k' : κ) (v : ν) :
    (m.insert k v).get? k' = if k = k' then some v else m.get? k' := by
  by_cases h : k ∈ m.entries.map Prod.fst
  · simp only [insert, h, ↓reduceDIte, get?_modify]
    by_cases hk : k = k'
    · subst hk
      obtain ⟨w, hw⟩ := Option.ne_none_iff_exists'.1 fun e ↦ get?_eq_none_iff.1 e h
      simp [hw]
    · simp [hk]
  · simp only [insert, h, ↓reduceDIte, get?, List.find?_append, List.find?_cons, List.find?_nil]
    by_cases hk : k = k'
    · subst hk
      have : m.entries.find? (fun e ↦ decide (e.1 = k)) = none := by
        simpa [get?, -List.find?_eq_none] using get?_eq_none_iff.2 h
      simp [this, -List.find?_eq_none]
    · simp [hk]

theorem mem_keys_iff {m : Assoc κ ν} {k : κ} : k ∈ m.keys ↔ ∃ v, m.get? k = some v := by
  rw [← Option.isSome_iff_exists, Option.isSome_iff_ne_none, ne_eq, get?_eq_none_iff,
    Decidable.not_not]

theorem mem_keys_of_get? {m : Assoc κ ν} {k : κ} {v : ν} (h : m.get? k = some v) : k ∈ m.keys :=
  mem_keys_iff.2 ⟨v, h⟩

/-- What holds of a written entry and of all older ones holds of every entry afterwards. -/
theorem forall_get?_insert {P : κ → ν → Prop} {m : Assoc κ ν} {k : κ} {v : ν} (new : P k v)
    (old : ∀ k' w, m.get? k' = some w → P k' w) (k' : κ) (w : ν)
    (h : (m.insert k v).get? k' = some w) : P k' w := by
  rw [get?_insert] at h
  split at h
  · rename_i hk
    subst hk
    rwa [← Option.some.inj h]
  · exact old k' w h

/-- What is read of single entries is as before if it is the same of the written entry. -/
theorem read_insert_same {γ : Type} (read : Option ν → γ) {m : Assoc κ ν} {k : κ} {v : ν}
    (same : read (some v) = read (m.get? k)) (k' : κ) :
    read ((m.insert k v).get? k') = read (m.get? k') := by
  rw [get?_insert]
  split
  · rename_i hk
    rw [same, hk]
  · rfl

theorem get?_erase (m : Assoc κ ν) (k k' : κ) :
    (m.erase k).get? k' = if k = k' then none else m.get? k' := by
  by_cases hk : k = k'
  · subst hk
    rw [if_pos rfl, get?_eq_none_iff, keys_erase]
    simp
  · rw [if_neg hk]
    simp only [get?, erase, List.find?_filter]
    congr 2
    funext e
    by_cases h : e.1 = k'
    · simp [h, Ne.symm hk]
    · simp [h]

theorem contains_iff {m : Assoc κ ν} {k : κ} : m.contains k = true ↔ k ∈ m.keys := by
  rw [contains, Option.isSome_iff_exists, mem_keys_iff]

end Assoc

end Flowcheck
