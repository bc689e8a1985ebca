import Flowcheck.Proofs.Ir.Housing

/-!
# Places of statements under changes

A statement is in no block until it is added to one, and from then on it is in that block alone,
since a statement that points back somewhere is refused everywhere.
-/

namespace Flowcheck.Ir

open Store

variable {s s' : Store} {c : Change}

/-! ## Statements -/

theorem Store.holds_same (blocks : ∀ k, s'.blocksOf k = s.blocksOf k) (strays : s'.strays = s.strays)
    (bb : Block) : s'.Holds bb ↔ s.Holds bb := by
  simp only [Holds, blocks, strays]

theorem Store.holds_addBlock {body : Nat} {new : Block}
    (blocks : ∀ k bb, bb ∈ s'.blocksOf k ↔ bb ∈ s.blocksOf k ∨ (body = k ∧ bb = new))
    (strays : s'.strays = s.strays) (bb : Block) : s'.Holds bb ↔ s.Holds bb ∨ bb = new := by
  simp only [Holds, blocks, strays]
  constructor
  · rintro (⟨k, hbb | ⟨-, rfl⟩⟩ | stray)
    · exact .inl (.inl ⟨k, hbb⟩)
    · exact .inr rfl
    · exact .inl (.inr stray)
  · rintro ((⟨k, hbb⟩ | stray) | rfl)
    · exact .inl ⟨k, .inl hbb⟩
    · exact .inr stray
    · exact .inl ⟨body, .inr ⟨rfl, rfl⟩⟩

theorem Store.holds_addStatement {block : Nat} {st : Statement}
    (blocks : ∀ k, s'.blocksOf k = appendStatement (s.blocksOf k) block st)
    (strays : s'.strays = appendStatement s.strays block st) (bb' : Block) :
    s'.Holds bb' ↔ ∃ bb, s.Holds bb ∧ bb.receive block st = bb' := by
  simp only [Holds, blocks, strays, appendStatement, List.mem_map]
  constructor
  · rintro (⟨k, bb, hbb, rfl⟩ | ⟨bb, stray, rfl⟩)
    · exact ⟨bb, .inl ⟨k, hbb⟩, rfl⟩
    · exact ⟨bb, .inr stray, rfl⟩
  · rintro ⟨bb, ⟨k, hbb⟩ | stray, rfl⟩
    · exact .inl ⟨k, bb, hbb, rfl⟩
    · exact .inr ⟨bb, stray, rfl⟩

theorem Store.Placed.same (h : s.Placed) (holds : ∀ bb, s'.Holds bb ↔ s.Holds bb)
    (statements : s'.statements = s.statements) : s'.Placed := by
  constructor
  · simpa only [holds, statements] using h.listed
  · simpa only [holds] using h.nodup
  · simpa only [statements] using h.uid_eq
  · simpa only [statements] using h.opcode_ne
  · simpa only [holds, statements] using h.block

/-- A block without statements changes nothing for the statements. -/
theorem Store.Placed.newBlock (h : s.Placed) (uid : Nat) (name : String)
    (holds : ∀ bb, s'.Holds bb ↔ s.Holds bb ∨ bb = ⟨uid, name, []⟩)
    (statements : s'.statements = s.statements) : s'.Placed := by
  constructor
  · intro bb held st hst
    rw [statements]
    rcases (holds bb).1 held with held | rfl
    · exact h.listed bb held st hst
    · simp at hst
  · intro bb held
    rcases (holds bb).1 held with held | rfl
    · exact h.nodup bb held
    · exact List.nodup_nil
  · simpa only [statements] using h.uid_eq
  · simpa only [statements] using h.opcode_ne
  · intro uid e block he hb
    rw [statements] at he
    obtain ⟨bb, held, hbb⟩ := h.block uid e block he hb
    exact ⟨bb, (holds bb).2 (.inl held), hbb⟩

theorem Store.Placed.newStatement (h : s.Placed) (st : Statement) (ho : st.opcode ≠ "")
    (new : st.uid ∉ s.statements.keys) (holds : ∀ bb, s'.Holds bb ↔ s.Holds bb)
    (statements : s'.statements = s.statements.insert st.uid { statement := st }) : s'.Placed := by
  constructor
  · intro bb held st' hst
    have listed := h.listed bb ((holds bb).1 held) st' hst
    have ne : st.uid ≠ st'.uid := by
      rintro same
      rw [same] at new
      exact new (Assoc.mem_keys_of_get? listed)
    rw [statements, Assoc.get?_insert, if_neg ne, listed]
  · simpa only [holds] using h.nodup
  · rw [statements]
    exact Assoc.forall_get?_insert rfl h.uid_eq
  · rw [statements]
    exact Assoc.forall_get?_insert ho h.opcode_ne
  · intro uid e block he hb
    rw [statements, Assoc.get?_insert] at he
    simp only [holds]
    split at he
    · rw [← Option.some.inj he] at hb
      simp at hb
    · exact h.block uid e block he hb

/-- The statement was in no block, so no other entry and no other list knows of it. -/
theorem Store.Placed.addStatement (h : s.Placed) {statement block : Nat} {e : StatementEntry}
    (he : s.statements.get? statement = some e) (free : e.block? = none)
    (exist : ∃ bb, s.Holds bb ∧ bb.uid = block)
    (holds : ∀ bb', s'.Holds bb' ↔ ∃ bb, s.Holds bb ∧ bb.receive block e.statement = bb')
    (statements : s'.statements = s.statements.insert statement { e with block? := some block }) :
    s'.Placed := by
  have uid : e.statement.uid = statement := h.uid_eq statement e he
  have other {bb : Block} (held : s.Holds bb) {st : Statement} (hst : st ∈ bb.statements) :
      statement ≠ st.uid := by
    rintro rfl
    have listed := h.listed bb held st hst
    rw [he] at listed
    rw [Option.some.inj listed] at free
    simp at free
  constructor
  · intro bb' held' st hst
    obtain ⟨bb, held, rfl⟩ := (holds bb').1 held'
    rw [statements, Assoc.get?_insert, Body.uid_receive]
    rcases Body.mem_receive_iff.1 hst with hst | ⟨hb, rfl⟩
    · rw [if_neg (other held hst)]
      exact h.listed bb held st hst
    · rw [if_pos uid.symm, hb]
  · intro bb' held'
    obtain ⟨bb, held, rfl⟩ := (holds bb').1 held'
    rw [Block.receive]
    split
    · rw [List.map_append, List.map_singleton, ← List.concat_eq_append]
      refine List.Nodup.concat (fun mem ↦ ?_) (h.nodup bb held)
      obtain ⟨st, hst, same⟩ := List.mem_map.1 mem
      exact other held hst (uid.symm.trans same.symm)
    · exact h.nodup bb held
  · rw [statements]
    exact Assoc.forall_get?_insert uid h.uid_eq
  · rw [statements]
    exact Assoc.forall_get?_insert (h.opcode_ne statement e he) h.opcode_ne
  · intro uid' e' block' he' hb'
    rw [statements, Assoc.get?_insert] at he'
    split at he'
    · obtain rfl := Option.some.inj he'
      obtain rfl := Option.some.inj hb'
      obtain ⟨bb, held, hbb⟩ := exist
      refine ⟨_, (holds _).2 ⟨bb, held, rfl⟩, (Body.uid_receive _ _ _).trans hbb, ?_⟩
      exact Body.mem_receive_iff.2 (.inr ⟨hbb, rfl⟩)
    · obtain ⟨bb, held, hbb, hst⟩ := h.block uid' e' block' he' hb'
      refine ⟨_, (holds _).2 ⟨bb, held, rfl⟩, (Body.uid_receive _ _ _).trans hbb, ?_⟩
      exact Body.mem_receive_iff.2 (.inl hst)

theorem Step.placed (h : s.WellFormed) (step : Step s c s') : s'.Placed := by
  have hp := h.placed
  cases step with
  | spend => exact hp.same (fun _ ↦ .rfl) rfl
  | newBundle _ => exact hp.same (fun _ ↦ .rfl) rfl
  | newBody =>
    refine hp.same (holds_same (blocksOf_insert_same rfl ?_) rfl) rfl
    exact (h.blocksOf_fresh (Nat.le_refl _)).symm
  | newBlock name hb =>
    refine hp.newBlock s.nextUid name (fun bb ↦ ?_) rfl
    simp only [Holds, List.mem_append, List.mem_singleton, or_assoc]
    exact .rfl
  | newFunction _ hb _ =>
    exact hp.same (holds_same (blocksOf_insert_same rfl (h.blocksOf_uid hb).symm) rfl) rfl
  | newFunctionAndBody _ =>
    refine hp.same (holds_same (blocksOf_insert_same rfl ?_) rfl) rfl
    exact (h.blocksOf_fresh (Nat.le_succ _)).symm
  | newStatement operands ho =>
    have new := h.numbered.unused_next.statement
    exact hp.newStatement ⟨s.nextUid, _, operands⟩ ho new (fun _ ↦ .rfl) rfl
  | addFunction _ _ _ _ => exact hp.same (fun _ ↦ .rfl) rfl
  | addBlock hb _ _ _ =>
    exact hp.newBlock _ _ (holds_addBlock (h.mem_blocksOf_addBlock hb rfl) rfl) rfl
  | addStatement home hb he _ free =>
    refine hp.addStatement he free ?_ (holds_addStatement ?_ rfl) rfl
    swap; · exact h.blocksOf_addStatement home hb rfl
    obtain ⟨-, bb, hbb, held⟩ := h.housed.home _ _ home
    exact ⟨bb, held.imp_left fun held ↦ ⟨_, held⟩, hbb⟩
  | edit hb he =>
    refine hp.same (holds_same (blocksOf_insert_same rfl ?_) rfl) rfl
    rw [he.blocks_eq, he.uid_eq, h.blocksOf_uid hb]
  | freezeBundle _ => exact hp.same (fun _ ↦ .rfl) rfl
  | handOut _ => exact hp.same (fun _ ↦ .rfl) rfl

end Flowcheck.Ir
