import Flowcheck.Proofs.Sexp.Grammar
import Flowcheck.Proofs.Sexp.Surface

/-!
# Which texts can be read

The grammar of texts is a language over tokens: a value is an atom, or values between an opening and
a closing parenthesis. The reader does not follow the grammar. It runs over the tokens once with a
stack of open lists, and it fails as soon as a list is closed that is not there. Whether it succeeds
therefore depends on the height of the stack alone, which is how many lists the tokens so far have
opened and not closed. So a text can be read exactly if its parentheses balance; and since what was
read has the tokens of the text again, exactly if the grammar generates these tokens, which it then
does in one way only.
-/

namespace Flowcheck.Sexp

/-! ## The grammar as a language -/

mutual

/-- The tokens form a value. -/
inductive IsValue : List Token → Prop where
  | atom (a : Atom) : IsValue [.atom a]
  | list {ts : List Token} (items : AreValues ts) : IsValue (.opening :: (ts ++ [.closing]))

/-- The tokens form values, one after the other. -/
inductive AreValues : List Token → Prop where
  | nil : AreValues []
  | cons {ts us : List Token} (first : IsValue ts) (others : AreValues us) : AreValues (ts ++ us)

end

mutual

theorem isValue_valueTokens : ∀ v : Sexp, IsValue (valueTokens v)
  | .atom a => .atom a
  | .list items => .list (areValues_itemTokens items)

theorem areValues_itemTokens : ∀ vs : List Sexp, AreValues (itemTokens vs)
  | [] => .nil
  | v :: vs => .cons (isValue_valueTokens v) (areValues_itemTokens vs)

end

mutual

theorem IsValue.exists_valueTokens : ∀ {ts : List Token}, IsValue ts → ∃ v, valueTokens v = ts
  | _, .atom a => ⟨.atom a, rfl⟩
  | _, .list items => by
    obtain ⟨vs, rfl⟩ := items.exists_itemTokens
    exact ⟨.list vs, rfl⟩

theorem AreValues.exists_itemTokens : ∀ {ts : List Token}, AreValues ts → ∃ vs, itemTokens vs = ts
  | _, .nil => ⟨[], rfl⟩
  | _, .cons first others => by
    obtain ⟨v, rfl⟩ := first.exists_valueTokens
    obtain ⟨vs, rfl⟩ := others.exists_itemTokens
    exact ⟨v :: vs, rfl⟩

end

theorem isValue_iff {ts : List Token} : IsValue ts ↔ ∃ v, valueTokens v = ts := by
  constructor
  · exact IsValue.exists_valueTokens
  · rintro ⟨v, rfl⟩
    exact isValue_valueTokens v

theorem areValues_iff {ts : List Token} : AreValues ts ↔ ∃ vs, itemTokens vs = ts := by
  constructor
  · exact AreValues.exists_itemTokens
  · rintro ⟨vs, rfl⟩
    exact areValues_itemTokens vs

/-! ## Balance -/

/-- As many lists are closed as are opened, and none is closed before it is opened. -/
structure Balanced (ts : List Token) : Prop where
  early : ∀ front, front <+: ts → front.count .closing ≤ front.count .opening
  total : ts.count .closing = ts.count .opening

/-- The tokens close all lists they open and, besides, `depth` lists that are open before them. -/
structure Closes (depth : Nat) (ts : List Token) : Prop where
  early : ∀ front, front <+: ts → front.count .closing ≤ depth + front.count .opening
  total : ts.count .closing = depth + ts.count .opening

theorem balanced_iff_closes_zero {ts : List Token} : Balanced ts ↔ Closes 0 ts := by
  constructor
  · rintro ⟨early, total⟩
    exact ⟨by simpa using early, by simpa using total⟩
  · rintro ⟨early, total⟩
    exact ⟨by simpa using early, by simpa using total⟩

theorem closes_nil {depth : Nat} : Closes depth [] ↔ depth = 0 := by
  constructor
  · rintro ⟨-, total⟩
    simpa using total.symm
  · rintro rfl
    exact ⟨fun front h ↦ by simp [List.prefix_nil.1 h], rfl⟩

/-- What a first token adds to the two counts can be settled in advance, by changing the number of
lists that are open. -/
theorem closes_cons_iff {depth depth' : Nat} {t : Token} {ts : List Token}
    (moves : ∀ us : List Token, (t :: us).count .closing ≤ depth + (t :: us).count .opening ↔
      us.count .closing ≤ depth' + us.count .opening)
    (meets : ∀ us : List Token, (t :: us).count .closing = depth + (t :: us).count .opening ↔
      us.count .closing = depth' + us.count .opening) :
    Closes depth (t :: ts) ↔ Closes depth' ts := by
  constructor
  · rintro ⟨early, total⟩
    refine ⟨fun front h ↦ (moves front).1 (early _ ?_), (meets ts).1 total⟩
    exact (List.prefix_cons_inj t).2 h
  · rintro ⟨early, total⟩
    refine ⟨fun front h ↦ ?_, (meets ts).2 total⟩
    rcases List.prefix_cons_iff.1 h with rfl | ⟨front, rfl, hfront⟩
    · simp
    · exact (moves front).2 (early front hfront)

theorem closes_atom {depth : Nat} {a : Atom} {ts : List Token} :
    Closes depth (.atom a :: ts) ↔ Closes depth ts :=
  closes_cons_iff (fun us ↦ by simp) (fun us ↦ by simp)

theorem closes_opening {depth : Nat} {ts : List Token} :
    Closes depth (.opening :: ts) ↔ Closes (depth + 1) ts :=
  closes_cons_iff (fun us ↦ by simp; omega) (fun us ↦ by simp; omega)

theorem closes_closing {depth : Nat} {ts : List Token} :
    Closes (depth + 1) (.closing :: ts) ↔ Closes depth ts :=
  closes_cons_iff (fun us ↦ by simp; omega) (fun us ↦ by simp; omega)

theorem not_closes_closing {ts : List Token} : ¬ Closes 0 (.closing :: ts) := by
  intro h
  have early := h.early [.closing] ⟨ts, rfl⟩
  simp at early

/-- **Assembling succeeds exactly if every list that is opened is closed**, those included that
were open before. -/
theorem exists_assemble_iff {ls : List Lexeme} {outer : List (List Sexp)} {done : List Sexp} :
    (∃ vs, assemble ls outer done = .ok vs) ↔ Closes outer.length (ls.map Lexeme.token) := by
  -- The stack has one entry for each list that is open.
  induction ls, outer, done using assemble.induct with
  | case1 done => simp [assemble, closes_nil]
  | case2 items outer done => simp [assemble, closes_nil]
  | case3 outer done a site more ih => rw [assemble, ih, List.map_cons, closes_atom]
  | case4 outer done site more ih =>
    rw [assemble, ih, List.map_cons, closes_opening, List.length_cons]
  | case5 done site more around outer ih =>
    rw [assemble, ih, List.map_cons, List.length_cons, closes_closing]
  | case6 done site more => simp [assemble, not_closes_closing]

/-! ## The grammar and the balance

Assembling looks at tokens only, so it can be run on tokens that come from no text. -/

/-- Lexemes with the given tokens. -/
def bareLexemes (ts : List Token) : List Lexeme := ts.map (⟨·, []⟩)

theorem map_token_bareLexemes (ts : List Token) : (bareLexemes ts).map Lexeme.token = ts := by
  simp [bareLexemes, Function.comp_def]

theorem areValues_iff_balanced {ts : List Token} : AreValues ts ↔ Balanced ts := by
  have runs : (∃ vs, assemble (bareLexemes ts) [] [] = .ok vs) ↔ Closes 0 ts := by
    rw [exists_assemble_iff, map_token_bareLexemes, List.length_nil]
  rw [balanced_iff_closes_zero, ← runs, areValues_iff]
  refine exists_congr fun vs ↦ ?_
  rw [assemble_eq_ok_iff, map_token_bareLexemes, eq_comm]

/-- The grammar is unambiguous. -/
theorem itemTokens_injective {vs ws : List Sexp} (h : itemTokens vs = itemTokens ws) : vs = ws := by
  have hvs : assemble (bareLexemes (itemTokens vs)) [] [] = .ok vs :=
    assemble_eq_ok_iff.2 (map_token_bareLexemes _)
  have hws : assemble (bareLexemes (itemTokens vs)) [] [] = .ok ws :=
    assemble_eq_ok_iff.2 ((map_token_bareLexemes _).trans h)
  exact Except.ok.inj (hvs.symm.trans hws)

theorem itemTokens_singleton (v : Sexp) : itemTokens [v] = valueTokens v := by
  rw [itemTokens, itemTokens, List.append_nil]

/-! ## A single value -/

theorem read_eq_ok_iff {text : String} {source? : Option String} {v? : Option Sexp} :
    read text source? = .ok v? ↔ readAll text source? = .ok v?.toList := by
  rw [read, bind_eq_ok_iff]
  simp only [mapError_eq_ok_iff]
  constructor
  · rintro ⟨vs, hvs, hsingle⟩
    have hvs' : vs = v?.toList := by
      rcases vs with _ | ⟨v, _ | ⟨w, vs⟩⟩
      · cases hsingle
        rfl
      · cases hsingle
        rfl
      · cases hsingle
    rw [hvs, hvs']
  · intro h
    refine ⟨v?.toList, h, ?_⟩
    cases v? <;> rfl

/-- A reading that fails tells which source it failed on. -/
theorem exists_read_eq (text : String) (source? : Option String) :
    (∃ v?, read text source? = .ok v?) ∨ ∃ fault, read text source? = .error ⟨fault, source?⟩ := by
  cases hall : readAllChars text.toList with
  | error fault =>
    refine .inr ⟨fault, ?_⟩
    rw [read, readAll, hall]
    rfl
  | ok vs =>
    have hread : read text source? = (single vs).mapError (⟨·, source?⟩) := by
      rw [read, readAll, hall]
      rfl
    cases hsingle : single vs with
    | error fault => exact .inr ⟨fault, by rw [hread, hsingle]; rfl⟩
    | ok v? => exact .inl ⟨v?, by rw [hread, hsingle]; rfl⟩

theorem exists_read_eq_error_iff {text : String} {source? : Option String} :
    (∃ fault, read text source? = .error ⟨fault, source?⟩) ↔
      ∀ v?, read text source? ≠ .ok v? := by
  constructor
  · rintro ⟨fault, hread⟩ v?
    rw [hread]
    simp
  · intro refused
    rcases exists_read_eq text source? with ⟨v?, hread⟩ | failed
    · exact absurd hread (refused v?)
    · exact failed

/-! ## The grammar decides -/

/-- How a text with the tokens `ts` is read. -/
structure ReadsAs (text : String) (source? : Option String) (ts : List Token) : Prop where
  /-- All values can be read exactly if the grammar generates the tokens. -/
  readable : (∃ vs, readAll text source? = .ok vs) ↔ AreValues ts
  /-- The grammar generates them exactly if the parentheses balance. -/
  balanced : AreValues ts ↔ Balanced ts
  /-- What is read are the values with these tokens. -/
  values : ∀ vs, readAll text source? = .ok vs ↔ itemTokens vs = ts
  /-- There is only one such sequence of values. -/
  unambiguous : ∀ vs ws, itemTokens vs = ts → itemTokens ws = ts → vs = ws
  nothing : read text source? = .ok none ↔ ts = []
  one : ∀ v, read text source? = .ok (some v) ↔ valueTokens v = ts
  refused : (∃ fault, read text source? = .error ⟨fault, source?⟩) ↔ ts ≠ [] ∧ ¬ IsValue ts

/-- **The reader is adequate for the grammar.** -/
theorem exists_readsAs (text : String) (source? : Option String) :
    ∃ ts, (∀ ts', HasTokens text.toList ts' ↔ ts' = ts) ∧ ReadsAs text source? ts := by
  have values (vs : List Sexp) :
      readAll text source? = .ok vs ↔ itemTokens vs = sourceTokens text.toList := by
    rw [readAll_eq_ok_iff, eq_comm]
  have nothing : read text source? = .ok none ↔ sourceTokens text.toList = [] := by
    rw [read_eq_ok_iff, values, Option.toList_none, itemTokens, eq_comm]
  have one (v : Sexp) :
      read text source? = .ok (some v) ↔ valueTokens v = sourceTokens text.toList := by
    rw [read_eq_ok_iff, values, Option.toList_some, itemTokens_singleton]
  refine ⟨sourceTokens text.toList, fun ts' ↦ by rw [hasTokens_iff, eq_comm], ?_⟩
  exact
    { readable := by simp only [values, areValues_iff]
      balanced := areValues_iff_balanced
      values := values
      unambiguous := fun vs ws hvs hws ↦ itemTokens_injective (hvs.trans hws.symm)
      nothing := nothing
      one := one
      refused := by
        rw [exists_read_eq_error_iff, isValue_iff, Option.forall]
        simp only [← one, not_exists, ne_eq, nothing] }

end Flowcheck.Sexp
