import Flowcheck.Proofs.Sexp.Grammar
import Flowcheck.Proofs.Sexp.RoundTrip

/-!
# Values on lines of their own

The pretty printer guards the line ends that it writes inside a list. The line end that somebody
else puts behind a printed value has no such guard: behind an atom that ends in a backslash it is an
escaped one, and reading removes both. So a text with one value to a line reads back as these values
exactly when none of them is such an atom.

That it fails otherwise is a matter of counting. The printed text has as many atom characters as the
values, and splicing takes at least one of them away.
-/

namespace Flowcheck.Sexp

/-! ## Ends of printed values -/

/-- Whether the text of a value ends in a backslash, which only an atom's text can do. -/
def endsInBackslash : Sexp → Bool
  | .atom a => a.chars.getLast? = some '\\'
  | .list _ => false

theorem getLast?_flatMore (vs : List Sexp) : (flatMore vs).getLast? = some ')' := by
  induction vs with
  | nil => rfl
  | cons v vs ih =>
    rw [flatMore, List.getLast?_cons, List.getLast?_append, ih]
    rfl

theorem getLast?_flatChars_list (items : List Sexp) :
    (flatChars (.list items)).getLast? = some ')' := by
  match items with
  | [] => rfl
  | v :: vs =>
    rw [flatChars, flatItems, List.getLast?_cons, List.getLast?_append, getLast?_flatMore]
    rfl

theorem getLast?_prettyMore (layout : Layout) (column : Int) (previous : List Char)
    (vs : List Sexp) : (prettyMore layout column previous vs).getLast? = some ')' := by
  induction vs generalizing previous with
  | nil => rfl
  | cons v vs ih => rw [prettyMore, List.getLast?_append, ih, Option.some_or]

theorem getLast?_prettyChars_list (layout : Layout) (column : Int) (items : List Sexp) :
    (prettyChars layout column (.list items)).getLast? = some ')' := by
  match items with
  | [] => rfl
  | v :: vs =>
    rw [prettyChars]
    split
    · exact getLast?_flatChars_list (v :: vs)
    · rw [List.getLast?_cons, List.getLast?_append, getLast?_prettyMore]
      rfl

theorem getLast?_prettyChars_iff {layout : Layout} {column : Int} {v : Sexp} :
    (prettyChars layout column v).getLast? = some '\\' ↔ v.endsInBackslash = true := by
  cases v with
  | atom a => rw [prettyChars, endsInBackslash, decide_eq_true_eq]
  | list items => simp [getLast?_prettyChars_list, endsInBackslash]

/-! ## One value in front of a text -/

/-- The pretty form contributes the tokens of its value to a text that goes on behind it. -/
theorem sourceTokens_prettyChars_append {layout : Layout} {column : Int} {v : Sexp}
    {rest : List Char} (hatom : startsAtom rest = false)
    (hline : v.endsInBackslash = true → startsLine rest = false) :
    sourceTokens (prettyChars layout column v ++ rest) = valueTokens v ++ sourceTokens rest := by
  have hsplice : spliceLines (prettyChars layout column v ++ rest) =
      prettyChars layout column v ++ spliceLines rest :=
    spliceLines_prettyChars_append layout v column fun hlast ↦
      hline (getLast?_prettyChars_iff.mp hlast)
  rw [sourceTokens, hsplice, tokens_prettyChars_append layout v column
    (startsAtom_spliceLines hatom), sourceTokens]

theorem sourceTokens_prettyChars (layout : Layout) (column : Int) (v : Sexp) :
    sourceTokens (prettyChars layout column v) = valueTokens v := by
  have h : sourceTokens (prettyChars layout column v ++ []) = valueTokens v ++ sourceTokens [] :=
    sourceTokens_prettyChars_append rfl fun _ ↦ rfl
  rw [List.append_nil] at h
  rw [h]
  exact List.append_nil _

theorem sourceTokens_pretty (layout : Layout) (v : Sexp) :
    sourceTokens (pretty layout v).toList = valueTokens v := by
  rw [pretty, String.toList_ofList, sourceTokens_prettyChars]

/-! ## One value to a line -/

/-- The pretty forms of values, each with a line end behind it. -/
def prettyLines (layout : Layout) : List Sexp → List Char
  | [] => []
  | v :: vs => prettyChars layout 0 v ++ '\n' :: prettyLines layout vs

theorem prettyLines_append (layout : Layout) (vs ws : List Sexp) :
    prettyLines layout (vs ++ ws) = prettyLines layout vs ++ prettyLines layout ws := by
  induction vs with
  | nil => rfl
  | cons v vs ih =>
    rw [List.cons_append, prettyLines, prettyLines, ih, List.append_assoc, List.cons_append]

theorem startsAtom_newline (rest : List Char) : startsAtom ('\n' :: rest) = false := by
  rw [startsAtom]
  decide

/-- As long as nothing is spliced the tokens are the right ones. -/
theorem tokens_prettyLines (layout : Layout) (vs : List Sexp) :
    tokens (prettyLines layout vs) = itemTokens vs := by
  induction vs with
  | nil => rfl
  | cons v vs ih =>
    have hnewline : tokens (['\n'] ++ prettyLines layout vs) = tokens (prettyLines layout vs) :=
      tokens_blanks (by simp) _
    rw [prettyLines, tokens_prettyChars_append layout v 0 (startsAtom_newline _), itemTokens, ← ih,
      ← hnewline, List.singleton_append]

theorem sourceTokens_prettyLines {layout : Layout} {vs : List Sexp}
    (h : ∀ v ∈ vs, v.endsInBackslash = false) :
    sourceTokens (prettyLines layout vs) = itemTokens vs := by
  induction vs with
  | nil => rfl
  | cons v vs ih =>
    obtain ⟨hv, hvs⟩ := List.forall_mem_cons.mp h
    have hnewline : sourceTokens (['\n'] ++ prettyLines layout vs) =
        sourceTokens (prettyLines layout vs) := sourceTokens_blanks (by simp) _
    rw [prettyLines, sourceTokens_prettyChars_append (startsAtom_newline _) (by simp [hv]),
      itemTokens, ← ih hvs, ← hnewline, List.singleton_append]

/-- A value that ends in a backslash escapes the line end behind it. -/
theorem exists_escaped_of_mem (layout : Layout) {vs : List Sexp} {v : Sexp} (hv : v ∈ vs)
    (hend : v.endsInBackslash = true) :
    ∃ text rest, prettyLines layout vs = text ++ '\\' :: rest ∧ startsLine rest = true := by
  obtain ⟨before, after, rfl⟩ := List.append_of_mem hv
  have hlast : (prettyChars layout 0 v).getLast? = some '\\' := getLast?_prettyChars_iff.mpr hend
  obtain ⟨chars, hchars⟩ := List.getLast?_eq_some_iff.mp hlast
  refine ⟨prettyLines layout before ++ chars, '\n' :: prettyLines layout after, ?_, rfl⟩
  rw [prettyLines_append, prettyLines, hchars]
  simp only [List.append_assoc, List.singleton_append]

/-- The values on their lines have the right tokens unless one of them escapes its line end. -/
theorem sourceTokens_prettyLines_iff {layout : Layout} {vs : List Sexp} :
    sourceTokens (prettyLines layout vs) = itemTokens vs ↔
      ∀ v ∈ vs, v.endsInBackslash = false := by
  refine ⟨fun htokens v hv ↦ Bool.eq_false_iff.mpr fun hend ↦ ?_, sourceTokens_prettyLines⟩
  obtain ⟨text, rest, htext, hline⟩ := exists_escaped_of_mem layout hv hend
  have hlost := countP_spliceLines_lt text hline
  rw [← htext, ← atomLength_tokens, ← atomLength_tokens, ← sourceTokens, htokens,
    tokens_prettyLines] at hlost
  exact Nat.lt_irrefl _ hlost

end Flowcheck.Sexp
