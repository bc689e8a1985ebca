import Flowcheck.Json.Reader
import Flowcheck.Proofs.Checks
import Mathlib

/-!
# What is read off a JSON text

Two things that the rest of the library relies on without looking into the scanners. A value that
was read holds no integer with more digits than can be converted, so each of its parts can be shown.
And a text without escapes is read in one way only, whatever would be read for half a pair.

Both are one induction along the scanners, over two readings of the same text: the readings take the
same for half a pair, or the text that remains has no escape in it.
-/

namespace Flowcheck.Json

variable {α β : Type} {lone lone' : Nat → Char} {cs after : List Char} {j : Json}

/-! ## Integers -/

/-- Whether no integer in a value has too many digits to be converted. -/
inductive Fits : Json → Prop where
  | null : Fits .null
  | bool (value : Bool) : Fits (.bool value)
  | int {value : Int} (short : value.natAbs < 10 ^ Text.maxNumeralDigits) : Fits (.int value)
  | float (value : Decimal.Binary64) : Fits (.float value)
  | str (value : String) : Fits (.str value)
  | list {items : List Json} (each : ∀ j ∈ items, Fits j) : Fits (.list items)
  | obj {members : List (String × Json)} (each : ∀ m ∈ members, Fits m.2) : Fits (.obj members)

theorem digitsValue_lt {digits : List Char} (decimal : ∀ c ∈ digits, c.isDigit = true) :
    digitsValue digits < 10 ^ digits.length := by
  induction digits using List.reverseRecOn with
  | nil => decide
  | append_singleton digits c ih =>
    have before := ih fun d here ↦ decimal d (List.mem_append_left _ here)
    have last : c.toNat - 0x30 ≤ 9 := by
      have digit := decimal c (List.mem_append_right _ List.mem_cons_self)
      simp only [Char.isDigit, Bool.and_eq_true, decide_eq_true_eq] at digit
      have : c.toNat ≤ 57 := by exact_mod_cast digit.2
      omega
    rw [digitsValue, List.foldl_append, List.length_append, List.length_singleton, Nat.pow_succ]
    show digitsValue digits * 10 + (c.toNat - 0x30) < _
    omega

theorem isDigit_of_mem_wholeDigits {c : Char} (here : c ∈ wholeDigits cs) : c.isDigit = true := by
  rw [wholeDigits.eq_def] at here
  split at here
  · rw [List.mem_singleton.1 here]
    rfl
  · exact List.mem_takeWhile_imp here

theorem fits_of_integer {negative : Bool} (read : integer negative (wholeDigits cs) = .ok j) :
    j.Fits := by
  rw [integer] at read
  split at read
  · cases read
  · rename_i few
    have small := digitsValue_lt fun c (here : c ∈ wholeDigits cs) ↦ isDigit_of_mem_wholeDigits here
    have bound : 10 ^ (wholeDigits cs).length ≤ 10 ^ Text.maxNumeralDigits :=
      Nat.pow_le_pow_right (by decide) (by omega)
    cases read
    apply Fits.int
    split <;> omega

/-! ## Two readings -/

/-- Whether it makes no difference to a text which of two choices is read for half a pair. -/
def Alike (lone lone' : Nat → Char) (cs : List Char) : Prop := lone = lone' ∨ '\\' ∉ cs

theorem Alike.of_subset (alike : Alike lone lone' cs) (part : after ⊆ cs) :
    Alike lone lone' after :=
  alike.imp_right fun absent here ↦ absent (part here)

theorem Alike.of_cons {c : Char} (alike : Alike lone lone' (c :: cs)) : Alike lone lone' cs :=
  alike.of_subset (List.subset_cons_self c cs)

theorem Alike.skipSpacing (alike : Alike lone lone' cs) : Alike lone lone' (skipSpacing cs) :=
  alike.of_subset (List.dropWhile_sublist _).subset

/-- Two readings come to the same: what they read has a property, and they stay alike. -/
structure ReadAlike (lone lone' : Nat → Char) (P : α → Prop)
    (x y : Except ScanFault (α × List Char)) : Prop where
  same : x = y
  reads : ∀ a after, x = .ok (a, after) → P a ∧ Alike lone lone' after

namespace ReadAlike

variable {P : α → Prop} {Q : β → Prop} {x y : Except ScanFault (α × List Char)}

theorem ok {a : α} (holds : P a) (alike : Alike lone lone' after) :
    ReadAlike lone lone' P (.ok (a, after)) (.ok (a, after)) where
  same := rfl
  reads := by
    rintro _ _ ⟨⟩
    exact ⟨holds, alike⟩

theorem error (e : ScanFault) : ReadAlike lone lone' P (.error e) (.error e) where
  same := rfl
  reads := nofun

theorem bind {f g : α × List Char → Except ScanFault (β × List Char)}
    (first : ReadAlike lone lone' P x y)
    (next : ∀ a after, P a → Alike lone lone' after →
      ReadAlike lone lone' Q (f (a, after)) (g (a, after))) :
    ReadAlike lone lone' Q (x >>= f) (y >>= g) := by
  obtain ⟨rfl, reads⟩ := first
  rcases x with e | ⟨a, after⟩
  · exact .error e
  · obtain ⟨holds, alike⟩ := reads a after rfl
    exact next a after holds alike

end ReadAlike

/-! ## The scanners -/

theorem subset_scanSign : (scanSign cs).2 ⊆ cs := by
  rw [scanSign.eq_def]
  split
  · exact List.subset_cons_self _ _
  · exact List.Subset.refl _

theorem subset_scanExponentSign : (scanExponentSign cs).2 ⊆ cs := by
  rw [scanExponentSign.eq_def]
  split
  · exact List.subset_cons_self _ _
  · exact subset_scanSign

theorem subset_scanFraction : (scanFraction cs).2 ⊆ cs := by
  rw [scanFraction.eq_def]
  split
  · dsimp only
    split
    · exact List.Subset.refl _
    · exact List.subset_cons_of_subset _ (List.dropWhile_sublist _).subset
  · exact List.Subset.refl _

theorem subset_scanExponent : (scanExponent cs).2 ⊆ cs := by
  rw [scanExponent.eq_def]
  split
  · dsimp only
    split
    · split
      · exact List.Subset.refl _
      · apply List.subset_cons_of_subset
        exact List.Subset.trans (List.dropWhile_sublist _).subset subset_scanExponentSign
    · exact List.Subset.refl _
  · exact List.Subset.refl _

theorem readAlike_number? {result : Except ScanFault (Json × List Char)}
    (alike : Alike lone lone' cs) (read : number? cs = some result) :
    ReadAlike lone lone' Fits result result := by
  have signed := alike.of_subset subset_scanSign
  have whole := signed.of_subset (List.drop_subset (wholeDigits (scanSign cs).2).length _)
  have after := (whole.of_subset subset_scanFraction).of_subset subset_scanExponent
  rw [number?] at read
  simp only at read
  split at read
  · cases read
  · split at read
    · cases made : integer (scanSign cs).1 (wholeDigits (scanSign cs).2) with
      | error e =>
        rw [made] at read
        cases read
        exact .error e
      | ok j =>
        rw [made] at read
        cases read
        exact .ok (fits_of_integer made) after
    · cases read
      exact .ok (.float _) after

theorem readAlike_constant? {result : Json × List Char}
    (alike : Alike lone lone' cs) (read : constant? cs = some result) :
    ReadAlike lone lone' Fits (.ok result) (.ok result) := by
  obtain ⟨⟨word, value⟩, listed, read⟩ := List.exists_of_findSome?_eq_some read
  have fits : value.Fits := by
    have all : ∀ entry ∈ constants, entry.2.Fits := by
      simp only [constants, List.forall_mem_cons]
      exact ⟨.null, .bool _, .bool _, .float _, .float _, .float _, by simp⟩
    exact all _ listed
  dsimp only at read
  split at read
  · cases read
    exact .ok fits (alike.of_subset (List.drop_subset _ _))
  · cases read

theorem scanString_cons {opened : Nat} {c : Char} (closes : c ≠ '"') (escapes : c ≠ '\\') :
    scanString lone opened (c :: cs) =
      if c.toNat ≤ 0x1f then failAt .controlCharacter (c :: cs)
      else do
        let (text, after) ← scanString lone opened cs
        return (c :: text, after) := by
  rw [scanString.eq_def]
  split <;> simp_all

theorem readAlike_scanString (opened : Nat) (alike : Alike lone lone' cs) :
    ReadAlike lone lone' (fun _ ↦ True) (scanString lone opened cs)
      (scanString lone' opened cs) := by
  obtain rfl | absent := alike
  · exact ⟨rfl, fun _ _ _ ↦ ⟨trivial, .inl rfl⟩⟩
  -- Without an escape the choice is never asked for.
  induction cs with
  | nil =>
    rw [scanString, scanString]
    exact .error _
  | cons c rest ih =>
    have escapes : c ≠ '\\' := fun same ↦ absent (same ▸ List.mem_cons_self)
    have later : '\\' ∉ rest := fun here ↦ absent (List.mem_cons_of_mem c here)
    by_cases closes : c = '"'
    · subst closes
      rw [scanString, scanString]
      exact .ok trivial (.inr later)
    · rw [scanString_cons closes escapes, scanString_cons closes escapes]
      split
      · exact .error _
      · exact (ih later).bind fun _ _ _ alike ↦ .ok trivial alike

theorem forall_mem_setMember {P : Json → Prop} (key : String) {value : Json}
    {members : List (String × Json)} (each : ∀ m ∈ members, P m.2) (new : P value) :
    ∀ m ∈ setMember key value members, P m.2 := by
  induction members with
  | nil => simpa [setMember] using new
  | cons m rest ih =>
    obtain ⟨first, others⟩ := List.forall_mem_cons.1 each
    rw [setMember]
    split
    · exact List.forall_mem_cons.2 ⟨new, others⟩
    · exact List.forall_mem_cons.2 ⟨first, ih others⟩

section Fuel

variable {fuel : Nat}
  (value : ∀ cs, Alike lone lone' cs →
    ReadAlike lone lone' Fits (scanValue lone fuel cs) (scanValue lone' fuel cs))
  (items : ∀ cs, Alike lone lone' cs → ReadAlike lone lone' (∀ j ∈ ·, Fits j)
    (scanItems lone fuel cs) (scanItems lone' fuel cs))
  (members : ∀ ms cs, Alike lone lone' cs → (∀ m ∈ ms, Fits m.2) →
    ReadAlike lone lone' (∀ m ∈ ·, Fits m.2)
      (scanMembers lone fuel ms cs) (scanMembers lone' fuel ms cs))

include items members in
theorem readAlike_scanValue_succ (alike : Alike lone lone' cs) :
    ReadAlike lone lone' Fits (scanValue lone (fuel + 1) cs) (scanValue lone' (fuel + 1) cs) := by
  rw [scanValue.eq_def, scanValue.eq_def]
  dsimp only
  split
  · exact (readAlike_scanString _ alike.of_cons).bind fun _ _ _ after ↦ .ok (.str _) after
  · have rest := alike.of_cons.skipSpacing
    split
    · rename_i empty
      rw [empty] at rest
      exact .ok (.list (List.forall_mem_nil _)) rest.of_cons
    · exact (items _ rest).bind fun _ _ each after ↦ .ok (.list each) after
  · have rest := alike.of_cons.skipSpacing
    split
    · rename_i empty
      rw [empty] at rest
      exact .ok (.obj (List.forall_mem_nil _)) rest.of_cons
    · refine (members _ _ rest (List.forall_mem_nil _)).bind fun _ _ each after ↦ ?_
      exact .ok (.obj each) after
  · split
    · rename_i read
      exact readAlike_constant? alike read
    · split
      · rename_i read
        exact readAlike_number? alike read
      · exact .error _

include value items in
theorem readAlike_scanItems_succ (alike : Alike lone lone' cs) :
    ReadAlike lone lone' (∀ j ∈ ·, Fits j) (scanItems lone (fuel + 1) cs)
      (scanItems lone' (fuel + 1) cs) := by
  rw [scanItems, scanItems]
  refine (value _ alike).bind fun j after fits alike ↦ ?_
  have rest := alike.skipSpacing
  dsimp only
  split
  · rename_i last
    rw [last] at rest
    exact .ok (List.forall_mem_singleton.2 fits) rest.of_cons
  · rename_i more
    rw [more] at rest
    refine (items _ rest.of_cons.skipSpacing).bind fun js after each alike ↦ ?_
    exact .ok (List.forall_mem_cons.2 ⟨fits, each⟩) alike
  · exact .error _

include value members in
theorem readAlike_scanMembers_succ {ms : List (String × Json)} (alike : Alike lone lone' cs)
    (each : ∀ m ∈ ms, Fits m.2) :
    ReadAlike lone lone' (∀ m ∈ ·, Fits m.2) (scanMembers lone (fuel + 1) ms cs)
      (scanMembers lone' (fuel + 1) ms cs) := by
  rw [scanMembers.eq_def, scanMembers.eq_def]
  dsimp only
  split
  · refine (readAlike_scanString _ alike.of_cons).bind fun key after _ alike ↦ ?_
    have rest := alike.skipSpacing
    dsimp only
    split
    · rename_i colon
      rw [colon] at rest
      refine (value _ rest.of_cons.skipSpacing).bind fun j after fits alike ↦ ?_
      have rest := alike.skipSpacing
      have each := forall_mem_setMember (String.ofList key) each fits
      dsimp only
      split
      · rename_i last
        rw [last] at rest
        exact .ok each rest.of_cons
      · rename_i more
        rw [more] at rest
        exact members _ _ rest.of_cons.skipSpacing each
      · exact .error _
    · exact .error _
  · exact .error _

end Fuel

variable (lone lone') in
theorem readAlike_scan (fuel : Nat) :
    (∀ cs, Alike lone lone' cs →
      ReadAlike lone lone' Fits (scanValue lone fuel cs) (scanValue lone' fuel cs)) ∧
    (∀ cs, Alike lone lone' cs → ReadAlike lone lone' (∀ j ∈ ·, Fits j)
      (scanItems lone fuel cs) (scanItems lone' fuel cs)) ∧
    ∀ ms cs, Alike lone lone' cs → (∀ m ∈ ms, Fits m.2) →
      ReadAlike lone lone' (∀ m ∈ ·, Fits m.2)
        (scanMembers lone fuel ms cs) (scanMembers lone' fuel ms cs) := by
  induction fuel with
  | zero => exact ⟨fun _ _ ↦ .error _, fun _ _ ↦ .error _, fun _ _ _ _ ↦ .error _⟩
  | succ fuel ih =>
    obtain ⟨value, items, members⟩ := ih
    refine ⟨?_, ?_, ?_⟩
    · exact fun _ alike ↦ readAlike_scanValue_succ items members alike
    · exact fun _ alike ↦ readAlike_scanItems_succ value items alike
    · exact fun _ _ alike each ↦ readAlike_scanMembers_succ value members alike each

/-! ## Whole texts -/

theorem readAlike_scanDocument (alike : Alike lone lone' cs) :
    ReadAlike lone lone' Fits (scanDocument lone cs) (scanDocument lone' cs) := by
  rw [scanDocument.eq_def, scanDocument.eq_def]
  split
  · exact .error _
  · refine ((readAlike_scan lone lone' _).1 _ alike.skipSpacing).bind fun j after fits alike ↦ ?_
    dsimp only
    split
    · exact .ok fits (alike.of_subset (List.nil_subset _))
    · exact .error _

/-- **What is read can be shown.** No integer in it has more digits than can be converted. -/
theorem fits_of_parse {text : String} (read : parse text = .ok j) : j.Fits := by
  let lone : Nat → Char := fun _ ↦ '\ufffd'
  have scanned : ∃ after, scanDocument lone text.toList = .ok (j, after) := by
    rw [parse, parseWith] at read
    split at read
    · rename_i value after scanned
      cases read
      exact ⟨after, scanned⟩
    · cases read
    · cases read
  obtain ⟨after, scanned⟩ := scanned
  have alike : Alike lone lone text.toList := .inl rfl
  exact ((readAlike_scanDocument alike).reads j after scanned).1

/-- **Without escapes nothing is lost.** -/
theorem lossless_of_not_mem {text : String} (absent : '\\' ∉ text.toList) : Lossless text := by
  intro lone
  rw [parse, parseWith, parseWith, (readAlike_scanDocument (.inr absent)).same]

/-! ## Integers on their own -/

section Digits

variable {c : Char} {digits : List Char} (decimal : ∀ d ∈ c :: digits, d.isDigit = true)
include decimal

theorem ne_of_decimal {d : Char} (other : d.isDigit = false) : c ≠ d := by
  rintro rfl
  exact absurd (decimal c List.mem_cons_self) (by simp [other])

theorem skipSpacing_digits : skipSpacing (c :: digits) = c :: digits := by
  apply List.dropWhile_cons_of_neg
  simp [isSpacing, ne_of_decimal decimal]

theorem number?_digits (leads : c ≠ '0') :
    number? (c :: digits) = some ((·, []) <$> integer false (c :: digits)) := by
  have sign : scanSign (c :: digits) = (false, c :: digits) := by
    rw [scanSign]
    exact fun _ same ↦ ne_of_decimal decimal (by decide) (List.cons.inj same).1
  have whole : wholeDigits (c :: digits) = c :: digits := by
    rw [wholeDigits, List.takeWhile_eq_self_iff.2 decimal]
    exact fun _ same ↦ leads (List.cons.inj same).1
  rw [number?, sign]
  simp only [whole, List.drop_length]
  rfl

theorem constant?_digits : constant? (c :: digits) = none := by
  have other (d : Char) (h : d.isDigit = false) : d ≠ c := (ne_of_decimal decimal h).symm
  simp [constant?, constants, other]

theorem scanValue_digits (leads : c ≠ '0') (fuel : Nat) :
    scanValue lone (fuel + 1) (c :: digits) = (·, []) <$> integer false (c :: digits) := by
  have other (d : Char) (h : d.isDigit = false) : ∀ rest, c :: digits = d :: rest → False :=
    fun _ same ↦ ne_of_decimal decimal h (List.cons.inj same).1
  rw [scanValue]
  · rw [constant?_digits decimal, number?_digits decimal leads]
  · exact other _ (by decide)
  · exact other _ (by decide)
  · exact other _ (by decide)

/-- A text of digits alone is an integer, unless there are too many of them. -/
theorem parse_digits (leads : c ≠ '0') :
    parse (String.ofList (c :: digits)) =
      if Text.maxNumeralDigits < digits.length + 1 then .error (.tooManyDigits (digits.length + 1))
      else .ok (.int (digitsValue (c :: digits))) := by
  have mark : ∀ rest, c :: digits = '\ufeff' :: rest → False :=
    fun _ same ↦ ne_of_decimal decimal (by decide) (List.cons.inj same).1
  rw [parse, parseWith, String.toList_ofList, scanDocument, skipSpacing_digits decimal,
    scanValue_digits decimal leads, integer, List.length_cons]
  · by_cases tooMany : Text.maxNumeralDigits < digits.length + 1
    · rw [if_pos tooMany, if_pos tooMany]
      rfl
    · rw [if_neg tooMany, if_neg tooMany]
      rfl
  · exact mark

end Digits

end Flowcheck.Json
