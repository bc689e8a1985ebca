import Flowcheck.Sexp.Printer
import Flowcheck.Sexp.Stream
import Mathlib

/-!
# Every value is delivered once

The consumers of a cursor ask in any order. What a request is owed depends on the values that are
left when it is made, and on nothing else: on none of the requests before it but through these.
Every request is given what it is owed (`answer_eq_owed`).

Put together, the answers take the values from the front, one after the other, and say that the
stream has ended when none is left. `Takes` is this relation between the values before, what is
given and the values behind. An answer is of this form, and two pieces of this form make a third, so
everything that is ever given is of this form.

An iteration that has ended says so without a look at the cursor. This is right as long as
iterations end at the end of the stream only, which is the one thing that a stream has to keep.
-/

namespace Flowcheck.Sexp

/-! ## Values from the front -/

/-- From the first values the middle is given, and the last are left. -/
inductive Takes : List Sexp → List (Option Sexp) → List Sexp → Prop where
  | nothing (left : List Sexp) : Takes left [] left
  | value {v : Sexp} {values left : List Sexp} {given : List (Option Sexp)}
    (h : Takes values given left) : Takes (v :: values) (some v :: given) left
  | ended {given : List (Option Sexp)} {left : List Sexp} (h : Takes [] given left) :
    Takes [] (none :: given) left

namespace Takes

variable {values left left' : List Sexp} {given given' : List (Option Sexp)}

theorem append (h : Takes values given left) (h' : Takes left given' left') :
    Takes values (given ++ given') left' := by
  induction h with
  | nothing left => exact h'
  | value _ ih => exact .value (ih h')
  | ended _ ih => exact .ended (ih h')

theorem all (values : List Sexp) : Takes values (values.map some) [] := by
  induction values with
  | nil => exact .nothing []
  | cons v values ih => exact .value ih

/-- No value is lost and none is given twice. -/
theorem reduceOption_append (h : Takes values given left) :
    given.reduceOption ++ left = values := by
  induction h with
  | nothing left => rfl
  | value _ ih => rw [List.reduceOption_cons_of_some, List.cons_append, ih]
  | ended _ ih => rw [List.reduceOption_cons_of_none, ih]

theorem left_eq_nil (h : Takes [] given left) : left = [] :=
  (List.append_eq_nil_iff.1 h.reduceOption_append).2

/-- What was given up to some time was taken from the front, and so was what was given from then
on. -/
theorem split (h : Takes values (given ++ given') left) :
    ∃ between, Takes values given between ∧ Takes between given' left := by
  induction given generalizing values with
  | nil => exact ⟨values, .nothing values, h⟩
  | cons said given ih =>
    rcases h with _ | h | h
    · obtain ⟨between, first, second⟩ := ih h
      exact ⟨between, .value first, second⟩
    · obtain ⟨between, first, second⟩ := ih h
      exact ⟨between, .ended first, second⟩

/-- Nothing but the end is given at the end. -/
theorem eq_none (h : Takes [] given left) : ∀ said ∈ given, said = none := by
  induction given with
  | nil => exact fun _ mem ↦ absurd mem List.not_mem_nil
  | cons said given ih =>
    rcases h with _ | _ | h
    exact List.forall_mem_cons.2 ⟨rfl, ih h⟩

theorem head_eq_none_iff {said : Option Sexp} (h : Takes values (said :: given) left) :
    said = none ↔ values = [] := by
  rcases h with _ | _ | _ <;> simp

end Takes

/-! ## Requests -/

/-- What a request is owed when some values are left: the next one, or the end if there is none; and
a whole iteration is owed all of them and then the end. -/
def Request.owed (left : List Sexp) : Request → List (Option Sexp)
  | .read | .step _ => [left.head?]
  | .iterate => left.map some ++ [none]

/-- Nothing but the end is owed at the end only. -/
theorem Request.owed_eq_end_iff {left : List Sexp} (r : Request) :
    r.owed left = [none] ↔ left = [] := by
  cases left <;> cases r <;> simp [owed]

theorem Cursor.next_fst (c : Cursor) : c.next.1 = c.remaining.head? := by
  rcases h : c.remaining with _ | ⟨v, rest⟩
  · rw [next_of_nil h]
    rfl
  · rw [next_of_cons h]
    rfl

theorem Cursor.takes_next (c : Cursor) :
    Takes c.remaining [c.next.1] c.next.2.remaining := by
  rcases h : c.remaining with _ | ⟨v, rest⟩
  · rw [next_of_nil h, h]
    exact .ended (.nothing [])
  · rw [next_of_cons h]
    exact .value (.nothing rest)

/-- A cursor that gives nothing has nothing left. -/
theorem Cursor.next_fst_eq_none_iff {c : Cursor} : c.next.1 = none ↔ c.remaining = [] :=
  c.takes_next.head_eq_none_iff

namespace Stream

/-- Iterations have ended at the end of the stream only. -/
def Settled (s : Stream) : Prop := ∀ i ∈ s.ended, s.cursor.remaining = []

/-- **Every request is given what it is owed**, whatever was asked for before. -/
theorem answer_eq_owed {s : Stream} (settled : s.Settled) (r : Request) :
    (s.answer r).1 = r.owed s.cursor.remaining := by
  rcases r with _ | i | _
  · exact congrArg (fun said ↦ [said]) s.cursor.next_fst
  · rw [answer]
    split
    · rename_i finished
      rw [settled i finished]
      rfl
    · exact congrArg (fun said ↦ [said]) s.cursor.next_fst
  · rfl

theorem takes_answer {s : Stream} (settled : s.Settled) (r : Request) :
    Takes s.cursor.remaining (s.answer r).1 (s.answer r).2.cursor.remaining := by
  rcases r with _ | i | _
  · exact s.cursor.takes_next
  · rw [answer]
    split
    · rename_i finished
      rw [settled i finished]
      exact .ended (.nothing [])
    · exact s.cursor.takes_next
  · have atEnd : Takes [] [none] [] := .ended (.nothing [])
    exact (Takes.all s.cursor.remaining).append atEnd

/-- An iteration has ended before, or it ends because the cursor has nothing left. -/
theorem mem_ended_of_answer {s : Stream} {r : Request} {i : Nat}
    (finished : i ∈ (s.answer r).2.ended) : i ∈ s.ended ∨ s.cursor.remaining = [] := by
  rcases r with _ | j | _
  · exact .inl finished
  · rw [answer] at finished
    split at finished
    · exact .inl finished
    · dsimp only at finished
      split at finished
      · rename_i nothing
        exact .inr (Cursor.next_fst_eq_none_iff.1 (Option.isNone_iff_eq_none.1 nothing))
      · exact .inl finished
  · exact .inl finished

theorem settled_answer {s : Stream} (settled : s.Settled) (r : Request) :
    (s.answer r).2.Settled := by
  intro i finished
  have atEnd : s.cursor.remaining = [] := (mem_ended_of_answer finished).elim (settled i) id
  have takes := takes_answer settled r
  rw [atEnd] at takes
  exact takes.left_eq_nil

theorem takes_run {s : Stream} (settled : s.Settled) (requests : List Request) :
    Takes s.cursor.remaining (s.run requests).1.flatten (s.run requests).2.cursor.remaining := by
  induction requests generalizing s with
  | nil => exact .nothing s.cursor.remaining
  | cons r requests ih => exact (takes_answer settled r).append (ih (settled_answer settled r))

theorem settled_run {s : Stream} (settled : s.Settled) (requests : List Request) :
    (s.run requests).2.Settled := by
  induction requests generalizing s with
  | nil => exact settled
  | cons r requests ih => exact ih (settled_answer settled r)

theorem length_run (s : Stream) (requests : List Request) :
    (s.run requests).1.length = requests.length := by
  induction requests generalizing s with
  | nil => rfl
  | cons r requests ih => exact congrArg Nat.succ (ih (s.answer r).2)

/-- A request is answered by the stream that the requests before it have left behind. -/
theorem exists_run_eq (s : Stream) (before : List Request) (r : Request) (after : List Request) :
    ∃ later, (s.run (before ++ r :: after)).1 =
      (s.run before).1 ++ ((s.run before).2.answer r).1 :: later := by
  induction before generalizing s with
  | nil => exact ⟨_, rfl⟩
  | cons r' before ih =>
    obtain ⟨later, split⟩ := ih (s.answer r').2
    exact ⟨later, congrArg ((s.answer r').1 :: ·) split⟩

/-- **An iteration is as many steps as it takes.** Stepping a new iteration until it says that the
stream has ended gives what asking for all of it gives, and leaves the cursor at the same place. -/
theorem run_steps {s : Stream} {i : Nat} (new : i ∉ s.ended) :
    (s.run (List.replicate (s.cursor.remaining.length + 1) (.step i))).1.flatten =
        (s.answer .iterate).1 ∧
      (s.run (List.replicate (s.cursor.remaining.length + 1) (.step i))).2.cursor =
        (s.answer .iterate).2.cursor := by
  obtain ⟨⟨values, source?⟩, ended⟩ := s
  induction values with
  | nil => simp [run, answer, Cursor.next, Cursor.drain, show i ∉ ended from new]
  | cons v values ih =>
    obtain ⟨given, cursor⟩ := ih new
    have step : (Stream.mk ⟨v :: values, source?⟩ ended).answer (.step i) =
        ([some v], ⟨⟨values, source?⟩, ended⟩) := by
      rw [answer, if_neg new]
      rfl
    rw [List.length_cons, List.replicate_succ, run, step]
    exact ⟨congrArg (some v :: ·) given, cursor⟩

end Stream

/-! ## Whole streams -/

/-- The values among answers, in order of time. -/
def delivered (answers : List (List (Option Sexp))) : List Sexp := answers.flatten.reduceOption

/-- Answers to requests that deliver values, each of them once. -/
structure Delivers (values : List Sexp) (requests : List Request)
    (answers : List (List (Option Sexp))) : Prop where
  length : answers.length = requests.length
  /-- Each request is given what it is owed when the values left are those that were not delivered
  before it. It is told the end alone if all had come by then, and only then. -/
  each : ∀ before r after, requests = before ++ r :: after → ∃ earlier left later,
    answers = earlier ++ r.owed left :: later ∧ earlier.length = before.length ∧
      delivered earlier ++ left = values ∧ (r.owed left = [none] ↔ delivered earlier = values)
  /-- Values come in their order, and none is left out or comes again. -/
  inOrder : delivered answers <+: values
  /-- Also within an answer the end is said when all have come, and only then. -/
  ended_iff : ∀ before said after, answers.flatten = before ++ said :: after →
    (said = none ↔ before.reduceOption = values)
  /-- Once the end has been said nothing else is said. -/
  stays : ∀ before after, answers.flatten = before ++ none :: after → ∀ said ∈ after, said = none

theorem Stream.delivers {s : Stream} (settled : s.Settled) (requests : List Request) :
    Delivers s.cursor.remaining requests (s.answers requests) where
  length := s.length_run requests
  each before r after split := by
    subst split
    obtain ⟨later, split⟩ := s.exists_run_eq before r after
    have left := (takes_run settled before).reduceOption_append
    refine ⟨(s.run before).1, (s.run before).2.cursor.remaining, later, ?_,
      s.length_run before, left, ?_⟩
    · rwa [answer_eq_owed (settled_run settled before)] at split
    · rw [r.owed_eq_end_iff, ← left, delivered, List.self_eq_append_right]
  inOrder := ⟨_, (takes_run settled requests).reduceOption_append⟩
  ended_iff before said after split := by
    have takes := takes_run settled requests
    obtain ⟨between, first, second⟩ := (split ▸ takes).split
    rw [second.head_eq_none_iff, ← first.reduceOption_append, List.self_eq_append_right]
  stays before after split := by
    have takes := takes_run settled requests
    obtain ⟨between, -, second⟩ := (split ▸ takes).split
    obtain rfl := second.head_eq_none_iff.1 rfl
    exact fun said mem ↦ second.eq_none said (.tail none mem)

/-- **The consumers of a stream are given every value of the text once.** In whatever order they
ask, each request is given the next value, or all that are left, and together they are given the
values in the order of the text; the end is said to whoever asks when no value is left, and from
then on. A text that cannot be read has no stream, for the same reason. -/
theorem stream_delivers (text : String) (source? : Option String) :
    match readAll text source? with
    | .error e => Stream.ofText text source? = .error e
    | .ok values => ∃ s, Stream.ofText text source? = .ok s ∧
        ∀ requests, Delivers values requests (s.answers requests) := by
  rcases h : readAll text source? with e | values
  · rw [Stream.ofText, Cursor.ofText, h]
    rfl
  · refine ⟨{ cursor := ⟨values, source?⟩ }, ?_, fun requests ↦ ?_⟩
    · rw [Stream.ofText, Cursor.ofText, h]
      rfl
    · have settled : (Stream.mk ⟨values, source?⟩ []).Settled :=
        fun i finished ↦ absurd finished List.not_mem_nil
      exact Stream.delivers settled requests

/-- Two iterations that take turns, a value read in between, and an iteration of all that is left.
Afterwards there is nothing for anybody, the two iterations included. -/
theorem stream_delivers_interleaved :
    let requests : List Request :=
      [.step 0, .read, .step 1, .step 0, .iterate, .step 1, .read, .step 0, .iterate]
    ∃ values s, readAll "a (b c) d e f g" none = .ok values ∧
      Stream.ofText "a (b c) d e f g" none = .ok s ∧
      Delivers values requests (s.answers requests) ∧
      (s.answers requests).map (·.map (·.map flat)) =
        [[some "a"], [some "(b c)"], [some "d"], [some "e"], [some "f", some "g", none], [none],
          [none], [none], [none]] := by
  intro requests
  have told : (Stream.ofText "a (b c) d e f g" none).toOption.map
      (fun s ↦ (s.answers requests).map (·.map (·.map flat))) =
        some [[some "a"], [some "(b c)"], [some "d"], [some "e"], [some "f", some "g", none],
          [none], [none], [none], [none]] := by cbv
  have delivers := stream_delivers "a (b c) d e f g" none
  rcases h : readAll "a (b c) d e f g" none with e | values
  · rw [h] at delivers
    rw [delivers] at told
    cases told
  · rw [h] at delivers
    obtain ⟨s, made, delivers⟩ := delivers
    rw [made] at told
    exact ⟨values, s, rfl, made, delivers requests, Option.some.inj told⟩

end Flowcheck.Sexp
