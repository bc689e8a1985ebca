/-!
# Line ends

A file may end its lines with LF, with CR LF or with a lone CR. Reading a file as text turns each of
the three into LF before anything else looks at it.
-/

namespace Flowcheck.Text

/-- Every CR LF and every other CR becomes one LF. -/
def unifyNewlines : List Char → List Char
  | [] => []
  | '\r' :: '\n' :: rest => '\n' :: unifyNewlines rest
  | c :: rest => (if c = '\r' then '\n' else c) :: unifyNewlines rest

theorem unifyNewlines_eq_self {cs : List Char} (h : '\r' ∉ cs) : unifyNewlines cs = cs := by
  fun_induction unifyNewlines cs with
  | case1 => rfl
  | case2 => simp at h
  | case3 c rest _ ih =>
    have hc : c ≠ '\r' := fun e ↦ h (by simp [e])
    simp [hc, ih fun m ↦ h (List.mem_cons_of_mem _ m)]

/-- The result holds no CR. -/
theorem return_notMem_unifyNewlines (cs : List Char) : '\r' ∉ unifyNewlines cs := by
  fun_induction unifyNewlines cs with
  | case1 => simp
  | case2 rest ih => simpa using ih
  | case3 c rest _ ih =>
    by_cases hc : c = '\r'
    · simpa [hc] using ih
    · simp [hc, ih, Ne.symm hc]

end Flowcheck.Text
