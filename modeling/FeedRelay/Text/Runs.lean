/-!
# Classes of characters as runs

A class of characters is a table of runs of code points: the first and the last one of each run,
in increasing order. A code point that the table finds lies in one of its runs.
-/

namespace FeedRelay.Text

/-- Whether a table of runs, in increasing order, has a run with a code point. -/
def inRuns (n : Nat) : List (Nat × Nat) → Bool
  | [] => false
  | (first, last) :: rest => first ≤ n && (n ≤ last || inRuns n rest)

theorem exists_mem_of_inRuns {n : Nat} {runs : List (Nat × Nat)} (h : inRuns n runs = true) :
    ∃ run ∈ runs, run.1 ≤ n ∧ n ≤ run.2 := by
  induction runs with
  | nil => simp [inRuns] at h
  | cons run rest ih =>
    simp only [inRuns, Bool.and_eq_true, Bool.or_eq_true, decide_eq_true_eq] at h
    rcases h with ⟨first, last | later⟩
    · exact ⟨run, List.mem_cons_self, first, last⟩
    · obtain ⟨other, mem, bounds⟩ := ih later
      exact ⟨other, List.mem_cons_of_mem run mem, bounds⟩

end FeedRelay.Text
