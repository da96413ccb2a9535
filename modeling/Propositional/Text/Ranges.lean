namespace Propositional.Text

/-- Closed ranges of code points in ascending order, so that a search can stop early. -/
abbrev Ranges := List (Nat × Nat)

namespace Ranges

def contains : Ranges → Nat → Bool
  | [], _ => false
  | (first, last) :: rest, n =>
      if n < first then false else if n ≤ last then true else contains rest n

theorem exists_of_contains {table : Ranges} {n : Nat} (h : table.contains n = true) :
    ∃ range ∈ table, range.1 ≤ n ∧ n ≤ range.2 := by
  induction table with
  | nil => simp [contains] at h
  | cons range rest ih =>
      obtain ⟨first, last⟩ := range
      unfold contains at h
      split at h
      · contradiction
      · split at h
        · exact ⟨(first, last), by simp, by omega, by assumption⟩
        · obtain ⟨found, hmem, hbounds⟩ := ih h
          exact ⟨found, by simp [hmem], hbounds⟩

end Ranges

end Propositional.Text
