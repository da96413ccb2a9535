import Mathlib.Data.List.Basic
import Mathlib.Data.List.Induction
import Propositional.Proofs.Reading.Grammar
import Propositional.Proofs.Reading.Scanned

namespace Propositional

section

variable {α : Type} [DecidableEq α]

/-- Append an element that is not there yet. -/
def withElement (seen : List α) (x : α) : List α :=
  if x ∈ seen then seen else seen ++ [x]

theorem eraseDups_concat (l : List α) (x : α) :
    (l ++ [x]).eraseDups = withElement l.eraseDups x := by
  rw [List.eraseDups_append, withElement]
  by_cases hx : x ∈ l
  · have hnone : [x].removeAll l = [] := by simp [List.removeAll, hx]
    rw [hnone, if_pos (List.mem_eraseDups.mpr hx)]
    exact List.append_nil _
  · have hone : [x].removeAll l = [x] := by simp [List.removeAll, hx]
    rw [hone, if_neg (fun h => hx (List.mem_eraseDups.mp h))]
    rfl

theorem foldl_withElement (l : List α) : l.foldl withElement [] = l.eraseDups := by
  induction l using List.reverseRecOn with
  | nil => rfl
  | append_singleton l x ih => rw [List.foldl_concat, ih, eraseDups_concat]

/-- What is left when repetitions are erased stands in the order of the first occurrences. -/
theorem pairwise_idxOf_eraseDups (l : List α) :
    l.eraseDups.Pairwise fun x y => l.idxOf x < l.idxOf y := by
  induction l using List.reverseRecOn with
  | nil => exact .nil
  | append_singleton l x ih =>
      have hkept : l.eraseDups.Pairwise fun y z => (l ++ [x]).idxOf y < (l ++ [x]).idxOf z := by
        refine ih.imp_of_mem fun hy hz hlt => ?_
        rwa [List.idxOf_append_of_mem (List.mem_eraseDups.mp hy),
          List.idxOf_append_of_mem (List.mem_eraseDups.mp hz)]
      rw [eraseDups_concat, withElement]
      split
      · exact hkept
      · next hx =>
          have hnew : x ∉ l := fun h => hx (List.mem_eraseDups.mpr h)
          refine List.pairwise_append.mpr ⟨hkept, List.pairwise_singleton .., ?_⟩
          intro y hy z hz
          obtain rfl := List.mem_singleton.mp hz
          have hold : y ∈ l := List.mem_eraseDups.mp hy
          rw [List.idxOf_append_of_mem hold, List.idxOf_append_of_notMem hnew]
          exact Nat.lt_add_right _ (List.idxOf_lt_length_of_mem hold)

end

namespace Formula

theorem namesAfter_eq_foldl (f : Formula) (seen : List String) :
    f.namesAfter seen = f.leaves.foldl withElement seen := by
  induction f generalizing seen with
  | atom name => rfl
  | unary c operand ih => exact ih seen
  | binary left c right ihLeft ihRight =>
      rw [namesAfter, ihLeft, ihRight, leaves, List.foldl_append]

theorem names_eq_eraseDups (f : Formula) : f.names = f.leaves.eraseDups := by
  rw [names, namesAfter_eq_foldl, foldl_withElement]

end Formula

namespace Reading

variable {registry : Registry}

theorem leaves_of_ofSource {source : String} {f : Formula}
    (h : (ofSource registry source).result = .ok f) :
    f.leaves = nameLexemes ((scan source).filterMap Item.token?) := by
  obtain ⟨ts, hscan, hread⟩ := exists_tokens_of_ofSource h
  rw [hscan, Scanner.filterMap_map_token]
  exact leaves_of_derives (steps_iff_derives.mp (readTokens_eq_ok_iff.mp hread))

/-- The names of a formula are those of its leaves, once each, in the order of their leftmost leaves.
When the formula is read from a source, they are the lexemes of the names in the source without the
later repetitions. -/
theorem names_in_order_of_appearance (f : Formula) :
    f.names.Nodup ∧ (∀ name, name ∈ f.names ↔ name ∈ f.leaves) ∧
      f.names.Pairwise (fun name later => f.leaves.idxOf name < f.leaves.idxOf later) ∧
      ∀ registry source, (ofSource registry source).result = .ok f →
        f.names = (nameLexemes ((scan source).filterMap Item.token?)).eraseDups := by
  have hordered := pairwise_idxOf_eraseDups f.leaves
  rw [Formula.names_eq_eraseDups]
  refine ⟨?_, fun name => List.mem_eraseDups, hordered, ?_⟩
  · refine hordered.imp ?_
    rintro name later hlt rfl
    exact Nat.lt_irrefl _ hlt
  · intro registry source hread
    rw [leaves_of_ofSource hread]

theorem names_of_repeated_names :
    (ofSource Registry.standard "q & (p > q)").result =
        .ok (.binary (.atom "q") .conjunction (.binary (.atom "p") .implication (.atom "q"))) ∧
      Formula.names (.binary (.atom "q") .conjunction
          (.binary (.atom "p") .implication (.atom "q"))) =
        (nameLexemes ((scan "q & (p > q)").filterMap Item.token?)).eraseDups ∧
      (nameLexemes ((scan "q & (p > q)").filterMap Item.token?)).eraseDups = ["q", "p"] := by
  have hread : (ofSource Registry.standard "q & (p > q)").result =
      .ok (.binary (.atom "q") .conjunction (.binary (.atom "p") .implication (.atom "q"))) := by
    decide +kernel
  have hnames := (names_in_order_of_appearance _).2.2.2 Registry.standard _ hread
  exact ⟨hread, hnames, hnames.symm⟩

end Reading

end Propositional
