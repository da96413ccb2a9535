import Propositional.Token.Scanner

namespace Propositional.Scanner

def after : Nat → Scanner → Scanner
  | 0, s => s
  | k + 1, s => s.next.2.after k

theorem nextBy_of_ended {order : List TokenKind} {s : Scanner}
    (h : (s.nextBy order).1 = none) :
    (s.nextBy order).2.nextBy order = (none, (s.nextBy order).2) := by
  fun_induction nextBy order s with
  | case1 s hfailed => rw [nextBy_eq, if_pos hfailed]
  | case2 s hfailed hhead => rw [nextBy_eq, if_neg hfailed, hhead]
  | case3 => contradiction
  | case4 s hfailed c hhead lexeme hfound ih => exact ih h
  | case5 => contradiction

theorem failed_of_invalid {order : List TokenKind} {s : Scanner} {fault : InvalidCharacter}
    (h : (s.nextBy order).1 = some (.invalid fault)) :
    (s.nextBy order).2.failed = true := by
  fun_induction nextBy order s with
  | case1 => contradiction
  | case2 => contradiction
  | case3 => rfl
  | case4 s hfailed c hhead lexeme hfound ih => exact ih h
  | case5 => simp at h

theorem items_eq (s : Scanner) :
    s.items =
      match s.next.1 with
      | none => []
      | some item => item :: s.next.2.items :=
  itemsBy_eq TokenKind.all s

theorem items_of_none {s : Scanner} (h : s.next.1 = none) : s.items = [] := by
  rw [items_eq, h]

theorem items_of_some {s : Scanner} {item : Item} (h : s.next.1 = some item) :
    s.items = item :: s.next.2.items := by
  rw [items_eq, h]

theorem items_of_failed {s : Scanner} (h : s.failed = true) : s.items = [] := by
  apply items_of_none
  rw [next, nextBy_eq, if_pos h]

theorem items_next (s : Scanner) : s.next.2.items = s.items.tail := by
  match h : s.next.1 with
  | none =>
      have hended : s.next.2.next.1 = none := congrArg Prod.fst (nextBy_of_ended h)
      rw [items_of_none h, items_of_none hended]
      rfl
  | some item =>
      rw [items_of_some h]
      rfl

theorem head?_items (s : Scanner) : s.items.head? = s.next.1 := by
  match h : s.next.1 with
  | none => rw [items_of_none h]; rfl
  | some item => rw [items_of_some h]; rfl

theorem items_after (k : Nat) (s : Scanner) : (s.after k).items = s.items.drop k := by
  induction k generalizing s with
  | zero => rfl
  | succ k ih => rw [after, ih, items_next, List.drop_tail]

theorem next_after (k : Nat) (s : Scanner) : (s.after k).next.1 = s.items[k]? := by
  rw [← head?_items, items_after, List.head?_drop]

theorem drop_items_of_invalid {s : Scanner} {k : Nat} {fault : InvalidCharacter}
    (h : s.items[k]? = some (.invalid fault)) : s.items.drop (k + 1) = [] := by
  rw [← next_after] at h
  rw [← List.tail_drop, ← items_after, ← items_next]
  exact items_of_failed (failed_of_invalid h)

theorem items_of_collect (s : Scanner) :
    (∀ ts, s.collect.1 = .ok ts → s.items = ts.map .token) ∧
      ∀ fault, s.collect.1 = .error fault →
        ∃ ts : List Token, s.items = ts.map .token ++ [.invalid fault] := by
  fun_induction collect s with
  | case1 s hnext =>
      constructor
      · rintro ts ⟨⟩
        exact items_of_none hnext
      · rintro fault ⟨⟩
  | case2 s fault hnext =>
      constructor
      · rintro ts ⟨⟩
      · rintro fault' ⟨⟩
        have hrest : s.next.2.items = [] := items_of_failed (failed_of_invalid hnext)
        exact ⟨[], by rw [items_of_some hnext, hrest]; rfl⟩
  | case3 s t hnext rest last hcollect ih =>
      constructor
      · rintro ts ⟨⟩
        rw [items_of_some hnext, ih.1 rest (by rw [hcollect]), List.map_cons]
      · rintro fault ⟨⟩
  | case4 s t hnext fault last hcollect ih =>
      constructor
      · rintro ts ⟨⟩
      · rintro fault' ⟨⟩
        obtain ⟨ts, hts⟩ := ih.2 fault (by rw [hcollect])
        exact ⟨t :: ts, by rw [items_of_some hnext, hts, List.map_cons, List.cons_append]⟩

theorem map_token_injective {ts us : List Token}
    (h : ts.map Item.token = us.map Item.token) : ts = us :=
  List.map_inj_right (fun _ _ => Item.token.inj) |>.mp h

theorem filterMap_map_token (ts : List Token) :
    (ts.map Item.token).filterMap Item.token? = ts := by
  rw [List.filterMap_map]
  exact List.filterMap_some

theorem map_token_ne_append_invalid (ts us : List Token) (fault : InvalidCharacter) :
    ts.map Item.token ≠ us.map Item.token ++ [.invalid fault] := by
  intro h
  have hmem : Item.invalid fault ∈ ts.map Item.token := by simp [h]
  simp at hmem

theorem collect_eq_ok_iff {s : Scanner} {ts : List Token} :
    s.collect.1 = .ok ts ↔ s.items = ts.map .token := by
  constructor
  · exact (items_of_collect s).1 ts
  · intro h
    rcases hcollect : s.collect.1 with fault | us
    · obtain ⟨us, hus⟩ := (items_of_collect s).2 fault hcollect
      exact (map_token_ne_append_invalid ts us fault (h.symm.trans hus)).elim
    · have hus := (items_of_collect s).1 us hcollect
      rw [map_token_injective (hus.symm.trans h)]

theorem collect_eq_error_iff {s : Scanner} {fault : InvalidCharacter} :
    s.collect.1 = .error fault ↔
      ∃ ts : List Token, s.items = ts.map .token ++ [.invalid fault] := by
  constructor
  · exact (items_of_collect s).2 fault
  · rintro ⟨ts, h⟩
    rcases hcollect : s.collect.1 with fault' | us
    · obtain ⟨us, hus⟩ := (items_of_collect s).2 fault' hcollect
      have hlast := List.append_inj_right' (h.symm.trans hus) rfl
      cases hlast
      rfl
    · have hus := (items_of_collect s).1 us hcollect
      exact (map_token_ne_append_invalid us ts fault (hus.symm.trans h)).elim

end Propositional.Scanner
