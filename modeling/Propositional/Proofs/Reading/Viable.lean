import Propositional.Proofs.Reading.Run

namespace Propositional.Reading

def Viable (registry : Registry) (ts : List Token) : Prop :=
  ∃ rest f, Formula.readTokens registry (ts ++ rest) = .ok f

variable {registry : Registry}

def Stage.Completable (registry : Registry) (s : Stage) : Prop :=
  ∃ rest last f, s.steps registry rest = .ok last ∧ last.finish = .ok f

theorem Stage.Completable.of_step {s next : Stage} {t : Token}
    (hstep : s.step registry t = .ok next) (h : next.Completable registry) :
    s.Completable registry := by
  obtain ⟨rest, last, f, hrest, hfinish⟩ := h
  exact ⟨t :: rest, last, f, by rw [Stage.steps_cons_of_ok hstep, hrest], hfinish⟩

theorem completable_afterTerm (f : Formula) (frames : List Frame) :
    (Stage.afterTerm f frames).Completable registry := by
  -- Closing the innermost group leaves fewer frames, though the operands in it are joined first.
  induction hlength : frames.length using Nat.strongRecOn generalizing f frames with
  | ind n ih =>
      rcases settle_none_cases f frames with ⟨g, hsettle⟩ | ⟨g, pending, outer, hsettle⟩
      · exact ⟨[], _, g, rfl, by rw [Stage.finish, hsettle]⟩
      · let closing : Token := ⟨.closing, ")", 0⟩
        have hstep : (Stage.afterTerm f frames).step registry closing =
            .ok (.afterTerm (applyUnaries pending g) outer) :=
          Stage.step_of_moves (.closing rfl hsettle)
        have hsuffix := settle_suffix none f frames
        rw [hsettle] at hsuffix
        have hshorter : outer.length < n := by
          rw [← hlength]
          exact hsuffix.length_le
        exact .of_step hstep (ih _ hshorter _ _ rfl)

theorem completable (s : Stage) : s.Completable registry := by
  rcases s with ⟨pending, frames⟩ | ⟨f, frames⟩
  · let name : Token := ⟨.name, "p", 0⟩
    have hstep : (Stage.beforeTerm pending frames).step registry name =
        .ok (.afterTerm (applyUnaries pending (.atom "p")) frames) :=
      Stage.step_of_moves (.name rfl)
    exact .of_step hstep (completable_afterTerm _ _)
  · exact completable_afterTerm f frames

theorem viable_iff {ts : List Token} :
    Viable registry ts ↔ ∃ s, Stage.start.steps registry ts = .ok s := by
  simp only [Viable, readTokens_eq_ok_iff, Stage.steps_append]
  constructor
  · rintro ⟨rest, f, last, hrest, -⟩
    rcases hts : Stage.start.steps registry ts with fault | s
    · rw [hts] at hrest
      contradiction
    · exact ⟨s, rfl⟩
  · rintro ⟨s, hs⟩
    have hcompletable : s.Completable registry := completable s
    obtain ⟨rest, last, f, hrest, hfinish⟩ := hcompletable
    exact ⟨rest, f, last, by rw [hs]; exact hrest, hfinish⟩

theorem viable_concat_iff {ts : List Token} {s : Stage} {t : Token}
    (h : Stage.start.steps registry ts = .ok s) :
    Viable registry (ts ++ [t]) ↔ ∃ next, s.step registry t = .ok next := by
  rw [viable_iff, Stage.exists_steps_concat_iff h]

/-- The token at index `k` is the first after which the list is no longer viable. -/
def BreaksAt (registry : Registry) (ts : List Token) (k : Nat) (t : Token) : Prop :=
  ts[k]? = some t ∧ Viable registry (ts.take k) ∧ ¬ Viable registry (ts.take (k + 1))

theorem exists_breaksAt_of_steps {ts : List Token} {fault : SyntaxError}
    (h : Stage.start.steps registry ts = .error fault) :
    ∃ k t, fault.found = some t ∧ BreaksAt registry ts k t := by
  obtain ⟨before, t, after, s, rfl, hbefore, hstep⟩ := Stage.exists_of_steps_eq_error h
  refine ⟨before.length, t, Stage.found_of_step hstep, by simp, ?_, ?_⟩
  · rw [List.take_left]
    exact viable_iff.mpr ⟨s, hbefore⟩
  · have hrefused : (before ++ t :: after).take (before.length + 1) = before ++ [t] := by
      rw [List.take_length_add_append]
      rfl
    rw [hrefused, viable_concat_iff hbefore, hstep]
    exact fun ⟨_, hnext⟩ => nomatch hnext

theorem steps_of_breaksAt {ts : List Token} {k : Nat} {t : Token}
    (h : BreaksAt registry ts k t) :
    ∃ fault, Stage.start.steps registry ts = .error fault ∧ fault.found = some t := by
  obtain ⟨hk, hbefore, hafter⟩ := h
  obtain ⟨s, hs⟩ := viable_iff.mp hbefore
  obtain ⟨hlt, hget⟩ := List.getElem?_eq_some_iff.mp hk
  have hsplit : ts.take k ++ t :: ts.drop (k + 1) = ts := by
    rw [← hget, ← List.drop_eq_getElem_cons hlt, List.take_append_drop]
  rcases hstep : s.step registry t with fault | next
  · refine ⟨fault, ?_, Stage.found_of_step hstep⟩
    rw [← hsplit, Stage.steps_append, hs]
    exact Stage.steps_cons_of_error hstep _
  · refine (hafter (viable_iff.mpr ⟨next, ?_⟩)).elim
    rw [← List.take_append_getElem hlt, hget, Stage.steps_append, hs]
    exact Stage.steps_cons_of_ok hstep []

theorem misplaced_end_iff {ts : List Token} :
    (∃ expected, Formula.readTokens registry ts = .error (.misplaced ⟨none, expected⟩)) ↔
      Viable registry ts ∧ ∀ f, Formula.readTokens registry ts ≠ .ok f := by
  constructor
  · rintro ⟨expected, h⟩
    refine ⟨?_, by simp [h]⟩
    rcases readTokens_eq_misplaced_iff.mp h with hsteps | ⟨s, hsteps, -⟩
    · obtain ⟨k, t, hfound, -⟩ := exists_breaksAt_of_steps hsteps
      contradiction
    · exact viable_iff.mpr ⟨s, hsteps⟩
  · rintro ⟨hviable, hnot⟩
    obtain ⟨s, hs⟩ := viable_iff.mp hviable
    rcases hfinish : s.finish with ⟨found, expected⟩ | f
    · obtain rfl : found = none := Stage.found_of_finish hfinish
      exact ⟨expected, readTokens_eq_misplaced_iff.mpr (.inr ⟨s, hs, hfinish⟩)⟩
    · exact (hnot f (readTokens_eq_ok_iff.mpr ⟨s, hs, hfinish⟩)).elim

theorem misplaced_token_iff {ts : List Token} {t : Token} :
    (∃ expected, Formula.readTokens registry ts = .error (.misplaced ⟨some t, expected⟩)) ↔
      ∃ k, BreaksAt registry ts k t := by
  constructor
  · rintro ⟨expected, h⟩
    rcases readTokens_eq_misplaced_iff.mp h with hsteps | ⟨s, -, hfinish⟩
    · obtain ⟨k, u, hfound, hbreaks⟩ := exists_breaksAt_of_steps hsteps
      obtain rfl : t = u := Option.some.inj hfound
      exact ⟨k, hbreaks⟩
    · have hend := Stage.found_of_finish hfinish
      contradiction
  · rintro ⟨k, hbreaks⟩
    obtain ⟨⟨found, expected⟩, hsteps, rfl⟩ := steps_of_breaksAt hbreaks
    exact ⟨expected, readTokens_eq_misplaced_iff.mpr (.inl hsteps)⟩

theorem viable_or_breaksAt (registry : Registry) (ts : List Token) :
    Viable registry ts ∨ ∃ k t, BreaksAt registry ts k t := by
  rcases hsteps : Stage.start.steps registry ts with fault | s
  · obtain ⟨k, t, -, hbreaks⟩ := exists_breaksAt_of_steps hsteps
    exact .inr ⟨k, t, hbreaks⟩
  · exact .inl (viable_iff.mpr ⟨s, hsteps⟩)

/-- A syntax error names the first token at which the list ceases to be viable, or else the end of
the input, and then the list is viable. A list of tokens meets no other kind of error. -/
theorem readTokens_misplaced_iff_breaksAt (registry : Registry) (ts : List Token) :
    ((∃ expected, Formula.readTokens registry ts = .error (.misplaced ⟨none, expected⟩)) ↔
        Viable registry ts ∧ ∀ f, Formula.readTokens registry ts ≠ .ok f) ∧
      (∀ t,
        (∃ expected, Formula.readTokens registry ts = .error (.misplaced ⟨some t, expected⟩)) ↔
          ∃ k, BreaksAt registry ts k t) ∧
      (Viable registry ts ∨ ∃ k t, BreaksAt registry ts k t) ∧
      ∀ fault, Formula.readTokens registry ts ≠ .error (.invalid fault) := by
  refine ⟨misplaced_end_iff, fun _ => misplaced_token_iff, viable_or_breaksAt registry ts, ?_⟩
  intro fault h
  rcases readTokens_ok_or_misplaced registry ts with ⟨f, hf⟩ | ⟨fault', hfault⟩
  · simp [h] at hf
  · simp [h] at hfault

end Propositional.Reading
