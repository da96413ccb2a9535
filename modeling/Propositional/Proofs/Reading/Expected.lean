import Propositional.Proofs.Reading.Pulls
import Propositional.Proofs.Reading.Viable

namespace Propositional.Reading

variable {registry : Registry}

namespace Stage

variable {s : Stage} {t closing : Token} {fault : SyntaxError}

/-- After a term the innermost open group may be closed; nothing else is named as expected. -/
def awaits? : Stage → Option TokenKind
  | beforeTerm _ _ => none
  | afterTerm f frames =>
      match settle none f frames with
      | (_, .group _ :: _) => some .closing
      | _ => none

theorem expected_of_step (h : s.step registry t = .error fault) : fault.expected = s.awaits? := by
  rcases s with ⟨pending, frames⟩ | ⟨f, frames⟩
  · rw [step] at h
    split at h
    · contradiction
    · split at h
      · contradiction
      · split at h
        · contradiction
        · rw [← Except.error.inj h, awaits?]
  · rcases hb : registry.binary? (some t) with _ | b
    · rcases settle_none_cases f frames with ⟨g, hsettle⟩ | ⟨g, pending, outer, hsettle⟩
      · simp only [step, hb, hsettle] at h
        rw [← Except.error.inj h, awaits?, hsettle]
      · simp only [step, hb, hsettle] at h
        split at h
        · contradiction
        · rw [← Except.error.inj h, awaits?, hsettle]
    · simp [step, hb] at h

theorem expected_of_finish (h : s.finish = .error fault) : fault.expected = s.awaits? := by
  rcases s with ⟨pending, frames⟩ | ⟨f, frames⟩
  · rw [← Except.error.inj h, awaits?]
  · rcases settle_none_cases f frames with ⟨g, hsettle⟩ | ⟨g, pending, outer, hsettle⟩
    · rw [finish, hsettle] at h
      contradiction
    · rw [finish, hsettle] at h
      rw [← Except.error.inj h, awaits?, hsettle]

theorem step_of_closing (hclosing : closing.kind = .closing) :
    (s.awaits? = some .closing ∧ ∃ next, s.step registry closing = .ok next) ∨
      (s.awaits? = none ∧ ∃ fault, s.step registry closing = .error fault) := by
  rcases s with ⟨pending, frames⟩ | ⟨f, frames⟩
  · have hunary : registry.unary? (some closing) = none := by
      rw [Option.eq_none_iff_forall_ne_some]
      intro u hu
      have hkind := (Registry.unary?_eq_some_iff.mp hu).2
      cases u
      simp [hclosing, UnaryConnective.kind] at hkind
    exact .inr ⟨rfl, ⟨some closing, none⟩, by simp [step, hclosing, hunary]⟩
  · rcases settle_none_cases f frames with ⟨g, hsettle⟩ | ⟨g, pending, outer, hsettle⟩
    · refine .inr ⟨by rw [awaits?, hsettle], ⟨some closing, none⟩, ?_⟩
      simp only [step, Registry.binary?_of_closing hclosing, hsettle]
    · exact .inl ⟨by rw [awaits?, hsettle], _, step_of_moves (.closing hclosing hsettle)⟩

end Stage

section

variable {ts : List Token} {fault : SyntaxError}

theorem lt_pullCount_tokens_iff {k : Nat} (hk : k ≤ ts.length) :
    k < pullCount registry (ts.map fun t => some (.token t)) ↔
      ∃ s, Stage.start.steps registry (ts.take k) = .ok s := by
  have htokens := Feed.tokens_map ts
  have hiff := @lt_pullCount_iff registry (ts.map fun t => some (.token t)) k (by rwa [htokens])
  rwa [htokens] at hiff

theorem pullCount_tokens_le (registry : Registry) (ts : List Token) :
    pullCount registry (ts.map fun t => some (.token t)) ≤ ts.length + 1 := by
  rw [pullCount_eq]
  apply Nat.le_of_not_lt
  intro hlt
  have htoken := isToken_of_lt_asked hlt
  rw [Feed.answer, List.getElem?_eq_none (by simp)] at htoken
  exact Bool.false_ne_true htoken

theorem exists_stage_of_misplaced (h : Formula.readTokens registry ts = .error (.misplaced fault)) :
    ∃ k s, pullCount registry (ts.map fun t => some (.token t)) = k + 1 ∧ k ≤ ts.length ∧
      fault.found = ts[k]? ∧ Stage.start.steps registry (ts.take k) = .ok s ∧
      fault.expected = s.awaits? := by
  rcases readTokens_eq_misplaced_iff.mp h with hsteps | ⟨s, hsteps, hfinish⟩
  · obtain ⟨before, t, after, s, rfl, hbefore, hstep⟩ := Stage.exists_of_steps_eq_error hsteps
    have htaken : (before ++ t :: after).take before.length = before := List.take_left
    have hrefused : (before ++ t :: after).take (before.length + 1) = before ++ [t] := by
      rw [List.take_length_add_append]
      rfl
    have hlt := (@lt_pullCount_tokens_iff registry (before ++ t :: after) before.length
      (by simp)).mpr ⟨s, by rw [htaken, hbefore]⟩
    have hnot : ¬ before.length + 1 < pullCount registry
        ((before ++ t :: after).map fun t => some (.token t)) := by
      rw [lt_pullCount_tokens_iff (by simp), hrefused, Stage.exists_steps_concat_iff hbefore, hstep]
      exact fun ⟨_, hnext⟩ => nomatch hnext
    refine ⟨before.length, s, by omega, by simp, ?_, by rw [htaken, hbefore],
      Stage.expected_of_step hstep⟩
    rw [Stage.found_of_step hstep]
    simp
  · have hlt := (@lt_pullCount_tokens_iff registry ts ts.length (Nat.le_refl _)).mpr
      ⟨s, by rw [List.take_length, hsteps]⟩
    have hle := pullCount_tokens_le registry ts
    refine ⟨ts.length, s, by omega, Nat.le_refl _, ?_, by rw [List.take_length, hsteps],
      Stage.expected_of_finish hfinish⟩
    rw [Stage.found_of_finish hfinish, List.getElem?_eq_none (Nat.le_refl _)]

end

/-- A syntax error stands at the last answer that was pulled: a token, or the end of the input. A
closing parenthesis is expected there if the tokens before it and a closing parenthesis have a
continuation that is read as a formula, and otherwise nothing is. -/
theorem expected_iff_viable_closing {registry : Registry} {ts : List Token} {fault : SyntaxError}
    (h : Formula.readTokens registry ts = .error (.misplaced fault)) :
    ∃ k, (ofTokens registry ts).cursor.pulls.length = k + 1 ∧ k ≤ ts.length ∧
      fault.found = ts[k]? ∧
      ∀ closing : Token, closing.kind = .closing →
        (fault.expected = some .closing ∧ Viable registry (ts.take k ++ [closing])) ∨
          (fault.expected = none ∧ ¬ Viable registry (ts.take k ++ [closing])) := by
  obtain ⟨k, s, hpulls, hk, hfound, hsteps, hexpected⟩ := exists_stage_of_misplaced h
  refine ⟨k, hpulls, hk, hfound, ?_⟩
  intro closing hclosing
  rw [hexpected, viable_concat_iff hsteps]
  have hstep := @Stage.step_of_closing registry s closing hclosing
  rcases hstep with hallowed | ⟨hnone, fault', hrefused⟩
  · exact .inl hallowed
  · refine .inr ⟨hnone, ?_⟩
    rintro ⟨next, hnext⟩
    rw [hrefused] at hnext
    contradiction

theorem expected_in_open_group :
    Formula.readTokens Registry.standard
        [⟨.opening, "(", 0⟩, ⟨.name, "p", 1⟩, ⟨.name, "q", 3⟩] =
      .error (.misplaced ⟨some ⟨.name, "q", 3⟩, some .closing⟩) ∧
    Viable Registry.standard [⟨.opening, "(", 0⟩, ⟨.name, "p", 1⟩, ⟨.closing, ")", 2⟩] := by
  have hread : Formula.readTokens Registry.standard
      [⟨.opening, "(", 0⟩, ⟨.name, "p", 1⟩, ⟨.name, "q", 3⟩] =
        .error (.misplaced ⟨some ⟨.name, "q", 3⟩, some .closing⟩) := by
    rw [readTokens_eq]
    rfl
  obtain ⟨k, hpulls, -, -, hexpected⟩ := expected_iff_viable_closing hread
  have hcount : (ofTokens Registry.standard
      [⟨.opening, "(", 0⟩, ⟨.name, "p", 1⟩, ⟨.name, "q", 3⟩]).cursor.pulls.length = 3 := by
    decide +kernel
  obtain rfl : k = 2 := by omega
  rcases hexpected ⟨.closing, ")", 2⟩ rfl with ⟨-, hviable⟩ | ⟨hnone, -⟩
  · exact ⟨hread, hviable⟩
  · contradiction

end Propositional.Reading
