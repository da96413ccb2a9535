import Mathlib.Data.List.Forall2
import Propositional.Proofs.Reading.Run

namespace Propositional.Reading

/-- The connectives take related operands to related formulas. -/
structure Preserved (R : Formula → Formula → Prop) : Prop where
  unary : ∀ (u : UnaryConnective) {f g : Formula}, R f g → R (.unary u f) (.unary u g)
  binary : ∀ (b : BinaryConnective) {f f' g g' : Formula}, R f f' → R g g' →
    R (.binary f b g) (.binary f' b g')

/-- The frames differ at most in their formulas, and these are related. -/
inductive Frame.Related (R : Formula → Formula → Prop) : Frame → Frame → Prop where
  | right {left left'} (b : BinaryConnective) (hleft : R left left') :
      Frame.Related R (.right left b) (.right left' b)
  | group (outer : List UnaryConnective) : Frame.Related R (.group outer) (.group outer)

inductive Stage.Related (R : Formula → Formula → Prop) : Stage → Stage → Prop where
  | beforeTerm (pending : List UnaryConnective) {frames frames'}
      (hframes : List.Forall₂ (Frame.Related R) frames frames') :
      Stage.Related R (.beforeTerm pending frames) (.beforeTerm pending frames')
  | afterTerm {f f' frames frames'} (hf : R f f')
      (hframes : List.Forall₂ (Frame.Related R) frames frames') :
      Stage.Related R (.afterTerm f frames) (.afterTerm f' frames')

/-- The tokens are of one kind and, if they are names, stand for related atoms. -/
def TokenRelated (R : Formula → Formula → Prop) (t t' : Token) : Prop :=
  t.kind = t'.kind ∧ (t.kind = .name → R (.atom t.lexeme) (.atom t'.lexeme))

variable {R : Formula → Formula → Prop} {registry : Registry}

theorem related_start : Stage.start.Related R .start :=
  .beforeTerm [] .nil

theorem applyUnaries_related (hR : Preserved R) {f f' : Formula} (hf : R f f')
    (pending : List UnaryConnective) : R (applyUnaries pending f) (applyUnaries pending f') := by
  induction pending generalizing f f' with
  | nil => exact hf
  | cons u pending ih => exact ih (hR.unary u hf)

theorem settle_related (hR : Preserved R) (next : Option BinaryConnective) {f f' : Formula}
    {frames frames' : List Frame} (hf : R f f')
    (hframes : List.Forall₂ (Frame.Related R) frames frames') :
    R (settle next f frames).1 (settle next f' frames').1 ∧
      List.Forall₂ (Frame.Related R) (settle next f frames).2 (settle next f' frames').2 := by
  induction hframes generalizing f f' with
  | nil => exact ⟨hf, .nil⟩
  | cons hframe hframes ih =>
      cases hframe with
      | group outer => exact ⟨hf, .cons (.group outer) hframes⟩
      | right b hleft =>
          by_cases hnext : Exceeds next b.precedence
          · simp only [settle, if_pos hnext]
            exact ⟨hf, .cons (.right b hleft) hframes⟩
          · simp only [settle, if_neg hnext]
            exact ih (hR.binary b hleft hf)

/-- Related stages take related tokens to related stages, or refuse both expecting the same. -/
theorem step_related (registry : Registry) (hR : Preserved R) {s s' : Stage} (hs : s.Related R s')
    {t t' : Token} (ht : TokenRelated R t t') :
    (∃ next next', s.step registry t = .ok next ∧ s'.step registry t' = .ok next' ∧
        next.Related R next') ∨
      ∃ expected, s.step registry t = .error ⟨some t, expected⟩ ∧
        s'.step registry t' = .error ⟨some t', expected⟩ := by
  obtain ⟨hkind, hname⟩ := ht
  have hunary : registry.unary? (some t) = registry.unary? (some t') := by
    simp only [Registry.unary?, Option.bind_some, hkind]
  have hbinary : registry.binary? (some t) = registry.binary? (some t') := by
    simp only [Registry.binary?, Option.bind_some, hkind]
  cases hs with
  | beforeTerm pending hframes =>
      simp only [Stage.step, hunary, ← hkind]
      by_cases htname : t.kind = .name
      · rw [if_pos htname, if_pos htname]
        exact .inl ⟨_, _, rfl, rfl, .afterTerm (applyUnaries_related hR (hname htname) _) hframes⟩
      by_cases hopening : t.kind = .opening
      · rw [if_neg htname, if_pos hopening, if_neg htname, if_pos hopening]
        exact .inl ⟨_, _, rfl, rfl, .beforeTerm [] (.cons (.group pending) hframes)⟩
      rw [if_neg htname, if_neg hopening, if_neg htname, if_neg hopening]
      rcases registry.unary? (some t') with _ | u
      · exact .inr ⟨_, rfl, rfl⟩
      · exact .inl ⟨_, _, rfl, rfl, .beforeTerm _ hframes⟩
  | @afterTerm f f' frames frames' hf hframes =>
      obtain ⟨hg, houter⟩ := settle_related hR (registry.binary? (some t')) hf hframes
      simp only [Stage.step, hbinary, ← hkind]
      generalize settle (registry.binary? (some t')) f frames = settled at hg houter
      generalize settle (registry.binary? (some t')) f' frames' = settled' at hg houter
      obtain ⟨g, outer⟩ := settled
      obtain ⟨g', outer'⟩ := settled'
      rcases registry.binary? (some t') with _ | b
      · rcases houter with _ | ⟨hframe, houter⟩
        · exact .inr ⟨_, rfl, rfl⟩
        · cases hframe with
          | right b hleft => exact .inr ⟨_, rfl, rfl⟩
          | group pending =>
              by_cases hclosing : t.kind = .closing
              · simp only [if_pos hclosing]
                exact .inl ⟨_, _, rfl, rfl,
                  .afterTerm (applyUnaries_related hR hg pending) houter⟩
              · simp only [if_neg hclosing]
                exact .inr ⟨_, rfl, rfl⟩
      · exact .inl ⟨_, _, rfl, rfl, .beforeTerm [] (.cons (.right b hg) houter)⟩

theorem steps_related (registry : Registry) (hR : Preserved R) {s s' : Stage} (hs : s.Related R s')
    {ts ts' : List Token} (hts : List.Forall₂ (TokenRelated R) ts ts') :
    (∃ last last', s.steps registry ts = .ok last ∧ s'.steps registry ts' = .ok last' ∧
        last.Related R last') ∨
      ∃ (i : Nat) (t t' : Token) (expected : Option TokenKind),
        ts[i]? = some t ∧ ts'[i]? = some t' ∧
          s.steps registry ts = .error ⟨some t, expected⟩ ∧
          s'.steps registry ts' = .error ⟨some t', expected⟩ := by
  induction hts generalizing s s' with
  | nil => exact .inl ⟨s, s', rfl, rfl, hs⟩
  | @cons t t' rest rest' ht hrest ih =>
      rcases step_related registry hR hs ht with
        ⟨next, next', hstep, hstep', hnext⟩ | ⟨expected, hstep, hstep'⟩
      · rw [Stage.steps_cons_of_ok hstep, Stage.steps_cons_of_ok hstep']
        rcases ih hnext with hok | ⟨i, u, u', expected, hu, hu', herror, herror'⟩
        · exact .inl hok
        · exact .inr ⟨i + 1, u, u', expected, hu, hu', herror, herror'⟩
      · exact .inr ⟨0, t, t', expected, rfl, rfl, Stage.steps_cons_of_error hstep _,
          Stage.steps_cons_of_error hstep' _⟩

theorem finish_related (hR : Preserved R) {s s' : Stage} (hs : s.Related R s') :
    (∃ f f', s.finish = .ok f ∧ s'.finish = .ok f' ∧ R f f') ∨
      ∃ expected, s.finish = .error ⟨none, expected⟩ ∧ s'.finish = .error ⟨none, expected⟩ := by
  cases hs with
  | beforeTerm pending hframes => exact .inr ⟨none, rfl, rfl⟩
  | @afterTerm f f' frames frames' hf hframes =>
      obtain ⟨hg, houter⟩ := settle_related hR none hf hframes
      simp only [Stage.finish]
      generalize settle none f frames = settled at hg houter
      generalize settle none f' frames' = settled' at hg houter
      obtain ⟨g, outer⟩ := settled
      obtain ⟨g', outer'⟩ := settled'
      rcases houter with _ | ⟨hframe, houter⟩
      · exact .inl ⟨g, g', rfl, rfl, hg⟩
      · cases hframe with
        | right b hleft => exact .inl ⟨g, g', rfl, rfl, hg⟩
        | group pending => exact .inr ⟨some .closing, rfl, rfl⟩

/-- The same tokens lead from related stages to related formulas, or to the same fault. -/
theorem readTokens_append_related (hR : Preserved R) {us us' ts : List Token} {s s' : Stage}
    (hus : Stage.start.steps registry us = .ok s) (hus' : Stage.start.steps registry us' = .ok s')
    (hs : s.Related R s') (hts : List.Forall₂ (TokenRelated R) ts ts) :
    (∃ f f', Formula.readTokens registry (us ++ ts) = .ok f ∧
        Formula.readTokens registry (us' ++ ts) = .ok f' ∧ R f f') ∨
      ∃ fault, Formula.readTokens registry (us ++ ts) = .error (.misplaced fault) ∧
        Formula.readTokens registry (us' ++ ts) = .error (.misplaced fault) ∧
        ∀ t, fault.found = some t → t ∈ ts := by
  simp only [readTokens_eq_ok_iff, readTokens_eq_misplaced_iff, Stage.steps_append, hus, hus']
  rcases steps_related registry hR hs hts with
    ⟨last, last', hlast, hlast', hrelated⟩ | ⟨i, t, t', expected, ht, ht', herror, herror'⟩
  · rcases finish_related hR hrelated with ⟨f, f', hf, hf', hff⟩ | ⟨expected, hend, hend'⟩
    · exact .inl ⟨f, f', ⟨last, hlast, hf⟩, ⟨last', hlast', hf'⟩, hff⟩
    · exact .inr ⟨_, .inr ⟨last, hlast, hend⟩, .inr ⟨last', hlast', hend'⟩,
        fun t h => nomatch h⟩
  · obtain rfl : t = t' := Option.some.inj (ht.symm.trans ht')
    refine .inr ⟨_, .inl herror, .inl herror', ?_⟩
    rintro u ⟨⟩
    exact List.mem_of_getElem? ht

end Propositional.Reading
