import Propositional.Proofs.Reading.Run

/-!
The grammar that a reader accepts. A binary formula above a minimum has a connective whose precedence
exceeds it, a left operand above the precedence less one, and a right operand above the precedence.
Reading a list of tokens gives a formula exactly when the grammar derives it from the list, so the
grammar derives at most one.
-/

namespace Propositional

def Registry.Denotes (registry : Registry) (t : Token) (c : Connective) : Prop :=
  c ∈ registry.entries ∧ c.kind = t.kind

namespace Reading

inductive Level where
  | term
  | above (m : Nat)
  deriving DecidableEq, Repr

/-- The grammar of a registry: which tokens, in order, stand for which formula. -/
inductive Derives (registry : Registry) : Level → List Token → Formula → Prop where
  | name {t} (hkind : t.kind = .name) : Derives registry .term [t] (.atom t.lexeme)
  | group {opening closing w f} (hopening : opening.kind = .opening)
      (inner : Derives registry (.above 0) w f) (hclosing : closing.kind = .closing) :
      Derives registry .term ([opening] ++ w ++ [closing]) f
  | unary {t u w f} (hu : registry.Denotes t (.unary u)) (operand : Derives registry .term w f) :
      Derives registry .term ([t] ++ w) (.unary u f)
  | term {m w f} (single : Derives registry .term w f) : Derives registry (.above m) w f
  | binary {m t b w₁ w₂ f₁ f₂} (hb : registry.Denotes t (.binary b)) (hm : m < b.precedence)
      (left : Derives registry (.above (b.precedence - 1)) w₁ f₁)
      (right : Derives registry (.above b.precedence) w₂ f₂) :
      Derives registry (.above m) (w₁ ++ [t] ++ w₂) (.binary f₁ b f₂)

variable {registry : Registry}

/-- The tokens stand for pending unary connectives: together with a term they make a term. -/
def Prefixes (registry : Registry) (pending : List UnaryConnective) (ws : List Token) : Prop :=
  ∀ w f, Derives registry .term w f → Derives registry .term (ws ++ w) (applyUnaries pending f)

inductive Encloses (registry : Registry) : List Frame → List Token → Prop where
  | nil : Encloses registry [] []
  | right {frames w₀ w₁ left t b} (outer : Encloses registry frames w₀)
      (hm : minimum frames < b.precedence)
      (operand : Derives registry (.above (b.precedence - 1)) w₁ left)
      (hb : registry.Denotes t (.binary b)) :
      Encloses registry (.right left b :: frames) (w₀ ++ w₁ ++ [t])
  | group {frames w₀ ws pending t} (outer : Encloses registry frames w₀)
      (hpending : Prefixes registry pending ws) (hkind : t.kind = .opening) :
      Encloses registry (.group pending :: frames) (w₀ ++ ws ++ [t])

def Stage.HasRead (registry : Registry) : Stage → List Token → Prop
  | .beforeTerm pending frames, w =>
      ∃ w₀ ws, w = w₀ ++ ws ∧ Encloses registry frames w₀ ∧ Prefixes registry pending ws
  | .afterTerm f frames, w =>
      ∃ w₀ w₁, w = w₀ ++ w₁ ∧ Encloses registry frames w₀ ∧ Derives registry .term w₁ f

theorem hasRead_start : Stage.start.HasRead registry [] :=
  ⟨[], [], rfl, .nil, fun _ _ h => h⟩

/-- The formula fits wherever the innermost climb or the connective ahead may put it. -/
def Fits (registry : Registry) (next : Option BinaryConnective) (frames : List Frame)
    (w : List Token) (f : Formula) : Prop :=
  ∀ m, m ≤ minimum frames ∨ Exceeds next m → Derives registry (.above m) w f

theorem fits_of_term {next : Option BinaryConnective} {frames : List Frame} {w : List Token}
    {f : Formula} (h : Derives registry .term w f) : Fits registry next frames w f :=
  fun _ _ => .term h

/-- Settling regroups what has been read: tokens of the frames it leaves, and the rest. -/
theorem exists_encloses_settle (next : Option BinaryConnective) {f : Formula}
    {frames : List Frame} {w₀ w₁ : List Token} (hframes : Encloses registry frames w₀)
    (hf : Fits registry next frames w₁ f) :
    ∃ w₀' w₁', w₀ ++ w₁ = w₀' ++ w₁' ∧ Encloses registry (settle next f frames).2 w₀' ∧
      Fits registry next (settle next f frames).2 w₁' (settle next f frames).1 := by
  induction hframes generalizing f w₁ with
  | nil => exact ⟨[], w₁, rfl, .nil, hf⟩
  | group outer hpending hkind => exact ⟨_, w₁, rfl, .group outer hpending hkind, hf⟩
  | @right frames w₀ w left t b outer hm operand hb ih =>
      by_cases hnext : Exceeds next b.precedence
      · rw [settle, if_pos hnext]
        exact ⟨_, w₁, rfl, .right outer hm operand hb, hf⟩
      · rw [settle, if_neg hnext]
        -- Whatever may take the joined formula has a lower minimum than the connective that joins it.
        have hjoined : Fits registry next frames (w ++ [t] ++ w₁) (.binary left b f) := by
          intro m hlow
          have hlt : m < b.precedence := by
            rcases hlow with hle | ⟨d, rfl, hd⟩
            · omega
            · rw [exceeds_some_iff] at hnext
              omega
          exact .binary hb hlt operand (hf b.precedence (.inl (Nat.le_refl _)))
        obtain ⟨w₀', w₁', hsplit, hrest⟩ := ih hjoined
        refine ⟨w₀', w₁', ?_, hrest⟩
        rw [← hsplit]
        simp

theorem hasRead_of_step {s next : Stage} {t : Token} {w : List Token}
    (hs : s.HasRead registry w) (h : s.step registry t = .ok next) :
    next.HasRead registry (w ++ [t]) := by
  rcases Stage.step_eq_ok_iff.mp h with hkind | hkind | hu | ⟨hb, hsettle⟩ | ⟨hkind, hsettle⟩
  · obtain ⟨w₀, ws, rfl, hframes, hpending⟩ := hs
    exact ⟨w₀, ws ++ [t], by simp, hframes, hpending _ _ (.name hkind)⟩
  · obtain ⟨w₀, ws, rfl, hframes, hpending⟩ := hs
    exact ⟨_, [], (List.append_nil _).symm, .group hframes hpending hkind, fun _ _ h => h⟩
  · obtain ⟨w₀, ws, rfl, hframes, hpending⟩ := hs
    refine ⟨w₀, ws ++ [t], by simp, hframes, ?_⟩
    intro w f hf
    have hunary := hpending _ _ (.unary (Registry.unary?_eq_some_iff.mp hu) hf)
    simpa using hunary
  · rename_i f g frames outer b
    obtain ⟨w₀, w₁, rfl, hframes, hf⟩ := hs
    obtain ⟨w₀', w₁', hsplit, houter, hg⟩ :=
      exists_encloses_settle (some b) hframes (fits_of_term hf)
    have hm := minimum_settle_lt b f frames
    rw [hsettle] at houter hg hm
    have hleft : Derives registry (.above (b.precedence - 1)) w₁' g := by
      refine hg _ (.inr ((exceeds_some_iff b _).mpr ?_))
      have := b.precedence_pos
      omega
    refine ⟨w₀' ++ w₁' ++ [t], [], by rw [hsplit]; simp, ?_, fun _ _ h => h⟩
    exact .right houter hm hleft (Registry.binary?_eq_some_iff.mp hb)
  · obtain ⟨w₀, w₁, rfl, hframes, hf⟩ := hs
    obtain ⟨w₀', w₁', hsplit, houter, hg⟩ :=
      exists_encloses_settle none hframes (fits_of_term hf)
    rw [hsettle] at houter hg
    rcases houter with _ | _ | ⟨houter, hpending, hopening⟩
    rename_i w₂ ws opening
    have hgroup := hpending _ _ (.group hopening (hg 0 (.inl (Nat.le_refl _))) hkind)
    exact ⟨w₂, _, by rw [hsplit]; simp, houter, hgroup⟩

theorem hasRead_of_steps {s next : Stage} {w ts : List Token} (hs : s.HasRead registry w)
    (h : s.steps registry ts = .ok next) : next.HasRead registry (w ++ ts) := by
  induction ts generalizing s w with
  | nil =>
      rw [Stage.steps_nil, Except.ok.injEq] at h
      rwa [List.append_nil, ← h]
  | cons t rest ih =>
      rcases hstep : s.step registry t with fault | mid
      · rw [Stage.steps_cons_of_error hstep] at h
        contradiction
      · rw [Stage.steps_cons_of_ok hstep] at h
        simpa using ih (hasRead_of_step hs hstep) h

theorem derives_of_finish {s : Stage} {w : List Token} {f : Formula}
    (hs : s.HasRead registry w) (h : s.finish = .ok f) : Derives registry (.above 0) w f := by
  rcases s with ⟨pending, frames⟩ | ⟨g, frames⟩
  · contradiction
  · obtain ⟨w₀, w₁, rfl, hframes, hg⟩ := hs
    obtain ⟨w₀', w₁', hsplit, houter, hfits⟩ :=
      exists_encloses_settle none hframes (fits_of_term hg)
    rw [Stage.finish] at h
    rcases settle_none_cases g frames with ⟨g', hsettle⟩ | ⟨g', pending, outer, hsettle⟩
    · rw [hsettle] at h houter hfits
      rcases houter with _ | _ | _
      rw [hsplit, ← Except.ok.inj h]
      exact hfits 0 (.inl (Nat.le_refl _))
    · rw [hsettle] at h
      contradiction

/-- What a derivation promises of every stage from which its tokens are read. A formula above a
minimum may still have joins to make, but settling makes them as if it had been a term. -/
def Reads (registry : Registry) : Level → List Token → Formula → Prop
  | .term, w, f =>
      ∀ pending frames, (Stage.beforeTerm pending frames).steps registry w =
        .ok (.afterTerm (applyUnaries pending f) frames)
  | .above m, w, f =>
      ∀ frames, minimum frames ≤ m →
        ∃ g outer, (Stage.beforeTerm [] frames).steps registry w = .ok (.afterTerm g outer) ∧
          ∀ next, ¬ Exceeds next (m + 1) → settle next g outer = settle next f frames

/-- A connective settles all of its left operand, and nothing that surrounds it. -/
theorem settle_left_operand {b : BinaryConnective} {f g : Formula} {frames outer : List Frame}
    (hframes : minimum frames < b.precedence)
    (hsettle : ∀ next, ¬ Exceeds next (b.precedence - 1 + 1) →
      settle next g outer = settle next f frames) :
    settle (some b) g outer = (f, frames) := by
  rw [hsettle _ (by rw [exceeds_some_iff]; omega)]
  exact settle_of_exceeds ((exceeds_some_iff _ _).mpr hframes)

theorem reads_of_derives {level : Level} {w : List Token} {f : Formula}
    (h : Derives registry level w f) : Reads registry level w f := by
  induction h with
  | name hkind =>
      intro pending frames
      exact Stage.steps_cons_of_ok (Stage.step_of_moves (.name hkind)) []
  | @group opening closing w f hopening inner hclosing ih =>
      intro pending frames
      obtain ⟨g, outer, hsteps, hsettle⟩ := ih (.group pending :: frames) (Nat.zero_le _)
      have hclose : (Stage.afterTerm g outer).step registry closing =
          .ok (.afterTerm (applyUnaries pending f) frames) :=
        Stage.step_of_moves (.closing hclosing (hsettle none (not_exceeds_none _)))
      rw [List.append_assoc, List.singleton_append,
        Stage.steps_cons_of_ok (Stage.step_of_moves (.opening hopening)),
        Stage.steps_append_of_ok hsteps]
      exact Stage.steps_cons_of_ok hclose []
  | unary hu operand ih =>
      intro pending frames
      rw [List.singleton_append, Stage.steps_cons_of_ok
        (Stage.step_of_moves (.unary (Registry.unary?_eq_some_iff.mpr hu)))]
      exact ih _ frames
  | term single ih =>
      intro frames hframes
      exact ⟨_, frames, ih [] frames, fun _ _ => rfl⟩
  | @binary m t b w₁ w₂ f₁ f₂ hb hm left right ihLeft ihRight =>
      intro frames hframes
      obtain ⟨g₁, outer₁, hsteps₁, hsettle₁⟩ := ihLeft frames (by omega)
      obtain ⟨g₂, outer₂, hsteps₂, hsettle₂⟩ := ihRight (.right f₁ b :: frames) (Nat.le_refl _)
      have htake : settle (some b) g₁ outer₁ = (f₁, frames) :=
        settle_left_operand (by omega) hsettle₁
      have hstep : (Stage.afterTerm g₁ outer₁).step registry t =
          .ok (.beforeTerm [] (.right f₁ b :: frames)) :=
        Stage.step_of_moves (.binary (Registry.binary?_eq_some_iff.mpr hb) htake)
      refine ⟨g₂, outer₂, ?_, ?_⟩
      · rw [List.append_assoc, List.singleton_append, Stage.steps_append_of_ok hsteps₁,
          Stage.steps_cons_of_ok hstep, hsteps₂]
      · intro next hnext
        have hjoin : ¬ Exceeds next b.precedence := by
          rintro ⟨d, rfl, hd⟩
          exact hnext ((exceeds_some_iff _ _).mpr (by omega))
        rw [hsettle₂ next (fun h => hjoin (h.mono (by omega))), settle, if_neg hjoin]

theorem steps_of_derives {w : List Token} {f : Formula} (h : Derives registry (.above 0) w f) :
    ∃ s, Stage.start.steps registry w = .ok s ∧ s.finish = .ok f := by
  obtain ⟨g, outer, hsteps, hsettle⟩ := reads_of_derives h [] (Nat.le_refl _)
  refine ⟨.afterTerm g outer, hsteps, ?_⟩
  rw [Stage.finish, hsettle none (not_exceeds_none _)]
  rfl

theorem steps_iff_derives {w : List Token} {f : Formula} :
    (∃ s, Stage.start.steps registry w = .ok s ∧ s.finish = .ok f) ↔
      Derives registry (.above 0) w f := by
  constructor
  · rintro ⟨s, hsteps, hfinish⟩
    exact derives_of_finish (hasRead_of_steps hasRead_start hsteps) hfinish
  · exact steps_of_derives

/-- The lexemes of the names in a list of tokens, in order. -/
def nameLexemes (w : List Token) : List String :=
  (w.filter fun t => t.kind = .name).map Token.lexeme

@[simp] theorem nameLexemes_append (w w' : List Token) :
    nameLexemes (w ++ w') = nameLexemes w ++ nameLexemes w' := by
  simp [nameLexemes]

theorem nameLexemes_of_name {t : Token} (h : t.kind = .name) : nameLexemes [t] = [t.lexeme] := by
  simp [nameLexemes, h]

theorem nameLexemes_of_ne {t : Token} (h : t.kind ≠ .name) : nameLexemes [t] = [] := by
  simp [nameLexemes, h]

theorem ne_name_of_denotes {t : Token} {c : Connective} (h : registry.Denotes t c) :
    t.kind ≠ .name := by
  rw [← h.2]
  rcases c with (_ | _) | (_ | _ | _) <;> exact TokenKind.noConfusion

theorem leaves_of_derives {level : Level} {w : List Token} {f : Formula}
    (h : Derives registry level w f) : f.leaves = nameLexemes w := by
  induction h with
  | name hkind => rw [nameLexemes_of_name hkind, Formula.leaves]
  | @group opening closing w f hopening inner hclosing ih =>
      have hopening' : nameLexemes [opening] = [] := nameLexemes_of_ne (by simp [hopening])
      have hclosing' : nameLexemes [closing] = [] := nameLexemes_of_ne (by simp [hclosing])
      rw [nameLexemes_append, nameLexemes_append, hopening', hclosing', ih, List.nil_append,
        List.append_nil]
  | unary hu operand ih =>
      rw [nameLexemes_append, nameLexemes_of_ne (ne_name_of_denotes hu), Formula.leaves, ih,
        List.nil_append]
  | term single ih => exact ih
  | binary hb hm left right ihLeft ihRight =>
      rw [nameLexemes_append, nameLexemes_append, nameLexemes_of_ne (ne_name_of_denotes hb),
        Formula.leaves, ihLeft, ihRight, List.append_nil]

/-- A list of tokens is read as the formula that the grammar derives from it. It derives at most
one, and where it derives none, reading ends with a syntax error. -/
theorem readTokens_iff_derives (registry : Registry) (ts : List Token) :
    (∀ f, Formula.readTokens registry ts = .ok f ↔ Derives registry (.above 0) ts f) ∧
      (∀ f g, Derives registry (.above 0) ts f → Derives registry (.above 0) ts g → f = g) ∧
      ((∃ fault, Formula.readTokens registry ts = .error (.misplaced fault)) ↔
        ∀ f, ¬ Derives registry (.above 0) ts f) := by
  have hread : ∀ f, Formula.readTokens registry ts = .ok f ↔ Derives registry (.above 0) ts f := by
    intro f
    rw [readTokens_eq_ok_iff, steps_iff_derives]
  refine ⟨hread, ?_, ?_⟩
  · intro f g hf hg
    have hsame := ((hread f).mpr hf).symm.trans ((hread g).mpr hg)
    exact Except.ok.inj hsame
  · constructor
    · rintro ⟨fault, herror⟩ f hf
      have hok := (hread f).mpr hf
      rw [herror] at hok
      contradiction
    · intro hnone
      rcases readTokens_ok_or_misplaced registry ts with ⟨f, hf⟩ | hfault
      · exact (hnone f ((hread f).mp hf)).elim
      · exact hfault

end Reading

end Propositional
