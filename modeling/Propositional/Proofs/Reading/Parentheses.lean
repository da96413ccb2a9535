import Propositional.Proofs.Formula.Parenthesized
import Propositional.Proofs.Reading.Grammar

namespace Propositional

open Formula

theorem kind_of_sign_eq_mark {t : Token} {kind : TokenKind} (h : t.sign = .mark kind) :
    t.kind = kind := by
  unfold Token.sign at h
  split at h
  · contradiction
  · exact Sign.mark.inj h

theorem of_sign_eq_name {t : Token} {lexeme : String} (h : t.sign = .name lexeme) :
    t.kind = .name ∧ t.lexeme = lexeme := by
  unfold Token.sign at h
  split at h
  · next hkind => exact ⟨hkind, Sign.name.inj h⟩
  · contradiction

theorem sign_of_name {t : Token} (h : t.kind = .name) : t.sign = .name t.lexeme :=
  if_pos h

theorem sign_of_ne_name {t : Token} (h : t.kind ≠ .name) : t.sign = .mark t.kind :=
  if_neg h

namespace Reading

/-- The formula can be derived at the level without parentheses around it. -/
def FitsAt : Formula → Level → Prop
  | .binary _ _ _, .term => False
  | .binary _ c _, .above m => m < c.precedence
  | _, _ => True

theorem fitsAt_above_zero (f : Formula) : FitsAt f (.above 0) := by
  cases f with
  | atom name => trivial
  | unary u operand => trivial
  | binary left c right => exact c.precedence_pos

theorem FitsAt.above {f : Formula} (h : FitsAt f .term) (m : Nat) : FitsAt f (.above m) := by
  cases f with
  | atom name => trivial
  | unary u operand => trivial
  | binary left c right => exact h.elim

/-- Written with these pairs, the formula can be derived at the level. -/
def Stands (f : Formula) (pairs : Pairs) (level : Level) : Prop :=
  f.Sufficient pairs ∧ (0 < pairs [] ∨ FitsAt f level)

theorem sufficient_atom (name : String) (pairs : Pairs) : (atom name).Sufficient pairs := by
  rintro path ⟨⟩

theorem sufficient_unary_iff {u : UnaryConnective} {f : Formula} {pairs : Pairs} :
    (unary u f).Sufficient pairs ↔ Stands f (pairs.below .operand) .term := by
  constructor
  · intro h
    refine ⟨fun path hpath => h _ (.belowOperand hpath), ?_⟩
    cases f with
    | atom name => exact .inr trivial
    | unary u operand => exact .inr trivial
    | binary left c right => exact .inl (h _ .operand)
  · rintro ⟨hsufficient, hroot⟩ path hpath
    cases hpath with
    | operand => exact hroot.resolve_right id
    | belowOperand hneeds => exact hsufficient _ hneeds

theorem fitsAt_above_or (f : Formula) (m : Nat) :
    FitsAt f (.above m) ∨ ∃ left c right, f = .binary left c right ∧ c.precedence ≤ m := by
  cases f with
  | atom name => exact .inl trivial
  | unary u operand => exact .inl trivial
  | binary left c right =>
      rcases Nat.lt_or_ge m c.precedence with hfits | hle
      · exact .inl hfits
      · exact .inr ⟨left, c, right, rfl, hle⟩

theorem sufficient_binary_iff {f g : Formula} {b : BinaryConnective} {pairs : Pairs} :
    (binary f b g).Sufficient pairs ↔
      Stands f (pairs.below .left) (.above (b.precedence - 1)) ∧
        Stands g (pairs.below .right) (.above b.precedence) := by
  have hpos := b.precedence_pos
  constructor
  · intro h
    have hleft : f.Sufficient (pairs.below .left) := fun path hpath => h _ (.belowLeft hpath)
    have hright : g.Sufficient (pairs.below .right) := fun path hpath => h _ (.belowRight hpath)
    refine ⟨⟨hleft, ?_⟩, ⟨hright, ?_⟩⟩
    · rcases fitsAt_above_or f (b.precedence - 1) with hfits | ⟨_, c, _, rfl, hle⟩
      · exact .inr hfits
      · have hlt : c.precedence < b.precedence := by omega
        exact .inl (h _ (.left hlt))
    · rcases fitsAt_above_or g b.precedence with hfits | ⟨_, c, _, rfl, hle⟩
      · exact .inr hfits
      · exact .inl (h _ (.right hle))
  · rintro ⟨⟨hleft, hleftRoot⟩, hright, hrightRoot⟩ path hpath
    cases hpath with
    | left hlt =>
        rcases hleftRoot with hroot | hfits
        · exact hroot
        · have hfits' : b.precedence - 1 < _ := hfits
          omega
    | right hle =>
        rcases hrightRoot with hroot | hfits
        · exact hroot
        · exact (Nat.not_lt_of_le hle hfits).elim
    | belowLeft hneeds => exact hleft _ hneeds
    | belowRight hneeds => exact hright _ hneeds

section

variable {f : Formula} {pairs : Pairs} {level : Level} {w : List Token}

theorem Derives.ofTerm {registry : Registry} (h : Derives registry .term w f) (level : Level) :
    Derives registry level w f := by
  cases level with
  | term => exact h
  | above m => exact .term h

theorem exists_of_map_sign_parenthesized {n : Nat} {v : List Sign}
    (hw : w.map Token.sign = parenthesized (n + 1) v) :
    ∃ opening inner closing, w = [opening] ++ inner ++ [closing] ∧ opening.kind = .opening ∧
      closing.kind = .closing ∧ inner.map Token.sign = parenthesized n v := by
  obtain ⟨front, back, rfl, hfront, hback⟩ := List.map_eq_append_iff.mp hw
  obtain ⟨opening, inner, rfl, hopening, hinner⟩ := List.map_eq_cons_iff.mp hfront
  obtain ⟨closing, rest, rfl, hclosing, hrest⟩ := List.map_eq_cons_iff.mp hback
  obtain rfl := List.map_eq_nil_iff.mp hrest
  exact ⟨opening, inner, closing, rfl, kind_of_sign_eq_mark hopening,
    kind_of_sign_eq_mark hclosing, hinner⟩

/-- What holds of all that is written inside, and of a group when it holds of what is in the group,
holds whatever the number of parentheses. -/
theorem of_map_sign_parenthesized {P : List Token → Prop} {n : Nat} {v : List Sign}
    (hinside : ∀ w : List Token, w.map Token.sign = v → P w)
    (hgroup : ∀ {opening inner closing}, opening.kind = .opening → closing.kind = .closing →
      P inner → P ([opening] ++ inner ++ [closing]))
    (hw : w.map Token.sign = parenthesized n v) : P w := by
  induction n generalizing w with
  | zero => exact hinside w hw
  | succ n ih =>
      obtain ⟨opening, inner, closing, rfl, hopening, hclosing, hinner⟩ :=
        exists_of_map_sign_parenthesized hw
      exact hgroup hopening hclosing (ih hinner)

theorem derives_of_root {registry : Registry}
    (hinside : ∀ (level : Level) (w : List Token), FitsAt f level →
      w.map Token.sign = f.inside pairs → Derives registry level w f)
    (hroot : 0 < pairs [] ∨ FitsAt f level) (hw : w.map Token.sign = f.written pairs) :
    Derives registry level w f := by
  rw [written_eq] at hw
  rcases hn : pairs [] with _ | n
  · rw [hn] at hw hroot
    exact hinside level w (hroot.resolve_left (Nat.lt_irrefl 0)) hw
  · rw [hn] at hw
    obtain ⟨opening, inner, closing, rfl, hopening, hclosing, hinner⟩ :=
      exists_of_map_sign_parenthesized hw
    have hderives : Derives registry (.above 0) inner f :=
      of_map_sign_parenthesized (fun w => hinside _ w (fitsAt_above_zero f))
        (fun hopening hclosing h => .term (.group hopening h hclosing)) hinner
    exact .ofTerm (.group hopening hderives hclosing) level

theorem denotes_of_sign {t : Token} {c : Connective} (h : t.sign = .mark c.kind) :
    Registry.standard.Denotes t c :=
  ⟨c.mem_all, (kind_of_sign_eq_mark h).symm⟩

theorem derives_of_written (hstands : Stands f pairs level)
    (hw : w.map Token.sign = f.written pairs) : Derives Registry.standard level w f := by
  induction f generalizing pairs level w with
  | atom name =>
      refine derives_of_root (fun level w hfits hw => ?_) hstands.2 hw
      obtain ⟨t, rest, rfl, ht, hrest⟩ := List.map_eq_cons_iff.mp hw
      obtain rfl := List.map_eq_nil_iff.mp hrest
      obtain ⟨hkind, rfl⟩ := of_sign_eq_name ht
      exact .ofTerm (.name hkind) level
  | unary u operand ih =>
      refine derives_of_root (fun level w hfits hw => ?_) hstands.2 hw
      obtain ⟨t, rest, rfl, ht, hrest⟩ := List.map_eq_cons_iff.mp hw
      have hoperand := ih (sufficient_unary_iff.mp hstands.1) hrest
      exact .ofTerm (.unary (denotes_of_sign ht) hoperand) level
  | binary left b right ihLeft ihRight =>
      refine derives_of_root (fun level w hfits hw => ?_) hstands.2 hw
      obtain ⟨front, back, rfl, hfront, hback⟩ := List.map_eq_append_iff.mp hw
      obtain ⟨t, rest, rfl, ht, hrest⟩ := List.map_eq_cons_iff.mp hback
      obtain ⟨hstandsLeft, hstandsRight⟩ := sufficient_binary_iff.mp hstands.1
      cases level with
      | term => exact hfits.elim
      | above m =>
          rw [← List.singleton_append, ← List.append_assoc]
          exact .binary (denotes_of_sign ht) hfits (ihLeft hstandsLeft hfront)
            (ihRight hstandsRight hrest)

end

theorem written_node_succ (f : Formula) (pairs : Pairs) :
    f.written (Pairs.node (pairs [] + 1) pairs.below) =
      .mark .opening :: f.written pairs ++ [.mark .closing] := by
  cases f <;> rfl

section

variable {registry : Registry} {w w' : List Token} {f f' : Formula} {pairs pairs' : Pairs}

theorem map_sign_name {t : Token} (h : t.kind = .name) :
    [t].map Token.sign = (atom t.lexeme).written fun _ => 0 := by
  rw [List.map_singleton, sign_of_name h]
  rfl

theorem map_sign_group {opening closing : Token} (hopening : opening.kind = .opening)
    (hclosing : closing.kind = .closing) (hw : w.map Token.sign = f.written pairs) :
    ([opening] ++ w ++ [closing]).map Token.sign =
      f.written (.node (pairs [] + 1) pairs.below) := by
  have hopening' : opening.sign = .mark .opening := by
    rw [sign_of_ne_name (by simp [hopening]), hopening]
  have hclosing' : closing.sign = .mark .closing := by
    rw [sign_of_ne_name (by simp [hclosing]), hclosing]
  rw [List.map_append, List.map_append, List.map_singleton, List.map_singleton, hopening',
    hclosing', hw, written_node_succ]
  rfl

theorem map_sign_unary {t : Token} {u : UnaryConnective} (hu : registry.Denotes t (.unary u))
    (hw : w.map Token.sign = f.written pairs) :
    ([t] ++ w).map Token.sign = (unary u f).written (.node 0 fun _ => pairs) := by
  rw [List.map_append, List.map_singleton, sign_of_ne_name (ne_name_of_denotes hu), ← hu.2, hw]
  rfl

theorem map_sign_binary {t : Token} {b : BinaryConnective} (hb : registry.Denotes t (.binary b))
    (hw : w.map Token.sign = f.written pairs) (hw' : w'.map Token.sign = f'.written pairs') :
    (w ++ [t] ++ w').map Token.sign =
      (binary f b f').written (.node 0 fun side => if side = .left then pairs else pairs') := by
  rw [List.map_append, List.map_append, List.map_singleton,
    sign_of_ne_name (ne_name_of_denotes hb), ← hb.2, hw, hw', List.append_assoc]
  rfl

end

theorem exists_written_of_derives {registry : Registry} {level : Level} {w : List Token}
    {f : Formula} (h : Derives registry level w f) :
    ∃ pairs : Pairs, w.map Token.sign = f.written pairs ∧ Stands f pairs level := by
  induction h with
  | @name t hkind =>
      exact ⟨fun _ => 0, map_sign_name hkind, sufficient_atom t.lexeme _, .inr trivial⟩
  | @group opening closing w f hopening inner hclosing ih =>
      obtain ⟨pairs, hw, hsufficient, -⟩ := ih
      refine ⟨_, map_sign_group hopening hclosing hw, ?_, .inl (Nat.succ_pos _)⟩
      intro path hpath
      have hpos := hsufficient path hpath
      cases hpath <;> exact hpos
  | @unary t u w f hu operand ih =>
      obtain ⟨pairs, hw, hstands⟩ := ih
      exact ⟨_, map_sign_unary hu hw, sufficient_unary_iff.mpr hstands, .inr trivial⟩
  | term single ih =>
      obtain ⟨pairs, hw, hsufficient, hroot⟩ := ih
      exact ⟨pairs, hw, hsufficient, hroot.imp_right fun hfits => hfits.above _⟩
  | @binary m t b w₁ w₂ f₁ f₂ hb hm left right ihLeft ihRight =>
      obtain ⟨pairsLeft, hwLeft, hstandsLeft⟩ := ihLeft
      obtain ⟨pairsRight, hwRight, hstandsRight⟩ := ihRight
      exact ⟨_, map_sign_binary hb hwLeft hwRight,
        sufficient_binary_iff.mpr ⟨hstandsLeft, hstandsRight⟩, .inr hm⟩

/-- The groups that are open, each with the frames around it. -/
def openGroups : List Frame → List Frame
  | .right _ _ :: frames => openGroups frames
  | frames => frames

theorem openGroups_settle (next : Option BinaryConnective) (f : Formula) (frames : List Frame) :
    openGroups (settle next f frames).2 = openGroups frames := by
  fun_induction settle next f frames with
  | case1 f left b frames hexceeds => rfl
  | case2 f left b frames hexceeds ih => exact ih
  | case3 f frames hnot => rfl

theorem settle_none_snd (f : Formula) (frames : List Frame) :
    (settle none f frames).2 = openGroups frames := by
  rw [← openGroups_settle none f frames]
  rcases settle_none_cases f frames with ⟨g, hsettle⟩ | ⟨g, pending, outer, hsettle⟩
  · rw [hsettle]
    rfl
  · rw [hsettle]
    rfl

/-- From before a term the tokens lead to a stage after one, with the same groups open. -/
def Completes (w : List Token) : Prop :=
  ∀ pending frames, ∃ g outer,
    (Stage.beforeTerm pending frames).steps Registry.standard w = .ok (.afterTerm g outer) ∧
      openGroups outer = openGroups frames

theorem Completes.group {opening closing : Token} {w : List Token}
    (hopening : opening.kind = .opening) (hclosing : closing.kind = .closing)
    (hw : Completes w) : Completes ([opening] ++ w ++ [closing]) := by
  intro pending frames
  obtain ⟨g, outer, hsteps, houter⟩ := hw [] (.group pending :: frames)
  have hsettle : settle none g outer = ((settle none g outer).1, .group pending :: frames) :=
    Prod.ext rfl ((settle_none_snd g outer).trans houter)
  refine ⟨applyUnaries pending (settle none g outer).1, frames, ?_, rfl⟩
  rw [List.append_assoc, List.singleton_append,
    Stage.steps_cons_of_ok (Stage.step_of_moves (.opening hopening)), Stage.steps_append, hsteps]
  exact Stage.steps_cons_of_ok (Stage.step_of_moves (.closing hclosing hsettle)) []

theorem Completes.unary {t : Token} {u : UnaryConnective} {w : List Token} (hw : Completes w)
    (hu : Registry.standard.Denotes t (.unary u)) : Completes (t :: w) := by
  intro pending frames
  rw [Stage.steps_cons_of_ok (Stage.step_of_moves (.unary (Registry.unary?_eq_some_iff.mpr hu)))]
  exact hw (u :: pending) frames

theorem Completes.binary {t : Token} {b : BinaryConnective} {w w' : List Token} (hw : Completes w)
    (hb : Registry.standard.Denotes t (.binary b)) (hw' : Completes w') :
    Completes (w ++ t :: w') := by
  intro pending frames
  obtain ⟨g, outer, hsteps, houter⟩ := hw pending frames
  obtain ⟨g', outer', hsteps', houter'⟩ :=
    hw' [] (.right (settle (some b) g outer).1 b :: (settle (some b) g outer).2)
  refine ⟨g', outer', ?_, ?_⟩
  · rw [Stage.steps_append, hsteps]
    have hstep := Stage.step_of_moves (.binary (Registry.binary?_eq_some_iff.mpr hb) (Eq.refl
      (settle (some b) g outer)))
    exact (Stage.steps_cons_of_ok hstep w').trans hsteps'
  · rw [houter', openGroups, openGroups_settle, houter]

theorem completes_of_name {t : Token} (h : t.kind = .name) : Completes [t] := by
  intro pending frames
  exact ⟨_, frames, Stage.steps_cons_of_ok (Stage.step_of_moves (.name h)) [], rfl⟩

theorem completes_of_written {f : Formula} {pairs : Pairs} {w : List Token}
    (hw : w.map Token.sign = f.written pairs) : Completes w := by
  induction f generalizing pairs w with
  | atom name =>
      refine of_map_sign_parenthesized (fun w hw => ?_) Completes.group hw
      obtain ⟨t, rest, rfl, ht, hrest⟩ := List.map_eq_cons_iff.mp hw
      obtain rfl := List.map_eq_nil_iff.mp hrest
      exact completes_of_name (of_sign_eq_name ht).1
  | unary u operand ih =>
      refine of_map_sign_parenthesized (fun w hw => ?_) Completes.group hw
      obtain ⟨t, rest, rfl, ht, hrest⟩ := List.map_eq_cons_iff.mp hw
      exact (ih hrest).unary (u := u) (denotes_of_sign ht)
  | binary left b right ihLeft ihRight =>
      refine of_map_sign_parenthesized (fun w hw => ?_) Completes.group hw
      obtain ⟨front, back, rfl, hfront, hback⟩ := List.map_eq_append_iff.mp hw
      obtain ⟨t, rest, rfl, ht, hrest⟩ := List.map_eq_cons_iff.mp hback
      exact (ihLeft hfront).binary (b := b) (denotes_of_sign ht) (ihRight hrest)

theorem exists_readTokens_of_completes {w : List Token} (hw : Completes w) :
    ∃ g, Formula.readTokens Registry.standard w = .ok g := by
  obtain ⟨g, outer, hsteps, houter⟩ := hw [] []
  refine ⟨(settle none g outer).1, readTokens_eq_ok_iff.mpr ⟨_, hsteps, ?_⟩⟩
  have hsettle : settle none g outer = ((settle none g outer).1, []) :=
    Prod.ext rfl ((settle_none_snd g outer).trans houter)
  rw [Stage.finish, hsettle]

theorem sufficient_iff_derives {f : Formula} {pairs : Pairs} {w : List Token}
    (hw : w.map Token.sign = f.written pairs) :
    Derives Registry.standard (.above 0) w f ↔ f.Sufficient pairs := by
  constructor
  · intro hderives
    obtain ⟨pairs', hw', hsufficient, -⟩ := exists_written_of_derives hderives
    intro path hpath
    rw [eq_of_written_eq (hw.symm.trans hw') hpath]
    exact hsufficient path hpath
  · intro hsufficient
    exact derives_of_written ⟨hsufficient, .inr (fitsAt_above_zero f)⟩ hw

/-- A formula written with pairs of parentheses is read back exactly if every node that needs a pair
has one. If a node lacks it, what is written is read as another formula. -/
theorem readTokens_written_iff_sufficient {f : Formula} {pairs : Pairs} {ts : List Token}
    (hts : ts.map Token.sign = f.written pairs) :
    (Formula.readTokens Registry.standard ts = .ok f ↔
        ∀ path, f.NeedsPair path → 0 < pairs path) ∧
      ((∃ path, f.NeedsPair path ∧ pairs path = 0) →
        ∃ g, Formula.readTokens Registry.standard ts = .ok g ∧ g ≠ f) := by
  have hiff : Formula.readTokens Registry.standard ts = .ok f ↔ f.Sufficient pairs := by
    rw [readTokens_eq_ok_iff, steps_iff_derives, sufficient_iff_derives hts]
  refine ⟨hiff, ?_⟩
  rintro ⟨path, hpath, hzero⟩
  obtain ⟨g, hg⟩ := exists_readTokens_of_completes (completes_of_written hts)
  refine ⟨g, hg, ?_⟩
  rintro rfl
  have hpos := hiff.mp hg path hpath
  omega

theorem readTokens_written_of_implication_under_conjunction :
    Formula.readTokens Registry.standard
        [⟨.name, "A", 0⟩, ⟨.conjunction, "&", 2⟩, ⟨.opening, "(", 4⟩, ⟨.name, "B", 5⟩,
          ⟨.implication, ">", 7⟩, ⟨.name, "C", 9⟩, ⟨.closing, ")", 10⟩] =
      .ok (.binary (.atom "A") .conjunction (.binary (.atom "B") .implication (.atom "C"))) ∧
    ∃ g, Formula.readTokens Registry.standard
        [⟨.name, "A", 0⟩, ⟨.conjunction, "&", 2⟩, ⟨.name, "B", 4⟩, ⟨.implication, ">", 6⟩,
          ⟨.name, "C", 8⟩] = .ok g ∧
      g ≠ .binary (.atom "A") .conjunction (.binary (.atom "B") .implication (.atom "C")) := by
  let f : Formula := .binary (.atom "A") .conjunction (.binary (.atom "B") .implication (.atom "C"))
  let paired : Pairs := fun path => if path = [.right] then 1 else 0
  have hneeds : ∀ path, NeedsPair (.binary (.atom "A") .conjunction
      (.binary (.atom "B") .implication (.atom "C"))) path → path = [.right] := by
    intro path hpath
    cases hpath with
    | right hle => rfl
    | belowLeft hbelow => cases hbelow
    | belowRight hbelow =>
        cases hbelow with
        | belowLeft hbelow => cases hbelow
        | belowRight hbelow => cases hbelow
  have hpaired : [⟨.name, "A", 0⟩, ⟨.conjunction, "&", 2⟩, ⟨.opening, "(", 4⟩, ⟨.name, "B", 5⟩,
      ⟨.implication, ">", 7⟩, ⟨.name, "C", 9⟩, ⟨.closing, ")", 10⟩].map Token.sign =
        f.written paired := rfl
  have hbare : [⟨.name, "A", 0⟩, ⟨.conjunction, "&", 2⟩, ⟨.name, "B", 4⟩, ⟨.implication, ">", 6⟩,
      ⟨.name, "C", 8⟩].map Token.sign = f.written fun _ => 0 := rfl
  constructor
  · refine (readTokens_written_iff_sufficient hpaired).1.mpr ?_
    intro path hpath
    rw [hneeds path hpath]
    exact Nat.one_pos
  · exact (readTokens_written_iff_sufficient hbare).2 ⟨[.right], .right (by decide), rfl⟩

end Reading

end Propositional
