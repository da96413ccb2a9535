import Propositional.Proofs.Reading.Grammar
import Propositional.Proofs.Reading.Parametric

namespace Propositional

/-- Replace the atoms of one name by a formula. -/
def Formula.replace (f : Formula) (name : String) (inner : Formula) : Formula :=
  match f with
  | atom other => if other = name then inner else atom other
  | unary c operand => unary c (operand.replace name inner)
  | binary left c right => binary (left.replace name inner) c (right.replace name inner)

namespace Reading

variable {registry : Registry}

def Replaced (name : String) (inner : Formula) (f g : Formula) : Prop :=
  g = f.replace name inner

theorem preserved_replaced (name : String) (inner : Formula) : Preserved (Replaced name inner) where
  unary := by
    rintro u f g rfl
    rfl
  binary := by
    rintro b f f' g g' rfl rfl
    rfl

/-- None of the tokens is a name with this lexeme. -/
def Fresh (name : String) (ts : List Token) : Prop :=
  ∀ t ∈ ts, t.kind = .name → t.lexeme ≠ name

theorem tokensRelated_of_fresh {name : String} {ts : List Token} (h : Fresh name ts)
    (inner : Formula) : List.Forall₂ (TokenRelated (Replaced name inner)) ts ts := by
  rw [List.forall₂_same]
  intro t ht
  refine ⟨rfl, ?_⟩
  intro hkind
  exact (if_neg (h t ht hkind)).symm

theorem count_nameLexemes_of_fresh {name : String} {ts : List Token} (h : Fresh name ts) :
    (nameLexemes ts).count name = 0 := by
  rw [List.count_eq_zero]
  intro hmem
  obtain ⟨t, ht, hlexeme⟩ := List.mem_map.mp hmem
  rw [List.mem_filter] at ht
  exact h t ht.1 (of_decide_eq_true ht.2) hlexeme

theorem ne_of_mem_fresh {name t : Token} {ts : List Token} (hname : name.kind = .name)
    (h : Fresh name.lexeme ts) (ht : t ∈ ts) : t ≠ name := by
  rintro rfl
  exact h t ht hname rfl

theorem mem_of_steps_eq_error {s : Stage} {ts : List Token} {fault : SyntaxError} {t : Token}
    (h : s.steps registry ts = .error fault) (hfound : fault.found = some t) : t ∈ ts := by
  obtain ⟨before, u, after, next, rfl, -, hstep⟩ := Stage.exists_of_steps_eq_error h
  rw [Stage.found_of_step hstep, Option.some.injEq] at hfound
  simp [hfound]

theorem steps_of_group {opening closing : Token} {ts : List Token} {f : Formula}
    (hopening : opening.kind = .opening) (hclosing : closing.kind = .closing)
    (hts : Formula.readTokens registry ts = .ok f) (pending : List UnaryConnective)
    (frames : List Frame) :
    (Stage.beforeTerm pending frames).steps registry ([opening] ++ ts ++ [closing]) =
      .ok (.afterTerm (applyUnaries pending f) frames) := by
  have hinner := steps_iff_derives.mp (readTokens_eq_ok_iff.mp hts)
  exact reads_of_derives (.group hopening hinner hclosing) pending frames

theorem step_afterTerm_of_name_or_opening (registry : Registry) (f : Formula)
    (frames : List Frame) :
    ∃ expected, ∀ t : Token, t.kind = .name ∨ t.kind = .opening →
      (Stage.afterTerm f frames).step registry t = .error ⟨some t, expected⟩ := by
  have hbinary : ∀ t : Token, t.kind = .name ∨ t.kind = .opening →
      registry.binary? (some t) = none := by
    intro t ht
    rw [Option.eq_none_iff_forall_ne_some]
    intro b hb
    have hkind := (Registry.binary?_eq_some_iff.mp hb).2
    rw [← hkind] at ht
    cases b <;> simp [BinaryConnective.kind] at ht
  rcases settle_none_cases f frames with ⟨g, hsettle⟩ | ⟨g, pending, outer, hsettle⟩
  · refine ⟨none, fun t ht => ?_⟩
    simp only [Stage.step, hbinary t ht, hsettle]
  · refine ⟨some .closing, fun t ht => ?_⟩
    have hclosing : t.kind ≠ .closing := by
      rcases ht with ht | ht <;> simp [ht]
    simp only [Stage.step, hbinary t ht, hsettle, if_neg hclosing]

section

variable {before ts after : List Token} {name opening closing : Token} {f : Formula}

/-- What is read with the group in place of the name, if `result` is read with the name. -/
def groupResult (name opening : Token) (f : Formula) :
    Except ReadingError Formula → Except ReadingError Formula
  | .ok g => .ok (g.replace name.lexeme f)
  | .error (.misplaced ⟨found, expected⟩) =>
      .error (.misplaced ⟨if found = some name then some opening else found, expected⟩)
  | .error (.invalid fault) => .error (.invalid fault)

theorem groupResult_of_ne {fault : SyntaxError} (h : fault.found ≠ some name) :
    groupResult name opening f (.error (.misplaced fault)) = .error (.misplaced fault) := by
  rw [groupResult, if_neg h]

theorem readTokens_of_steps_error {us : List Token} {fault : SyntaxError}
    (h : Stage.start.steps registry us = .error fault) (rest : List Token) :
    Formula.readTokens registry (us ++ rest) = .error (.misplaced fault) := by
  rw [readTokens_eq, Stage.steps_append, h]

theorem related_self_of_steps {s : Stage} (hbefore : Fresh name.lexeme before)
    (hsteps : Stage.start.steps registry before = .ok s) :
    s.Related (Replaced name.lexeme f) s := by
  rcases steps_related registry (preserved_replaced name.lexeme f) related_start
      (tokensRelated_of_fresh hbefore f) with
    ⟨last, last', hlast, hlast', hrelated⟩ | ⟨i, t, t', expected, -, -, herror, -⟩
  · obtain rfl := Except.ok.inj (hsteps.symm.trans hlast)
    obtain rfl := Except.ok.inj (hsteps.symm.trans hlast')
    exact hrelated
  · rw [hsteps] at herror
    contradiction

theorem readTokens_group_of_beforeTerm {pending : List UnaryConnective} {frames : List Frame}
    (hname : name.kind = .name) (hopening : opening.kind = .opening)
    (hclosing : closing.kind = .closing) (hts : Formula.readTokens registry ts = .ok f)
    (hbefore : Fresh name.lexeme before) (hafter : Fresh name.lexeme after)
    (hsteps : Stage.start.steps registry before = .ok (.beforeTerm pending frames)) :
    Formula.readTokens registry (before ++ ([opening] ++ ts ++ [closing]) ++ after) =
      groupResult name opening f (Formula.readTokens registry (before ++ [name] ++ after)) := by
  have hR := preserved_replaced name.lexeme f
  have hnameSteps : Stage.start.steps registry (before ++ [name]) =
      .ok (.afterTerm (applyUnaries pending (.atom name.lexeme)) frames) := by
    rw [Stage.steps_append, hsteps]
    exact Stage.steps_cons_of_ok (Stage.step_of_moves (.name hname)) []
  have hgroupSteps : Stage.start.steps registry (before ++ ([opening] ++ ts ++ [closing])) =
      .ok (.afterTerm (applyUnaries pending f) frames) := by
    rw [Stage.steps_append, hsteps]
    exact steps_of_group hopening hclosing hts pending frames
  have hatom : Replaced name.lexeme f (.atom name.lexeme) f := (if_pos rfl).symm
  obtain ⟨_, hframes⟩ := related_self_of_steps (f := f) hbefore hsteps
  have hrelated := Stage.Related.afterTerm (applyUnaries_related hR hatom pending) hframes
  rcases readTokens_append_related hR hnameSteps hgroupSteps hrelated
      (tokensRelated_of_fresh hafter f) with
    ⟨g, g', hg, hg', rfl⟩ | ⟨fault, hfault, hfault', hmem⟩
  · rw [hg, hg', groupResult]
  · have hfound : fault.found ≠ some name := fun h =>
      ne_of_mem_fresh hname hafter (hmem name h) rfl
    rw [hfault, hfault', groupResult_of_ne hfound]

theorem readTokens_group_of_afterTerm {g : Formula} {frames : List Frame}
    (hname : name.kind = .name) (hopening : opening.kind = .opening)
    (hsteps : Stage.start.steps registry before = .ok (.afterTerm g frames)) :
    Formula.readTokens registry (before ++ ([opening] ++ ts ++ [closing]) ++ after) =
      groupResult name opening f (Formula.readTokens registry (before ++ [name] ++ after)) := by
  obtain ⟨expected, hrefused⟩ := step_afterTerm_of_name_or_opening registry g frames
  have hnameSteps : Stage.start.steps registry (before ++ [name]) =
      .error ⟨some name, expected⟩ := by
    rw [Stage.steps_append, hsteps]
    exact Stage.steps_cons_of_error (hrefused name (.inl hname)) []
  have hgroupSteps : Stage.start.steps registry (before ++ ([opening] ++ ts ++ [closing])) =
      .error ⟨some opening, expected⟩ := by
    rw [Stage.steps_append, hsteps, List.append_assoc]
    exact Stage.steps_cons_of_error (hrefused opening (.inr hopening)) _
  rw [readTokens_of_steps_error hnameSteps, readTokens_of_steps_error hgroupSteps, groupResult,
    if_pos rfl]

theorem readTokens_group (hname : name.kind = .name) (hopening : opening.kind = .opening)
    (hclosing : closing.kind = .closing) (hts : Formula.readTokens registry ts = .ok f)
    (hbefore : Fresh name.lexeme before) (hafter : Fresh name.lexeme after) :
    Formula.readTokens registry (before ++ ([opening] ++ ts ++ [closing]) ++ after) =
      groupResult name opening f (Formula.readTokens registry (before ++ [name] ++ after)) := by
  rcases hsteps : Stage.start.steps registry before with fault | ⟨pending, frames⟩ | ⟨g, frames⟩
  · have hfound : fault.found ≠ some name := fun h =>
      ne_of_mem_fresh hname hbefore (mem_of_steps_eq_error hsteps h) rfl
    rw [List.append_assoc before, readTokens_of_steps_error hsteps, List.append_assoc before,
      readTokens_of_steps_error hsteps, groupResult_of_ne hfound]
  · exact readTokens_group_of_beforeTerm hname hopening hclosing hts hbefore hafter hsteps
  · exact readTokens_group_of_afterTerm hname hopening hsteps

theorem count_leaves_of_readTokens {g : Formula} (hname : name.kind = .name)
    (hbefore : Fresh name.lexeme before) (hafter : Fresh name.lexeme after)
    (hg : Formula.readTokens registry (before ++ [name] ++ after) = .ok g) :
    g.leaves.count name.lexeme = 1 := by
  have hderives := steps_iff_derives.mp (readTokens_eq_ok_iff.mp hg)
  rw [leaves_of_derives hderives, nameLexemes_append, nameLexemes_append,
    nameLexemes_of_name hname, List.count_append, List.count_append,
    count_nameLexemes_of_fresh hbefore, count_nameLexemes_of_fresh hafter,
    List.count_singleton_self]

end

/-- In the place of a name that occurs nowhere else, a group with a formula in it puts the formula in
the place of the one atom of that name. If the list is at fault with the name, it is at fault in the
same way with the group, where the opening parenthesis is found if the name was. Alone, a group is
read as the formula in it. -/
theorem readTokens_group_in_place_of_name {registry : Registry} {before ts after : List Token}
    {name opening closing : Token} {f : Formula} (hname : name.kind = .name)
    (hopening : opening.kind = .opening) (hclosing : closing.kind = .closing)
    (hts : Formula.readTokens registry ts = .ok f)
    (hfresh : ∀ t ∈ before ++ after, t.kind = .name → t.lexeme ≠ name.lexeme) :
    (∀ g, Formula.readTokens registry (before ++ [name] ++ after) = .ok g →
        g.leaves.count name.lexeme = 1 ∧
          Formula.readTokens registry (before ++ ([opening] ++ ts ++ [closing]) ++ after) =
            .ok (g.replace name.lexeme f)) ∧
      (∀ found expected,
        Formula.readTokens registry (before ++ [name] ++ after) =
            .error (.misplaced ⟨found, expected⟩) →
          Formula.readTokens registry (before ++ ([opening] ++ ts ++ [closing]) ++ after) =
            .error (.misplaced ⟨if found = some name then some opening else found, expected⟩)) ∧
      Formula.readTokens registry ([opening] ++ ts ++ [closing]) = .ok f := by
  have hbefore : Fresh name.lexeme before := fun t ht => hfresh t (List.mem_append_left after ht)
  have hafter : Fresh name.lexeme after := fun t ht => hfresh t (List.mem_append_right before ht)
  have hgroup := readTokens_group hname hopening hclosing hts hbefore hafter
  refine ⟨?_, ?_, ?_⟩
  · intro g hg
    refine ⟨count_leaves_of_readTokens hname hbefore hafter hg, ?_⟩
    rw [hgroup, hg, groupResult]
  · intro found expected hmisplaced
    rw [hgroup, hmisplaced, groupResult]
  · rw [readTokens_eq_ok_iff]
    exact ⟨_, steps_of_group hopening hclosing hts [] [], rfl⟩

theorem readTokens_group_under_negation :
    Formula.readTokens Registry.standard
        [⟨.name, "q", 0⟩, ⟨.implication, ">", 1⟩, ⟨.name, "r", 2⟩] =
      .ok (.binary (.atom "q") .implication (.atom "r")) ∧
    Formula.readTokens Registry.standard
        ([⟨.negation, "~", 0⟩] ++
          ([⟨.opening, "(", 1⟩] ++
            [⟨.name, "q", 0⟩, ⟨.implication, ">", 1⟩, ⟨.name, "r", 2⟩] ++ [⟨.closing, ")", 5⟩]) ++
          [⟨.conjunction, "&", 6⟩, ⟨.name, "q", 7⟩]) =
      .ok (.binary (.unary .negation (.binary (.atom "q") .implication (.atom "r"))) .conjunction
        (.atom "q")) := by
  have hts : Formula.readTokens Registry.standard
      [⟨.name, "q", 0⟩, ⟨.implication, ">", 1⟩, ⟨.name, "r", 2⟩] =
        .ok (.binary (.atom "q") .implication (.atom "r")) :=
    readTokens_eq_ok_iff.mpr ⟨_, rfl, rfl⟩
  have hfresh : ∀ t ∈ [⟨.negation, "~", 0⟩] ++ [⟨.conjunction, "&", 6⟩, (⟨.name, "q", 7⟩ : Token)],
      t.kind = .name → t.lexeme ≠ "p" := by
    decide
  have hg : Formula.readTokens Registry.standard
      ([⟨.negation, "~", 0⟩] ++ [⟨.name, "p", 1⟩] ++ [⟨.conjunction, "&", 6⟩, ⟨.name, "q", 7⟩]) =
        .ok (.binary (.unary .negation (.atom "p")) .conjunction (.atom "q")) :=
    readTokens_eq_ok_iff.mpr ⟨_, rfl, rfl⟩
  have hname : (⟨.name, "p", 1⟩ : Token).kind = .name := rfl
  have hopening : (⟨.opening, "(", 1⟩ : Token).kind = .opening := rfl
  have hclosing : (⟨.closing, ")", 5⟩ : Token).kind = .closing := rfl
  have hgroup := readTokens_group_in_place_of_name hname hopening hclosing hts hfresh
  exact ⟨hts, (hgroup.1 _ hg).2⟩

end Reading

end Propositional
