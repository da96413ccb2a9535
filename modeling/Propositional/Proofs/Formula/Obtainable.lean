import Propositional.Proofs.Formula.Names
import Propositional.Proofs.Reading.Events
import Propositional.Proofs.Reading.Rendering

namespace Propositional

open Reading

namespace Formula

theorem ofName_eq_ok_iff {name : String} {f : Formula} :
    ofName name = .ok f ↔ IsName name ∧ f = .atom name := by
  rw [ofName]
  split
  · next hname => simp [hname, eq_comm]
  · next hname => simp [hname]

theorem wellNamed_iff {f : Formula} : f.WellNamed ↔ ∀ name ∈ f.leaves, IsName name := by
  induction f with
  | atom name => simp [WellNamed, leaves]
  | unary c operand ih => exact ih
  | binary left c right ihLeft ihRight =>
      rw [WellNamed, ihLeft, ihRight, leaves, List.forall_mem_append]

end Formula

theorem isName_of_mem_scan {source : String} {t : Token}
    (h : t ∈ (scan source).filterMap Item.token?) (hkind : t.kind = .name) : IsName t.lexeme := by
  have hspelling := (spelling_of_mem_scan h).2
  rw [hkind] at hspelling
  exact hspelling

namespace Reading

variable {registry : Registry}

theorem wellNamed_of_ofSource {source : String} {f : Formula}
    (h : (ofSource registry source).result = .ok f) : f.WellNamed := by
  rw [Formula.wellNamed_iff, leaves_of_ofSource h]
  intro name hname
  obtain ⟨t, ht, rfl⟩ := List.mem_map.mp hname
  obtain ⟨hmem, hkind⟩ := List.mem_filter.mp ht
  exact isName_of_mem_scan hmem (of_decide_eq_true hkind)

theorem mem_tokens_of_accepted {feed : Feed} {t : Token}
    (h : .accepted t ∈ (ofFeed registry feed).cursor.transcript) : t ∈ feed.tokens := by
  have hevent : .accepted t ∈ tokenEventsIn (ofFeed registry feed).cursor.transcript :=
    List.mem_filter.mpr
      ⟨List.mem_filterMap.mpr ⟨.accepted t, List.mem_reverse.mpr h, rfl⟩, rfl⟩
  rw [ofFeed_eq_run, tokenEvents_run] at hevent
  rcases List.mem_append.mp hevent with hevent | hrefused
  · obtain ⟨u, hu, haccepted⟩ := List.mem_flatMap.mp hevent
    obtain rfl : t = u := by
      rw [eventsOfTaken] at haccepted
      split at haccepted
      · simpa using haccepted
      · simp at haccepted
    have htake := @take_asked registry .start none [] feed
    apply List.mem_of_mem_take
    rw [htake]
    exact List.mem_append_left _ hu
  · obtain ⟨u, -, hscanned⟩ := List.mem_map.mp hrefused
    contradiction

theorem isName_of_accepted {source : String} {t : Token}
    (h : .accepted t ∈ (ofSource registry source).cursor.transcript) (hkind : t.kind = .name) :
    IsName t.lexeme := by
  have hmem := mem_tokens_of_accepted h
  change t ∈ (sourceFeed source).tokens at hmem
  rw [tokens_sourceFeed] at hmem
  exact isName_of_mem_scan hmem hkind

end Reading

/-- The formulas that can be made: by naming an atom, by reading a source with any connectives, by
joining formulas, and by taking them apart. -/
inductive Obtainable : Formula → Prop where
  | named {name f} (h : Formula.ofName name = .ok f) : Obtainable f
  | read {registry source f} (h : (ofSource registry source).result = .ok f) : Obtainable f
  | unary (c : UnaryConnective) {f} (h : Obtainable f) : Obtainable (.unary c f)
  | binary (c : BinaryConnective) {f g} (hf : Obtainable f) (hg : Obtainable g) :
      Obtainable (.binary f c g)
  | operand {c f} (h : Obtainable (.unary c f)) : Obtainable f
  | left {f c g} (h : Obtainable (.binary f c g)) : Obtainable f
  | right {f c g} (h : Obtainable (.binary f c g)) : Obtainable g

theorem wellNamed_of_obtainable {f : Formula} (h : Obtainable f) : f.WellNamed := by
  induction h with
  | named h =>
      obtain ⟨hname, rfl⟩ := Formula.ofName_eq_ok_iff.mp h
      exact hname
  | read h => exact wellNamed_of_ofSource h
  | unary c h ih => exact ih
  | binary c hf hg ihf ihg => exact ⟨ihf, ihg⟩
  | operand h ih => exact ih
  | left h ih => exact ih.1
  | right h ih => exact ih.2

/-- In every formula that can be made each atom has a name that is accepted for an atom, and the
formula is read back from its rendering. Whatever source is read, with whatever connectives and
whatever result, each token that is accepted as a name has a lexeme that is accepted for an atom. -/
theorem names_accepted_of_obtainable :
    (∀ f, Obtainable f →
        (∀ name ∈ f.leaves, Formula.ofName name = .ok (.atom name)) ∧
          Formula.read f.render = .ok f) ∧
      ∀ registry source t, .accepted t ∈ (ofSource registry source).cursor.transcript →
        t.kind = .name → Formula.ofName t.lexeme = .ok (.atom t.lexeme) := by
  constructor
  · intro f hf
    have hnamed := wellNamed_of_obtainable hf
    refine ⟨?_, read_render hnamed⟩
    intro name hname
    exact Formula.ofName_eq_ok_iff.mpr ⟨Formula.wellNamed_iff.mp hnamed name hname, rfl⟩
  · intro registry source t haccepted hkind
    exact Formula.ofName_eq_ok_iff.mpr ⟨isName_of_accepted haccepted hkind, rfl⟩

theorem names_accepted_of_right_operand :
    (ofSource Registry.standard "p & (q > ψ)").result =
        .ok (.binary (.atom "p") .conjunction (.binary (.atom "q") .implication (.atom "ψ"))) ∧
      Formula.ofName "ψ" = .ok (.atom "ψ") ∧
      Formula.read "(q → ψ)" = .ok (.binary (.atom "q") .implication (.atom "ψ")) ∧
      .accepted ⟨.name, "p", 0⟩ ∈ (ofSource Registry.standard "p q").cursor.transcript ∧
      Formula.ofName "p" = .ok (.atom "p") := by
  have hread : (ofSource Registry.standard "p & (q > ψ)").result =
      .ok (.binary (.atom "p") .conjunction (.binary (.atom "q") .implication (.atom "ψ"))) := by
    decide +kernel
  have haccepted :
      .accepted ⟨.name, "p", 0⟩ ∈ (ofSource Registry.standard "p q").cursor.transcript := by
    decide +kernel
  obtain ⟨hnames, hrender⟩ := names_accepted_of_obtainable.1 _ (.right (.read hread))
  exact ⟨hread, hnames "ψ" (by simp [Formula.leaves]), hrender, haccepted,
    names_accepted_of_obtainable.2 _ _ _ haccepted rfl⟩

end Propositional
