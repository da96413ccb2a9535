import Propositional.Proofs.Reading.Grammar
import Propositional.Proofs.Token.Layout

namespace Propositional

/-- The words of the rendering, the first of them after some blanks. -/
def Formula.words (gap : List Char) : Formula → List Word
  | atom name => [⟨gap, .name, name.toList⟩]
  | unary c operand => ⟨gap, c.kind, c.glyph.toList⟩ :: operand.words []
  | binary left c right =>
      ⟨gap, .opening, ['(']⟩ :: left.words [] ++ ⟨[' '], c.kind, c.glyph.toList⟩ :: right.words [' '] ++
        [⟨[], .closing, [')']⟩]

namespace Layout

open Formula (words)

theorem text_words (f : Formula) (gap : List Char) : text (f.words gap) = gap ++ f.render.toList := by
  induction f generalizing gap with
  | atom name => simp [words, Formula.render, Word.text]
  | unary c operand ih => simp [words, Formula.render, Word.text, ih]
  | binary left c right ihLeft ihRight =>
      simp [words, Formula.render, Word.text, text_append, ihLeft, ihRight]

theorem spelling_glyph (c : Connective) : c.kind.Spelling c.glyph.toList := by
  rcases c with (_ | _) | (_ | _ | _) <;> decide

theorem spelled_glyph (c : Connective) {gap : List Char} (hgap : Text.AllBlank gap) :
    Word.Spelled ⟨gap, c.kind, c.glyph.toList⟩ := by
  refine ⟨hgap, ?_, spelling_glyph c⟩
  rcases c with (_ | _) | (_ | _ | _) <;> exact TokenKind.noConfusion

theorem spelled_words {f : Formula} (hf : f.WellNamed) {gap : List Char}
    (hgap : Text.AllBlank gap) : ∀ w ∈ f.words gap, w.Spelled := by
  have hnil : Text.AllBlank [] := by decide
  have hspace : Text.AllBlank [' '] := by decide
  induction f generalizing gap with
  | atom name =>
      rw [words, List.forall_mem_singleton]
      exact ⟨hgap, TokenKind.noConfusion, hf⟩
  | unary c operand ih =>
      rw [words, List.forall_mem_cons]
      exact ⟨spelled_glyph (.unary c) hgap, ih hf hnil⟩
  | binary left c right ihLeft ihRight =>
      have hopening : Word.Spelled ⟨gap, .opening, ['(']⟩ :=
        ⟨hgap, TokenKind.noConfusion, List.mem_singleton_self _⟩
      have hclosing : Word.Spelled ⟨[], .closing, [')']⟩ :=
        ⟨hnil, TokenKind.noConfusion, List.mem_singleton_self _⟩
      simp only [words, List.forall_mem_append, List.forall_mem_cons]
      exact ⟨⟨⟨hopening, ihLeft hf.1 hnil⟩, spelled_glyph (.binary c) hspace,
        ihRight hf.2 hspace⟩, hclosing, fun _ h => nomatch h⟩

theorem isChain_cons_of_ne {w : Word} {words : List Word} (hw : w.kind ≠ .name)
    (h : words.IsChain Word.Apart) : (w :: words).IsChain Word.Apart :=
  h.cons fun _ _ hname => (hw hname).elim

theorem isChain_append_of_ne {w : Word} {words words' : List Word} (hw : w.kind ≠ .name)
    (h : words.IsChain Word.Apart) (h' : words'.IsChain Word.Apart) :
    (words ++ w :: words').IsChain Word.Apart := by
  refine h.append (isChain_cons_of_ne hw h') ?_
  intro v _ next hnext _ hname
  rw [List.head?_cons, Option.mem_some_iff] at hnext
  exact (hw (hnext ▸ hname)).elim

theorem isChain_words (f : Formula) (gap : List Char) : (f.words gap).IsChain Word.Apart := by
  induction f generalizing gap with
  | atom name => exact List.isChain_singleton _
  | unary c operand ih =>
      refine isChain_cons_of_ne ?_ (ih [])
      cases c
      exact TokenKind.noConfusion
  | binary left c right ihLeft ihRight =>
      rw [words, List.append_assoc, List.cons_append]
      refine isChain_cons_of_ne TokenKind.noConfusion (isChain_append_of_ne ?_ (ihLeft []) ?_)
      · cases c <;> exact TokenKind.noConfusion
      · exact isChain_append_of_ne TokenKind.noConfusion (ihRight [' ']) List.isChain_nil

end Layout

namespace Reading

open Formula (words)

theorem denotes_standard {t : Token} {c : Connective} (h : t.kind = c.kind) :
    Registry.standard.Denotes t c :=
  ⟨c.mem_all, h.symm⟩

theorem derives_words (f : Formula) (position : Nat) (gap : List Char) :
    Derives Registry.standard .term (Layout.tokens position (f.words gap)) f := by
  induction f generalizing position gap with
  | atom name =>
      have hname : Derives Registry.standard .term
          [⟨.name, String.ofList name.toList, position + gap.length⟩]
          (.atom (String.ofList name.toList)) := .name rfl
      rw [String.ofList_toList] at hname
      simpa [words, Layout.tokens, Word.token] using hname
  | unary c operand ih =>
      exact .unary (denotes_standard rfl) (ih _ _)
  | binary left c right ihLeft ihRight =>
      have hinner : ∀ p p' p'', Derives Registry.standard (.above 0)
          (Layout.tokens p (left.words []) ++ [Word.token p' ⟨[' '], c.kind, c.glyph.toList⟩] ++
            Layout.tokens p'' (right.words [' '])) (.binary left c right) := fun _ _ _ =>
        .binary (denotes_standard rfl) c.precedence_pos (.term (ihLeft _ _)) (.term (ihRight _ _))
      simp only [List.append_assoc, List.singleton_append] at hinner
      rw [words, Layout.tokens_append, List.cons_append, Layout.tokens, Layout.tokens_append]
      exact .group rfl (hinner _ _ _) rfl

theorem scan_render {f : Formula} (hf : f.WellNamed) :
    scan f.render = (Layout.tokens 0 (f.words [])).map .token := by
  have hunread : (Scanner.start f.render).unread = Layout.text (f.words []) ++ [] := by
    rw [Layout.text_words, List.append_nil]
    rfl
  exact Layout.items_of_unread rfl hunread (Layout.spelled_words hf (by decide))
    (Layout.isChain_words f []) (by decide)

/-- A rendering is read as the formula that it was made from. -/
theorem read_render {f : Formula} (hf : f.WellNamed) : Formula.read f.render = .ok f := by
  have hread : Formula.read f.render =
      Formula.readTokens Registry.standard (Layout.tokens 0 (f.words [])) := by
    rw [Formula.read, ofSource, scan_render hf, ofItems, List.map_map]
    rfl
  rw [hread, readTokens_eq_ok_iff]
  exact steps_of_derives (.term (derives_words f 0 []))

theorem read_render_of_two_names :
    (Formula.binary (.unary .negation (.atom "pq")) .implication (.atom "ψ")).WellNamed ∧
      Formula.read "(¬pq → ψ)" =
        .ok (.binary (.unary .negation (.atom "pq")) .implication (.atom "ψ")) := by
  have hleft : IsName "pq" := by decide +kernel
  have hright : IsName "ψ" := by decide +kernel
  have hnamed :
      (Formula.binary (.unary .negation (.atom "pq")) .implication (.atom "ψ")).WellNamed :=
    ⟨hleft, hright⟩
  exact ⟨hnamed, read_render hnamed⟩

end Reading

end Propositional
