import Propositional.Proofs.Token.Tiling

/-!
Where a scan fails, read off the source alone. Letters, blanks and the glyphs of one character are
always recognised. Slashes are read in pairs of different ones, counted from the start of their run,
so a slash in an even place of its run needs the other slash after it. The scan fails at the first
character that is neither of these, and only there.
-/

namespace Propositional

namespace Text

def isSlash (c : Char) : Bool :=
  c = '/' || c = '\\'

/-- The glyphs of one character. -/
def singleGlyphs : List Char :=
  ['~', '¬', '&', '∧', '∙', '|', '∨', '>', '→', '⇒', '⊃', '(', ')']

/-- Characters that are recognised whatever stands around them. -/
def Plain (c : Char) : Prop :=
  isLetter c = true ∨ isBlank c = true ∨ c ∈ singleGlyphs

instance (c : Char) : Decidable (Plain c) :=
  inferInstanceAs (Decidable (_ ∨ _))

/-- The number of slashes at the end of a text. -/
def slashesAtEnd (text : List Char) : Nat :=
  (text.reverse.takeWhile isSlash).length

/-- The character at index `p` cannot be read: it is of no use anywhere, or it is a slash at an even
offset of its run without the other slash after it. -/
inductive Offends (text : List Char) (p : Nat) : Prop where
  | unknown {c : Char} (hc : text[p]? = some c) (hplain : ¬ Plain c) (hslash : isSlash c = false)
  | unpaired {c : Char} (hc : text[p]? = some c) (hslash : isSlash c = true)
      (heven : slashesAtEnd (text.take p) % 2 = 0)
      (hnext : ∀ d, text[p + 1]? = some d → isSlash d = false ∨ d = c)

theorem isSlash_of_plain {c : Char} (h : Plain c) : isSlash c = false := by
  apply Bool.eq_false_iff.mpr
  intro hslash
  have hc : c = '/' ∨ c = '\\' := by simpa [isSlash] using hslash
  rcases hc with rfl | rfl <;> exact absurd h (by decide)

theorem slashesAtEnd_append (text text' : List Char) :
    slashesAtEnd (text ++ text') = slashesAtEnd text' ∨
      slashesAtEnd (text ++ text') = slashesAtEnd text' + slashesAtEnd text := by
  rw [slashesAtEnd, List.reverse_append, List.takeWhile_append]
  split
  · next hall => exact .inr (by simp [slashesAtEnd, hall])
  · exact .inl rfl

theorem slashesAtEnd_of_plain {text : List Char} (h : ∀ c ∈ text, Plain c) :
    slashesAtEnd text = 0 := by
  rw [slashesAtEnd]
  rcases hreverse : text.reverse with _ | ⟨c, rest⟩
  · rfl
  · have hmem : c ∈ text := List.mem_reverse.mp (hreverse ▸ List.mem_cons_self ..)
    have hc : ¬ isSlash c = true := by simp [isSlash_of_plain (h c hmem)]
    rw [List.takeWhile_cons_of_neg hc, List.length_nil]

theorem Offends.lt_length {text : List Char} {p : Nat} (h : Offends text p) : p < text.length := by
  rcases h with ⟨hc, -, -⟩ | ⟨hc, -, -, -⟩
  · exact (List.getElem?_eq_some_iff.mp hc).1
  · exact (List.getElem?_eq_some_iff.mp hc).1

/-- Offences after a text whose last slashes are paired are those of what follows it. -/
theorem offends_append_iff {text : List Char} (heven : slashesAtEnd text % 2 = 0)
    (rest : List Char) (p : Nat) :
    Offends (text ++ rest) (text.length + p) ↔ Offends rest p := by
  have hget (q : Nat) : (text ++ rest)[text.length + q]? = rest[q]? := by
    rw [List.getElem?_append_right (Nat.le_add_right ..), Nat.add_sub_cancel_left]
  have hslashes : slashesAtEnd ((text ++ rest).take (text.length + p)) % 2 =
      slashesAtEnd (rest.take p) % 2 := by
    rw [List.take_length_add_append]
    rcases slashesAtEnd_append text (rest.take p) with h | h <;> omega
  constructor
  · rintro (⟨hc, hplain, hslash⟩ | ⟨hc, hslash, hoffset, hnext⟩)
    · exact .unknown (hget p ▸ hc) hplain hslash
    · rw [hslashes] at hoffset
      rw [Nat.add_assoc, hget] at hnext
      exact .unpaired (hget p ▸ hc) hslash hoffset hnext
  · rintro (⟨hc, hplain, hslash⟩ | ⟨hc, hslash, hoffset, hnext⟩)
    · exact .unknown (hget p ▸ hc) hplain hslash
    · rw [← hslashes] at hoffset
      rw [← hget, ← Nat.add_assoc] at hnext
      exact .unpaired (hget p ▸ hc) hslash hoffset hnext

/-- Text that does not offend, whatever follows it, and that leaves no slash without its pair. -/
structure Sound (text : List Char) : Prop where
  even : slashesAtEnd text % 2 = 0
  not_offends : ∀ rest p, p < text.length → ¬ Offends (text ++ rest) p

theorem Sound.of_plain {text : List Char} (h : ∀ c ∈ text, Plain c) : Sound text where
  even := by rw [slashesAtEnd_of_plain h]
  not_offends := by
    intro rest p hp hoffends
    have hget : (text ++ rest)[p]? = some text[p] := by
      rw [List.getElem?_append_left hp, List.getElem?_eq_getElem hp]
    have hplain : Plain text[p] := h _ (List.getElem_mem hp)
    rcases hoffends with ⟨hc, hnot, -⟩ | ⟨hc, hslash, -, -⟩
    · rw [hget, Option.some.injEq] at hc
      exact hnot (hc ▸ hplain)
    · rw [hget, Option.some.injEq] at hc
      rw [← hc, isSlash_of_plain hplain] at hslash
      contradiction

theorem Sound.of_slashes {a b : Char} (ha : isSlash a = true) (hb : isSlash b = true)
    (hne : a ≠ b) : Sound [a, b] where
  even := by simp [slashesAtEnd, ha, hb]
  not_offends := by
    intro rest p hp hoffends
    have hp : p = 0 ∨ p = 1 := by
      simp only [List.length_cons, List.length_nil] at hp
      omega
    rcases hp with rfl | rfl
    · rcases hoffends with ⟨hc, -, hslash⟩ | ⟨hc, -, -, hnext⟩
      · obtain rfl : a = _ := Option.some.inj hc
        rw [ha] at hslash
        contradiction
      · obtain rfl : a = _ := Option.some.inj hc
        rcases hnext b rfl with hslash | hsame
        · rw [hb] at hslash
          contradiction
        · exact hne hsame.symm
    · rcases hoffends with ⟨hc, -, hslash⟩ | ⟨-, -, heven, -⟩
      · obtain rfl : b = _ := Option.some.inj hc
        rw [hb] at hslash
        contradiction
      · simp [slashesAtEnd, ha] at heven

theorem Sound.append {text text' : List Char} (h : Sound text) (h' : Sound text') :
    Sound (text ++ text') where
  even := by
    have heven := h.even
    have heven' := h'.even
    rcases slashesAtEnd_append text text' with hslashes | hslashes <;> omega
  not_offends := by
    intro rest p hp
    rw [List.append_assoc]
    by_cases hlt : p < text.length
    · exact h.not_offends _ p hlt
    · obtain ⟨q, rfl⟩ := Nat.exists_eq_add_of_le (Nat.le_of_not_lt hlt)
      rw [offends_append_iff h.even]
      rw [List.length_append] at hp
      exact h'.not_offends rest q (by omega)

end Text

open Text (Offends Plain Sound isSlash singleGlyphs)

namespace TokenKind

theorem glyph_cases {kind : TokenKind} {glyph : List Char} (h : glyph ∈ kind.glyphs) :
    (∀ c ∈ glyph, c ∈ singleGlyphs) ∨ glyph = ['/', '\\'] ∨ glyph = ['\\', '/'] := by
  have hall : ∀ kind ∈ all, ∀ glyph ∈ kind.glyphs,
      (glyph.all fun c => c ∈ singleGlyphs) = true ∨ glyph = ['/', '\\'] ∨ glyph = ['\\', '/'] := by
    decide
  simpa only [List.all_eq_true, decide_eq_true_eq] using hall kind (mem_all kind) glyph h

theorem sound_of_spelling {kind : TokenKind} {lexeme : List Char} (h : kind.Spelling lexeme) :
    Sound lexeme := by
  cases kind
  case name => exact .of_plain fun c hc => .inl (h.2 c hc)
  case blank => exact .of_plain fun c hc => .inr (.inl (h.2 c hc))
  all_goals
    rcases glyph_cases h with hsingle | rfl | rfl
    · exact .of_plain fun c hc => .inr (.inr (hsingle c hc))
    · exact .of_slashes rfl rfl (by decide)
    · exact .of_slashes rfl rfl (by decide)

theorem exists_spelling_of_plain {c : Char} (h : Plain c) : ∃ kind, Spelling kind [c] := by
  have hsingle : (singleGlyphs.all fun c => all.any fun kind => kind.Spelling [c]) = true := by
    decide +kernel
  simp only [List.all_eq_true, List.any_eq_true, decide_eq_true_eq] at hsingle
  rcases h with hletter | hblank | hglyph
  · exact ⟨name, List.cons_ne_nil _ _, by simpa [Text.AllLetters]⟩
  · exact ⟨blank, List.cons_ne_nil _ _, by simpa [Text.AllBlank]⟩
  · obtain ⟨kind, -, hkind⟩ := hsingle c hglyph
    exact ⟨kind, hkind⟩

theorem exists_spelling_of_slashes {c d : Char} (hc : isSlash c = true) (hd : isSlash d = true)
    (hne : d ≠ c) : ∃ kind, Spelling kind [c, d] := by
  have hc : c = '/' ∨ c = '\\' := by simpa [isSlash] using hc
  have hd : d = '/' ∨ d = '\\' := by simpa [isSlash] using hd
  rcases hc with rfl | rfl <;> rcases hd with rfl | rfl
  · contradiction
  · exact ⟨conjunction, by decide⟩
  · exact ⟨disjunction, by decide⟩
  · contradiction

theorem Stuck.offends {c : Char} {rest : List Char} (h : Stuck (c :: rest)) :
    Offends (c :: rest) 0 := by
  by_cases hslash : isSlash c = true
  · refine .unpaired rfl hslash rfl ?_
    intro d hd
    apply or_iff_not_imp_left.mpr
    intro hother
    by_contra hne
    obtain ⟨kind, hkind⟩ := exists_spelling_of_slashes hslash (by simpa using hother) hne
    obtain ⟨after, rfl⟩ := List.head?_eq_some_iff.mp (List.head?_eq_getElem?.trans hd)
    exact h kind [c, d] hkind ⟨after, rfl⟩
  · refine .unknown rfl ?_ (by simpa using hslash)
    intro hplain
    obtain ⟨kind, hkind⟩ := exists_spelling_of_plain hplain
    exact h kind [c] hkind ⟨rest, rfl⟩

end TokenKind

theorem sound_of_allBlank {gap : List Char} (h : Text.AllBlank gap) : Sound gap :=
  .of_plain fun c hc => .inr (.inl (h c hc))

theorem Layout.sound_text {words : List Word} (hwords : ∀ w ∈ words, w.Spelled) :
    Sound (Layout.text words) := by
  induction words with
  | nil => exact .of_plain fun _ hc => nomatch hc
  | cons w rest ih =>
      obtain ⟨hw, hrest⟩ := List.forall_mem_cons.mp hwords
      have hword : Sound w.text :=
        (sound_of_allBlank hw.blank).append (TokenKind.sound_of_spelling hw.spelling)
      exact hword.append (ih hrest)

namespace Tiles

variable {text last tail : List Char} {words : List Word}

theorem sound (h : Tiles text words last tail) : Sound (Layout.text words ++ last) :=
  (Layout.sound_text h.spelled).append (sound_of_allBlank h.blank)

theorem not_offends (h : Tiles text words last tail) {p : Nat}
    (hp : p < (Layout.text words ++ last).length) : ¬ Offends text p := by
  rw [h.text_eq]
  exact h.sound.not_offends tail p hp

theorem not_offends_of_whole (h : Tiles text words last []) (p : Nat) : ¬ Offends text p := by
  intro hoffends
  have hp := hoffends.lt_length
  rw [h.text_eq, List.append_nil] at hp
  exact h.not_offends hp hoffends

theorem offends_tail {c : Char} {rest : List Char} (h : Tiles text words last (c :: rest)) :
    Offends text (Layout.text words ++ last).length := by
  have hstart := (Text.offends_append_iff h.sound.even (c :: rest) 0).mpr h.stuck.offends
  rwa [← h.text_eq] at hstart

theorem getElem?_tail {c : Char} {rest : List Char} (h : Tiles text words last (c :: rest)) :
    text[(Layout.text words ++ last).length]? = some c := by
  rw [h.text_eq, List.getElem?_append_right (Nat.le_refl _), Nat.sub_self]
  rfl

end Tiles

/-- An invalid character ends the scan of a source exactly if some index of the source offends. It
is the character at the least such index, and it is reported with that index. -/
theorem endingFault?_scan_iff_offends (source : String) :
    ((∃ fault, endingFault? (scan source) = some fault) ↔ ∃ p, Offends source.toList p) ∧
      ∀ fault, endingFault? (scan source) = some fault ↔
        source.toList[fault.position]? = some fault.character ∧
          Offends source.toList fault.position ∧
          ∀ p < fault.position, ¬ Offends source.toList p := by
  obtain ⟨words, last, tail, htiles, hscan⟩ := exists_scan_eq_items source
  rw [hscan, endingFault?_items, Nat.zero_add]
  rcases tail with _ | ⟨c, rest⟩
  · have hnone := htiles.not_offends_of_whole
    simp [hnone]
  · have hoffends := htiles.offends_tail
    have hget := htiles.getElem?_tail
    refine ⟨⟨fun _ => ⟨_, hoffends⟩, fun _ => ⟨_, rfl⟩⟩, ?_⟩
    rintro ⟨d, p⟩
    rw [List.head?_cons, Option.map_some, Option.some.injEq, InvalidCharacter.mk.injEq]
    constructor
    · rintro ⟨rfl, rfl⟩
      exact ⟨hget, hoffends, fun p => htiles.not_offends⟩
    · rintro ⟨hd, hp, hleast⟩
      have hle : (Layout.text words ++ last).length ≤ p :=
        Nat.le_of_not_lt fun hlt => htiles.not_offends hlt hp
      have hge : p ≤ (Layout.text words ++ last).length :=
        Nat.le_of_not_lt fun hlt => hleast _ hlt hoffends
      obtain rfl := Nat.le_antisymm hle hge
      exact ⟨Option.some.inj (hget.symm.trans hd), rfl⟩

/-- The last two slashes would make a pair, but not counted from the start of the run. -/
example : scan "p/\\\\\\/" =
    [.token ⟨.name, "p", 0⟩, .token ⟨.conjunction, "/\\", 1⟩, .invalid ⟨'\\', 3⟩] := by
  decide +kernel

end Propositional
