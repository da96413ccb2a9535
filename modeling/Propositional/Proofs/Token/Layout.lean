import Mathlib.Data.List.Chain
import Propositional.Proofs.Token.Lexeme
import Propositional.Proofs.Token.Replay

namespace Propositional

/-- A lexeme of a kind and the blanks before it. -/
structure Word where
  gap : List Char
  kind : TokenKind
  lexeme : List Char
  deriving DecidableEq, Repr

namespace Word

def text (w : Word) : List Char :=
  w.gap ++ w.lexeme

structure Spelled (w : Word) : Prop where
  blank : Text.AllBlank w.gap
  visible : w.kind ≠ .blank
  spelling : w.kind.Spelling w.lexeme

instance (w : Word) : Decidable w.Spelled :=
  decidable_of_iff (Text.AllBlank w.gap ∧ w.kind ≠ .blank ∧ w.kind.Spelling w.lexeme)
    ⟨fun ⟨hblank, hvisible, hspelling⟩ => ⟨hblank, hvisible, hspelling⟩,
      fun ⟨hblank, hvisible, hspelling⟩ => ⟨hblank, hvisible, hspelling⟩⟩

def Apart (w next : Word) : Prop :=
  w.kind = .name → next.kind = .name → next.gap ≠ []

instance (w next : Word) : Decidable (w.Apart next) :=
  inferInstanceAs (Decidable (w.kind = .name → next.kind = .name → next.gap ≠ []))

def token (position : Nat) (w : Word) : Token :=
  ⟨w.kind, String.ofList w.lexeme, position + w.gap.length⟩

end Word

namespace Layout

def text (words : List Word) : List Char :=
  words.flatMap Word.text

def tokens (position : Nat) : List Word → List Token
  | [] => []
  | w :: rest => w.token position :: tokens (position + w.text.length) rest

@[simp] theorem text_nil : text [] = [] := rfl

@[simp] theorem text_cons (w : Word) (rest : List Word) : text (w :: rest) = w.text ++ text rest :=
  List.flatMap_cons

theorem text_append (words words' : List Word) : text (words ++ words') = text words ++ text words' :=
  List.flatMap_append

theorem tokens_append (position : Nat) (words words' : List Word) :
    tokens position (words ++ words') =
      tokens position words ++ tokens (position + (text words).length) words' := by
  induction words generalizing position with
  | nil => rfl
  | cons w rest ih =>
      rw [List.cons_append, tokens, tokens, ih, text_cons, List.length_append, Nat.add_assoc]
      rfl

theorem exists_word_of_mem_tokens {t : Token} {position : Nat} {words : List Word}
    (h : t ∈ tokens position words) :
    ∃ w ∈ words, t.kind = w.kind ∧ t.lexeme = String.ofList w.lexeme := by
  induction words generalizing position with
  | nil => contradiction
  | cons w rest ih =>
      rcases List.mem_cons.mp h with rfl | hmem
      · exact ⟨w, List.mem_cons_self .., rfl, rfl⟩
      · obtain ⟨v, hv, hsame⟩ := ih hmem
        exact ⟨v, List.mem_cons_of_mem _ hv, hsame⟩

theorem tokens_eq_mapIdx (position : Nat) (words : List Word) :
    tokens position words =
      words.mapIdx fun i w => w.token (position + (text (words.take i)).length) := by
  induction words generalizing position with
  | nil => rfl
  | cons w rest ih =>
      rw [tokens, ih, List.mapIdx_cons]
      simp [Nat.add_assoc]

theorem items_eq_mapIdx (words : List Word) :
    (tokens 0 words).map Item.token =
      words.mapIdx fun i w => .token (w.token (text (words.take i)).length) := by
  rw [tokens_eq_mapIdx]
  simp [List.mapIdx_eq_zipIdx_map]

end Layout

namespace Scanner

@[simp] theorem failed_skip (s : Scanner) (lexeme : List Char) :
    (s.skip lexeme).failed = s.failed := rfl

@[simp] theorem position_skip (s : Scanner) (lexeme : List Char) :
    (s.skip lexeme).position = s.position + lexeme.length := rfl

theorem skip_nil (s : Scanner) : s.skip [] = s := rfl

theorem byteLength_append (text text' : List Char) :
    byteLength (text ++ text') = byteLength text + byteLength text' := by
  induction text with
  | nil => simp [byteLength]
  | cons c rest ih => simp [byteLength, ih, Nat.add_assoc]

theorem skip_skip (s : Scanner) (text text' : List Char) :
    (s.skip text).skip text' = s.skip (text ++ text') := by
  simp [skip, byteLength_append, Nat.add_assoc]

theorem unread_skip {s : Scanner} {lexeme rest : List Char} (h : s.unread = lexeme ++ rest) :
    (s.skip lexeme).unread = rest := by
  rw [skip, h]
  exact List.drop_left

theorem next_of_unread {s : Scanner} {kind : TokenKind} {lexeme rest : List Char}
    (hs : s.failed = false) (h : s.unread = lexeme ++ rest) (hspelling : kind.Spelling lexeme)
    (hrest : kind.Bounds rest) :
    s.next =
      if kind = .blank then (s.skip lexeme).next
      else (some (.token ⟨kind, String.ofList lexeme, s.position⟩), s.skip lexeme) := by
  obtain ⟨c, tail, htail⟩ := List.exists_cons_of_ne_nil hspelling.ne_nil
  have hhead : s.unread.head? = some c := by rw [h, htail]; rfl
  rw [next, nextBy_eq, hs, if_neg Bool.false_ne_true, hhead, h,
    TokenKind.firstLexeme?_append hspelling hrest]
  rfl

theorem next_of_gap {s : Scanner} {gap rest : List Char} (hs : s.failed = false)
    (h : s.unread = gap ++ rest) (hgap : Text.AllBlank gap)
    (hrest : TokenKind.blank.Bounds rest) : s.next = (s.skip gap).next := by
  rcases gap with _ | ⟨c, gap⟩
  · rfl
  · have hblank : TokenKind.blank.Spelling (c :: gap) := ⟨List.cons_ne_nil _ _, hgap⟩
    exact next_of_unread hs h hblank hrest

theorem next_of_unread_eq_nil {s : Scanner} (h : s.unread = []) : s.next = (none, s) := by
  rw [next, nextBy_eq, h]
  split <;> rfl

end Scanner

namespace TokenKind

theorem bounds_nil (kind : TokenKind) : kind.Bounds [] := by
  cases kind <;> simp [Bounds]

theorem bounds_of_startedBy? {kind kind' : TokenKind} {text : List Char}
    (h : text.head?.bind startedBy? = some kind') (hne : kind ≠ kind') : kind.Bounds text := by
  cases kind
  case name =>
    intro c hc
    apply Bool.eq_false_iff.mpr
    intro hletter
    apply hne
    rw [hc, Option.bind_some, startedBy?_of_isLetter hletter] at h
    exact Option.some.inj h
  case blank =>
    intro c hc
    apply Bool.eq_false_iff.mpr
    intro hblank
    apply hne
    rw [hc, Option.bind_some, startedBy?_of_isBlank hblank] at h
    exact Option.some.inj h
  all_goals trivial

theorem bounds_of_ne {kind : TokenKind} (hname : kind ≠ name) (hblank : kind ≠ blank)
    (text : List Char) : kind.Bounds text := by
  cases kind <;> trivial

end TokenKind

theorem Text.AllBlank.startedBy? {gap : List Char} (h : Text.AllBlank gap) (hne : gap ≠ [])
    (after : List Char) : (gap ++ after).head?.bind TokenKind.startedBy? = some .blank := by
  have hblank : TokenKind.blank.Spelling gap := ⟨hne, h⟩
  rw [head?_eq_of_isPrefix (List.prefix_append gap after) hne]
  exact TokenKind.startedBy?_of_spelling hblank

theorem TokenKind.Spelling.startedBy? {kind : TokenKind} {lexeme : List Char}
    (h : kind.Spelling lexeme) (after : List Char) :
    (lexeme ++ after).head?.bind TokenKind.startedBy? = some kind := by
  rw [head?_eq_of_isPrefix (List.prefix_append lexeme after) h.ne_nil]
  exact TokenKind.startedBy?_of_spelling h

namespace Layout

variable {words : List Word} {last : List Char}

theorem bounds_name_of_allBlank (hlast : Text.AllBlank last) : TokenKind.name.Bounds last := by
  intro c hc
  exact Text.isLetter_of_isBlank (hlast c (List.mem_of_mem_head? hc))

theorem bounds_text {w : Word} {rest : List Char} (hw : w.Spelled) (hwords : ∀ v ∈ words, v.Spelled)
    (hapart : (w :: words).IsChain Word.Apart) (hrest : TokenKind.name.Bounds rest) :
    w.kind.Bounds (text words ++ rest) := by
  by_cases hname : w.kind = .name
  · rcases words with _ | ⟨v, words⟩
    · rwa [hname]
    · have hv : v.Spelled := hwords v (List.mem_cons_self ..)
      rw [text_cons, Word.text, List.append_assoc, List.append_assoc]
      by_cases hgap : v.gap = []
      · have hne : w.kind ≠ v.kind := by
          intro hsame
          exact (List.isChain_cons_cons.mp hapart).1 hname (hsame ▸ hname) hgap
        rw [hgap]
        exact TokenKind.bounds_of_startedBy? (hv.spelling.startedBy? _) hne
      · exact TokenKind.bounds_of_startedBy? (hv.blank.startedBy? hgap _) hw.visible
  · exact TokenKind.bounds_of_ne hname hw.visible _

theorem items_of_unread_eq_blank {s : Scanner} (hs : s.failed = false) (h : s.unread = last)
    (hlast : Text.AllBlank last) : s.items = [] := by
  apply Scanner.items_of_none
  rw [Scanner.next_of_gap hs (h.trans (List.append_nil last).symm) hlast (TokenKind.bounds_nil _)]
  have hend : (s.skip last).unread = [] :=
    Scanner.unread_skip (h.trans (List.append_nil last).symm)
  rw [Scanner.next_of_unread_eq_nil hend]

theorem next_of_unread_eq_word {s : Scanner} {w : Word} {rest : List Char} (hs : s.failed = false)
    (h : s.unread = w.text ++ rest) (hw : w.Spelled) (hrest : w.kind.Bounds rest) :
    s.next = (some (.token (w.token s.position)), s.skip w.text) := by
  rw [Word.text, List.append_assoc] at h
  have hgap : TokenKind.blank.Bounds (w.lexeme ++ rest) :=
    TokenKind.bounds_of_startedBy? (hw.spelling.startedBy? rest) hw.visible.symm
  have hskip : (s.skip w.gap).failed = false := hs
  rw [Scanner.next_of_gap hs h hw.blank hgap,
    Scanner.next_of_unread hskip (Scanner.unread_skip h) hw.spelling hrest, if_neg hw.visible,
    Scanner.skip_skip]
  rfl

/-- A scanner ahead of words yields their tokens, and then what it yields after them. -/
theorem items_of_words {s : Scanner} {rest : List Char} (hs : s.failed = false)
    (h : s.unread = text words ++ rest) (hwords : ∀ w ∈ words, w.Spelled)
    (hapart : words.IsChain Word.Apart) (hrest : TokenKind.name.Bounds rest) :
    s.items = (tokens s.position words).map .token ++ (s.skip (text words)).items := by
  induction words generalizing s with
  | nil => rfl
  | cons w words ih =>
      obtain ⟨hw, hwords⟩ := List.forall_mem_cons.mp hwords
      rw [text_cons, List.append_assoc] at h
      have hnext := next_of_unread_eq_word hs h hw (bounds_text hw hwords hapart hrest)
      have hskip : (s.skip w.text).failed = false := hs
      rw [Scanner.items_of_some (congrArg Prod.fst hnext), hnext,
        ih hskip (Scanner.unread_skip h) hwords hapart.tail, Scanner.skip_skip,
        Scanner.position_skip, text_cons]
      rfl

theorem items_of_unread {s : Scanner} (hs : s.failed = false) (h : s.unread = text words ++ last)
    (hwords : ∀ w ∈ words, w.Spelled) (hapart : words.IsChain Word.Apart)
    (hlast : Text.AllBlank last) : s.items = (tokens s.position words).map .token := by
  have hskip : (s.skip (text words)).failed = false := hs
  rw [items_of_words hs h hwords hapart (bounds_name_of_allBlank hlast),
    items_of_unread_eq_blank hskip (Scanner.unread_skip h) hlast, List.append_nil]

/-- However the blanks are laid out, as long as no two names touch, scanning words that are written
one after the other yields each of them as a token, placed after all that was written before it. -/
theorem scan_layout (hwords : ∀ w ∈ words, w.Spelled) (hapart : words.IsChain Word.Apart)
    (hlast : Text.AllBlank last) :
    scan (String.ofList (text words ++ last)) =
      words.mapIdx fun i w => .token (w.token (text (words.take i)).length) := by
  have hunread : (Scanner.start (String.ofList (text words ++ last))).unread = text words ++ last :=
    String.toList_ofList
  rw [← items_eq_mapIdx]
  exact items_of_unread rfl hunread hwords hapart hlast

def slashesAndNames : List Word :=
  [⟨[], .disjunction, ['\\', '/']⟩, ⟨[], .conjunction, ['/', '\\']⟩, ⟨[], .name, ['ψ', 'p']⟩,
    ⟨['\u3000', '\n'], .name, ['q']⟩, ⟨[], .negation, ['¬']⟩]

theorem scan_slashes_and_names :
    (∀ w ∈ slashesAndNames, w.Spelled) ∧ slashesAndNames.IsChain Word.Apart ∧
      scan "\\//\\ψp\u3000\nq¬\t" =
        [.token ⟨.disjunction, "\\/", 0⟩, .token ⟨.conjunction, "/\\", 2⟩,
          .token ⟨.name, "ψp", 4⟩, .token ⟨.name, "q", 8⟩, .token ⟨.negation, "¬", 9⟩] := by
  have hwords : ∀ w ∈ slashesAndNames, w.Spelled := by decide +kernel
  have hapart : slashesAndNames.IsChain Word.Apart := by decide
  have hlast : Text.AllBlank ['\t'] := by decide
  exact ⟨hwords, hapart, scan_layout hwords hapart hlast⟩

end Layout

end Propositional
