import Propositional.Token.Spelling

namespace Propositional

/-- `offset` counts the bytes and `position` the characters read so far; `unread` is the text after
them. A scanner that has met an invalid character has failed. -/
structure Scanner where
  source : String
  unread : List Char
  offset : Nat
  position : Nat
  failed : Bool
  deriving DecidableEq, Repr

namespace Scanner

def start (source : String) : Scanner :=
  ⟨source, source.toList, 0, 0, false⟩

def restart (s : Scanner) : Scanner :=
  start s.source

def byteLength : List Char → Nat
  | [] => 0
  | c :: rest => c.utf8Size + byteLength rest

/-- Move past a lexeme at the start of the unread text. -/
def skip (s : Scanner) (lexeme : List Char) : Scanner :=
  { s with
    unread := s.unread.drop lexeme.length
    offset := s.offset + byteLength lexeme
    position := s.position + lexeme.length }

/-- Mark the scanner as ended by an invalid character. -/
def fail (s : Scanner) : Scanner :=
  { s with failed := true }

theorem length_unread_skip {order : List TokenKind} {s : Scanner} {kind : TokenKind}
    {lexeme : List Char} (h : TokenKind.firstLexeme? order s.unread = some (kind, lexeme)) :
    (s.skip lexeme).unread.length < s.unread.length := by
  have hne : lexeme ≠ [] := TokenKind.ne_nil_of_firstLexeme? h
  have hstart := TokenKind.isPrefix_of_lexemeAt? (TokenKind.lexemeAt?_of_firstLexeme? h).2
  have hpos : 0 < lexeme.length := List.length_pos_iff.mpr hne
  have hle : lexeme.length ≤ s.unread.length := hstart.length_le
  simp only [skip, List.length_drop]
  omega

/-- The next item, with the kinds of tokens tried in the given order, and the scanner after it. -/
def nextBy (order : List TokenKind) (s : Scanner) : Option Item × Scanner :=
  if s.failed then (none, s)
  else
    match s.unread.head? with
    | none => (none, s)
    | some c =>
        match _h : TokenKind.firstLexeme? order s.unread with
        | none => (some (.invalid ⟨c, s.position⟩), s.fail)
        | some (kind, lexeme) =>
            if kind = .blank then nextBy order (s.skip lexeme)
            else (some (.token ⟨kind, String.ofList lexeme, s.position⟩), s.skip lexeme)
termination_by s.unread.length
decreasing_by exact length_unread_skip ‹_›

theorem nextBy_eq (order : List TokenKind) (s : Scanner) :
    s.nextBy order =
      if s.failed then (none, s)
      else
        match s.unread.head? with
        | none => (none, s)
        | some c =>
            match TokenKind.firstLexeme? order s.unread with
            | none => (some (.invalid ⟨c, s.position⟩), s.fail)
            | some (kind, lexeme) =>
                if kind = .blank then (s.skip lexeme).nextBy order
                else (some (.token ⟨kind, String.ofList lexeme, s.position⟩), s.skip lexeme) := by
  rw [nextBy]
  split
  · rfl
  · split
    · rfl
    · split <;> simp_all

def next (s : Scanner) : Option Item × Scanner :=
  s.nextBy TokenKind.all

/-- The number of characters that remain to be scanned. -/
def remaining (s : Scanner) : Nat :=
  if s.failed then 0 else s.unread.length

theorem remaining_nextBy {order : List TokenKind} {s : Scanner} {item : Item}
    (h : (s.nextBy order).1 = some item) : (s.nextBy order).2.remaining < s.remaining := by
  fun_induction nextBy order s with
  | case1 => simp at h
  | case2 => simp at h
  | case3 s hfailed c hhead hnone =>
      have hne : s.unread ≠ [] := by
        rintro hnil
        simp [hnil] at hhead
      simpa [remaining, fail, hfailed] using List.length_pos_iff.mpr hne
  | case4 s hfailed c hhead lexeme hfound ih =>
      have hskip := length_unread_skip hfound
      have hkeep : (s.skip lexeme).failed = s.failed := rfl
      refine Nat.lt_trans (ih h) ?_
      simpa [remaining, hkeep, hfailed] using hskip
  | case5 s hfailed c hhead kind lexeme hfound hkind =>
      have hskip := length_unread_skip hfound
      have hkeep : (s.skip lexeme).failed = s.failed := rfl
      simpa [remaining, hkeep, hfailed] using hskip

/-- All items that are left. -/
def itemsBy (order : List TokenKind) (s : Scanner) : List Item :=
  match _h : (s.nextBy order).1 with
  | none => []
  | some item => item :: itemsBy order (s.nextBy order).2
termination_by s.remaining
decreasing_by exact remaining_nextBy ‹_›

theorem itemsBy_eq (order : List TokenKind) (s : Scanner) :
    s.itemsBy order =
      match (s.nextBy order).1 with
      | none => []
      | some item => item :: (s.nextBy order).2.itemsBy order := by
  rw [itemsBy]
  split <;> simp_all

def items (s : Scanner) : List Item :=
  s.itemsBy TokenKind.all

/-- Read up to the end or the first invalid character: the tokens read, or only that character. -/
def collect (s : Scanner) : Except InvalidCharacter (List Token) × Scanner :=
  match _h : s.next.1 with
  | none => (.ok [], s.next.2)
  | some (.invalid fault) => (.error fault, s.next.2)
  | some (.token t) =>
      match collect s.next.2 with
      | (.ok rest, last) => (.ok (t :: rest), last)
      | (.error fault, last) => (.error fault, last)
termination_by s.remaining
decreasing_by exact remaining_nextBy ‹_›

end Scanner

def scan (source : String) : List Item :=
  (Scanner.start source).items

end Propositional
