import Propositional.Proofs.Token.Tiling

namespace Propositional

theorem forall_mem_modify {α : Type} {p : α → Prop} {l : List α} {i : Nat} {f : α → α}
    (hl : ∀ a ∈ l, p a) (hf : ∀ a, p a → p (f a)) : ∀ a ∈ l.modify i f, p a := by
  intro a ha
  obtain ⟨j, hj⟩ := List.mem_iff_getElem?.mp ha
  rw [List.getElem?_modify] at hj
  obtain ⟨b, hb, rfl⟩ := Option.map_eq_some_iff.mp hj
  have hp : p b := hl b (List.mem_of_getElem? hb)
  by_cases hij : i = j
  · rw [if_pos hij]
    exact hf b hp
  · rwa [if_neg hij]

namespace Scanner

/-- The source cut at the offset. It cannot be cut inside a character or past the end. -/
def cut? (s : Scanner) : Option (String × String) :=
  if h : String.Pos.Raw.IsValid s.source ⟨s.offset⟩ then
    let place := s.source.pos ⟨s.offset⟩ h
    some ((s.source.sliceTo place).copy, (s.source.sliceFrom place).copy)
  else none

/-- The offset is a place where the source can be cut. The position counts the characters before
the cut, and behind it is the unread text. -/
structure OnBoundary (source : String) (s : Scanner) : Prop where
  source_eq : s.source = source
  offset_le : s.offset ≤ source.utf8ByteSize
  isValid : String.Pos.Raw.IsValid source ⟨s.offset⟩
  cut : ∃ before, s.cut? = some (before, String.ofList s.unread) ∧ s.position = before.length

/-- The scanner has read these characters of the source. -/
structure PlacedAfter (source : String) (read : List Char) (s : Scanner) : Prop where
  source_eq : s.source = source
  text_eq : source.toList = read ++ s.unread
  offset_eq : s.offset = byteLength read
  position_eq : s.position = read.length

theorem utf8ByteSize_ofList (text : List Char) :
    (String.ofList text).utf8ByteSize = byteLength text := by
  induction text with
  | nil => rfl
  | cons c rest ih =>
      rw [String.ofList_cons, String.utf8ByteSize_append, String.utf8ByteSize_singleton, ih]
      rfl

theorem byteLength_pos {text : List Char} (h : text ≠ []) : 0 < byteLength text := by
  obtain ⟨c, rest, rfl⟩ := List.exists_cons_of_ne_nil h
  exact Nat.lt_of_lt_of_le c.utf8Size_pos (Nat.le_add_right ..)

namespace PlacedAfter

variable {source : String} {read : List Char} {s : Scanner}

theorem start (source : String) : (Scanner.start source).PlacedAfter source [] :=
  ⟨rfl, rfl, rfl, rfl⟩

theorem restart (h : s.PlacedAfter source read) : s.restart.PlacedAfter source [] := by
  rw [Scanner.restart, h.source_eq]
  exact start source

theorem fail (h : s.PlacedAfter source read) : s.fail.PlacedAfter source read :=
  ⟨h.source_eq, h.text_eq, h.offset_eq, h.position_eq⟩

theorem skip {lexeme : List Char} (h : s.PlacedAfter source read) (hlexeme : lexeme <+: s.unread) :
    (s.skip lexeme).PlacedAfter source (read ++ lexeme) := by
  obtain ⟨rest, hrest⟩ := hlexeme
  refine ⟨h.source_eq, ?_, ?_, ?_⟩
  · rw [unread_skip hrest.symm, h.text_eq, ← hrest, List.append_assoc]
  · rw [byteLength_append, ← h.offset_eq]
    rfl
  · rw [position_skip, List.length_append, h.position_eq]

theorem skip_firstLexeme? {order : List TokenKind} {kind : TokenKind} {lexeme : List Char}
    (h : s.PlacedAfter source read)
    (hlexeme : TokenKind.firstLexeme? order s.unread = some (kind, lexeme)) :
    (s.skip lexeme).PlacedAfter source (read ++ lexeme) :=
  h.skip (TokenKind.isPrefix_of_lexemeAt? (TokenKind.lexemeAt?_of_firstLexeme? hlexeme).2)

theorem nextBy (h : s.PlacedAfter source read) (order : List TokenKind) :
    ∃ read', (s.nextBy order).2.PlacedAfter source read' := by
  fun_induction Scanner.nextBy order s generalizing read with
  | case1 => exact ⟨read, h⟩
  | case2 => exact ⟨read, h⟩
  | case3 => exact ⟨read, h.fail⟩
  | case4 s hfailed c hhead lexeme hfound ih => exact ih (h.skip_firstLexeme? hfound)
  | case5 s hfailed c hhead kind lexeme hfound hkind => exact ⟨_, h.skip_firstLexeme? hfound⟩

theorem source_eq_append (h : s.PlacedAfter source read) :
    source = String.ofList read ++ String.ofList s.unread := by
  rw [← String.ofList_append, ← h.text_eq, String.ofList_toList]

theorem offset_eq_rawEndPos (h : s.PlacedAfter source read) :
    (⟨s.offset⟩ : String.Pos.Raw) = (String.ofList read).rawEndPos := by
  rw [h.offset_eq, ← utf8ByteSize_ofList]
  rfl

theorem isValid (h : s.PlacedAfter source read) : String.Pos.Raw.IsValid source ⟨s.offset⟩ :=
  String.Pos.Raw.isValid_iff_exists_append.mpr ⟨_, _, h.source_eq_append, h.offset_eq_rawEndPos⟩

theorem cut?_eq (h : s.PlacedAfter source read) :
    s.cut? = some (String.ofList read, String.ofList s.unread) := by
  have hvalid : String.Pos.Raw.IsValid s.source ⟨s.offset⟩ := h.source_eq.symm ▸ h.isValid
  have hsplits : (s.source.pos ⟨s.offset⟩ hvalid).Splits (String.ofList read)
      (String.ofList s.unread) :=
    ⟨h.source_eq.trans h.source_eq_append, h.offset_eq_rawEndPos⟩
  rw [cut?, dif_pos hvalid]
  simp only [hsplits.copy_sliceTo_eq, hsplits.copy_sliceFrom_eq]

theorem onBoundary (h : s.PlacedAfter source read) : s.OnBoundary source where
  source_eq := h.source_eq
  offset_le := by
    rw [h.offset_eq, h.source_eq_append, String.utf8ByteSize_append, utf8ByteSize_ofList]
    exact Nat.le_add_right ..
  isValid := h.isValid
  cut := ⟨String.ofList read, h.cut?_eq, by rw [h.position_eq, String.length_ofList]⟩

theorem position_add_length (h : s.PlacedAfter source read) :
    s.position + s.unread.length = source.length := by
  rw [h.position_eq, ← String.length_toList, h.text_eq, List.length_append]

end PlacedAfter

/-- A turn of the loop goes on with the next turn, or it answers the call. -/
inductive Turn where
  | onward (s : Scanner)
  | answer (item : Option Item) (s : Scanner)
  deriving DecidableEq, Repr

/-- What a turn does with the text that is ahead. -/
def turnAt (s : Scanner) (ahead : List Char) : Turn :=
  match ahead.head? with
  | none => .answer none s
  | some c =>
      match TokenKind.firstLexeme? TokenKind.all ahead with
      | none => .answer (some (.invalid ⟨c, s.position⟩)) s.fail
      | some (kind, lexeme) =>
          if kind = .blank then .onward (s.skip lexeme)
          else .answer (some (.token ⟨kind, String.ofList lexeme, s.position⟩)) (s.skip lexeme)

/-- One turn, which reads the text behind the offset. There is none if the source cannot be cut. -/
def turn? (s : Scanner) : Option Turn :=
  if s.failed then some (.answer none s)
  else s.cut?.map fun cut => s.turnAt cut.2.toList

/-- The loop takes a turn at each of these scanners, and then it answers. -/
inductive Loop : Scanner → List Scanner → Option Item → Scanner → Prop where
  | answer {s item next} (h : s.turn? = some (.answer item next)) : Loop s [s] item next
  | onward {s s' turns item next} (h : s.turn? = some (.onward s'))
      (hrest : Loop s' turns item next) : Loop s (s :: turns) item next

/-- Whatever goes on has read something, and so has what answers a token. What answers an invalid
character marks the scanner as failed. -/
def Turn.Progresses (s : Scanner) : Turn → Prop
  | .onward next => s.position < next.position
  | .answer (some (.token _)) next => s.position < next.position
  | .answer (some (.invalid _)) next => next.failed = true
  | .answer none next => next = s

section

variable {source : String} {read : List Char} {s : Scanner}

theorem turn?_of_failed (h : s.failed = true) : s.turn? = some (.answer none s) :=
  if_pos h

theorem turn?_of_placedAfter (h : s.PlacedAfter source read) (hfailed : ¬s.failed = true) :
    s.turn? = some (s.turnAt s.unread) := by
  rw [turn?, if_neg hfailed, h.cut?_eq, Option.map_some, String.toList_ofList]

theorem progresses_turnAt (s : Scanner) (ahead : List Char) : (s.turnAt ahead).Progresses s := by
  unfold turnAt
  split
  · rfl
  · split
    · rfl
    · next kind lexeme hfound =>
        have hpos : 0 < lexeme.length :=
          List.length_pos_iff.mpr (TokenKind.ne_nil_of_firstLexeme? hfound)
        have hlt : s.position < (s.skip lexeme).position := by
          rw [position_skip]
          omega
        split <;> exact hlt

theorem exists_turn (h : s.PlacedAfter source read) :
    ∃ turn, s.turn? = some turn ∧ turn.Progresses s := by
  by_cases hfailed : s.failed = true
  · exact ⟨_, turn?_of_failed hfailed, rfl⟩
  · exact ⟨_, turn?_of_placedAfter h hfailed, progresses_turnAt s s.unread⟩

theorem exists_loop_of_answer {item : Option Item} {last : Scanner} (h : s.PlacedAfter source read)
    (hturn : s.turn? = some (.answer item last)) :
    ∃ turns, s.Loop turns item last ∧ ∀ state ∈ turns, ∃ read', state.PlacedAfter source read' :=
  ⟨[s], .answer hturn, List.forall_mem_singleton.mpr ⟨read, h⟩⟩

/-- The loop, which reads the source behind the offset, answers what `next` answers. -/
theorem exists_loop (h : s.PlacedAfter source read) :
    ∃ turns, s.Loop turns s.next.1 s.next.2 ∧
      ∀ state ∈ turns, ∃ read', state.PlacedAfter source read' := by
  unfold next
  fun_induction nextBy TokenKind.all s generalizing read with
  | case1 s hfailed => exact exists_loop_of_answer h (turn?_of_failed hfailed)
  | case2 s hfailed hhead =>
      have hturn := turn?_of_placedAfter h hfailed
      rw [turnAt, hhead] at hturn
      exact exists_loop_of_answer h hturn
  | case3 s hfailed c hhead hnone =>
      have hturn := turn?_of_placedAfter h hfailed
      rw [turnAt, hhead, hnone] at hturn
      exact exists_loop_of_answer h hturn
  | case4 s hfailed c hhead lexeme hfound ih =>
      have hturn := turn?_of_placedAfter h hfailed
      rw [turnAt, hhead, hfound] at hturn
      obtain ⟨turns, hloop, hturns⟩ := ih (h.skip_firstLexeme? hfound)
      exact ⟨s :: turns, .onward hturn hloop, List.forall_mem_cons.mpr ⟨⟨read, h⟩, hturns⟩⟩
  | case5 s hfailed c hhead kind lexeme hfound hkind =>
      have hturn := turn?_of_placedAfter h hfailed
      rw [turnAt, hhead, hfound] at hturn
      dsimp only at hturn
      rw [if_neg hkind] at hturn
      exact exists_loop_of_answer h hturn

end

theorem offset_lt_of_token {order : List TokenKind} {s : Scanner} {t : Token}
    (h : (s.nextBy order).1 = some (.token t)) : s.offset < (s.nextBy order).2.offset := by
  fun_induction nextBy order s with
  | case1 => contradiction
  | case2 => contradiction
  | case3 => simp at h
  | case4 s hfailed c hhead lexeme hfound ih =>
      exact Nat.lt_of_le_of_lt (Nat.le_add_right ..) (ih h)
  | case5 s hfailed c hhead kind lexeme hfound hkind =>
      exact Nat.lt_add_of_pos_right (byteLength_pos (TokenKind.ne_nil_of_firstLexeme? hfound))

theorem length_itemsBy_le (order : List TokenKind) (s : Scanner) :
    (s.itemsBy order).length ≤ s.remaining := by
  fun_induction itemsBy order s with
  | case1 => exact Nat.zero_le _
  | case2 s item hsome ih =>
      have hlt := remaining_nextBy hsome
      rw [List.length_cons]
      omega

/-- What can be done to the scanners of one source. A clone is one more scanner, which starts where
the other stands. -/
inductive Operation where
  | next (i : Nat)
  | restart (i : Nat)
  | clone (i : Nat)
  deriving DecidableEq, Repr

def operate (scanners : List Scanner) : Operation → List Scanner
  | .next i => scanners.modify i fun s => s.next.2
  | .restart i => scanners.modify i restart
  | .clone i => scanners ++ scanners[i]?.toList

def operateAll (scanners : List Scanner) (operations : List Operation) : List Scanner :=
  operations.foldl operate scanners

section

variable {source : String} {scanners : List Scanner}

theorem placed_operate (h : ∀ s ∈ scanners, ∃ read, s.PlacedAfter source read)
    (operation : Operation) :
    ∀ s ∈ operate scanners operation, ∃ read, s.PlacedAfter source read := by
  cases operation with
  | next i => exact forall_mem_modify h fun _ ⟨_, hs⟩ => hs.nextBy TokenKind.all
  | restart i => exact forall_mem_modify h fun _ ⟨_, hs⟩ => ⟨[], hs.restart⟩
  | clone i =>
      intro s hs
      rcases List.mem_append.mp hs with hmem | hclone
      · exact h s hmem
      · exact h s (List.mem_of_getElem? (Option.mem_toList.mp hclone))

theorem placed_operateAll (h : ∀ s ∈ scanners, ∃ read, s.PlacedAfter source read)
    (operations : List Operation) :
    ∀ s ∈ operateAll scanners operations, ∃ read, s.PlacedAfter source read := by
  induction operations generalizing scanners with
  | nil => exact h
  | cons operation rest ih => exact ih (placed_operate h operation)

/-- However scanners over one source have been moved on, restarted and cloned, the source can be cut
at the offset of each of them, and its position counts the characters before the cut. A call of
`next` cuts the source at no other kind of place and ends: each turn gets on. A token moves the
offset on, and no more items are yielded than characters are left. -/
theorem onBoundary_of_mem_operateAll {operations : List Operation} {s : Scanner}
    (h : s ∈ operateAll [start source] operations) :
    s.OnBoundary source ∧
      (∃ turns, s.Loop turns s.next.1 s.next.2 ∧ ∀ state ∈ turns,
        state.OnBoundary source ∧ ∃ turn, state.turn? = some turn ∧ turn.Progresses state) ∧
      (∀ t, s.next.1 = some (.token t) → s.offset < s.next.2.offset) ∧
      s.position + s.items.length ≤ source.length := by
  have hstart : ∀ s ∈ [start source], ∃ read, s.PlacedAfter source read :=
    List.forall_mem_singleton.mpr ⟨[], .start source⟩
  obtain ⟨read, hs⟩ := placed_operateAll hstart operations s h
  refine ⟨hs.onBoundary, ?_, fun t ht => offset_lt_of_token ht, ?_⟩
  · obtain ⟨turns, hloop, hturns⟩ := exists_loop hs
    refine ⟨turns, hloop, ?_⟩
    intro state hstate
    obtain ⟨read', hplaced⟩ := hturns state hstate
    exact ⟨hplaced.onBoundary, exists_turn hplaced⟩
  · have hitems : s.items.length ≤ s.remaining := length_itemsBy_le TokenKind.all s
    have hremaining : s.remaining ≤ s.unread.length := by
      rw [remaining]
      split <;> omega
    have hsplit := hs.position_add_length
    omega

theorem onBoundary_of_clone :
    let s : Scanner := ⟨"¬ ψ$", [' ', 'ψ', '$'], 2, 1, false⟩
    (s ∈ operateAll [start "¬ ψ$"] [.next 0, .clone 0, .next 0, .restart 0] ∧
        s.next.1 = some (.token ⟨.name, "ψ", 2⟩)) ∧
      s.OnBoundary "¬ ψ$" ∧ (∃ turns, s.Loop turns s.next.1 s.next.2) ∧
        s.offset < s.next.2.offset ∧ s.position + s.items.length ≤ 4 := by
  intro s
  have hmem : s ∈ operateAll [start "¬ ψ$"] [.next 0, .clone 0, .next 0, .restart 0] := by
    decide +kernel
  have htoken : s.next.1 = some (.token ⟨.name, "ψ", 2⟩) := by decide +kernel
  obtain ⟨hboundary, ⟨turns, hloop, -⟩, hoffset, hitems⟩ := onBoundary_of_mem_operateAll hmem
  exact ⟨⟨hmem, htoken⟩, hboundary, ⟨turns, hloop⟩, hoffset _ htoken, hitems⟩

end

end Scanner

end Propositional
