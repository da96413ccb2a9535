import Propositional.Proofs.Reading.Stage

namespace Propositional

namespace Reading

variable {registry : Registry}

@[simp] theorem noteAll_nil (c : Cursor) : noteAll [] c = c := rfl

@[simp] theorem lookahead_noteAll (done : List ReadingStep) (c : Cursor) :
    (noteAll done c).lookahead = c.lookahead := rfl

theorem noteAll_note (done : List ReadingStep) (step : ReadingStep) (c : Cursor) :
    noteAll done (c.note step) = noteAll (done ++ [step]) c := by
  simp [noteAll, Cursor.note]

theorem acceptance_of_unary {t : Token} {u : UnaryConnective}
    (h : registry.unary? (some t) = some u) : acceptance t = [] := by
  have hkind := (Registry.unary?_eq_some_iff.mp h).2
  cases u
  simp [acceptance, ← hkind, UnaryConnective.kind]

theorem acceptance_of_binary {t : Token} {b : BinaryConnective}
    (h : registry.binary? (some t) = some b) : acceptance t = [] := by
  have hkind := (Registry.binary?_eq_some_iff.mp h).2
  cases b <;> simp [acceptance, ← hkind, BinaryConnective.kind]

def ending (f : Formula) (c : Cursor) : Outcome Formula :=
  match c.lookahead with
  | some t => .error (.misplaced ⟨some t, none⟩) c
  | none => .ok f c

/-- What is left to do when the climb that reads the innermost frame has ended. -/
def afterClimb (registry : Registry) : List Frame → Formula → Cursor → Outcome Formula
  | [], f, c => ending f c
  | .right left b :: frames, f, c =>
      (climb registry (.binary left b f) (minimum frames)
        (c.note (.joined b (minimum frames)))).bind (afterClimb registry frames)
  | .group pending :: frames, f, c =>
      (close f c).bind fun g next =>
        (climb registry (applyUnaries pending g) (minimum frames) next).bind
          (afterClimb registry frames)

def proceed (registry : Registry) (frames : List Frame) (f : Formula) (c : Cursor) :
    Outcome Formula :=
  (climb registry f (minimum frames) c).bind (afterClimb registry frames)

/-- What is left to do at a stage, once its lookahead has been pulled. -/
def Stage.resume (registry : Registry) : Stage → Cursor → Outcome Formula
  | .beforeTerm pending frames, c =>
      (term registry c).bind fun f next => proceed registry frames (applyUnaries pending f) next
  | .afterTerm f frames, c => proceed registry frames f c

theorem proceed_of_exceeds {frames : List Frame} {f : Formula} {c : Cursor} {b : BinaryConnective}
    (hb : registry.binary? c.lookahead = some b) (hm : minimum frames < b.precedence) :
    proceed registry frames f c =
      c.pull.bind fun _ next => (Stage.beforeTerm [] (.right f b :: frames)).resume registry next := by
  rw [proceed, climb_eq, hb]
  simp only [if_pos hm, Outcome.bind_assoc]
  rfl

theorem proceed_of_not_exceeds {frames : List Frame} {f : Formula} {c : Cursor}
    (h : ¬ Exceeds (registry.binary? c.lookahead) (minimum frames)) :
    proceed registry frames f c = afterClimb registry frames f c := by
  rw [proceed, climb_eq]
  split
  · rfl
  · next b hb =>
      rw [hb, exceeds_some_iff] at h
      rw [if_neg h]
      rfl

theorem proceed_eq_settled {frames : List Frame} {f : Formula} {c : Cursor}
    {next : Option BinaryConnective} (hnext : registry.binary? c.lookahead = next) :
    proceed registry frames f c =
      proceed registry (settle next f frames).2 (settle next f frames).1
        (noteAll (joins next frames) c) := by
  induction frames generalizing f c with
  | nil => rfl
  | cons frame frames ih =>
      cases frame with
      | group pending => rfl
      | right left b =>
          by_cases h : Exceeds next b.precedence
          · simp [settle, joins, if_pos h]
          · have hstop : ¬ Exceeds (registry.binary? c.lookahead)
                (minimum (.right left b :: frames)) := by rwa [hnext]
            rw [proceed_of_not_exceeds hstop, settle, joins, if_neg h, if_neg h, ← noteAll_note]
            exact ih (c := c.note (.joined b (minimum frames))) hnext

theorem resume_of_none {s : Stage} {c : Cursor} (h : c.lookahead = none) :
    s.resume registry c = conclude s.finish (noteAll (s.joinsAt registry none) c) := by
  cases s with
  | beforeTerm pending frames =>
      rw [Stage.resume, term_eq, h]
      rfl
  | afterTerm f frames =>
      have hbinary : registry.binary? c.lookahead = none := by rw [h]; rfl
      rw [Stage.resume, proceed_eq_settled hbinary, Stage.finish, Stage.joinsAt]
      rw [proceed_of_not_exceeds (by simp [h])]
      rcases settle_none_cases f frames with ⟨g, hsettle⟩ | ⟨g, pending, outer, hsettle⟩
      · simp [hsettle, afterClimb, ending, conclude, h]
      · simp [hsettle, afterClimb, close_eq, conclude, h]

theorem resume_beforeTerm_of_token {pending : List UnaryConnective} {frames : List Frame}
    {c : Cursor} {t : Token} (h : c.lookahead = some t) :
    (Stage.beforeTerm pending frames).resume registry c =
      match (Stage.beforeTerm pending frames).step registry t with
      | .ok next => (noteAll (acceptance t) c).pull.bind fun _ last => next.resume registry last
      | .error fault => .error (.misplaced fault) c := by
  rw [Stage.resume, term_eq, h]
  by_cases hname : t.kind = .name
  · simp [Stage.step, Stage.resume, hname, acceptance, Outcome.bind_assoc, Cursor.accept,
      Cursor.note, noteAll]
  by_cases hopening : t.kind = .opening
  · simp only [Stage.step, acceptance, hopening, reduceCtorEq, ↓reduceIte, or_true, true_or]
    simp only [group_eq, formula_eq, Outcome.bind_assoc]
    rfl
  cases hu : registry.unary? (some t) with
  | none => simp [Stage.step, hname, hopening, hu]
  | some u =>
      simp [Stage.step, Stage.resume, hname, hopening, hu, acceptance_of_unary hu,
        Outcome.bind_assoc]

theorem resume_afterTerm_of_token {f : Formula} {frames : List Frame} {c : Cursor} {t : Token}
    (h : c.lookahead = some t) :
    (Stage.afterTerm f frames).resume registry c =
      match (Stage.afterTerm f frames).step registry t with
      | .ok next =>
          (noteAll (acceptance t ++ joins (registry.binary? (some t)) frames) c).pull.bind
            fun _ last => next.resume registry last
      | .error fault =>
          .error (.misplaced fault) (noteAll (joins (registry.binary? (some t)) frames) c) := by
  have hbinary : registry.binary? c.lookahead = registry.binary? (some t) := by rw [h]
  rw [Stage.resume, proceed_eq_settled hbinary]
  cases hb : registry.binary? (some t) with
  | some b =>
      have hahead : registry.binary?
          (noteAll (joins (some b) frames) c).lookahead = some b := by
        rw [lookahead_noteAll, hbinary, hb]
      rw [proceed_of_exceeds hahead (minimum_settle_lt b f frames)]
      simp [Stage.step, hb, acceptance_of_binary hb]
  | none =>
      rw [proceed_of_not_exceeds (by simp [hbinary, hb])]
      rcases settle_none_cases f frames with ⟨g, hsettle⟩ | ⟨g, pending, outer, hsettle⟩
      · simp [Stage.step, hb, hsettle, afterClimb, ending, h]
      · by_cases hclosing : t.kind = .closing
        · simp [Stage.step, hb, hsettle, afterClimb, close_eq, h, hclosing, acceptance,
            Cursor.accept, Cursor.note, noteAll, Outcome.bind_assoc]
          rfl
        · simp [Stage.step, hb, hsettle, afterClimb, close_eq, h, hclosing]

theorem resume_of_token {s : Stage} {c : Cursor} {t : Token} (h : c.lookahead = some t) :
    s.resume registry c =
      match s.step registry t with
      | .ok next =>
          (noteAll (acceptance t ++ s.joinsAt registry (some t)) c).pull.bind fun _ last =>
            next.resume registry last
      | .error fault => .error (.misplaced fault) (noteAll (s.joinsAt registry (some t)) c) := by
  cases s with
  | beforeTerm pending frames =>
      simpa [Stage.joinsAt] using resume_beforeTerm_of_token h
  | afterTerm f frames => exact resume_afterTerm_of_token h

/-- What the recursion does from a stage on is the run from that stage over the unread feed. -/
theorem pull_bind_resume (s : Stage) (last : Option Token) (done : List ReadingStep)
    (feed : Feed) :
    ((Cursor.mk last feed done).pull.bind fun _ next => s.resume registry next) =
      s.run registry last done feed := by
  fun_induction Stage.run registry s last done feed with
  | case1 s last done => exact resume_of_none rfl
  | case2 s last done rest => exact resume_of_none rfl
  | case3 s last done fault rest => rfl
  | case4 s last done t rest noted next hstep ih =>
      let c : Cursor := ⟨some t, rest, .pulled (some (.token t)) :: done⟩
      have hlookahead : c.lookahead = some t := rfl
      change s.resume registry c = _
      rw [resume_of_token hlookahead, hstep, ← ih]
      simp [c, noted, noteAll]
  | case5 s last done t rest noted fault hstep =>
      let c : Cursor := ⟨some t, rest, .pulled (some (.token t)) :: done⟩
      have hlookahead : c.lookahead = some t := rfl
      change s.resume registry c = _
      rw [resume_of_token hlookahead, hstep]
      rfl

theorem ofFeed_eq_run (registry : Registry) (feed : Feed) :
    ofFeed registry feed = Stage.start.run registry none [] feed := by
  rw [← pull_bind_resume]
  simp only [ofFeed, toEnd, formula_eq, Outcome.bind_assoc]
  rfl

end Reading

namespace Feed

def tokens : Feed → List Token
  | some (.token t) :: rest => t :: tokens rest
  | _ => []

/-- The invalid character that ends the leading tokens, if that is what ends them. -/
def fault? : Feed → Option InvalidCharacter
  | some (.token _) :: rest => fault? rest
  | some (.invalid fault) :: _ => some fault
  | _ => none

theorem tokens_map (ts : List Token) :
    tokens (ts.map fun t => some (.token t)) = ts := by
  induction ts with
  | nil => rfl
  | cons t rest ih => exact congrArg (t :: ·) ih

theorem fault?_map (ts : List Token) :
    fault? (ts.map fun t => some (.token t)) = none := by
  induction ts with
  | nil => rfl
  | cons t rest ih => exact ih

end Feed

namespace Reading

variable {registry : Registry}

def Stage.answer (s : Stage) : Option InvalidCharacter → Except ReadingError Formula
  | some fault => .error (.invalid fault)
  | none => s.finish.mapError .misplaced

theorem answer_none_of_ok {s : Stage} {f : Formula} (h : s.finish = .ok f) :
    s.answer none = .ok f := by
  rw [Stage.answer, h]
  rfl

theorem answer_none_of_error {s : Stage} {fault : SyntaxError} (h : s.finish = .error fault) :
    s.answer none = .error (.misplaced fault) := by
  rw [Stage.answer, h]
  rfl

theorem answer_none_eq_ok_iff {s : Stage} {f : Formula} :
    s.answer none = .ok f ↔ s.finish = .ok f := by
  rcases hfinish : s.finish with fault | g
  · simp [answer_none_of_error hfinish]
  · simp [answer_none_of_ok hfinish]

theorem answer_none_eq_misplaced_iff {s : Stage} {fault : SyntaxError} :
    s.answer none = .error (.misplaced fault) ↔ s.finish = .error fault := by
  rcases hfinish : s.finish with fault' | g
  · simp [answer_none_of_error hfinish]
  · simp [answer_none_of_ok hfinish]

theorem result_conclude (result : Except SyntaxError Formula) (c : Cursor) :
    (conclude result c).result = result.mapError .misplaced := by
  cases result <;> rfl

@[simp] theorem cursor_conclude (result : Except SyntaxError Formula) (c : Cursor) :
    (conclude result c).cursor = c := by
  cases result <;> rfl

theorem result_run (s : Stage) (last : Option Token) (done : List ReadingStep) (feed : Feed) :
    (s.run registry last done feed).result =
      match s.steps registry feed.tokens with
      | .ok next => next.answer feed.fault?
      | .error fault => .error (.misplaced fault) := by
  fun_induction Stage.run registry s last done feed with
  | case1 s last done => exact result_conclude _ _
  | case2 s last done rest => exact result_conclude _ _
  | case3 s last done fault rest => rfl
  | case4 s last done t rest noted next hstep ih =>
      rw [Feed.tokens, Feed.fault?, Stage.steps_cons_of_ok hstep]
      exact ih
  | case5 s last done t rest noted fault hstep =>
      rw [Feed.tokens, Stage.steps_cons_of_error hstep]
      rfl

theorem result_ofFeed (registry : Registry) (feed : Feed) :
    (ofFeed registry feed).result =
      match Stage.start.steps registry feed.tokens with
      | .ok next => next.answer feed.fault?
      | .error fault => .error (.misplaced fault) := by
  rw [ofFeed_eq_run, result_run]

theorem readTokens_eq (registry : Registry) (ts : List Token) :
    Formula.readTokens registry ts =
      match Stage.start.steps registry ts with
      | .ok next => next.answer none
      | .error fault => .error (.misplaced fault) := by
  rw [Formula.readTokens, ofTokens, result_ofFeed, Feed.tokens_map, Feed.fault?_map]

theorem readTokens_eq_ok_iff {ts : List Token} {f : Formula} :
    Formula.readTokens registry ts = .ok f ↔
      ∃ s, Stage.start.steps registry ts = .ok s ∧ s.finish = .ok f := by
  rw [readTokens_eq]
  rcases Stage.start.steps registry ts with fault | s
  · simp
  · simp [answer_none_eq_ok_iff]

theorem readTokens_eq_misplaced_iff {ts : List Token} {fault : SyntaxError} :
    Formula.readTokens registry ts = .error (.misplaced fault) ↔
      Stage.start.steps registry ts = .error fault ∨
        ∃ s, Stage.start.steps registry ts = .ok s ∧ s.finish = .error fault := by
  rw [readTokens_eq]
  rcases Stage.start.steps registry ts with fault' | s
  · simp
  · simp [answer_none_eq_misplaced_iff]

theorem readTokens_ok_or_misplaced (registry : Registry) (ts : List Token) :
    (∃ f, Formula.readTokens registry ts = .ok f) ∨
      ∃ fault, Formula.readTokens registry ts = .error (.misplaced fault) := by
  simp only [readTokens_eq_ok_iff, readTokens_eq_misplaced_iff]
  rcases Stage.start.steps registry ts with fault | s
  · exact .inr ⟨fault, .inl rfl⟩
  · rcases hfinish : s.finish with fault | f
    · exact .inr ⟨fault, .inr ⟨s, rfl, hfinish⟩⟩
    · exact .inl ⟨f, s, rfl, hfinish⟩

end Reading

end Propositional
