import Propositional.Reading.Source

/-!
Reading without recursion. Between two tokens a reader is before a term or after one, and what it
still has to do is a stack of frames: binary connectives whose right operand is being read, and
groups that are open. One token moves it from one stage to the next, and the end of the input makes
a formula of the last stage. A run over a feed repeats this until an answer is no token.
-/

namespace Propositional.Reading

/-- What encloses the term that is being read. The unary connectives of a group stand before its
opening parenthesis, the latest first. -/
inductive Frame where
  | right (left : Formula) (connective : BinaryConnective)
  | group (outer : List UnaryConnective)
  deriving DecidableEq, Repr

/-- Before a term, the unary connectives read since the latest frame are pending, the latest first. -/
inductive Stage where
  | beforeTerm (pending : List UnaryConnective) (frames : List Frame)
  | afterTerm (f : Formula) (frames : List Frame)
  deriving DecidableEq, Repr

def applyUnaries (pending : List UnaryConnective) (f : Formula) : Formula :=
  pending.foldl (fun g u => .unary u g) f

@[simp] theorem applyUnaries_nil (f : Formula) : applyUnaries [] f = f := rfl

@[simp] theorem applyUnaries_cons (u : UnaryConnective) (pending : List UnaryConnective)
    (f : Formula) : applyUnaries (u :: pending) f = applyUnaries pending (.unary u f) := rfl

def minimum : List Frame → Nat
  | .right _ b :: _ => b.precedence
  | _ => 0

@[simp] theorem minimum_nil : minimum [] = 0 := rfl

@[simp] theorem minimum_right (left : Formula) (b : BinaryConnective) (frames : List Frame) :
    minimum (.right left b :: frames) = b.precedence := rfl

@[simp] theorem minimum_group (outer : List UnaryConnective) (frames : List Frame) :
    minimum (.group outer :: frames) = 0 := rfl

/-- The connective ahead, if there is one, is taken by a climb with this minimum. -/
def Exceeds (next : Option BinaryConnective) (m : Nat) : Prop :=
  ∃ d, next = some d ∧ m < d.precedence

@[simp] theorem not_exceeds_none (m : Nat) : ¬ Exceeds none m := by
  rintro ⟨d, h, -⟩
  contradiction

@[simp] theorem exceeds_some_iff (d : BinaryConnective) (m : Nat) :
    Exceeds (some d) m ↔ m < d.precedence := by
  simp [Exceeds]

theorem Exceeds.mono {next : Option BinaryConnective} {m n : Nat} (h : Exceeds next n)
    (hle : m ≤ n) : Exceeds next m := by
  obtain ⟨d, hd, hlt⟩ := h
  exact ⟨d, hd, by omega⟩

instance (next : Option BinaryConnective) (m : Nat) : Decidable (Exceeds next m) :=
  match next with
  | none => .isFalse (not_exceeds_none m)
  | some d => decidable_of_iff _ (exceeds_some_iff d m).symm

/-- Join the right operands that end before the connective ahead. -/
def settle (next : Option BinaryConnective) : Formula → List Frame → Formula × List Frame
  | f, .right left b :: frames =>
      if Exceeds next b.precedence then (f, .right left b :: frames)
      else settle next (.binary left b f) frames
  | f, frames => (f, frames)

theorem settle_of_exceeds {next : Option BinaryConnective} {f : Formula} {frames : List Frame}
    (h : Exceeds next (minimum frames)) : settle next f frames = (f, frames) := by
  rcases frames with _ | ⟨⟨left, b⟩ | pending, frames⟩
  · rfl
  · exact if_pos h
  · rfl

theorem settle_suffix (next : Option BinaryConnective) (f : Formula) (frames : List Frame) :
    (settle next f frames).2 <:+ frames := by
  fun_induction settle next f frames with
  | case1 f left b frames hexceeds => exact List.suffix_refl _
  | case2 f left b frames hexceeds ih => exact ih.trans (List.suffix_cons _ _)
  | case3 f frames hnot => exact List.suffix_refl _

theorem exceeds_of_settle {next : Option BinaryConnective} {f g left : Formula}
    {b : BinaryConnective} {frames outer : List Frame}
    (h : settle next f frames = (g, .right left b :: outer)) : Exceeds next b.precedence := by
  fun_induction settle next f frames with
  | case1 f left' b' frames hexceeds =>
      cases h
      exact hexceeds
  | case2 f left' b' frames hexceeds ih => exact ih h
  | case3 f frames hnot =>
      cases h
      exact (hnot _ _ _ rfl).elim

theorem settle_none_cases (f : Formula) (frames : List Frame) :
    (∃ g, settle none f frames = (g, [])) ∨
      ∃ g pending outer, settle none f frames = (g, .group pending :: outer) := by
  match hsettle : settle none f frames with
  | (g, []) => exact .inl ⟨g, rfl⟩
  | (g, .group pending :: outer) => exact .inr ⟨g, pending, outer, rfl⟩
  | (g, .right left b :: outer) => exact (not_exceeds_none _ (exceeds_of_settle hsettle)).elim

theorem minimum_settle_lt (d : BinaryConnective) (f : Formula) (frames : List Frame) :
    minimum (settle (some d) f frames).2 < d.precedence := by
  match hsettle : settle (some d) f frames with
  | (g, []) => exact d.precedence_pos
  | (g, .group pending :: outer) => exact d.precedence_pos
  | (g, .right left b :: outer) => exact (exceeds_some_iff d _).mp (exceeds_of_settle hsettle)

def joins (next : Option BinaryConnective) : List Frame → List ReadingStep
  | .right _ b :: frames =>
      if Exceeds next b.precedence then []
      else joins next frames ++ [.joined b (minimum frames)]
  | _ => []

namespace Stage

def start : Stage :=
  .beforeTerm [] []

def joinsAt (registry : Registry) (ahead : Option Token) : Stage → List ReadingStep
  | beforeTerm _ _ => []
  | afterTerm _ frames => joins (registry.binary? ahead) frames

/-- The stage after a token, or why the token is not allowed. -/
def step (registry : Registry) (t : Token) : Stage → Except SyntaxError Stage
  | beforeTerm pending frames =>
      if t.kind = .name then .ok (afterTerm (applyUnaries pending (.atom t.lexeme)) frames)
      else if t.kind = .opening then .ok (beforeTerm [] (.group pending :: frames))
      else
        match registry.unary? (some t) with
        | some u => .ok (beforeTerm (u :: pending) frames)
        | none => .error ⟨some t, none⟩
  | afterTerm f frames =>
      match registry.binary? (some t), settle (registry.binary? (some t)) f frames with
      | some b, (g, outer) => .ok (beforeTerm [] (.right g b :: outer))
      | none, (g, .group pending :: outer) =>
          if t.kind = .closing then .ok (afterTerm (applyUnaries pending g) outer)
          else .error ⟨some t, some .closing⟩
      | none, _ => .error ⟨some t, none⟩

inductive Moves (registry : Registry) (t : Token) : Stage → Stage → Prop where
  | name {pending frames} (hkind : t.kind = .name) :
      Moves registry t (beforeTerm pending frames)
        (afterTerm (applyUnaries pending (.atom t.lexeme)) frames)
  | opening {pending frames} (hkind : t.kind = .opening) :
      Moves registry t (beforeTerm pending frames) (beforeTerm [] (.group pending :: frames))
  | unary {pending frames u} (hu : registry.unary? (some t) = some u) :
      Moves registry t (beforeTerm pending frames) (beforeTerm (u :: pending) frames)
  | binary {f g frames outer b} (hb : registry.binary? (some t) = some b)
      (hsettle : settle (some b) f frames = (g, outer)) :
      Moves registry t (afterTerm f frames) (beforeTerm [] (.right g b :: outer))
  | closing {f g frames pending outer} (hkind : t.kind = .closing)
      (hsettle : settle none f frames = (g, .group pending :: outer)) :
      Moves registry t (afterTerm f frames) (afterTerm (applyUnaries pending g) outer)

/-- The formula that has been read when the input ends, or what is missing. -/
def finish : Stage → Except SyntaxError Formula
  | beforeTerm _ _ => .error ⟨none, none⟩
  | afterTerm f frames =>
      match settle none f frames with
      | (_, .group _ :: _) => .error ⟨none, some .closing⟩
      | (g, _) => .ok g

def steps (registry : Registry) : List Token → Stage → Except SyntaxError Stage
  | [], s => .ok s
  | t :: rest, s =>
      match s.step registry t with
      | .ok next => next.steps registry rest
      | .error fault => .error fault

variable {registry : Registry} {t : Token} {s next : Stage}

theorem step_of_moves (h : Moves registry t s next) : s.step registry t = .ok next := by
  cases h with
  | name hkind => simp [step, hkind]
  | opening hkind => simp [step, hkind]
  | unary hu =>
      have hkind := (Registry.unary?_eq_some_iff.mp hu).2
      rename_i u
      cases u
      simp [step, hu, ← hkind, UnaryConnective.kind]
  | binary hb hsettle => simp [step, hb, hsettle]
  | closing hkind hsettle =>
      simp [step, hkind, hsettle, Registry.binary?_of_closing hkind]

theorem moves_of_step (h : s.step registry t = .ok next) : Moves registry t s next := by
  rcases s with ⟨pending, frames⟩ | ⟨f, frames⟩
  · rw [step] at h
    by_cases hname : t.kind = .name
    · rw [if_pos hname] at h
      obtain rfl := Except.ok.inj h
      exact .name hname
    by_cases hopening : t.kind = .opening
    · rw [if_neg hname, if_pos hopening] at h
      obtain rfl := Except.ok.inj h
      exact .opening hopening
    rw [if_neg hname, if_neg hopening] at h
    split at h
    · next u hu =>
        obtain rfl := Except.ok.inj h
        exact .unary hu
    · contradiction
  · rw [step] at h
    split at h
    · next b g outer hb hsettle =>
        obtain rfl := Except.ok.inj h
        rw [hb] at hsettle
        exact .binary hb hsettle
    · next g pending outer hb hsettle =>
        rw [hb] at hsettle
        split at h
        · next hclosing =>
            obtain rfl := Except.ok.inj h
            exact .closing hclosing hsettle
        · contradiction
    · contradiction

theorem step_eq_ok_iff : s.step registry t = .ok next ↔ Moves registry t s next :=
  ⟨moves_of_step, step_of_moves⟩

theorem found_of_step {fault : SyntaxError} (h : s.step registry t = .error fault) :
    fault.found = some t := by
  rcases s with ⟨pending, frames⟩ | ⟨f, frames⟩
  · rw [step] at h
    split at h
    · contradiction
    · split at h
      · contradiction
      · split at h
        · contradiction
        · rw [← Except.error.inj h]
  · rw [step] at h
    split at h
    · contradiction
    · split at h
      · contradiction
      · rw [← Except.error.inj h]
    · rw [← Except.error.inj h]

theorem found_of_finish {fault : SyntaxError} (h : s.finish = .error fault) :
    fault.found = none := by
  rcases s with ⟨pending, frames⟩ | ⟨f, frames⟩
  · rw [← Except.error.inj h]
  · rcases settle_none_cases f frames with ⟨g, hsettle⟩ | ⟨g, pending, outer, hsettle⟩
    · rw [finish, hsettle] at h
      contradiction
    · rw [finish, hsettle] at h
      rw [← Except.error.inj h]

@[simp] theorem steps_nil (s : Stage) : s.steps registry [] = .ok s := rfl

theorem steps_cons_of_ok (h : s.step registry t = .ok next) (rest : List Token) :
    s.steps registry (t :: rest) = next.steps registry rest := by
  rw [steps, h]

theorem steps_cons_of_error {fault : SyntaxError} (h : s.step registry t = .error fault)
    (rest : List Token) : s.steps registry (t :: rest) = .error fault := by
  rw [steps, h]

theorem steps_append (ts us : List Token) :
    s.steps registry (ts ++ us) =
      match s.steps registry ts with
      | .ok next => next.steps registry us
      | .error fault => .error fault := by
  induction ts generalizing s with
  | nil => rfl
  | cons t rest ih =>
      rw [List.cons_append]
      rcases hstep : s.step registry t with fault | next
      · rw [steps_cons_of_error hstep, steps_cons_of_error hstep]
      · rw [steps_cons_of_ok hstep, steps_cons_of_ok hstep]
        exact ih

theorem steps_append_of_ok {ts : List Token} {next : Stage} (h : s.steps registry ts = .ok next)
    (us : List Token) : s.steps registry (ts ++ us) = next.steps registry us := by
  rw [steps_append, h]

theorem exists_steps_concat_iff {ts : List Token} {t : Token} {next : Stage}
    (h : s.steps registry ts = .ok next) :
    (∃ last, s.steps registry (ts ++ [t]) = .ok last) ↔ ∃ last, next.step registry t = .ok last := by
  rw [steps_append_of_ok h]
  rcases hstep : next.step registry t with fault | last
  · simp [steps_cons_of_error hstep]
  · simp [steps_cons_of_ok hstep]

theorem exists_of_steps_eq_error {ts : List Token} {fault : SyntaxError}
    (h : s.steps registry ts = .error fault) :
    ∃ before t after next, ts = before ++ t :: after ∧ s.steps registry before = .ok next ∧
      next.step registry t = .error fault := by
  induction ts generalizing s with
  | nil => contradiction
  | cons t rest ih =>
      rcases hstep : s.step registry t with fault' | next
      · rw [steps_cons_of_error hstep, Except.error.injEq] at h
        subst h
        exact ⟨[], t, rest, s, rfl, rfl, hstep⟩
      · rw [steps_cons_of_ok hstep] at h
        obtain ⟨before, u, after, last, rfl, hbefore, hlast⟩ := ih h
        refine ⟨t :: before, u, after, last, rfl, ?_, hlast⟩
        rw [steps_cons_of_ok hstep, hbefore]

end Stage

def acceptance (t : Token) : List ReadingStep :=
  if t.kind = .name ∨ t.kind = .opening ∨ t.kind = .closing then [.accepted t] else []

def noteAll (done : List ReadingStep) (c : Cursor) : Cursor :=
  { c with transcript := done ++ c.transcript }

def conclude (result : Except SyntaxError Formula) (c : Cursor) : Outcome Formula :=
  match result with
  | .ok f => .ok f c
  | .error fault => .error (.misplaced fault) c

/-- Read a feed from a stage on. The token taken last stays the lookahead when the next answer is
an invalid character. -/
def Stage.run (registry : Registry) (s : Stage) (last : Option Token)
    (done : List ReadingStep) : Feed → Outcome Formula
  | [] =>
      conclude s.finish ⟨none, [], s.joinsAt registry none ++ .pulled none :: done⟩
  | none :: rest =>
      conclude s.finish ⟨none, rest, s.joinsAt registry none ++ .pulled none :: done⟩
  | some (.invalid fault) :: rest =>
      .error (.invalid fault) ⟨last, rest, .pulled (some (.invalid fault)) :: done⟩
  | some (.token t) :: rest =>
      let noted := s.joinsAt registry (some t) ++ .pulled (some (.token t)) :: done
      match s.step registry t with
      | .ok next => next.run registry (some t) (acceptance t ++ noted) rest
      | .error fault => .error (.misplaced fault) ⟨some t, rest, noted⟩

end Propositional.Reading
