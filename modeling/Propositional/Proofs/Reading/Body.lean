import Propositional.Reading.Descent

namespace Propositional

theorem Cursor.isSome_of_lookahead {c : Cursor} {t : Token} (h : c.lookahead = some t) :
    c.lookahead.isSome = true :=
  Option.isSome_iff_exists.mpr ⟨t, h⟩

namespace Reading

inductive Routine where
  | term
  | group
  | negation
  | formula
  | climb
  deriving DecidableEq, Repr

/-- Without using up a token, a routine calls routines of lower rank only. -/
def Routine.rank : Routine → Nat
  | negation => 0
  | climb => 0
  | term => 1
  | formula => 2
  | group => 3

/-- A routine with its arguments. In the loop of a climb each turn is the start of a climb from the
formula that has been joined. -/
inductive Call where
  | term (c : Cursor)
  | group (c : Cursor)
  | negation (u : UnaryConnective) (c : Cursor) (h : c.lookahead.isSome = true)
  | formula (c : Cursor)
  | climb (left : Formula) (minimum : Nat) (c : Cursor)
  deriving DecidableEq

namespace Call

def routine : Call → Routine
  | term _ => .term
  | group _ => .group
  | negation _ _ _ => .negation
  | formula _ => .formula
  | climb _ _ _ => .climb

def cursor : Call → Cursor
  | term c => c
  | group c => c
  | negation _ c _ => c
  | formula c => c
  | climb _ _ c => c

/-- What the routine answers. -/
def value (registry : Registry) : Call → Outcome Formula
  | term c => Reading.term registry c
  | group c => Reading.group registry c
  | negation u c h => (negationBounded registry u c h).val
  | formula c => Reading.formula registry c
  | climb left minimum c => Reading.climb registry left minimum c

end Call

/-- The rest of a body. An error of a call that it makes is its own answer. -/
inductive Body where
  | answer (o : Outcome Formula)
  | call (callee : Call) (k : Formula → Cursor → Body)
  | again (turn : Call)

namespace Body

def after (o : Outcome Unit) (k : Cursor → Body) : Body :=
  match o with
  | .ok _ next => k next
  | .error fault last => answer (.error fault last)

/-- Answer what the callee answers. -/
def last (callee : Call) : Body :=
  call callee fun f next => answer (.ok f next)

end Body

/-- The body of a routine, with the calls that it makes left open. -/
def Call.body (registry : Registry) : Call → Body
  | term c =>
      match h : c.lookahead with
      | none => .answer (.error (.misplaced ⟨none, none⟩) c)
      | some t =>
          if t.kind = .name then
            .after (c.accept t) fun next => .answer (.ok (.atom t.lexeme) next)
          else if t.kind = .opening then .after (c.accept t) fun next => .last (group next)
          else
            match registry.unary? (some t) with
            | some u => .last (negation u c (Cursor.isSome_of_lookahead h))
            | none => .answer (.error (.misplaced ⟨some t, none⟩) c)
  | group c => .call (formula c) fun f next => .answer (close f next)
  | negation u c _ =>
      .after c.pull fun next =>
        .call (term next) fun operand last => .answer (.ok (.unary u operand) last)
  | formula c => .call (term c) fun left next => .last (climb left 0 next)
  | climb left minimum c =>
      match registry.binary? c.lookahead with
      | none => .answer (.ok left c)
      | some b =>
          if minimum < b.precedence then
            .after c.pull fun c₁ =>
              .call (term c₁) fun operand c₂ =>
                .call (climb operand b.precedence c₂) fun right c₃ =>
                  .again (climb (.binary left b right) minimum (c₃.note (.joined b minimum)))
          else .answer (.ok left c)

namespace Body

/-- The answer of a body, by the answers of the calls that it makes. -/
def run (value : Call → Outcome Formula) : Body → Outcome Formula
  | answer o => o
  | call callee k => (value callee).bind fun f next => (k f next).run value
  | again turn => value turn

/-- The calls that are made, in order, the next turn of a loop apart. -/
def callees (value : Call → Outcome Formula) : Body → List Call
  | answer _ => []
  | call callee k =>
      callee :: match value callee with
        | .ok f next => (k f next).callees value
        | .error _ _ => []
  | again _ => []

def turn? (value : Call → Outcome Formula) : Body → Option Call
  | answer _ => none
  | call callee k =>
      match value callee with
      | .ok f next => (k f next).turn? value
      | .error _ _ => none
  | again turn => some turn

/-- The body comes to an end with this answer, and so does the body of each call that it makes. -/
inductive Ends (registry : Registry) : Body → Outcome Formula → Prop where
  | answer (o : Outcome Formula) : Ends registry (.answer o) o
  | call {callee k f next o} (h : Ends registry (callee.body registry) (.ok f next))
      (hk : Ends registry (k f next) o) : Ends registry (.call callee k) o
  | fault {callee k fault last} (h : Ends registry (callee.body registry) (.error fault last)) :
      Ends registry (.call callee k) (.error fault last)
  | again {turn o} (h : Ends registry (turn.body registry) o) : Ends registry (.again turn) o

theorem run_after (value : Call → Outcome Formula) (o : Outcome Unit) (k : Cursor → Body) :
    (after o k).run value = o.bind fun _ next => (k next).run value := by
  cases o <;> rfl

theorem run_last (value : Call → Outcome Formula) (callee : Call) :
    (last callee).run value = value callee := by
  change (value callee).bind _ = value callee
  cases value callee <;> rfl

end Body

namespace Call

variable {registry : Registry} {x y z : Call}

def callees (registry : Registry) (x : Call) : List Call :=
  (x.body registry).callees (value registry)

def nextTurn? (registry : Registry) (x : Call) : Option Call :=
  (x.body registry).turn? (value registry)

theorem value_negation (registry : Registry) (u : UnaryConnective) (c : Cursor)
    (h : c.lookahead.isSome = true) :
    (negation u c h).value registry =
      c.pull.bind fun _ next =>
        (Reading.term registry next).bind fun operand last => .ok (.unary u operand) last := by
  rw [value, negationBounded]
  exact Bounded.val_andThen _ _ _ fun _ _ _ => Bounded.val_andThen _ _ _ fun _ _ _ => rfl

/-- The routines answer what their bodies do when the routines answer the calls. -/
theorem value_eq_run (registry : Registry) (x : Call) :
    x.value registry = (x.body registry).run (value registry) := by
  cases x with
  | term c =>
      change Reading.term registry c = _
      rw [term_eq]
      obtain ⟨_ | t, unread, transcript⟩ := c
      · rfl
      dsimp only [body]
      by_cases hname : t.kind = .name
      · rw [if_pos hname, if_pos hname, Body.run_after]
        rfl
      by_cases hopening : t.kind = .opening
      · rw [if_neg hname, if_neg hname, if_pos hopening, if_pos hopening, Body.run_after]
        simp only [Body.run_last]
        rfl
      rw [if_neg hname, if_neg hname, if_neg hopening, if_neg hopening]
      rcases registry.unary? (some t) with _ | u
      · rfl
      · dsimp only
        rw [Body.run_last, value_negation]
  | group c => exact group_eq registry c
  | negation u c h =>
      rw [value_negation, body, Body.run_after]
      rfl
  | formula c =>
      change Reading.formula registry c = _
      rw [formula_eq, body, Body.run]
      simp only [Body.run_last]
      rfl
  | climb left minimum c =>
      change Reading.climb registry left minimum c = _
      rw [climb_eq, body]
      rcases registry.binary? c.lookahead with _ | b
      · rfl
      dsimp only
      by_cases hm : minimum < b.precedence
      · rw [if_pos hm, if_pos hm, Body.run_after]
        rfl
      · rw [if_neg hm, if_neg hm]
        rfl

end Call

theorem Body.eq_run_of_ends {registry : Registry} {b : Body} {o : Outcome Formula}
    (h : b.Ends registry o) : o = b.run (Call.value registry) := by
  induction h with
  | answer o => rfl
  | call hcallee hrest ihCallee ihRest =>
      rw [← Call.value_eq_run] at ihCallee
      rw [run, ← ihCallee]
      exact ihRest
  | fault hcallee ihCallee =>
      rw [← Call.value_eq_run] at ihCallee
      rw [run, ← ihCallee]
      rfl
  | again hturn ihTurn =>
      rw [← Call.value_eq_run] at ihTurn
      exact ihTurn

end Reading

end Propositional
