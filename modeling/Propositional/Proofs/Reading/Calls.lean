import Propositional.Proofs.Reading.Body
import Propositional.Proofs.Reading.Term

/-!
How far the calls of the recursive descent go. A call that is made either starts with fewer tokens
ahead, or at the same cursor but with a routine of lower rank. So the recursion ends: evaluating
bodies, and the bodies of the calls that they make, answers each call after finitely many steps, and
what it answers is what the routine answers.
-/

namespace Propositional

namespace Cursor

/-- What is still to be used: the lookahead, and then the answers that have not been asked for. -/
def ahead (c : Cursor) : Feed :=
  .ofTokens c.lookahead.toList ++ c.unread

def tokensAhead (c : Cursor) : List Token :=
  c.ahead.filterMap fun answer => answer.bind Item.token?

/-- What is ahead of the one cursor is an end of what is ahead of the other, and it is short of at
least one token. -/
structure Consumes (c next : Cursor) : Prop where
  suffix : next.ahead <:+ c.ahead
  fewer : next.tokensAhead.length < c.tokensAhead.length

theorem Consumes.trans {c c' c'' : Cursor} (h : c.Consumes c') (h' : c'.Consumes c'') :
    c.Consumes c'' :=
  ⟨h'.suffix.trans h.suffix, Nat.lt_trans h'.fewer h.fewer⟩

theorem Consumes.note {c next : Cursor} (h : c.Consumes next) (step : ReadingStep) :
    c.Consumes (next.note step) :=
  ⟨h.suffix, h.fewer⟩

theorem consumes_of_suffix {c next : Cursor} {t : Token} (hlookahead : c.lookahead = some t)
    (h : next.ahead <:+ c.unread) : c.Consumes next := by
  have hahead : c.ahead = some (.token t) :: c.unread := by
    rw [ahead, hlookahead]
    rfl
  refine ⟨hahead ▸ h.trans (List.suffix_cons _ _), ?_⟩
  have hle := (h.filterMap fun answer => answer.bind Item.token?).length_le
  rw [tokensAhead, tokensAhead, hahead]
  exact Nat.lt_succ_of_le hle

theorem consumes_of_pull {c next : Cursor} (hlookahead : c.lookahead.isSome = true)
    (h : c.pull = .ok () next) : c.Consumes next := by
  obtain ⟨t, ht⟩ := Option.isSome_iff_exists.mp hlookahead
  apply consumes_of_suffix ht
  unfold pull at h
  split at h
  · next hunread =>
      cases h
      exact List.nil_suffix
  · next rest hunread =>
      cases h
      rw [hunread]
      exact List.suffix_cons _ _
  · next t' rest hunread =>
      cases h
      rw [hunread]
      exact List.suffix_refl _
  · contradiction

theorem consumes_of_accept {c next : Cursor} {t : Token} (hlookahead : c.lookahead.isSome = true)
    (h : c.accept t = .ok () next) : c.Consumes next := by
  have hnoted : (c.note (.accepted t)).Consumes next := consumes_of_pull hlookahead h
  exact ⟨hnoted.suffix, hnoted.fewer⟩

end Cursor

namespace Reading

namespace Call

variable {registry : Registry} {x y z : Call}

/-- A call that the call may make: a token has been used up, or the routine has a lower rank. -/
def Above (x y : Call) : Prop :=
  x.cursor.Consumes y.cursor ∨ y.cursor = x.cursor ∧ y.routine.rank < x.routine.rank

/-- What holds if the call answers `f`. Only a climb may use up nothing, and then it answers the
formula that it started from. -/
def Leaves (x : Call) (f : Formula) (next : Cursor) : Prop :=
  x.cursor.Consumes next ∨ ∃ minimum, x = climb f minimum next

theorem Above.trans (h : x.Above y) (h' : y.Above z) : x.Above z := by
  rcases h with hxy | ⟨hcursor, hrank⟩
  · rcases h' with hyz | ⟨hcursor', -⟩
    · exact .inl (hxy.trans hyz)
    · exact .inl (hcursor' ▸ hxy)
  · rcases h' with hyz | ⟨hcursor', hrank'⟩
    · exact .inl (hcursor ▸ hyz)
    · exact .inr ⟨hcursor'.trans hcursor, Nat.lt_trans hrank' hrank⟩

theorem Above.consumes (h : x.Above y) (hroutine : y.routine = x.routine) :
    x.cursor.Consumes y.cursor := by
  rcases h with hxy | ⟨-, hrank⟩
  · exact hxy
  · rw [hroutine] at hrank
    exact (Nat.lt_irrefl _ hrank).elim

/-- Going to a call that may be made lowers the number of tokens ahead, or else the rank. -/
theorem wellFounded_above : WellFounded fun y x : Call => x.Above y := by
  let key : Call → Nat × Nat := fun x => (x.cursor.tokensAhead.length, x.routine.rank)
  have hlex : WellFounded (Prod.Lex (· < ·) (· < ·) : Nat × Nat → Nat × Nat → Prop) :=
    (Prod.lex Nat.lt_wfRel Nat.lt_wfRel).wf
  refine Subrelation.wf ?_ (InvImage.wf key hlex)
  rintro y x (hconsumes | ⟨hcursor, hrank⟩)
  · exact .left _ _ hconsumes.fewer
  · have hright : Prod.Lex (· < ·) (· < ·) (x.cursor.tokensAhead.length, y.routine.rank) (key x) :=
      .right _ hrank
    rwa [← hcursor] at hright

theorem Leaves.consumes {f : Formula} {next : Cursor} (h : x.Leaves f next)
    (hroutine : x.routine ≠ .climb) : x.cursor.Consumes next := by
  rcases h with hconsumes | ⟨minimum, rfl⟩
  · exact hconsumes
  · exact (hroutine rfl).elim

theorem Leaves.trans_consumes {c : Cursor} {f : Formula} {next : Cursor} (h : x.Leaves f next)
    (hc : c.Consumes x.cursor) : c.Consumes next := by
  rcases h with hconsumes | ⟨minimum, rfl⟩
  · exact hc.trans hconsumes
  · exact hc

end Call

/-- The rest of the body of a call keeps to what the call may do, if the calls that it makes leave
what they should. -/
def Body.KeepsTo (x : Call) : Body → Prop
  | .answer o => ∀ f next, o = .ok f next → x.Leaves f next
  | .call callee k => x.Above callee ∧ ∀ f next, callee.Leaves f next → (k f next).KeepsTo x
  | .again turn =>
      (x.cursor.Consumes turn.cursor ∧ turn.routine = x.routine) ∧
        ∀ f next, turn.Leaves f next → x.Leaves f next

namespace Body

variable {x : Call}

theorem keepsTo_error (x : Call) (fault : ReadingError) (last : Cursor) :
    (answer (.error fault last)).KeepsTo x := by
  rintro f next ⟨⟩

theorem keepsTo_answer {f : Formula} {next : Cursor} (h : x.Leaves f next) :
    (answer (.ok f next)).KeepsTo x := by
  rintro _ _ ⟨⟩
  exact h

theorem keepsTo_after {o : Outcome Unit} {k : Cursor → Body}
    (h : ∀ next, o = .ok () next → (k next).KeepsTo x) : (after o k).KeepsTo x := by
  rcases o with ⟨⟨⟩, next⟩ | ⟨fault, last⟩
  · exact h next rfl
  · exact keepsTo_error x fault last

theorem keepsTo_last {callee : Call} (habove : x.Above callee)
    (h : ∀ f next, callee.Leaves f next → x.Leaves f next) : (last callee).KeepsTo x :=
  ⟨habove, fun f next hleaves => keepsTo_answer (h f next hleaves)⟩

end Body

theorem consumes_of_close {f g : Formula} {c last : Cursor} (h : close f c = .ok g last) :
    c.Consumes last := by
  rw [close_eq] at h
  split at h
  · next t hlookahead =>
      split at h
      · obtain ⟨⟨⟩, next, haccept, hok⟩ := Outcome.bind_eq_ok_iff.mp h
        cases hok
        exact Cursor.consumes_of_accept (Cursor.isSome_of_lookahead hlookahead) haccept
      · contradiction
  · contradiction

namespace Call

variable {registry : Registry} {x y z : Call}

theorem keepsTo_body_term (registry : Registry) (c : Cursor) :
    ((term c).body registry).KeepsTo (term c) := by
  obtain ⟨_ | t, unread, transcript⟩ := c
  · exact Body.keepsTo_error _ _ _
  have hlookahead : (Cursor.mk (some t) unread transcript).lookahead.isSome = true := rfl
  dsimp only [body]
  by_cases hname : t.kind = .name
  · rw [if_pos hname]
    refine Body.keepsTo_after fun next haccept => Body.keepsTo_answer (.inl ?_)
    exact Cursor.consumes_of_accept hlookahead haccept
  by_cases hopening : t.kind = .opening
  · rw [if_neg hname, if_pos hopening]
    refine Body.keepsTo_after fun next haccept => ?_
    have hconsumes := Cursor.consumes_of_accept hlookahead haccept
    exact Body.keepsTo_last (.inl hconsumes) fun f last hleaves =>
      .inl (hleaves.trans_consumes hconsumes)
  rw [if_neg hname, if_neg hopening]
  rcases registry.unary? (some t) with _ | u
  · exact Body.keepsTo_error _ _ _
  · exact Body.keepsTo_last (.inr ⟨rfl, Nat.zero_lt_one⟩) fun f last hleaves =>
      .inl (hleaves.consumes (by simp [routine]))

theorem keepsTo_body_climb (registry : Registry) (left : Formula) (minimum : Nat) (c : Cursor) :
    ((climb left minimum c).body registry).KeepsTo (climb left minimum c) := by
  have hstops : (climb left minimum c).Leaves left c := .inr ⟨minimum, rfl⟩
  rw [body]
  rcases hb : registry.binary? c.lookahead with _ | b
  · exact Body.keepsTo_answer hstops
  dsimp only
  by_cases hm : minimum < b.precedence
  · rw [if_pos hm]
    refine Body.keepsTo_after fun c₁ hpull => ?_
    have h₁ := Cursor.consumes_of_pull (binary?_isSome hb) hpull
    refine ⟨.inl h₁, fun operand c₂ hterm => ?_⟩
    have h₂ := hterm.trans_consumes h₁
    refine ⟨.inl h₂, fun right c₃ hclimb => ?_⟩
    have h₃ := (hclimb.trans_consumes h₂).note (.joined b minimum)
    exact ⟨⟨h₃, rfl⟩, fun f last hturn => .inl (hturn.trans_consumes h₃)⟩
  · rw [if_neg hm]
    exact Body.keepsTo_answer hstops

theorem keepsTo_body (registry : Registry) (x : Call) : (x.body registry).KeepsTo x := by
  cases x with
  | term c => exact keepsTo_body_term registry c
  | group c =>
      refine ⟨.inr ⟨rfl, Nat.lt_succ_self _⟩, fun f next hformula => ?_⟩
      have hconsumes : c.Consumes next := hformula.consumes (by simp [routine])
      exact fun g last hclose => .inl (hconsumes.trans (consumes_of_close hclose))
  | negation u c h =>
      refine Body.keepsTo_after fun next hpull => ?_
      have hconsumes := Cursor.consumes_of_pull h hpull
      refine ⟨.inl hconsumes, fun operand last hterm => ?_⟩
      exact Body.keepsTo_answer (.inl (hterm.trans_consumes hconsumes))
  | formula c =>
      refine ⟨.inr ⟨rfl, Nat.lt_succ_self _⟩, fun left next hterm => ?_⟩
      have hconsumes : c.Consumes next := hterm.consumes (by simp [routine])
      exact Body.keepsTo_last (.inl hconsumes) fun f last hclimb =>
        .inl (hclimb.trans_consumes hconsumes)
  | climb left minimum c => exact keepsTo_body_climb registry left minimum c

end Call

/-- The body of the call ends with what the routine answers, and the cursor is where it should
be. -/
structure Call.Returns (registry : Registry) (x : Call) : Prop where
  ends : (x.body registry).Ends registry (x.value registry)
  leaves : ∀ f next, x.value registry = .ok f next → x.Leaves f next

namespace Body

variable {registry : Registry} {x y : Call} {b : Body}

theorem returns_of_keepsTo (hcalls : ∀ y, x.Above y → y.Returns registry) (h : b.KeepsTo x) :
    b.Ends registry (b.run (Call.value registry)) ∧
      ∀ f next, b.run (Call.value registry) = .ok f next → x.Leaves f next := by
  induction b with
  | answer o => exact ⟨.answer o, h⟩
  | call callee k ih =>
      obtain ⟨hends, hleaves⟩ := hcalls callee h.1
      rw [run]
      rcases hvalue : callee.value registry with ⟨f, next⟩ | ⟨fault, last⟩
      · rw [hvalue] at hends
        obtain ⟨hrest, hpost⟩ := ih f next (h.2 f next (hleaves f next hvalue))
        exact ⟨.call hends hrest, hpost⟩
      · rw [hvalue] at hends
        exact ⟨.fault hends, keepsTo_error x fault last⟩
  | again turn =>
      obtain ⟨hends, hleaves⟩ := hcalls turn (.inl h.1.1)
      exact ⟨.again hends, fun f next hok => h.2 f next (hleaves f next hok)⟩

theorem above_of_mem_callees (hcalls : ∀ y : Call, y.Returns registry) (h : b.KeepsTo x)
    (hy : y ∈ b.callees (Call.value registry)) : x.Above y := by
  induction b with
  | answer o => contradiction
  | call callee k ih =>
      rw [callees] at hy
      rcases List.mem_cons.mp hy with rfl | hrest
      · exact h.1
      · split at hrest
        · next f next hvalue =>
            exact ih f next (h.2 f next ((hcalls callee).leaves f next hvalue)) hrest
        · contradiction
  | again turn => contradiction

theorem consumes_of_turn? (hcalls : ∀ y : Call, y.Returns registry) (h : b.KeepsTo x)
    (hy : b.turn? (Call.value registry) = some y) :
    x.cursor.Consumes y.cursor ∧ y.routine = x.routine := by
  induction b with
  | answer o => contradiction
  | call callee k ih =>
      rw [turn?] at hy
      split at hy
      · next f next hvalue =>
          exact ih f next (h.2 f next ((hcalls callee).leaves f next hvalue)) hy
      · contradiction
  | again turn =>
      cases hy
      exact h.1

end Body

namespace Call

variable {registry : Registry} {x y : Call}

theorem returns (registry : Registry) (x : Call) : x.Returns registry := by
  -- Every call in the body is one that the call may make, so it is below in the induction.
  induction x using wellFounded_above.induction with
  | _ x ih =>
      obtain ⟨hends, hleaves⟩ := Body.returns_of_keepsTo ih (keepsTo_body registry x)
      rw [← value_eq_run] at hends hleaves
      exact ⟨hends, hleaves⟩

theorem ends_iff {o : Outcome Formula} :
    (x.body registry).Ends registry o ↔ o = x.value registry := by
  constructor
  · intro h
    rw [value_eq_run]
    exact Body.eq_run_of_ends h
  · rintro rfl
    exact (returns registry x).ends

/-- While a call is running, in whichever turn of its loop, the other call is made by it or by a
call inside it. -/
inductive Encloses (registry : Registry) : Call → Call → Prop where
  | callee {x y : Call} (h : y ∈ x.callees registry) : Encloses registry x y
  | turn {x x' y : Call} (h : x.nextTurn? registry = some x') (hy : Encloses registry x' y) :
      Encloses registry x y
  | nested {x x' y : Call} (h : x' ∈ x.callees registry) (hy : Encloses registry x' y) :
      Encloses registry x y

theorem above_of_mem_callees (h : y ∈ x.callees registry) : x.Above y :=
  Body.above_of_mem_callees (returns registry) (keepsTo_body registry x) h

theorem consumes_of_nextTurn? (h : x.nextTurn? registry = some y) :
    x.cursor.Consumes y.cursor :=
  (Body.consumes_of_turn? (returns registry) (keepsTo_body registry x) h).1

theorem above_of_encloses (h : x.Encloses registry y) : x.Above y := by
  induction h with
  | callee h => exact above_of_mem_callees h
  | turn h _ ih => exact Above.trans (.inl (consumes_of_nextTurn? h)) ih
  | nested h _ ih => exact (above_of_mem_callees h).trans ih

end Call

/-- The recursion ends, whatever is ahead. A term that is read uses up a token, and so does a climb
that answers another formula than the one it starts from. A call inside a call of the same routine
starts with fewer tokens ahead, and so does each turn of a loop after the turn before it. Hence no
chain of calls goes on for ever, and each body ends with the one answer that its routine gives. -/
theorem calls_consume_and_end (registry : Registry) :
    (∀ c f next, term registry c = .ok f next → c.Consumes next) ∧
    (∀ left minimum c f next, climb registry left minimum c = .ok f next →
      next.ahead <:+ c.ahead ∧ (f ≠ left → c.Consumes next)) ∧
    (∀ x y : Call, x.Encloses registry y → y.routine = x.routine → x.cursor.Consumes y.cursor) ∧
    (∀ x y : Call, x.nextTurn? registry = some y → x.cursor.Consumes y.cursor) ∧
    WellFounded (fun y x : Call => y ∈ x.callees registry ∨ x.nextTurn? registry = some y) ∧
    ∀ (x : Call) (o : Outcome Formula),
      (x.body registry).Ends registry o ↔ o = x.value registry := by
  refine ⟨?_, ?_, ?_, fun _ _ => Call.consumes_of_nextTurn?, ?_, fun _ _ => Call.ends_iff⟩
  · intro c f next hread
    exact ((Call.returns registry (.term c)).leaves f next hread).consumes (by simp [Call.routine])
  · intro left minimum c f next hread
    rcases (Call.returns registry (.climb left minimum c)).leaves f next hread with
      hconsumes | ⟨_, hstops⟩
    · exact ⟨hconsumes.suffix, fun _ => hconsumes⟩
    · cases hstops
      exact ⟨List.suffix_refl _, fun hne => (hne rfl).elim⟩
  · intro x y hencloses hroutine
    exact (Call.above_of_encloses hencloses).consumes hroutine
  · refine Subrelation.wf ?_ Call.wellFounded_above
    rintro y x (hcallee | hturn)
    · exact Call.above_of_mem_callees hcallee
    · exact .inl (Call.consumes_of_nextTurn? hturn)

theorem calls_in_unclosed_group :
    let p := Formula.atom "p"
    let joined := Formula.binary p .conjunction (.atom "q")
    let c₀ : Cursor :=
      ⟨some ⟨.opening, "(", 0⟩,
        [some (.token ⟨.name, "p", 1⟩), some (.token ⟨.conjunction, "&", 2⟩),
          some (.token ⟨.name, "q", 3⟩)], []⟩
    let c₁ := (c₀.accept ⟨.opening, "(", 0⟩).cursor
    let c₂ := (term Registry.standard c₁).cursor
    let c₃ := (climb Registry.standard p 0 c₂).cursor
    (term Registry.standard c₁ = .ok p c₂ ∧ c₁.Consumes c₂) ∧
      (climb Registry.standard p 0 c₂ = .ok joined c₃ ∧ c₂.Consumes c₃) ∧
      ((Call.term c₀).Encloses Registry.standard (.term c₁) ∧ c₀.Consumes c₁) ∧
      ((Call.climb p 0 c₂).nextTurn? Registry.standard = some (.climb joined 0 c₃) ∧
        c₂.Consumes c₃) ∧
      ((Call.term c₀).body Registry.standard).Ends Registry.standard
        (.error (.misplaced ⟨none, some .closing⟩) c₃) := by
  intro p joined c₀ c₁ c₂ c₃
  obtain ⟨hterm, hclimb, hinside, hturn, -, hends⟩ := calls_consume_and_end Registry.standard
  have hp : term Registry.standard c₁ = .ok p c₂ := by decide +kernel
  have hjoined : climb Registry.standard p 0 c₂ = .ok joined c₃ := by decide +kernel
  have hgroup : Call.group c₁ ∈ (Call.term c₀).callees Registry.standard := by decide +kernel
  have hformula : Call.formula c₁ ∈ (Call.group c₁).callees Registry.standard := by decide +kernel
  have hinner : Call.term c₁ ∈ (Call.formula c₁).callees Registry.standard := by decide +kernel
  have hencloses : (Call.term c₀).Encloses Registry.standard (.term c₁) :=
    .nested hgroup (.nested hformula (.callee hinner))
  have hnext : (Call.climb p 0 c₂).nextTurn? Registry.standard = some (.climb joined 0 c₃) := by
    decide +kernel
  have hvalue : Outcome.error (.misplaced ⟨none, some .closing⟩) c₃ =
      (Call.term c₀).value Registry.standard := by
    decide +kernel
  have hne : joined ≠ p := by decide
  exact ⟨⟨hp, hterm _ _ _ hp⟩, ⟨hjoined, (hclimb _ _ _ _ _ hjoined).2 hne⟩,
    ⟨hencloses, hinside _ _ hencloses rfl⟩, ⟨hnext, hturn _ _ hnext⟩, (hends _ _).mpr hvalue⟩

end Reading

end Propositional
