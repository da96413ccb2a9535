import Propositional.Proofs.Reading.Stage
import Propositional.Reading.Source

namespace Propositional

namespace Feed

def ofTokens (ts : List Token) : Feed :=
  ts.map fun t => some (.token t)

@[simp] theorem ofTokens_nil : ofTokens [] = [] := rfl

@[simp] theorem ofTokens_cons (t : Token) (ts : List Token) :
    ofTokens (t :: ts) = some (.token t) :: ofTokens ts := rfl

theorem ofTokens_append (ts ts' : List Token) :
    ofTokens (ts ++ ts') = ofTokens ts ++ ofTokens ts' :=
  List.map_append

/-- The first answer can be made the lookahead: it is no invalid character. -/
def Legible : Feed → Prop
  | some (.invalid _) :: _ => False
  | _ => True

theorem legible_ofTokens (ts : List Token) : (ofTokens ts).Legible := by
  rcases ts with _ | ⟨t, ts⟩ <;> trivial

theorem Legible.ofTokens_append {rest : Feed} (h : rest.Legible) (ts : List Token) :
    (ofTokens ts ++ rest).Legible := by
  rcases ts with _ | ⟨t, ts⟩
  · exact h
  · trivial

end Feed

theorem Outcome.bind_eq_ok_iff {α β : Type} {o : Outcome α} {k : α → Cursor → Outcome β}
    {b : β} {last : Cursor} :
    o.bind k = .ok b last ↔ ∃ a next, o = .ok a next ∧ k a next = .ok b last := by
  cases o <;> simp [and_assoc]

namespace Cursor

/-- The first answer of the feed is the lookahead, and the others have not been asked for. -/
def Faces (c : Cursor) : Feed → Prop
  | [] => c.lookahead = none ∧ c.unread = []
  | none :: rest => c.lookahead = none ∧ c.unread = rest
  | some (.token t) :: rest => c.lookahead = some t ∧ c.unread = rest
  | some (.invalid _) :: _ => False

theorem exists_pull {c : Cursor} {feed : Feed} (hunread : c.unread = feed) (h : feed.Legible) :
    ∃ next, c.pull = .ok () next ∧ next.Faces feed := by
  unfold pull
  rw [hunread]
  match feed, h with
  | [], _ => exact ⟨_, rfl, rfl, rfl⟩
  | none :: _, _ => exact ⟨_, rfl, rfl, rfl⟩
  | some (.token _) :: _, _ => exact ⟨_, rfl, rfl, rfl⟩

theorem exists_accept {c : Cursor} {feed : Feed} (t : Token) (hunread : c.unread = feed)
    (h : feed.Legible) : ∃ next, c.accept t = .ok () next ∧ next.Faces feed :=
  exists_pull (c := c.note (.accepted t)) hunread h

theorem Faces.note {c : Cursor} {feed : Feed} (h : c.Faces feed) (step : ReadingStep) :
    (c.note step).Faces feed := by
  match feed, h with
  | [], h => exact h
  | none :: _, h => exact h
  | some (.token _) :: _, h => exact h

theorem eq_nil_of_faces {c : Cursor} {ts : List Token} (h : c.Faces (.ofTokens ts))
    (hnone : c.lookahead = none) : ts = [] := by
  rcases ts with _ | ⟨t, ts⟩
  · rfl
  · rw [h.1] at hnone
    contradiction

end Cursor

namespace Reading

variable {registry : Registry} {α β : Type}

/-- A part of the reader answers `a` when it is at the tokens `w`, and stops at those of `u`,
whatever is behind them. -/
def ReadsTo (read : Cursor → Outcome α) (w : List Token) (a : α) (u : List Token) : Prop :=
  ∀ rest : Feed, rest.Legible → ∀ c : Cursor, c.Faces (.ofTokens w ++ rest) →
    ∃ next, read c = .ok a next ∧ next.Faces (.ofTokens u ++ rest)

theorem readsTo_ok (a : α) (w : List Token) : ReadsTo (fun c => .ok a c) w a w :=
  fun _ _ c hc => ⟨c, rfl, hc⟩

theorem readsTo_pull (t : Token) (w : List Token) : ReadsTo Cursor.pull (t :: w) () w := by
  intro rest hrest c hc
  exact Cursor.exists_pull hc.2 (hrest.ofTokens_append w)

theorem readsTo_accept (t t' : Token) (w : List Token) :
    ReadsTo (fun c => c.accept t) (t' :: w) () w := by
  intro rest hrest c hc
  exact Cursor.exists_accept t hc.2 (hrest.ofTokens_append w)

theorem ReadsTo.bind {read : Cursor → Outcome α} {k : α → Cursor → Outcome β}
    {w v u : List Token} {a : α} {b : β} (h : ReadsTo read w a v) (hk : ReadsTo (k a) v b u) :
    ReadsTo (fun c => (read c).bind k) w b u := by
  intro rest hrest c hc
  obtain ⟨c₁, hread, hc₁⟩ := h rest hrest c hc
  obtain ⟨c₂, hkread, hc₂⟩ := hk rest hrest c₁ hc₁
  exact ⟨c₂, Outcome.bind_eq_ok_iff.mpr ⟨a, c₁, hread, hkread⟩, hc₂⟩

theorem ReadsTo.note {read : Cursor → Outcome α} {w u : List Token} {a : α}
    (h : ReadsTo read w a u) (step : ReadingStep) :
    ReadsTo (fun c => read (c.note step)) w a u :=
  fun rest hrest c hc => h rest hrest (c.note step) (hc.note step)

theorem ReadsTo.of_lookahead {read read' : Cursor → Outcome α} {t : Token} {w u : List Token}
    {a : α} (h : ReadsTo read (t :: w) a u)
    (heq : ∀ c : Cursor, c.lookahead = some t → read' c = read c) :
    ReadsTo read' (t :: w) a u := by
  intro rest hrest c hc
  rw [heq c hc.1]
  exact h rest hrest c hc

variable {t : Token} {w v u : List Token} {f g left : Formula} {m : Nat}

theorem readsTo_name (hkind : t.kind = .name) (w : List Token) :
    ReadsTo (term registry) (t :: w) (.atom t.lexeme) w := by
  have hread := (readsTo_accept t t w).bind (k := fun _ => .ok (Formula.atom t.lexeme))
    (readsTo_ok _ w)
  refine hread.of_lookahead ?_
  intro c hlookahead
  simp [term_eq, hlookahead, hkind]

theorem readsTo_opening (hkind : t.kind = .opening) (h : ReadsTo (group registry) w f u) :
    ReadsTo (term registry) (t :: w) f u := by
  have hread := (readsTo_accept t t w).bind (k := fun _ => group registry) h
  refine hread.of_lookahead ?_
  intro c hlookahead
  simp [term_eq, hlookahead, hkind]

theorem readsTo_unary {c : UnaryConnective} (hname : t.kind ≠ .name) (hopening : t.kind ≠ .opening)
    (hc : registry.unary? (some t) = some c) (h : ReadsTo (term registry) w f u) :
    ReadsTo (term registry) (t :: w) (.unary c f) u := by
  have hoperand := h.bind (k := fun f => .ok (Formula.unary c f)) (readsTo_ok _ u)
  have hread := (readsTo_pull t w).bind (k := fun _ next => (term registry next).bind _) hoperand
  refine hread.of_lookahead ?_
  intro cursor hlookahead
  rw [term_eq, hlookahead]
  simp only [if_neg hname, if_neg hopening, hc]

theorem readsTo_group (hterm : ReadsTo (term registry) w f v)
    (hclimb : ReadsTo (climb registry f 0) v g (t :: u)) (hkind : t.kind = .closing) :
    ReadsTo (group registry) w g u := by
  have hclose : ReadsTo (close g) (t :: u) g u := by
    have hread := (readsTo_accept t t u).bind (k := fun _ => .ok g) (readsTo_ok _ u)
    refine hread.of_lookahead ?_
    intro c hlookahead
    simp [close_eq, hlookahead, hkind]
  have hformula := hterm.bind (k := fun f => climb registry f 0) hclimb
  have hread := hformula.bind (k := close) hclose
  intro rest hrest c hc
  rw [group_eq, formula_eq]
  exact hread rest hrest c hc

theorem climb_of_not_exceeds {c : Cursor} (h : ¬ Exceeds (registry.binary? c.lookahead) m) :
    climb registry left m c = .ok left c := by
  rw [climb_eq]
  split
  · rfl
  · next b hb => exact if_neg fun hm => h ⟨b, hb, hm⟩

theorem readsTo_climb_of_not_exceeds (h : ¬ Exceeds (registry.binary? (some t)) m)
    (left : Formula) (w : List Token) :
    ReadsTo (climb registry left m) (t :: w) left (t :: w) := by
  refine (readsTo_ok left (t :: w)).of_lookahead ?_
  intro c hlookahead
  exact climb_of_not_exceeds (by rwa [hlookahead])

theorem readsTo_climb_of_exceeds {b : BinaryConnective} {w₁ w₂ : List Token}
    {operand right : Formula} (hb : registry.binary? (some t) = some b) (hm : m < b.precedence)
    (hoperand : ReadsTo (term registry) w operand w₁)
    (hright : ReadsTo (climb registry operand b.precedence) w₁ right w₂)
    (hclimb : ReadsTo (climb registry (.binary left b right) m) w₂ f u) :
    ReadsTo (climb registry left m) (t :: w) f u := by
  have hjoined := hright.bind
    (k := fun g next => climb registry (.binary left b g) m (next.note (.joined b m)))
    (hclimb.note (.joined b m))
  have hterm := hoperand.bind
    (k := fun operand next => (climb registry operand b.precedence next).bind _) hjoined
  have hread := (readsTo_pull t w).bind (k := fun _ next => (term registry next).bind _) hterm
  refine hread.of_lookahead ?_
  intro c hlookahead
  rw [climb_eq, hlookahead, hb]
  exact if_pos hm

/-- A term read from these tokens alone is read from them with anything behind them. -/
def TermLocal (registry : Registry) (w : List Token) : Prop :=
  ∀ c f next, c.Faces (.ofTokens w) → term registry c = .ok f next →
    ∃ u, u.length < w.length ∧ next.Faces (.ofTokens u) ∧ ReadsTo (term registry) w f u

/-- A climb among these tokens alone that stops before one of them goes alike with anything behind
them. -/
def ClimbLocal (registry : Registry) (w : List Token) : Prop :=
  ∀ left m c f next, c.Faces (.ofTokens w) → climb registry left m c = .ok f next →
    ∃ u, u.length ≤ w.length ∧ next.Faces (.ofTokens u) ∧
      (u ≠ [] → ReadsTo (climb registry left m) w f u)

theorem exists_closing_of_close {c next : Cursor} (hc : c.Faces (.ofTokens w))
    (h : close f c = .ok g next) :
    g = f ∧ ∃ t u, w = t :: u ∧ t.kind = .closing ∧ next.Faces (.ofTokens u) := by
  rcases w with _ | ⟨t, u⟩
  · rw [close_eq, hc.1] at h
    contradiction
  · obtain ⟨c₁, haccept, hc₁⟩ := Cursor.exists_accept t hc.2 (Feed.legible_ofTokens u)
    rw [close_eq, hc.1] at h
    dsimp only at h
    split at h
    · next hkind =>
        rw [haccept] at h
        cases h
        exact ⟨rfl, t, u, rfl, hkind, hc₁⟩
    · contradiction

theorem termLocal_of_shorter (hterm : ∀ v : List Token, v.length < w.length → TermLocal registry v)
    (hclimb : ∀ v : List Token, v.length < w.length → ClimbLocal registry v) :
    TermLocal registry w := by
  intro c f next hc hread
  rcases w with _ | ⟨t, w⟩
  · rw [term_eq, hc.1] at hread
    contradiction
  rw [term_eq, hc.1] at hread
  dsimp only at hread
  obtain ⟨c₁, haccept, haccepted⟩ := Cursor.exists_accept t hc.2 (Feed.legible_ofTokens w)
  obtain ⟨c₂, hpull, hpulled⟩ := Cursor.exists_pull hc.2 (Feed.legible_ofTokens w)
  have hlt : w.length < (t :: w).length := Nat.lt_succ_self _
  split at hread
  · next hname =>
      rw [haccept] at hread
      cases hread
      exact ⟨w, hlt, haccepted, readsTo_name hname w⟩
  split at hread
  · next hopening =>
      rw [haccept, Outcome.bind_ok, group_eq, formula_eq] at hread
      obtain ⟨g, c₃, hformula, hclose⟩ := Outcome.bind_eq_ok_iff.mp hread
      obtain ⟨operand, c₄, hoperand, hrest⟩ := Outcome.bind_eq_ok_iff.mp hformula
      obtain ⟨v, hv, hc₄, hreadsTerm⟩ := hterm w hlt c₁ operand c₄ haccepted hoperand
      obtain ⟨v', hv', hc₃, hreadsClimb⟩ :=
        hclimb v (Nat.lt_trans hv hlt) operand 0 c₄ g c₃ hc₄ hrest
      obtain ⟨rfl, closing, u, rfl, hclosing, hnext⟩ := exists_closing_of_close hc₃ hclose
      have hgroup := readsTo_group hreadsTerm (hreadsClimb (List.cons_ne_nil _ _)) hclosing
      simp only [List.length_cons] at hv' ⊢
      exact ⟨u, by omega, hnext, readsTo_opening hopening hgroup⟩
  split at hread
  · next hname hopening _ u hu =>
      rw [hpull, Outcome.bind_ok] at hread
      obtain ⟨operand, c₃, hoperand, hok⟩ := Outcome.bind_eq_ok_iff.mp hread
      cases hok
      obtain ⟨v, hv, hnext, hreadsTerm⟩ := hterm w hlt c₂ operand _ hpulled hoperand
      exact ⟨v, Nat.lt_trans hv hlt, hnext, readsTo_unary hname hopening hu hreadsTerm⟩
  · contradiction

theorem climbLocal_of_shorter (hterm : ∀ v : List Token, v.length < w.length → TermLocal registry v)
    (hclimb : ∀ v : List Token, v.length < w.length → ClimbLocal registry v) :
    ClimbLocal registry w := by
  intro left m c f next hc hread
  by_cases hexceeds : Exceeds (registry.binary? c.lookahead) m
  · rcases w with _ | ⟨t, w⟩
    · rw [hc.1] at hexceeds
      exact (not_exceeds_none m hexceeds).elim
    have hlt : w.length < (t :: w).length := Nat.lt_succ_self _
    obtain ⟨b, hb, hm⟩ := hexceeds
    obtain ⟨c₁, hpull, hc₁⟩ := Cursor.exists_pull hc.2 (Feed.legible_ofTokens w)
    rw [climb_eq, hb] at hread
    dsimp only at hread
    rw [if_pos hm, hpull, Outcome.bind_ok] at hread
    obtain ⟨operand, c₂, hoperand, hread⟩ := Outcome.bind_eq_ok_iff.mp hread
    obtain ⟨right, c₃, hright, hread⟩ := Outcome.bind_eq_ok_iff.mp hread
    obtain ⟨v₁, hv₁, hc₂, hreadsTerm⟩ := hterm w hlt c₁ operand c₂ hc₁ hoperand
    obtain ⟨v₂, hv₂, hc₃, hreadsRight⟩ :=
      hclimb v₁ (Nat.lt_trans hv₁ hlt) operand b.precedence c₂ right c₃ hc₂ hright
    obtain ⟨u, hu, hnext, hreadsRest⟩ :=
      hclimb v₂ (by omega) (.binary left b right) m _ f next (hc₃.note _) hread
    refine ⟨u, by omega, hnext, ?_⟩
    intro hne
    have hne' : v₂ ≠ [] := by
      rintro rfl
      exact hne (List.eq_nil_of_length_eq_zero (Nat.le_zero.mp hu))
    rw [hc.1] at hb
    exact readsTo_climb_of_exceeds hb hm hreadsTerm (hreadsRight hne') (hreadsRest hne)
  · rw [climb_of_not_exceeds hexceeds] at hread
    cases hread
    refine ⟨w, Nat.le_refl _, hc, ?_⟩
    intro hne
    obtain ⟨t, w, rfl⟩ := List.exists_cons_of_ne_nil hne
    rw [hc.1] at hexceeds
    exact readsTo_climb_of_not_exceeds hexceeds left w

theorem termLocal_and_climbLocal (registry : Registry) (w : List Token) :
    TermLocal registry w ∧ ClimbLocal registry w := by
  induction hlength : w.length using Nat.strongRecOn generalizing w with
  | ind n ih =>
      subst hlength
      have hterm : ∀ v : List Token, v.length < w.length → TermLocal registry v :=
        fun v hv => (ih _ hv v rfl).1
      have hclimb : ∀ v : List Token, v.length < w.length → ClimbLocal registry v :=
        fun v hv => (ih _ hv v rfl).2
      exact ⟨termLocal_of_shorter hterm hclimb, climbLocal_of_shorter hterm hclimb⟩

def termOf (registry : Registry) (ts : List Token) : Outcome Formula :=
  (Cursor.start (.ofTokens ts)).pull.bind fun _ first => term registry first

/-- The tokens, with nothing behind them, are read as one term to their end. -/
def IsTerm (registry : Registry) (ts : List Token) (f : Formula) : Prop :=
  ∃ next, termOf registry ts = .ok f next ∧ next.lookahead = none

instance (registry : Registry) (ts : List Token) (f : Formula) :
    Decidable (IsTerm registry ts f) :=
  match h : termOf registry ts with
  | .ok g next =>
      decidable_of_iff (g = f ∧ next.lookahead = none) (by simp [IsTerm, h, and_assoc])
  | .error _ _ => .isFalse (by simp [IsTerm, h])

theorem IsTerm.readsTo (h : IsTerm registry w f) : ReadsTo (term registry) w f [] := by
  obtain ⟨next, hread, hnone⟩ := h
  obtain ⟨c, hpull, hc⟩ :=
    Cursor.exists_pull (c := Cursor.start (.ofTokens w)) rfl (Feed.legible_ofTokens w)
  rw [termOf, hpull, Outcome.bind_ok] at hread
  obtain ⟨u, -, hnext, hreads⟩ := (termLocal_and_climbLocal registry w).1 c f next hc hread
  rwa [Cursor.eq_nil_of_faces hnext hnone] at hreads

end Reading

end Propositional
