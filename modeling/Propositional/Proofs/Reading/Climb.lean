import Propositional.Proofs.Reading.Term

/-!
What a climb makes of the chain ahead of it. A chain consists of links, each a binary connective
with the term behind it. The climb takes the links up to the first whose precedence does not exceed
the minimum and stops in front of that one. It joins formulas from the left; seen from the outside,
its formula is split at the rightmost connective of least precedence, and so are the parts.
-/

namespace Propositional

/-- What is ahead does not go on with a binary connective. -/
def Feed.Stops (registry : Registry) : Feed → Prop
  | some (.token t) :: _ => registry.binary? (some t) = none
  | some (.invalid _) :: _ => False
  | _ => True

variable {registry : Registry} {rest : Feed}

theorem Feed.Stops.legible (h : rest.Stops registry) : rest.Legible := by
  match rest, h with
  | [], _ => trivial
  | none :: _, _ => trivial
  | some (.token _) :: _, _ => trivial

theorem Feed.Stops.binary?_lookahead {c : Cursor} (h : rest.Stops registry) (hc : c.Faces rest) :
    registry.binary? c.lookahead = none := by
  match rest, h, hc with
  | [], _, hc => rw [hc.1, Registry.binary?_none]
  | none :: _, _, hc => rw [hc.1, Registry.binary?_none]
  | some (.token _) :: _, h, hc => rw [hc.1, h]

namespace Reading

/-- A token for a binary connective and the tokens of its right operand. -/
structure Link where
  sign : Token
  connective : BinaryConnective
  tokens : List Token
  operand : Formula
  deriving DecidableEq, Repr

namespace Link

def text (link : Link) : List Token :=
  link.sign :: link.tokens

def precedence (link : Link) : Nat :=
  link.connective.precedence

def exceeds (m : Nat) (link : Link) : Bool :=
  m < link.precedence

/-- The tokens of the link are what it says that they are. -/
structure Faithful (registry : Registry) (link : Link) : Prop where
  sign : registry.binary? (some link.sign) = some link.connective
  operand : IsTerm registry link.tokens link.operand

instance (registry : Registry) (link : Link) : Decidable (link.Faithful registry) :=
  decidable_of_iff (registry.binary? (some link.sign) = some link.connective ∧
      IsTerm registry link.tokens link.operand)
    ⟨fun ⟨hsign, hoperand⟩ => ⟨hsign, hoperand⟩, fun ⟨hsign, hoperand⟩ => ⟨hsign, hoperand⟩⟩

end Link

def chainTokens (links : List Link) : List Token :=
  links.flatMap Link.text

/-- The formula of a chain behind `left`: it is split at the rightmost of the connectives of least
precedence, and so are the parts on both sides. -/
inductive Split : Formula → List Link → Formula → Prop where
  | single (left : Formula) : Split left [] left
  | pivot {left link before after f g}
      (hbefore : ∀ l ∈ before, link.precedence ≤ l.precedence)
      (hafter : ∀ l ∈ after, link.precedence < l.precedence)
      (hleft : Split left before f) (hright : Split link.operand after g) :
      Split left (before ++ link :: after) (.binary f link.connective g)

variable {left f g : Formula} {link : Link} {links : List Link} {m : Nat} {c : Cursor}

theorem not_pivot_behind_pivot {before mid after after' : List Link} {pivot pivot' : Link}
    (hafter : ∀ l ∈ after, pivot.precedence < l.precedence)
    (hbefore' : ∀ l ∈ before ++ pivot :: mid, pivot'.precedence ≤ l.precedence) :
    after ≠ mid ++ pivot' :: after' := by
  rintro rfl
  have hlt := hafter pivot' (by simp)
  have hle := hbefore' pivot (by simp)
  omega

theorem pivot_unique {before before' after after' : List Link} {pivot pivot' : Link}
    (h : before ++ pivot :: after = before' ++ pivot' :: after')
    (hbefore : ∀ l ∈ before, pivot.precedence ≤ l.precedence)
    (hafter : ∀ l ∈ after, pivot.precedence < l.precedence)
    (hbefore' : ∀ l ∈ before', pivot'.precedence ≤ l.precedence)
    (hafter' : ∀ l ∈ after', pivot'.precedence < l.precedence) :
    before = before' ∧ pivot = pivot' ∧ after = after' := by
  rcases List.append_eq_append_iff.mp h with ⟨mid, rfl, hmid⟩ | ⟨mid, rfl, hmid⟩
  · rcases mid with _ | ⟨l, mid⟩
    · obtain ⟨rfl, rfl⟩ := List.cons.inj hmid
      exact ⟨(List.append_nil _).symm, rfl, rfl⟩
    · obtain ⟨rfl, heq⟩ := List.cons.inj hmid
      exact (not_pivot_behind_pivot hafter hbefore' heq).elim
  · rcases mid with _ | ⟨l, mid⟩
    · obtain ⟨rfl, rfl⟩ := List.cons.inj hmid
      exact ⟨List.append_nil _, rfl, rfl⟩
    · obtain ⟨rfl, heq⟩ := List.cons.inj hmid
      exact (not_pivot_behind_pivot hafter' hbefore heq).elim

theorem Split.unique (h : Split left links f) (h' : Split left links g) : f = g := by
  induction h generalizing g with
  | single left =>
      generalize hlinks : [] = links at h'
      cases h' with
      | single => rfl
      | pivot => simp at hlinks
  | pivot hbefore hafter hleft hright ihLeft ihRight =>
      generalize hlinks : _ ++ _ :: _ = links at h'
      cases h' with
      | single => simp at hlinks
      | pivot hbefore' hafter' hleft' hright' =>
          obtain ⟨rfl, rfl, rfl⟩ := pivot_unique hlinks hbefore hafter hbefore' hafter'
          rw [ihLeft hleft', ihRight hright']

/-- A link whose operand takes only tighter links is joined to what is on its left; what follows is
split as if it were behind the joined formula. -/
theorem Split.join {right : Formula} {taken after : List Link}
    (hright : Split link.operand taken right)
    (htaken : ∀ l ∈ taken, link.precedence < l.precedence)
    (hafter : Split (.binary left link.connective right) after f)
    (hhead : ∀ l ∈ after.head?, l.precedence ≤ link.precedence) :
    Split left (link :: taken ++ after) f := by
  generalize hjoined : Formula.binary left link.connective right = joined at hafter
  induction hafter with
  | single joined =>
      subst hjoined
      rw [List.append_nil]
      exact .pivot (List.forall_mem_nil _) htaken (.single left) hright
  | @pivot joined pivot before after f g hbefore hafter hleft hright' ihLeft =>
      have hle : pivot.precedence ≤ link.precedence := by
        rcases before with _ | ⟨l, before⟩
        · exact hhead pivot rfl
        · exact Nat.le_trans (hbefore l (List.mem_cons_self ..)) (hhead l rfl)
      have hjoin : Split left (link :: taken ++ before) f := by
        apply ihLeft _ hjoined
        intro l hl
        apply hhead
        rw [List.head?_append, Option.mem_def.mp hl]
        rfl
      rw [← List.append_assoc]
      refine .pivot ?_ hafter hjoin hright'
      intro l hl
      rcases List.mem_append.mp hl with hfront | hlast
      · rcases List.mem_cons.mp hfront with rfl | hmem
        · exact hle
        · exact Nat.le_trans hle (Nat.le_of_lt (htaken l hmem))
      · exact hbefore l hlast

/-- The climb takes the link ahead: a climb from its operand comes first, and the climb then goes on
from the joined formula. -/
theorem climb_link (hlink : link.Faithful registry) (hm : m < link.precedence)
    (hrest : rest.Legible) (hc : c.Faces (.ofTokens link.text ++ rest)) (left : Formula) :
    ∃ c', c'.Faces rest ∧ climb registry left m c =
      (climb registry link.operand link.precedence c').bind fun right next =>
        climb registry (.binary left link.connective right) m
          (next.note (.joined link.connective m)) := by
  obtain ⟨c₁, hpull, hc₁⟩ := readsTo_pull link.sign link.tokens rest hrest c hc
  obtain ⟨c₂, hoperand, hc₂⟩ := hlink.operand.readsTo rest hrest c₁ hc₁
  have hexceeds : m < link.connective.precedence := hm
  refine ⟨c₂, hc₂, ?_⟩
  rw [climb_eq, hc.1, hlink.sign]
  dsimp only
  rw [if_pos hexceeds, hpull, Outcome.bind_ok, hoperand, Outcome.bind_ok]
  rfl

theorem lt_precedence_of_mem_takeWhile {n : Nat} {l : Link}
    (h : l ∈ links.takeWhile (Link.exceeds n)) : n < l.precedence :=
  of_decide_eq_true (List.all_eq_true.mp List.all_takeWhile l h)

theorem takeWhile_exceeds {n : Nat} (h : m ≤ n) (links : List Link) :
    links.takeWhile (Link.exceeds m) =
      links.takeWhile (Link.exceeds n) ++
        (links.dropWhile (Link.exceeds n)).takeWhile (Link.exceeds m) ∧
    links.dropWhile (Link.exceeds m) =
      (links.dropWhile (Link.exceeds n)).dropWhile (Link.exceeds m) := by
  have htight : ∀ l ∈ links.takeWhile (Link.exceeds n), Link.exceeds m l = true := by
    intro l hl
    exact decide_eq_true (Nat.lt_of_le_of_lt h (lt_precedence_of_mem_takeWhile hl))
  have hlinks : links = links.takeWhile (Link.exceeds n) ++ links.dropWhile (Link.exceeds n) :=
    List.takeWhile_append_dropWhile.symm
  exact ⟨(congrArg _ hlinks).trans (List.takeWhile_append_of_pos htight),
    (congrArg _ hlinks).trans (List.dropWhile_append_of_pos htight)⟩

theorem precedence_le_of_head?_dropWhile {n : Nat} :
    ∀ l ∈ ((links.dropWhile (Link.exceeds n)).takeWhile (Link.exceeds m)).head?,
      l.precedence ≤ n := by
  intro l hl
  rw [List.head?_takeWhile, Option.mem_def, Option.filter_eq_some_iff] at hl
  have hstop := List.head?_dropWhile_not (Link.exceeds n) links
  rw [hl.1] at hstop
  simpa [Link.exceeds] using hstop

theorem climb_chain (hrest : rest.Stops registry) (hlinks : ∀ l ∈ links, l.Faithful registry)
    (hc : c.Faces (.ofTokens (chainTokens links) ++ rest)) (left : Formula) (m : Nat) :
    ∃ f next, climb registry left m c = .ok f next ∧
      next.Faces (.ofTokens (chainTokens (links.dropWhile (Link.exceeds m))) ++ rest) ∧
      Split left (links.takeWhile (Link.exceeds m)) f := by
  -- Both the climb of an operand and the climb that goes on after it have fewer links ahead.
  induction hlength : links.length using Nat.strongRecOn generalizing links c left m with
  | ind n ih =>
      subst hlength
      rcases links with _ | ⟨link, links⟩
      · have hstop : ¬ Exceeds (registry.binary? c.lookahead) m := by
          rw [hrest.binary?_lookahead hc]
          exact not_exceeds_none m
        exact ⟨left, c, climb_of_not_exceeds hstop, hc, .single left⟩
      obtain ⟨hlink, hlinks⟩ := List.forall_mem_cons.mp hlinks
      rw [chainTokens, List.flatMap_cons, Feed.ofTokens_append, List.append_assoc] at hc
      by_cases hm : m < link.precedence
      · have hexceeds : link.exceeds m = true := decide_eq_true hm
        obtain ⟨c₁, hc₁, hclimb⟩ :=
          climb_link hlink hm (hrest.legible.ofTokens_append _) hc left
        obtain ⟨right, c₂, hright, hc₂, hsplit⟩ :=
          ih _ (Nat.lt_succ_self _) hlinks hc₁ link.operand link.precedence rfl
        have hloose : (links.dropWhile (Link.exceeds link.precedence)).length ≤ links.length :=
          (List.dropWhile_suffix _).length_le
        obtain ⟨f, next, hclimbRest, hnext, hsplitRest⟩ :=
          ih _ (Nat.lt_succ_of_le hloose)
            (fun l hl => hlinks l ((List.dropWhile_suffix _).mem hl))
            (hc₂.note (.joined link.connective m)) (.binary left link.connective right) m rfl
        obtain ⟨htake, hdrop⟩ := takeWhile_exceeds (Nat.le_of_lt hm) links
        refine ⟨f, next, ?_, ?_, ?_⟩
        · rw [hclimb, hright, Outcome.bind_ok, hclimbRest]
        · rwa [List.dropWhile_cons_of_pos hexceeds, hdrop]
        · rw [List.takeWhile_cons_of_pos hexceeds, htake]
          exact hsplit.join (fun _ => lt_precedence_of_mem_takeWhile) hsplitRest
            precedence_le_of_head?_dropWhile
      · have hexceeds : ¬ link.exceeds m = true := by simpa [Link.exceeds] using hm
        have hstop : ¬ Exceeds (registry.binary? c.lookahead) m := by
          rwa [hc.1, hlink.sign, exceeds_some_iff]
        rw [List.dropWhile_cons_of_neg hexceeds, List.takeWhile_cons_of_neg hexceeds, chainTokens,
          List.flatMap_cons, Feed.ofTokens_append, List.append_assoc]
        exact ⟨left, c, climb_of_not_exceeds hstop, hc, .single left⟩

/-- Let a chain be ahead, and behind it a token for no binary connective or the end. The climb from
any formula with any minimum succeeds. It takes the links in front of the first one whose precedence
does not exceed the minimum, and it stops at that one, or else behind the chain; its formula is the
one formula that is split at the rightmost connective of least precedence, and so in both parts. -/
theorem climb_splits_chain (left : Formula) (m : Nat) (hlinks : ∀ l ∈ links, l.Faithful registry)
    (hrest : rest.Stops registry) (hc : c.Faces (.ofTokens (chainTokens links) ++ rest)) :
    ∃ f next, climb registry left m c = .ok f next ∧
      next.Faces (.ofTokens (chainTokens (links.dropWhile (Link.exceeds m))) ++ rest) ∧
      ∀ g, Split left (links.takeWhile (Link.exceeds m)) g ↔ g = f := by
  obtain ⟨f, next, hclimb, hnext, hsplit⟩ := climb_chain hrest hlinks hc left m
  refine ⟨f, next, hclimb, hnext, ?_⟩
  intro g
  constructor
  · intro hg
    exact hg.unique hsplit
  · rintro rfl
    exact hsplit

theorem climb_splits_chain_before_implication :
    let conjunction : Link := ⟨⟨.conjunction, "&", 2⟩, .conjunction, [⟨.name, "q", 4⟩], .atom "q"⟩
    let disjunction : Link :=
      ⟨⟨.disjunction, "|", 6⟩, .disjunction,
        [⟨.opening, "(", 8⟩, ⟨.name, "r", 9⟩, ⟨.implication, ">", 10⟩, ⟨.name, "s", 11⟩,
          ⟨.closing, ")", 12⟩],
        .binary (.atom "r") .implication (.atom "s")⟩
    let implication : Link :=
      ⟨⟨.implication, ">", 14⟩, .implication, [⟨.negation, "~", 16⟩, ⟨.name, "t", 17⟩],
        .unary .negation (.atom "t")⟩
    let links := [conjunction, disjunction, implication]
    let rest : Feed := [some (.token ⟨.closing, ")", 18⟩), some (.invalid ⟨'$', 19⟩)]
    let c : Cursor :=
      ⟨some conjunction.sign, (.ofTokens (chainTokens links) ++ rest : Feed).tail, []⟩
    ((∀ l ∈ links, l.Faithful Registry.standard) ∧ rest.Stops Registry.standard ∧
        c.Faces (.ofTokens (chainTokens links) ++ rest)) ∧
      ∃ next, climb Registry.standard (.atom "p") 2 c =
          .ok (.binary (.binary (.atom "p") .conjunction (.atom "q")) .disjunction
            disjunction.operand) next ∧
        next.Faces (.ofTokens implication.text ++ rest) := by
  intro conjunction disjunction implication links rest c
  have hlinks : ∀ l ∈ links, l.Faithful Registry.standard := by decide +kernel
  have hrest : rest.Stops Registry.standard := rfl
  have hc : c.Faces (.ofTokens (chainTokens links) ++ rest) := ⟨rfl, rfl⟩
  obtain ⟨f, next, hclimb, hnext, hsplit⟩ := climb_splits_chain (.atom "p") 2 hlinks hrest hc
  have hleft : Split (.atom "p") ([] ++ [conjunction])
      (.binary (.atom "p") .conjunction (.atom "q")) :=
    .pivot (List.forall_mem_nil _) (List.forall_mem_nil _) (.single _) (.single _)
  have hwhole : Split (.atom "p") ([conjunction] ++ [disjunction])
      (.binary (.binary (.atom "p") .conjunction (.atom "q")) .disjunction disjunction.operand) :=
    .pivot (by decide) (List.forall_mem_nil _) hleft (.single _)
  obtain rfl := (hsplit _).mp hwhole
  exact ⟨⟨hlinks, hrest, hc⟩, next, hclimb, hnext⟩

end Reading

end Propositional
