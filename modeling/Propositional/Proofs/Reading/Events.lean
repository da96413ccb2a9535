import Propositional.Proofs.Reading.Scanned
import Propositional.Proofs.Token.Tiling
import Propositional.Reading.Events

namespace Propositional

namespace ReadingEvent

def scanned? : ReadingEvent → Option Token
  | scanned t => some t
  | _ => none

/-- The event is about a single token. -/
def concernsToken : ReadingEvent → Bool
  | scanned _ => true
  | accepted _ => true
  | joined _ _ => false

end ReadingEvent

namespace Reading

variable {registry : Registry}

/-- The token that a reading was refused for, if it ended so. -/
def refused? : Except ReadingError Formula → Option Token
  | .error (.misplaced fault) => fault.found
  | _ => none

def Acceptable (t : Token) : Prop :=
  t.kind = .name ∨ t.kind = .opening ∨ t.kind = .closing

instance (t : Token) : Decidable (Acceptable t) :=
  inferInstanceAs (Decidable (_ ∨ _ ∨ _))

/-- The leading tokens that have a step. -/
def Stage.taken (registry : Registry) : Stage → List Token → List Token
  | s, t :: rest =>
      match s.step registry t with
      | .ok next => t :: next.taken registry rest
      | .error _ => []
  | _, [] => []

theorem taken_of_ok {s next : Stage} {t : Token} (h : s.step registry t = .ok next)
    (rest : List Token) : s.taken registry (t :: rest) = t :: next.taken registry rest := by
  rw [Stage.taken, h]

theorem taken_of_error {s : Stage} {t : Token} {fault : SyntaxError}
    (h : s.step registry t = .error fault) (rest : List Token) :
    s.taken registry (t :: rest) = [] := by
  rw [Stage.taken, h]

theorem refused?_finish (s : Stage) (c : Cursor) : refused? (conclude s.finish c).result = none := by
  rcases hfinish : s.finish with fault | f
  · exact Stage.found_of_finish hfinish
  · rfl

theorem take_asked (s : Stage) (last : Option Token) (done : List ReadingStep) (feed : Feed) :
    feed.tokens.take (s.asked registry feed) =
      s.taken registry feed.tokens ++ (refused? (s.run registry last done feed).result).toList := by
  fun_induction Stage.run registry s last done feed with
  | case1 s last done =>
      rw [refused?_finish]
      rfl
  | case2 s last done rest =>
      rw [refused?_finish]
      rfl
  | case3 s last done fault rest => rfl
  | case4 s last done t rest noted next hstep ih =>
      rw [asked_of_ok hstep, Feed.tokens, List.take_succ_cons, taken_of_ok hstep, ih]
      rfl
  | case5 s last done t rest noted fault hstep =>
      have hfound : fault.found = some t := Stage.found_of_step hstep
      rw [asked_of_error hstep, Feed.tokens, taken_of_error hstep]
      simp [Outcome.result, refused?, hfound]

/-- The events about tokens among steps that have the latest first. -/
def tokenEventsIn (done : List ReadingStep) : List ReadingEvent :=
  (done.reverse.filterMap ReadingEvent.ofStep?).filter ReadingEvent.concernsToken

def eventsOfTaken (t : Token) : List ReadingEvent :=
  if Acceptable t then [.scanned t, .accepted t] else [.scanned t]

theorem tokenEventsIn_append (latest done : List ReadingStep) :
    tokenEventsIn (latest ++ done) = tokenEventsIn done ++ tokenEventsIn latest := by
  simp [tokenEventsIn]

theorem tokenEventsIn_joinsAt_append (s : Stage) (ahead : Option Token)
    (done : List ReadingStep) :
    tokenEventsIn (s.joinsAt registry ahead ++ done) = tokenEventsIn done := by
  have hnone : tokenEventsIn (s.joinsAt registry ahead) = [] := by
    apply List.filter_eq_nil_iff.mpr
    intro event hevent
    obtain ⟨step, hstep, hof⟩ := List.mem_filterMap.mp hevent
    obtain ⟨b, m, rfl⟩ := exists_joined_of_mem_joinsAt (List.mem_reverse.mp hstep)
    obtain rfl := Option.some.inj hof
    exact Bool.false_ne_true
  rw [tokenEventsIn_append, hnone, List.append_nil]

theorem tokenEventsIn_pulled_token (t : Token) (done : List ReadingStep) :
    tokenEventsIn (.pulled (some (.token t)) :: done) = tokenEventsIn done ++ [.scanned t] := by
  simp [tokenEventsIn, ReadingEvent.ofStep?, ReadingEvent.concernsToken]

theorem tokenEventsIn_pulled_end (done : List ReadingStep) :
    tokenEventsIn (.pulled none :: done) = tokenEventsIn done := by
  simp [tokenEventsIn, ReadingEvent.ofStep?]

theorem tokenEventsIn_pulled_invalid (fault : InvalidCharacter) (done : List ReadingStep) :
    tokenEventsIn (.pulled (some (.invalid fault)) :: done) = tokenEventsIn done := by
  simp [tokenEventsIn, ReadingEvent.ofStep?]

theorem tokenEventsIn_acceptance (t : Token) :
    [.scanned t] ++ tokenEventsIn (acceptance t) = eventsOfTaken t := by
  by_cases h : Acceptable t
  · have haccepted : acceptance t = [.accepted t] := if_pos h
    rw [haccepted, eventsOfTaken, if_pos h]
    rfl
  · have hnone : acceptance t = [] := if_neg h
    rw [hnone, eventsOfTaken, if_neg h]
    rfl

theorem tokenEvents_run (s : Stage) (last : Option Token) (done : List ReadingStep) (feed : Feed) :
    tokenEventsIn (s.run registry last done feed).cursor.transcript =
      tokenEventsIn done ++ (s.taken registry feed.tokens).flatMap eventsOfTaken ++
        (refused? (s.run registry last done feed).result).toList.map .scanned := by
  fun_induction Stage.run registry s last done feed with
  | case1 s last done =>
      rw [refused?_finish, cursor_conclude, tokenEventsIn_joinsAt_append, tokenEventsIn_pulled_end]
      simp [Feed.tokens, Stage.taken]
  | case2 s last done rest =>
      rw [refused?_finish, cursor_conclude, tokenEventsIn_joinsAt_append, tokenEventsIn_pulled_end]
      simp [Feed.tokens, Stage.taken]
  | case3 s last done fault rest =>
      rw [Outcome.cursor, tokenEventsIn_pulled_invalid]
      simp [Feed.tokens, Stage.taken, Outcome.result, refused?]
  | case4 s last done t rest noted next hstep ih =>
      rw [ih, Feed.tokens, taken_of_ok hstep, List.flatMap_cons, ← tokenEventsIn_acceptance,
        tokenEventsIn_append, tokenEventsIn_joinsAt_append, tokenEventsIn_pulled_token]
      simp only [List.append_assoc]
  | case5 s last done t rest noted fault hstep =>
      have hfound : fault.found = some t := Stage.found_of_step hstep
      rw [Outcome.cursor, tokenEventsIn_joinsAt_append, tokenEventsIn_pulled_token, Feed.tokens,
        taken_of_error hstep]
      simp [Outcome.result, refused?, hfound]

/-- The tokens of a scan that are pulled when the source is read with the standard connectives. -/
def pulledTokens (source : String) : List Token :=
  ((scan source).take (pullCount Registry.standard (sourceFeed source))).filterMap Item.token?

theorem take_tokens_sourceFeed (source : String) (p : Nat) :
    (sourceFeed source).tokens.take p = ((scan source).take p).filterMap Item.token? := by
  obtain ⟨ts, hscan | ⟨fault, hscan⟩⟩ := scan_eq_tokens_or_invalid source
  · rw [sourceFeed_of_tokens hscan, Feed.tokens_map, hscan, ← List.map_take,
      Scanner.filterMap_map_token]
  · have hrest : (([Item.invalid fault]).take (p - ts.length)).filterMap Item.token? = [] := by
      rcases p - ts.length with _ | n <;> simp [Item.token?]
    rw [(sourceFeed_of_invalid hscan).1, hscan, List.take_append, List.length_map,
      List.filterMap_append, hrest, ← List.map_take, Scanner.filterMap_map_token, List.append_nil]

theorem pulledTokens_eq (source : String) :
    pulledTokens source =
      Stage.start.taken Registry.standard (sourceFeed source).tokens ++
        (refused? (Formula.read source)).toList := by
  rw [pulledTokens, ← take_tokens_sourceFeed, pullCount_eq, take_asked _ none [], ← ofFeed_eq_run]
  rfl

theorem pairwise_position_pulledTokens (source : String) :
    (pulledTokens source).Pairwise fun t u => t.position < u.position :=
  (pairwise_position_scan source).sublist ((List.take_sublist _ _).filterMap _)

theorem ne_refused?_of_mem_taken {source : String} {t : Token}
    (h : t ∈ Stage.start.taken Registry.standard (sourceFeed source).tokens) :
    refused? (Formula.read source) ≠ some t := by
  intro hrefused
  have hpairwise := pairwise_position_pulledTokens source
  rw [pulledTokens_eq, hrefused] at hpairwise
  have hlt := (List.pairwise_append.mp hpairwise).2.2 t h t (List.mem_singleton_self t)
  exact Nat.lt_irrefl _ hlt

/-- The token is a name or a parenthesis, and it is not refused. -/
def IsAccepted (source : String) (t : Token) : Prop :=
  Acceptable t ∧ refused? (Formula.read source) ≠ some t

instance (source : String) (t : Token) : Decidable (IsAccepted source t) :=
  inferInstanceAs (Decidable (_ ∧ _))

theorem tokenEvents_readingEvents (source : String) :
    (Formula.readingEvents source).filter ReadingEvent.concernsToken =
      (pulledTokens source).flatMap fun t =>
        if IsAccepted source t then [.scanned t, .accepted t] else [.scanned t] := by
  have hrun := @tokenEvents_run Registry.standard .start none [] (sourceFeed source)
  rw [← ofFeed_eq_run] at hrun
  change (Formula.readingEvents source).filter ReadingEvent.concernsToken =
    [] ++ _ ++ (refused? (Formula.read source)).toList.map .scanned at hrun
  rw [hrun, List.nil_append, pulledTokens_eq, List.flatMap_append]
  congr 1
  · apply List.flatMap_congr
    intro t ht
    have hiff : IsAccepted source t ↔ Acceptable t := and_iff_left (ne_refused?_of_mem_taken ht)
    rw [eventsOfTaken]
    simp only [hiff]
  · rcases hrefused : refused? (Formula.read source) with _ | t
    · rfl
    · have hnot : ¬ IsAccepted source t := fun h => h.2 hrefused
      simp [hnot]

/-- The tokens that are scanned are those the reader pulls, in their order. Each name and each
parenthesis among them is accepted once, after it has been scanned and before the next token is,
except for a token that the reading is refused for; no other token is accepted. -/
theorem readingEvents_in_step (source : String) :
    (Formula.readingEvents source).filterMap ReadingEvent.scanned? = pulledTokens source ∧
      (Formula.readingEvents source).filter ReadingEvent.concernsToken =
        (pulledTokens source).flatMap fun t =>
          if IsAccepted source t then [.scanned t, .accepted t] else [.scanned t] := by
  have htokens := tokenEvents_readingEvents source
  refine ⟨?_, htokens⟩
  have hscanned : (Formula.readingEvents source).filterMap ReadingEvent.scanned? =
      ((Formula.readingEvents source).filter ReadingEvent.concernsToken).filterMap
        ReadingEvent.scanned? := by
    rw [List.filterMap_filter]
    congr 1
    funext e
    cases e <;> rfl
  rw [hscanned, htokens]
  generalize pulledTokens source = ts
  induction ts with
  | nil => rfl
  | cons t rest ih =>
      rw [List.flatMap_cons, List.filterMap_append, ih]
      split <;> rfl

example : Formula.readingEvents "(p & q) r" =
    [.scanned ⟨.opening, "(", 0⟩, .accepted ⟨.opening, "(", 0⟩, .scanned ⟨.name, "p", 1⟩,
      .accepted ⟨.name, "p", 1⟩, .scanned ⟨.conjunction, "&", 3⟩, .scanned ⟨.name, "q", 5⟩,
      .accepted ⟨.name, "q", 5⟩, .scanned ⟨.closing, ")", 6⟩, .joined .conjunction 0,
      .accepted ⟨.closing, ")", 6⟩, .scanned ⟨.name, "r", 8⟩] := by
  decide +kernel

end Reading

end Propositional
