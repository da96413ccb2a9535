import Propositional.Proofs.Reading.Lazy

namespace Propositional

namespace Feed

theorem tokens_append (ts : List Token) (rest : Feed) :
    tokens (ts.map (fun t => some (.token t)) ++ rest) = ts ++ rest.tokens := by
  induction ts with
  | nil => rfl
  | cons t ts ih => exact congrArg (t :: ·) ih

theorem fault?_append (ts : List Token) (rest : Feed) :
    fault? (ts.map (fun t => some (.token t)) ++ rest) = rest.fault? := by
  induction ts with
  | nil => rfl
  | cons t ts ih => exact ih

end Feed

namespace Reading

variable {registry : Registry}

/-- The result when an invalid character follows the tokens: only a token refused before stands. -/
def interrupt (fault : InvalidCharacter) :
    Except ReadingError Formula → Except ReadingError Formula
  | .error (.misplaced ⟨some t, expected⟩) => .error (.misplaced ⟨some t, expected⟩)
  | _ => .error (.invalid fault)

theorem interrupt_answer_none (fault : InvalidCharacter) (s : Stage) :
    interrupt fault (s.answer none) = .error (.invalid fault) := by
  rcases hfinish : s.finish with ⟨found, expected⟩ | f
  · obtain rfl : found = none := Stage.found_of_finish hfinish
    rw [answer_none_of_error hfinish]
    rfl
  · rw [answer_none_of_ok hfinish]
    rfl

theorem interrupt_eq_invalid {fault : InvalidCharacter} {result : Except ReadingError Formula}
    (h : ∀ t expected, result ≠ .error (.misplaced ⟨some t, expected⟩)) :
    interrupt fault result = .error (.invalid fault) := by
  match result with
  | .ok _ => rfl
  | .error (.invalid _) => rfl
  | .error (.misplaced ⟨none, _⟩) => rfl
  | .error (.misplaced ⟨some t, expected⟩) => exact (h t expected rfl).elim

theorem interrupt_ne_ok (fault : InvalidCharacter) (result : Except ReadingError Formula)
    (f : Formula) : interrupt fault result ≠ .ok f := by
  unfold interrupt
  split <;> simp

theorem interrupt_ne_end (fault : InvalidCharacter) (result : Except ReadingError Formula)
    (expected : Option TokenKind) :
    interrupt fault result ≠ .error (.misplaced ⟨none, expected⟩) := by
  unfold interrupt
  split <;> simp

theorem result_ofFeed_of_fault {feed : Feed} {fault : InvalidCharacter}
    (h : feed.fault? = some fault) :
    (ofFeed registry feed).result = interrupt fault (Formula.readTokens registry feed.tokens) := by
  rw [result_ofFeed, readTokens_eq, h]
  rcases hsteps : Stage.start.steps registry feed.tokens with ⟨found, expected⟩ | s
  · obtain ⟨before, t, after, s, -, -, hstep⟩ := Stage.exists_of_steps_eq_error hsteps
    obtain rfl : found = some t := Stage.found_of_step hstep
    rfl
  · exact (interrupt_answer_none fault s).symm

theorem sourceFeed_of_tokens {source : String} {ts : List Token}
    (h : scan source = ts.map .token) :
    sourceFeed source = ts.map fun t => some (.token t) := by
  rw [sourceFeed, h, List.map_map]
  rfl

theorem result_ofSource_of_tokens {source : String} {ts : List Token}
    (h : scan source = ts.map .token) :
    (ofSource registry source).result = Formula.readTokens registry ts := by
  rw [ofSource_eq_ofFeed, sourceFeed_of_tokens h]
  rfl

theorem sourceFeed_of_invalid {source : String} {ts : List Token} {fault : InvalidCharacter}
    (h : scan source = ts.map .token ++ [.invalid fault]) :
    (sourceFeed source).tokens = ts ∧ (sourceFeed source).fault? = some fault := by
  have hfeed : sourceFeed source =
      ts.map (fun t => some (.token t)) ++ [some (.invalid fault)] := by
    rw [sourceFeed, h, List.map_append, List.map_map]
    rfl
  rw [hfeed, Feed.tokens_append, Feed.fault?_append]
  exact ⟨List.append_nil ts, rfl⟩

theorem result_ofSource_of_invalid {source : String} {ts : List Token} {fault : InvalidCharacter}
    (h : scan source = ts.map .token ++ [.invalid fault]) :
    (ofSource registry source).result = interrupt fault (Formula.readTokens registry ts) := by
  obtain ⟨htokens, hfault⟩ := sourceFeed_of_invalid h
  rw [ofSource_eq_ofFeed, result_ofFeed_of_fault hfault, htokens]

theorem readScanned_of_tokens {source : String} {ts : List Token}
    (h : scan source = ts.map .token) :
    Formula.readScanned registry source = Formula.readTokens registry ts := by
  rw [Formula.readScanned, Scanner.collect_eq_ok_iff.mpr h]

theorem scan_eq_tokens_or_invalid (source : String) :
    ∃ ts : List Token, scan source = ts.map .token ∨
      ∃ fault, scan source = ts.map .token ++ [.invalid fault] := by
  rcases hcollect : (Scanner.start source).collect.1 with fault | ts
  · obtain ⟨ts, hts⟩ := Scanner.collect_eq_error_iff.mp hcollect
    exact ⟨ts, .inr ⟨fault, hts⟩⟩
  · exact ⟨ts, .inl (Scanner.collect_eq_ok_iff.mp hcollect)⟩

theorem tokens_sourceFeed (source : String) :
    (sourceFeed source).tokens = (scan source).filterMap Item.token? := by
  obtain ⟨ts, hscan | ⟨fault, hscan⟩⟩ := scan_eq_tokens_or_invalid source
  · rw [sourceFeed_of_tokens hscan, Feed.tokens_map, hscan, Scanner.filterMap_map_token]
  · rw [(sourceFeed_of_invalid hscan).1, hscan, List.filterMap_append, Scanner.filterMap_map_token]
    exact (List.append_nil ts).symm

theorem exists_tokens_of_ofSource {source : String} {f : Formula}
    (h : (ofSource registry source).result = .ok f) :
    ∃ ts : List Token, scan source = ts.map .token ∧ Formula.readTokens registry ts = .ok f := by
  obtain ⟨ts, hscan | ⟨fault, hscan⟩⟩ := scan_eq_tokens_or_invalid source
  · rw [result_ofSource_of_tokens hscan] at h
    exact ⟨ts, hscan, h⟩
  · rw [result_ofSource_of_invalid hscan] at h
    exact (interrupt_ne_ok fault _ f h).elim

/-- A source whose scan is all tokens is read as its list of tokens. If an invalid character follows
the tokens, a reader reports the token of them that it refuses, and that character if it refuses
none; it finds no formula then and never meets the end of the input. -/
theorem ofSource_agrees_with_readTokens (registry : Registry) (source : String) :
    (∀ ts : List Token, scan source = ts.map .token →
        (ofSource registry source).result = Formula.readTokens registry ts ∧
          Formula.readScanned registry source = Formula.readTokens registry ts) ∧
      (∀ (ts : List Token) fault, scan source = ts.map .token ++ [.invalid fault] →
        (∀ t expected,
          Formula.readTokens registry ts = .error (.misplaced ⟨some t, expected⟩) →
            (ofSource registry source).result = .error (.misplaced ⟨some t, expected⟩)) ∧
          ((∀ t expected,
            Formula.readTokens registry ts ≠ .error (.misplaced ⟨some t, expected⟩)) →
              (ofSource registry source).result = .error (.invalid fault)) ∧
          (∀ f, (ofSource registry source).result ≠ .ok f) ∧
          ∀ expected, (ofSource registry source).result ≠ .error (.misplaced ⟨none, expected⟩)) ∧
      ∃ ts : List Token, scan source = ts.map .token ∨
        ∃ fault, scan source = ts.map .token ++ [.invalid fault] := by
  refine ⟨?_, ?_, scan_eq_tokens_or_invalid source⟩
  · intro ts hscan
    exact ⟨result_ofSource_of_tokens hscan, readScanned_of_tokens hscan⟩
  · intro ts fault hscan
    rw [result_ofSource_of_invalid hscan]
    refine ⟨?_, interrupt_eq_invalid, interrupt_ne_ok fault _, interrupt_ne_end fault _⟩
    intro t expected hrefused
    rw [hrefused]
    rfl

theorem ofSource_of_stray_name_before_invalid :
    scan "A B $" =
        [⟨.name, "A", 0⟩, ⟨.name, "B", 2⟩].map Item.token ++ [.invalid ⟨'$', 4⟩] ∧
      Formula.readTokens Registry.standard [⟨.name, "A", 0⟩, ⟨.name, "B", 2⟩] =
        .error (.misplaced ⟨some ⟨.name, "B", 2⟩, none⟩) ∧
      (ofSource Registry.standard "A B $").result =
        .error (.misplaced ⟨some ⟨.name, "B", 2⟩, none⟩) := by
  have hscan : scan "A B $" =
      [⟨.name, "A", 0⟩, ⟨.name, "B", 2⟩].map Item.token ++ [.invalid ⟨'$', 4⟩] := by
    decide +kernel
  have hread : Formula.readTokens Registry.standard [⟨.name, "A", 0⟩, ⟨.name, "B", 2⟩] =
      .error (.misplaced ⟨some ⟨.name, "B", 2⟩, none⟩) := by
    rw [readTokens_eq]
    rfl
  have hagree := (ofSource_agrees_with_readTokens Registry.standard "A B $").2.1 _ _ hscan
  exact ⟨hscan, hread, hagree.1 _ _ hread⟩

end Reading

end Propositional
