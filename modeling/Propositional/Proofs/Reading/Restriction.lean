import Propositional.Proofs.Reading.Pulls

namespace Propositional

namespace Registry

/-- The token stands for a connective of the larger registry, and for none of this one. -/
def Lacks (registry larger : Registry) (t : Token) : Prop :=
  registry.get? t.kind = none ∧ larger.get? t.kind ≠ none

instance (registry larger : Registry) (t : Token) : Decidable (registry.Lacks larger t) :=
  inferInstanceAs (Decidable (_ ∧ _))

variable {registry larger : Registry} {t : Token}

theorem get?_eq_of_not_lacks (hsubset : registry.entries ⊆ larger.entries)
    (ht : ¬ registry.Lacks larger t) : registry.get? t.kind = larger.get? t.kind := by
  rcases hget : registry.get? t.kind with _ | c
  · rcases hlarger : larger.get? t.kind with _ | c
    · rfl
    · exact (ht ⟨hget, by simp [hlarger]⟩).elim
  · obtain ⟨hmem, hkind⟩ := get?_eq_some_iff.mp hget
    exact (get?_eq_some_iff.mpr ⟨hsubset hmem, hkind⟩).symm

theorem exists_kind_of_lacks (ht : registry.Lacks larger t) : ∃ c : Connective, c.kind = t.kind := by
  obtain ⟨c, hc⟩ := Option.ne_none_iff_exists'.mp ht.2
  exact ⟨c, (get?_eq_some_iff.mp hc).2⟩

end Registry

namespace Reading

variable {registry larger : Registry}

theorem step_eq_of_not_lacks (hsubset : registry.entries ⊆ larger.entries) {t : Token}
    (ht : ¬ registry.Lacks larger t) (s : Stage) : s.step registry t = s.step larger t := by
  have hget := Registry.get?_eq_of_not_lacks hsubset ht
  have hunary : registry.unary? (some t) = larger.unary? (some t) := by
    simp only [Registry.unary?, Option.bind_some, Registry.unaryOf?, hget]
  have hbinary : registry.binary? (some t) = larger.binary? (some t) := by
    simp only [Registry.binary?, Option.bind_some, Registry.binaryOf?, hget]
  cases s with
  | beforeTerm pending frames => simp only [Stage.step, hunary]
  | afterTerm f frames => simp only [Stage.step, hbinary]

theorem step_of_lacks {t : Token} (ht : registry.Lacks larger t) (s : Stage) :
    ∃ fault, s.step registry t = .error fault := by
  obtain ⟨c, hc⟩ := Registry.exists_kind_of_lacks ht
  have hname : c.kind ≠ .name ∧ c.kind ≠ .opening ∧ c.kind ≠ .closing := by
    rcases c with (_ | _) | (_ | _ | _) <;> decide
  rw [hc] at hname
  rcases hstep : s.step registry t with fault | next
  · exact ⟨fault, rfl⟩
  · have hnone := Registry.get?_eq_none_iff.mp ht.1
    rcases Stage.moves_of_step hstep with hkind | hkind | hu | ⟨hb, -⟩ | ⟨hkind, -⟩
    · exact (hname.1 hkind).elim
    · exact (hname.2.1 hkind).elim
    · obtain ⟨hmem, hkind⟩ := Registry.unary?_eq_some_iff.mp hu
      exact (hnone _ hmem hkind).elim
    · obtain ⟨hmem, hkind⟩ := Registry.binary?_eq_some_iff.mp hb
      exact (hnone _ hmem hkind).elim
    · exact (hname.2.2 hkind).elim

theorem steps_eq_of_not_lacks (hsubset : registry.entries ⊆ larger.entries) {ts : List Token}
    (hts : ∀ t ∈ ts, ¬ registry.Lacks larger t) (s : Stage) :
    s.steps registry ts = s.steps larger ts := by
  induction ts generalizing s with
  | nil => rfl
  | cons t rest ih =>
      have hrest : ∀ u ∈ rest, ¬ registry.Lacks larger u := fun u hu =>
        hts u (List.mem_cons_of_mem t hu)
      have hstep := step_eq_of_not_lacks hsubset (hts t List.mem_cons_self) s
      rcases hlarger : s.step larger t with fault | next
      · rw [Stage.steps_cons_of_error hlarger, Stage.steps_cons_of_error (hstep.trans hlarger)]
      · rw [Stage.steps_cons_of_ok hlarger, Stage.steps_cons_of_ok (hstep.trans hlarger)]
        exact ih hrest next

/-- Where reading a feed stops: at the token found at fault, which is the one pulled last, or else
at the first answer that is no token. -/
def stopIndex (registry : Registry) (feed : Feed) : Nat :=
  match (ofFeed registry feed).result with
  | .error (.misplaced ⟨some _, _⟩) => pullCount registry feed - 1
  | _ => feed.firstOther

theorem stopIndex_add_one (registry : Registry) (feed : Feed) :
    stopIndex registry feed + 1 = pullCount registry feed := by
  have haccounts := accounts_ofFeed registry feed
  unfold stopIndex
  split
  · next t expected hresult =>
      rw [hresult] at haccounts
      exact Nat.sub_add_cancel haccounts.2.1
  · next hnot =>
      rcases haccounts.stops with ⟨t, expected, hresult⟩ | ⟨-, hcount⟩
      · exact (hnot t expected hresult).elim
      · exact hcount.symm

/-- The index of the first of the leading tokens that only the larger registry knows. -/
def firstLacking? (registry larger : Registry) (feed : Feed) : Option Nat :=
  feed.tokens.findIdx? fun t => registry.Lacks larger t

theorem of_firstLacking?_eq_some {feed : Feed} {k : Nat}
    (h : firstLacking? registry larger feed = some k) :
    ∃ t, feed.tokens[k]? = some t ∧ registry.Lacks larger t ∧
      ∀ u ∈ feed.tokens.take k, ¬ registry.Lacks larger u := by
  obtain ⟨hlt, hlacks, hleast⟩ := List.findIdx?_eq_some_iff_getElem.mp h
  refine ⟨feed.tokens[k], List.getElem?_eq_getElem hlt, of_decide_eq_true hlacks, ?_⟩
  intro u hu
  obtain ⟨i, hi, rfl⟩ := List.mem_take_iff_getElem.mp hu
  have hbefore := hleast i (by omega)
  simpa using hbefore

theorem steps_of_steps_take {s : Stage} {ts : List Token} {k : Nat} {fault : SyntaxError}
    (h : s.steps registry (ts.take k) = .error fault) : s.steps registry ts = .error fault := by
  rw [← List.take_append_drop k ts, Stage.steps_append, h]

theorem result_eq_of_stop_lt (hsubset : registry.entries ⊆ larger.entries) {feed : Feed}
    (h : ∀ k, firstLacking? registry larger feed = some k → stopIndex larger feed < k) :
    (ofFeed registry feed).result = (ofFeed larger feed).result := by
  rw [result_ofFeed, result_ofFeed]
  rcases hfirst : firstLacking? registry larger feed with _ | k
  · have hnone : ∀ t ∈ feed.tokens, ¬ registry.Lacks larger t := by
      intro t ht
      have hfalse := List.findIdx?_eq_none_iff.mp hfirst t ht
      simpa using hfalse
    rw [steps_eq_of_not_lacks hsubset hnone]
  · obtain ⟨t, hget, -, hbefore⟩ := of_firstLacking?_eq_some hfirst
    have hk : k ≤ feed.tokens.length := Nat.le_of_lt (List.getElem?_eq_some_iff.mp hget).1
    have hstop := h k hfirst
    have hnot : ¬ k < pullCount larger feed := by
      rw [← stopIndex_add_one]
      omega
    rw [lt_pullCount_iff hk] at hnot
    rcases hlarger : Stage.start.steps larger (feed.tokens.take k) with fault | s
    · have hsmaller := (steps_eq_of_not_lacks hsubset hbefore Stage.start).trans hlarger
      rw [steps_of_steps_take hlarger, steps_of_steps_take hsmaller]
    · exact (hnot ⟨s, hlarger⟩).elim

theorem misplaced_of_le_stop (hsubset : registry.entries ⊆ larger.entries) {feed : Feed} {k : Nat}
    (hfirst : firstLacking? registry larger feed = some k) (hstop : k ≤ stopIndex larger feed) :
    ∃ t expected, feed.answer k = some (.token t) ∧
      (ofFeed registry feed).result = .error (.misplaced ⟨some t, expected⟩) ∧
      pullCount registry feed = k + 1 := by
  obtain ⟨t, hget, hlacks, hbefore⟩ := of_firstLacking?_eq_some hfirst
  obtain ⟨hlt, hk⟩ := List.getElem?_eq_some_iff.mp hget
  have hasked : k < pullCount larger feed := by
    rw [← stopIndex_add_one]
    omega
  obtain ⟨s, hs⟩ := (lt_pullCount_iff (Nat.le_of_lt hlt)).mp hasked
  rw [← steps_eq_of_not_lacks hsubset hbefore] at hs
  obtain ⟨⟨found, expected⟩, hstep⟩ := step_of_lacks hlacks s
  obtain rfl : found = some t := Stage.found_of_step hstep
  have hrefused : Stage.start.steps registry (feed.tokens.take (k + 1)) =
      .error ⟨some t, expected⟩ := by
    rw [← List.take_append_getElem hlt, hk, Stage.steps_append, hs]
    exact Stage.steps_cons_of_error hstep []
  refine ⟨t, expected, Feed.answer_of_tokens hget, ?_, ?_⟩
  · rw [result_ofFeed, steps_of_steps_take hrefused]
  · have hreached : k < pullCount registry feed :=
      (lt_pullCount_iff (Nat.le_of_lt hlt)).mpr ⟨s, hs⟩
    have hended : ¬ k + 1 < pullCount registry feed := by
      rw [lt_pullCount_iff hlt, hrefused]
      simp
    omega

/-- A registry whose connectives all belong to a larger one reads what the larger one reads, unless
that goes past a token which stands for none of its own connectives: such a token, the first one, is
found at fault. So it never reads a formula that the larger one does not read. -/
theorem result_ofFeed_of_subset {registry larger : Registry}
    (hsubset : registry.entries ⊆ larger.entries) (feed : Feed) :
    ((∀ k, firstLacking? registry larger feed = some k → stopIndex larger feed < k) →
        (ofFeed registry feed).result = (ofFeed larger feed).result) ∧
      (∀ k, firstLacking? registry larger feed = some k → k ≤ stopIndex larger feed →
        ∃ t expected, feed.answer k = some (.token t) ∧
          (ofFeed registry feed).result = .error (.misplaced ⟨some t, expected⟩) ∧
          pullCount registry feed = k + 1) ∧
      ∀ f, (ofFeed registry feed).result = .ok f → (ofFeed larger feed).result = .ok f := by
  refine ⟨result_eq_of_stop_lt hsubset, fun k => misplaced_of_le_stop hsubset, ?_⟩
  intro f hf
  have hknown : ∀ k, firstLacking? registry larger feed = some k → stopIndex larger feed < k := by
    intro k hfirst
    apply Nat.lt_of_not_le
    intro hstop
    obtain ⟨t, expected, -, hmisplaced, -⟩ := misplaced_of_le_stop hsubset hfirst hstop
    rw [hf] at hmisplaced
    contradiction
  rw [← result_eq_of_stop_lt hsubset hknown, hf]

def negationAndConjunction : Registry :=
  ⟨[.unary .negation, .binary .conjunction], distinctKinds_iff.mp rfl⟩

def disjunctionFeed : Feed :=
  [⟨.name, "p", 0⟩, ⟨.disjunction, "|", 2⟩, ⟨.name, "q", 4⟩].map fun t => some (.token t)

theorem negationAndConjunction_refuses_disjunction :
    negationAndConjunction.entries ⊆ Registry.standard.entries ∧
      firstLacking? negationAndConjunction Registry.standard disjunctionFeed = some 1 ∧
      1 ≤ stopIndex Registry.standard disjunctionFeed ∧
      ∃ expected, (ofFeed negationAndConjunction disjunctionFeed).result =
        .error (.misplaced ⟨some ⟨.disjunction, "|", 2⟩, expected⟩) := by
  have hsubset : negationAndConjunction.entries ⊆ Registry.standard.entries :=
    fun c _ => c.mem_all
  have hfirst : firstLacking? negationAndConjunction Registry.standard disjunctionFeed = some 1 := by
    decide
  have hstop : 1 ≤ stopIndex Registry.standard disjunctionFeed := by
    have hcount : pullCount Registry.standard disjunctionFeed = 4 := pullCount_eq ..
    rw [← stopIndex_add_one] at hcount
    omega
  obtain ⟨t, expected, hanswer, hresult, -⟩ :=
    (result_ofFeed_of_subset hsubset disjunctionFeed).2.1 1 hfirst hstop
  obtain rfl : (⟨.disjunction, "|", 2⟩ : Token) = t := Item.token.inj (Option.some.inj hanswer)
  exact ⟨hsubset, hfirst, hstop, expected, hresult⟩

end Reading

end Propositional
