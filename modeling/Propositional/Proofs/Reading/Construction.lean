import Propositional.Proofs.Formula.Joins
import Propositional.Proofs.Reading.Events
import Propositional.Proofs.Reading.Parentheses

namespace Propositional

def ReadingEvent.join? : ReadingEvent → Option Join
  | joined c minimum => some ⟨c, minimum⟩
  | _ => none

namespace Reading

variable {registry : Registry}

/-- The joins among steps that have the latest first. -/
def joinsIn (done : List ReadingStep) : List Join :=
  (done.reverse.filterMap ReadingEvent.ofStep?).filterMap ReadingEvent.join?

theorem joinsIn_append (latest done : List ReadingStep) :
    joinsIn (latest ++ done) = joinsIn done ++ joinsIn latest := by
  simp [joinsIn]

@[simp] theorem joinsIn_nil : joinsIn [] = [] := rfl

theorem joinsIn_pulled (answer : Option Item) (done : List ReadingStep) :
    joinsIn (.pulled answer :: done) = joinsIn done := by
  rcases answer with _ | t | fault <;> simp [joinsIn, ReadingEvent.ofStep?, ReadingEvent.join?]

theorem joinsIn_acceptance (t : Token) : joinsIn (acceptance t) = [] := by
  rw [acceptance]
  split <;> rfl

theorem joined_of_mem_joinsIn {b : BinaryConnective} {m : Nat} {done : List ReadingStep}
    (h : ⟨b, m⟩ ∈ joinsIn done) : .joined b m ∈ done := by
  obtain ⟨event, hevent, hjoin⟩ := List.mem_filterMap.mp h
  obtain ⟨step, hstep, hof⟩ := List.mem_filterMap.mp hevent
  have hjoined : step = .joined b m := by
    rcases step with (_ | t | fault) | t | ⟨c, k⟩ <;> cases hof <;> cases hjoin
    rfl
  exact hjoined ▸ List.mem_reverse.mp hstep

/-- The joins that are made when the tokens are read from a stage on. -/
def Stage.joinsAlong (registry : Registry) : Stage → List Token → List Join
  | _, [] => []
  | s, t :: rest =>
      joinsIn (s.joinsAt registry (some t)) ++
        match s.step registry t with
        | .ok next => next.joinsAlong registry rest
        | .error _ => []

theorem joinsAlong_cons_of_ok {s next : Stage} {t : Token} (h : s.step registry t = .ok next)
    (rest : List Token) :
    s.joinsAlong registry (t :: rest) =
      joinsIn (s.joinsAt registry (some t)) ++ next.joinsAlong registry rest := by
  rw [Stage.joinsAlong, h]

theorem joinsAlong_append {s next : Stage} {ts : List Token}
    (h : s.steps registry ts = .ok next) (us : List Token) :
    s.joinsAlong registry (ts ++ us) =
      s.joinsAlong registry ts ++ next.joinsAlong registry us := by
  induction ts generalizing s with
  | nil =>
      obtain rfl : s = next := Except.ok.inj h
      rfl
  | cons t rest ih =>
      rcases hstep : s.step registry t with fault | mid
      · rw [Stage.steps_cons_of_error hstep] at h
        contradiction
      · rw [Stage.steps_cons_of_ok hstep] at h
        rw [List.cons_append, joinsAlong_cons_of_ok hstep, joinsAlong_cons_of_ok hstep, ih h,
          List.append_assoc]

theorem joinsIn_run {s final : Stage} {last : Option Token} {done : List ReadingStep} {feed : Feed}
    (hsteps : s.steps registry feed.tokens = .ok final) (hfault : feed.fault? = none) :
    joinsIn (s.run registry last done feed).cursor.transcript =
      joinsIn done ++ s.joinsAlong registry feed.tokens ++
        joinsIn (final.joinsAt registry none) := by
  fun_induction Stage.run registry s last done feed with
  | case1 s last done =>
      obtain rfl : s = final := Except.ok.inj hsteps
      rw [cursor_conclude, joinsIn_append, joinsIn_pulled]
      exact congrArg (· ++ _) (List.append_nil _).symm
  | case2 s last done rest =>
      obtain rfl : s = final := Except.ok.inj hsteps
      rw [cursor_conclude, joinsIn_append, joinsIn_pulled]
      exact congrArg (· ++ _) (List.append_nil _).symm
  | case3 s last done fault rest => contradiction
  | case4 s last done t rest noted next hstep ih =>
      rw [Feed.tokens, Stage.steps_cons_of_ok hstep] at hsteps
      rw [ih hsteps hfault, Feed.tokens, joinsAlong_cons_of_ok hstep, joinsIn_append,
        joinsIn_acceptance, joinsIn_append, joinsIn_pulled]
      simp only [List.append_assoc, List.append_nil]
  | case5 s last done t rest noted fault hstep =>
      rw [Feed.tokens, Stage.steps_cons_of_error hstep] at hsteps
      contradiction

theorem joins_of_exceeds {next : Option BinaryConnective} {frames : List Frame}
    (h : Exceeds next (minimum frames)) : joins next frames = [] := by
  rcases frames with _ | ⟨⟨left, b⟩ | pending, frames⟩
  · rfl
  · exact if_pos h
  · rfl

theorem joinsIn_joins_right {next : Option BinaryConnective} {left : Formula}
    {b : BinaryConnective} {frames : List Frame} (h : ¬ Exceeds next b.precedence) :
    joinsIn (joins next (.right left b :: frames)) =
      ⟨b, minimum frames⟩ :: joinsIn (joins next frames) := by
  rw [joins, if_neg h, joinsIn_append]
  rfl

/-- What a derivation promises of the joins made where its tokens are read, given those of its
formula for each minimum. A formula above a minimum may still have joins to make when its tokens
have been read, and what follows settles them. -/
def Makes (registry : Registry) : Level → List Token → (Nat → List Join) → Prop
  | .term, w, made =>
      ∀ pending frames m, (Stage.beforeTerm pending frames).joinsAlong registry w = made m
  | .above n, w, made =>
      ∀ frames, minimum frames ≤ n → ∀ g outer,
        (Stage.beforeTerm [] frames).steps registry w = .ok (.afterTerm g outer) →
          ∀ next, ¬ Exceeds next (n + 1) →
            (Stage.beforeTerm [] frames).joinsAlong registry w ++ joinsIn (joins next outer) =
              made (minimum frames) ++ joinsIn (joins next frames)

namespace Makes

variable {w w₁ w₂ : List Token} {f f₁ f₂ : Formula} {made made₁ made₂ : Nat → List Join}

theorem name {t : Token} (hkind : t.kind = .name) : Makes registry .term [t] fun _ => [] := by
  intro pending frames m
  exact joinsAlong_cons_of_ok (Stage.step_of_moves (.name hkind)) []

theorem group {opening closing : Token} (hopening : opening.kind = .opening)
    (inner : Derives registry (.above 0) w f) (h : Makes registry (.above 0) w made)
    (hclosing : closing.kind = .closing) :
    Makes registry .term ([opening] ++ w ++ [closing]) fun _ => made 0 := by
  intro pending frames m
  obtain ⟨g, outer, hsteps, hsettle⟩ :=
    reads_of_derives inner (.group pending :: frames) (Nat.zero_le _)
  have hmade := h _ (Nat.zero_le _) g outer hsteps none (not_exceeds_none _)
  have hclose : (Stage.afterTerm g outer).step registry closing =
      .ok (.afterTerm (applyUnaries pending f) frames) :=
    Stage.step_of_moves (.closing hclosing (hsettle none (not_exceeds_none _)))
  have hahead : (Stage.afterTerm g outer).joinsAt registry (some closing) = joins none outer := by
    rw [Stage.joinsAt, Registry.binary?_of_closing hclosing]
  rw [List.append_assoc, List.singleton_append,
    joinsAlong_cons_of_ok (Stage.step_of_moves (.opening hopening)), joinsAlong_append hsteps,
    joinsAlong_cons_of_ok hclose, hahead, Stage.joinsAlong, List.append_nil, hmade]
  exact List.append_nil _

theorem unary {t : Token} {u : UnaryConnective} (hu : registry.Denotes t (.unary u))
    (h : Makes registry .term w made) : Makes registry .term ([t] ++ w) made := by
  intro pending frames m
  have hstep : (Stage.beforeTerm pending frames).step registry t =
      .ok (.beforeTerm (u :: pending) frames) :=
    Stage.step_of_moves (.unary (Registry.unary?_eq_some_iff.mpr hu))
  rw [List.singleton_append, joinsAlong_cons_of_ok hstep, h (u :: pending) frames m]
  rfl

theorem ofTerm (single : Derives registry .term w f) (h : Makes registry .term w made) (n : Nat) :
    Makes registry (.above n) w made := by
  intro frames hframes g outer hsteps next hnext
  obtain ⟨rfl, rfl⟩ : f = g ∧ frames = outer := by
    have hread := reads_of_derives single [] frames
    rw [hsteps] at hread
    simpa using hread.symm
  rw [h [] frames (minimum frames)]

theorem binary {m : Nat} {t : Token} {b : BinaryConnective} (hb : registry.Denotes t (.binary b))
    (hm : m < b.precedence) (left : Derives registry (.above (b.precedence - 1)) w₁ f₁)
    (hleft : Makes registry (.above (b.precedence - 1)) w₁ made₁)
    (right : Derives registry (.above b.precedence) w₂ f₂)
    (hright : Makes registry (.above b.precedence) w₂ made₂) :
    Makes registry (.above m) (w₁ ++ [t] ++ w₂) fun k =>
      made₁ k ++ made₂ b.precedence ++ [⟨b, k⟩] := by
  intro frames hframes g outer hsteps next hnext
  have hbinary := Registry.binary?_eq_some_iff.mpr hb
  obtain ⟨g₁, outer₁, hsteps₁, hsettle₁⟩ := reads_of_derives left frames (by omega)
  obtain ⟨g₂, outer₂, hsteps₂, -⟩ := reads_of_derives right (.right f₁ b :: frames) (Nat.le_refl _)
  have hstep : (Stage.afterTerm g₁ outer₁).step registry t =
      .ok (.beforeTerm [] (.right f₁ b :: frames)) :=
    Stage.step_of_moves (.binary hbinary (settle_left_operand (by omega) hsettle₁))
  obtain ⟨rfl, rfl⟩ : g₂ = g ∧ outer₂ = outer := by
    rw [List.append_assoc, List.singleton_append, Stage.steps_append_of_ok hsteps₁,
      Stage.steps_cons_of_ok hstep, hsteps₂] at hsteps
    simpa using hsteps
  have hmade₁ := hleft frames (by omega) g₁ outer₁ hsteps₁ (some b)
    (by rw [exceeds_some_iff]; omega)
  have hnone : joins (some b) frames = [] :=
    joins_of_exceeds ((exceeds_some_iff b _).mpr (by omega : minimum frames < b.precedence))
  rw [hnone, joinsIn_nil, List.append_nil] at hmade₁
  have hjoin : ¬ Exceeds next b.precedence := fun h => hnext (h.mono hm)
  have hmade₂ := hright _ (Nat.le_refl _) g₂ outer₂ hsteps₂ next (fun h => hjoin (h.mono (by omega)))
  rw [minimum_right, joinsIn_joins_right hjoin] at hmade₂
  have hahead : (Stage.afterTerm g₁ outer₁).joinsAt registry (some t) = joins (some b) outer₁ := by
    rw [Stage.joinsAt, hbinary]
  calc
    _ = (Stage.beforeTerm [] frames).joinsAlong registry w₁ ++ joinsIn (joins (some b) outer₁) ++
          ((Stage.beforeTerm [] (.right f₁ b :: frames)).joinsAlong registry w₂ ++
            joinsIn (joins next outer₂)) := by
      rw [List.append_assoc w₁, List.singleton_append, joinsAlong_append hsteps₁,
        joinsAlong_cons_of_ok hstep, hahead]
      simp only [List.append_assoc]
    _ = made₁ (minimum frames) ++
          (made₂ b.precedence ++ ⟨b, minimum frames⟩ :: joinsIn (joins next frames)) := by
      rw [hmade₁, hmade₂]
    _ = _ := by simp

end Makes

theorem exists_makes_of_derives {level : Level} {w : List Token} {f : Formula}
    (h : Derives registry level w f) :
    ∃ pairs : Pairs, w.map Token.sign = f.written pairs ∧
      Makes registry level w (f.joins pairs) := by
  induction h with
  | name hkind => exact ⟨fun _ => 0, map_sign_name hkind, .name hkind⟩
  | @group opening closing w f hopening inner hclosing ih =>
      obtain ⟨pairs, hw, hmakes⟩ := ih
      refine ⟨_, map_sign_group hopening hclosing hw, ?_⟩
      rw [funext (Formula.joins_group f pairs)]
      exact .group hopening inner hmakes hclosing
  | unary hu operand ih =>
      obtain ⟨pairs, hw, hmakes⟩ := ih
      exact ⟨_, map_sign_unary hu hw, hmakes.unary hu⟩
  | term single ih =>
      obtain ⟨pairs, hw, hmakes⟩ := ih
      exact ⟨pairs, hw, .ofTerm single hmakes _⟩
  | binary hb hm left right ihLeft ihRight =>
      obtain ⟨pairs, hw, hmakes⟩ := ihLeft
      obtain ⟨pairs', hw', hmakes'⟩ := ihRight
      exact ⟨_, map_sign_binary hb hw hw', .binary hb hm left hmakes right hmakes'⟩

theorem joinsIn_of_derives {ts : List Token} {f : Formula} {pairs : Pairs}
    (h : Derives registry (.above 0) ts f) (hpairs : ts.map Token.sign = f.written pairs) :
    joinsIn (ofTokens registry ts).cursor.transcript = f.joins pairs 0 := by
  obtain ⟨pairs', hpairs', hmakes⟩ := exists_makes_of_derives h
  obtain ⟨g, outer, hsteps, hsettle⟩ := reads_of_derives h [] (Nat.le_refl _)
  have hmade := hmakes [] (Nat.le_refl _) g outer hsteps none (not_exceeds_none _)
  have hstart : Stage.start.steps registry (Feed.tokens (ts.map fun t => some (.token t))) =
      .ok (.afterTerm g outer) := by
    rw [Feed.tokens_map]
    exact hsteps
  rw [ofTokens, ofFeed_eq_run, joinsIn_run hstart (Feed.fault?_map ts), Feed.tokens_map,
    Formula.joins_eq_of_written_eq (hpairs.symm.trans hpairs')]
  exact hmade.trans (List.append_nil _)

theorem lt_precedence_of_mem_joins {next : Option BinaryConnective} {frames : List Frame}
    {w : List Token} {b : BinaryConnective} {m : Nat} (h : Encloses registry frames w)
    (hjoin : .joined b m ∈ joins next frames) : m < b.precedence := by
  induction h with
  | nil => contradiction
  | group outer hpending hkind => contradiction
  | right outer hm operand hb ih =>
      rw [joins] at hjoin
      split at hjoin
      · contradiction
      · rcases List.mem_append.mp hjoin with hrest | hlast
        · exact ih hrest
        · obtain ⟨rfl, rfl⟩ := ReadingStep.joined.inj (List.mem_singleton.mp hlast)
          exact hm

theorem lt_precedence_of_mem_noted {s : Stage} {b : BinaryConnective} {m : Nat}
    {ahead : Option Token} {answer : Option Item} {done : List ReadingStep}
    (hs : ∃ w, s.HasRead registry w) (hdone : .joined b m ∈ done → m < b.precedence)
    (hjoin : .joined b m ∈ s.joinsAt registry ahead ++ .pulled answer :: done) :
    m < b.precedence := by
  rcases List.mem_append.mp hjoin with hnow | hbefore
  · rcases s with ⟨pending, frames⟩ | ⟨f, frames⟩
    · contradiction
    · obtain ⟨w, w₀, w₁, -, hframes, -⟩ := hs
      exact lt_precedence_of_mem_joins hframes hnow
  · exact hdone (by simpa using hbefore)

theorem lt_precedence_of_mem_run {s : Stage} {last : Option Token} {done : List ReadingStep}
    {feed : Feed} {b : BinaryConnective} {m : Nat} (hs : ∃ w, s.HasRead registry w)
    (hdone : .joined b m ∈ done → m < b.precedence)
    (hjoin : .joined b m ∈ (s.run registry last done feed).cursor.transcript) :
    m < b.precedence := by
  fun_induction Stage.run registry s last done feed with
  | case1 s last done =>
      rw [cursor_conclude] at hjoin
      exact lt_precedence_of_mem_noted hs hdone hjoin
  | case2 s last done rest =>
      rw [cursor_conclude] at hjoin
      exact lt_precedence_of_mem_noted hs hdone hjoin
  | case3 s last done fault rest => exact hdone (by simpa [Outcome.cursor] using hjoin)
  | case4 s last done t rest noted next hstep ih =>
      obtain ⟨w, hread⟩ := hs
      refine ih ⟨_, hasRead_of_step hread hstep⟩ (fun hmem => ?_) hjoin
      rcases List.mem_append.mp hmem with haccepted | hnoted
      · rw [acceptance] at haccepted
        split at haccepted <;> simp at haccepted
      · exact lt_precedence_of_mem_noted ⟨w, hread⟩ hdone hnoted
  | case5 s last done t rest noted fault hstep =>
      exact lt_precedence_of_mem_noted hs hdone hjoin

/-- The joins that are observed when a source is read as a formula are those of its binary nodes in
their order, each with the minimum that the parentheses in the source leave to its node. In every
reading the connective of a join exceeds its minimum. -/
theorem joins_of_ofSource_in_postorder (registry : Registry) (source : String) :
    (∀ f, (ofSource registry source).result = .ok f →
      ∃ ts : List Token, scan source = ts.map .token ∧
        (∃ pairs : Pairs, ts.map Token.sign = f.written pairs) ∧
        ∀ pairs : Pairs, ts.map Token.sign = f.written pairs →
          List.Forall₂ (f.IsJoined 0 pairs) f.binaryNodes
            ((ofSource registry source).cursor.events.filterMap ReadingEvent.join?)) ∧
    ∀ join ∈ (ofSource registry source).cursor.events.filterMap ReadingEvent.join?,
      join.minimum < join.connective.precedence := by
  constructor
  · intro f hresult
    obtain ⟨ts, hscan, hread⟩ := exists_tokens_of_ofSource hresult
    have hderives := steps_iff_derives.mp (readTokens_eq_ok_iff.mp hread)
    have hsource : ofSource registry source = ofTokens registry ts := by
      rw [ofSource_eq_ofFeed, sourceFeed_of_tokens hscan, ofTokens]
    obtain ⟨pairs, hpairs, -⟩ := exists_makes_of_derives hderives
    refine ⟨ts, hscan, ⟨pairs, hpairs⟩, ?_⟩
    intro pairs hpairs
    have hjoins : (ofSource registry source).cursor.events.filterMap ReadingEvent.join? =
        f.joins pairs 0 := by
      rw [hsource]
      exact joinsIn_of_derives hderives hpairs
    rw [hjoins]
    exact f.isJoined_joins pairs 0
  · rintro ⟨c, m⟩ hjoin
    have hstep := joined_of_mem_joinsIn hjoin
    rw [ofSource_eq_ofFeed, ofFeed_eq_run] at hstep
    exact lt_precedence_of_mem_run ⟨[], hasRead_start⟩ List.not_mem_nil.elim hstep

theorem joins_of_group_in_right_operand :
    ∃ f : Formula, (ofSource Registry.standard "p > ~(q | r) & s").result = .ok f ∧
      List.Forall₂
        (f.IsJoined 0 fun path => if path = [.right, .left, .operand] then 1 else 0)
        [⟨[.right, .left, .operand], .disjunction⟩, ⟨[.right], .conjunction⟩, ⟨[], .implication⟩]
        [⟨.disjunction, 0⟩, ⟨.conjunction, 2⟩, ⟨.implication, 0⟩] := by
  have hread : (ofSource Registry.standard "p > ~(q | r) & s").result =
      .ok (.binary (.atom "p") .implication
        (.binary (.unary .negation (.binary (.atom "q") .disjunction (.atom "r"))) .conjunction
          (.atom "s"))) := by
    decide +kernel
  obtain ⟨ts, hscan, -, hjoined⟩ :=
    (joins_of_ofSource_in_postorder Registry.standard "p > ~(q | r) & s").1 _ hread
  have hsigns : ts.map Token.sign =
      ((scan "p > ~(q | r) & s").filterMap Item.token?).map Token.sign := by
    rw [hscan, Scanner.filterMap_map_token]
  have hevents : (ofSource Registry.standard "p > ~(q | r) & s").cursor.events.filterMap
      ReadingEvent.join? = [⟨.disjunction, 0⟩, ⟨.conjunction, 2⟩, ⟨.implication, 0⟩] := by
    decide +kernel
  have hnodes := hjoined (fun path => if path = [.right, .left, .operand] then 1 else 0)
    (hsigns.trans (by decide +kernel))
  rw [hevents] at hnodes
  exact ⟨_, hread, hnodes⟩

end Reading

end Propositional
