import Propositional.Proofs.Reading.Run

namespace Propositional

namespace Feed

/-- The answer at a place of the feed; past the end there is no more. -/
def answer (feed : Feed) (i : Nat) : Option Item :=
  feed[i]?.join

@[simp] theorem answer_nil (i : Nat) : answer [] i = none := by
  simp [answer]

@[simp] theorem answer_cons_zero (a : Option Item) (rest : Feed) : answer (a :: rest) 0 = a := rfl

@[simp] theorem answer_cons_succ (a : Option Item) (rest : Feed) (i : Nat) :
    answer (a :: rest) (i + 1) = rest.answer i := rfl

def isToken : Option Item → Bool
  | some (.token _) => true
  | _ => false

def firstOther (feed : Feed) : Nat :=
  feed.findIdx fun a => !isToken a

@[simp] theorem firstOther_nil : firstOther [] = 0 := rfl

@[simp] theorem firstOther_token (t : Token) (rest : Feed) :
    firstOther (some (.token t) :: rest) = rest.firstOther + 1 := by
  simp [firstOther, List.findIdx_cons, isToken]

@[simp] theorem firstOther_invalid (fault : InvalidCharacter) (rest : Feed) :
    firstOther (some (.invalid fault) :: rest) = 0 := by
  simp [firstOther, List.findIdx_cons, isToken]

@[simp] theorem firstOther_none (rest : Feed) : firstOther (none :: rest) = 0 := by
  simp [firstOther, List.findIdx_cons, isToken]

theorem answer_of_tokens {feed : Feed} {k : Nat} {t : Token} (h : feed.tokens[k]? = some t) :
    feed.answer k = some (.token t) := by
  fun_induction tokens feed generalizing k with
  | case1 u rest ih =>
      rcases k with _ | k
      · rw [List.getElem?_cons_zero, Option.some.injEq] at h
        rw [answer_cons_zero, h]
      · exact ih h
  | case2 feed hnot => simp at h

def AgreeOn (p : Nat) (feed other : Feed) : Prop :=
  ∀ i < p, other.answer i = feed.answer i

end Feed

namespace Reading

variable {registry : Registry}

/-- The answers noted in a list of steps that has the latest first. -/
def answersIn (done : List ReadingStep) : Feed :=
  done.reverse.filterMap fun
    | .pulled answer => some answer
    | _ => none

@[simp] theorem answersIn_pulled (a : Option Item) (done : List ReadingStep) :
    answersIn (.pulled a :: done) = answersIn done ++ [a] := by
  simp [answersIn]

theorem answersIn_append (latest done : List ReadingStep) :
    answersIn (latest ++ done) = answersIn done ++ answersIn latest := by
  simp [answersIn]

theorem exists_joined_of_mem {next : Option BinaryConnective} {frames : List Frame}
    {step : ReadingStep} (h : step ∈ joins next frames) : ∃ b m, step = .joined b m := by
  induction frames with
  | nil => contradiction
  | cons frame frames ih =>
      rcases frame with ⟨left, b⟩ | pending
      · rw [joins] at h
        split at h
        · contradiction
        · rcases List.mem_append.mp h with hrest | hlast
          · exact ih hrest
          · exact ⟨b, minimum frames, List.mem_singleton.mp hlast⟩
      · contradiction

theorem exists_joined_of_mem_joinsAt {s : Stage} {ahead : Option Token} {step : ReadingStep}
    (h : step ∈ s.joinsAt registry ahead) : ∃ b m, step = .joined b m := by
  rcases s with ⟨pending, frames⟩ | ⟨f, frames⟩
  · contradiction
  · exact exists_joined_of_mem h

@[simp] theorem answersIn_joinsAt_append (s : Stage) (ahead : Option Token)
    (done : List ReadingStep) :
    answersIn (s.joinsAt registry ahead ++ done) = answersIn done := by
  have hnone : answersIn (s.joinsAt registry ahead) = [] := by
    apply List.filterMap_eq_nil_iff.mpr
    intro step hstep
    obtain ⟨b, m, rfl⟩ := exists_joined_of_mem_joinsAt (List.mem_reverse.mp hstep)
    rfl
  rw [answersIn_append, hnone, List.append_nil]

@[simp] theorem answersIn_acceptance_append (t : Token) (done : List ReadingStep) :
    answersIn (acceptance t ++ done) = answersIn done := by
  rw [answersIn_append, acceptance]
  split <;> simp [answersIn]

def Stage.asked (registry : Registry) : Stage → Feed → Nat
  | s, some (.token t) :: rest =>
      match s.step registry t with
      | .ok next => next.asked registry rest + 1
      | .error _ => 1
  | _, _ => 1

theorem asked_of_ok {s next : Stage} {t : Token} (h : s.step registry t = .ok next)
    (rest : Feed) : s.asked registry (some (.token t) :: rest) = next.asked registry rest + 1 := by
  rw [Stage.asked, h]

theorem asked_of_error {s : Stage} {t : Token} {fault : SyntaxError}
    (h : s.step registry t = .error fault) (rest : Feed) :
    s.asked registry (some (.token t) :: rest) = 1 := by
  rw [Stage.asked, h]

theorem asked_pos (s : Stage) (feed : Feed) : 0 < s.asked registry feed := by
  fun_cases Stage.asked registry s feed <;> omega

theorem pulls_run (s : Stage) (last : Option Token) (done : List ReadingStep) (feed : Feed) :
    (s.run registry last done feed).cursor.pulls =
      answersIn done ++ (List.range (s.asked registry feed)).map feed.answer := by
  change answersIn (s.run registry last done feed).cursor.transcript = _
  fun_induction Stage.run registry s last done feed with
  | case1 s last done => simp [Stage.asked]
  | case2 s last done rest => simp [Stage.asked]
  | case3 s last done fault rest => simp [Stage.asked, Outcome.cursor]
  | case4 s last done t rest noted next hstep ih =>
      rw [asked_of_ok hstep, List.range_succ_eq_map, ih]
      simp [noted, Function.comp_def]
  | case5 s last done t rest noted fault hstep =>
      simp [noted, asked_of_error hstep, Outcome.cursor]

theorem unread_run (s : Stage) (last : Option Token) (done : List ReadingStep) (feed : Feed) :
    (s.run registry last done feed).cursor.unread = feed.drop (s.asked registry feed) := by
  fun_induction Stage.run registry s last done feed with
  | case1 s last done => simp
  | case2 s last done rest => simp [Stage.asked]
  | case3 s last done fault rest => rfl
  | case4 s last done t rest noted next hstep ih =>
      rw [asked_of_ok hstep, List.drop_succ_cons]
      exact ih
  | case5 s last done t rest noted fault hstep =>
      rw [asked_of_error hstep]
      rfl

theorem isToken_of_lt_asked {s : Stage} {feed : Feed} {i : Nat}
    (h : i + 1 < s.asked registry feed) : Feed.isToken (feed.answer i) = true := by
  fun_induction Stage.asked registry s feed generalizing i with
  | case1 s t rest next hstep ih =>
      rcases i with _ | i
      · rfl
      · exact ih (by omega)
  | case2 s t rest fault hstep => omega
  | case3 s feed hnot => omega

/-- The answer after some of the leading tokens is asked for if these tokens have steps. -/
theorem lt_asked_iff {s : Stage} {feed : Feed} {k : Nat} (hk : k ≤ feed.tokens.length) :
    k < s.asked registry feed ↔
      ∃ next, s.steps registry (feed.tokens.take k) = .ok next := by
  induction k generalizing s feed with
  | zero => simp [asked_pos]
  | succ k ih =>
      match feed, hk with
      | some (.token t) :: rest, hk =>
          rw [Feed.tokens, List.take_succ_cons]
          rcases hstep : s.step registry t with fault | next
          · rw [asked_of_error hstep, Stage.steps_cons_of_error hstep]
            simp
          · rw [asked_of_ok hstep, Stage.steps_cons_of_ok hstep, Nat.add_lt_add_iff_right]
            exact ih (Nat.le_of_succ_le_succ hk)

/-- What a result says of the feed and of the number of answers that were asked for. -/
def Accounts (feed : Feed) (p : Nat) : Except ReadingError Formula → Prop
  | .ok _ | .error (.misplaced ⟨none, _⟩) =>
      feed.answer feed.firstOther = none ∧ p = feed.firstOther + 1
  | .error (.invalid fault) =>
      feed.answer feed.firstOther = some (.invalid fault) ∧ p = feed.firstOther + 1
  | .error (.misplaced ⟨some t, _⟩) =>
      feed.answer (p - 1) = some (.token t) ∧ 0 < p ∧ p ≤ feed.firstOther

theorem accounts_finish {feed : Feed} (s : Stage) (hfirst : feed.firstOther = 0)
    (hanswer : feed.answer 0 = none) : Accounts feed 1 (s.answer none) := by
  rcases hfinish : s.finish with ⟨found, expected⟩ | f
  · obtain rfl : found = none := Stage.found_of_finish hfinish
    rw [answer_none_of_error hfinish]
    simp [Accounts, hfirst, hanswer]
  · rw [answer_none_of_ok hfinish]
    simp [Accounts, hfirst, hanswer]

theorem Accounts.cons {feed : Feed} {p : Nat} {result : Except ReadingError Formula}
    (h : Accounts feed p result) (t : Token) :
    Accounts (some (.token t) :: feed) (p + 1) result := by
  match result, h with
  | .ok _, ⟨hanswer, hp⟩ => simp [Accounts, hanswer, hp]
  | .error (.misplaced ⟨none, _⟩), ⟨hanswer, hp⟩ => simp [Accounts, hanswer, hp]
  | .error (.invalid fault), ⟨hanswer, hp⟩ => simp [Accounts, hanswer, hp]
  | .error (.misplaced ⟨some u, _⟩), ⟨hanswer, hpos, hle⟩ =>
      obtain ⟨k, rfl⟩ := Nat.exists_eq_add_one_of_ne_zero (Nat.ne_of_gt hpos)
      refine ⟨?_, Nat.succ_pos _, ?_⟩
      · simpa using hanswer
      · simpa using hle

theorem Accounts.stops {feed : Feed} {p : Nat} {result : Except ReadingError Formula}
    (h : Accounts feed p result) :
    (∃ t expected, result = .error (.misplaced ⟨some t, expected⟩)) ∨
      Feed.isToken (feed.answer feed.firstOther) = false ∧ p = feed.firstOther + 1 := by
  match result, h with
  | .ok _, ⟨hanswer, hp⟩ => exact .inr ⟨by rw [hanswer]; rfl, hp⟩
  | .error (.misplaced ⟨none, _⟩), ⟨hanswer, hp⟩ => exact .inr ⟨by rw [hanswer]; rfl, hp⟩
  | .error (.invalid fault), ⟨hanswer, hp⟩ => exact .inr ⟨by rw [hanswer]; rfl, hp⟩
  | .error (.misplaced ⟨some t, expected⟩), _ => exact .inl ⟨t, expected, rfl⟩

theorem accounts_run (s : Stage) (last : Option Token) (done : List ReadingStep) (feed : Feed) :
    Accounts feed (s.asked registry feed) (s.run registry last done feed).result := by
  fun_induction Stage.run registry s last done feed with
  | case1 s last done =>
      rw [result_conclude]
      exact accounts_finish s rfl rfl
  | case2 s last done rest =>
      rw [result_conclude]
      exact accounts_finish s (Feed.firstOther_none rest) rfl
  | case3 s last done fault rest => simp [Stage.asked, Outcome.result, Accounts]
  | case4 s last done t rest noted next hstep ih =>
      rw [asked_of_ok hstep]
      exact ih.cons t
  | case5 s last done t rest noted fault hstep =>
      rcases fault with ⟨found, expected⟩
      obtain rfl : found = some t := Stage.found_of_step hstep
      simp [asked_of_error hstep, Outcome.result, Accounts]

theorem asked_of_no_more {s : Stage} {feed : Feed} (h : feed.answer 0 = none) :
    s.asked registry feed = 1 := by
  match feed with
  | [] => rfl
  | none :: rest => rfl
  | some item :: rest => contradiction

theorem result_of_no_more {s : Stage} {last : Option Token} {done : List ReadingStep} {feed : Feed}
    (h : feed.answer 0 = none) : (s.run registry last done feed).result = s.answer none := by
  match feed with
  | [] => exact result_conclude _ _
  | none :: rest => exact result_conclude _ _
  | some item :: rest => contradiction

theorem eq_cons_of_answer {feed : Feed} {item : Item} (h : feed.answer 0 = some item) :
    ∃ rest, feed = some item :: rest := by
  match feed with
  | [] => contradiction
  | a :: rest =>
      obtain rfl : a = some item := h
      exact ⟨rest, rfl⟩

theorem run_congr {s : Stage} {feed other : Feed}
    (h : Feed.AgreeOn (s.asked registry feed) feed other) :
    s.asked registry other = s.asked registry feed ∧
      ∀ last last' done done', (s.run registry last' done' other).result =
        (s.run registry last done feed).result := by
  have hfirst : other.answer 0 = feed.answer 0 := h 0 (asked_pos s feed)
  induction feed generalizing s other with
  | nil =>
      refine ⟨asked_of_no_more hfirst, ?_⟩
      intro last last' done done'
      rw [result_of_no_more hfirst, result_of_no_more rfl]
  | cons a rest ih =>
      rcases a with _ | t | fault
      · refine ⟨asked_of_no_more hfirst, ?_⟩
        intro last last' done done'
        rw [result_of_no_more hfirst, result_of_no_more rfl]
      · obtain ⟨rest', rfl⟩ := eq_cons_of_answer hfirst
        simp only [Stage.run]
        rcases hstep : s.step registry t with fault | next
        · rw [asked_of_error hstep, asked_of_error hstep]
          exact ⟨rfl, fun _ _ _ _ => rfl⟩
        · rw [asked_of_ok hstep] at h ⊢
          rw [asked_of_ok hstep]
          have hrest : Feed.AgreeOn (next.asked registry rest) rest rest' := by
            intro i hi
            exact h (i + 1) (by omega)
          obtain ⟨hasked, hresult⟩ := ih hrest (hrest 0 (asked_pos next rest))
          refine ⟨congrArg (· + 1) hasked, ?_⟩
          intro last last' done done'
          exact hresult ..
      · obtain ⟨rest', rfl⟩ := eq_cons_of_answer hfirst
        exact ⟨rfl, fun _ _ _ _ => rfl⟩

def pullCount (registry : Registry) (feed : Feed) : Nat :=
  (ofFeed registry feed).cursor.pulls.length

theorem pullCount_eq (registry : Registry) (feed : Feed) :
    pullCount registry feed = Stage.start.asked registry feed := by
  rw [pullCount, ofFeed_eq_run, pulls_run]
  simp [answersIn]

theorem pulls_ofFeed (registry : Registry) (feed : Feed) :
    (ofFeed registry feed).cursor.pulls =
      (List.range (pullCount registry feed)).map feed.answer := by
  rw [pullCount_eq, ofFeed_eq_run, pulls_run]
  rfl

theorem unread_ofFeed (registry : Registry) (feed : Feed) :
    (ofFeed registry feed).cursor.unread = feed.drop (pullCount registry feed) := by
  rw [pullCount_eq, ofFeed_eq_run, unread_run]

theorem accounts_ofFeed (registry : Registry) (feed : Feed) :
    Accounts feed (pullCount registry feed) (ofFeed registry feed).result := by
  rw [pullCount_eq, ofFeed_eq_run]
  exact accounts_run ..

theorem lt_pullCount_iff {feed : Feed} {k : Nat} (hk : k ≤ feed.tokens.length) :
    k < pullCount registry feed ↔
      ∃ s, Stage.start.steps registry (feed.tokens.take k) = .ok s := by
  rw [pullCount_eq]
  exact lt_asked_iff hk

theorem ofFeed_congr {feed other : Feed} (h : Feed.AgreeOn (pullCount registry feed) feed other) :
    (ofFeed registry other).result = (ofFeed registry feed).result ∧
      pullCount registry other = pullCount registry feed := by
  rw [pullCount_eq] at h
  obtain ⟨hasked, hresult⟩ := run_congr h
  rw [pullCount_eq, pullCount_eq, ofFeed_eq_run, ofFeed_eq_run]
  exact ⟨hresult _ _ _ _, hasked⟩

end Reading

end Propositional
