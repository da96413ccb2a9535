import Propositional.Proofs.Token.Replay
import Propositional.Token.Session

namespace Propositional

namespace Scanner

theorem source_nextBy (order : List TokenKind) (s : Scanner) :
    (s.nextBy order).2.source = s.source := by
  fun_induction nextBy order s with
  | case1 => rfl
  | case2 => rfl
  | case3 => rfl
  | case4 s hfailed c hhead lexeme hfound ih => exact ih
  | case5 => rfl

theorem source_collect (s : Scanner) : s.collect.2.source = s.source := by
  fun_induction collect s with
  | case1 s hnext => exact source_nextBy _ s
  | case2 s fault hnext => exact source_nextBy _ s
  | case3 s t hnext rest last hcollect ih =>
      rw [hcollect] at ih
      exact ih.trans (source_nextBy _ s)
  | case4 s t hnext fault last hcollect ih =>
      rw [hcollect] at ih
      exact ih.trans (source_nextBy _ s)

theorem items_collect (s : Scanner) : s.collect.2.items = [] := by
  fun_induction collect s with
  | case1 s hnext => rw [items_next, items_of_none hnext, List.tail_nil]
  | case2 s fault hnext => exact items_of_failed (failed_of_invalid hnext)
  | case3 s t hnext rest last hcollect ih => rwa [hcollect] at ih
  | case4 s t hnext fault last hcollect ih => rwa [hcollect] at ih

end Scanner

/-- A place in the items of a source, and a place that is kept. -/
structure ItemCursor where
  index : Nat
  kept : Nat
  deriving DecidableEq, Repr

namespace ItemCursor

open ScannerSession (Command Answer)

def start : ItemCursor :=
  ⟨0, 0⟩

/-- Collecting a list answers the invalid character that it ends with, or else all its tokens. -/
def collected (items : List Item) : Answer :=
  match items.getLast? with
  | some (.invalid fault) => .invalid fault
  | _ => .tokens (items.filterMap Item.token?)

def step (source : String) (c : ItemCursor) : Command → Answer × ItemCursor
  | .next =>
      match (scan source)[c.index]? with
      | some item => (.item (some item), { c with index := c.index + 1 })
      | none => (.item none, c)
  | .rest => (.items ((scan source).drop c.index), c)
  | .collect =>
      (collected ((scan source).drop c.index), { c with index := (scan source).length })
  | .restart => (.done, { c with index := 0 })
  | .source => (.source source, c)
  | .save => (.done, { c with kept := c.index })
  | .load => (.done, { c with index := c.kept })

def run (source : String) (c : ItemCursor) : List Command → List Answer
  | [] => []
  | command :: rest => (c.step source command).1 :: run source (c.step source command).2 rest

theorem collected_tokens (ts : List Token) : collected (ts.map .token) = .tokens ts := by
  rw [collected, Scanner.filterMap_map_token, List.getLast?_map]
  cases ts.getLast? <;> rfl

theorem collected_invalid (ts : List Token) (fault : InvalidCharacter) :
    collected (ts.map .token ++ [.invalid fault]) = .invalid fault := by
  rw [collected, List.getLast?_concat]

end ItemCursor

/-- The scanner has still to yield the items of the source from a place on. -/
structure Scanner.At (source : String) (i : Nat) (s : Scanner) : Prop where
  source_eq : s.source = source
  items_eq : s.items = (scan source).drop i

namespace Scanner.At

variable {source : String} {i : Nat} {s : Scanner}

theorem start (source : String) : (Scanner.start source).At source 0 :=
  ⟨rfl, rfl⟩

theorem restart (h : s.At source i) : s.restart.At source 0 := by
  rw [Scanner.restart, h.source_eq]
  exact start source

theorem next_eq (h : s.At source i) : s.next.1 = (scan source)[i]? := by
  rw [← head?_items, h.items_eq, List.head?_drop]

theorem next (h : s.At source i) : s.next.2.At source (i + 1) where
  source_eq := (source_nextBy _ s).trans h.source_eq
  items_eq := by rw [items_next, h.items_eq, List.tail_drop]

theorem of_le {j : Nat} (h : s.At source i) (hi : (scan source).length ≤ i)
    (hj : (scan source).length ≤ j) : s.At source j where
  source_eq := h.source_eq
  items_eq := by rw [h.items_eq, List.drop_of_length_le hi, List.drop_of_length_le hj]

theorem collect (h : s.At source i) : s.collect.2.At source (scan source).length where
  source_eq := (source_collect s).trans h.source_eq
  items_eq := by rw [items_collect, List.drop_length]

end Scanner.At

namespace ScannerSession

/-- The scanner of the session and its bookmark are at the two places of the cursor. -/
structure Follows (source : String) (c : ItemCursor) (session : ScannerSession) : Prop where
  current : session.current.At source c.index
  bookmark : session.bookmark.At source c.kept

variable {source : String} {c : ItemCursor} {session : ScannerSession}

theorem follows_start (source : String) : (start source).Follows source ItemCursor.start :=
  ⟨Scanner.At.start source, Scanner.At.start source⟩

theorem step_next (h : session.Follows source c) :
    (session.step .next).1 = (c.step source .next).1 ∧
      (session.step .next).2.Follows source (c.step source .next).2 := by
  have hanswer : (session.step .next).1 = .item session.current.next.1 := rfl
  rw [hanswer, h.current.next_eq, ItemCursor.step]
  split
  · next item hitem =>
      rw [hitem]
      exact ⟨rfl, h.current.next, h.bookmark⟩
  · next hnone =>
      have hle := List.getElem?_eq_none_iff.mp hnone
      rw [hnone]
      exact ⟨rfl, h.current.next.of_le (by omega) hle, h.bookmark⟩

theorem step_collect_snd (session : ScannerSession) :
    (session.step .collect).2 = { session with current := session.current.collect.2 } := by
  rw [step]
  split <;> simp_all

theorem step_collect (h : session.Follows source c) :
    (session.step .collect).1 = (c.step source .collect).1 ∧
      (session.step .collect).2.Follows source (c.step source .collect).2 := by
  have hlast := h.current.collect
  rw [ItemCursor.step, ← h.current.items_eq, step]
  split
  · next tokens last hcollect =>
      rw [hcollect] at hlast
      rw [Scanner.collect_eq_ok_iff.mp (congrArg Prod.fst hcollect), ItemCursor.collected_tokens]
      exact ⟨rfl, hlast, h.bookmark⟩
  · next fault last hcollect =>
      rw [hcollect] at hlast
      obtain ⟨ts, hts⟩ := Scanner.collect_eq_error_iff.mp (congrArg Prod.fst hcollect)
      rw [hts, ItemCursor.collected_invalid]
      exact ⟨rfl, hlast, h.bookmark⟩

theorem step_follows (h : session.Follows source c) (command : Command) :
    (session.step command).1 = (c.step source command).1 ∧
      (session.step command).2.Follows source (c.step source command).2 := by
  cases command with
  | next => exact step_next h
  | rest => exact ⟨congrArg Answer.items h.current.items_eq, h⟩
  | collect => exact step_collect h
  | restart => exact ⟨rfl, h.current.restart, h.bookmark⟩
  | source => exact ⟨congrArg Answer.source h.current.source_eq, h⟩
  | save => exact ⟨rfl, h.current, h.current⟩
  | load => exact ⟨rfl, h.bookmark, h.bookmark⟩

theorem run_follows (h : session.Follows source c) (commands : List Command) :
    session.run commands = c.run source commands := by
  induction commands generalizing session c with
  | nil => rfl
  | cons command rest ih =>
      obtain ⟨hanswer, hnext⟩ := step_follows h command
      rw [run, ItemCursor.run, hanswer, ih hnext]

def after (session : ScannerSession) (commands : List Command) : ScannerSession :=
  commands.foldl (fun session command => (session.step command).2) session

theorem after_cons (session : ScannerSession) (command : Command) (rest : List Command) :
    session.after (command :: rest) = (session.step command).2.after rest := rfl

theorem after_append (session : ScannerSession) (commands commands' : List Command) :
    session.after (commands ++ commands') = (session.after commands).after commands' :=
  List.foldl_append

theorem exists_follows_after (h : session.Follows source c) (commands : List Command) :
    ∃ c', (session.after commands).Follows source c' := by
  induction commands generalizing session c with
  | nil => exact ⟨c, h⟩
  | cons command rest ih => exact ih (step_follows h command).2

theorem next_eq_end_iff :
    (session.step .next).1 = .item none ↔ session.current.items = [] := by
  have hanswer : (session.step .next).1 = .item session.current.next.1 := rfl
  rw [hanswer, Answer.item.injEq, ← Scanner.head?_items, List.head?_eq_none_iff]

theorem items_after_of_ended {commands : List Command} (h : session.current.items = [])
    (hcommands : ∀ command ∈ commands, command ≠ .restart ∧ command ≠ .load) :
    (session.after commands).current.items = [] := by
  induction commands generalizing session with
  | nil => exact h
  | cons command rest ih =>
      rw [List.forall_mem_cons] at hcommands
      rw [after_cons]
      apply ih _ hcommands.2
      cases command with
      | next =>
          change session.current.next.2.items = []
          rw [Scanner.items_next, h, List.tail_nil]
      | rest => exact h
      | collect =>
          rw [step_collect_snd]
          exact Scanner.items_collect _
      | restart => exact (hcommands.1.1 rfl).elim
      | source => exact h
      | save => exact h
      | load => exact (hcommands.1.2 rfl).elim

theorem bookmark_after {commands : List Command} (h : Command.save ∉ commands) :
    (session.after commands).bookmark = session.bookmark := by
  induction commands generalizing session with
  | nil => rfl
  | cons command rest ih =>
      rw [List.mem_cons, not_or] at h
      rw [after_cons, ih h.2]
      cases command with
      | next => rfl
      | rest => rfl
      | collect => rw [step_collect_snd]
      | restart => rfl
      | source => rfl
      | save => exact (h.1 rfl).elim
      | load => rfl

theorem after_save_load {between : List Command} (h : Command.save ∉ between) :
    ((session.after [.save]).after between).after [.load] = session.after [.save] := by
  have hbookmark : ((session.after [.save]).after between).bookmark = session.current :=
    bookmark_after h
  change ScannerSession.mk ((session.after [.save]).after between).bookmark
    ((session.after [.save]).after between).bookmark = ⟨session.current, session.current⟩
  rw [hbookmark]

theorem run_eq_of_current_eq {session' : ScannerSession} {commands : List Command}
    (h : session.current = session'.current) (hload : Command.load ∉ commands) :
    session.run commands = session'.run commands := by
  induction commands generalizing session session' with
  | nil => rfl
  | cons command rest ih =>
      rw [List.mem_cons, not_or] at hload
      have hstep : (session.step command).1 = (session'.step command).1 ∧
          (session.step command).2.current = (session'.step command).2.current := by
        cases command with
        | load => exact (hload.1 rfl).elim
        | collect =>
            simp only [step, h]
            split <;> exact ⟨rfl, rfl⟩
        | _ => simp [step, h]
      rw [run, run, hstep.1, ih hstep.2 hload.2]

/-- The answers of a session are those of a cursor over the items of its source. Once the end is
answered it is answered until a restart or a load; after a restart the session answers as it did at
the start, and after a load as it did when the bookmark was set. -/
theorem run_eq_run_cursor (source : String) :
    (∀ commands, (start source).run commands = ItemCursor.start.run source commands) ∧
      (∀ before commands, (((start source).after before).step .next).1 = .item none →
        (∀ command ∈ commands, command ≠ .restart ∧ command ≠ .load) →
          (((start source).after (before ++ commands)).step .next).1 = .item none) ∧
      (∀ before commands, .load ∉ commands →
        ((start source).after (before ++ [.restart])).run commands =
          (start source).run commands) ∧
      ∀ before between commands, .save ∉ between →
        ((start source).after (before ++ [.save] ++ between ++ [.load])).run commands =
          ((start source).after (before ++ [.save])).run commands := by
  refine ⟨run_follows (follows_start source), ?_, ?_, ?_⟩
  · intro before commands hend hcommands
    rw [next_eq_end_iff] at hend ⊢
    rw [after_append]
    exact items_after_of_ended hend hcommands
  · intro before commands hload
    obtain ⟨c, hc⟩ := exists_follows_after (follows_start source) before
    apply run_eq_of_current_eq _ hload
    rw [after_append]
    change Scanner.start ((start source).after before).current.source = Scanner.start source
    rw [hc.current.source_eq]
  · intro before between commands hsave
    simp only [after_append]
    rw [after_save_load hsave]

theorem run_past_invalid_character :
    (start "p $").run [.next, .save, .collect, .next, .load, .rest] =
        [.item (some (.token ⟨.name, "p", 0⟩)), .done, .invalid ⟨'$', 2⟩, .item none, .done,
          .items [.invalid ⟨'$', 2⟩]] ∧
      (((start "p $").after ([.collect] ++ [.next, .rest])).step .next).1 = .item none ∧
      ((start "p $").after ([.collect] ++ [.restart])).run [.next, .next] =
        (start "p $").run [.next, .next] ∧
      ((start "p $").after ([.next] ++ [.save] ++ [.collect] ++ [.load])).run [.next] =
        ((start "p $").after ([.next] ++ [.save])).run [.next] := by
  obtain ⟨hcursor, hend, hrestart, hload⟩ := run_eq_run_cursor "p $"
  refine ⟨?_, ?_, ?_, ?_⟩
  · rw [hcursor]
    decide +kernel
  · exact hend [.collect] [.next, .rest] (by decide +kernel) (by decide)
  · exact hrestart [.collect] [.next, .next] (by decide)
  · exact hload [.next] [.collect] [.next] (by decide)

end ScannerSession

end Propositional
