import Propositional.Proofs.Reading.Pulls
import Propositional.Proofs.Token.Replay

namespace Propositional.Reading

variable {registry : Registry}

def sourceFeed (source : String) : Feed :=
  (scan source).map some

theorem ofSource_eq_ofFeed (registry : Registry) (source : String) :
    ofSource registry source = ofFeed registry (sourceFeed source) := rfl

theorem answer_sourceFeed (source : String) (i : Nat) :
    (sourceFeed source).answer i = ((Scanner.start source).after i).next.1 := by
  rw [Scanner.next_after, Feed.answer, sourceFeed, List.getElem?_map]
  change Option.join (Option.map some (scan source)[i]?) = (scan source)[i]?
  cases (scan source)[i]? <;> rfl

theorem filterMap_map_getElem? {α : Type} (l : List α) (p : Nat) :
    ((List.range p).map fun i => l[i]?).filterMap id = l.take p := by
  induction p with
  | zero => rfl
  | succ p ih =>
      rw [List.range_succ, List.map_append, List.filterMap_append, ih, List.take_add_one]
      cases h : l[p]? <;> simp [h]

theorem pulls_ofSource (registry : Registry) (source : String) :
    (ofSource registry source).cursor.pulls =
      (List.range (pullCount registry (sourceFeed source))).map fun i =>
        ((Scanner.start source).after i).next.1 := by
  rw [← funext (answer_sourceFeed source)]
  exact pulls_ofFeed registry (sourceFeed source)

theorem rest_ofSource (registry : Registry) (source : String) :
    (ofSource registry source).cursor.rest =
      ((Scanner.start source).after (pullCount registry (sourceFeed source))).items := by
  have hunread : (ofSource registry source).cursor.unread = _ :=
    unread_ofFeed registry (sourceFeed source)
  rw [Scanner.items_after, Cursor.rest, hunread, sourceFeed, ← List.map_drop, List.filterMap_map]
  exact List.filterMap_some

theorem pulls_append_rest (registry : Registry) (source : String) :
    (ofSource registry source).cursor.pulls.filterMap id ++
      (ofSource registry source).cursor.rest = scan source := by
  rw [pulls_ofSource, rest_ofSource, Scanner.items_after]
  simp only [Scanner.next_after]
  rw [filterMap_map_getElem?]
  exact List.take_append_drop _ _

theorem items_after_of_not_isToken {s : Scanner} {k : Nat}
    (h : Feed.isToken (s.after k).next.1 = false) : (s.after (k + 1)).items = [] := by
  rw [Scanner.items_after]
  rw [Scanner.next_after] at h
  match hitem : s.items[k]? with
  | none => exact List.drop_eq_nil_of_le (Nat.le_succ_of_le (List.getElem?_eq_none_iff.mp hitem))
  | some (.invalid fault) => exact Scanner.drop_items_of_invalid hitem
  | some (.token t) =>
      rw [hitem] at h
      contradiction

theorem rest_eq_nil_or_misplaced (registry : Registry) (source : String) :
    (ofSource registry source).cursor.rest = [] ∨
      ∃ t expected, (ofSource registry source).result = .error (.misplaced ⟨some t, expected⟩) := by
  have haccounts : Accounts (sourceFeed source) (pullCount registry (sourceFeed source))
      (ofSource registry source).result := accounts_ofFeed registry (sourceFeed source)
  rcases haccounts.stops with hmisplaced | ⟨hstop, hcount⟩
  · exact .inr hmisplaced
  · rw [answer_sourceFeed] at hstop
    rw [rest_ofSource, hcount]
    exact .inl (items_after_of_not_isToken hstop)

/-- A reader pulls the answers of its feed in order and stops at the first that is no token. Its
result says which answer ended the reading, and no later answer bears on it. From a scanner it pulls
the first items and leaves the others, if there are any, to be scanned. -/
theorem ofFeed_pulls_one_ahead (registry : Registry) :
    (∀ feed : Feed,
      (ofFeed registry feed).cursor.pulls =
          (List.range (pullCount registry feed)).map feed.answer ∧
        (ofFeed registry feed).cursor.unread = feed.drop (pullCount registry feed) ∧
        (∀ i, i + 1 < pullCount registry feed → Feed.isToken (feed.answer i) = true) ∧
        Accounts feed (pullCount registry feed) (ofFeed registry feed).result ∧
        ∀ other, Feed.AgreeOn (pullCount registry feed) feed other →
          (ofFeed registry other).result = (ofFeed registry feed).result ∧
            pullCount registry other = pullCount registry feed) ∧
      ∀ source : String,
        (ofSource registry source).cursor.pulls =
            ((List.range (pullCount registry (sourceFeed source))).map fun i =>
              ((Scanner.start source).after i).next.1) ∧
          (ofSource registry source).cursor.pulls.filterMap id ++
              ((Scanner.start source).after (pullCount registry (sourceFeed source))).items =
            scan source ∧
          (((Scanner.start source).after (pullCount registry (sourceFeed source))).items = [] ∨
            ∃ t expected,
              (ofSource registry source).result = .error (.misplaced ⟨some t, expected⟩)) := by
  refine ⟨fun feed => ⟨pulls_ofFeed registry feed, unread_ofFeed registry feed, ?_,
    accounts_ofFeed registry feed, ?_⟩, ?_⟩
  · intro i hi
    rw [pullCount_eq] at hi
    exact isToken_of_lt_asked hi
  · intro other hagree
    exact ofFeed_congr hagree
  · intro source
    rw [← rest_ofSource]
    exact ⟨pulls_ofSource registry source, pulls_append_rest registry source,
      rest_eq_nil_or_misplaced registry source⟩

end Propositional.Reading
