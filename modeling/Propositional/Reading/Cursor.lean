import Propositional.Connective
import Propositional.Reading.Error

namespace Propositional

/-- The answers a source of items gives when asked for its next element. `none` says that there is
no more, and so does the end of the list. -/
abbrev Feed := List (Option Item)

/-- One act of a reader. -/
inductive ReadingStep where
  | pulled (answer : Option Item)
  | accepted (token : Token)
  | joined (connective : BinaryConnective) (minimum : Nat)
  deriving DecidableEq, Repr

/-- The state of a reader. The transcript has the latest step first. -/
structure Cursor where
  lookahead : Option Token
  unread : Feed
  transcript : List ReadingStep
  deriving DecidableEq, Repr

/-- A reader ends with a value or with an error, and always with the cursor it has reached. -/
inductive Outcome (α : Type) where
  | ok (value : α) (next : Cursor)
  | error (fault : ReadingError) (last : Cursor)
  deriving DecidableEq, Repr

namespace Outcome

@[inline]
def bind {α β : Type} (o : Outcome α) (k : α → Cursor → Outcome β) : Outcome β :=
  match o with
  | ok value next => k value next
  | error fault last => error fault last

def cursor {α : Type} : Outcome α → Cursor
  | ok _ next => next
  | error _ last => last

def result {α : Type} : Outcome α → Except ReadingError α
  | ok value _ => .ok value
  | error fault _ => .error fault

@[simp] theorem bind_ok {α β : Type} (value : α) (next : Cursor)
    (k : α → Cursor → Outcome β) : (ok value next).bind k = k value next := rfl

@[simp] theorem bind_error {α β : Type} (fault : ReadingError) (last : Cursor)
    (k : α → Cursor → Outcome β) : (error fault last).bind k = error fault last := rfl

theorem bind_assoc {α β γ : Type} (o : Outcome α) (k : α → Cursor → Outcome β)
    (k' : β → Cursor → Outcome γ) :
    (o.bind k).bind k' = o.bind fun value next => (k value next).bind k' := by
  cases o <;> rfl

end Outcome

namespace Cursor

def start (feed : Feed) : Cursor :=
  ⟨none, feed, []⟩

/-- The number of answers that are still to be used, the lookahead included. -/
def size (c : Cursor) : Nat :=
  c.lookahead.toList.length + c.unread.length

def note (c : Cursor) (step : ReadingStep) : Cursor :=
  { c with transcript := step :: c.transcript }

@[simp] theorem size_note (c : Cursor) (step : ReadingStep) : (c.note step).size = c.size := rfl

/-- Make the next answer the lookahead. -/
def pull (c : Cursor) : Outcome Unit :=
  match c.unread with
  | [] => .ok () ⟨none, [], .pulled none :: c.transcript⟩
  | none :: rest => .ok () ⟨none, rest, .pulled none :: c.transcript⟩
  | some (.token t) :: rest => .ok () ⟨some t, rest, .pulled (some (.token t)) :: c.transcript⟩
  | some (.invalid fault) :: rest =>
      .error (.invalid fault)
        ⟨c.lookahead, rest, .pulled (some (.invalid fault)) :: c.transcript⟩

theorem size_lt_of_pull {c next : Cursor} (hlookahead : c.lookahead.isSome = true)
    (h : c.pull = .ok () next) : next.size < c.size := by
  obtain ⟨t, ht⟩ := Option.isSome_iff_exists.mp hlookahead
  unfold pull at h
  split at h
  all_goals
    next hunread =>
      cases h <;> simp only [size, ht, hunread, Option.toList_some, Option.toList_none,
        List.length_cons, List.length_nil] <;> omega

/-- Take the lookahead token as a name or a parenthesis and go on to the next answer. -/
def accept (c : Cursor) (t : Token) : Outcome Unit :=
  (c.note (.accepted t)).pull

theorem size_lt_of_accept {c next : Cursor} {t : Token} (hlookahead : c.lookahead.isSome = true)
    (h : c.accept t = .ok () next) : next.size < c.size :=
  size_lt_of_pull (c := c.note (.accepted t)) hlookahead h

/-- The answers received so far, in order. -/
def pulls (c : Cursor) : Feed :=
  c.transcript.reverse.filterMap fun
    | .pulled answer => some answer
    | _ => none

end Cursor

end Propositional
