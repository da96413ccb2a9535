import Propositional.Connective

namespace Propositional

/-- No two connectives of the list are written with the same kind of token. -/
def DistinctKinds (connectives : List Connective) : Prop :=
  connectives.Pairwise fun c d => c.kind ≠ d.kind

/-- Compares each connective with all later ones. -/
def distinctKinds : List Connective → Bool
  | [] => true
  | c :: rest => rest.all (fun d => c.kind ≠ d.kind) && distinctKinds rest

theorem distinctKinds_iff {connectives : List Connective} :
    distinctKinds connectives = true ↔ DistinctKinds connectives := by
  induction connectives with
  | nil => simp [distinctKinds, DistinctKinds]
  | cons c rest ih =>
      rw [DistinctKinds, List.pairwise_cons, distinctKinds, Bool.and_eq_true, ih]
      simp [DistinctKinds]

/-- The connectives that a reader knows, at most one for each kind of token. -/
structure Registry where
  entries : List Connective
  distinct : DistinctKinds entries

/-- Two connectives written with one kind of token. -/
structure KindClash where
  kind : TokenKind
  first : Connective
  second : Connective
  deriving DecidableEq, Repr

def KindClash.message (clash : KindClash) : String :=
  "A connective with token kind " ++ clash.kind.label ++ " is already defined: "
    ++ clash.first.label ++ " conflicts with " ++ clash.second.label

namespace Registry

def empty : Registry :=
  ⟨[], List.Pairwise.nil⟩

def standard : Registry :=
  ⟨Connective.all, distinctKinds_iff.mp rfl⟩

def get? (registry : Registry) (kind : TokenKind) : Option Connective :=
  registry.entries.find? fun c => c.kind = kind

theorem get?_eq_none_iff {registry : Registry} {kind : TokenKind} :
    registry.get? kind = none ↔ ∀ c ∈ registry.entries, c.kind ≠ kind := by
  simp [get?]

theorem get?_eq_some_iff {registry : Registry} {kind : TokenKind} {c : Connective} :
    registry.get? kind = some c ↔ c ∈ registry.entries ∧ c.kind = kind := by
  constructor
  · intro h
    exact ⟨List.mem_of_find?_eq_some h, by simpa using List.find?_some h⟩
  · rintro ⟨hmem, rfl⟩
    have hsome : (registry.entries.find? fun d => d.kind = c.kind).isSome = true :=
      List.find?_isSome.mpr ⟨c, hmem, by simp⟩
    obtain ⟨d, hd⟩ := Option.isSome_iff_exists.mp hsome
    have hkind : d.kind = c.kind := by simpa using List.find?_some hd
    rw [get?, hd, Connective.kind_injective hkind]

def insert (registry : Registry) (c : Connective) : Except KindClash Registry :=
  match h : registry.get? c.kind with
  | some earlier => .error ⟨c.kind, earlier, c⟩
  | none =>
      .ok ⟨registry.entries ++ [c], by
        refine List.pairwise_append.mpr ⟨registry.distinct, List.pairwise_singleton .., ?_⟩
        intro d hd e he
        rw [List.mem_singleton.mp he]
        exact get?_eq_none_iff.mp h d hd⟩

/-- Insert the connectives in list order; the first clash is the answer if there is one. -/
def ofList (connectives : List Connective) : Except KindClash Registry :=
  connectives.foldlM insert empty

def size (registry : Registry) : Nat :=
  registry.entries.length

def isEmpty (registry : Registry) : Bool :=
  registry.entries.isEmpty

def unaryOf? (registry : Registry) (kind : TokenKind) : Option UnaryConnective :=
  match registry.get? kind with
  | some (.unary c) => some c
  | _ => none

def binaryOf? (registry : Registry) (kind : TokenKind) : Option BinaryConnective :=
  match registry.get? kind with
  | some (.binary c) => some c
  | _ => none

/-- The unary connective that the token, if there is one, stands for. -/
def unary? (registry : Registry) (token : Option Token) : Option UnaryConnective :=
  token.bind fun t => registry.unaryOf? t.kind

/-- The binary connective that the token, if there is one, stands for. -/
def binary? (registry : Registry) (token : Option Token) : Option BinaryConnective :=
  token.bind fun t => registry.binaryOf? t.kind

@[simp] theorem binary?_none (registry : Registry) : registry.binary? none = none := rfl

theorem unary?_eq_some_iff {registry : Registry} {t : Token} {u : UnaryConnective} :
    registry.unary? (some t) = some u ↔ .unary u ∈ registry.entries ∧ u.kind = t.kind := by
  rw [unary?, Option.bind_some, unaryOf?]
  constructor
  · intro h
    split at h
    · next c hget =>
        cases h
        exact get?_eq_some_iff.mp hget
    · cases h
  · intro h
    have hget : registry.get? t.kind = some (.unary u) := get?_eq_some_iff.mpr h
    rw [hget]

theorem binary?_eq_some_iff {registry : Registry} {t : Token} {b : BinaryConnective} :
    registry.binary? (some t) = some b ↔ .binary b ∈ registry.entries ∧ b.kind = t.kind := by
  rw [binary?, Option.bind_some, binaryOf?]
  constructor
  · intro h
    split at h
    · next c hget =>
        cases h
        exact get?_eq_some_iff.mp hget
    · cases h
  · intro h
    have hget : registry.get? t.kind = some (.binary b) := get?_eq_some_iff.mpr h
    rw [hget]

theorem binary?_of_closing {registry : Registry} {t : Token} (h : t.kind = .closing) :
    registry.binary? (some t) = none := by
  rw [Option.eq_none_iff_forall_ne_some]
  intro b hb
  have hkind := (binary?_eq_some_iff.mp hb).2
  cases b <;> simp [h, BinaryConnective.kind] at hkind

end Registry

end Propositional
