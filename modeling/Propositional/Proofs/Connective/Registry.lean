import Propositional.Connective.Registry

namespace Propositional

/-- The connective at `j` has the kind of the one at `i`, which stands before it. -/
def RepeatsAt (connectives : List Connective) (i j : Nat) : Prop :=
  i < j ∧ ∃ c d, connectives[i]? = some c ∧ connectives[j]? = some d ∧ c.kind = d.kind

theorem distinctKinds_iff_not_repeatsAt {connectives : List Connective} :
    DistinctKinds connectives ↔ ∀ i j, ¬ RepeatsAt connectives i j := by
  rw [DistinctKinds, List.pairwise_iff_getElem]
  constructor
  · rintro hdistinct i j ⟨hlt, c, d, hc, hd, hkind⟩
    obtain ⟨hi, rfl⟩ := List.getElem?_eq_some_iff.mp hc
    obtain ⟨hj, rfl⟩ := List.getElem?_eq_some_iff.mp hd
    exact hdistinct i j hi hj hlt hkind
  · intro hnone i j hi hj hlt hkind
    exact hnone i j ⟨hlt, _, _, List.getElem?_eq_getElem hi, List.getElem?_eq_getElem hj, hkind⟩

theorem distinctKinds_append_cons {before after : List Connective} {c : Connective}
    (h : DistinctKinds (before ++ c :: after)) :
    DistinctKinds before ∧ ∀ d ∈ before, d.kind ≠ c.kind := by
  obtain ⟨hbefore, -, hacross⟩ := List.pairwise_append.mp h
  exact ⟨hbefore, fun d hd => hacross d hd c (List.mem_cons_self ..)⟩

theorem distinctKinds_perm {connectives other : List Connective} (h : connectives.Perm other) :
    DistinctKinds connectives ↔ DistinctKinds other :=
  h.pairwise_iff fun hne => hne.symm

theorem foldlM_eq_error_iff {α β ε : Type} {f : β → α → Except ε β} {init : β} {l : List α}
    {fault : ε} :
    l.foldlM f init = .error fault ↔
      ∃ before x after mid, l = before ++ x :: after ∧ before.foldlM f init = .ok mid ∧
        f mid x = .error fault := by
  induction l generalizing init with
  | nil => simp [pure, Except.pure]
  | cons x rest ih =>
      rcases hfirst : f init x with fault' | mid
      · constructor
        · intro h
          rw [List.foldlM_cons, hfirst] at h
          exact ⟨[], x, rest, init, rfl, rfl, hfirst.trans h⟩
        · rintro ⟨_ | ⟨y, before⟩, z, after, last, hsplit, hbefore, hlast⟩
          · obtain ⟨rfl, rfl⟩ := List.cons.inj hsplit
            obtain rfl : init = last := Except.ok.inj hbefore
            rw [List.foldlM_cons, hlast]
            rfl
          · obtain ⟨rfl, rfl⟩ := List.cons.inj hsplit
            rw [List.foldlM_cons, hfirst] at hbefore
            contradiction
      · rw [List.foldlM_cons, hfirst]
        refine (@ih mid).trans ?_
        constructor
        · rintro ⟨before, z, after, last, rfl, hbefore, hlast⟩
          refine ⟨x :: before, z, after, last, rfl, ?_, hlast⟩
          rw [List.foldlM_cons, hfirst]
          exact hbefore
        · rintro ⟨_ | ⟨y, before⟩, z, after, last, hsplit, hbefore, hlast⟩
          · obtain ⟨rfl, rfl⟩ := List.cons.inj hsplit
            obtain rfl : init = last := Except.ok.inj hbefore
            rw [hfirst] at hlast
            contradiction
          · obtain ⟨rfl, rfl⟩ := List.cons.inj hsplit
            rw [List.foldlM_cons, hfirst] at hbefore
            exact ⟨before, z, after, last, rfl, hbefore, hlast⟩

namespace Registry

variable {registry next : Registry} {connectives other : List Connective} {c : Connective}

theorem insert_eq_ok_iff :
    registry.insert c = .ok next ↔
      (∀ d ∈ registry.entries, d.kind ≠ c.kind) ∧ next.entries = registry.entries ++ [c] := by
  unfold insert
  split
  · next earlier hget =>
      obtain ⟨hmem, hkind⟩ := get?_eq_some_iff.mp hget
      constructor
      · rintro ⟨⟩
      · rintro ⟨hfree, -⟩
        exact (hfree earlier hmem hkind).elim
  · next hget =>
      constructor
      · rintro ⟨⟩
        exact ⟨get?_eq_none_iff.mp hget, rfl⟩
      · rintro ⟨-, hentries⟩
        cases next
        cases hentries
        rfl

theorem insert_eq_error_iff {clash : KindClash} :
    registry.insert c = .error clash ↔
      ∃ earlier ∈ registry.entries, earlier.kind = c.kind ∧ clash = ⟨c.kind, earlier, c⟩ := by
  unfold insert
  split
  · next earlier hget =>
      constructor
      · rintro ⟨⟩
        obtain ⟨hmem, hkind⟩ := get?_eq_some_iff.mp hget
        exact ⟨earlier, hmem, hkind, rfl⟩
      · rintro ⟨d, hmem, hkind, rfl⟩
        rw [get?_eq_some_iff.mpr ⟨hmem, hkind⟩] at hget
        rw [Option.some.inj hget]
  · next hget =>
      constructor
      · rintro ⟨⟩
      · rintro ⟨d, hmem, hkind, -⟩
        exact (get?_eq_none_iff.mp hget d hmem hkind).elim

theorem foldlM_insert_eq_ok_iff :
    connectives.foldlM insert registry = .ok next ↔
      DistinctKinds (registry.entries ++ connectives) ∧
        next.entries = registry.entries ++ connectives := by
  induction connectives generalizing registry with
  | nil =>
      rw [List.foldlM_nil, List.append_nil]
      constructor
      · intro h
        obtain rfl : registry = next := Except.ok.inj h
        exact ⟨registry.distinct, rfl⟩
      · rintro ⟨-, hentries⟩
        cases next
        cases hentries
        rfl
  | cons c rest ih =>
      rw [List.foldlM_cons]
      rcases hinsert : registry.insert c with clash | mid
      · obtain ⟨earlier, hmem, hkind, -⟩ := insert_eq_error_iff.mp hinsert
        constructor
        · rintro ⟨⟩
        · rintro ⟨hdistinct, -⟩
          exact ((distinctKinds_append_cons hdistinct).2 earlier hmem hkind).elim
      · have hentries := (insert_eq_ok_iff.mp hinsert).2
        have hsplit : mid.entries ++ rest = registry.entries ++ c :: rest := by
          rw [hentries, List.append_assoc, List.singleton_append]
        rw [← hsplit]
        exact ih

theorem ofList_eq_ok_iff :
    ofList connectives = .ok registry ↔
      DistinctKinds connectives ∧ registry.entries = connectives :=
  foldlM_insert_eq_ok_iff

theorem exists_ofList_iff : (∃ registry, ofList connectives = .ok registry) ↔
    DistinctKinds connectives := by
  constructor
  · rintro ⟨registry, hregistry⟩
    exact (ofList_eq_ok_iff.mp hregistry).1
  · intro hdistinct
    exact ⟨⟨connectives, hdistinct⟩, ofList_eq_ok_iff.mpr ⟨hdistinct, rfl⟩⟩

/-- The clash is the one of the connective that is the first to repeat a kind. -/
def FirstClash (connectives : List Connective) (clash : KindClash) : Prop :=
  ∃ i j, RepeatsAt connectives i j ∧ (∀ i' j', RepeatsAt connectives i' j' → j ≤ j') ∧
    connectives[i]? = some clash.first ∧ connectives[j]? = some clash.second ∧
    clash.kind = clash.second.kind

theorem ofList_eq_error_iff {clash : KindClash} :
    ofList connectives = .error clash ↔ FirstClash connectives clash := by
  refine foldlM_eq_error_iff.trans ?_
  constructor
  · rintro ⟨before, second, after, mid, rfl, hbefore, hsecond⟩
    obtain ⟨hdistinct, rfl⟩ := ofList_eq_ok_iff.mp hbefore
    obtain ⟨first, hfirst, hkind, rfl⟩ := insert_eq_error_iff.mp hsecond
    obtain ⟨i, hi, rfl⟩ := List.mem_iff_getElem.mp hfirst
    have hi' : (mid.entries ++ second :: after)[i]? = some mid.entries[i] := by
      rw [List.getElem?_append_left hi, List.getElem?_eq_getElem hi]
    have hj : (mid.entries ++ second :: after)[mid.entries.length]? = some second := by simp
    refine ⟨i, mid.entries.length, ⟨hi, _, _, hi', hj, hkind⟩, ?_, hi', hj, rfl⟩
    rintro i' j' ⟨hlt, c, d, hc, hd, hsame⟩
    rcases Nat.lt_or_ge j' mid.entries.length with hearlier | hle
    · rw [List.getElem?_append_left (by omega)] at hc hd
      exact (distinctKinds_iff_not_repeatsAt.mp hdistinct i' j' ⟨hlt, c, d, hc, hd, hsame⟩).elim
    · exact hle
  · rintro ⟨i, j, ⟨hlt, c, d, hc, hd, hkind⟩, hleast, hfirst, hsecond, hclash⟩
    obtain ⟨kind, first, second⟩ := clash
    obtain rfl : c = first := Option.some.inj (hc.symm.trans hfirst)
    obtain rfl : d = second := Option.some.inj (hd.symm.trans hsecond)
    obtain rfl : kind = d.kind := hclash
    obtain ⟨hj, rfl⟩ := List.getElem?_eq_some_iff.mp hd
    have hsplit :
        connectives = connectives.take j ++ connectives[j] :: connectives.drop (j + 1) := by
      rw [← List.drop_eq_getElem_cons hj, List.take_append_drop]
    have hdistinct : DistinctKinds (connectives.take j) := by
      apply distinctKinds_iff_not_repeatsAt.mpr
      rintro i' j' ⟨hlt', c', d', hc', hd', hkind'⟩
      obtain ⟨hj', -⟩ := List.getElem?_eq_some_iff.mp hd'
      rw [List.length_take] at hj'
      rw [List.getElem?_take_of_lt (by omega)] at hc' hd'
      have hle := hleast i' j' ⟨hlt', c', d', hc', hd', hkind'⟩
      omega
    have hmem : c ∈ connectives.take j := by
      rw [← List.getElem?_take_of_lt hlt] at hc
      exact List.mem_of_getElem? hc
    exact ⟨_, _, _, ⟨_, hdistinct⟩, hsplit, ofList_eq_ok_iff.mpr ⟨hdistinct, rfl⟩,
      insert_eq_error_iff.mpr ⟨c, hmem, hkind, rfl⟩⟩

/-- The registry knows these connectives, each under its kind, and no others. -/
structure Holds (registry : Registry) (connectives : List Connective) : Prop where
  get?_iff : ∀ kind c, registry.get? kind = some c ↔ c ∈ connectives ∧ c.kind = kind
  unary?_iff : ∀ t u, registry.unary? (some t) = some u ↔ registry.get? t.kind = some (.unary u)
  binary?_iff : ∀ t b, registry.binary? (some t) = some b ↔ registry.get? t.kind = some (.binary b)
  unary?_none : registry.unary? none = none
  binary?_none : registry.binary? none = none
  size_eq : registry.size = connectives.length
  isEmpty_iff : registry.isEmpty = true ↔ connectives = []

theorem holds_entries (registry : Registry) : registry.Holds registry.entries where
  get?_iff _ _ := get?_eq_some_iff
  unary?_iff _ _ := unary?_eq_some_iff.trans get?_eq_some_iff.symm
  binary?_iff _ _ := binary?_eq_some_iff.trans get?_eq_some_iff.symm
  unary?_none := rfl
  binary?_none := rfl
  size_eq := rfl
  isEmpty_iff := List.isEmpty_iff

/-- No question tells the two registries apart. -/
structure Alike (registry other : Registry) : Prop where
  get?_eq : other.get? = registry.get?
  unary?_eq : other.unary? = registry.unary?
  binary?_eq : other.binary? = registry.binary?
  size_eq : other.size = registry.size
  isEmpty_eq : other.isEmpty = registry.isEmpty

theorem alike_of_perm {other : Registry} (h : registry.entries.Perm other.entries) :
    registry.Alike other := by
  have hget : other.get? = registry.get? := by
    funext kind
    apply Option.ext
    intro c
    rw [get?_eq_some_iff, get?_eq_some_iff, h.mem_iff]
  have hunary : other.unaryOf? = registry.unaryOf? := by
    funext kind
    rw [unaryOf?, unaryOf?, hget]
  have hbinary : other.binaryOf? = registry.binaryOf? := by
    funext kind
    rw [binaryOf?, binaryOf?, hget]
  refine ⟨hget, ?_, ?_, h.length_eq.symm, ?_⟩
  · funext token
    rw [unary?, unary?, hunary]
  · funext token
    rw [binary?, binary?, hbinary]
  · rw [isEmpty, isEmpty, h.isEmpty_eq]

/-- A list is built into a registry exactly when no kind in it is repeated, which is what the
comparison of all pairs finds. The registry then knows the connectives of the list and no others,
and their order makes no difference. Otherwise the first connective that repeats a kind is reported
with the earlier one of that kind. -/
theorem ofList_by_kinds (connectives : List Connective) :
    ((∃ registry, ofList connectives = .ok registry) ↔ ∀ i j, ¬ RepeatsAt connectives i j) ∧
      (distinctKinds connectives = true ↔ ∀ i j, ¬ RepeatsAt connectives i j) ∧
      (∀ registry, ofList connectives = .ok registry →
        registry.Holds connectives ∧
          ∀ other, connectives.Perm other →
            ∃ reordered, ofList other = .ok reordered ∧ registry.Alike reordered) ∧
      ∀ clash, ofList connectives = .error clash ↔ FirstClash connectives clash := by
  refine ⟨exists_ofList_iff.trans distinctKinds_iff_not_repeatsAt,
    distinctKinds_iff.trans distinctKinds_iff_not_repeatsAt, ?_, fun _ => ofList_eq_error_iff⟩
  intro registry hregistry
  obtain ⟨hdistinct, rfl⟩ := ofList_eq_ok_iff.mp hregistry
  refine ⟨registry.holds_entries, ?_⟩
  intro other hperm
  have hother := (distinctKinds_perm hperm).mp hdistinct
  exact ⟨⟨other, hother⟩, ofList_eq_ok_iff.mpr ⟨hother, rfl⟩, alike_of_perm hperm⟩

theorem ofList_of_two_repetitions :
    ofList [.unary .negation, .binary .disjunction, .binary .conjunction, .binary .disjunction,
        .unary .negation] = .error ⟨.disjunction, .binary .disjunction, .binary .disjunction⟩ ∧
      FirstClash [.unary .negation, .binary .disjunction, .binary .conjunction,
        .binary .disjunction, .unary .negation]
        ⟨.disjunction, .binary .disjunction, .binary .disjunction⟩ := by
  have hclash : ofList [.unary .negation, .binary .disjunction, .binary .conjunction,
      .binary .disjunction, .unary .negation] =
        .error ⟨.disjunction, .binary .disjunction, .binary .disjunction⟩ := rfl
  exact ⟨hclash, ((ofList_by_kinds _).2.2.2 _).mp hclash⟩

end Registry

end Propositional
