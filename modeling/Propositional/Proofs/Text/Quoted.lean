import Propositional.Text.Quoted

namespace Propositional.Text

theorem exists_digitChar_of_mem_toDigits {b n : Nat} {c : Char} (hb : 1 < b)
    (h : c ∈ Nat.toDigits b n) : ∃ d, d < b ∧ c = d.digitChar := by
  induction n using Nat.strongRecOn with
  | ind n ih =>
      rw [Nat.toDigits_eq_if hb] at h
      split at h
      · next hlt => exact ⟨n, hlt, List.mem_singleton.mp h⟩
      · next hge =>
          rcases List.mem_append.mp h with hfront | hlast
          · exact ih (n / b) (Nat.div_lt_self (by omega) hb) hfront
          · exact ⟨n % b, Nat.mod_lt n (by omega), List.mem_singleton.mp hlast⟩

/-- The value of a hexadecimal digit. -/
def hexValue (c : Char) : Nat :=
  if c.toNat < 58 then c.toNat - 48 else c.toNat - 87

theorem hexValue_digitChar {d : Nat} (h : d < 16) : hexValue d.digitChar = d := by
  have hall : ∀ d : Fin 16, hexValue d.val.digitChar = d.val := by decide
  exact hall ⟨d, h⟩

/-- The number that hexadecimal digits stand for. -/
def hexNumber (digits : List Char) : Nat :=
  digits.foldl (fun n c => 16 * n + hexValue c) 0

theorem hexNumber_toDigits (n : Nat) : hexNumber (Nat.toDigits 16 n) = n := by
  induction n using Nat.strongRecOn with
  | ind n ih =>
      rw [Nat.toDigits_eq_if (by decide)]
      split
      · next hlt => simp [hexNumber, hexValue_digitChar hlt]
      · next hge =>
          have hfront : hexNumber (Nat.toDigits 16 (n / 16)) = n / 16 := ih (n / 16) (by omega)
          rw [hexNumber] at hfront
          rw [hexNumber, List.foldl_append, hfront, List.foldl_cons, List.foldl_nil,
            hexValue_digitChar (Nat.mod_lt n (by decide))]
          omega

/-- The characters at which a text goes on in a new line: the line feed and the carriage return,
the vertical tab and the form feed, U+0085, and the separators of lines and of paragraphs. -/
def isLineBreak (c : Char) : Bool :=
  ['\n', '\x0b', '\x0c', '\r', '\x85', '\u2028', '\u2029'].contains c

/-- A text with no line break in it. -/
def SingleLine (text : List Char) : Prop :=
  ∀ c ∈ text, isLineBreak c = false

instance (text : List Char) : Decidable (SingleLine text) :=
  List.decidableBAll (fun c => isLineBreak c = false) text

theorem singleLine_append {text text' : List Char} (h : SingleLine text)
    (h' : SingleLine text') : SingleLine (text ++ text') :=
  List.forall_mem_append.mpr ⟨h, h'⟩

theorem singleLine_toList_append {s t : String} (h : SingleLine s.toList)
    (h' : SingleLine t.toList) : SingleLine (s ++ t).toList := by
  rw [String.toList_append]
  exact singleLine_append h h'

theorem singleLine_intercalate {separator : String} {texts : List String}
    (hseparator : SingleLine separator.toList) (h : ∀ text ∈ texts, SingleLine text.toList) :
    SingleLine (separator.intercalate texts).toList := by
  induction texts with
  | nil => exact List.forall_mem_nil _
  | cons text rest ih =>
      obtain ⟨htext, hrest⟩ := List.forall_mem_cons.mp h
      rcases hcases : rest with _ | ⟨text', rest'⟩
      · exact htext
      · rw [String.intercalate_cons_of_ne_nil (List.cons_ne_nil _ _), ← hcases]
        exact singleLine_toList_append (singleLine_toList_append htext hseparator)
          (ih hrest)

theorem isHidden_of_isLineBreak {c : Char} (h : isLineBreak c = true) : isHidden c = true := by
  simp only [isLineBreak, List.contains_iff_mem, List.mem_cons, List.not_mem_nil, or_false] at h
  rcases h with rfl | rfl | rfl | rfl | rfl | rfl | rfl <;> decide +kernel

theorem singleLine_toDigits {b : Nat} (hb : 1 < b) (hhex : b ≤ 16) (n : Nat) :
    SingleLine (Nat.toDigits b n) := by
  intro c hc
  obtain ⟨d, hd, rfl⟩ := exists_digitChar_of_mem_toDigits hb hc
  have hall : ∀ d : Fin 16, isLineBreak d.val.digitChar = false := by decide
  exact hall ⟨d, Nat.lt_of_lt_of_le hd hhex⟩

theorem singleLine_toString (n : Nat) : SingleLine (toString n).toList := by
  rw [Nat.toString_eq_ofList_toDigits, String.toList_ofList]
  exact singleLine_toDigits (by decide) (by decide) n

theorem singleLine_escape {quote : Char} (hquote : isLineBreak quote = false) (c : Char) :
    SingleLine (escape quote c) := by
  unfold escape
  split
  · decide
  split
  · decide
  split
  · decide
  split
  · decide
  split
  · decide
  split
  · simp [SingleLine, hquote]
    decide
  split
  · exact singleLine_append
      (singleLine_append (by decide) (singleLine_toDigits (by decide) (by decide) _)) (by decide)
  · next hvisible =>
      intro d hd
      obtain rfl := List.mem_singleton.mp hd
      exact Bool.eq_false_iff.mpr fun hbreak => hvisible (isHidden_of_isLineBreak hbreak)

theorem singleLine_enclose {quote : Char} (hquote : isLineBreak quote = false)
    (text : List Char) : SingleLine (enclose quote text) := by
  have hedge : SingleLine [quote] := by simpa [SingleLine] using hquote
  refine singleLine_append (singleLine_append hedge ?_) hedge
  intro d hd
  obtain ⟨c, -, hc⟩ := List.mem_flatMap.mp hd
  exact singleLine_escape hquote c d hc

theorem singleLine_quoteChar (c : Char) : SingleLine (quoteChar c).toList := by
  rw [quoteChar, String.toList_ofList]
  exact singleLine_enclose (by decide) [c]

theorem singleLine_quoteString (s : String) : SingleLine (quoteString s).toList := by
  rw [quoteString, String.toList_ofList]
  exact singleLine_enclose (by decide) s.toList

/-- The character that an escape by one character stands for. -/
def namedEscape (c : Char) : Char :=
  if c = '0' then '\x00'
  else if c = 't' then '\t'
  else if c = 'n' then '\n'
  else if c = 'r' then '\r'
  else c

/-- Read what stands behind a backslash, and answer the text after it as well. -/
def readEscape? : List Char → Option (Char × List Char)
  | [] => none
  | 'u' :: rest =>
      let digits := (rest.drop 1).takeWhile (· ≠ '\x7d')
      some (Char.ofNat (hexNumber digits), rest.drop (digits.length + 2))
  | c :: rest => some (namedEscape c, rest)

/-- Read the first character of a text between double quotes. -/
def readQuoted? : List Char → Option (Char × List Char)
  | [] => none
  | c :: rest => if c = '\\' then readEscape? rest else some (c, rest)

theorem readEscape?_number (c : Char) (rest : List Char) :
    readEscape? (['u', '\x7b'] ++ Nat.toDigits 16 c.toNat ++ ['\x7d'] ++ rest) =
      some (c, rest) := by
  have hdigits : ∀ d ∈ Nat.toDigits 16 c.toNat, decide (d ≠ '\x7d') = true := by
    intro d hd
    obtain ⟨n, hn, rfl⟩ := exists_digitChar_of_mem_toDigits (by decide) hd
    have hall : ∀ n : Fin 16, decide (n.val.digitChar ≠ '\x7d') = true := by decide
    exact hall ⟨n, hn⟩
  have htake : (Nat.toDigits 16 c.toNat ++ '\x7d' :: rest).takeWhile (· ≠ '\x7d') =
      Nat.toDigits 16 c.toNat := by
    rw [List.takeWhile_append_of_pos hdigits, List.takeWhile_cons_of_neg (by decide)]
    exact List.append_nil _
  have hsplit : ['u', '\x7b'] ++ Nat.toDigits 16 c.toNat ++ ['\x7d'] ++ rest =
      'u' :: '\x7b' :: (Nat.toDigits 16 c.toNat ++ '\x7d' :: rest) := by
    simp
  rw [hsplit, readEscape?]
  simp only [List.drop_succ_cons, List.drop_zero]
  rw [htake, hexNumber_toDigits, Char.ofNat_toNat]
  simp

theorem readQuoted?_escape (c : Char) (rest : List Char) :
    readQuoted? (escape '"' c ++ rest) = some (c, rest) := by
  unfold escape
  split
  · next h => rw [h]; rfl
  split
  · next h => rw [h]; rfl
  split
  · next h => rw [h]; rfl
  split
  · next h => rw [h]; rfl
  split
  · next h => rw [h]; rfl
  split
  · next h => rw [h]; rfl
  split
  · exact readEscape?_number c rest
  · next hbackslash _ _ => exact if_neg hbackslash

theorem flatMap_escape_injective {text text' : List Char}
    (h : text.flatMap (escape '"') = text'.flatMap (escape '"')) : text = text' := by
  induction text generalizing text' with
  | nil =>
      rcases text' with _ | ⟨d, rest'⟩
      · rfl
      · have hread := readQuoted?_escape d (rest'.flatMap (escape '"'))
        rw [← List.flatMap_cons, ← h] at hread
        contradiction
  | cons c rest ih =>
      have hread := readQuoted?_escape c (rest.flatMap (escape '"'))
      rw [← List.flatMap_cons, h] at hread
      rcases text' with _ | ⟨d, rest'⟩
      · contradiction
      · rw [List.flatMap_cons, readQuoted?_escape, Option.some.injEq, Prod.mk.injEq] at hread
        obtain ⟨rfl, hrest⟩ := hread
        rw [ih hrest.symm]

theorem quoteString_injective {s t : String} (h : quoteString s = quoteString t) : s = t := by
  have hchars := String.ofList_injective h
  rw [enclose, enclose, List.append_cancel_right_eq, List.append_cancel_left_eq] at hchars
  exact String.toList_injective (flatMap_escape_injective hchars)

end Propositional.Text
