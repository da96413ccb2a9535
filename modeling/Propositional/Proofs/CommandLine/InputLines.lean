import Propositional.CommandLine.InputLines

namespace Propositional.CommandLine

def lineFeed : Byte := 10

def carriageReturn : Byte := 13

/-- The input consists of these lines. -/
inductive Lines : List Byte → List (List Byte) → Prop where
  | nil : Lines [] []
  | unended {line} (hne : line ≠ []) (hline : lineFeed ∉ line) : Lines line [line]
  | ended {line rest lines} (hline : lineFeed ∉ line) (hlast : line.getLast? ≠ some carriageReturn)
      (hrest : Lines rest lines) : Lines (line ++ lineFeed :: rest) (line :: lines)
  | returned {line rest lines} (hline : lineFeed ∉ line) (hrest : Lines rest lines) :
      Lines (line ++ carriageReturn :: lineFeed :: rest) (line :: lines)

theorem lines_splitLinesFrom {line : List Byte} (hline : lineFeed ∉ line) (input : List Byte) :
    Lines (line.reverse ++ input) (splitLinesFrom line input) := by
  fun_induction splitLinesFrom line input with
  | case1 line hempty =>
      rw [List.isEmpty_iff.mp hempty]
      exact .nil
  | case2 line hempty =>
      rw [List.append_nil]
      have hne : line ≠ [] := by simpa using hempty
      exact .unended (by simpa using hne) (by simpa using hline)
  | case3 rest shorter ih =>
      have hshorter : lineFeed ∉ shorter.reverse := by
        rw [List.mem_reverse]
        exact fun hmem => hline (List.mem_cons_of_mem _ hmem)
      rw [List.reverse_cons, List.append_assoc]
      exact .returned hshorter (ih List.not_mem_nil)
  | case4 line rest hnot ih =>
      have hlast : line.reverse.getLast? ≠ some carriageReturn := by
        rw [List.getLast?_reverse]
        intro hhead
        obtain ⟨shorter, hshorter⟩ := List.head?_eq_some_iff.mp hhead
        exact hnot shorter hshorter
      exact .ended (by simpa using hline) hlast (ih List.not_mem_nil)
  | case5 line byte rest hbyte ih =>
      have hline' : lineFeed ∉ byte :: line := by
        rw [List.mem_cons, not_or]
        exact ⟨Ne.symm hbyte, hline⟩
      have hlines := ih hline'
      rwa [List.reverse_cons, List.append_assoc] at hlines

theorem splitLinesFrom_of_ne {byte : Byte} (h : byte ≠ lineFeed) (line rest : List Byte) :
    splitLinesFrom line (byte :: rest) = splitLinesFrom (byte :: line) rest := by
  conv => lhs; unfold splitLinesFrom
  exact if_neg h

theorem splitLinesFrom_lineFeed {line : List Byte} (h : line.head? ≠ some carriageReturn)
    (rest : List Byte) :
    splitLinesFrom line (lineFeed :: rest) = line.reverse :: splitLinesFrom [] rest := by
  have hfeed : lineFeed = 10 := rfl
  conv => lhs; unfold splitLinesFrom
  rw [if_pos hfeed]
  split
  · exact (h rfl).elim
  · rfl

theorem splitLinesFrom_append {text : List Byte} (htext : lineFeed ∉ text) (line rest : List Byte) :
    splitLinesFrom line (text ++ rest) = splitLinesFrom (text.reverse ++ line) rest := by
  induction text generalizing line with
  | nil => rfl
  | cons byte text ih =>
      rw [List.mem_cons, not_or] at htext
      rw [List.cons_append, splitLinesFrom_of_ne (Ne.symm htext.1), ih htext.2, List.reverse_cons,
        List.append_assoc]
      rfl

theorem splitLines_of_lines {input : List Byte} {lines : List (List Byte)}
    (h : Lines input lines) : splitLines input = lines := by
  unfold splitLines
  induction h with
  | nil => rfl
  | @unended line hne hline =>
      have hend := splitLinesFrom_append hline [] []
      rw [List.append_nil, List.append_nil] at hend
      rw [hend, splitLinesFrom, if_neg (by simpa using hne), List.reverse_reverse]
  | @ended line rest lines hline hlast hrest ih =>
      rw [← List.head?_reverse] at hlast
      rw [splitLinesFrom_append hline, List.append_nil, splitLinesFrom_lineFeed hlast,
        List.reverse_reverse, ih]
  | @returned line rest lines hline hrest ih =>
      have hreturn : carriageReturn ≠ lineFeed := by decide
      rw [splitLinesFrom_append hline, List.append_nil, splitLinesFrom_of_ne hreturn]
      change line.reverse.reverse :: splitLinesFrom [] rest = _
      rw [List.reverse_reverse, ih]

/-- An input is cut into lines in one way only. -/
theorem lines_iff {input : List Byte} {lines : List (List Byte)} :
    Lines input lines ↔ splitLines input = lines := by
  constructor
  · exact splitLines_of_lines
  · rintro rfl
    exact lines_splitLinesFrom List.not_mem_nil input

def encode (text : String) : List Byte :=
  text.toByteArray.data.toList

theorem decodeLine?_eq_some_iff {line : List Byte} {text : String} :
    decodeLine? line = some text ↔ encode text = line := by
  unfold decodeLine? String.fromUTF8? encode
  constructor
  · intro h
    split at h
    · obtain rfl := Option.some.inj h
      exact List.toList_toArray
    · contradiction
  · rintro rfl
    have hbytes : ByteArray.mk text.toByteArray.data.toList.toArray = text.toByteArray := by
      rw [Array.toArray_toList]
    rw [hbytes, dif_pos text.isValidUTF8]
    rfl

/-- The input starts with lines that encode these texts, and the lines left over are none, or the
first of them encodes no text. -/
structure Decodes (input : List Byte) (texts : List String) (unread : List (List Byte)) : Prop where
  lines : Lines input (texts.map encode ++ unread)
  stuck : ∀ line ∈ unread.head?, ∀ text, encode text ≠ line

theorem exists_texts_of_lines (lines : List (List Byte)) :
    ∃ (texts : List String) (unread : List (List Byte)), lines = texts.map encode ++ unread ∧
      ∀ line ∈ unread.head?, ∀ text, encode text ≠ line := by
  induction lines with
  | nil => exact ⟨[], [], rfl, fun _ hline => nomatch hline⟩
  | cons line rest ih =>
      by_cases htext : ∃ text, encode text = line
      · obtain ⟨text, rfl⟩ := htext
        obtain ⟨texts, unread, rfl, hstuck⟩ := ih
        exact ⟨text :: texts, unread, rfl, hstuck⟩
      · refine ⟨[], line :: rest, rfl, ?_⟩
        rintro _ ⟨⟩ text hencode
        exact htext ⟨text, hencode⟩

theorem exists_decodes (input : List Byte) : ∃ texts unread, Decodes input texts unread := by
  obtain ⟨texts, unread, hlines, hstuck⟩ := exists_texts_of_lines (splitLines input)
  exact ⟨texts, unread, lines_iff.mpr hlines, hstuck⟩

theorem decodeLines_eq {texts : List String} {unread : List (List Byte)}
    (hstuck : ∀ line ∈ unread.head?, ∀ text, encode text ≠ line) :
    decodeLines (texts.map encode ++ unread) = (texts, unread.isEmpty) := by
  induction texts with
  | nil =>
      rcases unread with _ | ⟨line, rest⟩
      · rfl
      · have hnone : decodeLine? line = none := by
          apply Option.eq_none_iff_forall_ne_some.mpr
          intro text htext
          exact hstuck line rfl text (decodeLine?_eq_some_iff.mp htext)
        change decodeLines (line :: rest) = _
        rw [decodeLines, hnone]
        rfl
  | cons text texts ih =>
      rw [List.map_cons, List.cons_append, decodeLines, decodeLine?_eq_some_iff.mpr rfl, ih]

theorem InputLines.ofBytes_eq {input : List Byte} {texts : List String}
    {unread : List (List Byte)} (h : Decodes input texts unread) :
    InputLines.ofBytes input =
      ⟨texts.filter fun line => ¬ IsBlankLine line, unread.isEmpty⟩ := by
  rw [InputLines.ofBytes, splitLines_of_lines h.lines, decodeLines_eq h.stuck]

end Propositional.CommandLine
