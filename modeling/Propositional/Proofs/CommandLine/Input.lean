import Propositional.CommandLine.Program
import Propositional.Proofs.CommandLine.InputLines
import Propositional.Proofs.Token.Tiling

namespace Propositional.CommandLine

namespace Arguments

theorem addAll_append_separator {flags : List String} {a b : Arguments}
    (h : addAll flags a = .ok b) (hflags : "--" ∉ flags) (formulas : List String) :
    addAll (flags ++ "--" :: formulas) a = .ok { b with formulas := b.formulas ++ formulas } := by
  induction flags generalizing a with
  | nil =>
      obtain rfl := Except.ok.inj h
      rw [List.nil_append, addAll, if_pos rfl]
  | cons flag rest ih =>
      rw [List.mem_cons, not_or] at hflags
      rw [addAll, if_neg (Ne.symm hflags.1)] at h
      rw [List.cons_append, addAll, if_neg (Ne.symm hflags.1)]
      rcases hadd : addArgument flag a with stop | a'
      · rw [hadd] at h
        contradiction
      · rw [hadd] at h
        exact ih h hflags.2

end Arguments

variable {level : LogLevel} {tree : Bool} {arguments flags sources : List String}

theorem respond_of_sources (harguments : Arguments.ofList arguments = .ok ⟨tree, sources⟩)
    (hne : sources ≠ []) (input : List Byte) :
    respond level arguments input = .answered level (Report.ofSources tree sources) := by
  have hsome : ¬ sources.isEmpty = true := by simpa using hne
  rw [respond, harguments]
  exact if_neg hsome

theorem respond_of_formulas (hflags : Arguments.ofList flags = .ok ⟨tree, []⟩)
    (hplain : "--" ∉ flags) (hne : sources ≠ []) (input : List Byte) :
    respond level (flags ++ "--" :: sources) input =
      .answered level (Report.ofSources tree sources) :=
  respond_of_sources (Arguments.addAll_append_separator hflags hplain sources) hne input

theorem respond_of_no_formulas (harguments : Arguments.ofList arguments = .ok ⟨tree, []⟩)
    (input : List Byte) :
    respond level arguments input = .answered level (inputReport tree input) := by
  rw [respond, harguments]
  rfl

theorem LogLevel.log_append (level : LogLevel) (entries entries' : List LogEntry) :
    level.log (entries ++ entries') = level.log entries ++ level.log entries' := by
  rw [log, List.filter_append, List.map_append, log, log]

/-- What the log says about an input that is not read to its end. -/
def stopLog (level : LogLevel) (unread : List (List Byte)) : List String :=
  if unread = [] ∨ level = .off then []
  else ["ERROR proplogic: could not read stdin: stream did not contain valid UTF-8"]

theorem stopLog_nil (level : LogLevel) : stopLog level [] = [] :=
  if_pos (.inl rfl)

theorem log_unreadableInput (level : LogLevel) (line : List Byte) (rest : List (List Byte)) :
    level.log [.unreadableInput] = stopLog level (line :: rest) := by
  cases level <;> rfl

theorem inputReport_of_readable {input : List Byte} {texts : List String}
    (h : Decodes input texts []) :
    inputReport tree input =
      Report.ofSources tree (texts.filter fun line => ¬ IsBlankLine line) := by
  rw [inputReport, InputLines.ofBytes_eq h]
  rfl

theorem inputReport_of_unreadable {input line : List Byte} {texts : List String}
    {rest : List (List Byte)} (h : Decodes input texts (line :: rest)) :
    inputReport tree input =
      (Report.ofSources tree (texts.filter fun line => ¬ IsBlankLine line)).append
        .ofUnreadableInput := by
  rw [inputReport, InputLines.ofBytes_eq h]
  rfl

theorem exitCode_append_unreadableInput (level : LogLevel) (report : Report) :
    (Response.answered level (report.append .ofUnreadableInput)).exitCode = 1 := by
  have hfailed : (report.append .ofUnreadableInput).failed = true := Bool.or_true _
  rw [Response.exitCode, hfailed]
  rfl

theorem answered_inputReport (level : LogLevel) {input : List Byte} {texts : List String}
    {unread : List (List Byte)} (h : Decodes input texts unread) :
    let sources := texts.filter fun line => ¬ IsBlankLine line
    let given := Response.answered level (Report.ofSources tree sources)
    let answer := Response.answered level (inputReport tree input)
    answer.output = given.output ∧ answer.log = given.log ++ stopLog level unread ∧
      answer.exitCode = if unread = [] then given.exitCode else 1 := by
  intro sources given answer
  rcases unread with _ | ⟨line, rest⟩
  · have hanswer : answer = given := congrArg _ (inputReport_of_readable h)
    rw [hanswer, stopLog_nil, List.append_nil]
    exact ⟨rfl, rfl, rfl⟩
  · have hanswer : answer =
        .answered level ((Report.ofSources tree sources).append .ofUnreadableInput) :=
      congrArg _ (inputReport_of_unreadable h)
    rw [hanswer, ← log_unreadableInput]
    exact ⟨String.append_empty, level.log_append _ _, exitCode_append_unreadableInput level _⟩

/-- Let `texts` be the lines of the input up to the first that encodes no text, and `sources` those
of them that are not blank, that is, those in which a scan finds something. The sources are answered
as if they were given as arguments after `--`; if there are none, nothing is printed. A line that
encodes no text then adds an error of its own to the log and makes the program fail, whatever the
answers before it, and what follows that line is not answered. -/
theorem respond_input_like_arguments (level : LogLevel)
    (harguments : Arguments.ofList arguments = .ok ⟨tree, []⟩)
    (hflags : Arguments.ofList flags = .ok ⟨tree, []⟩) (hplain : "--" ∉ flags)
    (input : List Byte) :
    (∀ line : String, IsBlankLine line ↔ scan line = []) ∧
      (∃ texts unread, Decodes input texts unread) ∧
      ∀ texts unread, Decodes input texts unread →
        let sources := texts.filter fun line => ¬ IsBlankLine line
        let answer := respond level arguments input
        (sources = [] →
          answer.output = "" ∧ answer.log = stopLog level unread ∧
            answer.exitCode = if unread = [] then 0 else 1) ∧
          (sources ≠ [] → ∀ other,
            let given := respond level (flags ++ "--" :: sources) other
            answer.output = given.output ∧ answer.log = given.log ++ stopLog level unread ∧
              answer.exitCode = if unread = [] then given.exitCode else 1) := by
  refine ⟨fun line => scan_eq_nil_iff.symm, exists_decodes input, ?_⟩
  intro texts unread hdecodes sources answer
  have hanswer : answer = .answered level (inputReport tree input) :=
    respond_of_no_formulas harguments input
  have hlike :
      let given := Response.answered level (Report.ofSources tree sources)
      answer.output = given.output ∧ answer.log = given.log ++ stopLog level unread ∧
        answer.exitCode = if unread = [] then given.exitCode else 1 := by
    rw [hanswer]
    exact answered_inputReport level hdecodes
  constructor
  · intro hsources
    rw [hsources] at hlike
    exact hlike
  · intro hsources other given
    have hgiven : given = .answered level (Report.ofSources tree sources) :=
      respond_of_formulas hflags hplain hsources other
    rw [hgiven]
    exact hlike

theorem respond_unreadable_input_like_arguments :
    (Arguments.ofList ["-t"] = .ok ⟨true, []⟩ ∧ Arguments.ofList ["--tree"] = .ok ⟨true, []⟩ ∧
        "--" ∉ ["--tree"]) ∧
      let answer := respond .debug ["-t"] [112, 13, 10, 32, 10, 255, 10, 113]
      let given := respond .debug ["--tree", "--", "p"] []
      (answer.output = given.output ∧ answer.log = given.log ++ stopLog .debug [[255], [113]] ∧
        answer.exitCode = 1) ∧
      answer.output =
        "p\nVariable(\n    Variable \x7b\n        name: \"p\",\n    \x7d,\n)\n" ∧
      answer.log =
        ["DEBUG proplogic::connectives: initialized connective registry count=4",
          "INFO proplogic: parsed formula depth=1 variables=[\"p\"]",
          "ERROR proplogic: could not read stdin: stream did not contain valid UTF-8"] := by
  have hshort : Arguments.ofList ["-t"] = .ok ⟨true, []⟩ := by decide +kernel
  have hlong : Arguments.ofList ["--tree"] = .ok ⟨true, []⟩ := by decide +kernel
  have hplain : "--" ∉ ["--tree"] := by decide
  have hnone : decodeLine? [255] = none := by decide +kernel
  have hdecodes : Decodes [112, 13, 10, 32, 10, 255, 10, 113] ["p", " "] [[255], [113]] := by
    refine ⟨lines_iff.mpr (by decide +kernel), ?_⟩
    rintro _ ⟨⟩ text hencode
    rw [decodeLine?_eq_some_iff.mpr hencode] at hnone
    contradiction
  have hsources : (["p", " "].filter fun line => ¬ IsBlankLine line) = ["p"] := by decide +kernel
  obtain ⟨-, -, hanswer⟩ := respond_input_like_arguments .debug hshort hlong hplain
    [112, 13, 10, 32, 10, 255, 10, 113]
  obtain ⟨-, hgiven⟩ := hanswer _ _ hdecodes
  rw [hsources] at hgiven
  refine ⟨⟨hshort, hlong, hplain⟩, hgiven (List.cons_ne_nil _ _) [], ?_, ?_⟩
  · decide +kernel
  · decide +kernel

end Propositional.CommandLine
