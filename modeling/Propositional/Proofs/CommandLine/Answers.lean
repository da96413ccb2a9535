import Mathlib.Data.List.Forall2
import Propositional.Proofs.CommandLine.Input
import Propositional.Proofs.Reading.Lazy
import Propositional.Proofs.Text.Quoted

namespace Propositional

open Text (SingleLine)

theorem Text.isBlank_of_isLineBreak {c : Char} (h : isLineBreak c = true) : isBlank c = true := by
  simp only [isLineBreak, List.contains_iff_mem, List.mem_cons, List.not_mem_nil, or_false] at h
  rcases h with rfl | rfl | rfl | rfl | rfl | rfl | rfl <;> decide

theorem TokenKind.singleLine_of_spelling {kind : TokenKind} {lexeme : List Char}
    (hvisible : kind ≠ .blank) (h : kind.Spelling lexeme) : SingleLine lexeme := by
  have hglyphs : ∀ kind ∈ all, ∀ glyph ∈ kind.glyphs, SingleLine glyph := by decide
  cases kind
  case name =>
    intro c hc
    apply Bool.eq_false_iff.mpr
    intro hbreak
    have hletter := h.2 c hc
    rw [Text.isLetter_of_isBlank (Text.isBlank_of_isLineBreak hbreak)] at hletter
    contradiction
  case blank => contradiction
  all_goals exact hglyphs _ (mem_all _) lexeme h

theorem TokenKind.singleLine_label (kind : TokenKind) : SingleLine kind.label.toList := by
  cases kind <;> decide

theorem singleLine_of_mem_scan {source : String} {t : Token}
    (h : t ∈ (scan source).filterMap Item.token?) : SingleLine t.lexeme.toList :=
  TokenKind.singleLine_of_spelling (spelling_of_mem_scan h).1 (spelling_of_mem_scan h).2

theorem InvalidCharacter.singleLine_message (fault : InvalidCharacter) :
    SingleLine fault.message.toList := by
  have hcharacter : SingleLine ("Unknown character " ++ Text.quoteChar fault.character).toList :=
    Text.singleLine_toList_append (by decide) (Text.singleLine_quoteChar _)
  exact Text.singleLine_toList_append (Text.singleLine_toList_append hcharacter (by decide))
    (Text.singleLine_toString _)

theorem SyntaxError.singleLine_message {fault : SyntaxError}
    (h : ∀ t ∈ fault.found, SingleLine t.lexeme.toList) : SingleLine fault.message.toList := by
  have hsubject : SingleLine fault.subject.toList := by
    rw [subject]
    split
    · next t hfound =>
        have hlexeme : SingleLine ("token \"" ++ t.lexeme).toList :=
          Text.singleLine_toList_append (by decide) (h t hfound)
        exact Text.singleLine_toList_append (Text.singleLine_toList_append hlexeme (by decide))
          (Text.singleLine_toString _)
    · decide
  have hplace : SingleLine ("Unexpected " ++ fault.subject).toList :=
    Text.singleLine_toList_append (by decide) hsubject
  rw [message]
  split
  · exact Text.singleLine_toList_append (Text.singleLine_toList_append hplace (by decide))
      (TokenKind.singleLine_label _)
  · exact hplace

theorem Reading.mem_scan_of_misplaced {registry : Registry} {source : String} {t : Token}
    {expected : Option TokenKind}
    (h : (ofSource registry source).result = .error (.misplaced ⟨some t, expected⟩)) :
    t ∈ (scan source).filterMap Item.token? := by
  have haccounts : Accounts (sourceFeed source) (pullCount registry (sourceFeed source))
      (ofSource registry source).result := accounts_ofFeed registry (sourceFeed source)
  rw [h] at haccounts
  have hanswer := haccounts.1
  rw [answer_sourceFeed, Scanner.next_after] at hanswer
  exact List.mem_filterMap.mpr ⟨.token t, List.mem_of_getElem? hanswer, rfl⟩

theorem Formula.singleLine_message_of_read {source : String} {fault : ReadingError}
    (h : read source = .error fault) : SingleLine fault.message.toList := by
  rcases fault with fault | ⟨found, expected⟩
  · exact fault.singleLine_message
  · refine SyntaxError.singleLine_message ?_
    rintro t rfl
    exact singleLine_of_mem_scan (Reading.mem_scan_of_misplaced h)

namespace CommandLine

def readable (source : String) : Bool :=
  (Formula.read source).isOk

/-- What is printed for a source: the rendering on a line of its own and, if asked for, the tree. -/
def printed (tree : Bool) (source : String) : String :=
  match Formula.read source with
  | .ok f => f.render ++ "\n" ++ if tree then f.treePrint ++ "\n" else ""
  | .error _ => ""

/-- The line of the log that tells what came of reading a source. -/
def answerLine (source : String) : String :=
  match Formula.read source with
  | .ok f =>
      "INFO proplogic: parsed formula depth=" ++ toString f.depth ++ " variables=["
        ++ ", ".intercalate (f.names.map Text.quoteString) ++ "]"
  | .error fault => "ERROR proplogic: " ++ Text.quoteString source ++ ": " ++ fault.message

/-- Whether the log has this line about a source. An error is shown unless nothing is, information at
the level named for it and at the two finer ones. -/
def logged (level : LogLevel) (source : String) : Bool :=
  if readable source then level ∈ [.info, .debug, .trace] else level ≠ .off

def startsWith (start line : String) : Bool :=
  start.toList.isPrefixOf line.toList

def isAnswer (line : String) : Bool :=
  startsWith "INFO " line || startsWith "ERROR " line

/-- The other lines of the log, which only the two finest levels have. -/
def IsDetail (level : LogLevel) (line : String) : Prop :=
  startsWith "DEBUG " line = true ∧ (level = .debug ∨ level = .trace) ∨
    startsWith "TRACE " line = true ∧ level = .trace

theorem startsWith_line (entry : LogEntry) (severity : Severity) :
    startsWith (severity.label ++ " ") entry.line = decide (entry.severity = severity) := by
  have hline : entry.line.toList =
      (entry.severity.label ++ " ").toList ++ (entry.origin ++ ": " ++ entry.text).toList := by
    simp only [← String.toList_append, LogEntry.line, String.append_assoc]
  rw [startsWith, hline]
  cases entry.severity <;> cases severity <;> rfl

theorem isAnswer_line (entry : LogEntry) :
    isAnswer entry.line = (entry.severity = .info || entry.severity = .error) := by
  rw [isAnswer]
  exact congrArg₂ _ (startsWith_line entry .info) (startsWith_line entry .error)

theorem shows_debug_iff {level : LogLevel} :
    level.shows .debug = true ↔ level = .debug ∨ level = .trace := by
  cases level <;> decide

theorem shows_trace_iff {level : LogLevel} : level.shows .trace = true ↔ level = .trace := by
  cases level <;> decide

theorem isAnswer_or_isDetail {level : LogLevel} {entry : LogEntry}
    (h : level.shows entry.severity = true) :
    isAnswer entry.line = true ∨ IsDetail level entry.line := by
  have hstart : startsWith (entry.severity.label ++ " ") entry.line = true := by
    rw [startsWith_line]
    exact decide_eq_true rfl
  rw [isAnswer_line]
  rcases hseverity : entry.severity
  case error => exact .inl rfl
  case info => exact .inl rfl
  case debug =>
    rw [hseverity] at h hstart
    exact .inr (.inl ⟨hstart, shows_debug_iff.mp h⟩)
  case trace =>
    rw [hseverity] at h hstart
    exact .inr (.inr ⟨hstart, shows_trace_iff.mp h⟩)

theorem singleLine_line (severity : Severity) {origin text : String}
    (horigin : SingleLine origin.toList) (htext : SingleLine text.toList) :
    SingleLine (LogEntry.line ⟨severity, origin, text⟩).toList := by
  have hlabel : SingleLine (severity.label ++ " ").toList := by cases severity <;> decide
  exact Text.singleLine_toList_append (Text.singleLine_toList_append
    (Text.singleLine_toList_append hlabel horigin) (by decide)) htext

theorem singleLine_ofEvent (event : ReadingEvent) :
    SingleLine (LogEntry.ofEvent event).line.toList := by
  cases event with
  | scanned t =>
      have hkind : SingleLine ("scanned token" ++ " kind=" ++ t.kind.label).toList :=
        Text.singleLine_toList_append (by decide) t.kind.singleLine_label
      have hlexeme := Text.singleLine_toList_append (Text.singleLine_toList_append hkind
        (t := " lexeme=") (by decide)) (Text.singleLine_quoteString t.lexeme)
      exact singleLine_line _ (by decide) (Text.singleLine_toList_append
        (Text.singleLine_toList_append hlexeme (by decide)) (Text.singleLine_toString _))
  | accepted t =>
      have hkind : SingleLine ("accepted token" ++ " kind=" ++ t.kind.label).toList :=
        Text.singleLine_toList_append (by decide) t.kind.singleLine_label
      exact singleLine_line _ (by decide) (Text.singleLine_toList_append
        (Text.singleLine_toList_append hkind (by decide)) (Text.singleLine_toString _))
  | joined c minimum =>
      have hname : SingleLine
          ("built binary formula" ++ " connective=" ++ Text.quoteString c.label).toList :=
        Text.singleLine_toList_append (by decide) (Text.singleLine_quoteString _)
      exact singleLine_line _ (by decide) (Text.singleLine_toList_append
        (Text.singleLine_toList_append hname (by decide)) (Text.singleLine_toString _))

theorem singleLine_parsed (f : Formula) : SingleLine (LogEntry.parsed f).line.toList := by
  have hnames : SingleLine (", ".intercalate (f.names.map Text.quoteString)).toList := by
    refine Text.singleLine_intercalate (by decide) ?_
    intro text htext
    obtain ⟨name, -, rfl⟩ := List.mem_map.mp htext
    exact Text.singleLine_quoteString name
  have hdepth : SingleLine ("parsed formula depth=" ++ toString f.depth).toList :=
    Text.singleLine_toList_append (by decide) (Text.singleLine_toString _)
  exact singleLine_line _ (by decide) (Text.singleLine_toList_append (Text.singleLine_toList_append
    (Text.singleLine_toList_append hdepth (by decide)) hnames) (by decide))

theorem singleLine_failure {source : String} {fault : ReadingError}
    (h : Formula.read source = .error fault) :
    SingleLine (LogEntry.failure source fault).line.toList := by
  have hsource : SingleLine (Text.quoteString source ++ ": ").toList :=
    Text.singleLine_toList_append (Text.singleLine_quoteString source) (by decide)
  exact singleLine_line _ (by decide)
    (Text.singleLine_toList_append hsource (Formula.singleLine_message_of_read h))

theorem ofSource_of_read {source : String} {f : Formula} (tree : Bool)
    (h : Formula.read source = .ok f) :
    Report.ofSource tree source =
      ⟨formulaOutput tree f,
        (Formula.readingEvents source).map LogEntry.ofEvent ++ [.parsed f], false⟩ := by
  rw [Formula.read] at h
  simp only [Report.ofSource, h]
  rfl

theorem ofSource_of_fault {source : String} {fault : ReadingError} (tree : Bool)
    (h : Formula.read source = .error fault) :
    Report.ofSource tree source =
      ⟨"", (Formula.readingEvents source).map LogEntry.ofEvent ++ [.failure source fault],
        true⟩ := by
  rw [Formula.read] at h
  simp only [Report.ofSource, h]
  rfl

theorem line_parsed {source : String} {f : Formula} (h : Formula.read source = .ok f) :
    (LogEntry.parsed f).line = answerLine source := by
  simp only [LogEntry.line, LogEntry.parsed, answerLine, h, ← String.append_assoc]
  rfl

theorem line_failure {source : String} {fault : ReadingError}
    (h : Formula.read source = .error fault) :
    (LogEntry.failure source fault).line = answerLine source := by
  simp only [LogEntry.line, LogEntry.failure, answerLine, h, ← String.append_assoc]
  rfl

/-- The answers among the lines that the level shows. -/
def answersIn (level : LogLevel) (entries : List LogEntry) : List String :=
  (level.log entries).filter isAnswer

theorem answersIn_append (level : LogLevel) (entries entries' : List LogEntry) :
    answersIn level (entries ++ entries') = answersIn level entries ++ answersIn level entries' := by
  rw [answersIn, LogLevel.log_append, List.filter_append, answersIn, answersIn]

theorem answersIn_of_details (level : LogLevel) {entries : List LogEntry}
    (h : ∀ entry ∈ entries, isAnswer entry.line = false) : answersIn level entries = [] := by
  apply List.filter_eq_nil_iff.mpr
  intro line hline
  obtain ⟨entry, hentry, rfl⟩ := List.mem_map.mp hline
  rw [h entry (List.mem_of_mem_filter hentry)]
  exact Bool.false_ne_true

theorem answersIn_events (level : LogLevel) (events : List ReadingEvent) :
    answersIn level (events.map LogEntry.ofEvent) = [] := by
  apply answersIn_of_details
  intro entry hentry
  obtain ⟨event, -, rfl⟩ := List.mem_map.mp hentry
  rw [isAnswer_line]
  cases event <;> rfl

theorem answersIn_singleton (level : LogLevel) {entry : LogEntry}
    (h : isAnswer entry.line = true) :
    answersIn level [entry] = if level.shows entry.severity then [entry.line] else [] := by
  rw [answersIn, LogLevel.log, List.filter_singleton]
  cases level.shows entry.severity
  · rfl
  · exact List.filter_cons_of_pos h

theorem isAnswer_of_info_or_error {entry : LogEntry}
    (h : entry.severity = .info ∨ entry.severity = .error) : isAnswer entry.line = true := by
  rw [isAnswer_line]
  rcases h with h | h <;> rw [h] <;> rfl

/-- The report prints what is printed for each of the sources, and its log has at most one answer to
each of them, in their order. -/
structure Report.Covers (tree : Bool) (sources : List String) (r : Report) : Prop where
  output : r.output = String.join (sources.map (printed tree))
  failed : r.failed = !sources.all readable
  answers : ∀ level, answersIn level r.entries = (sources.filter (logged level)).map answerLine
  single : ∀ entry ∈ r.entries, SingleLine entry.line.toList

namespace Report

variable {tree : Bool} {sources sources' : List String} {r s : Report}

theorem covers_empty (tree : Bool) : empty.Covers tree [] :=
  ⟨rfl, rfl, fun _ => rfl, List.forall_mem_nil _⟩

theorem covers_connectivesReady (tree : Bool) :
    Covers tree [] ⟨"", [.connectivesReady], false⟩ where
  output := rfl
  failed := rfl
  answers level := by
    rw [answersIn_of_details level (List.forall_mem_singleton.mpr (isAnswer_line _))]
    rfl
  single := List.forall_mem_singleton.mpr (by decide +kernel)

theorem Covers.append (h : r.Covers tree sources) (h' : s.Covers tree sources') :
    (r.append s).Covers tree (sources ++ sources') where
  output := by rw [Report.append, h.output, h'.output, List.map_append, String.join_append]
  failed := by rw [Report.append, h.failed, h'.failed, List.all_append, Bool.not_and]
  answers level := by
    rw [Report.append, answersIn_append, h.answers, h'.answers, List.filter_append, List.map_append]
  single := List.forall_mem_append.mpr ⟨h.single, h'.single⟩

theorem covers_of_entry {source : String} {entry : LogEntry} {output : String} {failed : Bool}
    (houtput : output = printed tree source) (hfailed : failed = !readable source)
    (hline : entry.line = answerLine source)
    (hseverity : entry.severity = if readable source then .info else .error)
    (hsingle : SingleLine entry.line.toList) :
    Covers tree [source]
      ⟨output, (Formula.readingEvents source).map LogEntry.ofEvent ++ [entry], failed⟩ where
  output := by rw [houtput]; simp
  failed := by rw [hfailed]; simp
  answers level := by
    have hanswer : isAnswer entry.line = true := by
      apply isAnswer_of_info_or_error
      rw [hseverity]
      cases readable source
      · exact .inr rfl
      · exact .inl rfl
    rw [answersIn_append, answersIn_events, List.nil_append, answersIn_singleton level hanswer,
      List.filter_singleton, hline, hseverity, logged]
    cases readable source <;> cases level <;> rfl
  single := by
    refine List.forall_mem_append.mpr ⟨?_, List.forall_mem_singleton.mpr hsingle⟩
    intro other hother
    obtain ⟨event, -, rfl⟩ := List.mem_map.mp hother
    exact singleLine_ofEvent event

theorem covers_ofSource (tree : Bool) (source : String) :
    (ofSource tree source).Covers tree [source] := by
  rcases hread : Formula.read source with fault | f
  · have hreadable : readable source = false := by rw [readable, hread]; rfl
    rw [ofSource_of_fault tree hread]
    refine covers_of_entry ?_ ?_ (line_failure hread) ?_ (singleLine_failure hread)
    · rw [printed, hread]
    · rw [hreadable]; rfl
    · rw [hreadable]; rfl
  · have hreadable : readable source = true := by rw [readable, hread]; rfl
    rw [ofSource_of_read tree hread]
    refine covers_of_entry ?_ ?_ (line_parsed hread) ?_ (singleLine_parsed f)
    · rw [printed, hread, formulaOutput]
      cases tree <;> simp [String.append_assoc]
    · rw [hreadable]; rfl
    · rw [hreadable]; rfl

theorem covers_ofEach (tree : Bool) (sources : List String) :
    (ofEach tree sources).Covers tree sources := by
  induction sources with
  | nil => exact covers_empty tree
  | cons source rest ih => exact (covers_ofSource tree source).append ih

theorem covers_ofSources (tree : Bool) (sources : List String) :
    (ofSources tree sources).Covers tree sources := by
  cases sources with
  | nil => exact covers_empty tree
  | cons source rest => exact (covers_connectivesReady tree).append (covers_ofEach tree _)

end Report

variable {tree : Bool} {arguments sources : List String}

/-- Let the arguments hold formulas. What is printed is, in their order, the rendering of each formula
that can be read and nothing for the others; the program fails if and only if one of them cannot be
read. In their order too, the log has one error for each formula that cannot be read, unless nothing
is logged, and one line of information for each other formula, where information is shown. Only the
two levels finer than that add details of their own. Each line stays a single line whatever is in
the formulas, and the level bears on nothing but the log. -/
theorem respond_accounts_for_each (level : LogLevel)
    (harguments : Arguments.ofList arguments = .ok ⟨tree, sources⟩) (hne : sources ≠ [])
    (input : List Byte) :
    let answer := respond level arguments input
    answer.output = String.join (sources.map (printed tree)) ∧
      answer.exitCode = (if sources.all readable then 0 else 1) ∧
      answer.log.filter isAnswer = (sources.filter (logged level)).map answerLine ∧
      (∀ line ∈ answer.log,
        SingleLine line.toList ∧ (isAnswer line = true ∨ IsDetail level line)) ∧
      ∀ other, (respond other arguments input).output = answer.output ∧
        (respond other arguments input).exitCode = answer.exitCode := by
  intro answer
  have hcovers := Report.covers_ofSources tree sources
  have hanswer : answer = .answered level (Report.ofSources tree sources) :=
    respond_of_sources harguments hne input
  rw [hanswer]
  refine ⟨hcovers.output, ?_, hcovers.answers level, ?_, ?_⟩
  · rw [Response.exitCode, hcovers.failed]
    cases sources.all readable <;> rfl
  · intro line hline
    obtain ⟨entry, hentry, rfl⟩ := List.mem_map.mp hline
    obtain ⟨hmem, hshown⟩ := List.mem_filter.mp hentry
    exact ⟨hcovers.single entry hmem, isAnswer_or_isDetail hshown⟩
  · intro other
    rw [respond_of_sources harguments hne input]
    exact ⟨rfl, rfl⟩

theorem respond_accounts_for_broken_lines :
    let arguments := ["~p\n", "-t", "p\nq", "--", "-\n"]
    let sources := ["~p\n", "p\nq", "-\n"]
    (Arguments.ofList arguments = .ok ⟨true, sources⟩ ∧ sources ≠ []) ∧
      let answer := respond .trace arguments []
      answer.output =
          "¬p\nUnary(\n    UnaryFormula \x7b\n        connective: Negation,\n" ++
            "        operand: Variable(\n            Variable \x7b\n" ++
            "                name: \"p\",\n            \x7d,\n        ),\n    \x7d,\n)\n" ∧
        answer.exitCode = 1 ∧
        answer.log.filter isAnswer =
          ["INFO proplogic: parsed formula depth=2 variables=[\"p\"]",
            "ERROR proplogic: \"p\\nq\": Unexpected token \"q\" at position 2",
            "ERROR proplogic: \"-\\n\": Unknown character '-' at position 0"] ∧
        answer.log.take 5 =
          ["DEBUG proplogic::connectives: initialized connective registry count=4",
            "TRACE proplogic::scanner: scanned token kind=NOT lexeme=\"~\" position=0",
            "TRACE proplogic::scanner: scanned token kind=VARIABLE lexeme=\"p\" position=1",
            "TRACE proplogic::parser: accepted token kind=VARIABLE position=1",
            "INFO proplogic: parsed formula depth=2 variables=[\"p\"]"] ∧
        (∀ line ∈ answer.log, SingleLine line.toList) ∧
        (respond .off arguments []).output = answer.output ∧
        (respond .off arguments []).log = [] ∧
        (respond .off arguments []).exitCode = answer.exitCode := by
  intro arguments sources
  have harguments : Arguments.ofList arguments = .ok ⟨true, sources⟩ := by decide +kernel
  have hne : sources ≠ [] := List.cons_ne_nil _ _
  obtain ⟨houtput, hexit, hanswers, hlines, hlevels⟩ :=
    respond_accounts_for_each .trace harguments hne []
  refine ⟨⟨harguments, hne⟩, houtput.trans ?_, hexit.trans ?_, hanswers.trans ?_, ?_,
    fun line hline => (hlines line hline).1, (hlevels .off).1, ?_, (hlevels .off).2⟩
  · decide +kernel
  · decide +kernel
  · decide +kernel
  · decide +kernel
  · decide +kernel

end CommandLine

end Propositional
