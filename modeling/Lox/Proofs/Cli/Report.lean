import Lox.Cli.Stages
import Lox.Proofs.Cli.Arguments
import Lox.Proofs.Cli.Lookup
import Lox.Proofs.Display
import Lox.Proofs.Silence

set_option autoImplicit false

namespace Lox

theorem Text.quote_eq {text : String}
    (clean : ∀ c ∈ text.toList, c ≠ '"' ∧ c ≠ '\\' ∧ isControl c = false) :
    quote text = "\"" ++ text ++ "\"" := by
  apply String.toList_injective
  simp [escapeAll_eq clean]

theorem exists_tree_of_runSource {method : Method} {source : String} {value : Value}
    (ran : runSource method source = .ok value) :
    ∃ e, readSource method source = .ok e ∧ e.evaluate = .ok value := by
  rcases runSource_cases method source with
    ⟨error, -, failed⟩ | ⟨e, found, read, done, succeeded⟩ | ⟨e, fault, -, -, failed⟩
  · rw [failed] at ran
    cases ran
  · rw [succeeded] at ran
    cases ran
    exact ⟨e, read, done⟩
  · rw [failed] at ran
    cases ran

theorem Session.evaluate_of_runSource {settings : Settings} (silent : settings.Silent)
    {method : Method} {source : String} {value : Value}
    (ran : runSource method source = .ok value) :
    evaluate settings false source =
      (.ok (.ok (some value)), Transcript.outLine value.display) := by
  obtain ⟨e, read, done⟩ := exists_tree_of_runSource ran
  rw [readSource_eq_descent] at read
  simp [evaluate, silent.read, read, Settings.printValue_of_ok done]

namespace Cli

inductive Reports (method : Method) (source : String) : Bool → Outcome → Prop where
  | unread {tree : Bool} {error : SyntaxError}
      (failed : readSource method source = .error error) :
      Reports method source tree ⟨dataFault, Transcript.errLine error.diagnostic.text⟩
  -- Whether the tree has a value is not asked.
  | drawn {e : Expr} (read : readSource method source = .ok e) :
      Reports method source true
        ⟨success, Transcript.outLine (e.indented Expr.defaultIndent)⟩
  | valued {e : Expr} {value : Value} (read : readSource method source = .ok e)
      (done : e.evaluate = .ok value) :
      Reports method source false ⟨success, Transcript.outLine value.display⟩
  | mistyped {e : Expr} {error : TypeError} (read : readSource method source = .ok e)
      (failed : e.evaluate = .error (.typing error)) :
      Reports method source false
        ⟨softwareFault, Transcript.errLine error.diagnostic.text⟩

inductive Leads (world : World) : String → Option String → Prop where
  | literal {source : String} (noDash : source ≠ "-") (missing : world.find source = .missing) :
      Leads world source (some source)
  | file {path content : String} (noDash : path ≠ "-")
      (written : world.find path = Entry.ofBytes content.toUTF8) :
      Leads world (unified content) (some path)
  | piped (filled : world.input ≠ "") (noTerminal : world.prompted = none) :
      Leads world world.input none
  | dash (filled : world.input ≠ "") : Leads world world.input (some "-")

section

variable {world : World} {source argument : String} {options : Options}

theorem World.source_argument (noDash : argument ≠ "-") :
    world.source (some argument) =
      match world.find argument with
      | .missing => .ok (.ok argument)
      | .unreadable reason => .ok (.error (.unreadable argument reason))
      | .text content => .ok (.ok content)
      | .refused => .error ⟨argument⟩ := by
  have kept : (some argument).filter (· ≠ "-") = some argument := by simp [Option.filter, noDash]
  cases found : world.find argument <;> simp only [World.source, kept, found]

theorem World.source_of_leads {operand : Option String} (leads : Leads world source operand) :
    world.source operand = .ok (.ok source) := by
  cases leads with
  | literal noDash missing => rw [World.source_argument noDash, missing]
  | file noDash written => rw [World.source_argument noDash, written, Entry.ofBytes_toUTF8]
  | piped filled noTerminal => simp [World.source, filled]
  | dash filled => simp [World.source, Option.filter, filled]

theorem runOptions_of_leads (leads : Leads world source options.operand) :
    runOptions world options = .ok (runText world.settings options source) := by
  have found := World.source_of_leads leads
  unfold runOptions
  split
  · next answers operand terminal =>
    rw [operand] at leads
    cases leads with
    | piped filled noTerminal =>
      rw [noTerminal] at terminal
      cases terminal
  · rw [found]

theorem runOptions_of_refused (operand : options.operand = some argument)
    (noDash : argument ≠ "-") (long : world.find argument = .refused) :
    runOptions world options = .error ⟨argument⟩ := by
  simp only [runOptions, operand, World.source_argument noDash, long]

end

section

variable {settings : Settings} (silent : settings.Silent) (options : Options) (source : String)

include silent

theorem runText_eq_descent :
    runText settings options source = runText settings ⟨false, options.tree, none⟩ source := by
  simp only [runText, silent.read, readSource_eq_descent _ source]

theorem reports_runText (method : Method) :
    Reports method source options.tree (runText settings options source) := by
  obtain ⟨automaton, tree, operand⟩ := options
  simp only [runText, silent.read, readSource_eq_descent (if automaton then _ else _) source,
    ← readSource_eq_descent method source]
  cases read : readSource method source with
  | error error =>
    simp only [silent.report, Transcript.empty_append]
    exact .unread read
  | ok e =>
    cases tree with
    | true => exact .drawn read
    | false =>
      rcases Expr.answers_evaluate (wellFormed_of_readSource read) with
        ⟨value, done⟩ | ⟨error, failed⟩
      · simp only [Settings.printValue_of_ok done]
        exact .valued read done
      · simp only [silent.printValue_of_typing failed]
        exact .mistyped read failed

end

/-- The environment asks for nothing; only the name that notes would stand under is open. -/
def World.Plain (world : World) : Prop :=
  world.settings = { settingsOf none none with name := world.settings.name }

theorem World.Plain.silent {world : World} (plain : world.Plain) : world.settings.Silent := by
  have quiet : Log.debug < (settingsOf none none).threshold := by decide
  rw [plain]
  exact ⟨quiet, rfl⟩

theorem run_reports {world : World} (plain : world.Plain) (source : String) (tree : Bool) :
    ∃ outcome, (∀ method, Reports method source tree outcome) ∧
      (∀ arguments options, Asks arguments options → options.tree = tree →
        (Leads world source options.operand → run world arguments = .ok outcome) ∧
        (options.operand = some source → source ≠ "-" → world.find source = .refused →
          run world arguments = .error ⟨source⟩)) ∧
      ∀ method value, runSource method source = .ok value →
        (∀ content, unified content = source →
          printFile method content = (.ok value, Transcript.outLine value.display)) ∧
        Session.evaluate world.settings false source =
          (.ok (.ok (some value)), Transcript.outLine value.display) := by
  have silent := plain.silent
  refine ⟨runText world.settings ⟨false, tree, none⟩ source,
    reports_runText silent ⟨false, tree, none⟩ source, ?_, ?_⟩
  · rintro arguments options asks rfl
    rw [run_of_asks asks, ← runText_eq_descent silent]
    exact ⟨runOptions_of_leads, runOptions_of_refused⟩
  · intro method value ran
    refine ⟨?_, Session.evaluate_of_runSource silent ran⟩
    rintro content rfl
    simp only [printFile, ran]

def World.bare : World where
  settings := settingsOf none none
  find := (Files.ofWritten [] []).find
  input := ""
  prompted := none

theorem run_reports_bare :
    World.bare.Plain ∧
      ∃ outcome, (∀ method, Reports method "nil" false outcome) ∧
        run World.bare ["--lark", "nil"] = .ok outcome := by
  obtain ⟨outcome, reports, runs, -⟩ := @run_reports World.bare rfl "nil" false
  have asks : Asks ["--lark", "nil"] ⟨true, false, some "nil"⟩ :=
    ⟨by decide, by decide, by decide, by simp [IsOperand]⟩
  have leads : Leads World.bare "nil" (some "nil") := .literal (by decide) (by decide)
  exact ⟨rfl, outcome, reports, (runs _ _ asks rfl).1 leads⟩

section

variable {world : World} {files : Files} (found : world.find = files.find)

include found

theorem run_of_long {literal : String} (ordinary : IsOperand literal)
    (single : '/' ∉ literal.toList) (noNul : '\x00' ∉ literal.toList)
    (long : WrittenPath.nameLimit < literal.utf8ByteSize) :
    run world [literal] = .error ⟨literal⟩ := by
  have noDash : literal ≠ "-" := by
    rintro rfl
    exact absurd long (by decide)
  have refused : world.find literal = .refused := by
    rw [found]
    exact (files.find_eq_refused_iff single).2 ⟨noNul, long⟩
  exact (run_of_asks (asks_single ordinary)).trans (runOptions_of_refused rfl noDash refused)

theorem run_display_of_long {text : String} (writable : (Value.string text).Writable)
    (single : '/' ∉ text.toList) (long : WrittenPath.nameLimit < text.utf8ByteSize + 2) :
    run world [(Value.string text).display] = .error ⟨(Value.string text).display⟩ := by
  have shown : (Value.string text).display = "\"" ++ text ++ "\"" := Text.quote_eq writable
  have letters : (Value.string text).display.toList = '"' :: text.toList ++ ['"'] := by
    simp [shown]
  have noNul : '\x00' ∉ text.toList := fun mem => by
    have control := (writable _ mem).2.2
    cases control
  have ordinary : IsOperand (Value.string text).display := by
    constructor
    · intro help
      have first := congrArg (·.toList.head?) help
      simp [letters] at first
    · simp [letters]
  refine run_of_long found ordinary (by simp [letters, single]) (by simp [letters, noNul]) ?_
  have quotes : "\"".utf8ByteSize = 1 := by decide
  simp only [shown, String.utf8ByteSize_append]
  omega

end

theorem run_display_replicate :
    (∀ method, runSource method (Value.string (String.ofList (List.replicate 254 'a'))).display =
        .ok (.string (String.ofList (List.replicate 254 'a')))) ∧
      run World.bare [(Value.string (String.ofList (List.replicate 254 'a'))).display] =
        .error ⟨(Value.string (String.ofList (List.replicate 254 'a'))).display⟩ := by
  have writable : (Value.string (String.ofList (List.replicate 254 'a'))).Writable := by
    intro c mem
    rw [String.toList_ofList] at mem
    obtain rfl := List.eq_of_mem_replicate mem
    decide
  have single : '/' ∉ (String.ofList (List.replicate 254 'a')).toList := by
    intro mem
    rw [String.toList_ofList] at mem
    cases List.eq_of_mem_replicate mem
  have long : 254 ≤ (String.ofList (List.replicate 254 'a')).utf8ByteSize := by decide +kernel
  refine ⟨runSource_string writable, run_display_of_long rfl writable single ?_⟩
  rw [WrittenPath.nameLimit]
  omega

end Cli

end Lox
