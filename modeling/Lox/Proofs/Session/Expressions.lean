import Lox.Proofs.Cli.Report
import Lox.Proofs.Session.Commands

set_option autoImplicit false

namespace Lox

namespace Lexical

def BlankOrSlash (text : List Char) : Prop :=
  ∀ c ∈ (text.dropWhile Text.isBlank).head?, c = '/'

theorem Opening.eq_blank {a : Opening} {c : Char} (blank : Text.isBlank c = true)
    (opens : a.has c = true) : a = .blank := by
  obtain ⟨range, listed, within⟩ := List.any_eq_true.1 blank
  simp only [Bool.and_eq_true, decide_eq_true_eq] at within
  have codes : ∀ range ∈ Text.blankRanges, ∀ k < range.2 + 1 - range.1, ∀ a ∈ Opening.all,
      a.has (Char.ofNat (range.1 + k)) = true → a = .blank := by
    decide +kernel
  have each := codes range listed (c.toNat - range.1) (by omega) a (by cases a <;> decide)
  rw [Nat.add_sub_cancel' within.1, Char.ofNat_toNat] at each
  exact each opens

theorem isBlank_of_mem_blanks {c : Char} (mem : c ∈ blanks) : Text.isBlank c = true := by
  simp only [blanks, List.mem_cons, List.not_mem_nil, or_false] at mem
  rcases mem with rfl | rfl | rfl | rfl <;> decide

theorem kind_of_slash {text : List Char} {kind : Kind} (mem : (text, kind) ∈ fixedLexemes)
    (slash : text.head? = some '/') : kind = .slash := by
  have only : ∀ entry ∈ fixedLexemes, entry.1.head? = some '/' → entry.2 = .slash := by decide
  exact only _ mem slash

theorem Scans.first_of_blankOrSlash {before ahead : List Char}
    {result : Except ScanError (List Token)} (scans : Scans before ahead result)
    (single : '\n' ∉ ahead) (idle : BlankOrSlash ahead) : ∀ tokens, result = .ok tokens →
      ∃ first rest, tokens = first :: rest ∧ (first.kind = .eof ∨ first.kind = .slash) := by
  induction scans with
  | finished before =>
    rintro _ ⟨⟩
    exact ⟨_, [], rfl, .inl rfl⟩
  | @skipped before text rest rule result longest skips later ih =>
    have inLine : '\n' ∉ rest := fun mem => single (List.mem_append_right text mem)
    rcases skips with rfl | rfl
    · -- What the scanner skips as blank is blank for the session as well.
      obtain ⟨c, mem, rfl⟩ := longest.fits.exists_blank
      have blank := isBlank_of_mem_blanks mem
      exact ih inLine (by simpa [BlankOrSlash, blank] using idle)
    · obtain rfl := rest_eq_nil_of_comment longest single
      exact ih inLine (by simp [BlankOrSlash])
  | @emitted before text rest rule kind payload result longest emits later ih =>
    intro tokens same
    obtain ⟨first, more, rfl, opens⟩ := longest.fits.opens
    have solid : Text.isBlank first = false := by
      by_contra blank
      exact emits.opening_ne_blank (Opening.eq_blank (by simpa using blank) opens)
    obtain rfl : first = '/' := by simpa [BlankOrSlash, solid] using idle
    have mark : rule.opening = .mark := Opening.eq_of_has opens (by decide)
    cases result with
    | error e => cases same
    | ok others =>
      cases same
      refine ⟨_, others, rfl, .inr ?_⟩
      have fits := longest.fits
      generalize text : '/' :: more = text at emits fits
      cases emits with
      | fixed =>
        cases fits with
        | fixed mem => exact kind_of_slash mem (by simp [← text])
      | string | number | keyword | identifier => cases mark
  | stuck nothing => nofun

end Lexical

theorem parse_of_first {first : Token} (idle : first.kind = .eof ∨ first.kind = .slash)
    (rest : List Token) : ∃ error, parse (first :: rest) = .error error := by
  have stop : Automaton.State.initial.shift? first = none := by
    rcases idle with kind | kind <;>
      simp [Automaton.State.initial, Automaton.State.shift?, kind, Kind.isLiteral, Kind.isUnary]
  rw [parse_eq_settle, Automaton.State.settle_of_stop]
  · exact ⟨_, rfl⟩
  · rintro _ ⟨⟩
    exact stop

theorem readSource_of_blankOrSlash {text : List Char} (single : '\n' ∉ text)
    (idle : Lexical.BlankOrSlash text) (method : Method) :
    ∃ error, readSource method (String.ofList text) = .error error := by
  have scans := Lexical.scans_scan (String.ofList text)
  rw [String.toList_ofList] at scans
  cases scanned : scan (String.ofList text) with
  | error error => exact ⟨.lexical error, by simp only [readSource, scanned]⟩
  | ok tokens =>
    obtain ⟨first, rest, rfl, kind⟩ := scans.first_of_blankOrSlash single idle tokens scanned
    obtain ⟨error, failed⟩ := parse_of_first kind rest
    refine ⟨.grammatical error, ?_⟩
    rw [readSource_of_scan scanned, failed]
    rfl

namespace Session

theorem blankOrSlash_of_trim {text : List Char}
    (idle : Text.trim text = [] ∨ (Text.trim text).head? = some '/') :
    Lexical.BlankOrSlash text := by
  have first : (Text.trim text).head? = (text.dropWhile Text.isBlank).head? :=
    Text.head?_strip Text.isBlank text
  rw [Lexical.BlankOrSlash, ← first]
  rcases idle with blank | slash
  · simp [blank]
  · simp [slash]

def State.shown (s : State) (source : String) : Transcript :=
  match s.showTree, readSource .descent source with
  | true, .ok e => Transcript.outLine (e.indented Expr.defaultIndent)
  | _, _ => Transcript.empty

theorem State.evaluateLine_of_reports {s : State} {threshold : Nat}
    (silent : Settings.Silent { threshold, traceback := s.traceback }) {text : List Char}
    {outcome : Cli.Outcome} (reports : Cli.Reports .descent (String.ofList text) false outcome) :
    s.evaluateLine threshold text =
      ⟨s, s.shown (String.ofList text) ++ outcome.output, false⟩ := by
  obtain ⟨showTree, traceback⟩ := s
  cases reports with
  | unread failed =>
    simp only [evaluateLine, evaluate, silent.read, silent.report, failed, shown]
  | valued read done =>
    simp only [evaluateLine, evaluate, silent.read, read, Settings.printValue_of_ok done, shown]
    cases showTree <;> simp
  | mistyped read failed =>
    simp only [evaluateLine, evaluate, silent.read, read, silent.printValue_of_typing failed, shown]
    cases showTree <;> simp

theorem submit_matches_run {line : String} (single : '\n' ∉ line.toList) {s : State}
    (plain : s.traceback = false) :
    let text := visible line.toList
    let effect := s.submit (Log.thresholdOf none none) line
    (Text.trim text = [] ∨ (Text.trim text).head? = some '/' →
      (effect = if Text.trim text = [] then ⟨s, Transcript.empty, false⟩
        else s.performLine (Text.trim text)) ∧
      ∀ method, ∃ error, readSource method (String.ofList text) = .error error) ∧
    (¬ (Text.trim text = [] ∨ (Text.trim text).head? = some '/') →
      ∀ (world : Cli.World) (operand : Option String),
        world.settings.threshold = Log.thresholdOf none none → world.settings.traceback = false →
        (∀ argument ∈ operand, Cli.IsOperand argument) →
        Cli.Leads world (String.ofList text) operand →
        ∃ outcome, Cli.run world operand.toList = .ok outcome ∧
          (∀ method, Cli.Reports method (String.ofList text) false outcome) ∧
          effect = ⟨s, s.shown (String.ofList text) ++ outcome.output, false⟩) := by
  intro text effect
  have inLine : '\n' ∉ text := fun mem => single (List.mem_of_mem_filter mem)
  constructor
  · intro idle
    refine ⟨?_, readSource_of_blankOrSlash inLine (blankOrSlash_of_trim idle)⟩
    split
    · next blank => exact s.submit_of_blank _ blank
    · next some => exact s.submit_of_slash _ (idle.resolve_left some)
  · intro busy world operand unset off ordinary leads
    obtain ⟨some, other⟩ := not_or.1 busy
    have quiet : Log.debug < Log.thresholdOf none none := by decide
    have silent : Settings.Silent
        { threshold := Log.thresholdOf none none, traceback := s.traceback } := ⟨quiet, plain⟩
    have outside : world.settings.Silent := ⟨unset ▸ quiet, off⟩
    have reports := Cli.reports_runText outside ⟨false, false, operand⟩ (String.ofList text)
    have ran := (Cli.run_of_asks (Cli.asks_operand ordinary)).trans (Cli.runOptions_of_leads leads)
    refine ⟨_, ran, reports, ?_⟩
    rw [show effect = _ from s.submit_of_other _ some other]
    exact State.evaluateLine_of_reports silent (reports .descent)

theorem submit_matches_run_sum :
    '\n' ∉ "1 + 2".toList ∧ (State.mk true false).traceback = false ∧
      ∃ outcome, Cli.run { Cli.World.bare with input := "1 + 2" } [] = .ok outcome ∧
        (∀ method, Cli.Reports method "1 + 2" false outcome) ∧
        (State.mk true false).submit (Log.thresholdOf none none) "1 + 2" =
          ⟨⟨true, false⟩, (State.mk true false).shown "1 + 2" ++ outcome.output, false⟩ := by
  have single : '\n' ∉ "1 + 2".toList := by decide
  have seen : String.ofList (visible "1 + 2".toList) = "1 + 2" := by decide
  have busy : ¬ (Text.trim (visible "1 + 2".toList) = [] ∨
      (Text.trim (visible "1 + 2".toList)).head? = some '/') := by decide
  have leads : Cli.Leads { Cli.World.bare with input := "1 + 2" } "1 + 2" none :=
    .piped (by decide) rfl
  rw [← seen] at leads
  have runs := (@submit_matches_run "1 + 2" single (State.mk true false) rfl).2 busy _ none rfl rfl
    nofun leads
  rw [seen] at runs
  exact ⟨single, rfl, runs⟩

end Session

end Lox
