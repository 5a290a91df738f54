import Lox.Proofs.Evaluation.Safety
import Lox.Proofs.Evaluation.StaticKind
import Lox.Proofs.Lexical.Layout
import Lox.Proofs.Lexical.Places

set_option autoImplicit false

namespace Lox

open Grammar

theorem Token.Denotes.numeric {token : Token} (denotes : token.Denotes) :
    token.kind ∈ literals ∧ (token.kind = .number → token.payload.isNumeric = true) := by
  unfold Token.Denotes at denotes
  split at denotes
  · next number =>
    obtain ⟨value, payload⟩ := denotes
    exact ⟨by simp [number, literals], fun _ => by simp [payload, Payload.isNumeric]⟩
  · next kind => exact ⟨by simp [kind, literals], by simp [kind]⟩
  · next kind => exact ⟨by simp [kind, literals], by simp [kind]⟩
  · next kind => exact ⟨by simp [kind, literals], by simp [kind]⟩
  · next kind => exact ⟨by simp [kind, literals], by simp [kind]⟩
  · exact denotes.elim

theorem Expr.WellFormed.proper {e : Expr} (wellFormed : e.WellFormed) : e.Proper := by
  induction e with
  | literal token => exact Token.Denotes.numeric wellFormed
  | grouping inner ih => exact ih wellFormed
  | unary operator operand ih => exact ⟨wellFormed.1, ih wellFormed.2⟩
  | binary left operator right ihLeft ihRight =>
    exact ⟨wellFormed.1, ihLeft wellFormed.2.1, ihRight wellFormed.2.2⟩
  | stray text => exact wellFormed.elim

theorem Token.eq_of_judge {operator first : Token} {kind : Option ValueKind}
    (fault : operator.judge kind = .error first) : first = operator := by
  cases kind with
  | none => exact (Except.error.inj fault).symm
  | some kind => cases fault

theorem isOperator_of_unary {kind : Kind} (begins : kind ∈ unaryOperators) :
    kind.isOperator = true := by
  simp [Kind.isOperator, (isUnary_iff_mem kind).2 begins]

theorem isOperator_of_binary {kind : Kind} {level : Level} (joins : kind ∈ binaryOperators level) :
    kind.isOperator = true := by
  simp [Kind.isOperator, (ofKind?_eq_some_iff level kind).2 joins]

theorem Grammar.Derivation.mem_of_fault {symbol : Symbol} (d : Derivation symbol) :
    ∀ operator, d.tree.staticKind = .error operator →
      operator ∈ d.tokens ∧ operator.kind.isOperator = true := by
  have all : ∀ token ∈ d.tokens, token ∈ d.tokens := fun token mem => mem
  refine d.tree_induction (fun e => ∀ operator,
    e.staticKind = .error operator → operator ∈ d.tokens ∧ operator.kind.isOperator = true)
    ?_ ?_ ?_ ?_ all
  · intro token stands mem first fault
    cases fault
  · intro inner below
    exact below
  · intro operator inner begins mem below first fault
    rw [Expr.staticKind] at fault
    cases judged : inner.staticKind with
    | error first' =>
      rw [judged] at fault
      cases fault
      exact below first judged
    | ok kind =>
      rw [judged] at fault
      obtain rfl := Token.eq_of_judge fault
      exact ⟨mem, isOperator_of_unary begins⟩
  · intro level left operator right joins mem belowLeft belowRight first fault
    rw [Expr.staticKind] at fault
    cases judged : left.staticKind with
    | error first' =>
      rw [judged] at fault
      cases fault
      exact belowLeft first judged
    | ok a =>
      cases judged' : right.staticKind with
      | error first' =>
        rw [judged, judged'] at fault
        cases fault
        exact belowRight first judged'
      | ok b =>
        rw [judged, judged'] at fault
        obtain rfl := Token.eq_of_judge fault
        exact ⟨mem, isOperator_of_binary joins⟩

theorem token_of_parse_error {tokens : List Token} {error : ParseError}
    (ends : ∃ token ∈ tokens, token.kind = .eof) (failed : parse tokens = .error error) :
    ∃ token ∈ tokens, error.token = some token := by
  obtain ⟨words, rest, state, c, rfl, fed, -, -, -, ended⟩ := Descent.parseExpr_eq tokens
  cases rest with
  | nil =>
    -- The words taken hold no end token, so something is always left.
    obtain ⟨token, mem, kind⟩ := ends
    rw [List.append_nil] at mem
    exact absurd kind (Automaton.State.kind_ne_eof_of_feed? fed token mem)
  | cons token rest =>
    rw [parse_eq_outcome, ended, Automaton.State.verdict] at failed
    cases finish : state.finish? with
    | some e =>
      rw [finish] at failed
      cases failed
    | none =>
      rw [finish] at failed
      cases failed
      refine ⟨token, by simp, ?_⟩
      rw [List.head?_cons, Automaton.State.rejection]
      split <;> rfl

theorem exists_eof_of_scan {source : String} {tokens : List Token}
    (scanned : scan source = .ok tokens) : ∃ token ∈ tokens, token.kind = .eof := by
  obtain ⟨words, rfl, -⟩ := (Lexical.scans_scan source).lexed tokens scanned
  exact ⟨_, List.mem_append_right words (List.mem_singleton_self _), rfl⟩

section

variable {source : String} {method : Method}

theorem scan_of_lexical {error : ScanError}
    (failed : readSource method source = .error (.lexical error)) : scan source = .error error := by
  cases scanned : scan source with
  | error e =>
    simp only [readSource, scanned] at failed
    cases failed
    rfl
  | ok tokens =>
    rw [readSource_of_scan scanned] at failed
    cases parsed : parse tokens <;> rw [parsed] at failed <;> cases failed

theorem parse_of_grammatical {error : ParseError}
    (failed : readSource method source = .error (.grammatical error)) :
    ∃ tokens, scan source = .ok tokens ∧ parse tokens = .error error := by
  cases scanned : scan source with
  | error e =>
    simp only [readSource, scanned] at failed
    cases failed
  | ok tokens =>
    rw [readSource_of_scan scanned] at failed
    cases parsed : parse tokens with
    | ok e =>
      rw [parsed] at failed
      cases failed
    | error e =>
      rw [parsed] at failed
      cases failed
      exact ⟨tokens, rfl, parsed⟩

theorem readSource_of_reading {error : SyntaxError}
    (failed : runSource method source = .error (.reading error)) :
    readSource method source = .error error := by
  rcases runSource_cases method source with
    ⟨found, read, stopped⟩ | ⟨e, value, -, -, succeeded⟩ | ⟨e, fault, -, -, stopped⟩
  · rw [stopped] at failed
    cases failed
    exact read
  · rw [succeeded] at failed
    cases failed
  · rw [stopped] at failed
    cases failed

theorem evaluate_of_evaluating {fault : Fault}
    (failed : runSource method source = .error (.evaluating fault)) :
    ∃ e, readSource method source = .ok e ∧ e.evaluate = .error fault := by
  rcases runSource_cases method source with
    ⟨error, -, stopped⟩ | ⟨e, value, -, -, succeeded⟩ | ⟨e, found, read, evaluated, stopped⟩
  · rw [stopped] at failed
    cases failed
  · rw [succeeded] at failed
    cases failed
  · rw [stopped] at failed
    cases failed
    exact ⟨e, read, evaluated⟩

theorem fault_of_typing {error : TypeError}
    (failed : runSource method source = .error (.evaluating (.typing error))) :
    ∃ tokens e operator, scan source = .ok tokens ∧ readSource method source = .ok e ∧
      e.staticKind = .error operator ∧ operator ∈ tokens ∧ operator.kind.isOperator = true ∧
      error.line = operator.line := by
  obtain ⟨e, read, evaluated⟩ := evaluate_of_evaluating failed
  have proper := (wellFormed_of_readSource read).proper
  rcases kind_or_fault (Expr.map_kind_evaluate proper) with
    ⟨value, done, -⟩ | ⟨operator, named, judged⟩
  · rw [evaluated] at done
    cases done
  · rw [evaluated] at named
    cases named
    rw [readSource_eq_descent] at read
    obtain ⟨tokens, scanned, parsed⟩ := exists_tokens_of_readSource read
    obtain ⟨d, rfl, begins⟩ := exists_derivation parsed
    obtain ⟨mem, operates⟩ := d.mem_of_fault operator judged
    exact ⟨tokens, d.tree, operator, scanned, (readSource_eq_descent method source).trans read,
      judged, begins.subset mem, operates, rfl⟩

end

theorem reports_name_lines (source : String) (method : Method) :
    (∀ tokens, scan source = .ok tokens →
      (tokens.Pairwise fun first second => first.line ≤ second.line) ∧
        ∀ token ∈ tokens, HasLine source.toList token.line) ∧
    (∀ error, runSource method source = .error (.reading (.lexical error)) →
      HasLine source.toList error.diagnostic.line ∧
        ∃ before next rest, Lexical.Reaches source.toList before (next :: rest) ∧
          (∀ (rule : Lexical.Rule) (text : List Char), rule.Fits text →
            ¬ text <+: next :: rest) ∧
          error.diagnostic.line = Lexical.lineAfter before ∧
          (error.cause = .unterminatedString ↔ next = '"')) ∧
    (∀ error, runSource method source = .error (.reading (.grammatical error)) →
      HasLine source.toList error.diagnostic.line ∧
        ∃ tokens token, scan source = .ok tokens ∧ token ∈ tokens ∧ error.token = some token ∧
          error.diagnostic.line = token.line) ∧
    (∀ error, runSource method source = .error (.evaluating (.typing error)) →
      HasLine source.toList error.diagnostic.line ∧
        ∃ tokens e operator before rest, scan source = .ok tokens ∧
          readSource method source = .ok e ∧ e.staticKind = .error operator ∧
          operator ∈ tokens ∧
          Lexical.Reaches source.toList before (operator.lexeme.toList ++ rest) ∧
          error.diagnostic.line = Lexical.lineAfter before) := by
  refine ⟨fun tokens scanned => ⟨Lexical.sorted_of_scan scanned, fun token mem =>
    (Lexical.stands_of_scan scanned token mem).hasLine⟩, ?_, ?_, ?_⟩
  · intro error failed
    obtain ⟨before, next, rest, reached, nothing, rfl⟩ :=
      Lexical.stuck_of_scan (scan_of_lexical (readSource_of_reading failed))
    refine ⟨reached.hasLine, before, next, rest, reached, nothing, rfl, ?_⟩
    by_cases quote : next = '"' <;> simp [quote]
  · intro error failed
    obtain ⟨tokens, scanned, parsed⟩ := parse_of_grammatical (readSource_of_reading failed)
    obtain ⟨token, mem, found⟩ := token_of_parse_error (exists_eof_of_scan scanned) parsed
    have line : error.diagnostic.line = token.line := by
      simp [ParseError.diagnostic, Diagnostic.aboutToken, found]
    have stands := Lexical.stands_of_scan scanned token mem
    exact ⟨line ▸ stands.hasLine, tokens, token, scanned, mem, found, line⟩
  · intro error failed
    obtain ⟨tokens, e, operator, scanned, read, judged, mem, operates, line⟩ :=
      fault_of_typing failed
    have stands := Lexical.stands_of_scan scanned operator mem
    obtain ⟨before, rest, reached, place⟩ := stands.operator operates
    have named : error.diagnostic.line = operator.line := line
    exact ⟨named ▸ stands.hasLine, tokens, e, operator, before, rest, scanned, read, judged, mem,
      reached, named.trans place⟩

end Lox
