import Lox.Proofs.Consumption
import Lox.Proofs.Lexical.Stripping
import Lox.Proofs.Session.Expressions

set_option autoImplicit false

namespace Lox

theorem Settings.exists_printed {e : Expr} (answers : Answers e.evaluate) (settings : Settings) :
    ∃ value output, settings.printValue e = .ok (value, output) := by
  rcases answers with ⟨value, done⟩ | ⟨error, failed⟩
  · exact ⟨_, _, settings.printValue_of_ok done⟩
  · simp [Settings.printValue, failed]

theorem Lexical.Lexed.visible_eq {token : Token} (lexed : Lexed token)
    (seen : token.kind = .string → ∀ c ∈ token.lexeme.toList, Session.isInvisible c = false) :
    token.visible = token := by
  obtain ⟨rule, fits, emits⟩ := lexed
  obtain ⟨kind, lexeme, line, payload⟩ := token
  dsimp only at fits emits seen
  have same : Session.visible lexeme.toList = lexeme.toList := by
    generalize lexeme.toList = text at fits emits seen ⊢
    by_cases string : rule = .string
    · subst string
      cases emits
      exact visible_eq_self (seen rfl)
    · exact fits.visible_eq (by simpa [string] using emits.not_skips)
  -- The text decides what it stands for.
  have stands := emits.visible fits
  rw [same] at stands
  rw [Token.visible, Session.visibleText, same, String.ofList_toList, (stands.unique emits).2]

namespace Session

theorem mapTokens_visible {source : String} {tokens : List Token} {e : Expr}
    (scanned : scan source = .ok tokens) (parsed : parse tokens = .ok e)
    (seen : ∀ token ∈ Descent.taken tokens, token.kind = .string →
      ∀ c ∈ token.lexeme.toList, isInvisible c = false) : e.mapTokens Token.visible = e := by
  obtain ⟨d, rfl, words⟩ := exists_derivation_taken parsed
  have keeps (token : Token) : token.visible.kind = token.kind := rfl
  have same : (d.map Token.visible keeps).tokens = d.tokens := by
    rw [d.tokens_map, words]
    refine (List.map_congr_left fun token mem => ?_).trans (List.map_id _)
    obtain ⟨-, rest, split, -⟩ := Descent.exists_state_taken tokens
    have own : token ∈ tokens := by
      rw [split]
      exact List.mem_append_left rest mem
    rcases Lexical.lexed_or_eof_of_scan scanned token own with lexed | ⟨line, rfl⟩
    · exact lexed.visible_eq (seen token mem)
    · rfl
  rw [← d.tree_map Token.visible keeps]
  exact Grammar.Derivation.tree_eq_of_tokens_eq same

section

variable {line : String} {e : Expr} {value : Option Value} {output : Transcript} {threshold : Nat}

theorem evaluateLine_of_printed {text : List Char}
    (read : readSource .descent (String.ofList text) = .ok e)
    (printed : Settings.printValue { threshold, traceback := false } e = .ok (value, output)) :
    let notes := (Settings.read { threshold, traceback := false } .descent (String.ofList text)).2
    (State.initial false).evaluateLine threshold text =
      ⟨State.initial false, notes ++ output, false⟩ := by
  have found := Settings.fst_read { threshold, traceback := false } .descent (String.ofList text)
  rw [read] at found
  rw [State.evaluateLine, evaluate, State.initial]
  generalize Settings.read _ _ _ = result at found ⊢
  obtain ⟨result, notes⟩ := result
  cases found
  simp [printed]

theorem submit_of_printed (single : '\n' ∉ line.toList)
    (read : readSource .descent (visibleText line) = .ok e)
    (printed : Settings.printValue { threshold, traceback := false } e = .ok (value, output)) :
    let notes := (Settings.read { threshold, traceback := false } .descent (visibleText line)).2
    (State.initial false).submit threshold line =
      ⟨State.initial false, notes ++ output, false⟩ := by
  have busy : ¬ (Text.trim (visible line.toList) = [] ∨
      (Text.trim (visible line.toList)).head? = some '/') := by
    intro idle
    obtain ⟨error, failed⟩ := readSource_of_blankOrSlash (Lexical.newline_notMem_visible single)
      (blankOrSlash_of_trim idle) .descent
    cases failed.symm.trans read
  obtain ⟨some, other⟩ := not_or.1 busy
  rw [State.submit_of_other _ _ some other]
  exact evaluateLine_of_printed read printed

end

theorem submit_reads_visible {line : String} {tokens : List Token} {e : Expr}
    (single : '\n' ∉ line.toList) (scanned : scan line = .ok tokens) (parsed : parse tokens = .ok e)
    (apart : Lexical.StaysApart (Descent.taken tokens).length line.toList) :
    (∃ others, scan (visibleText line) =
      .ok ((Descent.taken tokens).map Token.visible ++ others)) ∧
    readSource .descent (visibleText line) = .ok (e.mapTokens Token.visible) ∧
    ((∀ token ∈ Descent.taken tokens, token.kind = .string →
      ∀ c ∈ token.lexeme.toList, isInvisible c = false) → e.mapTokens Token.visible = e) ∧
    ∀ threshold, ∃ value output,
      let settings : Settings := { threshold, traceback := false }
      let notes := (settings.read .descent (visibleText line)).2
      settings.printValue (e.mapTokens Token.visible) = .ok (value, output) ∧
      (State.initial false).submit threshold line = ⟨State.initial false, notes ++ output, false⟩ ∧
      (Log.debug < threshold → notes = Transcript.empty) := by
  have keeps (token : Token) : token.visible.kind = token.kind := rfl
  have scans := Lexical.scans_scan line
  rw [scanned] at scans
  obtain ⟨front, stop, others, stop', others', split, length, scans', binary⟩ :=
    apart.scans_visible single scans rfl
  obtain rfl : front = Descent.taken tokens := by
    obtain ⟨-, rest, split', -⟩ := Descent.exists_state_taken tokens
    exact (List.append_inj (split.symm.trans split') length).1
  have ends : Level.ofKind? stop'.kind = none := by
    cases joins : Level.ofKind? stop'.kind with
    | none => rfl
    | some level =>
      have before := ends_of_taken parsed split
      rw [← binary (by simp [joins]), joins] at before
      cases before
  have found : scan (visibleText line) =
      .ok ((Descent.taken tokens).map Token.visible ++ stop' :: others') := by
    refine (Lexical.scans_scan _).unique ?_
    rw [visibleText, String.toList_ofList]
    exact scans'
  have read : readSource .descent (visibleText line) = .ok (e.mapTokens Token.visible) := by
    rw [readSource_of_scan found, parse_taken_map keeps parsed ends others']
    rfl
  refine ⟨⟨_, found⟩, read, mapTokens_visible scanned parsed, fun threshold => ?_⟩
  have answers := Expr.answers_evaluate (wellFormed_of_readSource read)
  obtain ⟨value, output, printed⟩ :=
    Settings.exists_printed answers { threshold, traceback := false }
  refine ⟨value, output, printed, submit_of_printed single read printed, fun quiet => ?_⟩
  have silent : Settings.Silent { threshold, traceback := false } := ⟨quiet, rfl⟩
  exact congrArg Prod.snd (silent.read .descent _)

end Session

namespace Lexical.Layout

def pasted : Layout where
  first := []
  pieces := [(⟨.string, "\"a\u200b\"", 1, .text "a\u200b"⟩, ['\r', ' ']),
    (⟨.plus, "+", 1, .absent⟩, [' ']), (⟨.string, "\"b\"", 1, .text "b"⟩, [])]
  spaced := by
    have space : Gap [' '] := .blank (by decide) .empty
    have turned : Gap ['\r', ' '] := .blank (by decide) space
    exact .inr ⟨.empty, .more ⟨'\r', rfl, by decide⟩ turned
      (.more ⟨' ', rfl, by decide⟩ space (.last (.inl rfl)))⟩

theorem lexed_pasted : ∀ word ∈ pasted.words, Lexed word := by
  have inside : '"' ∉ ['a', '\u200b'] := by decide
  have first : Lexed ⟨.string, "\"a\u200b\"", 1, .text "a\u200b"⟩ := .string inside 1
  have plus : Lexed ⟨.plus, "+", 1, .absent⟩ := .fixed (by decide) 1
  have inside' : '"' ∉ ['b'] := by decide
  have second : Lexed ⟨.string, "\"b\"", 1, .text "b"⟩ := .string inside' 1
  simp [pasted, words, first, plus, second]

theorem staysApart_pasted : StaysApart 3 pasted.source.toList := by
  have lexed := lexed_pasted
  simp only [pasted, words, List.map_cons, List.map_nil, List.forall_mem_cons] at lexed
  obtain ⟨first, plus, second, -⟩ := lexed
  have blank (c : Char) (mem : c ∈ blanks) (rest : List Char) :
      ∀ d ∈ (c :: rest).head?, d ∈ blanks := by
    rintro _ ⟨⟩
    exact mem
  have space := blank ' ' (by decide)
  have last : StaysApart 1 ("\"b\"".toList ++ []) :=
    .word second (by simp) (by simp [visible_nil]) .ended
  have middle : StaysApart 2 ("+".toList ++ ' ' :: ("\"b\"".toList ++ [])) :=
    .word plus (space _) (space _) (.blank (by decide) last)
  have gap : StaysApart 2 ('\r' :: ' ' :: ("+".toList ++ ' ' :: ("\"b\"".toList ++ []))) :=
    .blank (by decide) (.blank (by decide) middle)
  have whole : StaysApart 3 ("\"a\u200b\"".toList ++ '\r' :: ' ' :: ("+".toList ++ ' ' ::
      ("\"b\"".toList ++ []))) :=
    .word first (blank '\r' (by decide) _) (space _) gap
  rw [source, String.toList_ofList]
  exact whole

end Lexical.Layout

namespace Session

theorem submit_reads_visible_pasted : ∃ tokens e value output,
    '\n' ∉ "\"a\u200b\"\r + \"b\"".toList ∧ scan "\"a\u200b\"\r + \"b\"" = .ok tokens ∧
      parse tokens = .ok e ∧
      Lexical.StaysApart (Descent.taken tokens).length "\"a\u200b\"\r + \"b\"".toList ∧
      readSource .descent "\"a\" + \"b\"" = .ok (e.mapTokens Token.visible) ∧
      Settings.printValue { threshold := Log.thresholdOf none none, traceback := false }
        (e.mapTokens Token.visible) = .ok (value, output) ∧
      (State.initial false).submit (Log.thresholdOf none none) "\"a\u200b\"\r + \"b\"" =
        ⟨State.initial false, Transcript.empty ++ output, false⟩ := by
  have single : '\n' ∉ Lexical.Layout.pasted.source.toList := by decide
  have scanned := Lexical.Layout.pasted.scan_source Lexical.Layout.lexed_pasted
  have parsed := parse_eq_settle Lexical.Layout.pasted.tokens
  have taken : (Descent.taken Lexical.Layout.pasted.tokens).length = 3 := by
    rw [← Method.taken_eq (Lexical.spelled_of_scan scanned) .automaton]
    rfl
  have apart := Lexical.Layout.staysApart_pasted
  rw [← taken] at apart
  obtain ⟨-, read, -, printed⟩ := submit_reads_visible single scanned (parsed.trans rfl) apart
  obtain ⟨value, output, printed, answered, quiet⟩ := printed (Log.thresholdOf none none)
  rw [quiet (by decide)] at answered
  exact ⟨_, _, value, output, single, scanned, parsed.trans rfl, apart, read, printed, answered⟩

def AnsweredAsTyped (line : String) : Prop :=
  '\n' ∉ line.toList → ∀ e, readSource .descent line = .ok e → ∀ value output,
    let settings : Settings := { threshold := Log.thresholdOf none none, traceback := false }
    settings.printValue e = .ok (value, output) →
      ((State.initial false).submit settings.threshold line).output = output

theorem not_answeredAsTyped {line : String} (single : '\n' ∉ line.toList) {e e' : Expr}
    {value value' : Value} (read : readSource .descent line = .ok e) (done : e.evaluate = .ok value)
    (read' : readSource .descent (visibleText line) = .ok e') (done' : e'.evaluate = .ok value')
    (differs : value'.display ≠ value.display) : ¬ AnsweredAsTyped line := by
  intro typed
  have printed := Settings.printValue_of_ok done
    { threshold := Log.thresholdOf none none, traceback := false }
  have printed' := Settings.printValue_of_ok done'
    { threshold := Log.thresholdOf none none, traceback := false }
  have silent : Settings.Silent
      { threshold := Log.thresholdOf none none, traceback := false } := ⟨by decide, rfl⟩
  have same := typed single e read _ _ printed
  dsimp only at same
  rw [submit_of_printed single read' printed', silent.read, Transcript.empty_append] at same
  have lines := congrArg (fun output => output.out.toList) same
  simp only [Transcript.outLine, String.toList_append] at lines
  exact differs (String.toList_inj.1 (List.append_cancel_right lines))

end Session

namespace Lexical.Layout

def separated : Layout where
  first := []
  pieces := [(⟨.kwTrue, "true", 1, .absent⟩, [' ']), (⟨.bang, "!", 1, .absent⟩, ['\r']),
    (⟨.equal, "=", 1, .absent⟩, [' ']), (⟨.kwTrue, "true", 1, .absent⟩, [])]
  spaced := by
    have gap (c : Char) (mem : c ∈ blanks) : StartsBlank [c] ∧ Gap [c] :=
      ⟨⟨c, rfl, mem⟩, .blank mem .empty⟩
    obtain ⟨space, single⟩ := gap ' ' (by decide)
    obtain ⟨back, turned⟩ := gap '\r' (by decide)
    exact .inr ⟨.empty, .more space single
      (.more back turned (.more space single (.last (.inl rfl))))⟩

def fused : Layout :=
  .row space_mem_blanks [⟨.kwTrue, "true", 1, .absent⟩, ⟨.bangEqual, "!=", 1, .absent⟩,
    ⟨.kwTrue, "true", 1, .absent⟩]

theorem lexed_separated : ∀ word ∈ separated.words, Lexed word := by
  have keyword : Lexed ⟨.kwTrue, "true", 1, .absent⟩ := .keyword (by decide) 1
  have bang : Lexed ⟨.bang, "!", 1, .absent⟩ := .fixed (by decide) 1
  have equal : Lexed ⟨.equal, "=", 1, .absent⟩ := .fixed (by decide) 1
  simp [separated, words, keyword, bang, equal]

theorem lexed_fused : ∀ word ∈ fused.words, Lexed word := by
  have keyword : Lexed ⟨.kwTrue, "true", 1, .absent⟩ := .keyword (by decide) 1
  have operator : Lexed ⟨.bangEqual, "!=", 1, .absent⟩ := .fixed (by decide) 1
  simp [fused, keyword, operator]

end Lexical.Layout

namespace Session

theorem read_separated : readSource .descent "true !\r= true" =
    .ok (.literal ⟨.kwTrue, "true", 1, .absent⟩) := by
  have scanned := Lexical.Layout.separated.scan_source Lexical.Layout.lexed_separated
  exact (readSource_of_scan scanned .descent).trans (by rw [parse_eq_settle]; rfl)

theorem read_fused : readSource .descent (visibleText "true !\r= true") =
    .ok (.binary (.literal ⟨.kwTrue, "true", 1, .absent⟩) ⟨.bangEqual, "!=", 1, .absent⟩
      (.literal ⟨.kwTrue, "true", 1, .absent⟩)) := by
  have scanned := Lexical.Layout.fused.scan_source Lexical.Layout.lexed_fused
  exact (readSource_of_scan scanned .descent).trans (by rw [parse_eq_settle]; rfl)

-- A string loses a character, and an operator is put together.
theorem answered_otherwise : ¬ AnsweredAsTyped "\"a\u00a0b\"" ∧
    ¬ AnsweredAsTyped "true !\r= true" := by
  constructor
  · have inside : '"' ∉ ['a', '\u00a0', 'b'] := by decide
    have read := readSource_literal (Lexical.Lexed.string inside 1) (by decide) .descent
    have inside' : '"' ∉ ['a', 'b'] := by decide
    have read' := readSource_literal (Lexical.Lexed.string inside' 1) (by decide) .descent
    exact not_answeredAsTyped (by decide) read rfl read' rfl (by decide)
  · exact not_answeredAsTyped (by decide) read_separated rfl read_fused rfl (by decide)

end Session

end Lox
