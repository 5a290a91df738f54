import Lox.Proofs.Agreement
import Lox.Proofs.Evaluation.WellFormed
import Lox.Proofs.Number.Division

set_option autoImplicit false

namespace Lox

open Grammar

theorem Token.Spelled.denotes {token : Token} (spelled : token.Spelled)
    (stands : token.kind ∈ literals) : token.Denotes := by
  have enters := Derivation.enters_of_literal stands
  unfold Token.Denotes
  split
  · next number =>
    obtain ⟨d, -, payload⟩ := spelled.number number
    exact ⟨_, payload⟩
  · next string => exact ⟨_, spelled.string string⟩
  · next kind => exact spelled.absent enters (by simp [kind]) (by simp [kind])
  · next kind => exact spelled.absent enters (by simp [kind]) (by simp [kind])
  · next kind => exact spelled.absent enters (by simp [kind]) (by simp [kind])
  · next number string yes no nothing =>
    simp_all [literals]

theorem Grammar.Derivation.wellFormed_tree {symbol : Symbol} (d : Derivation symbol)
    (spelled : ∀ token ∈ d.tokens, token.Spelled) : d.tree.WellFormed := by
  refine d.tree_induction Expr.WellFormed ?_ ?_ ?_ ?_ spelled
  · intro token stands spelled
    exact spelled.denotes stands
  · intro inner below
    exact below
  · intro operator inner begins spelled below
    exact ⟨begins, below⟩
  · intro level left operator right joins spelled first second
    exact ⟨⟨level, joins⟩, first, second⟩

theorem readSource_eq_descent (method : Method) (source : String) :
    readSource method source = readSource .descent source := by
  cases method with
  | descent => rfl
  | automaton => exact readSource_eq source

theorem readSource_of_scan {source : String} {tokens : List Token}
    (scanned : scan source = .ok tokens) (method : Method) :
    readSource method source = (parse tokens).mapError SyntaxError.grammatical := by
  rw [readSource_eq_descent]
  simp only [readSource, scanned, Method.parse]
  cases parse tokens <;> rfl

theorem runSource_cases (method : Method) (source : String) :
    (∃ error, readSource method source = .error error ∧
      runSource method source = .error (.reading error)) ∨
    (∃ e value, readSource method source = .ok e ∧ e.evaluate = .ok value ∧
      runSource method source = .ok value) ∨
    ∃ e fault, readSource method source = .ok e ∧ e.evaluate = .error fault ∧
      runSource method source = .error (.evaluating fault) := by
  cases read : readSource method source with
  | error error => exact .inl ⟨error, rfl, by simp only [runSource, read]⟩
  | ok e =>
    cases done : e.evaluate with
    | ok value => exact .inr (.inl ⟨e, value, rfl, done, by simp only [runSource, read, done]⟩)
    | error fault => exact .inr (.inr ⟨e, fault, rfl, done, by simp only [runSource, read, done]⟩)

theorem runSource_of_parse {source : String} {tokens : List Token} {e : Expr} {value : Value}
    (scanned : scan source = .ok tokens) (parsed : parse tokens = .ok e)
    (evaluated : e.evaluate = .ok value) (method : Method) :
    runSource method source = .ok value := by
  have read : readSource method source = .ok e := by
    rw [readSource_of_scan scanned, parsed]
    rfl
  simp only [runSource, read, evaluated]

theorem exists_derivation_of_readSource {method : Method} {source : String} {e : Expr}
    (found : readSource method source = .ok e) :
    ∃ (tokens : List Token) (d : Derivation .expression), scan source = .ok tokens ∧
      d.tokens <+: tokens ∧ d.tree = e := by
  rw [readSource_eq_descent] at found
  obtain ⟨tokens, scanned, parsed⟩ := exists_tokens_of_readSource found
  obtain ⟨d, tree, begins⟩ := exists_derivation parsed
  exact ⟨tokens, d, scanned, begins, tree⟩

theorem wellFormed_of_readSource {method : Method} {source : String} {e : Expr}
    (found : readSource method source = .ok e) : e.WellFormed := by
  obtain ⟨tokens, d, scanned, begins, rfl⟩ := exists_derivation_of_readSource found
  exact d.wellFormed_tree fun token mem =>
    Lexical.spelled_of_scan scanned token (begins.subset mem)

theorem checked_of_readSource {method : Method} {source : String} {e : Expr}
    (found : readSource method source = .ok e) : e.checked = .ok e := by
  rw [readSource_eq_descent] at found
  obtain ⟨tokens, scanned, parsed⟩ := exists_tokens_of_readSource found
  exact checked_of_parse (Lexical.spelled_of_scan scanned) parsed

theorem Lexical.Scans.cause_ne {before ahead : List Char} {result : Except ScanError (List Token)}
    (scans : Scans before ahead result) :
    ∀ error, result = .error error → error.cause ≠ .invalidNumber := by
  induction scans with
  | finished => nofun
  | skipped longest skips later ih => exact ih
  | @emitted _ _ _ _ _ _ result longest emits later ih =>
    intro error same
    cases result with
    | error e => exact ih error same
    | ok rest => cases same
  | stuck nothing =>
    -- The only causes are a string without an end and an unknown character.
    rintro error ⟨⟩
    split <;> nofun

theorem Descent.Cursor.last?_of_take? {c d : Cursor} {test : Kind → Bool} {token : Token}
    (taken : c.take? test = some (token, d)) : d.last? = some token := by
  obtain ⟨-, behind, -, -⟩ := take?_eq_some taken
  simp [last?, behind]

theorem runSource_safe (method : Method) (source : String) :
    (∀ e, readSource method source = .ok e → e.WellFormed ∧ e.checked = .ok e) ∧
      (∀ error, scan source = .error error → error.cause ≠ .invalidNumber) ∧
      (∀ (c d : Descent.Cursor) (test : Kind → Bool) (token : Token),
        c.take? test = some (token, d) → d.last? = some token) ∧
      (∀ a b : Float, Number.divide? a b = some (a / b)) ∧
      ((∃ value, runSource method source = .ok value) ∨
        (∃ error : ScanError, runSource method source = .error (.reading (.lexical error))) ∨
        (∃ error : ParseError, runSource method source = .error (.reading (.grammatical error))) ∨
        ∃ error : TypeError, runSource method source = .error (.evaluating (.typing error))) := by
  refine ⟨fun e found => ⟨wellFormed_of_readSource found, checked_of_readSource found⟩,
    (Lexical.scans_scan source).cause_ne,
    fun _ _ _ _ taken => Descent.Cursor.last?_of_take? taken, Number.divide?_eq, ?_⟩
  unfold runSource
  cases found : readSource method source with
  | error error =>
    cases error with
    | lexical error => exact .inr (.inl ⟨error, rfl⟩)
    | grammatical error => exact .inr (.inr (.inl ⟨error, rfl⟩))
  | ok e =>
    rcases Expr.answers_evaluate (wellFormed_of_readSource found) with
      ⟨value, done⟩ | ⟨error, failed⟩
    · simp only [done]
      exact .inl ⟨value, rfl⟩
    · simp only [failed]
      exact .inr (.inr (.inr ⟨error, rfl⟩))

end Lox
