import Lox.Proofs.Enclosure
import Lox.Proofs.Number.Equality
import Lox.Proofs.Relayout

set_option autoImplicit false

namespace Lox

open Grammar

namespace Token

def meant (token : Token) : Token :=
  ⟨token.kind, "", 0, if token.kind.isLiteral then token.payload else .absent⟩

@[simp] theorem kind_meant (token : Token) : token.meant.kind = token.kind := rfl

theorem payload_meant {token : Token} (literal : token.kind.isLiteral = true) :
    token.meant.payload = token.payload :=
  if_pos literal

theorem meant_eq_of_literal {a b : Token} (literal : a.kind.isLiteral = true) :
    a.meant = b.meant ↔ a.kind = b.kind ∧ a.payload = b.payload := by
  constructor
  · intro same
    have kinds : a.kind = b.kind := by simpa using congrArg Token.kind same
    have payloads := congrArg Token.payload same
    rw [payload_meant literal, payload_meant (kinds ▸ literal)] at payloads
    exact ⟨kinds, payloads⟩
  · rintro ⟨kinds, payloads⟩
    rw [meant, meant, kinds, payloads]

theorem meant_eq_of_operator {a b : Token} (operator : a.kind.isLiteral = false) :
    a.meant = b.meant ↔ a.kind = b.kind := by
  constructor
  · intro same
    simpa using congrArg Token.kind same
  · intro kinds
    rw [meant, meant, ← kinds, operator]
    rfl

-- Payloads that agree are the same, since no numeral writes a negative zero or NaN.
theorem Spelled.agrees_iff {a b : Token} (first : a.Spelled) (second : b.Spelled)
    (kinds : a.kind = b.kind) (enters : a.kind.enters = true) :
    a.payload.agrees b.payload = true ↔ a.payload = b.payload := by
  refine ⟨fun agree => ?_, fun same => same ▸ first.agrees enters⟩
  by_cases number : a.kind = .number
  · obtain ⟨d, -, payload⟩ := first.number number
    obtain ⟨d', -, payload'⟩ := second.number (kinds ▸ number)
    rw [payload, payload'] at agree ⊢
    exact congrArg Payload.number (Number.Decimal.eq_of_beq agree)
  · by_cases string : a.kind = .string
    · rw [first.string string, second.string (kinds ▸ string)] at agree ⊢
      exact congrArg Payload.text (eq_of_beq agree)
    · rw [first.absent enters number string,
        second.absent (kinds ▸ enters) (kinds ▸ number) (kinds ▸ string)]

end Token

theorem Grammar.Derivation.spelled_tree {symbol : Symbol} (d : Derivation symbol)
    (spelled : ∀ token ∈ d.tokens, token.Spelled) : d.tree.Spelled := by
  refine d.tree_induction Expr.Spelled ?_ ?_ ?_ ?_ spelled
  · intro token stands spelled
    exact ⟨stands, spelled⟩
  · intro inner below
    exact below
  · intro operator inner begins spelled below
    exact ⟨begins, below⟩
  · intro level left operator right joins spelled first second
    exact ⟨⟨level, joins⟩, first, second⟩

namespace Value

theorem ofLiteral_meant {token : Token} (denotes : token.Denotes) :
    ofLiteral token.meant = (ofLiteral token).mapError Fault.unlined := by
  obtain ⟨kind, lexeme, line, payload⟩ := token
  cases kind <;> first | exact denotes.elim | skip
  case number =>
    obtain ⟨value, rfl⟩ := denotes
    rfl
  all_goals rfl

theorem applyUnary_meant {operator : Token} (begins : operator.kind ∈ unaryOperators)
    (operand : Value) :
    applyUnary operator.meant operand = (applyUnary operator operand).mapError Fault.unlined := by
  obtain ⟨kind, lexeme, line, payload⟩ := operator
  have either : kind = .bang ∨ kind = .minus := by simpa [unaryOperators] using begins
  rcases either with rfl | rfl <;> cases operand <;> rfl

theorem applyBinary_meant {operator : Token} {level : Level}
    (joins : operator.kind ∈ binaryOperators level) (left right : Value) :
    applyBinary operator.meant left right =
      (applyBinary operator left right).mapError Fault.unlined := by
  obtain ⟨kind, lexeme, line, payload⟩ := operator
  have joins : kind ∈ binaryOperators level := joins
  cases level <;> cases kind <;> first
    | exact absurd joins (by decide)
    | cases left <;> cases right <;> rfl

end Value

namespace Expr

variable {e a b : Expr}

theorem alike_iff (first : a.Spelled) (second : b.Spelled) :
    a.alike b = true ↔ a.mapTokens Token.meant = b.mapTokens Token.meant := by
  induction a generalizing b with
  | literal token =>
    cases b with
    | literal token' =>
      have stands := (isLiteral_iff_mem _).2 first.1
      simp only [alike, mapTokens, literal.injEq, Token.meant_eq_of_literal stands,
        Bool.and_eq_true, beq_iff_eq]
      refine and_congr_right fun kinds => ?_
      exact first.2.agrees_iff second.2 kinds (Derivation.enters_of_literal first.1)
    | _ => simp [alike, mapTokens]
  | grouping inner ih =>
    cases b with
    | grouping inner' =>
      simpa only [alike, mapTokens, grouping.injEq] using ih (b := inner') first second
    | _ => simp [alike, mapTokens]
  | unary operator operand ih =>
    cases b with
    | unary operator' operand' =>
      have operates := Kind.isLiteral_of_isOperator (isOperator_of_unary first.1)
      simp only [alike, mapTokens, unary.injEq, Token.meant_eq_of_operator operates,
        Bool.and_eq_true, beq_iff_eq, ih first.2 second.2]
    | _ => simp [alike, mapTokens]
  | binary left operator right ihLeft ihRight =>
    cases b with
    | binary left' operator' right' =>
      obtain ⟨⟨level, joins⟩, before, after⟩ := first
      obtain ⟨-, before', after'⟩ := second
      have operates := Kind.isLiteral_of_isOperator (isOperator_of_binary joins)
      simp only [alike, mapTokens, binary.injEq, Token.meant_eq_of_operator operates,
        Bool.and_eq_true, beq_iff_eq, ihLeft before before', ihRight after after']
      tauto
    | _ => simp [alike, mapTokens]
  | stray text => exact first.elim

theorem evaluate_meant (wellFormed : e.WellFormed) :
    (e.mapTokens Token.meant).evaluate = e.evaluate.mapError Fault.unlined := by
  induction e with
  | literal token => exact Value.ofLiteral_meant wellFormed
  | grouping inner ih => exact ih wellFormed
  | unary operator operand ih =>
    obtain ⟨begins, below⟩ := wellFormed
    rw [mapTokens, evaluate, evaluate, ih below]
    cases operand.evaluate with
    | error fault => rfl
    | ok value => exact Value.applyUnary_meant begins value
  | binary left operator right ihLeft ihRight =>
    obtain ⟨⟨level, joins⟩, first, second⟩ := wellFormed
    rw [mapTokens, evaluate, evaluate, ihLeft first, ihRight second]
    cases left.evaluate with
    | error fault => rfl
    | ok value =>
      cases right.evaluate with
      | error fault => rfl
      | ok value' => exact Value.applyBinary_meant joins value value'
  | stray text => exact wellFormed.elim

theorem answers_of_alike (first : a.Spelled) (second : b.Spelled) (alike : a.alike b = true) :
    (∃ value, a.evaluate = .ok value ∧ b.evaluate = .ok value) ∨
      ∃ error error', a.evaluate = .error (.typing error) ∧ b.evaluate = .error (.typing error') ∧
        error'.diagnostic.message = error.diagnostic.message := by
  apply answers_of_unlined first.wellFormed
  rw [← evaluate_meant first.wellFormed, ← evaluate_meant second.wellFormed,
    (alike_iff first second).1 alike]

def IsRead (e : Expr) : Prop :=
  (∃ method source, readSource method source = .ok e) ∨
    ∃ (D : Automaton.Driver) (source : String), D.Recognises ∧ D.read source = .ok e

theorem IsRead.spelled (read : e.IsRead) : e.Spelled := by
  obtain ⟨method, source, found⟩ : ∃ method source, readSource method source = .ok e := by
    rcases read with found | ⟨D, source, lawful, found⟩
    · exact found
    · exact ⟨.automaton, source, (lawful.read_eq source).symm.trans found⟩
  obtain ⟨tokens, d, scanned, begins, rfl⟩ := exists_derivation_of_readSource found
  exact d.spelled_tree fun token mem => Lexical.spelled_of_scan scanned token (begins.subset mem)

end Expr

abbrev ReadTree : Type :=
  { e : Expr // e.IsRead }

namespace ReadTree

def Alike (a b : ReadTree) : Prop :=
  a.val.alike b.val = true

theorem alike_iff {a b : ReadTree} :
    a.Alike b ↔ a.val.mapTokens Token.meant = b.val.mapTokens Token.meant :=
  Expr.alike_iff a.property.spelled b.property.spelled

theorem equivalence_alike : Equivalence Alike where
  refl _ := alike_iff.2 rfl
  symm alike := alike_iff.2 (alike_iff.1 alike).symm
  trans first second := alike_iff.2 ((alike_iff.1 first).trans (alike_iff.1 second))

theorem alike_sound : Equivalence Alike ∧ ∀ a b : ReadTree, a.Alike b →
    (∃ value, a.val.evaluate = .ok value ∧ b.val.evaluate = .ok value) ∨
      ∃ error error', a.val.evaluate = .error (.typing error) ∧
        b.val.evaluate = .error (.typing error') ∧
        error'.diagnostic.message = error.diagnostic.message :=
  ⟨equivalence_alike, fun a b => Expr.answers_of_alike a.property.spelled b.property.spelled⟩

def negation (first second : Int) : Expr :=
  .unary ⟨.bang, "!", first, .absent⟩ (.literal ⟨.kwNil, "nil", second, .absent⟩)

theorem read_narrow : readSource .descent Lexical.Layout.narrow.source = .ok (negation 1 1) := by
  rw [readSource_of_scan (Lexical.Layout.narrow.scan_source Lexical.Layout.lexed_narrow),
    parse_eq_settle]
  rfl

theorem read_wide : readSource .automaton Lexical.Layout.wide.source = .ok (negation 2 3) := by
  rw [readSource_of_scan (Lexical.Layout.wide.scan_source Lexical.Layout.lexed_narrow),
    parse_eq_settle]
  rfl

theorem alike_sound_negation : ∃ a b : ReadTree,
    readSource .descent "! nil" = .ok a.val ∧
      readSource .automaton "// not\n!\nnil //" = .ok b.val ∧ a.val ≠ b.val ∧ a.Alike b ∧
      ∃ value, a.val.evaluate = .ok value ∧ b.val.evaluate = .ok value := by
  refine ⟨⟨negation 1 1, .inl ⟨_, _, read_narrow⟩⟩, ⟨negation 2 3, .inl ⟨_, _, read_wide⟩⟩,
    read_narrow, read_wide, by decide, rfl, ?_⟩
  rcases alike_sound.2 ⟨negation 1 1, _⟩ ⟨negation 2 3, _⟩ rfl with values | ⟨error, -, failed, -⟩
  · exact values
  · cases failed

end ReadTree

end Lox
