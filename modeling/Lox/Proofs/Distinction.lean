import Lox.Proofs.Display
import Lox.Proofs.Text.Quotation

set_option autoImplicit false

namespace Lox

namespace Number

open Float.Model Float.Model.UnpackedFloat

inductive Row (x : Float) : Bool → List Char → Prop where
  | undefined (isNaN : x.isNaN = true) : Row x false ['N', 'a', 'N']
  | infinite (isInf : x.isInf = true) : Row x (isNegative x) ['i', 'n', 'f']
  | finite {row : List Char} {d : Decimal} (isFinite : x.isFinite = true)
      (numeral : Lexical.Numeral row d) (value : d.toNumber = ofPattern (pattern x)) :
      Row x (isNegative x) row

theorem isFinite_of_proper {x : Float} (number : ¬ x.isNaN = true) (bounded : ¬ x.isInf = true) :
    x.isFinite = true := by
  have nan : x.isNaN = x.toModel.unpack.isNaN := rfl
  have inf : x.isInf = x.toModel.unpack.isInf := rfl
  have finite : x.isFinite = x.toModel.unpack.isFinite := rfl
  rw [nan] at number
  rw [inf] at bounded
  rw [finite]
  generalize x.toModel.unpack = u at number bounded
  cases u with
  | notANumber => exact absurd rfl number
  | infinity s => exact absurd rfl bounded
  | zero s => rfl
  | finite s => rfl

theorem row_display (x : Float) :
    ∃ negative row, Row x negative row ∧
      (display x).toList = if negative then '-' :: row else row := by
  by_cases number : x.isNaN = true
  · refine ⟨false, _, .undefined number, ?_⟩
    rw [display, if_pos number]
    rfl
  by_cases bounded : x.isInf = true
  · refine ⟨isNegative x, _, .infinite bounded, ?_⟩
    rw [display, if_neg number, if_pos bounded, String.toList_ofList]
    rfl
  have finite := isFinite_of_proper number bounded
  obtain ⟨d, numeral, value⟩ := exists_numeral finite
  refine ⟨isNegative x, _, .finite finite numeral value, ?_⟩
  rw [display_of_isFinite finite, String.toList_ofList]
  rfl

theorem Row.splitSign {x : Float} {negative : Bool} {row : List Char} (h : Row x negative row) :
    Number.splitSign (if negative then '-' :: row else row) = (negative, row) := by
  have unsigned : Number.splitSign row = (false, row) := by
    cases h with
    | undefined | infinite => rfl
    | finite _ numeral => exact splitSign_of_isPlain numeral.isPlain
  cases negative with
  | false => exact unsigned
  | true => rfl

theorem toBits_of_isInf {x : Float} (infinite : x.isInf = true) :
    x.toBits.toBitVec =
      UnpackedFloat.pack .binary64 (.infinity (if isNegative x then .negative else .positive)) := by
  have infinite : x.toModel.unpack.isInf = true := infinite
  have signed (proper : x.toModel.unpack ≠ .notANumber) := sign?_toModel proper
  rw [toBitVec_toBits]
  cases class' : x.toModel.unpack with
  | infinity s =>
    rw [class'] at signed
    rw [← Option.some.inj (signed nofun)]
  | notANumber | zero | finite =>
    rw [class'] at infinite
    cases infinite

theorem eq_of_pattern_eq {x y : Float} (finite : x.isFinite = true) (finite' : y.isFinite = true)
    (signs : isNegative x = isNegative y)
    (patterns : ofPattern (pattern x) = ofPattern (pattern y)) : x = y := by
  rw [← signed_ofPattern finite, ← signed_ofPattern finite', signs, patterns]

def Same (x y : Float) : Prop :=
  x.toBits = y.toBits ∨ x.isNaN = true ∧ y.isNaN = true

theorem Row.same {x y : Float} {negative : Bool} {row : List Char} (first : Row x negative row)
    (second : Row y negative row) : Same x y := by
  have noLetter {c : Char} (letter : isPlain c = false) {row : List Char} {d : Decimal}
      (numeral : Lexical.Numeral row d) (mem : c ∈ row) : False := by
    rw [numeral.isPlain c mem] at letter
    cases letter
  cases first with
  | undefined isNaN =>
    generalize false = negative at second
    generalize named : ['N', 'a', 'N'] = row at second
    cases second with
    | undefined isNaN' => exact .inr ⟨isNaN, isNaN'⟩
    | infinite => cases named
    | finite _ numeral =>
      exact (noLetter (by decide : isPlain 'N' = false) numeral (by simp [← named])).elim
  | infinite isInf =>
    generalize sign : isNegative x = negative at second
    generalize named : ['i', 'n', 'f'] = row at second
    cases second with
    | undefined => cases named
    | infinite isInf' =>
      refine .inl (UInt64.toBitVec_inj.1 ?_)
      rw [toBits_of_isInf isInf, toBits_of_isInf isInf', sign]
    | finite _ numeral =>
      exact (noLetter (by decide : isPlain 'i' = false) numeral (by simp [← named])).elim
  | finite isFinite numeral value =>
    generalize sign : isNegative x = negative at second
    cases second with
    | undefined => exact (noLetter (by decide : isPlain 'N' = false) numeral (by simp)).elim
    | infinite => exact (noLetter (by decide : isPlain 'i' = false) numeral (by simp)).elim
    | finite isFinite' numeral' value' =>
      rw [numeral.unique numeral', value'] at value
      exact .inl (congrArg Float.toBits (eq_of_pattern_eq isFinite isFinite' sign value.symm))

theorem same_of_display_eq {x y : Float} (displayed : display x = display y) : Same x y := by
  obtain ⟨negative, row, first, text⟩ := row_display x
  obtain ⟨negative', row', second, text'⟩ := row_display y
  have cut := first.splitSign
  rw [← text, displayed, text', second.splitSign, Prod.mk.injEq] at cut
  obtain ⟨rfl, rfl⟩ := cut
  exact first.same second

theorem display_eq_of_same {x y : Float} (same : Same x y) : display x = display y := by
  rcases same with bits | ⟨isNaN, isNaN'⟩
  · rw [Float.toBits_inj.1 bits]
  · rw [display, display, if_pos isNaN, if_pos isNaN']

end Number

namespace Value

inductive Same : Value → Value → Prop where
  | nil : Same nil nil
  | bool (value : Bool) : Same (bool value) (bool value)
  | number {x y : Float} (same : Number.Same x y) : Same (number x) (number y)
  | string (text : String) : Same (string text) (string text)

-- What the first character of a displayed value tells apart.
inductive Shape where
  | nil
  | bool (value : Bool)
  | number
  | string
  deriving DecidableEq

namespace Shape

def starts : Shape → List Char
  | nil => ['n']
  | bool true => ['t']
  | bool false => ['f']
  | number => ['N', 'i', '-', '0', '1', '2', '3', '4', '5', '6', '7', '8', '9']
  | string => ['"']

def all : List Shape :=
  [nil, bool true, bool false, number, string]

theorem eq_of_mem_starts {a b : Shape} {c : Char} (first : c ∈ a.starts) (second : c ∈ b.starts) :
    a = b := by
  have apart : (all.all fun a => all.all fun b => a.starts.all fun c =>
      !b.starts.contains c || decide (a = b)) = true := by
    decide
  have listed (shape : Shape) : shape ∈ all := by
    rcases shape with _ | (_ | _) | _ | _ <;> decide
  have chosen := List.all_eq_true.1 (List.all_eq_true.1 (List.all_eq_true.1 apart a (listed a)) b
    (listed b)) c first
  simpa [second] using chosen

theorem mem_starts_of_isDigit {c : Char} (digit : Text.isDigit c = true) : c ∈ number.starts := by
  have code := Number.toNat_of_isPlain (c := c) (by simp [Number.isPlain, digit])
  have digits : ∀ n < 0x3a, Text.isDigit (Char.ofNat n) = true → Char.ofNat n ∈ number.starts := by
    decide
  have mem := digits c.toNat (by omega)
  rw [Char.ofNat_toNat] at mem
  exact mem digit

end Shape

def shape : Value → Shape
  | nil => .nil
  | bool value => .bool value
  | number _ => .number
  | string _ => .string

theorem exists_start_number (x : Float) :
    ∃ c ∈ Shape.number.starts, (Number.display x).toList.head? = some c := by
  obtain ⟨negative, row, shown, text⟩ := Number.row_display x
  have unsigned : ∃ c ∈ Shape.number.starts, row.head? = some c := by
    cases shown with
    | undefined => exact ⟨'N', by decide, rfl⟩
    | infinite => exact ⟨'i', by decide, rfl⟩
    | finite _ numeral =>
      obtain ⟨first, rest, rfl, digit⟩ := numeral.exists_digit
      exact ⟨first, Shape.mem_starts_of_isDigit digit, rfl⟩
  rw [text]
  cases negative with
  | true => exact ⟨'-', by decide, rfl⟩
  | false => exact unsigned

theorem exists_start (value : Value) :
    ∃ c ∈ value.shape.starts, value.display.toList.head? = some c := by
  cases value with
  | nil => exact ⟨'n', by decide, by decide⟩
  | bool value =>
    cases value with
    | false => exact ⟨'f', by decide, by decide⟩
    | true => exact ⟨'t', by decide, by decide⟩
  | number x => exact exists_start_number x
  | string text => exact ⟨'"', List.mem_singleton_self _, by simp [display]⟩

theorem shape_eq_of_display_eq {value other : Value} (displayed : value.display = other.display) :
    value.shape = other.shape := by
  obtain ⟨c, first, head⟩ := value.exists_start
  obtain ⟨c', second, head'⟩ := other.exists_start
  rw [displayed, head', Option.some.injEq] at head
  subst head
  exact Shape.eq_of_mem_starts first second

theorem same_of_display_eq {value other : Value} (displayed : value.display = other.display) :
    Same value other := by
  have shapes := shape_eq_of_display_eq displayed
  cases value with
  | nil =>
    cases other with
    | nil => exact .nil
    | bool | number | string => cases shapes
  | bool b =>
    cases other with
    | bool b' =>
      cases shapes
      exact .bool b
    | nil | number | string => cases shapes
  | number x =>
    cases other with
    | number y => exact .number (Number.same_of_display_eq displayed)
    | nil | bool | string => cases shapes
  | string text =>
    cases other with
    | string text' =>
      have read := congrArg Text.unquote displayed
      rw [display, display, Text.unquote_quote, Text.unquote_quote] at read
      exact read ▸ .string text
    | nil | bool | number => cases shapes

theorem display_eq_of_same {value other : Value} (same : Same value other) :
    value.display = other.display := by
  cases same with
  | nil | bool | string => rfl
  | number same => exact Number.display_eq_of_same same

end Value

theorem display_unambiguous :
    (∀ value other : Value, value.display = other.display ↔ Value.Same value other) ∧
      Function.LeftInverse Text.unquote Text.quote ∧
      ∀ text : String, (∀ c ∈ (Text.quote text).toList, Text.isControl c = false) ∧
        ∃ inner, (Text.quote text).toList = '"' :: inner ++ ['"'] ∧
          ∀ before after, inner = before ++ '"' :: after → Odd (Text.slashRun before) := by
  refine ⟨fun value other => ⟨Value.same_of_display_eq, Value.display_eq_of_same⟩,
    Text.unquote_quote, fun text => ⟨Text.isControl_of_mem_quote text, ?_⟩⟩
  exact ⟨_, Text.toList_quote text, fun before after => Text.odd_slashRun_of_escapeAll⟩

end Lox
