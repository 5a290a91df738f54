import Lox.Cli.Basic

set_option autoImplicit false

namespace Lox.Cli

def flags : List String := ["--lark", "--tree"]

def IsOperand (argument : String) : Prop :=
  argument ≠ "-h" ∧ argument.toList.take 2 ≠ ['-', '-']

structure Asks (arguments : List String) (options : Options) : Prop where
  automaton : options.automaton = decide ("--lark" ∈ arguments)
  tree : options.tree = decide ("--tree" ∈ arguments)
  operands : arguments.filter (· ∉ flags) = options.operand.toList
  ordinary : ∀ argument ∈ options.operand, IsOperand argument

theorem IsOperand.not_flag {argument : String} (ordinary : IsOperand argument) :
    argument ∉ flags := by
  intro flag
  simp only [flags, List.mem_cons, List.not_mem_nil, or_false] at flag
  rcases flag with rfl | rfl
  · exact ordinary.2 (by decide)
  · exact ordinary.2 (by decide)

theorem asks_nothing : Asks [] ⟨false, false, none⟩ :=
  ⟨rfl, rfl, rfl, nofun⟩

theorem asks_single {argument : String} (ordinary : IsOperand argument) :
    Asks [argument] ⟨false, false, some argument⟩ := by
  have noFlag := ordinary.not_flag
  have kept : [argument].filter (· ∉ flags) = [argument] :=
    List.filter_cons_of_pos (by simpa using noFlag)
  simp only [flags, List.mem_cons, List.not_mem_nil, or_false, not_or] at noFlag
  refine ⟨?_, ?_, kept, ?_⟩
  · simp [Ne.symm noFlag.1]
  · simp [Ne.symm noFlag.2]
  · rintro _ ⟨⟩
    exact ordinary

theorem asks_operand {operand : Option String}
    (ordinary : ∀ argument ∈ operand, IsOperand argument) :
    Asks operand.toList ⟨false, false, operand⟩ := by
  cases operand with
  | none => exact asks_nothing
  | some argument => exact asks_single (ordinary argument rfl)

namespace Request

variable {argument : String} {rest : List String}

theorem read_automaton (options : Options) :
    read options ("--lark" :: rest) = read { options with automaton := true } rest := by
  rw [read, if_pos rfl]

theorem read_tree (options : Options) :
    read options ("--tree" :: rest) = read { options with tree := true } rest := by
  rw [read, if_neg (by decide), if_pos rfl]

theorem read_operand (ordinary : IsOperand argument) (noFlag : argument ∉ flags)
    (automaton tree : Bool) :
    read ⟨automaton, tree, none⟩ (argument :: rest) =
      read ⟨automaton, tree, some argument⟩ rest := by
  obtain ⟨noShortHelp, noDashes⟩ := ordinary
  have noHelp : argument ≠ "--help" := by
    rintro rfl
    exact noDashes (by decide)
  simp only [flags, List.mem_cons, List.not_mem_nil, or_false, not_or] at noFlag
  rw [read, if_neg noFlag.1, if_neg noFlag.2, if_neg (by simp [noShortHelp, noHelp]),
    if_neg noDashes]

theorem read_append {arguments : List String} {operand : Option String}
    (operands : arguments.filter (· ∉ flags) = operand.toList)
    (ordinary : ∀ argument ∈ operand, IsOperand argument) (automaton tree : Bool)
    {found : Option String} (free : found = none ∨ operand = none) (behind : List String) :
    read ⟨automaton, tree, found⟩ (arguments ++ behind) =
      read ⟨automaton || decide ("--lark" ∈ arguments), tree || decide ("--tree" ∈ arguments),
        found.or operand⟩ behind := by
  -- On the arguments, with what was found so far: either there is no operand yet, or none is left.
  induction arguments generalizing automaton tree found operand with
  | nil =>
    cases operand with
    | none => simp
    | some argument => cases operands
  | cons argument rest ih =>
    rw [List.cons_append]
    by_cases lark : argument = "--lark"
    · subst lark
      have operands : rest.filter (· ∉ flags) = operand.toList := operands
      rw [read_automaton, ih operands ordinary true tree free]
      simp
    · by_cases drawn : argument = "--tree"
      · subst drawn
        have operands : rest.filter (· ∉ flags) = operand.toList := operands
        rw [read_tree, ih operands ordinary automaton true free]
        simp
      · have noFlag : argument ∉ flags := by simp [flags, lark, drawn]
        rw [List.filter_cons_of_pos (by simpa using noFlag)] at operands
        cases operand with
        | none => cases operands
        | some first =>
          obtain ⟨rfl, others⟩ := List.cons.inj operands
          have noOther : rest.filter (· ∉ flags) = (none : Option String).toList := others
          obtain rfl : found = none := free.resolve_right (by simp)
          rw [read_operand (ordinary _ rfl) noFlag,
            ih noOther (by simp) automaton tree (.inr rfl)]
          simp [Ne.symm lark, Ne.symm drawn]

theorem ofArguments_append {arguments : List String} {options : Options}
    (asks : Asks arguments options) (behind : List String) :
    ofArguments (arguments ++ behind) = read options behind := by
  obtain ⟨automaton, tree, operand⟩ := options
  have read := read_append asks.operands asks.ordinary false false (.inl rfl) behind
  rw [Bool.false_or, Bool.false_or, ← asks.automaton, ← asks.tree, Option.none_or] at read
  exact read

theorem ofArguments_eq {arguments : List String} {options : Options}
    (asks : Asks arguments options) : ofArguments arguments = .run options := by
  have read := ofArguments_append asks []
  rwa [List.append_nil] at read

end Request

theorem run_of_asks {world : World} {arguments : List String} {options : Options}
    (asks : Asks arguments options) : run world arguments = runOptions world options := by
  rw [run, Request.ofArguments_eq asks]

end Lox.Cli
