import Lox.Proofs.Cli.Arguments
import Mathlib.Data.List.Induction

set_option autoImplicit false

namespace Lox.Cli

inductive Ends (before : List String) (argument : String) : Outcome → Prop where
  | help (asked : argument = "-h" ∨ argument = "--help") :
      Ends before argument ⟨success, Transcript.outLine usage⟩
  | unknown (dashes : argument.toList.take 2 = ['-', '-']) (noFlag : argument ∉ flags)
      (noHelp : argument ≠ "--help") : Ends before argument
        ⟨usageFault, Transcript.errLine ("Unknown option: " ++ argument) ++
          Transcript.errLine usage⟩
  | surplus (ordinary : IsOperand argument) (taken : ∃ other ∈ before, IsOperand other) :
      Ends before argument ⟨usageFault, Transcript.errLine usage⟩

def Complete (arguments : List String) : Prop :=
  ∀ before argument behind outcome, arguments = before ++ argument :: behind →
    ¬ Ends before argument outcome

def operand? (arguments : List String) : Option String :=
  arguments.find? (· ∉ flags)

inductive Supply where
  | typed (answers : List Session.Prompted)
  | found (source : Except LookupRefused (Except InputError String))

def World.supply (world : World) (operand : Option String) : Supply :=
  match operand, world.prompted with
  | none, some answers => .typed answers
  | _, _ => .found (world.source operand)

section

variable {before behind arguments arguments' : List String} {argument : String}
  {options : Options} {outcome : Outcome}

theorem Ends.not_flag (ends : Ends before argument outcome) : argument ∉ flags := by
  cases ends with
  | help asked => rcases asked with rfl | rfl <;> decide
  | unknown dashes noFlag noHelp => exact noFlag
  | surplus ordinary taken => exact ordinary.not_flag

theorem ends_or_isOperand (noFlag : argument ∉ flags) (before : List String) :
    (∃ outcome, Ends before argument outcome) ∨ IsOperand argument := by
  by_cases short : argument = "-h"
  · exact .inl ⟨_, .help (.inl short)⟩
  by_cases long : argument = "--help"
  · exact .inl ⟨_, .help (.inr long)⟩
  by_cases dashes : argument.toList.take 2 = ['-', '-']
  · exact .inl ⟨_, .unknown dashes noFlag long⟩
  · exact .inr ⟨short, dashes⟩

theorem Asks.mem_operand (asks : Asks arguments options) (mem : argument ∈ arguments)
    (noFlag : argument ∉ flags) : argument ∈ options.operand := by
  have kept : argument ∈ arguments.filter (· ∉ flags) :=
    List.mem_filter.2 ⟨mem, by simpa using noFlag⟩
  rwa [asks.operands, Option.mem_toList] at kept

theorem Asks.operand_eq (asks : Asks arguments options) :
    options.operand = operand? arguments := by
  rw [operand?, ← List.head?_filter, asks.operands]
  cases options.operand <;> rfl

theorem Asks.isSome_operand_iff (asks : Asks arguments options) :
    (∃ other ∈ arguments, IsOperand other) ↔ options.operand.isSome = true := by
  rw [Option.isSome_iff_exists]
  constructor
  · rintro ⟨other, mem, ordinary⟩
    exact ⟨other, asks.mem_operand mem ordinary.not_flag⟩
  · rintro ⟨other, operand⟩
    have kept : other ∈ arguments.filter (· ∉ flags) := by
      rw [asks.operands, operand]
      simp
    exact ⟨other, (List.mem_filter.1 kept).1, asks.ordinary other operand⟩

theorem Asks.complete (asks : Asks arguments options) : Complete arguments := by
  rintro before argument behind outcome rfl ends
  have noFlag := ends.not_flag
  have ordinary := asks.ordinary argument (asks.mem_operand (by simp) noFlag)
  cases ends with
  | help asked =>
    rcases asked with rfl | rfl
    · exact ordinary.1 rfl
    · exact ordinary.2 (by decide)
  | unknown dashes => exact ordinary.2 dashes
  | surplus _ taken =>
    -- The operand before it and the argument itself would be two of them.
    obtain ⟨other, mem, ordinary'⟩ := taken
    have front : other ∈ before.filter (· ∉ flags) :=
      List.mem_filter.2 ⟨mem, by simpa using ordinary'.not_flag⟩
    have operands := congrArg List.length asks.operands
    rw [List.filter_append, List.filter_cons_of_pos (by simpa using noFlag), List.length_append,
      List.length_cons] at operands
    have some := List.length_pos_of_mem front
    have most : options.operand.toList.length ≤ 1 := by cases options.operand <;> simp
    omega

theorem Complete.isOperand (complete : Complete arguments) (mem : argument ∈ arguments)
    (noFlag : argument ∉ flags) : IsOperand argument := by
  obtain ⟨before, behind, split⟩ := List.append_of_mem mem
  rcases ends_or_isOperand noFlag before with ⟨outcome, ends⟩ | ordinary
  · exact absurd ends (complete before argument behind outcome split)
  · exact ordinary

theorem Complete.exists_asks (complete : Complete arguments) :
    ∃ options, Asks arguments options := by
  cases kept : arguments.filter (· ∉ flags) with
  | nil => exact ⟨⟨_, _, none⟩, rfl, rfl, kept, nofun⟩
  | cons first others =>
    obtain ⟨front, rest, rfl, -, noFlag, later⟩ := List.filter_eq_cons_iff.1 kept
    have ordinary : IsOperand first := complete.isOperand (by simp) (by simpa using noFlag)
    cases others with
    | nil =>
      refine ⟨⟨_, _, some first⟩, rfl, rfl, kept, ?_⟩
      rintro _ ⟨⟩
      exact ordinary
    | cons second others =>
      -- A second operand would have ended the reading.
      obtain ⟨middle, rest, rfl, -, noFlag', -⟩ := List.filter_eq_cons_iff.1 later
      have ordinary' : IsOperand second :=
        complete.isOperand (by simp) (by simpa using noFlag')
      have surplus : Ends (front ++ first :: middle) second _ :=
        .surplus ordinary' ⟨first, by simp, ordinary⟩
      exact absurd surplus (complete _ second rest _ (by simp))

theorem Complete.run_eq (complete : Complete arguments) (world : World) :
    run world arguments = runOptions world
      ⟨decide ("--lark" ∈ arguments), decide ("--tree" ∈ arguments), operand? arguments⟩ := by
  obtain ⟨options, asks⟩ := complete.exists_asks
  obtain ⟨automaton, tree, operand⟩ := options
  rw [run_of_asks asks, ← asks.automaton, ← asks.tree, ← asks.operand_eq]

theorem Complete.run_ends (complete : Complete before) (ends : Ends before argument outcome)
    (world : World) (behind : List String) :
    run world (before ++ argument :: behind) = .ok outcome := by
  obtain ⟨options, asks⟩ := complete.exists_asks
  have noFlag := ends.not_flag
  simp only [flags, List.mem_cons, List.not_mem_nil, or_false, not_or] at noFlag
  rw [run, Request.ofArguments_append asks, Request.read, if_neg noFlag.1, if_neg noFlag.2]
  cases ends with
  | help asked => rw [if_pos (by simpa using asked)]
  | unknown dashes _ noHelp =>
    have noShort : argument ≠ "-h" := by
      rintro rfl
      cases dashes
    rw [if_neg (by simp [noShort, noHelp]), if_pos dashes]
  | surplus ordinary taken =>
    have noHelp : argument ≠ "--help" := by
      rintro rfl
      exact ordinary.2 (by decide)
    obtain ⟨first, found⟩ := Option.isSome_iff_exists.1 (asks.isSome_operand_iff.1 taken)
    rw [if_neg (by simp [ordinary.1, noHelp]), if_neg ordinary.2]
    simp only [found]

theorem complete_or_ends (arguments : List String) :
    Complete arguments ∨ ∃ before argument behind outcome,
      arguments = before ++ argument :: behind ∧ Complete before ∧
        Ends before argument outcome := by
  -- On the arguments from the right, as what is before an argument decides about it.
  induction arguments using List.reverseRecOn with
  | nil => exact .inl fun before argument behind outcome split => by simp at split
  | append_singleton front last ih =>
    rcases ih with complete | ⟨before, argument, behind, outcome, rfl, complete, ends⟩
    · by_cases ends : ∃ outcome, Ends front last outcome
      · obtain ⟨outcome, ends⟩ := ends
        exact .inr ⟨front, last, [], outcome, rfl, complete, ends⟩
      · refine .inl fun before argument behind outcome split ends' => ?_
        cases behind using List.reverseRecOn with
        | nil =>
          obtain ⟨rfl, rfl⟩ := List.append_singleton_inj.1 split
          exact ends ⟨outcome, ends'⟩
        | append_singleton behind other =>
          rw [← List.cons_append, ← List.append_assoc] at split
          exact complete _ _ _ _ (List.append_inj' split rfl).1 ends'
    · exact .inr ⟨before, argument, behind ++ [last], outcome, by simp, complete, ends⟩

theorem Asks.congr (asks : Asks arguments options)
    (given : ∀ flag ∈ flags, flag ∈ arguments ↔ flag ∈ arguments')
    (kept : arguments'.filter (· ∉ flags) = arguments.filter (· ∉ flags)) :
    Asks arguments' options where
  automaton := asks.automaton.trans (decide_eq_decide.2 (given "--lark" (by decide)))
  tree := asks.tree.trans (decide_eq_decide.2 (given "--tree" (by decide)))
  operands := kept.trans asks.operands
  ordinary := asks.ordinary

theorem Asks.perm (asks : Asks arguments options) (same : arguments.Perm arguments') :
    Asks arguments' options := by
  refine asks.congr (fun flag _ => same.mem_iff) ?_
  have kept := (same.filter (· ∉ flags)).symm
  rw [asks.operands] at kept ⊢
  cases operand : options.operand with
  | none => simpa [operand] using kept
  | some argument => simpa [operand] using kept

theorem Asks.repeated {flag : String} (asks : Asks (before ++ behind) options)
    (mem : flag ∈ flags) (given : flag ∈ before ++ behind) :
    Asks (before ++ flag :: behind) options := by
  refine asks.congr (fun other _ => ?_) ?_
  · simp only [List.mem_append, List.mem_cons] at given ⊢
    constructor
    · rintro (front | back)
      · exact .inl front
      · exact .inr (.inr back)
    · rintro (front | rfl | back)
      · exact .inl front
      · exact given
      · exact .inr back
  · rw [List.filter_append, List.filter_append, List.filter_cons_of_neg (by simpa using mem)]

theorem Asks.run_eq_run (asks : Asks arguments options) (asks' : Asks arguments' options)
    (world : World) : run world arguments = run world arguments' := by
  rw [run_of_asks asks, run_of_asks asks']

theorem runText_congr {options' : Options} (automaton : options.automaton = options'.automaton)
    (tree : options.tree = options'.tree) (settings : Settings) (source : String) :
    runText settings options source = runText settings options' source := by
  rw [runText, runText, automaton, tree]

theorem runOptions_eq (world : World) (options : Options) :
    runOptions world options =
      match world.supply options.operand with
      | .typed answers =>
        let session := Session.State.initial world.settings.traceback
        .ok ⟨success, Transcript.outLine Session.banner ++
          session.converse world.settings.threshold answers⟩
      | .found (.error e) => .error e
      | .found (.ok (.error e)) => .ok ⟨inputFault, Transcript.errLine e.message⟩
      | .found (.ok (.ok source)) => .ok (runText world.settings options source) := by
  unfold runOptions World.supply
  rcases world.source options.operand with _ | _ | _ <;>
    cases options.operand <;> cases world.prompted <;> rfl

theorem runOptions_congr {world world' : World} {options' : Options}
    (automaton : options.automaton = options'.automaton) (tree : options.tree = options'.tree)
    (settings : world.settings = world'.settings)
    (supply : world.supply options.operand = world'.supply options'.operand) :
    runOptions world options = runOptions world' options' := by
  rw [runOptions_eq, runOptions_eq, settings, supply]
  simp only [runText_congr automaton tree]

end

theorem run_decides (arguments : List String) :
    (∃ before argument behind outcome, arguments = before ++ argument :: behind ∧
      Complete before ∧ Ends before argument outcome ∧
      ∀ (world : World) (others : List String),
        run world (before ++ argument :: others) = .ok outcome) ∨
    Complete arguments ∧
      (∀ (world world' : World) (arguments' : List String), Complete arguments' →
        ("--lark" ∈ arguments ↔ "--lark" ∈ arguments') →
        ("--tree" ∈ arguments ↔ "--tree" ∈ arguments') → world.settings = world'.settings →
        world.supply (operand? arguments) = world'.supply (operand? arguments') →
        run world arguments = run world' arguments') ∧
      (∀ arguments', arguments.Perm arguments' →
        Complete arguments' ∧ ∀ world, run world arguments' = run world arguments) ∧
      ∀ flag before behind, flag ∈ flags → arguments = before ++ behind → flag ∈ arguments →
        Complete (before ++ flag :: behind) ∧
          ∀ world, run world (before ++ flag :: behind) = run world arguments := by
  rcases complete_or_ends arguments with
    complete | ⟨before, argument, behind, outcome, split, complete, ends⟩
  · refine .inr ⟨complete, ?_, ?_, ?_⟩
    · intro world world' arguments' complete' lark tree settings supply
      rw [complete.run_eq, complete'.run_eq]
      exact runOptions_congr (decide_eq_decide.2 lark) (decide_eq_decide.2 tree) settings supply
    · intro arguments' same
      obtain ⟨options, asks⟩ := complete.exists_asks
      exact ⟨(asks.perm same).complete, (asks.perm same).run_eq_run asks⟩
    · rintro flag before behind mem rfl given
      obtain ⟨options, asks⟩ := complete.exists_asks
      have again := asks.repeated mem given
      exact ⟨again.complete, again.run_eq_run asks⟩
  · exact .inl ⟨before, argument, behind, outcome, split, complete, ends, complete.run_ends ends⟩

end Lox.Cli
