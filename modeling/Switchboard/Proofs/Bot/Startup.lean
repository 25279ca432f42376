import Switchboard.Bot.Assembly
import Switchboard.Proofs.Tree.Extension

/-!
# Starting a bot

A bot is assembled in stages, and each of them can only fail if those before it have succeeded: the
configuration is checked, the root is made from it, the commands are added, and at last background
tasks are looked for. The root cannot fail any more when it is its turn. The check of the
configuration and the check of the root are written down apart, but they look for the same faults in
the same order.

What adds the commands may decide from call to call what it does next, also after a call that has
failed. Whatever it does, it leaves the tree that its calls have built.
-/

namespace Switchboard

variable {Action State : Type}

/-- What a fault of a root is called in a configuration. -/
def RootFault.inConfiguration : RootFault → ConfigurationFault
  | emptyLead => .emptyLead
  | noDelimiter => .noDelimiter
  | emptyDelimiter => .emptyDelimiter

/-- The section of a configuration has the fault that the root has. -/
theorem CommandSettings.fault?_eq (settings : CommandSettings) :
    settings.fault? =
      (TreeSettings.fault? ⟨settings.lead, settings.delimiters⟩).map
        RootFault.inConfiguration := by
  have someEmpty : settings.delimiters.any String.isEmpty = decide ("" ∈ settings.delimiters) := by
    rw [Bool.eq_iff_iff, List.any_eq_true, decide_eq_true_iff]
    constructor
    · rintro ⟨delimiter, delimiterMem, empty⟩
      rw [← String.isEmpty_iff.mp empty]
      exact delimiterMem
    · intro emptyMem
      exact ⟨"", emptyMem, rfl⟩
  simp only [fault?, TreeSettings.fault?, someEmpty, String.isEmpty_iff, List.isEmpty_iff,
    decide_eq_true_iff]
  split
  · rfl
  · split
    · rfl
    · split <;> rfl

namespace CommandTree

theorem exists_ofRoot_iff {declaration : RootDeclaration} :
    (∃ root : CommandTree Action, CommandTree.ofRoot declaration = .ok root) ↔
      TreeSettings.fault? ⟨declaration.lead, declaration.delimiters⟩ = none := by
  rw [ofRoot]
  cases TreeSettings.fault? ⟨declaration.lead, declaration.delimiters⟩ <;> simp

/-- A root can be made exactly if a section with the same lead and delimiters is sound. -/
theorem exists_ofRoot_iff_section {declaration : RootDeclaration} {settings : CommandSettings}
    (sameLead : declaration.lead = settings.lead)
    (sameDelimiters : declaration.delimiters = settings.delimiters) :
    (∃ root : CommandTree Action, CommandTree.ofRoot declaration = .ok root) ↔
      settings.fault? = none := by
  rw [exists_ofRoot_iff, settings.fault?_eq, Option.map_eq_none_iff, sameLead, sameDelimiters]

end CommandTree

/-- The error of a call. -/
def BuildStep.failure? (tree : CommandTree Action) (step : BuildStep Action) : Option TreeError :=
  match step.apply tree with
  | .ok _ => none
  | .error error => some error

/-- What adds commands to a tree call by call: it ends, gives up with an error, or makes a call and
goes on, knowing the error of the call and the tree after it. -/
inductive Procedure (Action : Type) where
  | done
  | giveUp (error : TreeError)
  | call (step : BuildStep Action) (next : Option TreeError → CommandTree Action → Procedure Action)

/-- The errors of calls one after the other. -/
def CommandTree.failures (tree : CommandTree Action) : List (BuildStep Action) → List TreeError
  | [] => []
  | step :: rest => (step.failure? tree).toList ++ (step.attempt tree).failures rest

namespace Procedure

/-- The builder that follows a procedure. -/
def run : Procedure Action → CommandBuilder Action
  | done, tree => .ok tree
  | giveUp error, _ => .error error
  | call step next, tree => (next (step.failure? tree) (step.attempt tree)).run (step.attempt tree)

/-- The calls that a procedure makes on a tree. -/
def calls : Procedure Action → CommandTree Action → List (BuildStep Action)
  | done, _ | giveUp _, _ => []
  | call step next, tree =>
    step :: (next (step.failure? tree) (step.attempt tree)).calls (step.attempt tree)

/-- A procedure passes on the error of every call and gives up for no other reason. -/
def PassesOn : Procedure Action → Prop
  | done => True
  | giveUp _ => False
  | call _ next =>
    (∀ error tree, next (some error) tree = giveUp error) ∧ ∀ tree, (next none tree).PassesOn

variable {procedure : Procedure Action} {tree last : CommandTree Action}

/-- A procedure that comes to its end leaves what its calls have built. -/
theorem eq_build_of_run (ended : procedure.run tree = .ok last) :
    last = tree.build (procedure.calls tree) := by
  induction procedure generalizing tree with
  | done => exact (Except.ok.inj ended).symm
  | giveUp error => cases ended
  | call step next ih => exact ih _ _ ended

theorem settings_of_run (ended : procedure.run tree = .ok last) :
    last.settings = tree.settings := by
  rw [eq_build_of_run ended]
  exact (CommandTree.extends_build tree _).settings_eq

/-- A procedure that passes errors on fails with the first one of its calls. -/
theorem run_of_passesOn (passesOn : procedure.PassesOn) (tree : CommandTree Action) :
    procedure.run tree =
      match (tree.failures (procedure.calls tree)).head? with
      | some error => .error error
      | none => .ok (tree.build (procedure.calls tree)) := by
  induction procedure generalizing tree with
  | done => rfl
  | giveUp error => exact passesOn.elim
  | call step next ih =>
    rw [run, calls, CommandTree.failures]
    cases failed : step.failure? tree with
    | some error =>
      rw [passesOn.1]
      rfl
    | none => exact ih _ _ (passesOn.2 _) (step.attempt tree)

theorem run_eq_error_iff (passesOn : procedure.PassesOn) {error : TreeError} :
    procedure.run tree = .error error ↔
      (tree.failures (procedure.calls tree)).head? = some error := by
  rw [run_of_passesOn passesOn]
  split
  · rename_i found
    simp [found]
  · rename_i noError
    simp [noError]

end Procedure

theorem CommandTree.error_of_addChild {tree : CommandTree Action} {parent : NodeId}
    {declaration : NodeDeclaration} {error : TreeError}
    (failed : tree.addChild parent declaration = .error error) :
    error = .emptyCodes ∨ error = .blankCode ∨ error = .nodeNotFound parent := by
  unfold addChild at failed
  split at failed
  · left
    cases failed
    rfl
  · right
    split at failed
    · left
      cases failed
      rfl
    · right
      split at failed
      · cases failed
        rfl
      · cases failed

theorem CommandTree.error_of_register {tree : CommandTree Action} {id : NodeId}
    {declaration : HandlerDeclaration} {action : Action} {error : TreeError}
    (failed : tree.register id declaration action = .error error) : error = .nodeNotFound id := by
  unfold register at failed
  split at failed <;> cases failed
  rfl

/-- No call finds fault with the root. -/
theorem BuildStep.failure?_ne_malformedRoot {tree : CommandTree Action} {step : BuildStep Action}
    {error : TreeError} (failed : step.failure? tree = some error) (fault : RootFault) :
    error ≠ .malformedRoot fault := by
  have applied : step.apply tree = .error error := by
    unfold failure? at failed
    split at failed
    · cases failed
    · rename_i applied
      rw [applied, Option.some.inj failed]
  rintro rfl
  cases step with
  | addChild parent declaration =>
    cases added : tree.addChild parent declaration with
    | error error =>
      simp only [apply, added, Except.map, Except.error.injEq] at applied
      rcases CommandTree.error_of_addChild added with same | same | same
      all_goals
        rw [applied] at same
        cases same
    | ok result => simp [apply, added, Except.map] at applied
  | register node declaration action => cases CommandTree.error_of_register applied

theorem CommandTree.ne_malformedRoot_of_mem_failures {tree : CommandTree Action}
    {steps : List (BuildStep Action)} {error : TreeError} (failed : error ∈ tree.failures steps)
    (fault : RootFault) : error ≠ .malformedRoot fault := by
  induction steps generalizing tree with
  | nil => cases failed
  | cons step rest ih =>
    rw [failures, List.mem_append, Option.mem_toList] at failed
    rcases failed with first | later
    · exact BuildStep.failure?_ne_malformedRoot first fault
    · exact ih later

namespace Procedure

/-- The procedure that makes given calls up to the first one that fails. -/
def ofSteps : List (BuildStep Action) → Procedure Action
  | [] => done
  | step :: rest => call step fun failure _ =>
    match failure with
    | some error => giveUp error
    | none => ofSteps rest

theorem passesOn_ofSteps (steps : List (BuildStep Action)) : (ofSteps steps).PassesOn := by
  induction steps with
  | nil => trivial
  | cons step rest ih => exact ⟨fun _ _ => rfl, fun _ => ih⟩

/-- A builder that is given as a list follows a procedure. -/
theorem run_ofSteps (steps : List (BuildStep Action)) :
    (ofSteps steps).run = BuildStep.builder steps := by
  induction steps with
  | nil => rfl
  | cons step rest ih =>
    funext tree
    rw [BuildStep.builder, List.foldlM_cons]
    simp only [ofSteps, run, BuildStep.failure?, BuildStep.attempt]
    cases step.apply tree with
    | error error => rfl
    | ok result => exact congrFun ih result.1

end Procedure

/-- A stage that succeeds hands its result on. -/
theorem bind_mapError_ok {Error Fault Value Result : Type} (wrap : Fault → Error) (value : Value)
    (next : Value → Except Error Result) :
    (Except.ok value).mapError wrap >>= next = next value :=
  rfl

namespace Bot

variable {configuration : Configuration} {backgroundTasks : Bool} {build : CommandBuilder Action}
  {perform : Action → CommandContext Action → Arguments → Reply} {sink : UsageSink State}
  {state : State}

/-- A faulty configuration is refused whatever would have added the commands. -/
theorem assemble_of_fault {fault : ConfigurationFault}
    (faulty : configuration.fault? = some fault) :
    assemble configuration backgroundTasks build perform sink state =
      .error (.configuration (.invalid fault)) := by
  simp only [assemble, Configuration.validate, faulty]
  rfl

theorem assemble_of_sound (sound : configuration.fault? = none)
    (room : configuration.usage.queueCapacity ≤ maximalQueueCapacity) {root : CommandTree Action}
    (created : CommandTree.ofRoot configuration.command.rootDeclaration = .ok root) :
    assemble configuration backgroundTasks build perform sink state =
      match build root with
      | .error error => .error (.tree error)
      | .ok tree =>
        if configuration.usage.enabled = true ∧ backgroundTasks = false then
          .error .noBackgroundTasks
        else
          .ok ⟨configuration, ⟨tree, .membership, .standard, perform⟩,
            .start configuration.usage.queueCapacity sink state⟩ := by
  have roomy : decide (maximalQueueCapacity < configuration.usage.queueCapacity) = false :=
    decide_eq_false (Nat.not_lt.mpr room)
  simp only [assemble, Configuration.validate, sound, created, roomy, Bool.and_false,
    bind_mapError_ok]
  cases build root with
  | error error => rfl
  | ok tree => cases configuration.usage.enabled <;> cases backgroundTasks <;> rfl

/-- The first stage that fails tells how the assembly of a bot ends. A faulty configuration is
refused for any builder. Otherwise there is a root, and what the procedure gives up with counts, then
the lack of background tasks. A bot has the tree that the calls have built, with the lead and the
delimiters of the configuration. A procedure that passes errors on gives up with the first error of
its calls, which never is about the root: a root can be made exactly if the section of the
configuration is sound. -/
theorem startup_outcome (configuration : Configuration)
    (perform : Action → CommandContext Action → Arguments → Reply) (sink : UsageSink State)
    (state : State) (room : configuration.usage.queueCapacity ≤ maximalQueueCapacity) :
    (∀ fault, configuration.fault? = some fault →
      ∀ (backgroundTasks : Bool) (build : CommandBuilder Action),
        assemble configuration backgroundTasks build perform sink state =
          .error (.configuration (.invalid fault))) ∧
    (configuration.fault? = none → ∃ root : CommandTree Action,
      CommandTree.ofRoot configuration.command.rootDeclaration = .ok root ∧
      ∀ (backgroundTasks : Bool) (procedure : Procedure Action),
        (∀ error, procedure.run root = .error error →
          assemble configuration backgroundTasks procedure.run perform sink state =
            .error (.tree error)) ∧
        (∀ tree, procedure.run root = .ok tree →
          tree = root.build (procedure.calls root) ∧
          tree.settings = ⟨configuration.command.lead, configuration.command.delimiters⟩ ∧
          assemble configuration backgroundTasks procedure.run perform sink state =
            if configuration.usage.enabled = true ∧ backgroundTasks = false then
              .error .noBackgroundTasks
            else
              .ok ⟨configuration, ⟨tree, .membership, .standard, perform⟩,
                .start configuration.usage.queueCapacity sink state⟩) ∧
        (procedure.PassesOn →
          (∀ error, procedure.run root = .error error ↔
            (root.failures (procedure.calls root)).head? = some error) ∧
          ∀ fault, assemble configuration backgroundTasks procedure.run perform sink state ≠
            .error (.tree (.malformedRoot fault)))) ∧
    ∀ (declaration : RootDeclaration) (settings : CommandSettings),
      declaration.lead = settings.lead → declaration.delimiters = settings.delimiters →
      ((∃ root : CommandTree Action, CommandTree.ofRoot declaration = .ok root) ↔
        settings.fault? = none) := by
  refine ⟨fun fault faulty backgroundTasks build => assemble_of_fault faulty, ?_,
    fun declaration settings => CommandTree.exists_ofRoot_iff_section⟩
  intro sound
  obtain ⟨root, created⟩ : ∃ root : CommandTree Action,
      CommandTree.ofRoot configuration.command.rootDeclaration = .ok root := by
    apply (CommandTree.exists_ofRoot_iff_section _ _).mpr
    · exact (Configuration.fault?_eq_none_iff.mp sound).1
    · rfl
    · rfl
  refine ⟨root, created, ?_⟩
  intro backgroundTasks procedure
  have stages : assemble configuration backgroundTasks procedure.run perform sink state = _ :=
    assemble_of_sound sound room created
  refine ⟨?_, ?_, ?_⟩
  · intro error failed
    rw [stages, failed]
  · intro tree ended
    refine ⟨Procedure.eq_build_of_run ended, ?_, by rw [stages, ended]⟩
    rw [Procedure.settings_of_run ended]
    exact (CommandTree.node?_of_ofRoot created).1
  · intro passesOn
    refine ⟨fun error => Procedure.run_eq_error_iff passesOn, ?_⟩
    intro fault ended
    rw [stages] at ended
    split at ended
    · rename_i error failed
      have first := (Procedure.run_eq_error_iff passesOn).mp failed
      have same : error = .malformedRoot fault := by
        simpa using ended
      exact CommandTree.ne_malformedRoot_of_mem_failures (List.mem_of_mem_head? first) fault same
    · split at ended <;> cases ended

/-- Without background tasks the default configuration gives no bot. A call without codes is noticed
before that. -/
theorem startup_outcome_default :
    assemble {} false (BuildStep.builder [.register .root {} ()]) (fun _ _ _ => .nothing) .memory [] =
        .error .noBackgroundTasks ∧
      assemble {} false (BuildStep.builder [.register .root {} (), .addChild .root { codes := [] }])
        (fun _ _ _ => .nothing) .memory [] = .error (.tree .emptyCodes) := by
  have room : ({} : Configuration).usage.queueCapacity ≤ maximalQueueCapacity := by decide
  rcases startup_outcome {} (fun (_ : Unit) _ _ => .nothing) .memory [] room with
    ⟨_, outcomeOfSound, _⟩
  rcases outcomeOfSound (by decide +kernel) with ⟨root, created, outcome⟩
  cases created
  constructor
  · rcases outcome false (.ofSteps [.register .root {} ()]) with ⟨_, ended, _⟩
    rw [← Procedure.run_ofSteps]
    exact (ended _ rfl).2.2
  · rcases outcome false (.ofSteps [.register .root {} (), .addChild .root { codes := [] }]) with
      ⟨failed, _, passed⟩
    rw [← Procedure.run_ofSteps]
    apply failed
    apply ((passed (Procedure.passesOn_ofSteps _)).1 _).mpr
    rfl

end Bot

end Switchboard
