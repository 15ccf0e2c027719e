import Mathlib.Data.List.Basic

namespace Sponge.Execution

/-!
# Finite executions of deterministic step functions

An execution is a list of actions folded over a step function.  Environments
that may only take some actions in some states are described by a guard, and
`EveryStep` says that each action of a list met its guard in the state in which
it was taken.  A loop is the iteration of one round, and `Exits` relates it to
the result with which it stops by itself.  The module is independent of any
particular program.
-/

variable {State Action : Type*}

/-- The state reached by taking the actions in order. -/
def run
    (step : State → Action → State)
    (initial : State)
    (actions : List Action) : State :=
  actions.foldl step initial

@[simp] theorem run_nil
    (step : State → Action → State)
    (initial : State) :
    run step initial [] = initial :=
  rfl

@[simp] theorem run_cons
    (step : State → Action → State)
    (initial : State)
    (action : Action)
    (rest : List Action) :
    run step initial (action :: rest) =
      run step (step initial action) rest :=
  rfl

/-- Running two lists one after the other is running their concatenation. -/
theorem run_append
    (step : State → Action → State)
    (initial : State)
    (leading trailing : List Action) :
    run step initial (leading ++ trailing) =
      run step (run step initial leading) trailing := by
  simp [run, List.foldl_append]

/-- Translating the actions beforehand or one at a time is the same. -/
theorem run_map
    {Source : Type*}
    (translate : Source → Action)
    (step : State → Action → State)
    (initial : State)
    (actions : List Source) :
    run step initial (actions.map translate) =
      run (fun state action => step state (translate action))
        initial actions :=
  List.foldl_map

/-- Every action of the list meets the guard in the state it is taken in. -/
def EveryStep
    (step : State → Action → State)
    (guard : State → Action → Prop) :
    State → List Action → Prop
  | _, [] => True
  | state, action :: rest =>
      guard state action ∧
        EveryStep step guard (step state action) rest

instance EveryStep.decidable
    (step : State → Action → State)
    (guard : State → Action → Prop)
    [∀ state action, Decidable (guard state action)] :
    ∀ initial actions,
      Decidable (EveryStep step guard initial actions)
  | _, [] => isTrue trivial
  | state, action :: rest =>
      haveI := EveryStep.decidable step guard (step state action) rest
      inferInstanceAs (Decidable (_ ∧ _))

/-- A guarded execution splits at any point into two guarded executions. -/
theorem EveryStep.append_iff
    {step : State → Action → State}
    {guard : State → Action → Prop}
    {initial : State}
    {leading trailing : List Action} :
    EveryStep step guard initial (leading ++ trailing) ↔
      EveryStep step guard initial leading ∧
        EveryStep step guard (run step initial leading) trailing := by
  induction leading generalizing initial with
  | nil =>
      simp [EveryStep]
  | cons action rest inductionHypothesis =>
      simp only [List.cons_append, EveryStep, run_cons,
        inductionHypothesis, and_assoc]

/-- A guard that ignores the state holds of every action of the list. -/
theorem EveryStep.of_forall_mem
    {step : State → Action → State}
    {allowed : Action → Prop}
    {actions : List Action}
    (every : ∀ action ∈ actions, allowed action)
    (initial : State) :
    EveryStep step (fun _ action => allowed action) initial actions := by
  induction actions generalizing initial with
  | nil =>
      trivial
  | cons action rest inductionHypothesis =>
      refine ⟨every action (by simp), ?_⟩
      exact inductionHypothesis
        (fun later member => every later (by simp [member]))
        (step initial action)

/-- A guard that every action meets in every state. -/
theorem EveryStep.of_forall
    {step : State → Action → State}
    {guard : State → Action → Prop}
    (always : ∀ state action, guard state action)
    (initial : State)
    (actions : List Action) :
    EveryStep step guard initial actions := by
  induction actions generalizing initial with
  | nil =>
      trivial
  | cons action rest inductionHypothesis =>
      exact ⟨always initial action,
        inductionHypothesis (step initial action)⟩

/-- Two guards met at every step are met together. -/
theorem EveryStep.and
    {step : State → Action → State}
    {first second : State → Action → Prop}
    {initial : State}
    {actions : List Action}
    (meetsFirst : EveryStep step first initial actions)
    (meetsSecond : EveryStep step second initial actions) :
    EveryStep step
      (fun state action => first state action ∧ second state action)
      initial actions := by
  induction actions generalizing initial with
  | nil =>
      trivial
  | cons action rest inductionHypothesis =>
      exact ⟨⟨meetsFirst.1, meetsSecond.1⟩,
        inductionHypothesis meetsFirst.2 meetsSecond.2⟩

/--
The invariant rule: a predicate that holds initially and is preserved by every
action meeting its guard holds at the end of every guarded execution.
-/
theorem EveryStep.invariant
    {step : State → Action → State}
    {guard : State → Action → Prop}
    (holds : State → Prop)
    (preserved :
      ∀ state action,
        holds state →
        guard state action →
        holds (step state action))
    {initial : State}
    {actions : List Action}
    (initially : holds initial)
    (guarded : EveryStep step guard initial actions) :
    holds (run step initial actions) := by
  induction actions generalizing initial with
  | nil =>
      exact initially
  | cons action rest inductionHypothesis =>
      exact inductionHypothesis
        (preserved initial action initially guarded.1)
        guarded.2

/--
The simulation rule: a relation that holds initially and is kept when both
machines take an action that meets its guard holds at the end of every guarded
execution of the two.
-/
theorem EveryStep.simulation
    {Abstract : Type*}
    {step : State → Action → State}
    {abstractStep : Abstract → Action → Abstract}
    {guard : State → Action → Prop}
    (related : State → Abstract → Prop)
    (kept :
      ∀ state abstract action,
        related state abstract →
        guard state action →
        related (step state action) (abstractStep abstract action))
    {initial : State}
    {abstractInitial : Abstract}
    {actions : List Action}
    (initially : related initial abstractInitial)
    (guarded : EveryStep step guard initial actions) :
    related (run step initial actions)
      (run abstractStep abstractInitial actions) := by
  induction actions generalizing initial abstractInitial with
  | nil =>
      exact initially
  | cons action rest inductionHypothesis =>
      exact inductionHypothesis
        (kept initial abstractInitial action initially guarded.1)
        guarded.2

/-- The invariant rule for an environment without guards. -/
theorem run_invariant
    {step : State → Action → State}
    (holds : State → Prop)
    (preserved :
      ∀ state action,
        holds state →
        holds (step state action))
    {initial : State}
    (initially : holds initial)
    (actions : List Action) :
    holds (run step initial actions) :=
  EveryStep.invariant holds
    (fun state action held _ => preserved state action held)
    initially
    (EveryStep.of_forall (fun _ _ => trivial) initial actions)

/-- The simulation rule for an environment without guards. -/
theorem run_simulation
    {Abstract : Type*}
    {step : State → Action → State}
    {abstractStep : Abstract → Action → Abstract}
    (related : State → Abstract → Prop)
    (kept :
      ∀ state abstract action,
        related state abstract →
        related (step state action) (abstractStep abstract action))
    {initial : State}
    {abstractInitial : Abstract}
    (initially : related initial abstractInitial)
    (actions : List Action) :
    related (run step initial actions)
      (run abstractStep abstractInitial actions) :=
  EveryStep.simulation related
    (fun state abstract action held _ =>
      kept state abstract action held)
    initially
    (EveryStep.of_forall (fun _ _ => trivial) initial actions)

/--
What some actions report and all others leave alone is, after any actions, the
last report, or what it was initially if there was none.
-/
theorem run_latest
    {Report Value : Type*}
    {step : State → Action → State}
    (reports : Action → Option Report)
    (observe : State → Value)
    (reading : Report → Value)
    (stepwise :
      ∀ state action,
        observe (step state action) =
          ((reports action).map reading).getD (observe state))
    (initial : State)
    (actions : List Action) :
    observe (run step initial actions) =
      ((actions.filterMap reports).getLast?.map reading).getD
        (observe initial) := by
  induction actions generalizing initial with
  | nil =>
      rfl
  | cons action rest inductionHypothesis =>
      rw [run_cons, inductionHypothesis, stepwise]
      cases reported : reports action with
      | none =>
          rw [List.filterMap_cons_none reported]
          rfl
      | some report =>
          rw [List.filterMap_cons_some reported, List.getLast?_cons]
          cases (rest.filterMap reports).getLast? <;> rfl

/-- What a client sees of a run: the response to each action in its turn. -/
def outputs
    {Output : Type*}
    (step : State → Action → State)
    (respond : State → Action → Output) :
    State → List Action → List Output
  | _, [] => []
  | state, action :: rest =>
      respond state action ::
        outputs step respond (step state action) rest

/--
States that respond alike, and whose successors are related again, cannot be
told apart by any actions.
-/
theorem outputs_of_bisimulation
    {Output : Type*}
    {step : State → Action → State}
    {respond : State → Action → Output}
    (related : State → State → Prop)
    (responds :
      ∀ first second action,
        related first second →
        respond first action = respond second action)
    (kept :
      ∀ first second action,
        related first second →
        related (step first action) (step second action))
    {first second : State}
    (initially : related first second)
    (actions : List Action) :
    outputs step respond first actions =
      outputs step respond second actions := by
  induction actions generalizing first second with
  | nil =>
      rfl
  | cons action rest inductionHypothesis =>
      rw [outputs, outputs, responds first second action initially]
      exact congrArg _
        (inductionHypothesis (kept first second action initially))

/--
A guard that follows from another wherever an invariant holds is met by the same
executions, if the invariant survives the actions that meet the first.
-/
theorem EveryStep.imp_of_invariant
    {step : State → Action → State}
    {first second : State → Action → Prop}
    (holds : State → Prop)
    (preserved :
      ∀ state action,
        holds state →
        first state action →
        holds (step state action))
    (follows :
      ∀ state action,
        holds state →
        first state action →
        second state action)
    {initial : State}
    {actions : List Action}
    (initially : holds initial)
    (meetsFirst : EveryStep step first initial actions) :
    EveryStep step second initial actions := by
  induction actions generalizing initial with
  | nil =>
      trivial
  | cons action rest inductionHypothesis =>
      obtain ⟨meets, later⟩ := meetsFirst
      exact ⟨follows initial action initially meets,
        inductionHypothesis (preserved initial action initially meets)
          later⟩

/--
Two guards that agree wherever an invariant holds admit the same executions, if
the invariant survives the actions that meet the first.
-/
theorem EveryStep.congr_of_invariant
    {step : State → Action → State}
    {first second : State → Action → Prop}
    (holds : State → Prop)
    (preserved :
      ∀ state action,
        holds state →
        first state action →
        holds (step state action))
    (agree :
      ∀ state action,
        holds state →
        (first state action ↔ second state action))
    {initial : State}
    (initially : holds initial)
    (actions : List Action) :
    EveryStep step first initial actions ↔
      EveryStep step second initial actions := by
  constructor
  · exact EveryStep.imp_of_invariant holds preserved
      (fun state action held => (agree state action held).mp) initially
  · exact EveryStep.imp_of_invariant holds
      (fun state action held meets =>
        preserved state action held
          ((agree state action held).mpr meets))
      (fun state action held => (agree state action held).mpr)
      initially

/--
Two guards that agree wherever the invariant holds admit the same executions.
-/
theorem EveryStep.congr
    {step : State → Action → State}
    {first second : State → Action → Prop}
    (holds : State → Prop)
    (preserved :
      ∀ state action,
        holds state →
        holds (step state action))
    (agree :
      ∀ state action,
        holds state →
        (first state action ↔ second state action))
    {initial : State}
    (initially : holds initial)
    (actions : List Action) :
    EveryStep step first initial actions ↔
      EveryStep step second initial actions :=
  EveryStep.congr_of_invariant holds
    (fun state action held _ => preserved state action held)
    agree initially actions

/--
The progress rule.  If every invariant state short of the goal is taken, by at
most `stride` actions, to an invariant state of smaller rank, then the goal is
reached, by at most `stride` actions for each unit of the rank.
-/
theorem EveryStep.reaches_goal
    {step : State → Action → State}
    {guard : State → Action → Prop}
    (holds goal : State → Prop)
    (rank : State → Nat)
    (stride : Nat)
    (advances :
      ∀ state,
        holds state →
        ¬ goal state →
        ∃ actions,
          actions.length ≤ stride ∧
            EveryStep step guard state actions ∧
            holds (run step state actions) ∧
            rank (run step state actions) < rank state)
    {initial : State}
    (initially : holds initial) :
    ∃ actions,
      actions.length ≤ stride * rank initial ∧
        EveryStep step guard initial actions ∧
        holds (run step initial actions) ∧
        goal (run step initial actions) := by
  generalize ranked : rank initial = bound
  induction bound using Nat.strongRecOn generalizing initial with
  | ind bound inductionHypothesis =>
      by_cases reached : goal initial
      · exact ⟨[], Nat.zero_le _, trivial, initially, reached⟩
      · obtain ⟨leading, few, guarded, held, smaller⟩ :=
          advances initial initially reached
        rw [ranked] at smaller
        obtain ⟨trailing, fewer, later, kept, finished⟩ :=
          inductionHypothesis _ smaller held rfl
        refine ⟨leading ++ trailing, ?_,
          EveryStep.append_iff.mpr ⟨guarded, later⟩, ?_, ?_⟩
        · have grows := Nat.mul_le_mul_left stride smaller
          rw [Nat.mul_succ] at grows
          rw [List.length_append]
          omega
        · rw [run_append]
          exact kept
        · rw [run_append]
          exact finished

/-- Allowed actions lead from one state to the other. -/
def Reaches
    (step : State → Action → State)
    (allowed : Action → Prop)
    (initial final : State) : Prop :=
  ∃ actions,
    (∀ action ∈ actions, allowed action) ∧
      run step initial actions = final

section Reaching

variable {step : State → Action → State} {allowed : Action → Prop}
variable {initial middle final : State}

theorem Reaches.refl
    (state : State) :
    Reaches step allowed state state :=
  ⟨[], by simp, rfl⟩

theorem Reaches.single
    (action : Action)
    (isAllowed : allowed action) :
    Reaches step allowed initial (step initial action) :=
  ⟨[action], by simpa using isAllowed, rfl⟩

theorem Reaches.trans
    (first : Reaches step allowed initial middle)
    (second : Reaches step allowed middle final) :
    Reaches step allowed initial final := by
  obtain ⟨leading, leadingAllowed, reached⟩ := first
  obtain ⟨trailing, trailingAllowed, finished⟩ := second
  refine ⟨leading ++ trailing, ?_, ?_⟩
  · intro action member
    rcases List.mem_append.mp member with early | late
    · exact leadingAllowed action early
    · exact trailingAllowed action late
  · rw [run_append, reached, finished]

/-- The invariant rule for states reached by allowed actions. -/
theorem Reaches.invariant
    (reaches : Reaches step allowed initial final)
    (holds : State → Prop)
    (preserved :
      ∀ state action,
        holds state →
        allowed action →
        holds (step state action))
    (initially : holds initial) :
    holds final := by
  obtain ⟨actions, everyAllowed, rfl⟩ := reaches
  exact EveryStep.invariant holds preserved initially
    (EveryStep.of_forall_mem everyAllowed initial)

end Reaching

section Loops

variable {Result : Type*} {round : State → State ⊕ Result}
variable {giveUp : State → Result} {state : State} {result : Result}

/--
Take rounds until one leaves.  A loop that has not left after `fuel` rounds is
given up.
-/
def iterate
    (round : State → State ⊕ Result)
    (giveUp : State → Result) :
    Nat → State → Result
  | 0, state => giveUp state
  | fuel + 1, state =>
      match round state with
      | .inl next => iterate round giveUp fuel next
      | .inr result => result

/--
A loop whose rounds either go on with another state or leave: from this state it
leaves with this result, after finitely many rounds.
-/
inductive Exits (round : State → State ⊕ Result) : State → Result → Prop where
  | leave {state : State} {result : Result} :
      round state = .inr result →
      Exits round state result
  | again {state next : State} {result : Result} :
      round state = .inl next →
      Exits round next result →
      Exits round state result

/-- The result with which a loop leaves is the only one. -/
theorem Exits.unique
    {other : Result}
    (exits : Exits round state result)
    (alsoExits : Exits round state other) :
    result = other := by
  induction exits with
  | leave left =>
      cases alsoExits with
      | leave alsoLeft =>
          exact Sum.inr.inj (left.symm.trans alsoLeft)
      | again goesOn _ =>
          cases left.symm.trans goesOn
  | again goesOn _ inductionHypothesis =>
      cases alsoExits with
      | leave alsoLeft =>
          cases goesOn.symm.trans alsoLeft
      | again alsoGoesOn later =>
          cases goesOn.symm.trans alsoGoesOn
          exact inductionHypothesis later

/-- The invariant rule for a loop that leaves. -/
theorem Exits.invariant
    (exits : Exits round state result)
    (holds : State → Prop)
    (ends : Result → Prop)
    (goesOn :
      ∀ state next,
        holds state →
        round state = .inl next →
        holds next)
    (leaves :
      ∀ state result,
        holds state →
        round state = .inr result →
        ends result)
    (initially : holds state) :
    ends result := by
  induction exits with
  | leave left =>
      exact leaves _ _ initially left
  | again continues _ inductionHypothesis =>
      exact inductionHypothesis (goesOn _ _ initially continues)

/-- What every round that leaves establishes holds of the result. -/
theorem Exits.satisfies
    (exits : Exits round state result)
    (holds : Result → Prop)
    (established :
      ∀ state result,
        round state = .inr result →
        holds result) :
    holds result :=
  exits.invariant (fun _ => True) holds (fun _ _ _ _ => trivial)
    (fun state result _ left => established state result left) trivial

/-- The invariant rule for a loop that may be given up. -/
theorem iterate_invariant
    (holds : State → Prop)
    (ends : Result → Prop)
    (goesOn :
      ∀ state next,
        holds state →
        round state = .inl next →
        holds next)
    (leaves :
      ∀ state result,
        holds state →
        round state = .inr result →
        ends result)
    (givenUp : ∀ state, holds state → ends (giveUp state))
    (fuel : Nat)
    (initially : holds state) :
    ends (iterate round giveUp fuel state) := by
  induction fuel generalizing state with
  | zero =>
      exact givenUp state initially
  | succ fuel inductionHypothesis =>
      rw [iterate]
      cases taken : round state with
      | inl next =>
          exact inductionHypothesis (goesOn state next initially taken)
      | inr result =>
          exact leaves state result initially taken

/--
The termination rule: a loop whose rounds lower a rank is not given up if it has
more fuel than that.
-/
theorem exits_iterate
    (holds : State → Prop)
    (rank : State → Nat)
    (descends :
      ∀ state next,
        holds state →
        round state = .inl next →
        holds next ∧ rank next < rank state)
    {fuel : Nat}
    (initially : holds state)
    (enough : rank state < fuel) :
    Exits round state (iterate round giveUp fuel state) := by
  induction fuel generalizing state with
  | zero =>
      exact absurd enough (Nat.not_lt_zero _)
  | succ fuel inductionHypothesis =>
      rw [iterate]
      cases taken : round state with
      | inl next =>
          obtain ⟨held, smaller⟩ := descends state next initially taken
          exact .again taken (inductionHypothesis held
            (Nat.lt_of_lt_of_le smaller (Nat.le_of_lt_succ enough)))
      | inr result =>
          exact .leave taken

end Loops

end Sponge.Execution
