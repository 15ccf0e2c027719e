import Sponge.FileDescriptor

namespace Sponge

/-!
# The event loop

A loop holds rules, each for one direction of a descriptor.  `wait_next_event`
drops the rules whose descriptor is at its end, asks the kernel about the others
and calls those that are ready.  The loop is generic in the state that the
callbacks of its rules share and in what the kernel answers to their calls.
-/

namespace EventLoop

/-- Interest in reading or in writing. -/
inductive Direction where
  | In
  | Out
  deriving DecidableEq

/-- A condition and the callback for it. -/
structure Rule (State Kernel : Type) where
  fd : State → FDWrapper
  direction : Direction
  callback : Kernel → State → EStateM.Result StdException State Unit
  interest : State → Bool := fun _ => true
  cancel : State → State := id

/-- The number of times the descriptor has been read or written. -/
def Rule.serviceCount
    {State Kernel : Type}
    (rule : Rule State Kernel)
    (state : State) : UInt32 :=
  match rule.direction with
  | .In => (rule.fd state).readCount
  | .Out => (rule.fd state).writeCount

/-- The events the kernel reports for one descriptor. -/
structure Revents where
  pollin : Bool := false
  pollout : Bool := false
  pollerr : Bool := false
  pollhup : Bool := false
  pollnval : Bool := false
  deriving DecidableEq

/-- The event that was asked for in a direction. -/
def Revents.event
    (revents : Revents) :
    Direction → Bool
  | .In => revents.pollin
  | .Out => revents.pollout

/--
How a call of `poll` ends: by the timeout, by a signal, by another error, or
with events for each entry, along with what the kernel then answers to the
callback of the entry.
-/
inductive Poll (Kernel : Type) where
  | timeout
  | interrupted
  | failed
  | events (entry : Nat → Revents × Kernel)

/-- What `wait_next_event` returns. -/
inductive Result where
  | success
  | timeout
  | exit
  deriving DecidableEq

variable {State Kernel : Type}

/--
Set up an entry for each rule, with whether the rule is interested.  Rules whose
descriptor has reached its end or is closed are cancelled.
-/
def setUp :
    List (Rule State Kernel) →
    State →
    List (Rule State Kernel × Bool) × State
  | [], state => ([], state)
  | rule :: rest, state =>
      if rule.direction = .In ∧ (rule.fd state).eof then
        setUp rest (rule.cancel state)
      else if (rule.fd state).closed then
        setUp rest (rule.cancel state)
      else
        let entries := setUp rest state
        ((rule, rule.interest state) :: entries.1, entries.2)

/-- A rule that stays, in front of what is left of the others. -/
def keep
    (rule : Rule State Kernel) :
    EStateM.Result StdException (List (Rule State Kernel) × State) Unit →
    EStateM.Result StdException (List (Rule State Kernel) × State) Unit
  | .ok _ (rules, state) => .ok () (rule :: rules, state)
  | .error thrown (rules, state) => .error thrown (rule :: rules, state)

/-- Go through the poll results, the one for the first rule being at `idx`. -/
def serve
    (entry : Nat → Revents × Kernel) :
    Nat →
    List (Rule State Kernel × Bool) →
    State →
    EStateM.Result StdException (List (Rule State Kernel) × State) Unit
  | _, [], state => .ok () ([], state)
  | idx, (rule, asked) :: rest, state =>
      let revents := (entry idx).1
      let rules := rule :: rest.map Prod.fst
      if revents.pollerr || revents.pollnval then
        .error
          (.runtimeError "EventLoop: error on polled file descriptor")
          (rules, state)
      else
        let pollReady := asked && revents.event rule.direction
        if revents.pollhup && asked && !pollReady then
          -- the only condition was a hangup: the descriptor is defunct
          serve entry (idx + 1) rest (rule.cancel state)
        else if pollReady then
          let countBefore := rule.serviceCount state
          match rule.callback (entry idx).2 state with
          | .error thrown state => .error thrown (rules, state)
          | .ok _ state =>
              if countBefore = rule.serviceCount state ∧
                  rule.interest state then
                .error
                  (.runtimeError
                    ("EventLoop: busy wait detected: callback did not " ++
                      "read/write fd and is still interested"))
                  (rules, state)
              else
                keep rule (serve entry (idx + 1) rest state)
        else
          keep rule (serve entry (idx + 1) rest state)

/-- Wait for the descriptors of the rules and call the rules that are ready. -/
def waitNextEvent
    (poll : Poll Kernel)
    (rules : List (Rule State Kernel))
    (state : State) :
    EStateM.Result StdException (List (Rule State Kernel) × State) Result :=
  let (entries, state) := setUp rules state
  let rules := entries.map Prod.fst
  if ¬ entries.any Prod.snd then
    .ok .exit (rules, state)
  else
    match poll with
    | .timeout => .ok .timeout (rules, state)
    | .interrupted => .ok .exit (rules, state)
    -- other errors are caught and dropped, and no entry has events
    | .failed => .ok .success (rules, state)
    | .events entry =>
        match serve entry 0 entries state with
        | .ok _ next => .ok .success next
        | .error thrown next => .error thrown next

/-- Every entry that a call of `poll` fills in is as described. -/
def Poll.Reports
    (allowed : Revents × Kernel → Prop) :
    Poll Kernel → Prop
  | .events entry => ∀ idx, allowed (entry idx)
  | _ => True

theorem Poll.Reports.imp
    {allowed also : Revents × Kernel → Prop}
    {poll : Poll Kernel}
    (reported : poll.Reports allowed)
    (implies : ∀ entry, allowed entry → also entry) :
    poll.Reports also := by
  cases poll with
  | timeout | interrupted | failed => trivial
  | events entry => exact fun idx => implies _ (reported idx)

section SetUp

variable {rules : List (Rule State Kernel)} {state : State}

/-- What every cancellation preserves is preserved by setting up. -/
theorem setUp_invariant
    (holds : State → Prop)
    (cancelled :
      ∀ rule ∈ rules,
        ∀ state, holds state → holds (rule.cancel state))
    (initially : holds state) :
    holds (setUp rules state).2 := by
  induction rules generalizing state with
  | nil =>
      exact initially
  | cons rule rest inductionHypothesis =>
      have later :
          ∀ {state}, holds state → holds (setUp rest state).2 :=
        fun held => inductionHypothesis
          (fun other member => cancelled other (.tail _ member)) held
      have without := later (cancelled rule (.head _) state initially)
      unfold setUp
      split
      · exact without
      · split
        · exact without
        · exact later initially

/-- Rules are only ever dropped. -/
theorem setUp_sublist
    (rules : List (Rule State Kernel))
    (state : State) :
    ((setUp rules state).1.map Prod.fst).Sublist rules := by
  induction rules generalizing state with
  | nil =>
      exact .slnil
  | cons rule rest inductionHypothesis =>
      unfold setUp
      split
      · exact (inductionHypothesis _).cons rule
      · split
        · exact (inductionHypothesis _).cons rule
        · exact (inductionHypothesis state).cons_cons rule

/--
What a rule is found to be when its entry is made stays so while the later rules
are set up, if their cancellations do not disturb it.
-/
theorem setUp_entries
    (holds : State → Prop)
    (found : Rule State Kernel → Bool → State → Prop)
    (cancelled :
      ∀ rule ∈ rules,
        ∀ state, holds state → holds (rule.cancel state))
    (finds :
      ∀ rule ∈ rules,
        ∀ state,
          holds state →
          found rule (rule.interest state) state)
    (undisturbed :
      rules.Pairwise fun earlier later =>
        ∀ asked state,
          found earlier asked state →
          found earlier asked (later.cancel state))
    (initially : holds state) :
    ∀ entry ∈ (setUp rules state).1,
      found entry.1 entry.2 (setUp rules state).2 := by
  induction rules generalizing state with
  | nil =>
      intro entry member
      cases member
  | cons rule rest inductionHypothesis =>
      obtain ⟨apart, restApart⟩ := List.pairwise_cons.mp undisturbed
      have cancelledLater :
          ∀ other ∈ rest,
            ∀ state, holds state → holds (other.cancel state) :=
        fun other member => cancelled other (.tail _ member)
      have later :
          ∀ {state}, holds state →
            ∀ entry ∈ (setUp rest state).1,
              found entry.1 entry.2 (setUp rest state).2 :=
        fun held => inductionHypothesis cancelledLater
          (fun other member => finds other (.tail _ member)) restApart
          held
      have without := later (cancelled rule (.head _) state initially)
      unfold setUp
      split
      · exact without
      · split
        · exact without
        · intro entry member
          rcases List.mem_cons.mp member with rfl | inRest
          · exact setUp_invariant (found rule (rule.interest state))
              (fun other member state =>
                apart other member _ state)
              (finds rule (.head _) state initially)
          · exact later initially entry inRest

end SetUp

@[simp] theorem finalState_keep
    (rule : Rule State Kernel)
    (result :
      EStateM.Result StdException
        (List (Rule State Kernel) × State) Unit) :
    finalState (keep rule result) =
      (rule :: (finalState result).1, (finalState result).2) := by
  cases result <;> rfl

theorem returned_keep
    (rule : Rule State Kernel)
    (result :
      EStateM.Result StdException
        (List (Rule State Kernel) × State) Unit) :
    returned (keep rule result) = returned result := by
  cases result <;> rfl

theorem serve_sublist
    (entry : Nat → Revents × Kernel)
    (idx : Nat)
    (entries : List (Rule State Kernel × Bool))
    (state : State) :
    (finalState (serve entry idx entries state)).1.Sublist
      (entries.map Prod.fst) := by
  induction entries generalizing idx state with
  | nil =>
      exact .slnil
  | cons served rest inductionHypothesis =>
      obtain ⟨rule, asked⟩ := served
      simp only [serve]
      split
      · exact .refl _
      · split
        · exact (inductionHypothesis _ _).cons rule
        · split
          · cases rule.callback (entry idx).2 state with
            | error thrown next =>
                exact .refl _
            | ok _ next =>
                dsimp only
                split
                · exact .refl _
                · rw [finalState_keep]
                  exact (inductionHypothesis _ _).cons_cons rule
          · rw [finalState_keep]
            exact (inductionHypothesis _ _).cons_cons rule

section WaitNextEvent

variable {rules : List (Rule State Kernel)} {state : State}
variable {poll : Poll Kernel}

/-- Nothing happens after setting up, or the entries are served. -/
theorem waitNextEvent_leaves
    (poll : Poll Kernel)
    (rules : List (Rule State Kernel))
    (state : State) :
    finalState (waitNextEvent poll rules state) =
        ((setUp rules state).1.map Prod.fst, (setUp rules state).2) ∨
      ∃ entry,
        poll = .events entry ∧
          finalState (waitNextEvent poll rules state) =
            finalState
              (serve entry 0 (setUp rules state).1
                (setUp rules state).2) := by
  simp only [waitNextEvent]
  split
  · exact .inl rfl
  · cases poll with
    | timeout | interrupted | failed =>
        exact .inl rfl
    | events entry =>
        refine .inr ⟨entry, rfl, ?_⟩
        dsimp only
        cases serve entry 0 (setUp rules state).1 (setUp rules state).2 <;>
          rfl

theorem waitNextEvent_sublist
    (poll : Poll Kernel)
    (rules : List (Rule State Kernel))
    (state : State) :
    (finalState (waitNextEvent poll rules state)).1.Sublist rules := by
  have kept := setUp_sublist rules state
  rcases waitNextEvent_leaves poll rules state with
    same | ⟨entry, _, same⟩
  · rw [same]
    exact kept
  · rw [same]
    exact (serve_sublist entry 0 _ _).trans kept

/-- Unless a signal stops it, the loop exits when no rule is interested. -/
theorem waitNextEvent_exit
    (exits : returned (waitNextEvent poll rules state) = some .exit)
    (uninterrupted : poll ≠ .interrupted) :
    finalState (waitNextEvent poll rules state) =
        ((setUp rules state).1.map Prod.fst, (setUp rules state).2) ∧
      ∀ entry ∈ (setUp rules state).1, entry.2 = false := by
  simp only [waitNextEvent] at exits ⊢
  split at exits
  · rename_i quiet
    rw [if_pos quiet]
    refine ⟨rfl, fun entry member => ?_⟩
    by_contra asked
    exact quiet (List.any_eq_true.mpr
      ⟨entry, member, Bool.of_not_eq_false asked⟩)
  · cases poll with
    | timeout | failed =>
        cases exits
    | interrupted =>
        exact absurd rfl uninterrupted
    | events entry =>
        dsimp only at exits
        split at exits <;> cases exits

end WaitNextEvent

section Rules

variable {rules : List (Rule State Kernel)} {state : State}
variable {entries : List (Rule State Kernel × Bool)}
variable {entry : Nat → Revents × Kernel} {poll : Poll Kernel}
variable {holds : State → Prop}
variable {ready : Rule State Kernel → State → Prop}
variable {sane : Kernel → Prop}

/-- A rule that keeps an invariant, also when it throws. -/
structure Rule.Keeps
    (holds : State → Prop)
    (ready : Rule State Kernel → State → Prop)
    (sane : Kernel → Prop)
    (rule : Rule State Kernel) : Prop where
  asked :
    ∀ state,
      holds state →
      rule.interest state = true →
      ready rule state
  cancelled :
    ∀ state,
      holds state →
      holds (rule.cancel state)
  called :
    ∀ kernel state,
      holds state →
      ready rule state →
      sane kernel →
      holds (finalState (rule.callback kernel state))

/-- What makes one of two rules ready is not undone by the other. -/
structure Rule.Undisturbed
    (ready : Rule State Kernel → State → Prop)
    (earlier later : Rule State Kernel) : Prop where
  cancelLater :
    ∀ state,
      ready earlier state →
      ready earlier (later.cancel state)
  cancelEarlier :
    ∀ state,
      ready later state →
      ready later (earlier.cancel state)
  callEarlier :
    ∀ kernel state,
      ready later state →
      ready later (finalState (earlier.callback kernel state))

/-- A rule that was asked about was ready at the end of the setting up. -/
theorem setUp_ready
    (keeps : ∀ rule ∈ rules, rule.Keeps holds ready sane)
    (undisturbed : rules.Pairwise (Rule.Undisturbed ready))
    (initially : holds state) :
    ∀ entry ∈ (setUp rules state).1,
      entry.2 = true → ready entry.1 (setUp rules state).2 :=
  setUp_entries holds
    (fun rule asked state => asked = true → ready rule state)
    (fun rule member => (keeps rule member).cancelled)
    (fun rule member state held interested =>
      (keeps rule member).asked state held interested)
    (undisturbed.imp fun apart _ state isReady isAsked =>
      apart.cancelLater state (isReady isAsked))
    initially

/--
A rule that keeps an invariant and, called when it is ready, returns and has
either served its descriptor or lost interest.
-/
structure Rule.Attentive
    (holds : State → Prop)
    (ready : Rule State Kernel → State → Prop)
    (sane : Kernel → Prop)
    (rule : Rule State Kernel) : Prop extends
      rule.Keeps holds ready sane where
  returns :
    ∀ kernel state,
      holds state →
      ready rule state →
      sane kernel →
      returned (rule.callback kernel state) = some ()
  attends :
    ∀ kernel state,
      holds state →
      ready rule state →
      sane kernel →
      let next := finalState (rule.callback kernel state)
      rule.serviceCount state = rule.serviceCount next →
      rule.interest next = false

/-- The kernel reports no error. -/
def Revents.Faultless (revents : Revents) : Prop :=
  revents.pollerr = false ∧ revents.pollnval = false

/--
Serving keeps the invariant, and it does not throw if the kernel reports no
error and the rules are attentive.
-/
theorem serve_spec
    (allSane : ∀ idx, sane (entry idx).2)
    (keeps : ∀ served ∈ entries, served.1.Keeps holds ready sane)
    (undisturbed :
      (entries.map Prod.fst).Pairwise (Rule.Undisturbed ready))
    (idx : Nat)
    (initially : holds state)
    (asked :
      ∀ served ∈ entries, served.2 = true → ready served.1 state) :
    holds (finalState (serve entry idx entries state)).2 ∧
      ((∀ idx, (entry idx).1.Faultless) →
        (∀ served ∈ entries, served.1.Attentive holds ready sane) →
        returned (serve entry idx entries state) = some ()) := by
  induction entries generalizing idx state with
  | nil =>
      exact ⟨initially, fun _ _ => rfl⟩
  | cons served rest inductionHypothesis =>
      obtain ⟨rule, isAsked⟩ := served
      obtain ⟨apart, restApart⟩ := List.pairwise_cons.mp undisturbed
      have self : rule.Keeps holds ready sane :=
        keeps (rule, isAsked) (.head _)
      have among :
          ∀ other ∈ rest, other.1 ∈ rest.map Prod.fst :=
        fun other member => List.mem_map_of_mem member
      have later :=
        fun {state : State} (held : holds state) =>
          inductionHypothesis
            (fun other member => keeps other (.tail _ member))
            restApart (idx + 1) held
      have askedLater :
          ∀ other ∈ rest, other.2 = true → ready other.1 state :=
        fun other member => asked other (.tail _ member)
      have fewer
          (attentive :
            ∀ served ∈ (rule, isAsked) :: rest,
              served.1.Attentive holds ready sane) :
          ∀ served ∈ rest, served.1.Attentive holds ready sane :=
        fun other member => attentive other (.tail _ member)
      simp only [serve]
      split
      · rename_i fault
        refine ⟨initially, fun faultless => ?_⟩
        rw [(faultless idx).1, (faultless idx).2] at fault
        cases fault
      · split
        · have next :=
            later (self.cancelled state initially)
              fun other member isAsked =>
                (apart _ (among other member)).cancelEarlier state
                  (askedLater other member isAsked)
          exact ⟨next.1, fun faultless attentive =>
            next.2 faultless (fewer attentive)⟩
        · split
          · rename_i isReady
            have selfReady :=
              asked (rule, isAsked) (.head _)
                (Bool.and_eq_true_iff.mp isReady).1
            have kept :=
              self.called (entry idx).2 state initially selfReady
                (allSane idx)
            have next :=
              later kept fun other member isAsked =>
                (apart _ (among other member)).callEarlier (entry idx).2
                  state (askedLater other member isAsked)
            have returns
                (attentive : rule.Attentive holds ready sane) :=
              attentive.returns (entry idx).2 state initially selfReady
                (allSane idx)
            have attends
                (attentive : rule.Attentive holds ready sane) :=
              attentive.attends (entry idx).2 state initially selfReady
                (allSane idx)
            cases call : rule.callback (entry idx).2 state with
            | error thrown after =>
                rw [call] at kept returns
                refine ⟨kept, fun _ attentive => ?_⟩
                cases returns (attentive (rule, isAsked) (.head _))
            | ok _ after =>
                rw [call] at kept next attends
                dsimp only
                split
                · rename_i busy
                  refine ⟨kept, fun _ attentive => ?_⟩
                  have idle :=
                    attends (attentive (rule, isAsked) (.head _)) busy.1
                  rw [show rule.interest after = false from idle] at busy
                  cases busy.2
                · rw [finalState_keep, returned_keep]
                  exact ⟨next.1, fun faultless attentive =>
                    next.2 faultless (fewer attentive)⟩
          · have next := later initially askedLater
            rw [finalState_keep, returned_keep]
            exact ⟨next.1, fun faultless attentive =>
              next.2 faultless (fewer attentive)⟩

/--
The invariant rule: what every rule keeps is kept by waiting for an event,
whether or not that throws.
-/
theorem waitNextEvent_keeps
    (reported : poll.Reports fun entry => sane entry.2)
    (keeps : ∀ rule ∈ rules, rule.Keeps holds ready sane)
    (undisturbed : rules.Pairwise (Rule.Undisturbed ready))
    (initially : holds state) :
    holds (finalState (waitNextEvent poll rules state)).2 := by
  have sublist := setUp_sublist rules state
  have kept :=
    setUp_invariant holds
      (fun rule member => (keeps rule member).cancelled) initially
  rcases waitNextEvent_leaves poll rules state with
    same | ⟨entry, rfl, same⟩
  · rw [same]
    exact kept
  · rw [same]
    exact (serve_spec reported
      (fun served member =>
        keeps served.1 (sublist.subset (List.mem_map_of_mem member)))
      (undisturbed.sublist sublist) 0 kept
      (setUp_ready keeps undisturbed initially)).1

/--
While the kernel behaves, waiting for an event does not throw: no callback does,
and no rule is found waiting busily.
-/
theorem waitNextEvent_returns
    (reported :
      poll.Reports fun entry => entry.1.Faultless ∧ sane entry.2)
    (attentive :
      ∀ rule ∈ rules, rule.Attentive holds ready sane)
    (undisturbed : rules.Pairwise (Rule.Undisturbed ready))
    (initially : holds state) :
    ∃ result,
      returned (waitNextEvent poll rules state) = some result := by
  have sublist := setUp_sublist rules state
  have among :
      ∀ served ∈ (setUp rules state).1,
        served.1.Attentive holds ready sane :=
    fun served member =>
      attentive served.1 (sublist.subset (List.mem_map_of_mem member))
  have keeps :
      ∀ rule ∈ rules, rule.Keeps holds ready sane :=
    fun rule member => (attentive rule member).toKeeps
  simp only [waitNextEvent]
  split
  · exact ⟨_, rfl⟩
  · cases poll with
    | timeout | interrupted | failed =>
        exact ⟨_, rfl⟩
    | events entry =>
        have returns :=
          (serve_spec (fun idx => (reported idx).2)
            (fun served member => (among served member).toKeeps)
            (undisturbed.sublist sublist) 0
            (setUp_invariant holds
              (fun rule member => (keeps rule member).cancelled)
              initially)
            (setUp_ready keeps undisturbed initially)).2
            (fun idx => (reported idx).1) among
        refine ⟨.success, ?_⟩
        dsimp only
        rw [eq_ok_of_returned returns]
        rfl

/-- The descriptor of a rule never reaches its end and is never closed. -/
def Rule.Lives
    (holds : State → Prop)
    (rule : Rule State Kernel) : Prop :=
  ∀ state,
    holds state →
    ¬(rule.direction = .In ∧ (rule.fd state).eof = true) ∧
      (rule.fd state).closed = false

theorem setUp_retains
    (cancelled :
      ∀ rule ∈ rules,
        ∀ state, holds state → holds (rule.cancel state))
    (initially : holds state)
    {rule : Rule State Kernel}
    (member : rule ∈ rules)
    (lives : rule.Lives holds) :
    rule ∈ (setUp rules state).1.map Prod.fst := by
  induction rules generalizing state with
  | nil =>
      cases member
  | cons first rest inductionHypothesis =>
      have later :
          ∀ {state}, holds state → rule ∈ rest →
            rule ∈ (setUp rest state).1.map Prod.fst :=
        fun held inRest => inductionHypothesis
          (fun other member => cancelled other (.tail _ member))
          held inRest
      have without := later (cancelled first (.head _) state initially)
      have inUse := lives state initially
      unfold setUp
      split
      · rename_i atEnd
        rcases List.mem_cons.mp member with rfl | inRest
        · exact absurd atEnd inUse.1
        · exact without inRest
      · split
        · rename_i closed
          rcases List.mem_cons.mp member with rfl | inRest
          · rw [inUse.2] at closed
            cases closed
          · exact without inRest
        · rcases List.mem_cons.mp member with rfl | inRest
          · exact .head _
          · exact .tail _ (later initially inRest)

/-- Serving drops no rule unless a descriptor hangs up. -/
theorem serve_rules
    (connected : ∀ idx, (entry idx).1.pollhup = false)
    (idx : Nat)
    (entries : List (Rule State Kernel × Bool))
    (state : State) :
    (finalState (serve entry idx entries state)).1 =
      entries.map Prod.fst := by
  induction entries generalizing idx state with
  | nil =>
      rfl
  | cons served rest inductionHypothesis =>
      obtain ⟨rule, asked⟩ := served
      simp only [serve, connected, Bool.false_and, Bool.false_eq_true,
        if_false]
      split
      · rfl
      · split
        · cases rule.callback (entry idx).2 state with
          | error thrown next =>
              rfl
          | ok _ next =>
              dsimp only
              split
              · rfl
              · rw [finalState_keep, inductionHypothesis]
                rfl
        · rw [finalState_keep, inductionHypothesis]
          rfl

/-- A rule whose descriptor stays in use is not dropped. -/
theorem waitNextEvent_retains
    (connected : poll.Reports fun entry => entry.1.pollhup = false)
    (cancelled :
      ∀ rule ∈ rules,
        ∀ state, holds state → holds (rule.cancel state))
    (initially : holds state)
    {rule : Rule State Kernel}
    (member : rule ∈ rules)
    (lives : rule.Lives holds) :
    rule ∈ (finalState (waitNextEvent poll rules state)).1 := by
  have retained := setUp_retains cancelled initially member lives
  rcases waitNextEvent_leaves poll rules state with
    same | ⟨entry, rfl, same⟩
  · rw [same]
    exact retained
  · rw [same, serve_rules connected]
    exact retained

/-- When the loop exits by itself, no rule that is left is interested. -/
theorem waitNextEvent_quiet
    (undisturbed :
      rules.Pairwise fun earlier later =>
        ∀ state,
          earlier.interest (later.cancel state) =
            earlier.interest state)
    (exits : returned (waitNextEvent poll rules state) = some .exit)
    (uninterrupted : poll ≠ .interrupted) :
    let left := finalState (waitNextEvent poll rules state)
    ∀ rule ∈ left.1, rule.interest left.2 = false := by
  obtain ⟨same, quiet⟩ := waitNextEvent_exit exits uninterrupted
  have current :
      ∀ entry ∈ (setUp rules state).1,
        entry.2 = entry.1.interest (setUp rules state).2 :=
    setUp_entries (fun _ => True)
      (fun rule asked state => asked = rule.interest state)
      (fun _ _ _ _ => trivial) (fun _ _ _ _ => rfl)
      (undisturbed.imp fun apart asked state found =>
        found.trans (apart state).symm)
      trivial
  rw [same]
  intro left rule member
  obtain ⟨entry, inEntries, rfl⟩ := List.mem_map.mp member
  exact (current entry inEntries).symm.trans (quiet entry inEntries)

end Rules

/-! ## Descriptors that do not hang up -/

section Connected

variable {rules : List (Rule State Kernel)} {state : State}
variable {entries : List (Rule State Kernel × Bool)}
variable {entry : Nat → Revents × Kernel} {poll : Poll Kernel}
variable {holds : State → Prop}
variable {ready : Rule State Kernel → State → Prop}
variable {sane : Kernel → Prop}

/-- The descriptor of a rule has reached its end or is closed. -/
def Rule.AtEnd
    (rule : Rule State Kernel)
    (state : State) : Prop :=
  (rule.direction = .In ∧ (rule.fd state).eof = true) ∨
    (rule.fd state).closed = true

/-- A rule stays until its descriptor is at its end, if no rule ends it. -/
theorem waitNextEvent_retains_of_not_atEnd
    (connected : poll.Reports fun entry => entry.1.pollhup = false)
    {rule : Rule State Kernel}
    (fixed :
      ∀ other ∈ rules,
        ∀ state, rule.fd (other.cancel state) = rule.fd state)
    (member : rule ∈ rules)
    (unended : ¬ rule.AtEnd state) :
    rule ∈ (finalState (waitNextEvent poll rules state)).1 := by
  obtain ⟨reads, opened⟩ := not_or.mp unended
  refine waitNextEvent_retains connected
    (fun other among next same => (fixed other among next).trans same)
    (show rule.fd state = rule.fd state from rfl) member ?_
  intro next same
  rw [same]
  exact ⟨reads, Bool.eq_false_iff.mpr opened⟩

/-- A rule that keeps an invariant if it is cancelled only at an end. -/
structure Rule.KeepsConnected
    (holds : State → Prop)
    (ready : Rule State Kernel → State → Prop)
    (sane : Kernel → Prop)
    (rule : Rule State Kernel) : Prop where
  asked :
    ∀ state,
      holds state →
      rule.interest state = true →
      ready rule state
  cancelled :
    ∀ state,
      holds state →
      rule.AtEnd state →
      holds (rule.cancel state)
  called :
    ∀ kernel state,
      holds state →
      ready rule state →
      sane kernel →
      holds (finalState (rule.callback kernel state))

theorem setUp_connected
    (keeps : ∀ rule ∈ rules, rule.KeepsConnected holds ready sane)
    (undisturbed : rules.Pairwise (Rule.Undisturbed ready))
    (initially : holds state) :
    holds (setUp rules state).2 ∧
      ∀ entry ∈ (setUp rules state).1,
        entry.2 = true → ready entry.1 (setUp rules state).2 := by
  induction rules generalizing state with
  | nil =>
      refine ⟨initially, fun entry member => ?_⟩
      cases member
  | cons rule rest inductionHypothesis =>
      obtain ⟨apart, restApart⟩ := List.pairwise_cons.mp undisturbed
      have self := keeps rule (.head _)
      have later :=
        fun {state : State} (held : holds state) =>
          inductionHypothesis
            (fun other member => keeps other (.tail _ member))
            restApart held
      unfold setUp
      split
      · rename_i atEnd
        exact later (self.cancelled state initially (.inl atEnd))
      · split
        · rename_i closed
          exact later (self.cancelled state initially (.inr closed))
        · obtain ⟨held, asked⟩ := later initially
          refine ⟨held, fun entry member isAsked => ?_⟩
          rcases List.mem_cons.mp member with rfl | inRest
          · exact setUp_invariant (ready rule)
              (fun other member => (apart other member).cancelLater)
              (self.asked state initially isAsked)
          · exact asked entry inRest isAsked

theorem serve_connected
    (allSane : ∀ idx, sane (entry idx).2)
    (keeps :
      ∀ served ∈ entries, served.1.KeepsConnected holds ready sane)
    (undisturbed :
      (entries.map Prod.fst).Pairwise (Rule.Undisturbed ready))
    (idx : Nat)
    (hangs :
      ∀ pos rule,
        (entries.map Prod.fst)[pos]? = some rule →
        (entry (idx + pos)).1.pollhup = true →
        ∀ state, holds state → holds (rule.cancel state))
    (initially : holds state)
    (asked :
      ∀ served ∈ entries, served.2 = true → ready served.1 state) :
    holds (finalState (serve entry idx entries state)).2 := by
  induction entries generalizing idx state with
  | nil =>
      exact initially
  | cons served rest inductionHypothesis =>
      obtain ⟨rule, isAsked⟩ := served
      obtain ⟨apart, restApart⟩ := List.pairwise_cons.mp undisturbed
      have later :=
        fun {state : State} (held : holds state) =>
          inductionHypothesis
            (fun other member => keeps other (.tail _ member))
            restApart (idx + 1)
            (fun pos rule found hungUp =>
              hangs (pos + 1) rule found
                (by rwa [Nat.add_assoc, Nat.add_comm 1 pos] at hungUp))
            held
      have askedLater :
          ∀ other ∈ rest, other.2 = true → ready other.1 state :=
        fun other member => asked other (.tail _ member)
      simp only [serve]
      split
      · exact initially
      · split
        · rename_i hungUp
          simp only [Bool.and_eq_true] at hungUp
          exact later (hangs 0 rule rfl hungUp.1.1 state initially)
            fun other member isAsked =>
              (apart _ (List.mem_map_of_mem member)).cancelEarlier state
                (askedLater other member isAsked)
        · split
          · rename_i isReady
            have selfReady :=
              asked (rule, isAsked) (.head _)
                (Bool.and_eq_true_iff.mp isReady).1
            have kept :=
              (keeps (rule, isAsked) (.head _)).called (entry idx).2 state
                initially selfReady (allSane idx)
            have next :=
              later kept fun other member isAsked =>
                (apart _ (List.mem_map_of_mem member)).callEarlier
                  (entry idx).2 state (askedLater other member isAsked)
            cases call : rule.callback (entry idx).2 state with
            | error thrown after =>
                rw [call] at kept
                exact kept
            | ok _ after =>
                rw [call] at kept next
                dsimp only
                split
                · exact kept
                · rw [finalState_keep]
                  exact next
          · rw [finalState_keep]
            exact later initially askedLater

/-- A hangup is reported for a rule. -/
def Poll.HangsUp
    (poll : Poll Kernel)
    (rules : List (Rule State Kernel))
    (state : State)
    (rule : Rule State Kernel) : Prop :=
  ∃ entry idx,
    poll = .events entry ∧
      (entry idx).1.pollhup = true ∧
      ((setUp rules state).1.map Prod.fst)[idx]? = some rule

theorem Poll.not_hangsUp
    (connected : poll.Reports fun entry => entry.1.pollhup = false)
    (rules : List (Rule State Kernel))
    (state : State)
    (rule : Rule State Kernel) :
    ¬ poll.HangsUp rules state rule := by
  rintro ⟨entry, idx, rfl, hungUp, _⟩
  cases (connected idx).symm.trans hungUp

/--
The invariant rule for a loop in which a rule is cancelled only at an end, or
after a hangup that the invariant survives.
-/
theorem waitNextEvent_connected
    (reported : poll.Reports fun entry => sane entry.2)
    (keeps : ∀ rule ∈ rules, rule.KeepsConnected holds ready sane)
    (hangs :
      ∀ rule ∈ rules,
        poll.HangsUp rules state rule →
        ∀ state, holds state → holds (rule.cancel state))
    (undisturbed : rules.Pairwise (Rule.Undisturbed ready))
    (initially : holds state) :
    holds (finalState (waitNextEvent poll rules state)).2 := by
  have sublist := setUp_sublist rules state
  obtain ⟨kept, asked⟩ := setUp_connected keeps undisturbed initially
  rcases waitNextEvent_leaves poll rules state with
    same | ⟨entry, rfl, same⟩
  · rw [same]
    exact kept
  · rw [same]
    refine serve_connected reported
      (fun served member =>
        keeps served.1 (sublist.subset (List.mem_map_of_mem member)))
      (undisturbed.sublist sublist) 0 ?_ kept asked
    intro pos rule found hungUp
    rw [Nat.zero_add] at hungUp
    exact hangs rule (sublist.subset (List.mem_of_getElem? found))
      ⟨entry, pos, rfl, hungUp, found⟩

end Connected

end EventLoop

end Sponge
