import PreRunner.PyFloat

/-!
# The Paddock reducer

`transition` reduces one event on the mode, lease, RUN, manual and goal state, and lists the
effects an adapter has to perform in order. It reads no clock and performs no I/O. This module
follows `runner_paddock/state_machine.py` function by function.
-/

namespace PreRunner.Paddock

/-- Paddock operating mode. -/
inductive Mode where
  | idle
  | mapping
  | autonomy
  deriving DecidableEq, Repr

/-- Selected command source. -/
inductive Authority where
  | none
  | dualsense
  | paddockManual
  | paddockAutonomy
  deriving DecidableEq, Repr

/-- Inputs accepted by `transition`. -/
inductive Event where
  | acquireLease
  | releaseLease
  | loseLease
  | requestMode
  | selectGoal
  | runPress
  | runRelease
  | stop
  | manualActive
  | manualInactive
  | dualsenseActive
  | dualsenseInactive
  | setActiveMap
  | restart
  deriving DecidableEq, Repr

/-- Declarative work for the ROS adapter. -/
inductive Effect where
  | brake
  | cancelNavigation
  | dispatchGoal
  | leaseGranted
  | leaseRejected
  deriving DecidableEq, Repr

/-- A map-frame goal pose, kept independently of any Nav2 action. -/
structure GoalIntent where
  mapName : String
  x : PyFloat
  y : PyFloat
  yaw : PyFloat
  deriving DecidableEq, Repr

/-- The complete state needed to make the next transition. -/
structure PaddockState where
  mode : Mode := .idle
  acceptedModeRequestId : Int := 0
  activeAutonomyMap : String := ""
  leaseClientId : String := ""
  leaseId : String := ""
  leaseGeneration : Nat := 0
  dualsenseActive : Bool := false
  runHeld : Bool := false
  runBlockedUntilRelease : Bool := false
  manualActive : Bool := false
  goal : Option GoalIntent := none
  navigationActive : Bool := false
  deriving DecidableEq, Repr

namespace PaddockState

/-- Whether the single Paddock control lease is held. -/
def leaseActive (state : PaddockState) : Bool := state.leaseId ≠ ""

/-- The complete Paddock autonomy interlock. -/
def autonomyPermitted (state : PaddockState) : Bool :=
  state.mode = .autonomy && state.leaseActive && state.runHeld &&
    !state.runBlockedUntilRelease && !state.dualsenseActive && state.goal.isSome

/-- The command source the state selects. -/
def authority (state : PaddockState) : Authority :=
  if state.mode = .idle then .none
  else if state.dualsenseActive then .dualsense
  else if state.leaseActive && state.manualActive then .paddockManual
  else if state.autonomyPermitted then .paddockAutonomy
  else .none

end PaddockState

/-- A new state and the ordered effects that go with it. -/
structure Transition where
  state : PaddockState
  effects : List Effect := []
  deriving DecidableEq, Repr

/-- The keyword arguments of `transition`, with the defaults of the source. -/
structure TransitionArgs where
  clientId : String := ""
  leaseId : String := ""
  mode : Option Mode := none
  requestId : Int := 0
  goal : Option GoalIntent := none
  activeAutonomyMap : Option String := none
  deriving DecidableEq, Repr

def ownsLease (state : PaddockState) (leaseId : String) : Bool :=
  state.leaseActive && leaseId = state.leaseId

def stopEffects (state : PaddockState) : List Effect :=
  if state.navigationActive then [.brake, .cancelNavigation] else [.brake]

/-- The events that only the lease owner may cause. -/
def ownerTransition (state : PaddockState) (event : Event) (args : TransitionArgs) :
    Transition :=
  match event with
  | .requestMode =>
    match args.mode with
    | none => { state }
    | some mode =>
      if args.requestId ≤ state.acceptedModeRequestId then { state }
      else if mode = state.mode then
        { state := { state with acceptedModeRequestId := args.requestId } }
      else
        { state := { state with
            mode := mode
            acceptedModeRequestId := args.requestId
            runHeld := false
            runBlockedUntilRelease := false
            manualActive := false
            goal := none
            navigationActive := false }
          effects := stopEffects state }
  | .selectGoal =>
    match args.goal with
    | none => { state }
    | some goal =>
      if state.mode ≠ .autonomy ∨ state.activeAutonomyMap = "" ∨
          goal.mapName ≠ state.activeAutonomyMap then { state }
      else
        let effects := if state.navigationActive then [.brake, .cancelNavigation] else []
        let newState := { state with goal := some goal, navigationActive := false }
        if newState.autonomyPermitted then
          { state := { newState with navigationActive := true }
            effects := effects ++ [.dispatchGoal] }
        else { state := newState, effects := effects }
  | .runPress =>
    if state.runHeld then { state }
    else
      let newState := { state with
        runHeld := true
        runBlockedUntilRelease := state.dualsenseActive }
      if newState.autonomyPermitted then
        { state := { newState with navigationActive := true }, effects := [.dispatchGoal] }
      else { state := newState }
  | .runRelease =>
    if !state.runHeld && !state.runBlockedUntilRelease then { state }
    else
      { state := { state with
          runHeld := false
          runBlockedUntilRelease := false
          navigationActive := false }
        effects := stopEffects state }
  | .stop =>
    { state := { state with
        runHeld := false
        runBlockedUntilRelease := false
        manualActive := false
        navigationActive := false }
      effects := stopEffects state }
  | .manualActive =>
    if state.mode = .idle || state.dualsenseActive then { state }
    else
      { state := { state with
          manualActive := true
          runHeld := false
          runBlockedUntilRelease := false
          navigationActive := false }
        effects := if state.navigationActive then [.brake, .cancelNavigation] else [] }
  | .manualInactive =>
    if !state.manualActive then { state }
    else { state := { state with manualActive := false }, effects := [.brake] }
  | _ => { state }

/-- One reducer step. -/
def transition (state : PaddockState) (event : Event) (args : TransitionArgs := {}) :
    Transition :=
  match event with
  | .restart =>
    { state := { activeAutonomyMap := args.activeAutonomyMap.getD state.activeAutonomyMap } }
  | .setActiveMap =>
    match args.activeAutonomyMap with
    | none => { state }
    | some map =>
      if map = state.activeAutonomyMap then { state }
      else
        { state := { state with
            activeAutonomyMap := map
            runHeld := false
            runBlockedUntilRelease := false
            manualActive := false
            goal := none
            navigationActive := false }
          effects := stopEffects state }
  | .acquireLease =>
    if state.leaseActive || args.clientId = "" || args.leaseId = "" then
      { state, effects := [.leaseRejected] }
    else
      { state := { state with
          leaseClientId := args.clientId
          leaseId := args.leaseId
          leaseGeneration := state.leaseGeneration + 1
          acceptedModeRequestId := 0 }
        effects := [.leaseGranted] }
  | .releaseLease | .loseLease =>
    if !ownsLease state args.leaseId then { state }
    else
      { state := { state with
          leaseClientId := ""
          leaseId := ""
          leaseGeneration := state.leaseGeneration + 1
          runHeld := false
          runBlockedUntilRelease := false
          manualActive := false
          goal := none
          navigationActive := false }
        effects := stopEffects state }
  | .dualsenseActive =>
    if state.dualsenseActive then { state }
    else
      { state := { state with
          dualsenseActive := true
          runBlockedUntilRelease := state.runHeld
          manualActive := false
          navigationActive := false }
        effects :=
          if state.authority = .paddockManual ∨ state.authority = .paddockAutonomy then
            stopEffects state
          else [] }
  | .dualsenseInactive => { state := { state with dualsenseActive := false } }
  | event =>
    if !ownsLease state args.leaseId then { state } else ownerTransition state event args

end PreRunner.Paddock
