import PreRunner.Recording.RecordingExecutor
import PreRunner.Runs.History

/-!
# Who owns the recorder

An owned recorder that runs is the one the executor believes to be active, so none is launched
beside it and its directory is left alone. Every exit that is seen is looked up and reported: as
finalized after a requested stop and with complete metadata, as a fault otherwise.

The environment moves between any two calls of the operating system (`Evolved`): processes end,
files change, but nobody else starts a recorder that the executor owns. `Sound` holds of the world
and of the log at every such point, so the methods are verified as programs with `Runs.Program`.
-/

namespace PreRunner.Recording

open Runs

/-! ## The processes -/

/-- No owned recorder runs. -/
def NoneRunning (table : ProcessTable) : Prop :=
  ∀ pid p, table pid = some p → p.owned = true → p.running = false

def AtMostOneRunning (table : ProcessTable) : Prop :=
  ∀ pid pid' p p', table pid = some p → table pid' = some p' → p.owned = true →
    p'.owned = true → p.running = true → p'.running = true → pid = pid'

/-- No owned recorder that runs writes this recording. -/
def NotRecording (name : String) (table : ProcessTable) : Prop :=
  ∀ pid p, table pid = some p → p.owned = true → p.running = true → p.output ≠ some name

/-- What moves of the environment leave of the world. -/
structure Evolved (w w' : Recorder) : Prop where
  same : w' = { w with table := w'.table, root := w'.root, now := w'.now, calls := w'.calls }
  /-- An owned process was owned before, and none starts to run. -/
  owned : ∀ pid p', w'.table pid = some p' → p'.owned = true → ∃ p, w.table pid = some p ∧
    p.owned = true ∧ p.output = p'.output ∧ p.permitted = p'.permitted ∧
      (p'.running = true → p.running = true)
  /-- A child stays until its parent takes its exit code. -/
  child : ∀ pid p, w.table pid = some p → p.child = true → ∃ p', w'.table pid = some p' ∧
    p'.child = true ∧ p'.owned = p.owned

namespace Evolved

theorem refl (w : Recorder) : Evolved w w :=
  ⟨rfl, fun _ p' hPid hOwned => ⟨p', hPid, hOwned, rfl, rfl, id⟩,
    fun _ p hPid hChild => ⟨p, hPid, hChild, rfl⟩⟩

theorem trans {w w' w'' : Recorder} (h : Evolved w w') (h' : Evolved w' w'') :
    Evolved w w'' := by
  refine ⟨?_, fun pid p'' hPid hOwned => ?_, fun pid p hPid hChild => ?_⟩
  · have hSame := h'.same
    rw [h.same] at hSame
    exact hSame
  · obtain ⟨p', hPid', hOwned', hOutput', hPermitted', hRunning'⟩ := h'.owned pid p'' hPid hOwned
    obtain ⟨p, hPid₀, hOwned₀, hOutput, hPermitted, hRunning⟩ := h.owned pid p' hPid' hOwned'
    exact ⟨p, hPid₀, hOwned₀, hOutput.trans hOutput', hPermitted.trans hPermitted',
      fun hRuns => hRunning (hRunning' hRuns)⟩
  · obtain ⟨p', hPid', hChild', hOwned'⟩ := h.child pid p hPid hChild
    obtain ⟨p'', hPid'', hChild'', hOwned''⟩ := h'.child pid p' hPid' hChild'
    exact ⟨p'', hPid'', hChild'', hOwned''.trans hOwned'⟩

/-- Replacing one process evolves the world when the replacement follows from what was there. -/
theorem setProcess {w : Recorder} {pid : ℕ} {process : Option OsProcess}
    (hOwned : ∀ p', process = some p' → p'.owned = true → ∃ p, w.table pid = some p ∧
      p.owned = true ∧ p.output = p'.output ∧ p.permitted = p'.permitted ∧
        (p'.running = true → p.running = true))
    (hChild : ∀ p, w.table pid = some p → p.child = true → ∃ p', process = some p' ∧
      p'.child = true ∧ p'.owned = p.owned) : Evolved w (w.setProcess pid process) := by
  refine ⟨rfl, fun other p' hPid hOwned' => ?_, fun other p hPid hChild' => ?_⟩
  · by_cases hOther : other = pid
    · subst hOther
      rw [Recorder.table_setProcess_self] at hPid
      exact hOwned p' hPid hOwned'
    · rw [Recorder.table_setProcess_of_ne hOther] at hPid
      exact ⟨p', hPid, hOwned', rfl, rfl, id⟩
  · by_cases hOther : other = pid
    · subst hOther
      obtain ⟨p', rfl, hRest⟩ := hChild p hPid hChild'
      exact ⟨p', Recorder.table_setProcess_self .., hRest⟩
    · exact ⟨p, (Recorder.table_setProcess_of_ne hOther ..).trans hPid, hChild', rfl⟩

theorem move (w : Recorder) (m : Move) : Evolved w (w.move m) := by
  cases m with
  | exit pid code =>
    dsimp only [Recorder.move]
    split
    · rename_i p hPid
      refine iteInduction (fun _ => setProcess ?_ ?_) fun _ => refl w
      · rintro _ ⟨⟩ hOwned
        exact ⟨p, hPid, hOwned, rfl, rfl, nofun⟩
      · intro p' hPid' hChild
        obtain rfl : p = p' := Option.some.inj (hPid.symm.trans hPid')
        exact ⟨_, rfl, hChild, rfl⟩
    · exact refl w
  | reap pid =>
    dsimp only [Recorder.move]
    split
    · rename_i p hPid
      refine iteInduction (fun hZombie => setProcess nofun ?_) fun _ => refl w
      intro p' hPid' hChild
      obtain rfl : p = p' := Option.some.inj (hPid.symm.trans hPid')
      rw [hChild, Bool.not_true, Bool.and_false] at hZombie
      cases hZombie
    · exact refl w
  | spawn pid command permitted =>
    dsimp only [Recorder.move]
    split
    · exact refl w
    · rename_i hFree
      refine setProcess ?_ ?_
      · rintro _ ⟨⟩ ⟨⟩
      · intro p hPid
        rw [hFree] at hPid
        cases hPid
  | write name entry => exact ⟨rfl, (refl w).owned, (refl w).child⟩
  | wait until_ => exact ⟨rfl, (refl w).owned, (refl w).child⟩

theorem moves (w : Recorder) (ms : List Move) : Evolved w (ms.foldl Recorder.move w) := by
  induction ms generalizing w with
  | nil => exact refl w
  | cons m ms ih => exact (move w m).trans (ih _)

theorem interfere (w : Recorder) (c : Conditions) : Evolved w (w.interfere c) := by
  obtain ⟨hSame, hOwned, hChild⟩ := moves w (c.moves w.calls)
  refine ⟨?_, hOwned, hChild⟩
  unfold Recorder.interfere
  rw [hSame]

variable {w w' : Recorder} (h : Evolved w w')

include h

theorem state : w'.state = w.state := by rw [h.same]
theorem outputPath : w'.outputPath = w.outputPath := by rw [h.same]
theorem pid : w'.pid = w.pid := by rw [h.same]
theorem process : w'.process = w.process := by rw [h.same]
theorem runtime : w'.runtime = w.runtime := by rw [h.same]
theorem log : w'.log = w.log := by rw [h.same]

theorem noneRunning (hNone : NoneRunning w.table) : NoneRunning w'.table := by
  intro pid p' hPid hOwned
  obtain ⟨p, hPid', hOwned', -, -, hRunning⟩ := h.owned pid p' hPid hOwned
  cases hRuns : p'.running with
  | false => rfl
  | true =>
    rw [hNone pid p hPid' hOwned'] at hRunning
    exact (hRunning hRuns).symm

end Evolved

/-! ## The events -/

abbrev Observation := RecorderEvent × ProcessTable

/-- What the latest events say of the recorder. -/
inductive Phase where
  | idle
  | active
  | failed

/-- The phase after the events, latest first: finalized is idle, and a fault is failed. -/
def reached : List Observation → Phase
  | [] => .idle
  | (event, _) :: past =>
    match event with
    | .adopted | .launched _ => .active
    | .finalized => .idle
    | .launchFailed | .faulted .. => .failed
    | .stopRequested | .exited _ | .checked _ | .removed _ => reached past

def RecorderState.phase : RecorderState → Phase
  | .idle => .idle
  | .starting | .recording | .stopping => .active
  | .failed => .failed

/-- A stop was requested, and no recorder has been launched or adopted since. -/
def StopRequested (events : List Observation) : Prop :=
  Since (fun _ o => o.1 ≠ .adopted ∧ ∀ name, o.1 ≠ .launched name)
    (fun _ o => o.1 = .stopRequested) events

/-- No exit waits to be reported. -/
def Settled : List Observation → Prop
  | (.exited _, _) :: _ | (.checked _, _) :: _ => False
  | _ => True

/-- What must hold of an event and the events before it. -/
def Proper (past : List Observation) (o : Observation) : Prop :=
  AtMostOneRunning o.2 ∧
    match o.1 with
    | .launched _ => NoneRunning o.2 ∧ Settled past
    | .removed name => NotRecording name o.2 ∧ Settled past
    | .exited _ => NoneRunning o.2 ∧ reached past = .active ∧ Settled past
    | .checked _ => ∃ code table older, past = (.exited code, table) :: older
    | .finalized => ∃ table code table' older,
        past = (.checked true, table) :: (.exited code, table') :: older ∧ StopRequested older
    | .faulted code complete => ∃ table table' older,
        past = (.checked complete, table) :: (.exited code, table') :: older ∧
          ¬ (complete = true ∧ StopRequested older)
    | .adopted | .launchFailed | .stopRequested => Settled past

/-! ## The invariant -/

/-- An owned recorder that runs is the one the executor believes to be active. -/
structure Owner (w : Recorder) : Prop where
  running : ∀ pid p, w.table pid = some p → p.owned = true → p.running = true →
    w.state.active = true ∧ pid = w.pid ∧ p.output = w.outputPath
  owned : ∀ pid p, w.table pid = some p → p.owned = true → pid ≠ 0 ∧ p.permitted = true
  process : ∀ child, w.process = some child → w.state.active = true ∧ child.pid = w.pid ∧
    if child.returncode = none then ∃ p, w.table w.pid = some p ∧ p.child = true
    else NoneRunning w.table

/-- The events explain the state. -/
structure Logged (w : Recorder) : Prop where
  proper : Always Proper w.log
  settled : Settled w.log
  phase : reached w.log = w.state.phase
  stop : w.state.active = true → (StopRequested w.log ↔ w.state = .stopping)

def Sound (w : Recorder) : Prop := Owner w ∧ Logged w

theorem Owner.noneRunning {w : Recorder} (h : Owner w) (hInactive : w.state.active = false) :
    NoneRunning w.table := by
  intro pid p hPid hOwned
  cases hRunning : p.running with
  | false => rfl
  | true =>
    rw [(h.running pid p hPid hOwned hRunning).1] at hInactive
    cases hInactive

theorem Logged.congr {w w' : Recorder} (hLog : w'.log = w.log) (hState : w'.state = w.state)
    (h : Logged w) : Logged w' := by
  obtain ⟨hProper, hSettled, hPhase, hStop⟩ := h
  refine ⟨?_, ?_, ?_, ?_⟩
  · rwa [hLog]
  · rwa [hLog]
  · rwa [hLog, hState]
  · rwa [hLog, hState]

/-- What the invariant reads. -/
theorem Sound.congr {w w' : Recorder} (hTable : w'.table = w.table) (hState : w'.state = w.state)
    (hPid : w'.pid = w.pid) (hOutput : w'.outputPath = w.outputPath)
    (hProcess : w'.process = w.process) (hLog : w'.log = w.log) (h : Sound w) : Sound w' := by
  obtain ⟨⟨hRunning, hOwned, hChild⟩, hLogged⟩ := h
  refine ⟨⟨?_, ?_, ?_⟩, hLogged.congr hLog hState⟩
  · rwa [hTable, hState, hPid, hOutput]
  · rwa [hTable]
  · rwa [hProcess, hState, hPid, hTable]

namespace RecordingExecutor

open Program

variable {lib : RecordingLibrary} {c : Conditions} {E : RecorderError → Recorder → Prop}

/-- Between the exit and its report. -/
structure Exiting (events : List Observation) (w : Recorder) : Prop where
  noneRunning : NoneRunning w.table
  owned : ∀ pid p, w.table pid = some p → p.owned = true → pid ≠ 0 ∧ p.permitted = true
  log : w.log = events
  proper : Always Proper events

/-- A report is an event after the exit that settles it. -/
theorem Exiting.sound {events : List Observation} {w : Recorder} (h : Exiting events w)
    (hSettled : Settled events) (hState : reached events = w.state.phase)
    (hInactive : w.state.active = false) (hProcess : w.process = none) : Sound w := by
  refine ⟨⟨fun pid p hPid hOwned hRunning => ?_, h.owned, fun child hChild => ?_⟩,
    ?_, ?_, ?_, fun hActive => ?_⟩
  · rw [h.noneRunning pid p hPid hOwned] at hRunning
    cases hRunning
  · rw [hProcess] at hChild
    cases hChild
  · rw [h.log]
    exact h.proper
  · rwa [h.log]
  · rwa [h.log]
  · rw [hInactive] at hActive
    cases hActive

/-- The recorder at this process id was launched or adopted. -/
structure Claimed (name : String) (pid : ℕ) (w : Recorder) : Prop where
  running : ∀ other p, w.table other = some p → p.owned = true → p.running = true →
    other = pid ∧ p.output = some name
  owned : ∀ pid p, w.table pid = some p → p.owned = true → pid ≠ 0 ∧ p.permitted = true
  proper : Always Proper w.log
  settled : Settled w.log
  reached : reached w.log = .active
  stop : ¬ StopRequested w.log

theorem Claimed.sound {name : String} {w : Recorder} (h : Claimed name w.pid w)
    (hState : w.state = .starting ∨ w.state = .recording) (hOutput : w.outputPath = some name)
    (hProcess : ∀ child, w.process = some child → child.pid = w.pid ∧
      child.returncode = none ∧ ∃ p, w.table w.pid = some p ∧ p.child = true) : Sound w := by
  have hActive : w.state.active = true := by
    rcases hState with h | h <;> exact congrArg RecorderState.active h
  refine ⟨⟨fun other p hTable hOwned hRunning => ?_, h.owned, fun child hChild => ?_⟩,
    h.proper, h.settled, h.reached.trans ?_, fun _ => iff_of_false h.stop ?_⟩
  · obtain ⟨hSame, hName⟩ := h.running other p hTable hOwned hRunning
    exact ⟨hActive, hSame, hName.trans hOutput.symm⟩
  · obtain ⟨hPid, hCode, hIsChild⟩ := hProcess child hChild
    rw [if_pos hCode]
    exact ⟨hActive, hPid, hIsChild⟩
  · rcases hState with h | h <;> exact (congrArg RecorderState.phase h).symm
  · rcases hState with h | h <;> (rw [h]; exact nofun)

/-- Nothing is owned yet. -/
structure Creating (w : Recorder) : Prop where
  state : w.state = .idle
  process : w.process = none
  owned : ∀ pid p, w.table pid = some p → p.owned = false
  log : w.log = []

theorem Creating.noneRunning {w : Recorder} (h : Creating w) : NoneRunning w.table := by
  intro pid p hPid hOwned
  rw [h.owned pid p hPid] at hOwned
  cases hOwned

theorem Creating.sound {w : Recorder} (h : Creating w) : Sound w := by
  refine @Exiting.sound w.log _ ⟨h.noneRunning, fun pid p hPid hOwned => ?_, rfl, ?_⟩
    ?_ ?_ ?_ h.process
  · rw [h.owned pid p hPid] at hOwned
    cases hOwned
  · rw [h.log]
    exact trivial
  · rw [h.log]
    exact trivial
  · rw [h.log, h.state]
    rfl
  · rw [h.state]
    rfl

/-- Text without surrounding blanks; every metadata file is complete. -/
def plainLibrary : RecordingLibrary where
  strip text := text
  lower text := text
  metadata _ := some (0, 10 ^ 9)
  profile _ := none
  manifest text := text

end RecordingExecutor

end PreRunner.Recording
