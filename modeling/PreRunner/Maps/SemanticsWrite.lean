import PreRunner.Maps.BundleDeletion
import PreRunner.Maps.Semantics
import PreRunner.Runs.Interruption
import PreRunner.Text.JsonLibrary

/-!
# Writing a semantic raster, operation by operation

`write_semantics` validates the bundle, replaces the raster and then the manifest. Each of its file
operations may raise an `OSError`, and the process may end before any of them. This module follows
`_atomic_write` and `write_semantics` of `runner_paddock/semantics.py` that closely.
-/

namespace PreRunner.Maps

open Runs Interruptible

namespace FileSystem

/-- `path.unlink()`. -/
def unlink (fs : FileSystem) (path : FilePath) : FileSystem :=
  { fs with file := Function.update fs.file path none }

/-- Nothing is at this path. -/
def isFree (fs : FileSystem) (path : FilePath) : Bool := !fs.isFile path && !fs.isDir path

end FileSystem

/-! ## Atomic replacement -/

/-- How the operations of one `_atomic_write` go. -/
structure AtomicFaults where
  create : Fault := .fine
  /-- Writing, flushing and syncing the temporary file. -/
  write : Fault := .fine
  /-- How much of the data is there if that ends early. -/
  written : ℕ := 0
  replace : Fault := .fine
  unlink : Fault := .fine
  /-- The random part of the temporary file's name. -/
  random : String := ""

namespace AtomicFaults

def temporary (faults : AtomicFaults) (base : FilePath) (name : String) : FilePath :=
  base ++ ["." ++ name ++ "." ++ faults.random]

end AtomicFaults

/-- Remove the temporary file after a failed replacement. -/
def discard (faults : AtomicFaults) (temporary : FilePath) :
    Interruptible FileSystem MapError Unit := do
  operation .osError faults.unlink
  change (·.unlink temporary)
  Program.raise (.raised .osError)

/-- Fill the temporary file, which is created exclusively. -/
def fillTemporary (faults : AtomicFaults) (temporary : FilePath) (data : Bytes) :
    Interruptible FileSystem MapError Unit := do
  operation .osError faults.create
  let s ← Program.get
  if !s.now.isFree temporary then Program.raise (.raised .osError)
  else
    change (·.write temporary [])
    change (·.write temporary (if faults.write = .fine then data else data.take faults.written))
    operation .osError faults.write

/-- `os.replace(temporary, path)`. -/
def replaceBy (faults : AtomicFaults) (temporary path : FilePath) (data : Bytes) :
    Interruptible FileSystem MapError Unit := do
  let s ← Program.get
  match faults.replace with
  | .crashes => Program.raise .crashed
  | .fails => discard faults temporary
  | .fine =>
    if s.now.isDir path then discard faults temporary
    else change fun fs => (fs.write path data).unlink temporary

/-- `_atomic_write`. -/
def atomicWrite (faults : AtomicFaults) (base : FilePath) (name : String) (data : Bytes) :
    Interruptible FileSystem MapError Unit := do
  fillTemporary faults (faults.temporary base name) data
  replaceBy faults (faults.temporary base name) (base ++ [name]) data

/-! ### Its outcomes -/

/-- The temporary file is filled from these files. -/
structure AtomicFaults.Fills (faults : AtomicFaults) (temporary : FilePath) (fs : FileSystem) :
    Prop where
  create : faults.create = .fine
  free : fs.isFree temporary = true
  write : faults.write = .fine

/-- The replacement comes about from these files. -/
structure AtomicFaults.Completes (faults : AtomicFaults) (base : FilePath) (name : String)
    (fs : FileSystem) : Prop where
  fills : faults.Fills (faults.temporary base name) fs
  replace : faults.replace = .fine
  target : fs.isDir (base ++ [name]) = false

/-- These files, possibly with a temporary file beside them. -/
def Around (fs : FileSystem) (temporary : FilePath) (next : FileSystem) : Prop :=
  next = fs ∨ fs.isFree temporary = true ∧ ∃ data, next = fs.write temporary data

section Outcomes

variable {fs next : FileSystem} {temporary path : FilePath} {faults : AtomicFaults}
  {data : Bytes}

theorem Around.isDir (h : Around fs temporary next) : next.isDir = fs.isDir := by
  rcases h with rfl | ⟨-, data, rfl⟩
  · rfl
  · rfl

theorem Around.file (h : Around fs temporary next) (hPath : path ≠ temporary) :
    next.file path = fs.file path := by
  rcases h with rfl | ⟨-, data, rfl⟩
  · rfl
  · exact FileSystem.file_write_of_ne _ hPath _

theorem FileSystem.write_write (fs : FileSystem) (path : FilePath) (first second : Bytes) :
    (fs.write path first).write path second = fs.write path second := by
  unfold FileSystem.write
  rw [Function.update_idem]

theorem file_eq_none_of_isFree (h : fs.isFree path = true) : fs.file path = none := by
  unfold FileSystem.isFree FileSystem.isFile at h
  rw [Bool.and_eq_true, Bool.not_eq_true', Option.isSome_eq_false_iff, Option.isNone_iff_eq_none]
    at h
  exact h.1

/-- A temporary file that goes leaves nothing behind. -/
theorem unlink_write (h : fs.isFree temporary = true) (data : Bytes) :
    (fs.write temporary data).unlink temporary = fs := by
  unfold FileSystem.write FileSystem.unlink
  dsimp only
  rw [Function.update_idem, ← file_eq_none_of_isFree h, Function.update_eq_self]

theorem unlink_write_write (h : fs.isFree temporary = true) (hPath : path ≠ temporary)
    (filled data : Bytes) :
    ((fs.write temporary filled).write path data).unlink temporary = fs.write path data := by
  unfold FileSystem.write FileSystem.unlink
  refine congrArg (FileSystem.mk · fs.isDir) (funext fun other => ?_)
  by_cases hOther : other = temporary
  · subst hOther
    rw [Function.update_self, Function.update_of_ne hPath.symm, file_eq_none_of_isFree h]
  · rw [Function.update_of_ne hOther]
    dsimp only
    by_cases hTarget : other = path
    · subst hTarget
      rw [Function.update_self, Function.update_self]
    · rw [Function.update_of_ne hTarget, Function.update_of_ne hOther,
        Function.update_of_ne hTarget]

theorem discard_cases {s : Recorded FileSystem} (hFree : fs.isFree temporary = true)
    (hNow : s.now = fs.write temporary data) :
    ∃ ending t, discard faults temporary s = (.error ending, t) ∧
      Interrupt.Stops .osError ending ∧ Adds (Around fs temporary) s t := by
  unfold discard
  rcases operation_cases MapError.osError faults.unlink s with ⟨-, hRun⟩ | ⟨-, ending, hRun, hStops⟩
  · have hGone : Around fs temporary (s.now.unlink temporary) :=
      Or.inl (by rw [hNow, unlink_write hFree])
    refine ⟨.raised .osError, ⟨s.now.unlink temporary, s.seen⟩, ?_, .inl rfl,
      adds_change hGone⟩
    rw [Program.bind_ok hRun]
    rfl
  · exact ⟨ending, s, Program.bind_error hRun, hStops, adds_refl _ _⟩

theorem fillTemporary_cases (faults : AtomicFaults) (temporary : FilePath) (data : Bytes)
    (s : Recorded FileSystem) :
    (¬ faults.Fills temporary s.now ∧ ∃ ending t,
      fillTemporary faults temporary data s = (.error ending, t) ∧
        Interrupt.Stops .osError ending ∧ Adds (Around s.now temporary) s t) ∨
    (faults.Fills temporary s.now ∧ ∃ t, fillTemporary faults temporary data s = (.ok (), t) ∧
      t.now = s.now.write temporary data ∧ Adds (Around s.now temporary) s t) := by
  unfold fillTemporary
  rcases operation_cases MapError.osError faults.create s with
    ⟨hCreate, hRun⟩ | ⟨hCreate, ending, hRun, hStops⟩
  · rw [Program.bind_ok hRun, Program.bind_ok (show Program.get s = (.ok s, s) from rfl)]
    cases hFree : s.now.isFree temporary with
    | false =>
      refine .inl ⟨fun h => ?_, .raised .osError, s, rfl, .inl rfl, adds_refl _ _⟩
      exact Bool.false_ne_true (hFree.symm.trans h.free)
    | true =>
      rw [if_neg (by simp)]
      generalize hFilled : (if faults.write = .fine then data else data.take faults.written) =
        filled
      have hCreated : Around s.now temporary (s.now.write temporary []) := .inr ⟨hFree, [], rfl⟩
      have hPartial : Around s.now temporary ((s.now.write temporary []).write temporary filled) :=
        .inr ⟨hFree, filled, FileSystem.write_write ..⟩
      have hAdds : Adds (Around s.now temporary) s
          ⟨(s.now.write temporary []).write temporary filled,
            (⟨s.now.write temporary [], s.seen⟩ : Recorded FileSystem).seen⟩ :=
        (adds_change hCreated).trans (adds_change hPartial)
      rw [Program.bind_ok (show change (·.write temporary []) s =
          (.ok (), ⟨s.now.write temporary [], s.seen⟩) from rfl),
        Program.bind_ok (show change (·.write temporary filled)
          ⟨s.now.write temporary [], s.seen⟩ = (.ok (), _) from rfl)]
      rcases operation_cases MapError.osError faults.write
          (⟨(s.now.write temporary []).write temporary filled,
            (⟨s.now.write temporary [], s.seen⟩ : Recorded FileSystem).seen⟩) with
        ⟨hWrite, hRun⟩ | ⟨hWrite, ending, hRun, hStops⟩
      · refine .inr ⟨⟨hCreate, hFree, hWrite⟩, _, hRun, ?_, hAdds⟩
        rw [if_pos hWrite] at hFilled
        rw [hFilled]
        exact FileSystem.write_write ..
      · exact .inl ⟨fun h => hWrite h.write, ending, _, hRun, hStops, hAdds⟩
  · exact .inl ⟨fun h => hCreate h.create, ending, s, Program.bind_error hRun, hStops,
      adds_refl _ _⟩

theorem replaceBy_cases (faults : AtomicFaults) (path : FilePath) (data : Bytes)
    {s : Recorded FileSystem} (hFree : fs.isFree temporary = true) (hPath : path ≠ temporary)
    {filled : Bytes} (hNow : s.now = fs.write temporary filled) :
    (¬ (faults.replace = .fine ∧ fs.isDir path = false) ∧ ∃ ending t,
      replaceBy faults temporary path data s = (.error ending, t) ∧
        Interrupt.Stops .osError ending ∧ Adds (Around fs temporary) s t) ∨
    ((faults.replace = .fine ∧ fs.isDir path = false) ∧
      replaceBy faults temporary path data s = (.ok (), ⟨fs.write path data, s.seen⟩)) := by
  have hDir : s.now.isDir path = fs.isDir path := by
    rw [hNow]
    rfl
  unfold replaceBy
  rw [Program.bind_ok (show Program.get s = (.ok s, s) from rfl)]
  cases hReplace : faults.replace with
  | crashes => exact .inl ⟨(nomatch ·.1), .crashed, s, rfl, .inr rfl, adds_refl _ _⟩
  | fails => exact .inl ⟨(nomatch ·.1), discard_cases hFree hNow⟩
  | fine =>
    dsimp only
    rw [hDir]
    cases hTarget : fs.isDir path with
    | true => exact .inl ⟨(nomatch ·.2), discard_cases hFree hNow⟩
    | false =>
      refine .inr ⟨⟨rfl, rfl⟩, ?_⟩
      rw [if_neg Bool.false_ne_true, ← unlink_write_write hFree hPath filled data, ← hNow]
      rfl

/-- An atomic replacement comes about, or it leaves the file as it was. -/
theorem atomicWrite_cases (faults : AtomicFaults) (base : FilePath) (name : String) (data : Bytes)
    (s : Recorded FileSystem) (hName : base ++ [name] ≠ faults.temporary base name) :
    (¬ faults.Completes base name s.now ∧ ∃ ending t,
      atomicWrite faults base name data s = (.error ending, t) ∧
        Interrupt.Stops .osError ending ∧ Adds (Around s.now (faults.temporary base name)) s t) ∨
    (faults.Completes base name s.now ∧ ∃ t : Recorded FileSystem,
      atomicWrite faults base name data s =
        (.ok (), ⟨s.now.write (base ++ [name]) data, t.seen⟩) ∧
      Adds (Around s.now (faults.temporary base name)) s t) := by
  unfold atomicWrite
  rcases fillTemporary_cases faults (faults.temporary base name) data s with
    ⟨hNot, ending, t, hRun, hStops, hAdds⟩ | ⟨hFills, t, hRun, hNow, hAdds⟩
  · exact .inl ⟨fun h => hNot h.fills, ending, t, Program.bind_error hRun, hStops, hAdds⟩
  · rw [Program.bind_ok hRun]
    rcases replaceBy_cases faults (base ++ [name]) data hFills.free hName hNow with
      ⟨hNot, ending, u, hReplace, hStops, hMore⟩ | ⟨⟨hReplace, hTarget⟩, hDone⟩
    · exact .inl ⟨fun h => hNot ⟨h.replace, h.target⟩, ending, u, hReplace, hStops,
        hAdds.trans hMore⟩
    · exact .inr ⟨⟨hFills, hReplace, hTarget⟩, t, hDone, hAdds⟩

end Outcomes

/-! ## The raster and the manifest -/

/-- How the operations of `write_semantics` go. -/
structure WriteFaults where
  /-- The operations of `validate_bundle`, but for reading the manifest. -/
  validate : Fault := .fine
  validateManifest : Fault := .fine
  semantics : AtomicFaults := {}
  /-- `path.is_file()` of the manifest. -/
  statManifest : Fault := .fine
  readManifest : Fault := .fine
  /-- Hashing the files. -/
  build : Fault := .fine
  manifest : AtomicFaults := {}

/-- A failure that is caught. -/
def caught : Fault → Fault
  | .fails => .fine
  | fault => fault

section Write

variable (zlib : Zlib) (lib : BundleLibrary)

/-- The library of `read_manifest`: a manifest that cannot be read is as good as absent. -/
def BundleLibrary.reading (fault : Fault) : BundleLibrary :=
  if fault = .fails then { lib with json := fun _ => none } else lib

/-- The manifest that takes the place of the previous one. -/
def rewrittenManifest (now : PyFloat) (fs : FileSystem) (base : FilePath) (mapId : String)
    (previous : PyDict) : Except PyError PyValue :=
  buildManifest lib fs (manifestText lib previous "session_id") mapId base
    (createdOr now (PyDict.get? previous "created"))

/-- Republish the manifest of the files that exist now. -/
def republishManifest (faults : WriteFaults) (now : PyFloat) (base : FilePath) (mapId : String) :
    Interruptible FileSystem MapError Unit := do
  operation .osError faults.statManifest
  operation .osError (caught faults.readManifest)
  let s ← Program.get
  let previous := (readManifest (lib.reading faults.readManifest) s.now base).getD []
  operation .osError faults.build
  let manifest ← lift ((rewrittenManifest lib now s.now base mapId previous).mapError .python)
  atomicWrite faults.manifest base manifestName (lib.dumps manifest)

/-- The raster's bytes, for the bundle as it is. -/
def encodeRaster (faults : WriteFaults) (mapDir : FilePath) (mapId : String) (gridData : Bytes) :
    Interruptible FileSystem MapError Bytes := do
  operation .osError faults.validate
  operation .osError (caught faults.validateManifest)
  let s ← Program.get
  let info ← lift (validateBundle (lib.reading faults.validateManifest) s.now mapDir mapId)
  lift (encodeSemanticsPng zlib info.width info.height gridData)

/-- `write_semantics`. -/
def interruptedWrite (faults : WriteFaults) (now : PyFloat) (mapDir : FilePath) (mapId : String)
    (gridData : Bytes) : Interruptible FileSystem MapError Unit := do
  let blob ← encodeRaster zlib lib faults mapDir mapId gridData
  let base ← lift (mapDirectory mapDir mapId)
  atomicWrite faults.semantics base semanticsName blob
  republishManifest lib faults now base mapId

end Write

end PreRunner.Maps
