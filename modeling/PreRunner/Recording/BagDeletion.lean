import PreRunner.Recording.RecordingExecutor

/-!
# Deleting a recording

`RecordingExecutor.delete` removes a recording entry by entry and looks at each one before it does.
Here nobody else changes the files, and every call of the operating system may fail. A deletion that
ends early has removed what came before. So it is atomic exactly when it meets nothing that stops
it, or meets it at the first entry.

`Whole` says that a deletion has removed everything or, with a failure reported, nothing.
`Undivided` is a condition on the directory and on the faults it meets; it does not ask what the
deletion has done.
-/

namespace PreRunner.Recording

/-- What the directory of a recording holds under a name. -/
inductive DirectoryItem where
  | file (text : String)
  /-- A symbolic link, with the text of the regular file that it leads to, if it does. -/
  | symlink (target : Option String)
  | directory
  /-- A socket or another special file. -/
  | special
  deriving DecidableEq

/-- The entries of a directory, in the order in which it lists them. -/
abbrev Directory := List (String × DirectoryItem)

namespace DirectoryItem

/-- The text of the item, if `item.is_file()`. -/
def text? : DirectoryItem → Option String
  | file text => some text
  | symlink target => target
  | directory | special => none

/-- `item.is_file() or item.is_symlink()`. -/
def isFileOrSymlink : DirectoryItem → Bool
  | file _ | symlink _ => true
  | directory | special => false

end DirectoryItem

/-- Which calls of the operating system raise an `OSError`. -/
structure DeletionFaults where
  /-- Reading the metadata. -/
  read : Bool
  listing : Bool
  /-- Looking at this entry. -/
  stat : String → Bool
  unlink : String → Bool
  /-- Removing the directory, as it does for a symbolic link to one. -/
  rmdir : Bool

/-- The fields of the executor that a deletion reads and writes, and the directories below the
root. -/
structure BagRoot where
  state : RecorderState
  outputPath : Option String
  acceptedRequestId : ℕ
  detail : String
  bags : String → Option Directory

namespace BagDeletion

variable (lib : RecordingLibrary) (faults : DeletionFaults)

/-- `read_recording_info(target) is not None`. -/
def isFinalized (bag : Directory) : Bool :=
  !faults.read &&
    (((bag.lookup "metadata.yaml").bind DirectoryItem.text?).bind lib.metadata).isSome

/-- `safe_recording_name`. -/
def safeRecordingName (timestamp name : String) : Except RecorderError String :=
  if lib.strip name = "" then .ok timestamp
  else if RecordingExecutor.isSafeName (lib.strip name) then .ok (lib.strip name)
  else .error (.valueError ("name must start with a letter or digit and contain only " ++
    "letters, digits, dot, underscore, or dash"))

/-- The loop over the entries, with what it leaves. -/
def unlinkAll : Directory → Directory × Except RecorderError Unit
  | [] => ([], .ok ())
  | entry :: rest =>
    if faults.stat entry.1 then (entry :: rest, .error .osError)
    else if entry.2.isFileOrSymlink then
      if faults.unlink entry.1 then (entry :: rest, .error .osError) else unlinkAll rest
    else (entry :: rest, .error (.valueError "recording contains an unexpected directory"))

/-- The deletion of a directory that has passed the checks. -/
def removeBag (bag : Directory) : Option Directory × Except RecorderError Unit :=
  if faults.listing then (some bag, .error .osError)
  else
    match unlinkAll faults bag with
    | (left, .error error) => (some left, .error error)
    | (left, .ok ()) =>
      if faults.rmdir || !left.isEmpty then (some left, .error .osError) else (none, .ok ())

/-- `delete`. -/
def delete (timestamp : String) (root : BagRoot) (requestId : ℕ) (name : String) :
    BagRoot × Except RecorderError Unit :=
  match safeRecordingName lib timestamp name with
  | .error error => (root, .error error)
  | .ok basename =>
    if root.outputPath = some basename ∧ root.state.active then
      (root, .error (.valueError "cannot delete the active recording"))
    else
      match root.bags basename with
      | none => (root, .error (.valueError "recording does not exist or is not finalized"))
      | some bag =>
        if !isFinalized lib faults bag then
          (root, .error (.valueError "recording does not exist or is not finalized"))
        else
          match removeBag faults bag with
          | (left, .error error) =>
            ({ root with bags := Function.update root.bags basename left }, .error error)
          | (left, .ok ()) =>
            ({ root with
              bags := Function.update root.bags basename left
              acceptedRequestId := requestId
              detail := "deleted " ++ basename }, .ok ())

/-! ## When a deletion is atomic -/

/-- The loop removes this entry. -/
def Removes (entry : String × DirectoryItem) : Prop :=
  faults.stat entry.1 = false ∧ entry.2.isFileOrSymlink = true ∧ faults.unlink entry.1 = false

/-- Nothing stops the deletion of a directory, or its listing or its first entry does. -/
def Undivided (bag : Directory) : Prop :=
  faults.listing = true ∨ ((∀ entry ∈ bag, Removes faults entry) ∧ faults.rmdir = false) ∨
    ∀ entry ∈ bag.head?, ¬ Removes faults entry

/-- The whole recording is gone and success is reported, or all recordings are as they were and a
failure is. -/
def Whole (timestamp : String) (root : BagRoot) (name : String) :
    BagRoot × Except RecorderError Unit → Prop
  | (after, .ok ()) => ∃ basename, safeRecordingName lib timestamp name = .ok basename ∧
      (root.bags basename).isSome ∧ after.bags = Function.update root.bags basename none
  | (after, .error _) => after.bags = root.bags

variable {lib faults}

theorem unlinkAll_cons_of_removes {entry : String × DirectoryItem} {rest : Directory}
    (h : Removes faults entry) : unlinkAll faults (entry :: rest) = unlinkAll faults rest := by
  obtain ⟨hStat, hItem, hUnlink⟩ := h
  rw [unlinkAll, hStat, hItem, hUnlink]
  rfl

theorem unlinkAll_cons_of_not_removes {entry : String × DirectoryItem} {rest : Directory}
    (h : ¬ Removes faults entry) :
    ∃ error, unlinkAll faults (entry :: rest) = (entry :: rest, .error error) := by
  unfold unlinkAll
  split
  · exact ⟨_, rfl⟩
  · rename_i hStat
    split
    · rename_i hItem
      split
      · exact ⟨_, rfl⟩
      · rename_i hUnlink
        exact absurd ⟨Bool.not_eq_true _ ▸ hStat, hItem, Bool.not_eq_true _ ▸ hUnlink⟩ h
    · exact ⟨_, rfl⟩

/-- What the loop leaves is an end of the directory, empty exactly when all has gone. -/
theorem unlinkAll_cases (bag : Directory) :
    ((∀ entry ∈ bag, Removes faults entry) ∧ unlinkAll faults bag = ([], .ok ())) ∨
    ∃ removed left error, bag = removed ++ left ∧ (∀ entry ∈ removed, Removes faults entry) ∧
      (∃ entry ∈ left.head?, ¬ Removes faults entry) ∧
      unlinkAll faults bag = (left, .error error) := by
  induction bag with
  | nil => exact .inl ⟨nofun, rfl⟩
  | cons entry rest ih =>
    by_cases hEntry : Removes faults entry
    · rw [unlinkAll_cons_of_removes hEntry]
      obtain ⟨hRest, hAll⟩ | ⟨removed, left, error, rfl, hRemoved, hLeft, hAll⟩ := ih
      · exact .inl ⟨List.forall_mem_cons.mpr ⟨hEntry, hRest⟩, hAll⟩
      · exact .inr ⟨entry :: removed, left, error, rfl,
          List.forall_mem_cons.mpr ⟨hEntry, hRemoved⟩, hLeft, hAll⟩
    · obtain ⟨error, hAll⟩ := @unlinkAll_cons_of_not_removes _ _ rest hEntry
      exact .inr ⟨[], entry :: rest, error, rfl, nofun, ⟨entry, rfl, hEntry⟩, hAll⟩

theorem removeBag_ok {bag : Directory} {left : Option Directory} {value : Unit}
    (h : removeBag faults bag = (left, .ok value)) : left = none := by
  unfold removeBag at h
  split at h
  · exact nomatch (Prod.mk.inj h).2
  · split at h
    · exact nomatch (Prod.mk.inj h).2
    · split at h
      · exact nomatch (Prod.mk.inj h).2
      · exact (Prod.mk.inj h).1.symm

/-- A deletion that ends early leaves the directory as it was exactly if it has removed nothing. -/
theorem removeBag_whole_iff {bag : Directory} (hBag : bag ≠ []) :
    removeBag faults bag = (none, .ok ()) ∨
        (∃ error, removeBag faults bag = (some bag, .error error)) ↔
      Undivided faults bag := by
  unfold removeBag Undivided
  cases hListing : faults.listing with
  | true => exact iff_of_true (.inr ⟨_, rfl⟩) (.inl rfl)
  | false =>
    rw [if_neg Bool.false_ne_true, or_iff_right Bool.false_ne_true]
    obtain ⟨hAll, hLoop⟩ | ⟨removed, left, error, rfl, hRemoved, ⟨first, hFirst, hStops⟩, hLoop⟩ :=
      @unlinkAll_cases faults bag
    · rw [hLoop]
      dsimp only
      cases hRmdir : faults.rmdir with
      | false => exact iff_of_true (.inl rfl) (.inl ⟨hAll, rfl⟩)
      | true =>
        refine iff_of_false ?_ ?_
        · rintro (h | ⟨error, h⟩)
          · exact nomatch h
          · exact hBag (Option.some.inj (Prod.mk.inj h).1).symm
        · rintro (h | h)
          · exact nomatch h.2
          · obtain ⟨entry, rest, rfl⟩ := List.exists_cons_of_ne_nil hBag
            exact h entry rfl (hAll entry List.mem_cons_self)
    · rw [hLoop]
      dsimp only
      cases removed with
      | nil =>
        refine iff_of_true (.inr ⟨error, rfl⟩) (.inr fun entry hEntry => ?_)
        cases Option.mem_unique hEntry hFirst
        exact hStops
      | cons entry rest =>
        refine iff_of_false ?_ ?_
        · rintro (h | ⟨other, h⟩)
          · exact nomatch h
          · have hLength := congrArg List.length (Option.some.inj (Prod.mk.inj h).1)
            rw [List.length_append, List.length_cons] at hLength
            omega
        · rintro (h | h)
          · exact hStops (h.1 first (List.mem_append_right _ (List.mem_of_mem_head? hFirst)))
          · exact h entry rfl (hRemoved entry List.mem_cons_self)

theorem ne_nil_of_isFinalized {bag : Directory} (h : isFinalized lib faults bag = true) :
    bag ≠ [] := by
  rintro rfl
  unfold isFinalized at h
  rw [Bool.and_eq_true] at h
  exact nomatch h.2

/-- The recording passes the checks of a deletion. -/
def Accepted (lib : RecordingLibrary) (faults : DeletionFaults) (timestamp : String)
    (root : BagRoot) (name basename : String) (bag : Directory) : Prop :=
  safeRecordingName lib timestamp name = .ok basename ∧
    ¬ (root.outputPath = some basename ∧ root.state.active = true) ∧
    root.bags basename = some bag ∧ isFinalized lib faults bag = true

/-- A deletion removes the whole recording or, reporting a failure, nothing, exactly if the
directory of a recording that has passed the checks is undivided. `removeBag_whole_iff` treats the
removal itself; a request that is refused before it leaves everything as it was. -/
theorem delete_whole_iff (lib : RecordingLibrary) (faults : DeletionFaults) (timestamp : String)
    (root : BagRoot) (requestId : ℕ) (name : String) :
    Whole lib timestamp root name (delete lib faults timestamp root requestId name) ↔
      ∀ basename bag, Accepted lib faults timestamp root name basename bag →
        Undivided faults bag := by
  unfold delete
  cases hName : safeRecordingName lib timestamp name with
  | error error => exact iff_of_true rfl fun basename bag h => nomatch h.1.symm.trans hName
  | ok basename =>
    have hOnly : ∀ other bag, Accepted lib faults timestamp root name other bag →
        other = basename := fun other bag h => Except.ok.inj (h.1.symm.trans hName)
    dsimp only
    split
    · rename_i hActive
      exact iff_of_true rfl fun other bag h => absurd (hOnly other bag h ▸ hActive) h.2.1
    · rename_i hActive
      cases hBag : root.bags basename with
      | none =>
        refine iff_of_true rfl fun other bag h => ?_
        obtain rfl := hOnly other bag h
        exact nomatch hBag.symm.trans h.2.2.1
      | some bag =>
        dsimp only
        cases hFinal : isFinalized lib faults bag with
        | false =>
          refine iff_of_true rfl fun other bag' h => ?_
          obtain rfl := hOnly other bag' h
          cases hBag.symm.trans h.2.2.1
          exact nomatch hFinal.symm.trans h.2.2.2
        | true =>
          rw [Bool.not_true, if_neg Bool.false_ne_true]
          have hAccepted : (∀ other bag', Accepted lib faults timestamp root name other bag' →
              Undivided faults bag') ↔ Undivided faults bag := by
            refine ⟨fun h => h basename bag ⟨hName, hActive, hBag, hFinal⟩,
              fun h other bag' h' => ?_⟩
            obtain rfl := hOnly other bag' h'
            cases hBag.symm.trans h'.2.2.1
            exact h
          rw [hAccepted, ← removeBag_whole_iff (ne_nil_of_isFinalized hFinal)]
          have hUpdate : ∀ left : Option Directory,
              Function.update root.bags basename left = root.bags ↔
                left = some bag := fun left => by
            rw [Function.update_eq_self_iff, hBag]
          cases hRemove : removeBag faults bag with
          | mk left result =>
            cases result with
            | error error =>
              change Function.update root.bags basename left = root.bags ↔ _
              rw [hUpdate]
              constructor
              · rintro rfl
                exact .inr ⟨error, rfl⟩
              · rintro (h | ⟨other, h⟩)
                · exact nomatch h
                · exact (Prod.mk.inj h).1
            | ok value =>
              obtain rfl := removeBag_ok hRemove
              refine iff_of_true ⟨basename, hName, ?_, rfl⟩ (.inl rfl)
              rw [hBag]
              rfl

def nestedMetadata : String :=
  "rosbag2_bagfile_information:\n  starting_time:\n    nanoseconds_since_epoch: 0\n" ++
    "  duration:\n    nanoseconds: 0\n"

/-- Metadata, a bag and a subdirectory. -/
def nestedBag : Directory :=
  [("metadata.yaml", .file nestedMetadata), ("bag_0.mcap", .file "samples"),
    ("notes", .directory)]

/-- The libraries on what the deletion of this recording asks them. -/
def nestedLibrary : RecordingLibrary where
  strip name := name
  lower name := name
  metadata text := if text = nestedMetadata then some (0, 0) else none
  profile _ := none
  manifest _ := ""

def noFaults : DeletionFaults where
  read := false
  listing := false
  stat _ := false
  unlink _ := false
  rmdir := false

def nestedRoot : BagRoot where
  state := .idle
  outputPath := none
  acceptedRequestId := 0
  detail := "idle"
  bags name := if name = "bag" then some nestedBag else none

/-- The deletion of a recording with a subdirectory fails after it has removed the bag. -/
theorem nested_bag_loses_files :
    ¬ Whole nestedLibrary "" nestedRoot "bag"
      (delete nestedLibrary noFaults "" nestedRoot 1 "bag") := by
  have hDelete : delete nestedLibrary noFaults "" nestedRoot 1 "bag" =
      ({ nestedRoot with
        bags := Function.update nestedRoot.bags "bag" (some [("notes", .directory)]) },
        .error (.valueError "recording contains an unexpected directory")) := by
    rfl
  rw [hDelete]
  intro hWhole
  have hBag := congrFun hWhole "bag"
  change Function.update nestedRoot.bags "bag" (some [("notes", .directory)]) "bag" = _ at hBag
  rw [Function.update_self] at hBag
  exact absurd hBag (by decide)

end BagDeletion

end PreRunner.Recording
