import Mathlib.Data.List.Basic

/-!
# A single background worker

Jobs run one at a time in the order of submission. A job stores something in one atomic step and
then ends: it returns, or it raises before or after it has stored. The submitter holds a ticket of
each job and polls it. When the job submitted last has returned, nothing else is left to run, so
what is stored is what that job stored (`Serial.stored_of_returned`).
-/

namespace PreRunner.Runs

/-- The handle of a submitted job. -/
structure Ticket (J : Type*) where
  number : Nat
  job : J
  deriving DecidableEq, Repr

/-- A worker with its queue, oldest job first. `finished` says how each job that is no longer
queued ended: `none` when it returned, `some error` when it raised. -/
structure SerialWorker (J D E : Type*) where
  next : Nat := 0
  queue : List (Ticket J) := []
  hasStored : Bool := false
  finished : List (Ticket J × Option E) := []
  store : D

namespace SerialWorker

variable {J D E : Type*}

/-- The ticket the next submission gets. -/
def ticket (worker : SerialWorker J D E) (job : J) : Ticket J := ⟨worker.next, job⟩

def submit (worker : SerialWorker J D E) (job : J) : SerialWorker J D E :=
  { worker with
    next := worker.next + 1
    queue := worker.queue ++ [worker.ticket job] }

/-- The running job stores, once. -/
def storeJob (content : J → D) (worker : SerialWorker J D E) : SerialWorker J D E :=
  match worker.queue with
  | [] => worker
  | running :: _ =>
    if worker.hasStored then worker
    else { worker with hasStored := true, store := content running.job }

/-- The running job ends. It returns only after it has stored. -/
def finish (worker : SerialWorker J D E) (failure : Option E) : SerialWorker J D E :=
  match worker.queue with
  | [] => worker
  | running :: rest =>
    if failure.isNone && !worker.hasStored then worker
    else
      { worker with
        queue := rest
        hasStored := false
        finished := (running, failure) :: worker.finished }

/-- How the job of a ticket ended, if it has ended. -/
def outcome? [DecidableEq J] (worker : SerialWorker J D E) (ticket : Ticket J) :
    Option (Option E) :=
  worker.finished.lookup ticket

/-! ## What is stored -/

/-- The queue is in order of submission and behind everything finished, and the store is that of
the running job once it has stored, and that of the latest submission once it has returned. -/
structure Serial (content : J → D) (worker : SerialWorker J D E) : Prop where
  queued : ∀ waiting ∈ worker.queue, waiting.number < worker.next
  ordered : worker.queue.Pairwise (·.number < ·.number)
  behind : ∀ ended ∈ worker.finished, ∀ waiting ∈ worker.queue,
    ended.1.number < waiting.number
  running : worker.hasStored = true →
    ∃ first rest, worker.queue = first :: rest ∧ worker.store = content first.job
  returned : ∀ ticket, (ticket, none) ∈ worker.finished → ticket.number + 1 = worker.next →
    worker.store = content ticket.job
  past : ∀ ended ∈ worker.finished, ended.1.number < worker.next

variable {content : J → D} {worker : SerialWorker J D E}

theorem Serial.fresh (store : D) : Serial content ({ store } : SerialWorker J D E) where
  queued := nofun
  ordered := .nil
  behind := nofun
  running := nofun
  returned := nofun
  past := nofun

theorem Serial.submit (h : worker.Serial content) (job : J) :
    (worker.submit job).Serial content where
  queued := by
    intro waiting hMem
    rcases List.mem_append.mp hMem with hMem | hMem
    · exact Nat.lt_succ_of_lt (h.queued waiting hMem)
    · rw [List.mem_singleton.mp hMem]
      exact Nat.lt_succ_self worker.next
  ordered := by
    refine List.pairwise_append.mpr ⟨h.ordered, List.pairwise_singleton _ _, ?_⟩
    intro waiting hMem later hLater
    rw [List.mem_singleton.mp hLater]
    exact h.queued waiting hMem
  behind := by
    intro ended hEnded waiting hMem
    rcases List.mem_append.mp hMem with hMem | hMem
    · exact h.behind ended hEnded waiting hMem
    · rw [List.mem_singleton.mp hMem]
      exact h.past ended hEnded
  running := by
    intro hStored
    obtain ⟨first, rest, hQueue, hStore⟩ := h.running hStored
    refine ⟨first, rest ++ [worker.ticket job], ?_, hStore⟩
    change worker.queue ++ _ = _
    rw [hQueue]
    rfl
  returned := by
    intro ticket hMem hLast
    have hPast := h.past _ hMem
    have hLast : ticket.number + 1 = worker.next + 1 := hLast
    have hPast : ticket.number < worker.next := hPast
    omega
  past := fun ended hEnded => Nat.lt_succ_of_lt (h.past ended hEnded)

theorem Serial.storeJob (h : worker.Serial content) : (worker.storeJob content).Serial content := by
  unfold SerialWorker.storeJob
  split
  · exact h
  · rename_i running rest hQueue
    split
    · exact h
    · refine ⟨h.queued, h.ordered, h.behind, fun _ => ⟨running, rest, hQueue, rfl⟩, ?_, h.past⟩
      -- a queued job was submitted after everything that has ended
      intro ticket hMem hLast
      have hRunning : running ∈ worker.queue := by
        rw [hQueue]
        exact List.mem_cons_self
      have hBehind := h.behind _ hMem running hRunning
      have hQueued := h.queued running hRunning
      have hLast : ticket.number + 1 = worker.next := hLast
      have hBehind : ticket.number < running.number := hBehind
      omega

theorem Serial.finish (h : worker.Serial content) (failure : Option E) :
    (worker.finish failure).Serial content := by
  unfold SerialWorker.finish
  split
  · exact h
  · rename_i running rest hQueue
    split
    · exact h
    · rename_i hEnds
      have hOrdered := h.ordered
      rw [hQueue] at hOrdered
      obtain ⟨hFirst, hRest⟩ := List.pairwise_cons.mp hOrdered
      have hMem : ∀ waiting ∈ rest, waiting ∈ worker.queue := by
        intro waiting hWaiting
        rw [hQueue]
        exact List.mem_cons_of_mem _ hWaiting
      have hRunning : running ∈ worker.queue := by
        rw [hQueue]
        exact List.mem_cons_self
      refine ⟨fun waiting hWaiting => h.queued waiting (hMem waiting hWaiting), hRest, ?_,
        nofun, ?_, ?_⟩
      · intro ended hEnded waiting hWaiting
        rcases List.mem_cons.mp hEnded with rfl | hEnded
        · exact hFirst waiting hWaiting
        · exact h.behind ended hEnded waiting (hMem waiting hWaiting)
      · intro ticket hEnded hLast
        rcases List.mem_cons.mp hEnded with hEq | hEnded
        · obtain ⟨rfl, rfl⟩ := Prod.mk.inj hEq
          have hStored : worker.hasStored = true := by simpa using hEnds
          obtain ⟨first, later, hHead, hStore⟩ := h.running hStored
          rw [hQueue] at hHead
          rw [(List.cons.inj hHead).1]
          exact hStore
        · exact h.returned ticket hEnded hLast
      · intro ended hEnded
        rcases List.mem_cons.mp hEnded with rfl | hEnded
        · exact h.queued running hRunning
        · exact h.past ended hEnded

theorem mem_finished_of_outcome [DecidableEq J] {ticket : Ticket J} {ending : Option E}
    (h : worker.outcome? ticket = some ending) : (ticket, ending) ∈ worker.finished := by
  obtain ⟨before, after, hSplit, -⟩ := List.lookup_eq_some_iff.mp h
  rw [hSplit]
  exact List.mem_append_right _ List.mem_cons_self

/-- When the job submitted last has ended, nothing is left to run. -/
theorem Serial.idle_of_ended [DecidableEq J] (h : worker.Serial content) {ticket : Ticket J}
    {ending : Option E} (hLast : ticket.number + 1 = worker.next)
    (hEnded : worker.outcome? ticket = some ending) : worker.queue = [] := by
  cases hQueue : worker.queue with
  | nil => rfl
  | cons waiting rest =>
    have hMem : waiting ∈ worker.queue := by
      rw [hQueue]
      exact List.mem_cons_self
    have hBehind : ticket.number < waiting.number :=
      h.behind _ (mem_finished_of_outcome hEnded) waiting hMem
    have hQueued := h.queued waiting hMem
    omega

/-- When the job submitted last has returned, the store holds what it stored. -/
theorem Serial.stored_of_returned [DecidableEq J] (h : worker.Serial content) {ticket : Ticket J}
    (hLast : ticket.number + 1 = worker.next) (hReturned : worker.outcome? ticket = some none) :
    worker.store = content ticket.job :=
  h.returned ticket (mem_finished_of_outcome hReturned) hLast

theorem storeJob_of_idle (h : worker.queue = []) : worker.storeJob content = worker := by
  unfold storeJob
  rw [h]

theorem finish_of_idle (h : worker.queue = []) (failure : Option E) :
    worker.finish failure = worker := by
  unfold finish
  rw [h]

@[simp] theorem storeJob_next : (worker.storeJob content).next = worker.next := by
  unfold storeJob
  split
  · rfl
  · split <;> rfl

@[simp] theorem finish_next (failure : Option E) : (worker.finish failure).next = worker.next := by
  unfold finish
  split
  · rfl
  · split <;> rfl

end SerialWorker

end PreRunner.Runs
