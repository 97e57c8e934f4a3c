/-
This file proves what each step of the thread pool keeps. What a worker does with the tasks in its
queue can be read off its phase; all of them have the worker's current id, and no other worker has
that id or any of these tasks.
-/

import Mathlib.Data.List.Nodup
import Mathlib.Tactic.SplitIfs
import Mir.Thread.BasicThreadPool

namespace Mir.Thread

/-! ### A worker and its history -/

/-- Whether an event is about a task that a worker has. -/
def PoolEvent.Concerns (event : PoolEvent) (task : Task) : Prop :=
  event = .started task ∨ event = .ran task ∨ event = .ready task

theorem PoolEvent.Concerns.task_eq {event : PoolEvent} {task other : Task}
    (concerns : event.Concerns task) (same : event.Concerns other) : task = other := by
  rcases concerns with rfl | rfl | rfl
  · rcases same with same | same | same <;> cases same
    rfl
  · rcases same with same | same | same <;> cases same
    rfl
  · rcases same with same | same | same <;> cases same
    rfl

theorem PoolEvent.Concerns.isSubmission_eq {event : PoolEvent} {task : Task}
    (concerns : event.Concerns task) : event.isSubmission = false := by
  rcases concerns with rfl | rfl | rfl <;> rfl

/-- The tasks behind the front were submitted later. -/
theorem number_le_of_head? {tasks : List Task} {first task : Task}
    (inOrder : tasks.Pairwise fun first second => first.number < second.number)
    (isFirst : tasks.head? = some first) (member : task ∈ tasks) :
    first.number ≤ task.number := by
  obtain ⟨rest, queued⟩ := List.head?_eq_some_iff.mp isFirst
  rw [queued] at inOrder member
  rcases List.mem_cons.mp member with rfl | later
  · exact Nat.le_refl _
  · exact Nat.le_of_lt (List.rel_of_pairwise_cons inOrder later)

namespace WorkerThread

variable {worker : WorkerThread}

@[simp] theorem next_tasks (worker : WorkerThread) : worker.next.1.tasks = worker.tasks := by
  unfold next
  split <;> rfl

@[simp] theorem next_currentID (worker : WorkerThread) :
    worker.next.1.currentID = worker.currentID := by
  unfold next
  split <;> rfl

/-- Only the task at the front is started. -/
theorem mem_next_events {event : PoolEvent} (member : event ∈ worker.next.2) :
    ∃ task, worker.tasks.head? = some task ∧ event = .started task := by
  obtain ⟨tasks, phase, currentID⟩ := worker
  cases tasks with
  | nil => cases member
  | cons first rest => exact ⟨first, rfl, List.mem_singleton.mp member⟩

theorem along_next {minThreads : Int} {history : List PoolEvent}
    (along : History.Along (PoolEvent.Fits minThreads) history)
    (fits : ∀ task, worker.tasks.head? = some task →
      PoolEvent.Fits minThreads history (.started task)) :
    History.Along (PoolEvent.Fits minThreads) (history ++ worker.next.2) := by
  obtain ⟨tasks, phase, currentID⟩ := worker
  cases tasks with
  | nil =>
    show History.Along _ (history ++ [])
    rwa [List.append_nil]
  | cons first rest => exact History.along_append_singleton.mpr ⟨along, fits first rfl⟩

end WorkerThread

structure WorkerThread.Consistent (worker : WorkerThread) (history : List PoolEvent) : Prop where
  ids : ∀ task ∈ worker.tasks, task.id = worker.currentID
  inOrder : worker.tasks.Pairwise fun first second => first.number < second.number
  notified : worker.phase = .waiting false → worker.tasks = []
  atFront : ∀ task, worker.phase = .executing task ∨ worker.phase = .executed task →
    worker.tasks.head? = some task
  submitted : ∀ task ∈ worker.tasks, .submitted task ∈ history
  started : ∀ task ∈ worker.tasks, .started task ∈ history ↔
    worker.phase = .executing task ∨ worker.phase = .executed task
  ran : ∀ task ∈ worker.tasks, .ran task ∈ history ↔ worker.phase = .executed task
  notReady : ∀ task ∈ worker.tasks, .ready task ∉ history

namespace WorkerThread.Consistent

variable {worker : WorkerThread} {history : List PoolEvent}

theorem created (history : List PoolEvent) (id : Option TaskID) :
    Consistent ⟨[], .waiting true, id⟩ history where
  ids := nofun
  inOrder := .nil
  notified := fun _ => rfl
  atFront := fun _ begun => by rcases begun with begun | begun <;> cases begun
  submitted := nofun
  started := nofun
  ran := nofun
  notReady := nofun

/-- What happens to the tasks of others does not matter. -/
theorem append (consistent : worker.Consistent history) (events : List PoolEvent)
    (others : ∀ event ∈ events, ∀ task ∈ worker.tasks, ¬event.Concerns task) :
    worker.Consistent (history ++ events) where
  ids := consistent.ids
  inOrder := consistent.inOrder
  notified := consistent.notified
  atFront := consistent.atFront
  submitted := fun task member => List.mem_append_left _ (consistent.submitted task member)
  started := fun task member => by
    rw [← consistent.started task member, List.mem_append]
    exact or_iff_left fun new => others _ new task member (.inl rfl)
  ran := fun task member => by
    rw [← consistent.ran task member, List.mem_append]
    exact or_iff_left fun new => others _ new task member (.inr (.inl rfl))
  notReady := fun task member ready => by
    rcases List.mem_append.mp ready with past | new
    · exact consistent.notReady task member past
    · exact others _ new task member (.inr (.inr rfl))

/-- A worker that has begun none of its tasks takes the first of them or waits. -/
theorem next (ids : ∀ task ∈ worker.tasks, task.id = worker.currentID)
    (inOrder : worker.tasks.Pairwise fun first second => first.number < second.number)
    (submitted : ∀ task ∈ worker.tasks, .submitted task ∈ history)
    (untouched : ∀ task ∈ worker.tasks, ∀ event ∈ history, ¬event.Concerns task) :
    worker.next.1.Consistent (history ++ worker.next.2) := by
  obtain ⟨tasks, phase, currentID⟩ := worker
  cases tasks with
  | nil =>
    exact
      { ids := nofun, inOrder := .nil, notified := fun _ => rfl, submitted := nofun,
        started := nofun, ran := nofun, notReady := nofun,
        atFront := fun _ begun => by rcases begun with begun | begun <;> cases begun }
  | cons first rest =>
    refine
      { ids := ids, inOrder := inOrder, notified := nofun, atFront := ?_, submitted := ?_,
        started := ?_, ran := ?_, notReady := ?_ }
    · rintro task (begun | begun) <;> cases begun
      rfl
    · exact fun task member => List.mem_append_left _ (submitted task member)
    · intro task member
      refine List.mem_append.trans ⟨fun started => .inl ?_, fun begun => .inr ?_⟩
      · rcases started with past | new
        · exact absurd (.inl rfl) (untouched task member _ past)
        · cases List.mem_singleton.mp new
          rfl
      · rcases begun with begun | begun <;> cases begun
        exact List.mem_singleton_self _
    · intro task member
      refine List.mem_append.trans ⟨fun ran => ?_, nofun⟩
      rcases ran with past | new
      · exact absurd (.inr (.inl rfl)) (untouched task member _ past)
      · cases List.mem_singleton.mp new
    · intro task member ready
      rcases List.mem_append.mp ready with past | new
      · exact absurd (.inr (.inr rfl)) (untouched task member _ past)
      · cases List.mem_singleton.mp new

theorem execute (consistent : worker.Consistent history) {task : Task}
    (executing : worker.phase = .executing task) :
    Consistent { worker with phase := .executed task } (history ++ [.ran task]) where
  ids := consistent.ids
  inOrder := consistent.inOrder
  notified := nofun
  atFront := fun other begun => by
    rcases begun with begun | begun <;> cases begun
    exact consistent.atFront task (.inl executing)
  submitted := fun other member => List.mem_append_left _ (consistent.submitted other member)
  started := fun other member => by
    have begun := consistent.started other member
    rw [executing] at begun
    refine List.mem_append.trans ⟨fun started => .inr ?_, fun isTask => .inl (begun.mpr (.inl ?_))⟩
    · rcases started with past | new
      · rcases begun.mp past with same | same <;> cases same
        rfl
      · cases List.mem_singleton.mp new
    · rcases isTask with same | same <;> cases same
      rfl
  ran := fun other member => by
    have notRan := consistent.ran other member
    rw [executing] at notRan
    refine List.mem_append.trans ⟨fun ran => ?_, fun isTask => .inr ?_⟩
    · rcases ran with past | new
      · cases notRan.mp past
      · cases List.mem_singleton.mp new
        rfl
    · cases isTask
      exact List.mem_singleton_self _
  notReady := fun other member ready => by
    rcases List.mem_append.mp ready with past | new
    · exact consistent.notReady other member past
    · cases List.mem_singleton.mp new

theorem queueTask_phase (worker : WorkerThread) (task other : Task) :
    ((worker.queueTask task).phase = .executing other ↔ worker.phase = .executing other) ∧
      ((worker.queueTask task).phase = .executed other ↔ worker.phase = .executed other) := by
  rw [queueTask]
  cases worker.phase <;> simp

/-- A new task comes last, with the id of the tasks before it. -/
theorem queueTask (consistent : worker.Consistent history) {task : Task}
    (sameID : worker.tasks = [] ∨ worker.currentID = task.id)
    (later : ∀ other ∈ worker.tasks, other.number < task.number)
    (isNew : ∀ event ∈ history, ¬event.Concerns task) :
    (worker.queueTask task).Consistent (history ++ [.submitted task]) := by
  have notBegun : ¬(worker.phase = .executing task ∨ worker.phase = .executed task) :=
    fun begun => (later task (List.mem_of_head? (consistent.atFront task begun))).false
  have phases := queueTask_phase worker task
  have unaffected : ∀ other ∈ (worker.queueTask task).tasks, ∀ event : PoolEvent,
      event.Concerns other → (event ∈ history ++ [.submitted task] ↔ event ∈ history) := by
    intro other _ event concerns
    refine ⟨fun member => ?_, List.mem_append_left _⟩
    refine (List.mem_append.mp member).resolve_right fun last => ?_
    rw [List.mem_singleton.mp last] at concerns
    rcases concerns with same | same | same <;> cases same
  refine
    { ids := ?_, inOrder := ?_, notified := ?_, atFront := ?_, submitted := ?_, started := ?_,
      ran := ?_, notReady := ?_ }
  · intro other member
    rcases List.mem_append.mp member with old | last
    · rcases sameID with none | same
      · rw [none] at old
        cases old
      · exact (consistent.ids other old).trans same
    · rw [List.mem_singleton.mp last]
      rfl
  · refine List.pairwise_append.mpr ⟨consistent.inOrder, List.pairwise_singleton .., ?_⟩
    intro other member last isLast
    rw [List.mem_singleton.mp isLast]
    exact later other member
  · intro waits
    rw [WorkerThread.queueTask] at waits
    cases phase : worker.phase <;> rw [phase] at waits <;> cases waits
  · intro other begun
    rw [(phases other).1, (phases other).2] at begun
    obtain ⟨rest, queued⟩ := List.head?_eq_some_iff.mp (consistent.atFront other begun)
    rw [WorkerThread.queueTask, queued]
    rfl
  · intro other member
    rcases List.mem_append.mp member with old | last
    · exact List.mem_append_left _ (consistent.submitted other old)
    · rw [List.mem_singleton.mp last]
      exact List.mem_append_right _ (List.mem_singleton_self _)
  · intro other member
    rw [unaffected other member _ (.inl rfl), (phases other).1, (phases other).2]
    rcases List.mem_append.mp member with old | last
    · exact consistent.started other old
    · rw [List.mem_singleton.mp last]
      exact iff_of_false (fun started => isNew _ started (.inl rfl)) notBegun
  · intro other member
    rw [unaffected other member _ (.inr (.inl rfl)), (phases other).2]
    rcases List.mem_append.mp member with old | last
    · exact consistent.ran other old
    · rw [List.mem_singleton.mp last]
      exact iff_of_false (fun ran => isNew _ ran (.inr (.inl rfl))) fun executed =>
        notBegun (.inr executed)
  · intro other member
    rw [unaffected other member _ (.inr (.inr rfl))]
    rcases List.mem_append.mp member with old | last
    · exact consistent.notReady other old
    · rw [List.mem_singleton.mp last]
      exact fun ready => isNew _ ready (.inr (.inr rfl))

/-- Nothing has happened to the tasks behind one that was executed. -/
theorem untouched (consistent : worker.Consistent history) {task : Task} {rest : List Task}
    (executed : worker.phase = .executed task) (queued : worker.tasks = task :: rest) :
    ∀ other ∈ rest, ∀ event ∈ history ++ [.ready task], ¬event.Concerns other := by
  intro other later event member concerns
  have has : other ∈ worker.tasks := queued ▸ List.mem_cons_of_mem _ later
  have differs : task ≠ other := by
    have inOrder := consistent.inOrder
    rw [queued] at inOrder
    exact fun same => absurd (List.rel_of_pairwise_cons inOrder later) (by rw [same]; simp)
  have notStarted : .started other ∉ history := by
    rw [consistent.started other has, executed]
    rintro (same | same) <;> cases same
    exact differs rfl
  have notRan : .ran other ∉ history := by
    rw [consistent.ran other has, executed]
    intro same
    cases same
    exact differs rfl
  rcases List.mem_append.mp member with past | new
  · rcases concerns with rfl | rfl | rfl
    · exact notStarted past
    · exact notRan past
    · exact consistent.notReady other has past
  · rw [List.mem_singleton.mp new] at concerns
    rcases concerns with same | same | same <;> cases same
    exact differs rfl

end WorkerThread.Consistent

namespace BasicThreadPool

/-- What a call that is under way has found. -/
def CallSound (pool : BasicThreadPool) : Option PoolCall → Prop
  | none => True
  | some (.looking id _) =>
    id ≠ none → ∀ thread ∈ pool.threads, (pool.worker thread).currentID ≠ id
  | some (.queueing thread id) =>
    thread ∈ pool.threads ∧
      ((pool.worker thread).currentID = id ∨
        (pool.worker thread).tasks = [] ∧
          (id ≠ none → ∀ other ∈ pool.threads, (pool.worker other).currentID ≠ id))
  | some (.shrinking _ maxThreadsToRemove before) =>
    pool.threads.length - maxThreadsToRemove = pool.minThreads ∧
      min (before : Int) pool.minThreads ≤ pool.threads.length

structure Sound (pool : BasicThreadPool) : Prop where
  along : History.Along (PoolEvent.Fits pool.minThreads) pool.history
  nodup : pool.threads.Nodup
  created : ∀ thread ∈ pool.threads, thread < pool.created
  workers : ∀ thread ∈ pool.threads, (pool.worker thread).Consistent pool.history
  distinct : ∀ first ∈ pool.threads, ∀ second ∈ pool.threads,
    (pool.worker first).currentID = (pool.worker second).currentID →
      (pool.worker first).currentID ≠ none → first = second
  apart : ∀ first ∈ pool.threads, ∀ second ∈ pool.threads, ∀ task ∈ (pool.worker first).tasks,
    task ∈ (pool.worker second).tasks → first = second
  numbered : pool.history.countP PoolEvent.isSubmission = pool.submitted
  below : ∀ task, .submitted task ∈ pool.history → task.number < pool.submitted
  kept : ∀ task, .submitted task ∈ pool.history →
    .ready task ∈ pool.history ∨ ∃ thread ∈ pool.threads, task ∈ (pool.worker thread).tasks
  call : pool.CallSound pool.call

theorem sound_initial (minThreads : Int) : (initial minThreads).Sound where
  along := History.along_nil
  nodup := List.nodup_nil
  created := nofun
  workers := nofun
  distinct := nofun
  apart := nofun
  numbered := rfl
  below := nofun
  kept := nofun
  call := trivial

variable {pool : BasicThreadPool}

theorem findThreadBy_eq_some {id : Option TaskID} {thread : Nat}
    (found : pool.findThreadBy id = some thread) :
    thread ∈ pool.threads ∧ (pool.worker thread).currentID = id := by
  rw [findThreadBy] at found
  exact ⟨List.mem_of_find?_eq_some found, by simpa using List.find?_some found⟩

/-- A call goes on when workers work. -/
theorem CallSound.of_workers {after : BasicThreadPool} {call : Option PoolCall}
    (callSound : pool.CallSound call) (threads : after.threads = pool.threads)
    (minThreads : after.minThreads = pool.minThreads)
    (ids : ∀ thread, (after.worker thread).currentID = (pool.worker thread).currentID)
    (tasks : ∀ thread, (after.worker thread).tasks ⊆ (pool.worker thread).tasks) :
    after.CallSound call := by
  match call, callSound with
  | none, _ => trivial
  | some (.looking id place), unused =>
    intro some thread
    rw [threads, ids]
    exact unused some thread
  | some (.queueing thread id), ⟨member, chosen⟩ =>
    refine ⟨threads ▸ member, chosen.imp (fun same => (ids thread).trans same) ?_⟩
    rintro ⟨idle, unused⟩
    refine ⟨List.subset_nil.mp (idle ▸ tasks thread), fun some other => ?_⟩
    rw [threads, ids]
    exact unused some other
  | some (.shrinking place maxThreadsToRemove before), shrinks =>
    rw [CallSound, threads, minThreads]
    exact shrinks

namespace Sound

/-! ### What has happened to a task -/

theorem submitted_of_started (sound : pool.Sound) {task : Task}
    (started : .started task ∈ pool.history) : .submitted task ∈ pool.history := by
  obtain ⟨before, stays, fits⟩ := sound.along.of_mem started
  exact stays fits.1

theorem started_of_ran (sound : pool.Sound) {task : Task} (ran : .ran task ∈ pool.history) :
    .started task ∈ pool.history := by
  obtain ⟨before, stays, fits⟩ := sound.along.of_mem ran
  exact stays fits.1

theorem ran_of_ready (sound : pool.Sound) {task : Task} (ready : .ready task ∈ pool.history) :
    .ran task ∈ pool.history := by
  obtain ⟨before, stays, fits⟩ := sound.along.of_mem ready
  exact stays fits.1

/-- Nothing has happened to a task that was not submitted. -/
theorem not_concerns (sound : pool.Sound) {task : Task} (isNew : pool.submitted ≤ task.number) :
    ∀ event ∈ pool.history, ¬event.Concerns task := by
  have notSubmitted : .submitted task ∉ pool.history :=
    fun submitted => absurd (sound.below task submitted) (Nat.not_lt.mpr isNew)
  intro event member concerns
  rcases concerns with rfl | rfl | rfl
  · exact notSubmitted (sound.submitted_of_started member)
  · exact notSubmitted (sound.submitted_of_started (sound.started_of_ran member))
  · have ran := sound.ran_of_ready member
    exact notSubmitted (sound.submitted_of_started (sound.started_of_ran ran))

/-! ### The calls of the pool -/

theorem recalled (sound : pool.Sound) {call : Option PoolCall} (callSound : pool.CallSound call) :
    Sound { pool with call := call } :=
  { sound with call := callSound }

theorem run (sound : pool.Sound) : pool.run.Sound := by
  rw [BasicThreadPool.run]
  split
  · exact sound.recalled fun some => absurd rfl some
  · exact sound

theorem runWith (sound : pool.Sound) (id : Option TaskID) : (pool.runWith id).Sound := by
  rw [BasicThreadPool.runWith]
  split
  next thread _ found =>
    obtain ⟨member, same⟩ := findThreadBy_eq_some found
    exact sound.recalled ⟨member, .inl same⟩
  next _ notFound =>
    refine sound.recalled fun _ thread member same => ?_
    exact List.find?_eq_none.mp notFound thread member (decide_eq_true same)
  next => exact sound

theorem shrink (sound : pool.Sound) : pool.shrink.Sound := by
  rw [BasicThreadPool.shrink]
  split
  · exact sound.recalled ⟨Int.sub_sub_self .., Int.min_le_left ..⟩
  · exact sound

/-- A new thread has no tasks yet. -/
theorem create (sound : pool.Sound) {id : Option TaskID}
    (unused : id ≠ none → ∀ thread ∈ pool.threads, (pool.worker thread).currentID ≠ id) :
    Sound { pool with
      threads := pool.threads ++ [pool.created]
      worker := Function.update pool.worker pool.created ⟨[], .waiting true, id⟩
      created := pool.created + 1
      call := some (.queueing pool.created id) } := by
  have others : ∀ thread ∈ pool.threads,
      Function.update pool.worker pool.created ⟨[], .waiting true, id⟩ thread =
        pool.worker thread :=
    fun thread member => Function.update_of_ne (Nat.ne_of_lt (sound.created thread member)) ..
  have new : Function.update pool.worker pool.created ⟨[], .waiting true, id⟩ pool.created =
      ⟨[], .waiting true, id⟩ := Function.update_self ..
  have notYet : pool.created ∉ pool.threads := fun member => (sound.created _ member).false
  constructor
  case along => exact sound.along
  case numbered => exact sound.numbered
  case below => exact sound.below
  case nodup =>
    exact List.nodup_append_comm.mp (List.nodup_cons.mpr ⟨notYet, sound.nodup⟩)
  case created =>
    intro thread member
    rcases List.mem_append.mp member with old | isNew
    · exact Nat.lt_succ_of_lt (sound.created thread old)
    · rw [List.mem_singleton.mp isNew]
      exact Nat.lt_succ_self _
  case workers =>
    intro thread member
    rcases List.mem_append.mp member with old | isNew
    · dsimp only
      rw [others thread old]
      exact sound.workers thread old
    · dsimp only
      rw [List.mem_singleton.mp isNew, new]
      exact .created pool.history id
  case distinct =>
    intro first isFirst second isSecond
    dsimp only
    rcases List.mem_append.mp isFirst with old | isNew
    · rw [others first old]
      rcases List.mem_append.mp isSecond with alsoOld | alsoNew
      · rw [others second alsoOld]
        exact sound.distinct first old second alsoOld
      · rw [List.mem_singleton.mp alsoNew, new]
        exact fun same some => absurd same (unused (fun none => some (same.trans none)) first old)
    · rw [List.mem_singleton.mp isNew, new]
      rcases List.mem_append.mp isSecond with alsoOld | alsoNew
      · rw [others second alsoOld]
        exact fun same some => absurd same.symm (unused some second alsoOld)
      · exact fun _ _ => (List.mem_singleton.mp alsoNew).symm
  case apart =>
    intro first isFirst second isSecond task
    dsimp only
    rcases List.mem_append.mp isFirst with old | isNew
    · rw [others first old]
      rcases List.mem_append.mp isSecond with alsoOld | alsoNew
      · rw [others second alsoOld]
        exact sound.apart first old second alsoOld task
      · rw [List.mem_singleton.mp alsoNew, new]
        exact nofun
    · rw [List.mem_singleton.mp isNew, new]
      exact nofun
  case kept =>
    intro task submitted
    refine (sound.kept task submitted).imp (fun ready => ready) ?_
    rintro ⟨thread, member, has⟩
    refine ⟨thread, List.mem_append_left _ member, ?_⟩
    dsimp only
    rwa [others thread member]
  case call =>
    refine ⟨List.mem_append_right _ (List.mem_singleton_self _), .inl ?_⟩
    exact congrArg WorkerThread.currentID new

theorem look (sound : pool.Sound) : pool.look.Sound := by
  rw [BasicThreadPool.look]
  split
  next id place called =>
    have callSound := sound.call
    rw [called] at callSound
    split
    next thread found =>
      split_ifs with idle
      · refine sound.recalled ⟨List.mem_of_getElem? found, .inr ⟨?_, callSound⟩⟩
        exact List.isEmpty_iff.mp idle
      · exact sound.recalled callSound
    next => exact sound.create callSound
  next => exact sound

/-! ### The steps of the workers -/

/-- A worker goes on with its tasks, and takes off those whose futures are ready. -/
theorem setWorker (sound : pool.Sound) {thread : Nat} (member : thread ∈ pool.threads)
    {worker : WorkerThread} {events : List PoolEvent}
    (sameID : worker.currentID = (pool.worker thread).currentID)
    (fewer : worker.tasks ⊆ (pool.worker thread).tasks)
    (own : ∀ event ∈ events, ∃ task ∈ (pool.worker thread).tasks, event.Concerns task)
    (consistent : worker.Consistent (pool.history ++ events))
    (along : History.Along (PoolEvent.Fits pool.minThreads) (pool.history ++ events))
    (popped : ∀ task ∈ (pool.worker thread).tasks,
      task ∈ worker.tasks ∨ .ready task ∈ pool.history ++ events) :
    (pool.setWorker thread worker events).Sound := by
  have same : (pool.setWorker thread worker events).worker thread = worker :=
    Function.update_self ..
  have differs : ∀ other, other ≠ thread →
      (pool.setWorker thread worker events).worker other = pool.worker other :=
    fun other differs => Function.update_of_ne differs ..
  have ids : ∀ other, ((pool.setWorker thread worker events).worker other).currentID =
      (pool.worker other).currentID := by
    intro other
    by_cases isThread : other = thread
    · rw [isThread, same, sameID]
    · rw [differs other isThread]
  have tasks : ∀ other, ((pool.setWorker thread worker events).worker other).tasks ⊆
      (pool.worker other).tasks := by
    intro other
    by_cases isThread : other = thread
    · rw [isThread, same]
      exact fewer
    · rw [differs other isThread]
      exact List.Subset.refl _
  have notSubmissions : ∀ event ∈ events, event.isSubmission = false := by
    intro event isEvent
    obtain ⟨task, -, concerns⟩ := own event isEvent
    exact concerns.isSubmission_eq
  have earlier : ∀ task, .submitted task ∈ pool.history ++ events →
      .submitted task ∈ pool.history := by
    intro task submitted
    refine (List.mem_append.mp submitted).resolve_right fun isEvent => ?_
    cases notSubmissions _ isEvent
  constructor
  case along => exact along
  case nodup => exact sound.nodup
  case created => exact sound.created
  case workers =>
    intro other isOther
    by_cases isThread : other = thread
    · rw [isThread, same]
      exact consistent
    · rw [differs other isThread]
      refine (sound.workers other isOther).append events fun event isEvent task has concerns => ?_
      obtain ⟨owned, hasOwned, alsoConcerns⟩ := own event isEvent
      rw [concerns.task_eq alsoConcerns] at has
      exact isThread (sound.apart other isOther thread member owned has hasOwned)
  case distinct =>
    intro first isFirst second isSecond
    rw [ids, ids]
    exact sound.distinct first isFirst second isSecond
  case apart =>
    intro first isFirst second isSecond task has alsoHas
    exact sound.apart first isFirst second isSecond task (tasks first has) (tasks second alsoHas)
  case numbered =>
    have none : events.countP PoolEvent.isSubmission = 0 :=
      List.countP_eq_zero.mpr fun event isEvent => by simp [notSubmissions event isEvent]
    have counted : (pool.history ++ events).countP PoolEvent.isSubmission = pool.submitted := by
      rw [List.countP_append, none, sound.numbered, Nat.add_zero]
    exact counted
  case below => exact fun task submitted => sound.below task (earlier task submitted)
  case kept =>
    intro task submitted
    rcases sound.kept task (earlier task submitted) with ready | ⟨other, isOther, has⟩
    · exact .inl (List.mem_append_left _ ready)
    · by_cases isThread : other = thread
      · rw [isThread] at has
        refine (popped task has).symm.imp (fun ready => ready) fun stays => ⟨thread, member, ?_⟩
        rwa [same]
      · refine .inr ⟨other, isOther, ?_⟩
        rwa [differs other isThread]
  case call =>
    have stays : (pool.setWorker thread worker events).CallSound pool.call :=
      sound.call.of_workers rfl rfl ids tasks
    exact stays

/-- A task of the same id that was submitted earlier has run or has the same worker. -/
theorem earlier (sound : pool.Sound) {thread : Nat} (member : thread ∈ pool.threads)
    {task other : Task} (has : task ∈ (pool.worker thread).tasks)
    (submitted : .submitted other ∈ pool.history) (sameID : other.id = task.id)
    (some : task.id ≠ none) :
    .ran other ∈ pool.history ∨ other ∈ (pool.worker thread).tasks := by
  rcases sound.kept other submitted with ready | ⟨owner, isOwner, owned⟩
  · exact .inl (sound.ran_of_ready ready)
  · have ids := (sound.workers owner isOwner).ids other owned
    have taskID := (sound.workers thread member).ids task has
    have same := sound.distinct owner isOwner thread member (by rw [← ids, ← taskID, sameID])
      (by rw [← ids, sameID]; exact some)
    exact .inr (same ▸ owned)

theorem wake (sound : pool.Sound) (thread : Nat) : (pool.wake thread).Sound := by
  rw [BasicThreadPool.wake]
  split_ifs with member
  · have consistent := sound.workers thread member
    split
    next notified waits =>
      have untouched : ∀ task ∈ (pool.worker thread).tasks, ∀ event ∈ pool.history,
          ¬event.Concerns task := by
        intro task has event isEvent concerns
        have notStarted := (consistent.started task has).not.mpr (by rw [waits]; simp)
        rcases concerns with rfl | rfl | rfl
        · exact notStarted isEvent
        · exact notStarted (sound.started_of_ran isEvent)
        · exact consistent.notReady task has isEvent
      have next := WorkerThread.Consistent.next consistent.ids consistent.inOrder
        consistent.submitted untouched
      refine sound.setWorker member (WorkerThread.next_currentID _)
        (fun task has => by rwa [WorkerThread.next_tasks] at has) ?_ next ?_ ?_
      · intro event isEvent
        obtain ⟨task, first, rfl⟩ := WorkerThread.mem_next_events isEvent
        exact ⟨task, List.mem_of_head? first, .inl rfl⟩
      · refine WorkerThread.along_next sound.along fun task first => ?_
        have has := List.mem_of_head? first
        refine ⟨consistent.submitted task has,
          fun started => untouched task has _ started (.inl rfl),
          fun other submitted before sameID some => ?_⟩
        refine (sound.earlier member has submitted sameID some).resolve_right fun alsoHas => ?_
        exact absurd before (Nat.not_lt.mpr (number_le_of_head? consistent.inOrder first alsoHas))
      · intro task has
        rw [WorkerThread.next_tasks]
        exact .inl has
    next => exact sound
  · exact sound

theorem execute (sound : pool.Sound) (thread : Nat) : (pool.execute thread).Sound := by
  rw [BasicThreadPool.execute]
  split_ifs with member
  · have consistent := sound.workers thread member
    split
    next task executing =>
      have first := consistent.atFront task (.inl executing)
      have has := List.mem_of_head? first
      have started := (consistent.started task has).mpr (.inl executing)
      have notRan : .ran task ∉ pool.history :=
        (consistent.ran task has).not.mpr (by rw [executing]; nofun)
      refine sound.setWorker member rfl (List.Subset.refl _) ?_ (consistent.execute executing) ?_
        fun _ stays => .inl stays
      · intro event isEvent
        exact ⟨task, has, .inr (.inl (List.mem_singleton.mp isEvent))⟩
      · exact History.along_append_singleton.mpr ⟨sound.along, started, notRan⟩
    next => exact sound
  · exact sound

theorem finish (sound : pool.Sound) (thread : Nat) : (pool.finish thread).Sound := by
  rw [BasicThreadPool.finish]
  split_ifs with member
  · have consistent := sound.workers thread member
    split
    next task executed =>
      obtain ⟨rest, queued⟩ := List.head?_eq_some_iff.mp (consistent.atFront task (.inr executed))
      have has : task ∈ (pool.worker thread).tasks := queued ▸ List.mem_cons_self
      have popped : (pool.worker thread).popTask.tasks = rest := by
        rw [WorkerThread.popTask, queued]
        rfl
      have ran := (consistent.ran task has).mpr executed
      have along : History.Along (PoolEvent.Fits pool.minThreads)
          (pool.history ++ [.ready task]) :=
        History.along_append_singleton.mpr ⟨sound.along, ran, consistent.notReady task has⟩
      have behind : ∀ other ∈ rest, other ∈ (pool.worker thread).tasks :=
        fun other later => queued ▸ List.mem_cons_of_mem _ later
      have untouched := consistent.untouched executed queued
      have inOrder := consistent.inOrder
      rw [queued] at inOrder
      have next := @WorkerThread.Consistent.next (pool.worker thread).popTask
        (pool.history ++ [.ready task])
        (by rw [popped]; exact fun other later => consistent.ids other (behind other later))
        (by rw [popped]; exact inOrder.tail)
        (by
          rw [popped]
          exact fun other later =>
            List.mem_append_left _ (consistent.submitted other (behind other later)))
        (by rw [popped]; exact untouched)
      refine sound.setWorker member (WorkerThread.next_currentID _) ?_ ?_ ?_ ?_ ?_
      · rw [WorkerThread.next_tasks, popped]
        exact behind
      · intro event isEvent
        rcases List.mem_cons.mp isEvent with rfl | isNext
        · exact ⟨task, has, .inr (.inr rfl)⟩
        · obtain ⟨first, isFirst, rfl⟩ := WorkerThread.mem_next_events isNext
          rw [popped] at isFirst
          exact ⟨first, behind first (List.mem_of_head? isFirst), .inl rfl⟩
      · rwa [List.append_cons]
      · rw [List.append_cons]
        refine WorkerThread.along_next along fun first isFirst => ?_
        rw [popped] at isFirst
        have later := List.mem_of_head? isFirst
        have hasFirst := behind first later
        refine ⟨List.mem_append_left _ (consistent.submitted first hasFirst),
          fun started => untouched first later _ started (.inl rfl),
          fun other submitted before sameID some => List.mem_append_left _ ?_⟩
        have submittedBefore : .submitted other ∈ pool.history :=
          (List.mem_append.mp submitted).resolve_right fun last => by
            cases List.mem_singleton.mp last
        rcases sound.earlier member hasFirst submittedBefore sameID some with alsoRan | alsoHas
        · exact alsoRan
        · rw [queued] at alsoHas
          rcases List.mem_cons.mp alsoHas with rfl | alsoLater
          · exact ran
          · exact absurd before
              (Nat.not_lt.mpr (number_le_of_head? inOrder.tail isFirst alsoLater))
      · intro other hasOther
        rw [queued] at hasOther
        rw [WorkerThread.next_tasks, popped]
        refine (List.mem_cons.mp hasOther).symm.imp (fun later => later) fun isTask => ?_
        exact List.mem_append_right _ (isTask ▸ List.mem_cons_self)
    next => exact sound
  · exact sound

/-! ### Queueing and removing -/

/-- A task is queued where its id is, or at an idle thread while no thread has its id. -/
theorem queued (sound : pool.Sound) {thread : Nat} {id : Option TaskID}
    (member : thread ∈ pool.threads)
    (chosen : (pool.worker thread).currentID = id ∨ (pool.worker thread).tasks = [] ∧
      (id ≠ none → ∀ other ∈ pool.threads, (pool.worker other).currentID ≠ id)) :
    Sound { pool with
      worker := Function.update pool.worker thread
        ((pool.worker thread).queueTask ⟨pool.submitted, id⟩)
      submitted := pool.submitted + 1
      call := none
      history := pool.history ++ [.submitted ⟨pool.submitted, id⟩] } := by
  have unusedElsewhere : id ≠ none → ∀ other ∈ pool.threads, other ≠ thread →
      (pool.worker other).currentID ≠ id := by
    intro some other isOther differs same
    rcases chosen with threadID | ⟨-, unused⟩
    · exact differs (sound.distinct other isOther thread member (same.trans threadID.symm)
        (same ▸ some))
    · exact unused some other isOther same
  have isNew : ∀ event ∈ pool.history, ¬event.Concerns ⟨pool.submitted, id⟩ :=
    sound.not_concerns (Nat.le_refl _)
  have later : ∀ other ∈ pool.threads, ∀ task ∈ (pool.worker other).tasks,
      task.number < pool.submitted :=
    fun other isOther task has =>
      sound.below task ((sound.workers other isOther).submitted task has)
  have others : ∀ other, other ≠ thread →
      Function.update pool.worker thread
        ((pool.worker thread).queueTask ⟨pool.submitted, id⟩) other =
        pool.worker other :=
    fun other differs => Function.update_of_ne differs ..
  have new : Function.update pool.worker thread
      ((pool.worker thread).queueTask ⟨pool.submitted, id⟩) thread =
        (pool.worker thread).queueTask ⟨pool.submitted, id⟩ := Function.update_self ..
  constructor <;> dsimp only
  case along =>
    exact History.along_append_singleton.mpr ⟨sound.along, sound.numbered.symm⟩
  case nodup => exact sound.nodup
  case created => exact sound.created
  case workers =>
    intro other isOther
    by_cases isThread : other = thread
    · rw [isThread, new]
      refine (sound.workers thread member).queueTask ?_ (later thread member) isNew
      exact chosen.symm.imp And.left fun same => same
    · rw [others other isThread]
      refine (sound.workers other isOther).append _ fun event isEvent task has concerns => ?_
      rw [List.mem_singleton.mp isEvent] at concerns
      rcases concerns with same | same | same <;> cases same
  case distinct =>
    intro first isFirst second isSecond
    by_cases firstIs : first = thread
    · by_cases secondIs : second = thread
      · exact fun _ _ => firstIs.trans secondIs.symm
      · rw [firstIs, new, others second secondIs]
        exact fun same some => absurd same.symm (unusedElsewhere some second isSecond secondIs)
    · rw [others first firstIs]
      by_cases secondIs : second = thread
      · rw [secondIs, new]
        intro same some
        exact absurd same
          (unusedElsewhere (fun none => some (same.trans none)) first isFirst firstIs)
      · rw [others second secondIs]
        exact sound.distinct first isFirst second isSecond
  case apart =>
    have owned : ∀ other task, task ∈ (Function.update pool.worker thread
        ((pool.worker thread).queueTask ⟨pool.submitted, id⟩) other).tasks →
          task ∈ (pool.worker other).tasks ∨ other = thread ∧ task = ⟨pool.submitted, id⟩ := by
      intro other task has
      by_cases isThread : other = thread
      · rw [isThread, new] at has
        rcases List.mem_append.mp has with old | last
        · exact .inl (isThread ▸ old)
        · exact .inr ⟨isThread, List.mem_singleton.mp last⟩
      · rw [others other isThread] at has
        exact .inl has
    intro first isFirst second isSecond task has alsoHas
    rcases owned first task has with old | ⟨firstIs, isTask⟩
    · rcases owned second task alsoHas with alsoOld | ⟨-, rfl⟩
      · exact sound.apart first isFirst second isSecond task old alsoOld
      · exact absurd (later first isFirst _ old) (Nat.lt_irrefl _)
    · rcases owned second task alsoHas with old | ⟨secondIs, -⟩
      · exact absurd (isTask ▸ later second isSecond task old) (Nat.lt_irrefl _)
      · exact firstIs.trans secondIs.symm
  case numbered =>
    rw [List.countP_append, sound.numbered]
    rfl
  case below =>
    intro task submitted
    rcases List.mem_append.mp submitted with past | last
    · exact Nat.lt_succ_of_lt (sound.below task past)
    · cases List.mem_singleton.mp last
      exact Nat.lt_succ_self _
  case kept =>
    intro task submitted
    rcases List.mem_append.mp submitted with past | last
    · rcases sound.kept task past with ready | ⟨other, isOther, has⟩
      · exact .inl (List.mem_append_left _ ready)
      · refine .inr ⟨other, isOther, ?_⟩
        by_cases isThread : other = thread
        · rw [isThread, new]
          exact List.mem_append_left _ (isThread ▸ has)
        · rwa [others other isThread]
    · cases List.mem_singleton.mp last
      refine .inr ⟨thread, member, ?_⟩
      rw [new]
      exact List.mem_append_right _ (List.mem_singleton_self _)
  case call => trivial

theorem queue (sound : pool.Sound) : pool.queue.Sound := by
  rw [BasicThreadPool.queue]
  split
  next thread id called =>
    have callSound := sound.call
    rw [called] at callSound
    obtain ⟨member, chosen⟩ := callSound
    exact sound.queued member chosen
  next => exact sound

/-- What is recorded of no task does not matter to the threads. -/
theorem remarked (sound : pool.Sound) {event : PoolEvent}
    (along : History.Along (PoolEvent.Fits pool.minThreads) (pool.history ++ [event]))
    (concernsNone : ∀ task, ¬event.Concerns task) (notSubmission : event.isSubmission = false) :
    Sound { pool with history := pool.history ++ [event] } := by
  have earlier : ∀ task, .submitted task ∈ pool.history ++ [event] →
      .submitted task ∈ pool.history := by
    intro task submitted
    refine (List.mem_append.mp submitted).resolve_right fun last => ?_
    rw [← List.mem_singleton.mp last] at notSubmission
    cases notSubmission
  have numbered : (pool.history ++ [event]).countP PoolEvent.isSubmission = pool.submitted := by
    rw [List.countP_append, sound.numbered, List.countP_singleton, notSubmission]
    rfl
  exact { sound with
    along := along
    workers := fun thread member => by
      refine (sound.workers thread member).append _ fun other isEvent task _ concerns => ?_
      exact concernsNone task (List.mem_singleton.mp isEvent ▸ concerns)
    numbered := numbered
    below := fun task submitted => sound.below task (earlier task submitted)
    kept := fun task submitted =>
      (sound.kept task (earlier task submitted)).imp_left (List.mem_append_left _) }

/-- A thread without tasks is removed while more than the fewest are left. -/
theorem removed (sound : pool.Sound) {place thread before : Nat} {maxThreadsToRemove : Int}
    (found : pool.threads[place]? = some thread) (idle : (pool.worker thread).tasks = [])
    (callSound : pool.CallSound (some (.shrinking place maxThreadsToRemove before)))
    (more : maxThreadsToRemove > 0) :
    Sound { pool with
      threads := pool.threads.eraseIdx place
      call := some (.shrinking place (maxThreadsToRemove - 1) before)
      history := pool.history ++ [.removed (pool.worker thread).tasks] } := by
  have along : History.Along (PoolEvent.Fits pool.minThreads)
      (pool.history ++ [.removed (pool.worker thread).tasks]) :=
    History.along_append_singleton.mpr ⟨sound.along, idle⟩
  have recorded := sound.remarked along (by rintro task (same | same | same) <;> cases same) rfl
  have stays : ∀ other ∈ pool.threads.eraseIdx place, other ∈ pool.threads :=
    fun other member => List.mem_of_mem_eraseIdx member
  obtain ⟨bound, atPlace⟩ := List.getElem?_eq_some_iff.mp found
  obtain ⟨budget, enough⟩ := callSound
  have length := List.length_eraseIdx_add_one bound
  exact { recorded with
    nodup := sound.nodup.sublist (List.eraseIdx_sublist ..)
    created := fun other member => sound.created other (stays other member)
    workers := fun other member => recorded.workers other (stays other member)
    distinct := fun first isFirst second isSecond =>
      sound.distinct first (stays first isFirst) second (stays second isSecond)
    apart := fun first isFirst second isSecond =>
      sound.apart first (stays first isFirst) second (stays second isSecond)
    kept := fun task submitted => by
      refine (recorded.kept task submitted).imp_right ?_
      rintro ⟨other, member, has⟩
      refine ⟨other, ?_, has⟩
      obtain ⟨index, isIndex, rfl⟩ := List.mem_iff_getElem.mp member
      refine List.mem_eraseIdx_iff_getElem.mpr ⟨index, isIndex, fun same => ?_, rfl⟩
      subst same
      have none : task ∈ (pool.worker thread).tasks := atPlace ▸ has
      rw [idle] at none
      cases none
    call := by
      show ((pool.threads.eraseIdx place).length : Int) - (maxThreadsToRemove - 1) =
          pool.minThreads ∧
        min (before : Int) pool.minThreads ≤ (pool.threads.eraseIdx place).length
      omega }

theorem lookToRemove (sound : pool.Sound) : pool.lookToRemove.Sound := by
  rw [BasicThreadPool.lookToRemove]
  split
  next place maxThreadsToRemove before called =>
    have callSound := sound.call
    rw [called] at callSound
    obtain ⟨budget, enough⟩ := callSound
    split
    next thread found =>
      split_ifs with removes
      · have idle := List.isEmpty_iff.mp removes.1
        exact sound.removed found idle ⟨budget, enough⟩ removes.2
      · exact sound.recalled ⟨budget, enough⟩
    next =>
      have ended : Sound { pool with call := none } := sound.recalled trivial
      have along : History.Along (PoolEvent.Fits pool.minThreads)
          (pool.history ++ [.shrunk before pool.threads.length]) :=
        History.along_append_singleton.mpr ⟨sound.along, enough⟩
      exact ended.remarked along (by rintro task (same | same | same) <;> cases same) rfl
  next => exact sound

theorem step (sound : pool.Sound) (op : PoolOp) : (pool.step op).Sound := by
  cases op with
  | run => exact sound.run
  | runWith id => exact sound.runWith id
  | look => exact sound.look
  | queue => exact sound.queue
  | shrink => exact sound.shrink
  | lookToRemove => exact sound.lookToRemove
  | wake thread => exact sound.wake thread
  | execute thread => exact sound.execute thread
  | finish thread => exact sound.finish thread

end Sound

theorem sound_after (minThreads : Int) (ops : List PoolOp) : (after minThreads ops).Sound := by
  rw [after]
  induction ops using List.reverseRecOn with
  | nil => exact sound_initial minThreads
  | append_singleton ops op inductionHypothesis =>
    rw [List.foldl_append]
    exact inductionHypothesis.step op

end BasicThreadPool

end Mir.Thread
