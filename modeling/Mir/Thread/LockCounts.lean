/-
This file embeds the recursive read-write mutex as the machine has it: the counts are words, threads
that have no read locks any more stay in the vector, and the id of the last writer is left behind.

It proves what the counts say of the locks that threads have taken and not given back, whatever the
threads and the order in which they take and give back are, as long as no thread has as many locks
of a kind as a count can tell. Such counts are those of the mutex that has no bound.
-/

import Mathlib.Data.List.Nodup
import Mir.Library.Transition
import Mir.Thread.RecursiveReadWriteMutex

namespace Mir.Thread

/-- The id is that of no thread at first. -/
structure ThreadLockCount where
  id : Option ThreadID
  count : BitVec 32
  deriving DecidableEq, Repr

structure LockCounts where
  readLockingThreads : List ThreadLockCount
  writeLockingThread : ThreadLockCount
  deriving DecidableEq, Repr

/-! ### The operations -/

/-- The first entry of a thread with another count. There is none at the end of the vector. -/
def changeMine (thread : ThreadID) (change : BitVec 32 → BitVec 32) :
    List ThreadLockCount → Option (List ThreadLockCount)
  | [] => none
  | candidate :: rest =>
    if candidate.id = some thread then
      some ({ candidate with count := change candidate.count } :: rest)
    else (changeMine thread change rest).map fun rest => candidate :: rest

/-- The count of the first entry of a thread. -/
def countOf (thread : ThreadID) (entries : List ThreadLockCount) : BitVec 32 :=
  match entries.find? fun candidate => candidate.id = some thread with
  | none => 0
  | some candidate => candidate.count

namespace LockCounts

def new : LockCounts := ⟨[], ⟨none, 0⟩⟩

variable (counts : LockCounts) (thread : ThreadID)

/-- What `read_lock` waits for. -/
def canReadLock : Bool :=
  counts.writeLockingThread.count = 0 || counts.writeLockingThread.id = some thread

def readLock : LockCounts :=
  match changeMine thread (fun count => count + 1) counts.readLockingThreads with
  | none =>
    { counts with readLockingThreads := counts.readLockingThreads ++ [⟨some thread, 1⟩] }
  | some changed => { counts with readLockingThreads := changed }

/-- Without an entry of the thread, the count behind the end of the vector is changed. -/
def readUnlock : Option LockCounts :=
  (changeMine thread (fun count => count - 1) counts.readLockingThreads).map fun changed =>
    { counts with readLockingThreads := changed }

/-- What `write_lock` waits for. -/
def canWriteLock : Bool :=
  if counts.writeLockingThread.count ≠ 0 ∧ counts.writeLockingThread.id ≠ some thread then false
  else
    counts.readLockingThreads.all fun candidate =>
      !(decide (candidate.id ≠ some thread) && decide (candidate.count ≠ 0))

def writeLock : LockCounts :=
  { counts with writeLockingThread := ⟨some thread, counts.writeLockingThread.count + 1⟩ }

def writeUnlock : LockCounts :=
  { counts with writeLockingThread :=
      { counts.writeLockingThread with count := counts.writeLockingThread.count - 1 } }

/-- The read count that is recorded for a thread. -/
def readCount : BitVec 32 := countOf thread counts.readLockingThreads

end LockCounts

/-! ### Runs -/

inductive LockOp
  | readLock (thread : ThreadID)
  | readUnlock (thread : ThreadID)
  | writeLock (thread : ThreadID)
  | writeUnlock (thread : ThreadID)
  deriving DecidableEq, Repr

/-- How many locks were taken and not given back. -/
def held (lock unlock : LockOp) (history : List LockOp) : Nat :=
  history.count lock - history.count unlock

/-- The mutex, whether an iterator at the end was dereferenced, and what the threads did. -/
structure LockRun where
  counts : LockCounts
  pastEnd : Bool
  history : List LockOp

namespace LockRun

def new : LockRun := ⟨.new, false, []⟩

variable (run : LockRun) (thread : ThreadID)

/-- The read locks that a thread has taken and not given back. -/
def reads : Nat := held (.readLock thread) (.readUnlock thread) run.history

/-- The write locks that a thread has taken and not given back. -/
def writes : Nat := held (.writeLock thread) (.writeUnlock thread) run.history

def perform : LockOp → LockRun
  | .readLock thread => { run with counts := run.counts.readLock thread }
  | .readUnlock thread =>
    match run.counts.readUnlock thread with
    | none => { run with pastEnd := true }
    | some counts => { run with counts }
  | .writeLock thread => { run with counts := run.counts.writeLock thread }
  | .writeUnlock _ => { run with counts := run.counts.writeUnlock }

def step (op : LockOp) : LockRun := { run.perform op with history := op :: run.history }

/-- A thread takes a lock once it need not wait, and gives back what it has. -/
def Allowed : LockOp → Prop
  | .readLock thread => run.counts.canReadLock thread = true
  | .readUnlock thread => 0 < run.reads thread
  | .writeLock thread => run.counts.canWriteLock thread = true
  | .writeUnlock thread => 0 < run.writes thread

instance : (op : LockOp) → Decidable (run.Allowed op)
  | .readLock _ | .writeLock _ => inferInstanceAs (Decidable (_ = true))
  | .readUnlock _ | .writeUnlock _ => inferInstanceAs (Decidable (0 < _))

/-- A thread takes no more locks of a kind than a count can tell. -/
def InRange : LockOp → Prop
  | .readLock thread => run.reads thread + 1 < 2 ^ 32
  | .writeLock thread => run.writes thread + 1 < 2 ^ 32
  | .readUnlock _ | .writeUnlock _ => True

instance : (op : LockOp) → Decidable (run.InRange op)
  | .readLock _ | .writeLock _ => inferInstanceAs (Decidable (_ < _))
  | .readUnlock _ | .writeUnlock _ => inferInstanceAs (Decidable True)

/-- What is to hold of the mutex: who has the write lock excludes all others and need not wait, each
thread has one entry at most, and the counts are those of the locks that are taken and not given
back. -/
structure Sound (run : LockRun) : Prop where
  exclusive : ∀ thread other, 0 < run.writes thread → other ≠ thread →
    run.reads other = 0 ∧ run.writes other = 0
  unlocked : ∀ thread,
    run.history.count (.readUnlock thread) ≤ run.history.count (.readLock thread) ∧
      run.history.count (.writeUnlock thread) ≤ run.history.count (.writeLock thread)
  readCount : ∀ thread, (run.counts.readCount thread).toNat = run.reads thread
  once : (run.counts.readLockingThreads.map ThreadLockCount.id).Nodup
  known : ∀ thread, 0 < run.reads thread →
    ∃ entry ∈ run.counts.readLockingThreads, entry.id = some thread
  inside : run.pastEnd = false
  writeCount : ∀ thread, 0 < run.writes thread →
    run.counts.writeLockingThread.id = some thread ∧
      run.counts.writeLockingThread.count.toNat = run.writes thread
  unwritten : (∀ thread, run.writes thread = 0) → run.counts.writeLockingThread.count = 0
  neverWaits : ∀ thread, 0 < run.writes thread →
    run.counts.canReadLock thread = true ∧ run.counts.canWriteLock thread = true

end LockRun

/-! ### Entries -/

section Entries

variable {thread : ThreadID} {change : BitVec 32 → BitVec 32}
  {entries changed : List ThreadLockCount}

theorem countOf_cons (thread : ThreadID) (entry : ThreadLockCount)
    (entries : List ThreadLockCount) :
    countOf thread (entry :: entries) =
      if entry.id = some thread then entry.count else countOf thread entries := by
  unfold countOf
  rw [List.find?_cons]
  by_cases mine : entry.id = some thread <;> simp [mine]

theorem countOf_of_absent (absent : ∀ entry ∈ entries, entry.id ≠ some thread) :
    countOf thread entries = 0 := by
  unfold countOf
  rw [List.find?_eq_none.mpr fun entry member => by simpa using absent entry member]

theorem changeMine_eq_none_iff :
    changeMine thread change entries = none ↔ ∀ entry ∈ entries, entry.id ≠ some thread := by
  induction entries with
  | nil => exact iff_of_true rfl nofun
  | cons entry entries inductionHypothesis =>
    unfold changeMine
    rw [List.forall_mem_cons]
    by_cases mine : entry.id = some thread
    · rw [if_pos mine]
      exact iff_of_false (Option.some_ne_none _) fun both => both.1 mine
    · rw [if_neg mine, Option.map_eq_none_iff, inductionHypothesis]
      exact (and_iff_right mine).symm

theorem ids_changeMine (isChanged : changeMine thread change entries = some changed) :
    changed.map ThreadLockCount.id = entries.map ThreadLockCount.id := by
  induction entries generalizing changed with
  | nil => cases isChanged
  | cons entry entries inductionHypothesis =>
    unfold changeMine at isChanged
    split_ifs at isChanged with mine
    · cases isChanged
      rfl
    · obtain ⟨rest, isRest, rfl⟩ := Option.map_eq_some_iff.mp isChanged
      rw [List.map_cons, List.map_cons, inductionHypothesis isRest]

theorem countOf_changeMine (isChanged : changeMine thread change entries = some changed)
    (other : ThreadID) :
    countOf other changed =
      if thread = other then change (countOf other entries) else countOf other entries := by
  induction entries generalizing changed with
  | nil => cases isChanged
  | cons entry entries inductionHypothesis =>
    unfold changeMine at isChanged
    rw [countOf_cons]
    split_ifs at isChanged with mine
    · cases isChanged
      rw [countOf_cons]
      dsimp only
      by_cases same : thread = other
      · subst same
        rw [if_pos mine, if_pos rfl, if_pos mine]
      · have notOther : entry.id ≠ some other := by
          rw [mine]
          exact fun isOther => same (Option.some.inj isOther)
        rw [if_neg notOther, if_neg same, if_neg notOther]
    · obtain ⟨rest, isRest, rfl⟩ := Option.map_eq_some_iff.mp isChanged
      rw [countOf_cons, inductionHypothesis isRest]
      split_ifs with isOther same same
      · exact absurd (same ▸ isOther) mine
      · rfl
      · rfl
      · rfl

theorem countOf_push (absent : ∀ entry ∈ entries, entry.id ≠ some thread) (other : ThreadID) :
    countOf other (entries ++ [⟨some thread, 1⟩]) =
      if thread = other then 1 else countOf other entries := by
  induction entries with
  | nil =>
    rw [List.nil_append, countOf_cons]
    exact if_congr Option.some_inj rfl rfl
  | cons entry entries inductionHypothesis =>
    obtain ⟨notMine, later⟩ := List.forall_mem_cons.mp absent
    rw [List.cons_append, countOf_cons, countOf_cons, inductionHypothesis later]
    split_ifs with isOther same same
    · exact absurd (same ▸ isOther) notMine
    · rfl
    · rfl
    · rfl

end Entries

namespace LockCounts

variable {counts next : LockCounts} {thread : ThreadID}

theorem readCount_readLock (counts : LockCounts) (thread other : ThreadID) :
    (counts.readLock thread).readCount other =
      if thread = other then counts.readCount other + 1 else counts.readCount other := by
  unfold readLock readCount
  split
  next absent =>
    have notMine := changeMine_eq_none_iff.mp absent
    dsimp only
    rw [countOf_push notMine]
    by_cases same : thread = other
    · subst same
      rw [if_pos rfl, if_pos rfl, countOf_of_absent notMine]
      rfl
    · rw [if_neg same, if_neg same]
  next changed isChanged => exact countOf_changeMine isChanged other

theorem readCount_readUnlock (unlocks : counts.readUnlock thread = some next)
    (other : ThreadID) :
    next.readCount other =
      if thread = other then counts.readCount other - 1 else counts.readCount other := by
  obtain ⟨changed, isChanged, rfl⟩ := Option.map_eq_some_iff.mp unlocks
  exact countOf_changeMine isChanged other

/-- A read lock adds an entry, or leaves the ids as they are. -/
theorem ids_readLock (counts : LockCounts) (thread : ThreadID) :
    let ids := counts.readLockingThreads.map ThreadLockCount.id
    (counts.readLock thread).readLockingThreads.map ThreadLockCount.id = ids ∨
      some thread ∉ ids ∧
        (counts.readLock thread).readLockingThreads.map ThreadLockCount.id =
          ids ++ [some thread] := by
  unfold readLock
  split
  next absent =>
    refine .inr ⟨fun member => ?_, List.map_append⟩
    obtain ⟨entry, isEntry, isMine⟩ := List.mem_map.mp member
    exact changeMine_eq_none_iff.mp absent entry isEntry isMine
  next changed isChanged => exact .inl (ids_changeMine isChanged)

theorem ids_readUnlock (unlocks : counts.readUnlock thread = some next) :
    next.readLockingThreads.map ThreadLockCount.id =
      counts.readLockingThreads.map ThreadLockCount.id := by
  obtain ⟨changed, isChanged, rfl⟩ := Option.map_eq_some_iff.mp unlocks
  exact ids_changeMine isChanged

theorem writeLockingThread_readLock (counts : LockCounts) (thread : ThreadID) :
    (counts.readLock thread).writeLockingThread = counts.writeLockingThread := by
  unfold readLock
  split <;> rfl

theorem writeLockingThread_readUnlock (unlocks : counts.readUnlock thread = some next) :
    next.writeLockingThread = counts.writeLockingThread := by
  obtain ⟨changed, -, rfl⟩ := Option.map_eq_some_iff.mp unlocks
  rfl

/-- A thread with a count has an entry. -/
theorem exists_of_readCount_ne_zero (reading : counts.readCount thread ≠ 0) :
    ∃ entry ∈ counts.readLockingThreads, entry.id = some thread := by
  by_contra none
  exact reading (countOf_of_absent fun entry member isMine => none ⟨entry, member, isMine⟩)

theorem readUnlock_of_readCount_ne_zero (reading : counts.readCount thread ≠ 0) :
    ∃ next, counts.readUnlock thread = some next := by
  obtain ⟨entry, member, isMine⟩ := exists_of_readCount_ne_zero reading
  cases isChanged : changeMine thread (fun count => count - 1) counts.readLockingThreads with
  | none => exact absurd isMine (changeMine_eq_none_iff.mp isChanged entry member)
  | some changed => exact ⟨_, Option.map_eq_some_iff.mpr ⟨changed, isChanged, rfl⟩⟩

theorem readCount_of_mem (once : (counts.readLockingThreads.map ThreadLockCount.id).Nodup)
    {entry : ThreadLockCount} (member : entry ∈ counts.readLockingThreads)
    (mine : entry.id = some thread) : counts.readCount thread = entry.count := by
  unfold readCount countOf
  cases isFirst : counts.readLockingThreads.find? fun candidate => candidate.id = some thread with
  | none =>
    have unlike := List.find?_eq_none.mp isFirst entry member
    exact absurd (decide_eq_true mine) unlike
  | some first =>
    have firstMine := List.find?_some isFirst
    have same : first = entry := List.inj_on_of_nodup_map once
      (List.mem_of_find?_eq_some isFirst) member ((of_decide_eq_true firstMine).trans mine.symm)
    exact congrArg ThreadLockCount.count same

theorem canReadLock_iff :
    counts.canReadLock thread = true ↔
      counts.writeLockingThread.count = 0 ∨ counts.writeLockingThread.id = some thread := by
  unfold canReadLock
  rw [Bool.or_eq_true, decide_eq_true_iff, decide_eq_true_iff]

/-- Who may take the write lock may take a read lock, and no other thread has one. -/
theorem canWriteLock_iff (once : (counts.readLockingThreads.map ThreadLockCount.id).Nodup)
    (threads : ∀ entry ∈ counts.readLockingThreads, entry.id ≠ none) :
    counts.canWriteLock thread = true ↔ counts.canReadLock thread = true ∧
      ∀ other, other ≠ thread → counts.readCount other = 0 := by
  rw [canReadLock_iff]
  unfold canWriteLock
  split_ifs with written
  · refine iff_of_false not_false ?_
    rintro ⟨unwritten | mine, -⟩
    · exact written.1 unwritten
    · exact written.2 mine
  · have free : counts.writeLockingThread.count = 0 ∨
        counts.writeLockingThread.id = some thread := by
      rw [or_iff_not_imp_left]
      exact fun isWritten => by_contra fun notMine => written ⟨isWritten, notMine⟩
    rw [and_iff_right free, List.all_eq_true]
    constructor
    · intro each other unlike
      by_contra reading
      obtain ⟨entry, member, isOther⟩ := exists_of_readCount_ne_zero reading
      rw [readCount_of_mem once member isOther] at reading
      have holds := each entry member
      have notMine : some other ≠ some thread := fun same => unlike (Option.some.inj same)
      simp only [isOther, notMine, ne_eq, not_false_eq_true, decide_true, reading, Bool.and_self,
        Bool.not_true, Bool.false_eq_true] at holds
    · intro none entry member
      obtain ⟨other, isOther⟩ := Option.ne_none_iff_exists'.mp (threads entry member)
      by_cases same : other = thread
      · simp [isOther, same]
      · have unread := none other same
        rw [readCount_of_mem once member isOther] at unread
        simp [unread]

end LockCounts

/-! ### What a step does -/

/-- One more thing that is done, by what it is. -/
theorem held_cons {lock unlock : LockOp} {history : List LockOp} (unlike : lock ≠ unlock)
    (fewer : history.count unlock ≤ history.count lock) (op : LockOp) :
    held lock unlock (op :: history) =
      if op = lock then held lock unlock history + 1
      else if op = unlock then held lock unlock history - 1
      else held lock unlock history := by
  unfold held
  by_cases isLock : op = lock
  · subst isLock
    rw [if_pos rfl, List.count_cons_self, List.count_cons_of_ne unlike]
    omega
  · rw [if_neg isLock, List.count_cons_of_ne isLock]
    by_cases isUnlock : op = unlock
    · subst isUnlock
      rw [if_pos rfl, List.count_cons_self]
      omega
    · rw [if_neg isUnlock, List.count_cons_of_ne isUnlock]

/-- What is given back was taken. -/
theorem count_cons_le {lock unlock : LockOp} {history : List LockOp}
    (fewer : history.count unlock ≤ history.count lock) {op : LockOp}
    (had : op = unlock → 0 < held lock unlock history) :
    (op :: history).count unlock ≤ (op :: history).count lock := by
  have more : history.count lock ≤ (op :: history).count lock := List.count_le_count_cons
  by_cases isUnlock : op = unlock
  · have some := had isUnlock
    unfold held at some
    subst isUnlock
    rw [List.count_cons_self]
    omega
  · rw [List.count_cons_of_ne isUnlock]
    omega

theorem toNat_add_one {count : BitVec 32} (small : count.toNat + 1 < 2 ^ 32) :
    (count + 1).toNat = count.toNat + 1 := by
  bv_omega

theorem toNat_sub_one {count : BitVec 32} (positive : 0 < count.toNat) :
    (count - 1).toNat = count.toNat - 1 := by
  bv_omega

namespace LockRun

variable {run : LockRun} {op : LockOp} {thread : ThreadID}

/-- A thread gave back no more locks than it took. -/
structure Balanced (run : LockRun) (thread : ThreadID) : Prop where
  reads : run.history.count (.readUnlock thread) ≤ run.history.count (.readLock thread)
  writes : run.history.count (.writeUnlock thread) ≤ run.history.count (.writeLock thread)

theorem Balanced.step (balanced : run.Balanced thread) (allowed : run.Allowed op) :
    (run.step op).Balanced thread where
  reads := count_cons_le balanced.reads (by rintro rfl; exact allowed)
  writes := count_cons_le balanced.writes (by rintro rfl; exact allowed)

theorem reads_step (balanced : run.Balanced thread) (op : LockOp) :
    (run.step op).reads thread =
      if op = .readLock thread then run.reads thread + 1
      else if op = .readUnlock thread then run.reads thread - 1
      else run.reads thread := by
  have unlike : LockOp.readLock thread ≠ .readUnlock thread := nofun
  exact held_cons unlike balanced.reads op

theorem writes_step (balanced : run.Balanced thread) (op : LockOp) :
    (run.step op).writes thread =
      if op = .writeLock thread then run.writes thread + 1
      else if op = .writeUnlock thread then run.writes thread - 1
      else run.writes thread := by
  have unlike : LockOp.writeLock thread ≠ .writeUnlock thread := nofun
  exact held_cons unlike balanced.writes op

/-- The counts are those of the locks that are held. -/
structure Kept (run : LockRun) : Prop where
  balanced : ∀ thread, run.Balanced thread
  readCount : ∀ thread, (run.counts.readCount thread).toNat = run.reads thread
  once : (run.counts.readLockingThreads.map ThreadLockCount.id).Nodup
  threads : none ∉ run.counts.readLockingThreads.map ThreadLockCount.id
  inside : run.pastEnd = false
  writeCount : ∀ thread, run.writes thread =
    if run.counts.writeLockingThread.id = some thread then
      run.counts.writeLockingThread.count.toNat
    else 0
  nobody : run.counts.writeLockingThread.id = none → run.counts.writeLockingThread.count = 0
  exclusive : ∀ thread other, 0 < run.writes thread → other ≠ thread → run.reads other = 0

theorem kept_new : Kept new where
  balanced _ := ⟨Nat.le_refl 0, Nat.le_refl 0⟩
  readCount _ := rfl
  once := List.nodup_nil
  threads := List.not_mem_nil
  inside := rfl
  writeCount _ := rfl
  nobody _ := rfl
  exclusive _ _ isWriting := absurd isWriting (Nat.lt_irrefl 0)

namespace Kept

/-- Who has the write lock has left the id, and all that is counted. -/
theorem id_of_writes (kept : run.Kept) (isWriting : 0 < run.writes thread) :
    run.counts.writeLockingThread.id = some thread := by
  by_contra notMine
  rw [kept.writeCount, if_neg notMine] at isWriting
  exact Nat.lt_irrefl 0 isWriting

theorem threads_ne (kept : run.Kept) :
    ∀ entry ∈ run.counts.readLockingThreads, entry.id ≠ none :=
  fun _ member isNone => kept.threads (isNone ▸ List.mem_map_of_mem member)

/-- Who may take a read lock is the only one to have the write lock. -/
theorem eq_of_canReadLock (kept : run.Kept) (free : run.counts.canReadLock thread = true)
    {other : ThreadID} (isWriting : 0 < run.writes other) : other = thread := by
  have isOther := kept.id_of_writes isWriting
  rcases LockCounts.canReadLock_iff.mp free with unwritten | mine
  · rw [kept.writeCount, if_pos isOther, unwritten] at isWriting
    exact absurd isWriting (Nat.lt_irrefl 0)
  · exact Option.some.inj (isOther.symm.trans mine)

theorem reads_eq_zero_iff (kept : run.Kept) :
    run.counts.readCount thread = 0 ↔ run.reads thread = 0 := by
  rw [← kept.readCount]
  exact ⟨fun zero => by rw [zero]; rfl, fun zero => BitVec.eq_of_toNat_eq zero⟩

theorem canWriteLock_iff (kept : run.Kept) :
    run.counts.canWriteLock thread = true ↔ run.counts.canReadLock thread = true ∧
      ∀ other, other ≠ thread → run.reads other = 0 := by
  rw [LockCounts.canWriteLock_iff kept.once kept.threads_ne]
  exact and_congr_right fun _ => forall₂_congr fun _ _ => kept.reads_eq_zero_iff

theorem readLock (kept : run.Kept) (free : run.counts.canReadLock thread = true)
    (inRange : run.reads thread + 1 < 2 ^ 32) : (run.step (.readLock thread)).Kept where
  balanced other := (kept.balanced other).step free
  readCount other := by
    simp only [reads_step (kept.balanced other), LockOp.readLock.injEq, reduceCtorEq, if_false]
    refine Eq.trans (congrArg BitVec.toNat (run.counts.readCount_readLock thread other)) ?_
    split_ifs with same
    · subst same
      rw [toNat_add_one (by rw [kept.readCount]; exact inRange), kept.readCount]
    · exact kept.readCount other
  once := by
    rcases run.counts.ids_readLock thread with same | ⟨isNew, added⟩
    · exact same ▸ kept.once
    · exact added ▸ (List.concat_eq_append ▸ kept.once.concat isNew)
  threads := by
    rcases run.counts.ids_readLock thread with same | ⟨-, added⟩
    · exact same ▸ kept.threads
    · refine added ▸ fun member => ?_
      rcases List.mem_append.mp member with before | isLast
      · exact kept.threads before
      · exact nomatch List.mem_singleton.mp isLast
  inside := kept.inside
  writeCount other := by
    simp only [writes_step (kept.balanced other), reduceCtorEq, if_false]
    exact (run.counts.writeLockingThread_readLock thread).symm ▸ kept.writeCount other
  nobody := (run.counts.writeLockingThread_readLock thread).symm ▸ kept.nobody
  exclusive writer other isWriting unlike := by
    simp only [writes_step (kept.balanced writer), reduceCtorEq, if_false] at isWriting
    have isThread := kept.eq_of_canReadLock free isWriting
    have notThread : thread ≠ other := fun same => unlike (same.symm.trans isThread.symm)
    simp only [reads_step (kept.balanced other), LockOp.readLock.injEq, reduceCtorEq, if_false,
      if_neg notThread]
    exact kept.exclusive writer other isWriting unlike

/-- The count of a thread that gives back a read lock is found. -/
theorem unlocks (kept : run.Kept) (has : 0 < run.reads thread) :
    ∃ next, run.counts.readUnlock thread = some next ∧ run.step (.readUnlock thread) =
      { run with counts := next, history := .readUnlock thread :: run.history } := by
  have reading : run.counts.readCount thread ≠ 0 :=
    fun none => Nat.ne_of_gt has (kept.reads_eq_zero_iff.mp none)
  obtain ⟨next, unlocks⟩ := LockCounts.readUnlock_of_readCount_ne_zero reading
  refine ⟨next, unlocks, ?_⟩
  dsimp only [LockRun.step, perform]
  rw [unlocks]

theorem readUnlock (kept : run.Kept) (has : 0 < run.reads thread) :
    (run.step (.readUnlock thread)).Kept := by
  obtain ⟨next, unlocks, performs⟩ := kept.unlocks has
  have reads_eq (other : ThreadID) : (run.step (.readUnlock thread)).reads other =
      if thread = other then run.reads other - 1 else run.reads other := by
    simp only [reads_step (kept.balanced other), LockOp.readUnlock.injEq, reduceCtorEq, if_false]
  have writes_eq (other : ThreadID) :
      (run.step (.readUnlock thread)).writes other = run.writes other := by
    simp only [writes_step (kept.balanced other), reduceCtorEq, if_false]
  have counts_eq : (run.step (.readUnlock thread)).counts = next := by rw [performs]
  refine ⟨fun other => (kept.balanced other).step has, fun other => ?_, ?_, ?_, ?_,
    fun other => ?_, ?_, fun writer other isWriting unlike => ?_⟩
  · rw [reads_eq, counts_eq, LockCounts.readCount_readUnlock unlocks]
    split_ifs with same
    · subst same
      rw [toNat_sub_one (by rw [kept.readCount]; exact has), kept.readCount]
    · exact kept.readCount other
  · rw [counts_eq, LockCounts.ids_readUnlock unlocks]
    exact kept.once
  · rw [counts_eq, LockCounts.ids_readUnlock unlocks]
    exact kept.threads
  · rw [performs]
    exact kept.inside
  · rw [writes_eq, counts_eq, LockCounts.writeLockingThread_readUnlock unlocks]
    exact kept.writeCount other
  · rw [counts_eq, LockCounts.writeLockingThread_readUnlock unlocks]
    exact kept.nobody
  · rw [writes_eq] at isWriting
    rw [reads_eq, kept.exclusive writer other isWriting unlike, ite_self]

/-- Who may take a read lock finds the count of the write locks it has. -/
theorem count_of_canReadLock (kept : run.Kept) (free : run.counts.canReadLock thread = true) :
    run.counts.writeLockingThread.count.toNat = run.writes thread := by
  rw [kept.writeCount]
  split_ifs with mine
  · rfl
  · rw [(LockCounts.canReadLock_iff.mp free).resolve_right mine]
    rfl

theorem count_of_writes (kept : run.Kept) (isWriting : 0 < run.writes thread) :
    run.counts.writeLockingThread.count.toNat = run.writes thread := by
  rw [kept.writeCount, if_pos (kept.id_of_writes isWriting)]

theorem writeLock (kept : run.Kept) (free : run.counts.canWriteLock thread = true)
    (inRange : run.writes thread + 1 < 2 ^ 32) : (run.step (.writeLock thread)).Kept := by
  obtain ⟨canRead, alone⟩ := kept.canWriteLock_iff.mp free
  have count_eq := kept.count_of_canReadLock canRead
  have reads_eq (other : ThreadID) :
      (run.step (.writeLock thread)).reads other = run.reads other := by
    simp only [reads_step (kept.balanced other), reduceCtorEq, if_false]
  have writes_eq (other : ThreadID) : (run.step (.writeLock thread)).writes other =
      if thread = other then run.writes other + 1 else run.writes other := by
    simp only [writes_step (kept.balanced other), LockOp.writeLock.injEq, reduceCtorEq, if_false]
  have others (other : ThreadID) (unlike : thread ≠ other) : run.writes other = 0 :=
    Nat.eq_zero_of_not_pos fun isWriting =>
      unlike (kept.eq_of_canReadLock canRead isWriting).symm
  refine ⟨fun other => (kept.balanced other).step free, fun other => ?_, kept.once, kept.threads,
    kept.inside, fun other => ?_, nofun, fun writer other isWriting unlike => ?_⟩
  · rw [reads_eq]
    exact kept.readCount other
  · rw [writes_eq]
    refine Eq.trans ?_ (if_congr Option.some_inj rfl rfl).symm
    split_ifs with same
    · subst same
      exact (count_eq ▸ toNat_add_one (count_eq.symm ▸ inRange)).symm
    · exact others other same
  · rw [reads_eq]
    refine alone other fun same => ?_
    rw [writes_eq, if_neg fun isThread => unlike (same.trans isThread),
      others writer fun isThread => unlike (same.trans isThread)] at isWriting
    exact Nat.lt_irrefl 0 isWriting

theorem writeUnlock (kept : run.Kept) (has : 0 < run.writes thread) :
    (run.step (.writeUnlock thread)).Kept := by
  have isMine := kept.id_of_writes has
  have count_eq := kept.count_of_writes has
  have reads_eq (other : ThreadID) :
      (run.step (.writeUnlock thread)).reads other = run.reads other := by
    simp only [reads_step (kept.balanced other), reduceCtorEq, if_false]
  have writes_eq (other : ThreadID) : (run.step (.writeUnlock thread)).writes other =
      if thread = other then run.writes other - 1 else run.writes other := by
    simp only [writes_step (kept.balanced other), LockOp.writeUnlock.injEq, reduceCtorEq, if_false]
  refine ⟨fun other => (kept.balanced other).step has, fun other => ?_, kept.once, kept.threads,
    kept.inside, fun other => ?_, fun isNone => (nomatch isMine.symm.trans isNone),
    fun writer other isWriting unlike => ?_⟩
  · rw [reads_eq]
    exact kept.readCount other
  · have isLeft : (run.step (.writeUnlock thread)).counts.writeLockingThread.id = some thread :=
      isMine
    rw [writes_eq, isLeft]
    by_cases same : thread = other
    · subst same
      rw [if_pos rfl, if_pos rfl, ← count_eq]
      exact (toNat_sub_one (count_eq.symm ▸ has)).symm
    · have notOther : some thread ≠ some other := fun isOther => same (Option.some.inj isOther)
      rw [if_neg same, if_neg notOther, kept.writeCount, isMine, if_neg notOther]
  · rw [reads_eq]
    rw [writes_eq] at isWriting
    refine kept.exclusive writer other ?_ unlike
    split_ifs at isWriting
    · exact Nat.lt_of_lt_of_le isWriting (Nat.sub_le _ 1)
    · exact isWriting

theorem step (kept : run.Kept) (allowed : run.Allowed op) (inRange : run.InRange op) :
    (run.step op).Kept := by
  cases op with
  | readLock thread => exact kept.readLock allowed inRange
  | readUnlock thread => exact kept.readUnlock allowed
  | writeLock thread => exact kept.writeLock allowed inRange
  | writeUnlock thread => exact kept.writeUnlock allowed

theorem sound (kept : run.Kept) : run.Sound where
  exclusive thread other isWriting unlike := by
    refine ⟨kept.exclusive thread other isWriting unlike, Nat.eq_zero_of_not_pos fun both => ?_⟩
    exact unlike (Option.some.inj ((kept.id_of_writes both).symm.trans
      (kept.id_of_writes isWriting)))
  unlocked thread := ⟨(kept.balanced thread).reads, (kept.balanced thread).writes⟩
  readCount := kept.readCount
  once := kept.once
  known thread isReading := LockCounts.exists_of_readCount_ne_zero fun none =>
    Nat.ne_of_gt isReading (kept.reads_eq_zero_iff.mp none)
  inside := kept.inside
  writeCount _ isWriting := ⟨kept.id_of_writes isWriting, kept.count_of_writes isWriting⟩
  unwritten nobody := by
    cases isWriter : run.counts.writeLockingThread.id with
    | none => exact kept.nobody isWriter
    | some thread =>
      have none := kept.writeCount thread
      rw [nobody thread, if_pos isWriter] at none
      exact BitVec.eq_of_toNat_eq none.symm
  neverWaits thread isWriting := by
    have canRead : run.counts.canReadLock thread = true :=
      LockCounts.canReadLock_iff.mpr (.inr (kept.id_of_writes isWriting))
    exact ⟨canRead, kept.canWriteLock_iff.mpr
      ⟨canRead, fun other unlike => kept.exclusive thread other isWriting unlike⟩⟩

end Kept

/-- In a run no thread has too many locks of a kind. -/
def Reached : LockRun → Prop :=
  Transition.Reaches step (fun run op => run.Allowed op ∧ run.InRange op) new

theorem kept_of_reached (reached : run.Reached) : run.Kept :=
  reached.invariant kept_new fun _ _ kept permitted => kept.step permitted.1 permitted.2

/-- In every state that threads reach by taking locks they need not wait for and by giving back what
they have, the mutex does what it is for, as long as no thread has too many locks of a kind. -/
theorem locks_exclude (reached : run.Reached) : run.Sound := (kept_of_reached reached).sound

/-- A thread reads twice and comes to write in between; another one reads after it. -/
theorem locks_exclude_of_upgrade : Sound (List.foldl step new
    [.readLock 1, .writeLock 1, .readLock 1, .writeLock 1, .readUnlock 1, .writeUnlock 1,
      .writeUnlock 1, .readLock 2, .readUnlock 1]) :=
  locks_exclude (Transition.Reaches.foldl .start _ (by decide))

/-! ### The mutex that has no bound -/

/-- What the operations make of a mutex whose counts are not words. -/
def unbounded : List LockOp → RecursiveReadWriteMutex
  | [] => .new
  | .readLock thread :: earlier => (unbounded earlier).readLock thread
  | .readUnlock thread :: earlier => (unbounded earlier).readUnlock thread
  | .writeLock thread :: earlier => (unbounded earlier).writeLock thread
  | .writeUnlock _ :: earlier => (unbounded earlier).writeUnlock

/-- The words are the counts of a mutex. Who has the write lock is of no matter while it is free. -/
structure Represents (counts : LockCounts) (mutex : RecursiveReadWriteMutex) : Prop where
  readers : ∀ thread, (counts.readCount thread).toNat = mutex.readCount thread
  written : counts.writeLockingThread.count.toNat = mutex.writeLockingThread.2
  writer : counts.writeLockingThread.count ≠ 0 →
    counts.writeLockingThread.id = some mutex.writeLockingThread.1

namespace Represents

variable {counts : LockCounts} {mutex : RecursiveReadWriteMutex}

theorem readLock (represents : Represents counts mutex)
    (inRange : mutex.readCount thread + 1 < 2 ^ 32) :
    Represents (counts.readLock thread) (mutex.readLock thread) where
  readers other := by
    rw [LockCounts.readCount_readLock, RecursiveReadWriteMutex.readCount_readLock]
    split_ifs with same
    · subst same
      rw [toNat_add_one (by rw [represents.readers]; exact inRange), represents.readers]
    · exact represents.readers other
  written := by
    rw [LockCounts.writeLockingThread_readLock,
      RecursiveReadWriteMutex.writeLockingThread_readLock]
    exact represents.written
  writer := by
    rw [LockCounts.writeLockingThread_readLock,
      RecursiveReadWriteMutex.writeLockingThread_readLock]
    exact represents.writer

theorem readUnlock (represents : Represents counts mutex) (has : 0 < mutex.readCount thread)
    {next : LockCounts} (unlocks : counts.readUnlock thread = some next) :
    Represents next (mutex.readUnlock thread) where
  readers other := by
    rw [LockCounts.readCount_readUnlock unlocks, RecursiveReadWriteMutex.readCount_readUnlock]
    split_ifs with same
    · subst same
      rw [toNat_sub_one (by rw [represents.readers]; exact has), represents.readers]
    · exact represents.readers other
  written := by
    rw [LockCounts.writeLockingThread_readUnlock unlocks,
      RecursiveReadWriteMutex.writeLockingThread_readUnlock]
    exact represents.written
  writer := by
    rw [LockCounts.writeLockingThread_readUnlock unlocks,
      RecursiveReadWriteMutex.writeLockingThread_readUnlock]
    exact represents.writer

theorem writeLock (represents : Represents counts mutex)
    (inRange : mutex.writeLockingThread.2 + 1 < 2 ^ 32) :
    Represents (counts.writeLock thread) (mutex.writeLock thread) where
  readers := represents.readers
  written := by
    have small : counts.writeLockingThread.count.toNat + 1 < 2 ^ 32 := by
      rw [represents.written]
      exact inRange
    exact (toNat_add_one small).trans (congrArg (· + 1) represents.written)
  writer _ := rfl

theorem writeUnlock (represents : Represents counts mutex)
    (has : 0 < mutex.writeLockingThread.2) :
    Represents counts.writeUnlock mutex.writeUnlock where
  readers := represents.readers
  written := by
    have some : 0 < counts.writeLockingThread.count.toNat := by
      rw [represents.written]
      exact has
    exact (toNat_sub_one some).trans (congrArg (· - 1) represents.written)
  writer _ := by
    refine represents.writer fun none => ?_
    rw [← represents.written, none] at has
    exact Nat.lt_irrefl 0 has

/-- The same threads wait. -/
theorem canReadLock_iff (represents : Represents counts mutex) :
    counts.canReadLock thread = true ↔ mutex.canReadLock thread = true := by
  rw [LockCounts.canReadLock_iff, RecursiveReadWriteMutex.canReadLock, Bool.or_eq_true,
    decide_eq_true_iff, decide_eq_true_iff, ← represents.written]
  by_cases free : counts.writeLockingThread.count = 0
  · exact iff_of_true (.inl free) (.inl (free ▸ rfl))
  · have taken : counts.writeLockingThread.count.toNat ≠ 0 :=
      fun zero => free (BitVec.eq_of_toNat_eq zero)
    rw [or_iff_right free, or_iff_right taken, represents.writer free, Option.some_inj]

end Represents

theorem represents_of_reached (reached : run.Reached) :
    Represents run.counts (unbounded run.history) := by
  induction reached with
  | start => exact ⟨fun _ => rfl, rfl, fun some => absurd rfl some⟩
  | step op before permitted represents =>
    obtain ⟨allowed, inRange⟩ := permitted
    have kept := kept_of_reached before
    cases op with
    | readLock thread =>
      refine represents.readLock ?_
      rw [← represents.readers, kept.readCount]
      exact inRange
    | readUnlock thread =>
      obtain ⟨next, unlocks, performs⟩ := kept.unlocks allowed
      rw [performs]
      refine represents.readUnlock ?_ unlocks
      rw [← represents.readers, kept.readCount]
      exact allowed
    | writeLock thread =>
      refine represents.writeLock ?_
      rw [← represents.written, kept.count_of_canReadLock (kept.canWriteLock_iff.mp allowed).1]
      exact inRange
    | writeUnlock thread =>
      refine represents.writeUnlock ?_
      rw [← represents.written, kept.count_of_writes allowed]
      exact allowed

/-- The same threads wait for the mutex and for the one that has no bound. -/
theorem waits_alike (reached : run.Reached) (thread : ThreadID) :
    run.counts.canReadLock thread = (unbounded run.history).canReadLock thread ∧
      run.counts.canWriteLock thread = (unbounded run.history).canWriteLock thread := by
  have represents := represents_of_reached reached
  have kept := kept_of_reached reached
  refine ⟨Bool.eq_iff_iff.mpr represents.canReadLock_iff, ?_⟩
  rw [Bool.eq_iff_iff, kept.canWriteLock_iff, RecursiveReadWriteMutex.canWriteLock_iff,
    represents.canReadLock_iff]
  refine and_congr_right fun _ => forall₂_congr fun other _ => ?_
  rw [← represents.readers, kept.readCount]

/-- A thread reads and writes, for which another one has to wait. -/
theorem waits_alike_of_upgrade :
    let run := List.foldl step new [.readLock 1, .writeLock 1, .readLock 1]
    run.counts.canReadLock 2 = (unbounded run.history).canReadLock 2 ∧
      run.counts.canWriteLock 2 = (unbounded run.history).canWriteLock 2 :=
  waits_alike (Transition.Reaches.foldl .start _ (by decide)) 2

/-! ### When a count is full -/

/-- A thread that took read locks alone. -/
def readLocked (count : Nat) : LockRun :=
  ⟨⟨[⟨some 0, BitVec.ofNat 32 (count + 1)⟩], ⟨none, 0⟩⟩, false,
    List.replicate (count + 1) (.readLock 0)⟩

theorem step_readLocked (count : Nat) :
    (readLocked count).step (.readLock 0) = readLocked (count + 1) := by
  unfold readLocked
  rw [List.replicate_succ, BitVec.ofNat_add (count + 1) 1]
  rfl

theorem reaches_readLocked (count : Nat) :
    Transition.Reaches step Allowed new (readLocked count) := by
  induction count with
  | zero => exact .step (LockOp.readLock 0) .start rfl
  | succ count inductionHypothesis =>
    rw [← step_readLocked]
    exact .step (LockOp.readLock 0) inductionHypothesis rfl

/-- Where the count is zero again, another thread does not wait to write. -/
theorem not_sound_of_full {count : Nat} :
    ¬ Sound ((readLocked count).step (.writeLock 1)) := by
  intro sound
  have reads_eq : ((readLocked count).step (.writeLock 1)).reads 0 = count + 1 := by
    simp [reads, held, step, readLocked, List.count_replicate]
  have writes_eq : ((readLocked count).step (.writeLock 1)).writes 1 = 1 := by
    simp [writes, held, step, readLocked, List.count_replicate]
  have none := (sound.exclusive 1 0 (Nat.lt_of_lt_of_eq Nat.one_pos writes_eq.symm) nofun).1
  exact absurd (reads_eq.symm.trans none) (Nat.succ_ne_zero count)

/-- A thread takes as many read locks as a count can tell and one more, and another thread takes the
write lock. -/
theorem writes_beside_full_count :
    ¬ ∀ run, Transition.Reaches step Allowed new run → run.Sound := by
  intro all
  have free : (readLocked (2 ^ 32 - 1)).Allowed (.writeLock 1) := by decide
  exact not_sound_of_full (all _ (.step _ (reaches_readLocked _) free))

end LockRun

end Mir.Thread
