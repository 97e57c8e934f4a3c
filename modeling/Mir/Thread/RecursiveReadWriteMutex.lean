/-
This file embeds the recursive read-write mutex. A thread has any number of read locks, which others
may have as well, and the write lock as long as no other thread has a lock; a thread that has read
locks alone may have the write lock, too.

It proves what the counts of the mutex say of the locks that threads have: the write lock excludes
the read locks of other threads.
-/

import Mir.Library.Roster

namespace Mir.Thread

abbrev ThreadID := Nat

structure RecursiveReadWriteMutex where
  readLockingThreads : Roster ThreadID Nat
  writeLockingThread : ThreadID × Nat

namespace RecursiveReadWriteMutex

def new : RecursiveReadWriteMutex := ⟨.empty, (0, 0)⟩

variable (mutex : RecursiveReadWriteMutex) (thread : ThreadID)

/-- What `read_lock` waits for. -/
def canReadLock : Bool :=
  mutex.writeLockingThread.2 = 0 || mutex.writeLockingThread.1 = thread

def readLock : RecursiveReadWriteMutex :=
  match mutex.readLockingThreads.find thread with
  | none =>
    { mutex with readLockingThreads := mutex.readLockingThreads.join thread 1 }
  | some count =>
    { mutex with readLockingThreads := mutex.readLockingThreads.change thread (count + 1) }

def readUnlock : RecursiveReadWriteMutex :=
  match mutex.readLockingThreads.find thread with
  | none => mutex
  | some count =>
    { mutex with readLockingThreads := mutex.readLockingThreads.change thread (count - 1) }

/-- What `write_lock` waits for. -/
def canWriteLock : Bool :=
  mutex.canReadLock thread &&
    mutex.readLockingThreads.entries.all fun candidate =>
      candidate.1 = thread || candidate.2 = 0

def writeLock : RecursiveReadWriteMutex :=
  { mutex with writeLockingThread := (thread, mutex.writeLockingThread.2 + 1) }

def writeUnlock : RecursiveReadWriteMutex :=
  { mutex with writeLockingThread :=
      (mutex.writeLockingThread.1, mutex.writeLockingThread.2 - 1) }

/-- How many read locks a thread has. -/
def readCount : Nat := (mutex.readLockingThreads.find thread).getD 0

variable {mutex thread}

theorem readCount_readLock (other : ThreadID) :
    (mutex.readLock thread).readCount other =
      if thread = other then mutex.readCount other + 1 else mutex.readCount other := by
  unfold readCount readLock
  cases found : mutex.readLockingThreads.find thread with
  | none =>
    rw [Roster.find_join _ _ found]
    by_cases same : thread = other
    · subst same
      simp [found]
    · simp only [if_neg same]
  | some count =>
    rw [Roster.find_change _ _ found]
    by_cases same : thread = other
    · subst same
      simp [found]
    · simp only [if_neg same]

theorem readCount_readUnlock (other : ThreadID) :
    (mutex.readUnlock thread).readCount other =
      if thread = other then mutex.readCount other - 1 else mutex.readCount other := by
  unfold readCount readUnlock
  cases found : mutex.readLockingThreads.find thread with
  | none =>
    by_cases same : thread = other
    · subst same
      simp [found]
    · simp only [if_neg same]
  | some count =>
    rw [Roster.find_change _ _ found]
    by_cases same : thread = other
    · subst same
      simp [found]
    · simp only [if_neg same]

theorem writeLockingThread_readLock :
    (mutex.readLock thread).writeLockingThread = mutex.writeLockingThread := by
  unfold readLock
  split <;> rfl

theorem writeLockingThread_readUnlock :
    (mutex.readUnlock thread).writeLockingThread = mutex.writeLockingThread := by
  unfold readUnlock
  split <;> rfl

theorem canWriteLock_iff :
    mutex.canWriteLock thread = true ↔ mutex.canReadLock thread = true ∧
      ∀ other, other ≠ thread → mutex.readCount other = 0 := by
  unfold canWriteLock
  rw [Bool.and_eq_true, List.all_eq_true]
  refine and_congr_right fun _ => ⟨fun each other unlike => ?_, fun each candidate member => ?_⟩
  · unfold readCount
    cases found : mutex.readLockingThreads.find other with
    | none => rfl
    | some count =>
      have candidate := each _ ((Roster.mem_entries_iff _ other count).mpr found)
      simpa [unlike] using candidate
  · by_cases same : candidate.1 = thread
    · simp [same]
    · have none := each candidate.1 same
      unfold readCount at none
      rw [(Roster.mem_entries_iff _ candidate.1 candidate.2).mp member] at none
      simpa [same] using none

/-- The mutex knows of the read locks that each thread has, and of the one that has the write
lock. -/
structure Agrees (mutex : RecursiveReadWriteMutex) (reads : ThreadID → Nat)
    (writes : ThreadID → Prop) : Prop where
  readers : ∀ thread, mutex.readCount thread = reads thread
  writer : ∀ thread, writes thread ↔ mutex.writeLockingThread = (thread, 1)
  once : mutex.writeLockingThread.2 ≤ 1
  exclusive : ∀ thread other, writes thread → other ≠ thread → reads other = 0

theorem agrees_new : Agrees .new (fun _ => 0) (fun _ => False) where
  readers _ := rfl
  writer thread := by simp [new]
  once := Nat.zero_le 1
  exclusive _ _ isWriting := isWriting.elim

namespace Agrees

variable {reads later : ThreadID → Nat} {writes written : ThreadID → Prop}

theorem congr (agrees : mutex.Agrees reads writes) (same : ∀ thread, later thread = reads thread)
    (alike : ∀ thread, written thread ↔ writes thread) : mutex.Agrees later written where
  readers thread := (agrees.readers thread).trans (same thread).symm
  writer thread := (alike thread).trans (agrees.writer thread)
  once := agrees.once
  exclusive thread other isWriting unlike :=
    (same other).trans (agrees.exclusive thread other ((alike thread).mp isWriting) unlike)

/-- Who may take a read lock finds no other thread with the write lock. -/
theorem eq_of_writes (agrees : mutex.Agrees reads writes) (free : mutex.canReadLock thread = true)
    {other : ThreadID} (isWriting : writes other) : other = thread := by
  have whole := (agrees.writer other).mp isWriting
  simpa [canReadLock, whole] using free

/-- Where nobody has the write lock everybody may take a read lock. -/
theorem canReadLock_of_unwritten (agrees : mutex.Agrees reads writes)
    (unwritten : ∀ other, ¬ writes other) : mutex.canReadLock thread = true := by
  have unlocked : mutex.writeLockingThread.2 = 0 := by
    by_contra locked
    have isOnce : mutex.writeLockingThread.2 = 1 := by
      have := agrees.once
      omega
    exact unwritten _ ((agrees.writer mutex.writeLockingThread.1).mpr (by rw [← isOnce]))
  simp [canReadLock, unlocked]

theorem readLock (agrees : mutex.Agrees reads writes) (free : mutex.canReadLock thread = true)
    (more : later thread = reads thread + 1) (others : ∀ other, other ≠ thread →
      later other = reads other) (same : ∀ other, written other ↔ writes other) :
    (mutex.readLock thread).Agrees later written where
  readers other := by
    rw [readCount_readLock, agrees.readers]
    split
    case isTrue isThread => rw [← isThread, more]
    case isFalse unlike => exact (others other fun isThread => unlike isThread.symm).symm
  writer other := by
    rw [same, agrees.writer, writeLockingThread_readLock]
  once := by
    rw [writeLockingThread_readLock]
    exact agrees.once
  exclusive writer other isWriting unlike := by
    have isThread := agrees.eq_of_writes free ((same writer).mp isWriting)
    rw [others other (isThread ▸ unlike)]
    exact agrees.exclusive writer other ((same writer).mp isWriting) unlike

theorem readUnlock (agrees : mutex.Agrees reads writes) (less : later thread = reads thread - 1)
    (others : ∀ other, other ≠ thread → later other = reads other)
    (same : ∀ other, written other ↔ writes other) :
    (mutex.readUnlock thread).Agrees later written where
  readers other := by
    rw [readCount_readUnlock, agrees.readers]
    split
    case isTrue isThread => rw [← isThread, less]
    case isFalse unlike => exact (others other fun isThread => unlike isThread.symm).symm
  writer other := by
    rw [same, agrees.writer, writeLockingThread_readUnlock]
  once := by
    rw [writeLockingThread_readUnlock]
    exact agrees.once
  exclusive writer other isWriting unlike := by
    have none := agrees.exclusive writer other ((same writer).mp isWriting) unlike
    by_cases isThread : other = thread
    · rw [isThread, less, ← isThread, none]
    · rw [others other isThread, none]

theorem writeLock (agrees : mutex.Agrees reads writes) (free : mutex.canWriteLock thread = true)
    (isNew : ¬ writes thread) (same : ∀ other, later other = reads other)
    (only : ∀ other, written other ↔ other = thread) :
    (mutex.writeLock thread).Agrees later written := by
  obtain ⟨canRead, noReaders⟩ := canWriteLock_iff.mp free
  have unlocked : mutex.writeLockingThread.2 = 0 := by
    by_contra locked
    have isOnce : mutex.writeLockingThread.2 = 1 := by
      have := agrees.once
      omega
    have isWriting := (agrees.writer mutex.writeLockingThread.1).mpr (by rw [← isOnce])
    exact isNew (agrees.eq_of_writes canRead isWriting ▸ isWriting)
  refine ⟨fun other => (agrees.readers other).trans (same other).symm, fun other => ?_, ?_, ?_⟩
  · rw [only, RecursiveReadWriteMutex.writeLock, unlocked, Prod.mk.injEq]
    exact ⟨fun isThread => ⟨isThread.symm, rfl⟩, fun whole => whole.1.symm⟩
  · have isOnce : (mutex.writeLock thread).writeLockingThread.2 = 1 := by
      rw [RecursiveReadWriteMutex.writeLock, unlocked]
    exact Nat.le_of_eq isOnce
  · intro writer other isWriting unlike
    rw [(only writer).mp isWriting] at unlike
    rw [same, ← agrees.readers, noReaders other unlike]

theorem writeUnlock (agrees : mutex.Agrees reads writes) (isWriting : writes thread)
    (same : ∀ other, later other = reads other) (nobody : ∀ other, ¬ written other) :
    mutex.writeUnlock.Agrees later written where
  readers other := (agrees.readers other).trans (same other).symm
  writer other := by
    rw [RecursiveReadWriteMutex.writeUnlock, (agrees.writer thread).mp isWriting]
    exact iff_of_false (nobody other) (by simp)
  once := by
    rw [RecursiveReadWriteMutex.writeUnlock, (agrees.writer thread).mp isWriting]
    exact Nat.zero_le 1
  exclusive _ _ isWriting := (nobody _ isWriting).elim

end Agrees

end RecursiveReadWriteMutex

end Mir.Thread
