/-
This file proves when the pointers of a multiplexing dispatchable are valid and its sequential
dispatchees are dispatched by one thread at a time. A removal takes a descriptor out of the epoll
set and its entries out of the list in two steps, and a dispatch arms its descriptor again with the
pointer it read before; so it must not happen that a descriptor is added while it is being removed,
or again while it is dispatched for a watch that was removed.
-/

import Mir.Dispatch.MultiplexingDispatchable

namespace Mir.Dispatch

/-! ### What disturbs a watch -/

/-- A dispatch under way is disturbed by a new watch of its descriptor: a sequential one arms the
descriptor with its own entry, and another thread may take a sequential dispatchee again. -/
def DispatcheeHolder.disturbedBy (holder next : DispatcheeHolder) : Bool :=
  holder.sequential || (next.sequential && decide (holder.dispatchee = next.dispatchee))

namespace CallPhase

def erases (fd : Fd) : CallPhase → Bool
  | .erasing other => decide (other = fd)
  | _ => false

def adds (fd : Fd) : CallPhase → Bool
  | .adding _ holder | .failing _ holder => decide (holder.dispatchee.watchFd = fd)
  | _ => false

def disturbedBy (next : DispatcheeHolder) : CallPhase → Bool
  | .dispatching _ holder | .rearming _ holder =>
    decide (holder.dispatchee.watchFd = next.dispatchee.watchFd) && holder.disturbedBy next
  | _ => false

end CallPhase

namespace MultiplexingDispatchable

/-- A watch is added only while no removal of its descriptor is between its two steps and, unless
the descriptor has a watch, no dispatch that this disturbs is under way; a descriptor is taken out
of the epoll set only while none of it is being added. -/
def Undisturbed (dispatcher : MultiplexingDispatchable) : MultiplexingOp → Prop
  | .addWatch _ holder =>
    dispatcher.calls.count (CallPhase.erases holder.dispatchee.watchFd) = 0 ∧
      ((dispatcher.epoll.find holder.dispatchee.watchFd).isSome = true ∨
        dispatcher.calls.count (CallPhase.disturbedBy holder) = 0)
  | .ctlDel call =>
    ∀ fd, dispatcher.calls.find call = some (.removing fd) →
      (dispatcher.epoll.find fd).isSome = true → dispatcher.calls.count (CallPhase.adds fd) = 0
  | _ => True

/-- What every state must have: each descriptor of the epoll set points to an entry of the list
that is for it, and no dispatchee is dispatched twice at once for a watch that is sequential. -/
structure WatchesValid (dispatcher : MultiplexingDispatchable) : Prop where
  pointers : ∀ fd event, dispatcher.epoll.find fd = some event →
    ∃ holder, dispatcher.dispatcheeHolder.find event.data = some holder ∧
      holder.dispatchee.watchFd = fd
  exclusive : ∀ first second data other holder next,
    dispatcher.calls.find first = some (.dispatching data holder) →
    dispatcher.calls.find second = some (.dispatching other next) →
    holder.dispatchee = next.dispatchee → first ≠ second → holder.sequential = false

/-! ### Calls under way -/

/-- The call dispatches for this entry, or is about to arm its descriptor again. -/
def Runs (calls : OrderedMap CallID CallPhase) (call : CallID) (data : HolderID)
    (holder : DispatcheeHolder) : Prop :=
  calls.find call = some (.dispatching data holder) ∨
    calls.find call = some (.rearming data holder)

/-- The call adds this entry, which is not in the epoll set. -/
def Adds (calls : OrderedMap CallID CallPhase) (call : CallID) (data : HolderID)
    (holder : DispatcheeHolder) : Prop :=
  calls.find call = some (.adding data holder) ∨ calls.find call = some (.failing data holder)

section

variable {calls : OrderedMap CallID CallPhase} {call other : CallID} {phase next : CallPhase}
  {data : HolderID} {holder : DispatcheeHolder}

theorem find_of_find_erase (found : (calls.erase call).find other = some phase) :
    other ≠ call ∧ calls.find other = some phase := by
  rw [OrderedMap.find_erase] at found
  by_cases same : other = call
  · rw [if_pos same] at found
    cases found
  · rw [if_neg same] at found
    exact ⟨same, found⟩

theorem find_of_find_set (found : (calls.set call phase).find other = some next) :
    other = call ∧ phase = next ∨ other ≠ call ∧ calls.find other = some next := by
  rw [OrderedMap.find_set] at found
  by_cases same : other = call
  · rw [if_pos same] at found
    exact .inl ⟨same, Option.some.inj found⟩
  · rw [if_neg same] at found
    exact .inr ⟨same, found⟩

theorem runs_of_erase (runs : Runs (calls.erase call) other data holder) :
    other ≠ call ∧ Runs calls other data holder := by
  rcases runs with runs | runs
  · exact ⟨(find_of_find_erase runs).1, .inl (find_of_find_erase runs).2⟩
  · exact ⟨(find_of_find_erase runs).1, .inr (find_of_find_erase runs).2⟩

theorem adds_of_erase (adds : Adds (calls.erase call) other data holder) :
    other ≠ call ∧ Adds calls other data holder := by
  rcases adds with adds | adds
  · exact ⟨(find_of_find_erase adds).1, .inl (find_of_find_erase adds).2⟩
  · exact ⟨(find_of_find_erase adds).1, .inr (find_of_find_erase adds).2⟩

theorem runs_of_set (runs : Runs (calls.set call phase) other data holder) :
    other = call ∧ (phase = .dispatching data holder ∨ phase = .rearming data holder) ∨
      other ≠ call ∧ Runs calls other data holder := by
  rcases runs with runs | runs
  · exact (find_of_find_set runs).imp (And.imp_right .inl) (And.imp_right .inl)
  · exact (find_of_find_set runs).imp (And.imp_right .inr) (And.imp_right .inr)

theorem adds_of_set (adds : Adds (calls.set call phase) other data holder) :
    other = call ∧ (phase = .adding data holder ∨ phase = .failing data holder) ∨
      other ≠ call ∧ Adds calls other data holder := by
  rcases adds with adds | adds
  · exact (find_of_find_set adds).imp (And.imp_right .inl) (And.imp_right .inl)
  · exact (find_of_find_set adds).imp (And.imp_right .inr) (And.imp_right .inr)

/-- A call that is found in another phase than the one that was set was in it before. -/
theorem find_before (different : phase ≠ next)
    (found : (calls.set call phase).find other = some next) : calls.find other = some next := by
  rcases find_of_find_set found with ⟨-, same⟩ | ⟨-, before⟩
  · exact absurd same different
  · exact before

theorem runs_before (dispatching : phase ≠ .dispatching data holder)
    (rearming : phase ≠ .rearming data holder)
    (runs : Runs (calls.set call phase) other data holder) : Runs calls other data holder :=
  runs.imp (find_before dispatching) (find_before rearming)

theorem adds_before (adding : phase ≠ .adding data holder) (failing : phase ≠ .failing data holder)
    (adds : Adds (calls.set call phase) other data holder) : Adds calls other data holder :=
  adds.imp (find_before adding) (find_before failing)

end

/-! ### What holds between two steps -/

structure Sound (dispatcher : MultiplexingDispatchable) : Prop where
  unmade : ∀ data, dispatcher.made ≤ data → dispatcher.dispatcheeHolder.find data = none
  watched : ∀ fd event, dispatcher.epoll.find fd = some event →
    ∃ holder, dispatcher.dispatcheeHolder.find event.data = some holder ∧
      holder.dispatchee.watchFd = fd ∧ event.oneshot = holder.sequential
  added : ∀ call data holder, dispatcher.calls.find call = some (.adding data holder) →
    dispatcher.dispatcheeHolder.find data = some holder
  unwatched : ∀ call data holder, Adds dispatcher.calls call data holder →
    data < dispatcher.made ∧ ∀ fd event, dispatcher.epoll.find fd = some event → event.data ≠ data
  unrun : ∀ call data holder, Adds dispatcher.calls call data holder →
    ∀ other next, ¬Runs dispatcher.calls other data next
  apart : ∀ first second data holder next, Adds dispatcher.calls first data holder →
    Adds dispatcher.calls second data next → first = second
  erased : ∀ call fd, dispatcher.calls.find call = some (.erasing fd) →
    dispatcher.epoll.find fd = none ∧
      ∀ other data holder, Adds dispatcher.calls other data holder →
        holder.dispatchee.watchFd ≠ fd
  oneshots : ∀ call data holder, dispatcher.calls.find call = some (.rearming data holder) →
    holder.sequential = true
  running : ∀ call data holder, Runs dispatcher.calls call data holder →
    data < dispatcher.made ∧
      ∀ next, dispatcher.dispatcheeHolder.find data = some next → next = holder
  undisturbed : ∀ call data holder, Runs dispatcher.calls call data holder →
    ∀ event next, dispatcher.epoll.find holder.dispatchee.watchFd = some event →
      dispatcher.dispatcheeHolder.find event.data = some next →
        event.data = data ∨ holder.disturbedBy next = false
  unhurried : ∀ call data holder, Runs dispatcher.calls call data holder →
    ∀ other new next, dispatcher.calls.find other = some (.adding new next) →
      next.dispatchee.watchFd = holder.dispatchee.watchFd →
        (dispatcher.epoll.find holder.dispatchee.watchFd).isSome = true ∨
          holder.disturbedBy next = false
  disarmed : ∀ call data holder, Runs dispatcher.calls call data holder →
    holder.sequential = true → ∀ fd event, dispatcher.epoll.find fd = some event →
      event.data = data → event.armed = false
  alone : ∀ first second data holder next, Runs dispatcher.calls first data holder →
    Runs dispatcher.calls second data next → holder.sequential = true → first = second
  exclusive : ∀ first second data other holder next, Runs dispatcher.calls first data holder →
    Runs dispatcher.calls second other next → holder.dispatchee = next.dispatchee →
      first ≠ second → holder.sequential = false

variable {dispatcher : MultiplexingDispatchable}

theorem Sound.watchesValid (sound : dispatcher.Sound) : dispatcher.WatchesValid where
  pointers fd event there := by
    obtain ⟨holder, held, isFd, -⟩ := sound.watched fd event there
    exact ⟨holder, held, isFd⟩
  exclusive first second data other holder next isFirst isSecond :=
    sound.exclusive first second data other holder next (.inl isFirst) (.inl isSecond)

theorem not_runs_empty {call : CallID} {data : HolderID} {holder : DispatcheeHolder} :
    ¬Runs .empty call data holder := by
  intro runs
  rcases runs with runs | runs <;> cases runs

theorem not_adds_empty {call : CallID} {data : HolderID} {holder : DispatcheeHolder} :
    ¬Adds .empty call data holder := by
  intro adds
  rcases adds with adds | adds <;> cases adds

theorem sound_initial : initial.Sound where
  unmade _ _ := rfl
  watched _ _ there := nomatch there
  added _ _ _ adding := nomatch adding
  unwatched _ _ _ adds := absurd adds not_adds_empty
  unrun _ _ _ adds := absurd adds not_adds_empty
  apart _ _ _ _ _ adds := absurd adds not_adds_empty
  erased _ _ erasing := nomatch erasing
  oneshots _ _ _ rearming := nomatch rearming
  running _ _ _ runs := absurd runs not_runs_empty
  undisturbed _ _ _ runs := absurd runs not_runs_empty
  unhurried _ _ _ runs := absurd runs not_runs_empty
  disarmed _ _ _ runs := absurd runs not_runs_empty
  alone _ _ _ _ _ runs := absurd runs not_runs_empty
  exclusive _ _ _ _ _ _ runs := absurd runs not_runs_empty

/-! ### Calls that go on or end -/

/-- A change of the calls that begins no addition, dispatch or removal. -/
theorem Sound.fewer (sound : dispatcher.Sound) {calls : OrderedMap CallID CallPhase}
    (adding : ∀ call data holder, calls.find call = some (.adding data holder) →
      dispatcher.calls.find call = some (.adding data holder))
    (adds : ∀ call data holder, Adds calls call data holder →
      Adds dispatcher.calls call data holder)
    (erasing : ∀ call fd, calls.find call = some (.erasing fd) →
      dispatcher.calls.find call = some (.erasing fd))
    (runs : ∀ call data holder, Runs calls call data holder →
      Runs dispatcher.calls call data holder)
    (rearming : ∀ call data holder, calls.find call = some (.rearming data holder) →
      holder.sequential = true) :
    { dispatcher with calls := calls }.Sound where
  unmade := sound.unmade
  watched := sound.watched
  added call data holder is := sound.added call data holder (adding _ _ _ is)
  unwatched call data holder is := sound.unwatched call data holder (adds _ _ _ is)
  unrun call data holder is other next isOther :=
    sound.unrun call data holder (adds _ _ _ is) other next (runs _ _ _ isOther)
  apart first second data holder next isFirst isSecond :=
    sound.apart first second data holder next (adds _ _ _ isFirst) (adds _ _ _ isSecond)
  erased call fd is :=
    ⟨(sound.erased call fd (erasing _ _ is)).1, fun other data holder isOther =>
      (sound.erased call fd (erasing _ _ is)).2 other data holder (adds _ _ _ isOther)⟩
  oneshots := rearming
  running call data holder is := sound.running call data holder (runs _ _ _ is)
  undisturbed call data holder is := sound.undisturbed call data holder (runs _ _ _ is)
  unhurried call data holder is other new next isOther :=
    sound.unhurried call data holder (runs _ _ _ is) other new next (adding _ _ _ isOther)
  disarmed call data holder is := sound.disarmed call data holder (runs _ _ _ is)
  alone first second data holder next isFirst isSecond :=
    sound.alone first second data holder next (runs _ _ _ isFirst) (runs _ _ _ isSecond)
  exclusive first second data other holder next isFirst isSecond :=
    sound.exclusive first second data other holder next (runs _ _ _ isFirst)
      (runs _ _ _ isSecond)

theorem Sound.ends (sound : dispatcher.Sound) (call : CallID) :
    { dispatcher with calls := dispatcher.calls.erase call }.Sound :=
  sound.fewer (fun _ _ _ is => (find_of_find_erase is).2) (fun _ _ _ is => (adds_of_erase is).2)
    (fun _ _ is => (find_of_find_erase is).2) (fun _ _ _ is => (runs_of_erase is).2)
    fun other data holder is => sound.oneshots other data holder (find_of_find_erase is).2

/-- A call goes on to a phase in which it adds, runs or erases no more than before. -/
theorem Sound.goesOn (sound : dispatcher.Sound) {call : CallID} {phase : CallPhase}
    (adding : ∀ data holder, phase ≠ .adding data holder)
    (failing : ∀ data holder, phase = .failing data holder →
      Adds dispatcher.calls call data holder)
    (erasing : ∀ fd, phase ≠ .erasing fd)
    (dispatching : ∀ data holder, phase ≠ .dispatching data holder)
    (rearming : ∀ data holder, phase = .rearming data holder →
      Runs dispatcher.calls call data holder ∧ holder.sequential = true) :
    { dispatcher with calls := dispatcher.calls.set call phase }.Sound := by
  refine sound.fewer (fun other data holder is => ?_) (fun other data holder is => ?_)
    (fun other fd is => ?_) (fun other data holder is => ?_) fun other data holder is => ?_
  · rcases find_of_find_set is with ⟨-, same⟩ | ⟨-, before⟩
    · exact absurd same (adding data holder)
    · exact before
  · rcases adds_of_set is with ⟨rfl, same | same⟩ | ⟨-, before⟩
    · exact absurd same (adding data holder)
    · exact failing data holder same
    · exact before
  · rcases find_of_find_set is with ⟨-, same⟩ | ⟨-, before⟩
    · exact absurd same (erasing fd)
    · exact before
  · rcases runs_of_set is with ⟨rfl, same | same⟩ | ⟨-, before⟩
    · exact absurd same (dispatching data holder)
    · exact (rearming data holder same).1
    · exact before
  · rcases find_of_find_set is with ⟨-, same⟩ | ⟨-, before⟩
    · exact (rearming data holder same).2
    · exact sound.oneshots other data holder before

end MultiplexingDispatchable

end Mir.Dispatch
