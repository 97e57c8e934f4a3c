/-
This file proves that every undisturbed step of a multiplexing dispatchable keeps its watches valid,
and that a watch that is added again while its dispatchee is dispatched makes them invalid.
-/

import Mir.Dispatch.Watches

namespace Mir.Dispatch

namespace MultiplexingDispatchable

variable {dispatcher : MultiplexingDispatchable}

/-! ### Adding a watch -/

/-- No entry has the next address. -/
theorem Sound.ne_made (sound : dispatcher.Sound) {data : HolderID} {holder : DispatcheeHolder}
    (held : dispatcher.dispatcheeHolder.find data = some holder) : data ≠ dispatcher.made := by
  rintro rfl
  rw [sound.unmade _ (Nat.le_refl _)] at held
  cases held

theorem Sound.emplaces (sound : dispatcher.Sound) {call : CallID} {holder : DispatcheeHolder}
    (fresh : dispatcher.calls.find call = none)
    (undisturbed : dispatcher.Undisturbed (.addWatch call holder)) :
    { dispatcher with
      calls := dispatcher.calls.set call (.adding dispatcher.made holder)
      dispatcheeHolder := dispatcher.dispatcheeHolder.set dispatcher.made holder
      made := dispatcher.made + 1 }.Sound := by
  obtain ⟨noErasing, noneDisturbed⟩ := undisturbed
  have held : ∀ {data next}, dispatcher.dispatcheeHolder.find data = some next →
      (dispatcher.dispatcheeHolder.set dispatcher.made holder).find data = some next := by
    intro data next found
    rw [OrderedMap.find_set, if_neg (sound.ne_made found)]
    exact found
  have old : ∀ {data}, data < dispatcher.made →
      (dispatcher.dispatcheeHolder.set dispatcher.made holder).find data =
        dispatcher.dispatcheeHolder.find data := by
    intro data isOld
    rw [OrderedMap.find_set, if_neg (Nat.ne_of_lt isOld)]
  have pointed : ∀ {fd event}, dispatcher.epoll.find fd = some event →
      event.data < dispatcher.made := by
    intro fd event there
    obtain ⟨next, found, -⟩ := sound.watched fd event there
    refine Nat.lt_of_not_le fun le => ?_
    rw [sound.unmade _ le] at found
    cases found
  have runs : ∀ {other data next},
      Runs (dispatcher.calls.set call (.adding dispatcher.made holder)) other data next →
        Runs dispatcher.calls other data next := runs_before nofun nofun
  have adds : ∀ {other data next},
      Adds (dispatcher.calls.set call (.adding dispatcher.made holder)) other data next →
        other = call ∧ data = dispatcher.made ∧ next = holder ∨
          Adds dispatcher.calls other data next := by
    intro other data next is
    rcases adds_of_set is with ⟨isCall, same | same⟩ | ⟨-, before⟩
    · cases same
      exact .inl ⟨isCall, rfl, rfl⟩
    · cases same
    · exact .inr before
  have erasing : ∀ {other fd},
      (dispatcher.calls.set call (.adding dispatcher.made holder)).find other =
        some (.erasing fd) → dispatcher.calls.find other = some (.erasing fd) :=
    find_before nofun
  exact
    { unmade := by
        intro data isNew
        rw [OrderedMap.find_set, if_neg (Nat.ne_of_gt isNew)]
        exact sound.unmade data (Nat.le_of_succ_le isNew)
      watched := by
        intro fd event there
        obtain ⟨next, found, rest⟩ := sound.watched fd event there
        exact ⟨next, held found, rest⟩
      added := by
        intro other data next is
        rcases find_of_find_set is with ⟨-, same⟩ | ⟨-, before⟩
        · cases same
          rw [OrderedMap.find_set, if_pos rfl]
        · exact held (sound.added other data next before)
      unwatched := by
        intro other data next is
        rcases adds is with ⟨-, rfl, -⟩ | before
        · exact ⟨Nat.lt_succ_self _, fun fd event there => Nat.ne_of_lt (pointed there)⟩
        · obtain ⟨isOld, unwatched⟩ := sound.unwatched other data next before
          exact ⟨Nat.lt_succ_of_lt isOld, unwatched⟩
      unrun := by
        intro other data next is runner its isRunner
        rcases adds is with ⟨-, rfl, -⟩ | before
        · exact Nat.lt_irrefl _ (sound.running runner _ its (runs isRunner)).1
        · exact sound.unrun other data next before runner its (runs isRunner)
      apart := by
        intro first second data next its isFirst isSecond
        rcases adds isFirst with ⟨rfl, rfl, -⟩ | firstBefore
        · rcases adds isSecond with ⟨rfl, -⟩ | secondBefore
          · rfl
          · exact absurd (sound.unwatched _ _ _ secondBefore).1 (Nat.lt_irrefl _)
        · rcases adds isSecond with ⟨rfl, rfl, -⟩ | secondBefore
          · exact absurd (sound.unwatched _ _ _ firstBefore).1 (Nat.lt_irrefl _)
          · exact sound.apart first second data next its firstBefore secondBefore
      erased := by
        intro other fd is
        obtain ⟨isNone, notAdded⟩ := sound.erased other fd (erasing is)
        refine ⟨isNone, fun adder data next isAdder => ?_⟩
        rcases adds isAdder with ⟨-, -, rfl⟩ | before
        · intro same
          have erases := OrderedMap.of_count_eq_zero noErasing (erasing is)
          exact of_decide_eq_false erases same.symm
        · exact notAdded adder data next before
      oneshots := by
        intro other data next is
        rcases find_of_find_set is with ⟨-, same⟩ | ⟨-, before⟩
        · cases same
        · exact sound.oneshots other data next before
      running := by
        intro other data next is
        obtain ⟨isOld, same⟩ := sound.running other data next (runs is)
        refine ⟨Nat.lt_succ_of_lt isOld, fun its found => same its ?_⟩
        rwa [old isOld] at found
      undisturbed := by
        intro other data next is event its there found
        rw [old (pointed there)] at found
        exact sound.undisturbed other data next (runs is) event its there found
      unhurried := by
        intro other data next is adder new its isAdder sameFd
        rcases find_of_find_set isAdder with ⟨-, same⟩ | ⟨-, before⟩
        · cases same
          refine noneDisturbed.imp (fun there => sameFd ▸ there) fun none => ?_
          rcases runs is with phase | phase
          · have quiet := OrderedMap.of_count_eq_zero none phase
            exact (Bool.and_eq_false_iff.mp quiet).resolve_left
              fun differ => of_decide_eq_false differ sameFd.symm
          · have quiet := OrderedMap.of_count_eq_zero none phase
            exact (Bool.and_eq_false_iff.mp quiet).resolve_left
              fun differ => of_decide_eq_false differ sameFd.symm
        · exact sound.unhurried other data next (runs is) adder new its before sameFd
      disarmed := fun other data next is => sound.disarmed other data next (runs is)
      alone := fun first second data next its isFirst isSecond =>
        sound.alone first second data next its (runs isFirst) (runs isSecond)
      exclusive := fun first second data other next its isFirst isSecond =>
        sound.exclusive first second data other next its (runs isFirst) (runs isSecond) }

theorem Sound.adds (sound : dispatcher.Sound) {call : CallID} {data : HolderID}
    {holder : DispatcheeHolder} (known : dispatcher.calls.find call = some (.adding data holder))
    (free : dispatcher.epoll.find holder.dispatchee.watchFd = none) :
    { dispatcher with
      calls := dispatcher.calls.erase call
      epoll := dispatcher.epoll.set holder.dispatchee.watchFd
        ⟨data, holder.sequential, true⟩ }.Sound := by
  have ended := sound.ends call
  have held := sound.added call data holder known
  have found : ∀ {fd event}, (dispatcher.epoll.set holder.dispatchee.watchFd
      ⟨data, holder.sequential, true⟩).find fd = some event →
      fd = holder.dispatchee.watchFd ∧ event = ⟨data, holder.sequential, true⟩ ∨
        dispatcher.epoll.find fd = some event := by
    intro fd event there
    rw [OrderedMap.find_set] at there
    by_cases same : fd = holder.dispatchee.watchFd
    · rw [if_pos same] at there
      exact .inl ⟨same, (Option.some.inj there).symm⟩
    · rw [if_neg same] at there
      exact .inr there
  exact
    { ended with
      watched := by
        intro fd event there
        rcases found there with ⟨rfl, rfl⟩ | before
        · exact ⟨holder, held, rfl, rfl⟩
        · exact sound.watched fd event before
      unwatched := by
        intro other new next is
        obtain ⟨isOld, unwatched⟩ := ended.unwatched other new next is
        refine ⟨isOld, fun fd event there => ?_⟩
        rcases found there with ⟨-, rfl⟩ | before
        · rintro rfl
          obtain ⟨differs, before⟩ := adds_of_erase is
          exact differs (sound.apart other call data next holder before (.inl known))
        · exact unwatched fd event before
      erased := by
        intro other fd is
        obtain ⟨isNone, notAdded⟩ := sound.erased other fd (find_of_find_erase is).2
        refine ⟨?_, fun adder new next isAdder =>
          notAdded adder new next (adds_of_erase isAdder).2⟩
        have differs : fd ≠ holder.dispatchee.watchFd :=
          fun same => notAdded call data holder (.inl known) same.symm
        rw [OrderedMap.find_set, if_neg differs]
        exact isNone
      undisturbed := by
        intro other old current is event next there isNext
        have runs := (runs_of_erase is).2
        rcases found there with ⟨sameFd, rfl⟩ | before
        · have same : next = holder := Option.some.inj (isNext.symm.trans held)
          rw [same]
          refine .inr ((sound.unhurried other old current runs call data holder known
            sameFd.symm).resolve_left fun there => ?_)
          rw [sameFd, free] at there
          cases there
        · exact sound.undisturbed other old current runs event next before isNext
      unhurried := by
        intro other old current is adder new next isAdder sameFd
        refine (ended.unhurried other old current is adder new next isAdder sameFd).imp_left ?_
        intro there
        rw [OrderedMap.find_set]
        split_ifs
        · rfl
        · exact there
      disarmed := by
        intro other old current is sequential fd event there sameData
        rcases found there with ⟨-, rfl⟩ | before
        · have sameData : data = old := sameData
          rw [sameData] at known
          exact absurd (runs_of_erase is).2 (sound.unrun call old holder (.inl known) _ _)
        · exact ended.disarmed other old current is sequential fd event before sameData }

theorem Sound.withdraws (sound : dispatcher.Sound) {call : CallID} {data : HolderID}
    {holder : DispatcheeHolder}
    (known : dispatcher.calls.find call = some (.failing data holder)) :
    { dispatcher with
      calls := dispatcher.calls.erase call
      dispatcheeHolder := dispatcher.dispatcheeHolder.erase data }.Sound := by
  have ended := sound.ends call
  have kept : ∀ {other next}, (dispatcher.dispatcheeHolder.erase data).find other = some next →
      dispatcher.dispatcheeHolder.find other = some next := by
    intro other next found
    rw [OrderedMap.find_erase] at found
    by_cases same : other = data
    · rw [if_pos same] at found
      cases found
    · rwa [if_neg same] at found
  exact
    { ended with
      unmade := by
        intro other isNew
        rw [OrderedMap.find_erase, sound.unmade other isNew, ite_self]
      watched := by
        intro fd event there
        obtain ⟨next, found, rest⟩ := sound.watched fd event there
        have differs := (sound.unwatched call data holder (.inr known)).2 fd event there
        refine ⟨next, ?_, rest⟩
        rw [OrderedMap.find_erase, if_neg differs]
        exact found
      added := by
        intro other new next is
        obtain ⟨differs, before⟩ := find_of_find_erase is
        rw [OrderedMap.find_erase, if_neg]
        · exact sound.added other new next before
        · rintro rfl
          exact differs (sound.apart other call new next holder (.inl before) (.inr known))
      running := by
        intro other old next is
        obtain ⟨isOld, same⟩ := ended.running other old next is
        exact ⟨isOld, fun its found => same its (kept found)⟩
      undisturbed := fun other old next is event its there found =>
        ended.undisturbed other old next is event its there (kept found) }

/-! ### Removing a watch -/

theorem find_of_find_epoll_erase {epoll : OrderedMap Fd EpollEvent} {fd other : Fd}
    {event : EpollEvent} (found : (epoll.erase fd).find other = some event) :
    epoll.find other = some event := by
  rw [OrderedMap.find_erase] at found
  by_cases same : other = fd
  · rw [if_pos same] at found
    cases found
  · rwa [if_neg same] at found

theorem Sound.deletes (sound : dispatcher.Sound) {call : CallID} {fd : Fd} {event : EpollEvent}
    (known : dispatcher.calls.find call = some (.removing fd))
    (there : dispatcher.epoll.find fd = some event)
    (undisturbed : dispatcher.Undisturbed (.ctlDel call)) :
    { dispatcher with
      calls := dispatcher.calls.set call (.erasing fd)
      epoll := dispatcher.epoll.erase fd }.Sound := by
  have noneAdded := undisturbed fd known (there ▸ rfl)
  have notAdded : ∀ {other data next}, Adds dispatcher.calls other data next →
      next.dispatchee.watchFd ≠ fd := by
    intro other data next is
    rcases is with is | is
    · exact of_decide_eq_false (OrderedMap.of_count_eq_zero noneAdded is)
    · exact of_decide_eq_false (OrderedMap.of_count_eq_zero noneAdded is)
  have runs : ∀ {other data next}, Runs (dispatcher.calls.set call (.erasing fd)) other data next →
      Runs dispatcher.calls other data next := runs_before nofun nofun
  have adds : ∀ {other data next}, Adds (dispatcher.calls.set call (.erasing fd)) other data next →
      Adds dispatcher.calls other data next := adds_before nofun nofun
  have adding : ∀ {other data next}, (dispatcher.calls.set call (.erasing fd)).find other =
      some (.adding data next) → dispatcher.calls.find other = some (.adding data next) :=
    find_before nofun
  exact
    { unmade := sound.unmade
      watched := fun other next is => sound.watched other next (find_of_find_epoll_erase is)
      added := fun other data next is => sound.added other data next (adding is)
      unwatched := by
        intro other data next is
        obtain ⟨isOld, unwatched⟩ := sound.unwatched other data next (adds is)
        exact ⟨isOld, fun its other is => unwatched its other (find_of_find_epoll_erase is)⟩
      unrun := fun other data next is runner its isRunner =>
        sound.unrun other data next (adds is) runner its (runs isRunner)
      apart := fun first second data next its isFirst isSecond =>
        sound.apart first second data next its (adds isFirst) (adds isSecond)
      erased := by
        intro other its is
        rw [OrderedMap.find_erase]
        rcases find_of_find_set is with ⟨-, same⟩ | ⟨-, before⟩
        · cases same
          exact ⟨if_pos rfl, fun adder data next isAdder => notAdded (adds isAdder)⟩
        · obtain ⟨isNone, notAdded⟩ := sound.erased other its before
          rw [isNone, ite_self]
          exact ⟨rfl, fun adder data next isAdder => notAdded adder data next (adds isAdder)⟩
      oneshots := by
        intro other data next is
        rcases find_of_find_set is with ⟨-, same⟩ | ⟨-, before⟩
        · cases same
        · exact sound.oneshots other data next before
      running := fun other data next is => sound.running other data next (runs is)
      undisturbed := fun other data next is event its there =>
        sound.undisturbed other data next (runs is) event its (find_of_find_epoll_erase there)
      unhurried := by
        intro other data next is adder new its isAdder sameFd
        have differs : next.dispatchee.watchFd ≠ fd :=
          sameFd ▸ notAdded (.inl (adding isAdder))
        rw [OrderedMap.find_erase, if_neg differs]
        exact sound.unhurried other data next (runs is) adder new its (adding isAdder) sameFd
      disarmed := fun other data next is sequential its event there =>
        sound.disarmed other data next (runs is) sequential its event
          (find_of_find_epoll_erase there)
      alone := fun first second data next its isFirst isSecond =>
        sound.alone first second data next its (runs isFirst) (runs isSecond)
      exclusive := fun first second data other next its isFirst isSecond =>
        sound.exclusive first second data other next its (runs isFirst) (runs isSecond) }

/-- The descriptor is not in the epoll set and is not being added, so no pointer loses its entry. -/
theorem Sound.erases (sound : dispatcher.Sound) {call : CallID} {fd : Fd}
    (known : dispatcher.calls.find call = some (.erasing fd)) :
    { dispatcher with
      calls := dispatcher.calls.erase call
      dispatcheeHolder := dispatcher.dispatcheeHolder.filter
        fun _ holder => holder.dispatchee.watchFd ≠ fd }.Sound := by
  have ended := sound.ends call
  obtain ⟨isNone, notAdded⟩ := sound.erased call fd known
  have kept : ∀ {data next}, (dispatcher.dispatcheeHolder.filter
      fun _ holder => holder.dispatchee.watchFd ≠ fd).find data = some next →
      dispatcher.dispatcheeHolder.find data = some next := by
    intro data next found
    rw [OrderedMap.find_filter, Option.filter_eq_some_iff] at found
    exact found.1
  have stays : ∀ {data next}, dispatcher.dispatcheeHolder.find data = some next →
      next.dispatchee.watchFd ≠ fd → (dispatcher.dispatcheeHolder.filter
        fun _ holder => holder.dispatchee.watchFd ≠ fd).find data = some next := by
    intro data next found differs
    rw [OrderedMap.find_filter, Option.filter_eq_some_iff]
    exact ⟨found, decide_eq_true differs⟩
  exact
    { ended with
      unmade := by
        intro data isNew
        rw [OrderedMap.find_filter, sound.unmade data isNew]
        rfl
      watched := by
        intro other event there
        obtain ⟨next, found, sameFd, rest⟩ := sound.watched other event there
        refine ⟨next, stays found ?_, sameFd, rest⟩
        rintro rfl
        rw [sameFd, there] at isNone
        cases isNone
      added := by
        intro other data next is
        have before := (find_of_find_erase is).2
        exact stays (sound.added other data next before)
          (notAdded other data next (.inl before))
      running := by
        intro other data next is
        obtain ⟨isOld, same⟩ := ended.running other data next is
        exact ⟨isOld, fun its found => same its (kept found)⟩
      undisturbed := fun other data next is event its there found =>
        ended.undisturbed other data next is event its there (kept found) }

/-! ### Dispatching -/

theorem find_of_find_epoll_set {epoll : OrderedMap Fd EpollEvent} {fd other : Fd}
    {event next : EpollEvent} (found : (epoll.set fd next).find other = some event) :
    other = fd ∧ event = next ∨ epoll.find other = some event := by
  rw [OrderedMap.find_set] at found
  by_cases same : other = fd
  · rw [if_pos same] at found
    exact .inl ⟨same, (Option.some.inj found).symm⟩
  · rw [if_neg same] at found
    exact .inr found

theorem isSome_epoll_set {epoll : OrderedMap Fd EpollEvent} (fd : Fd) (next : EpollEvent)
    {other : Fd} (there : (epoll.find other).isSome = true) :
    ((epoll.set fd next).find other).isSome = true := by
  rw [OrderedMap.find_set]
  split_ifs
  · rfl
  · exact there

/-- No call runs for a sequential entry that is armed. -/
theorem Sound.not_runs_armed (sound : dispatcher.Sound) {fd : Fd} {event : EpollEvent}
    (there : dispatcher.epoll.find fd = some event) (armed : event.armed = true)
    {call : CallID} {holder : DispatcheeHolder} (sequential : holder.sequential = true) :
    ¬Runs dispatcher.calls call event.data holder := by
  intro runs
  have disarmed := sound.disarmed call event.data holder runs sequential fd event there rfl
  rw [armed] at disarmed
  cases disarmed

/-- What runs already does not exclude the entry of an armed descriptor. -/
theorem Sound.both_reentrant (sound : dispatcher.Sound) {fd : Fd} {event : EpollEvent}
    {holder : DispatcheeHolder} (there : dispatcher.epoll.find fd = some event)
    (armed : event.armed = true)
    (held : dispatcher.dispatcheeHolder.find event.data = some holder)
    {call : CallID} {data : HolderID} {next : DispatcheeHolder}
    (runs : Runs dispatcher.calls call data next) (same : next.dispatchee = holder.dispatchee) :
    next.sequential = false ∧ holder.sequential = false := by
  obtain ⟨other, found, isFd, -⟩ := sound.watched fd event there
  cases found.symm.trans held
  rw [← isFd, ← same] at there
  rcases sound.undisturbed call data next runs event holder there held with sameData | quiet
  · subst sameData
    have isNext := (sound.running call event.data next runs).2 holder held
    subst isNext
    have reentrant : holder.sequential = false :=
      Bool.eq_false_iff.mpr fun sequential => sound.not_runs_armed there armed sequential runs
    exact ⟨reentrant, reentrant⟩
  · obtain ⟨nextReentrant, both⟩ := Bool.or_eq_false_iff.mp quiet
    refine ⟨nextReentrant, (Bool.and_eq_false_iff.mp both).resolve_right fun differ => ?_⟩
    exact of_decide_eq_false differ same

theorem Sound.takes (sound : dispatcher.Sound) {call : CallID} {fd : Fd} {event : EpollEvent}
    {holder : DispatcheeHolder} (there : dispatcher.epoll.find fd = some event)
    (armed : event.armed = true)
    (held : dispatcher.dispatcheeHolder.find event.data = some holder) :
    { dispatcher with
      calls := dispatcher.calls.set call (.dispatching event.data holder)
      epoll := dispatcher.epoll.set fd { event with armed := !event.oneshot } }.Sound := by
  obtain ⟨other, found, isFd, oneshot⟩ := sound.watched fd event there
  cases found.symm.trans held
  have runs : ∀ {other data next},
      Runs (dispatcher.calls.set call (.dispatching event.data holder)) other data next →
        other = call ∧ data = event.data ∧ next = holder ∨
          Runs dispatcher.calls other data next := by
    intro other data next is
    rcases runs_of_set is with ⟨isCall, same | same⟩ | ⟨-, before⟩
    · cases same
      exact .inl ⟨isCall, rfl, rfl⟩
    · cases same
    · exact .inr before
  have adds : ∀ {other data next},
      Adds (dispatcher.calls.set call (.dispatching event.data holder)) other data next →
        Adds dispatcher.calls other data next := adds_before nofun nofun
  have adding : ∀ {other data next},
      (dispatcher.calls.set call (.dispatching event.data holder)).find other =
        some (.adding data next) → dispatcher.calls.find other = some (.adding data next) :=
    find_before nofun
  have pointed : ∀ {its next},
      (dispatcher.epoll.set fd { event with armed := !event.oneshot }).find its = some next →
        ∃ before, dispatcher.epoll.find its = some before ∧ before.data = next.data ∧
          before.oneshot = next.oneshot := by
    intro its next is
    rcases find_of_find_epoll_set is with ⟨rfl, rfl⟩ | before
    · exact ⟨event, there, rfl, rfl⟩
    · exact ⟨next, before, rfl, rfl⟩
  exact
    { unmade := sound.unmade
      watched := by
        intro its next is
        obtain ⟨before, isBefore, sameData, sameOneshot⟩ := pointed is
        obtain ⟨current, isCurrent, sameFd, oneshot⟩ := sound.watched its before isBefore
        exact ⟨current, sameData ▸ isCurrent, sameFd, sameOneshot ▸ oneshot⟩
      added := fun other data next is => sound.added other data next (adding is)
      unwatched := by
        intro other data next is
        obtain ⟨isOld, unwatched⟩ := sound.unwatched other data next (adds is)
        refine ⟨isOld, fun its current isCurrent => ?_⟩
        obtain ⟨before, isBefore, sameData, -⟩ := pointed isCurrent
        exact sameData ▸ unwatched its before isBefore
      unrun := by
        intro other data next is runner its isRunner
        rcases runs isRunner with ⟨-, rfl, -⟩ | before
        · exact (sound.unwatched other event.data next (adds is)).2 fd event there rfl
        · exact sound.unrun other data next (adds is) runner its before
      apart := fun first second data next its isFirst isSecond =>
        sound.apart first second data next its (adds isFirst) (adds isSecond)
      erased := by
        intro other its is
        rcases find_of_find_set is with ⟨-, same⟩ | ⟨-, before⟩
        · cases same
        · obtain ⟨isNone, notAdded⟩ := sound.erased other its before
          refine ⟨?_, fun adder data next isAdder => notAdded adder data next (adds isAdder)⟩
          rw [OrderedMap.find_set, if_neg]
          · exact isNone
          · rintro rfl
            rw [there] at isNone
            cases isNone
      oneshots := by
        intro other data next is
        rcases find_of_find_set is with ⟨-, same⟩ | ⟨-, before⟩
        · cases same
        · exact sound.oneshots other data next before
      running := by
        intro other data next is
        rcases runs is with ⟨-, rfl, rfl⟩ | before
        · refine ⟨Nat.lt_of_not_le fun isNew => ?_, fun its isIts => ?_⟩
          · rw [sound.unmade _ isNew] at held
            cases held
          · exact Option.some.inj (isIts.symm.trans held)
        · exact sound.running other data next before
      undisturbed := by
        intro other data next is current its isCurrent isIts
        obtain ⟨old, isOld, sameData, -⟩ := pointed isCurrent
        rcases runs is with ⟨-, rfl, rfl⟩ | before
        · rw [isFd, there] at isOld
          cases isOld
          exact .inl sameData.symm
        · rw [← sameData] at isIts ⊢
          exact sound.undisturbed other data next before old its isOld isIts
      unhurried := by
        intro other data next is adder new its isAdder sameFd
        rcases runs is with ⟨-, rfl, rfl⟩ | before
        · refine .inl (isSome_epoll_set _ _ ?_)
          rw [isFd, there]
          rfl
        · exact (sound.unhurried other data next before adder new its (adding isAdder)
            sameFd).imp_left (isSome_epoll_set _ _)
      disarmed := by
        intro other data next is sequential its current isCurrent sameData
        rcases find_of_find_epoll_set isCurrent with ⟨rfl, rfl⟩ | isOld
        · rcases runs is with ⟨-, rfl, rfl⟩ | before
          · have isOneshot : event.oneshot = true := oneshot.trans sequential
            dsimp only
            rw [isOneshot]
            rfl
          · have sameData : event.data = data := sameData
            subst sameData
            exact absurd before (sound.not_runs_armed there armed sequential)
        · rcases runs is with ⟨-, rfl, rfl⟩ | before
          · obtain ⟨again, isAgain, sameFd, -⟩ := sound.watched its current isOld
            rw [sameData, held] at isAgain
            cases isAgain
            rw [← sameFd, isFd] at isCurrent
            rw [OrderedMap.find_set, if_pos rfl] at isCurrent
            cases isCurrent
            have isOneshot : event.oneshot = true := oneshot.trans sequential
            dsimp only
            rw [isOneshot]
            rfl
          · exact sound.disarmed other data next before sequential its current isOld sameData
      alone := by
        intro first second data next its isFirst isSecond sequential
        rcases runs isFirst with ⟨rfl, rfl, rfl⟩ | firstBefore
        · rcases runs isSecond with ⟨rfl, -⟩ | secondBefore
          · rfl
          · have same := (sound.running second _ its secondBefore).2 next held
            exact absurd secondBefore (sound.not_runs_armed there armed (same ▸ sequential))
        · rcases runs isSecond with ⟨rfl, rfl, rfl⟩ | secondBefore
          · exact absurd firstBefore (sound.not_runs_armed there armed sequential)
          · exact sound.alone first second data next its firstBefore secondBefore sequential
      exclusive := by
        intro first second data other next its isFirst isSecond same differs
        rcases runs isFirst with ⟨rfl, rfl, rfl⟩ | firstBefore
        · rcases runs isSecond with ⟨rfl, -⟩ | secondBefore
          · exact absurd rfl differs
          · exact (sound.both_reentrant there armed held secondBefore same.symm).2
        · rcases runs isSecond with ⟨-, rfl, rfl⟩ | secondBefore
          · exact (sound.both_reentrant there armed held firstBefore same).1
          · exact sound.exclusive first second data other next its firstBefore secondBefore same
              differs }

/-- The watch of the descriptor is still the one that the event was for. -/
theorem Sound.rearms (sound : dispatcher.Sound) {call : CallID} {data : HolderID}
    {holder : DispatcheeHolder} {event : EpollEvent}
    (known : dispatcher.calls.find call = some (.rearming data holder))
    (there : dispatcher.epoll.find holder.dispatchee.watchFd = some event) :
    { dispatcher with
      calls := dispatcher.calls.erase call
      epoll := dispatcher.epoll.set holder.dispatchee.watchFd ⟨data, true, true⟩ }.Sound := by
  have ended := sound.ends call
  have sequential := sound.oneshots call data holder known
  obtain ⟨current, held, -, -⟩ := sound.watched _ event there
  have sameData : event.data = data := by
    refine (sound.undisturbed call data holder (.inr known) event current there
      held).resolve_right fun quiet => ?_
    rw [(Bool.or_eq_false_iff.mp quiet).1] at sequential
    cases sequential
  subst sameData
  have isHolder := (sound.running call event.data holder (.inr known)).2 current held
  subst isHolder
  exact
    { ended with
      watched := by
        intro fd next is
        rcases find_of_find_epoll_set is with ⟨rfl, rfl⟩ | before
        · exact ⟨current, held, rfl, sequential.symm⟩
        · exact sound.watched fd next before
      unwatched := by
        intro other data next is
        obtain ⟨isOld, unwatched⟩ := ended.unwatched other data next is
        refine ⟨isOld, fun fd its isIts => ?_⟩
        rcases find_of_find_epoll_set isIts with ⟨-, rfl⟩ | before
        · exact unwatched _ event there
        · exact unwatched fd its before
      erased := by
        intro other fd is
        obtain ⟨isNone, notAdded⟩ := ended.erased other fd is
        refine ⟨?_, notAdded⟩
        rw [OrderedMap.find_set, if_neg]
        · exact isNone
        · rintro rfl
          have isNone : dispatcher.epoll.find current.dispatchee.watchFd = none := isNone
          rw [there] at isNone
          cases isNone
      undisturbed := by
        intro other data next is its new isIts isNew
        rcases find_of_find_epoll_set isIts with ⟨sameFd, rfl⟩ | before
        · exact ended.undisturbed other data next is event new (sameFd ▸ there) isNew
        · exact ended.undisturbed other data next is its new before isNew
      unhurried := by
        intro other data next is adder new its isAdder sameFd
        exact (ended.unhurried other data next is adder new its isAdder
          sameFd).imp_left (isSome_epoll_set _ _)
      disarmed := by
        intro other data next is isSequential fd its isIts same
        obtain ⟨differs, runs⟩ := runs_of_erase is
        rcases find_of_find_epoll_set isIts with ⟨-, rfl⟩ | before
        · have same : event.data = data := same
          subst same
          exact absurd (sound.alone other call _ next current runs (.inr known) isSequential)
            differs
        · exact sound.disarmed other data next runs isSequential fd its before same }

/-! ### Every run -/

theorem Sound.step (sound : dispatcher.Sound) {op : MultiplexingOp}
    (undisturbed : dispatcher.Undisturbed op) : (dispatcher.step op).Sound := by
  have stepped := dispatcher.step_cases op
  generalize dispatcher.step op = after at stepped
  cases stepped with
  | waits => exact sound
  | emplaces call holder fresh => exact sound.emplaces fresh undisturbed
  | adds call data holder known free => exact sound.adds known free
  | refuses call granted data holder known =>
    exact sound.goesOn nofun (fun _ _ same => by cases same; exact .inl known) nofun nofun nofun
  | withdraws call data holder known => exact sound.withdraws known
  | begins call fd => exact sound.goesOn nofun nofun nofun nofun nofun
  | deletes call fd event known there => exact sound.deletes known there undisturbed
  | erases call fd known => exact sound.erases known
  | takes call fd event holder fresh there armed held => exact sound.takes there armed held
  | finishes call data holder known sequential =>
    exact sound.goesOn nofun nofun nofun nofun
      fun _ _ same => by cases same; exact ⟨.inl known, sequential⟩
  | gives call data holder known => exact sound.goesOn nofun nofun nofun nofun nofun
  | ends _ call => exact sound.ends call
  | rearms call data holder event known there => exact sound.rearms known there

/-- Whatever the order of the steps of all the calls, as long as each is undisturbed, every pointer
of the epoll set is to an entry that is in the list and is for its descriptor, and a sequential
dispatchee is never dispatched by two calls at once. -/
theorem watches_stay_valid (reached : Transition.Reaches step Undisturbed initial dispatcher) :
    dispatcher.WatchesValid :=
  (reached.invariant sound_initial fun _ _ sound undisturbed => sound.step undisturbed).watchesValid

def sequentialHolder : DispatcheeHolder := ⟨⟨0, 7⟩, true⟩

/-- A dispatchee is added and dispatched, and its watch is removed after that. -/
theorem watches_stay_valid_one_dispatch :
    (after [.addWatch 0 sequentialHolder, .ctlAdd 0 true, .epollWait 1 7, .handled 1 true,
      .ctlMod 1, .removeWatch 2 7, .ctlDel 2, .removeHolders 2]).WatchesValid :=
  watches_stay_valid (Transition.Reaches.start.foldl _
    ⟨⟨rfl, .inr rfl⟩, trivial, trivial, trivial, trivial, trivial, fun _ _ _ => rfl, trivial,
      trivial⟩)

/-- A sequential dispatchee that is removed and added again while a thread dispatches it. -/
def addedWhileDispatched : List MultiplexingOp :=
  [.addWatch 0 sequentialHolder, .ctlAdd 0 true, .epollWait 1 7, .removeWatch 2 7, .ctlDel 2,
    .removeHolders 2, .addWatch 3 sequentialHolder, .ctlAdd 3 true]

/-- A descriptor that is added again between the two steps of its removal. -/
def addedWhileRemoved : List MultiplexingOp :=
  [.addWatch 0 sequentialHolder, .ctlAdd 0 true, .removeWatch 1 7, .ctlDel 1,
    .addWatch 2 sequentialHolder, .ctlAdd 2 true, .removeHolders 1]

/-- Another thread dispatches what was added again; when the first one is done, the descriptor has
the pointer to the entry that was removed. An entry that was added between the two steps of a
removal is removed with the others. -/
theorem adding_again_makes_watches_invalid :
    ¬(after (addedWhileDispatched ++ [.epollWait 4 7])).WatchesValid ∧
      ¬(after (addedWhileDispatched ++ [.handled 1 true, .ctlMod 1])).WatchesValid ∧
      ¬(after addedWhileRemoved).WatchesValid := by
  refine ⟨fun valid => ?_, fun valid => ?_, fun valid => ?_⟩
  · have reentrant := valid.exclusive 1 4 0 1 sequentialHolder sequentialHolder rfl rfl rfl
      (by decide)
    cases reentrant
  · obtain ⟨holder, held, -⟩ := valid.pointers 7 ⟨0, true, true⟩ rfl
    cases held
  · obtain ⟨holder, held, -⟩ := valid.pointers 7 ⟨1, true, true⟩ rfl
    cases held

end MultiplexingDispatchable

end Mir.Dispatch
