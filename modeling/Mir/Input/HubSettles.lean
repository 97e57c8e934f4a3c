/-
This file proves what holds of the device hub once its observer queue has been worked off. What
clients and observers were told is always right for the published handles. An observer that is
added twice is told twice, and one that is added again after it was removed is told anew.
-/

import Mir.Input.HubReplay

namespace Mir.Input

namespace DeviceHub

variable {hub : DeviceHub}

/-! ### Telling -/

section Tell

variable {observer : ObserverID} {id : DeviceID} {notices more : List HubNotice}

theorem toldBalance_append : toldBalance observer id (notices ++ more) =
    more.foldl (HubNotice.tell observer id) (toldBalance observer id notices) :=
  List.foldl_append

/-- Telling all changes what an observer was told once for each time that it was added. -/
theorem foldl_tell_tellAll {notice : ObserverID → HubNotice} {change : Int}
    (tells : ∀ other balance, (notice other).tell observer id balance =
      if other = observer then balance + change else balance)
    (observers : List ObserverID) (balance : Int) :
    (tellAll observers notice).foldl (HubNotice.tell observer id) balance =
      balance + observers.count observer * change := by
  induction observers generalizing balance with
  | nil => simp [tellAll]
  | cons other rest inductionHypothesis =>
    show (tellAll rest notice).foldl (HubNotice.tell observer id)
      ((notice other).tell observer id balance) = _
    rw [inductionHypothesis, tells, List.count_cons]
    by_cases same : other = observer
    · simp only [same, if_true, beq_self_eq_true, Int.natCast_add, Int.add_mul, Int.natCast_one,
        Int.one_mul, Int.add_assoc, Int.add_comm change]
    · simp [same]

theorem tell_deviceAdded (other : ObserverID) (added : DeviceID) (balance : Int) :
    (HubNotice.deviceAdded other added).tell observer id balance =
      if other = observer then balance + (if added = id then 1 else 0) else balance := by
  unfold HubNotice.tell
  by_cases same : added = id
  · simp [same]
  · simp [same]

theorem tell_deviceRemoved (other : ObserverID) (removed : DeviceID) (balance : Int) :
    (HubNotice.deviceRemoved other removed).tell observer id balance =
      if other = observer then balance + (if removed = id then -1 else 0) else balance := by
  unfold HubNotice.tell
  by_cases same : removed = id
  · simp [same, Int.sub_eq_add_neg]
  · simp [same]

/-- A new observer is told of each handle. -/
theorem foldl_tell_handles (other : ObserverID) (handles : List Device) (balance : Int) :
    (handles.map fun handle => HubNotice.deviceAdded other handle.id).foldl
        (HubNotice.tell observer id) balance =
      if other = observer then balance + (handles.map Device.id).count id else balance := by
  induction handles generalizing balance with
  | nil => simp
  | cons handle rest inductionHypothesis =>
    rw [List.map_cons, List.foldl_cons, inductionHypothesis, tell_deviceAdded, List.map_cons,
      List.count_cons]
    by_cases same : other = observer
    · simp only [same, if_true, Int.natCast_add, Int.add_assoc, beq_iff_eq]
      split_ifs <;> omega
    · simp only [same, if_false]

theorem sentConfig_inputConfigChange (config : InputConfig) :
    sentConfig (notices ++ [.inputConfigChange config]) = config := by
  unfold sentConfig
  rw [List.foldl_append]
  rfl

/-- Whatever else is told, the configuration that was sent last stays. -/
theorem sentConfig_append (silent : ∀ config, HubNotice.inputConfigChange config ∉ more) :
    sentConfig (notices ++ more) = sentConfig notices := by
  unfold sentConfig
  rw [List.foldl_append]
  induction more with
  | nil => rfl
  | cons notice rest inductionHypothesis =>
    have later := inductionHypothesis fun config member =>
      silent config (List.mem_cons_of_mem _ member)
    rw [List.foldl_cons]
    cases notice with
    | inputConfigChange config => exact absurd List.mem_cons_self (silent config)
    | _ => exact later

theorem silent_tellAll {notice : ObserverID → HubNotice} (observers : List ObserverID)
    (silent : ∀ other config, notice other ≠ .inputConfigChange config) (config : InputConfig) :
    HubNotice.inputConfigChange config ∉ tellAll observers notice := by
  intro member
  obtain ⟨other, _, told⟩ := List.mem_flatMap.mp member
  rcases List.mem_cons.mp told with same | last
  · exact silent other config same.symm
  · cases List.mem_singleton.mp last

end Tell

/-! ### Right for the handles -/

/-- What clients and observers were told is right for the handles. -/
structure Told (hub : DeviceHub) : Prop where
  config : hub.config.map DeviceConfig.id = hub.handleIDs
  sent : sentConfig hub.notices = hub.config
  observers : ∀ observer id, toldBalance observer id hub.notices =
    if id ∈ hub.handleIDs then (hub.observers.count observer : Int) else 0

theorem told_initial : initial.Told where
  config := rfl
  sent := rfl
  observers _ _ := rfl

theorem Told.addDeviceHandle (told : hub.Told) {handle : Device}
    (fresh : handle.id ∉ hub.handleIDs) : (hub.addDeviceHandle handle).Told := by
  have ids : (hub.addDeviceHandle handle).handleIDs = hub.handleIDs ++ [handle.id] :=
    List.map_append
  refine ⟨?_, ?_, fun observer id => ?_⟩
  · rw [ids, ← told.config]
    exact List.map_append
  · unfold DeviceHub.addDeviceHandle
    dsimp only
    rw [sentConfig_append, sentConfig_append, sentConfig_inputConfigChange]
    · exact silent_tellAll _ nofun
    · intro config
      cases hub.ready <;> simp
  · have last : ∀ balance, (if hub.ready = true then [] else [HubNotice.readyForUserInput]).foldl
        (HubNotice.tell observer id) balance = balance := by
      intro balance
      cases hub.ready <;> rfl
    rw [ids]
    unfold DeviceHub.addDeviceHandle
    dsimp only
    rw [toldBalance_append, toldBalance_append, toldBalance_append, last,
      foldl_tell_tellAll fun other balance => tell_deviceAdded other handle.id balance]
    show toldBalance observer id hub.notices + _ = _
    rw [told.observers]
    by_cases same : id = handle.id
    · subst same
      simp [fresh]
    · simp [same, Ne.symm same]

theorem mem_filter_handleIDs {removed id : DeviceID} :
    id ∈ (hub.handles.filter fun handle => decide (handle.id ≠ removed)).map Device.id ↔
      id ∈ hub.handleIDs ∧ id ≠ removed := by
  have filtered : (hub.handles.filter fun handle => decide (handle.id ≠ removed)).map Device.id =
      hub.handleIDs.filter fun id => decide (id ≠ removed) := by
    unfold handleIDs
    rw [List.filter_map]
    rfl
  rw [filtered, List.mem_filter, decide_eq_true_iff]

theorem Told.removeDeviceHandle (told : hub.Told) (nodup : hub.handleIDs.Nodup)
    (removed : DeviceID) : (hub.removeDeviceHandle removed).Told := by
  by_cases noMatch : hub.handles.filter (fun handle => decide (handle.id = removed)) = []
  · rw [removeDeviceHandle_noMatch noMatch]
    exact told
  · obtain ⟨handle, member, rfl, matching⟩ := matching_singleton nodup noMatch
    unfold DeviceHub.removeDeviceHandle
    rw [if_neg noMatch, matching]
    refine ⟨?_, ?_, fun observer id => ?_⟩
    · have configs := congrArg (List.filter fun id => decide (id ≠ handle.id)) told.config
      unfold handleIDs at configs
      rw [List.filter_map, List.filter_map] at configs
      exact configs
    · dsimp only
      rw [sentConfig_append, sentConfig_inputConfigChange]
      intro config
      split_ifs <;> simp
    · have last : ∀ balance, (if hub.ready = true ∧
          (hub.handles.filter fun other => decide (other.id ≠ handle.id)) = []
          then [HubNotice.stopReceivingInput] else []).foldl
          (HubNotice.tell observer id) balance = balance := by
        intro balance
        split_ifs <;> rfl
      dsimp only
      rw [toldBalance_append, toldBalance_append, toldBalance_append, last, List.flatMap_singleton,
        foldl_tell_tellAll fun other balance => tell_deviceRemoved other handle.id balance]
      show toldBalance observer id hub.notices + _ = _
      unfold handleIDs
      dsimp only
      rw [told.observers]
      by_cases same : id = handle.id
      · subst same
        have gone : handle.id ∉
            (hub.handles.filter fun other => decide (other.id ≠ handle.id)).map Device.id :=
          fun stays => (mem_filter_handleIDs.mp stays).2 rfl
        have published : handle.id ∈ hub.handleIDs := List.mem_map_of_mem member
        rw [if_pos published, if_pos rfl, if_neg gone]
        omega
      · rw [if_neg (Ne.symm same), Int.mul_zero, Int.add_zero]
        exact if_congr (mem_filter_handleIDs.trans (and_iff_left same)).symm rfl rfl

theorem Told.registerObserver (told : hub.Told) (nodup : hub.handleIDs.Nodup)
    (added : ObserverID) : (hub.registerObserver added).Told := by
  refine ⟨told.config, ?_, fun observer id => ?_⟩
  · unfold DeviceHub.registerObserver
    dsimp only
    rw [sentConfig_append, sentConfig_append]
    · exact told.sent
    · intro config member
      obtain ⟨handle, _, same⟩ := List.mem_map.mp member
      cases same
    · simp
  · show toldBalance observer id (hub.notices ++
      (hub.handles.map fun handle => .deviceAdded added handle.id) ++ [.changesComplete added]) =
      if id ∈ hub.handleIDs then ((hub.observers ++ [added]).count observer : Int) else 0
    rw [toldBalance_append, toldBalance_append, foldl_tell_handles]
    show (if added = observer then toldBalance observer id hub.notices + hub.handleIDs.count id
      else toldBalance observer id hub.notices) = _
    rw [told.observers, nodup.count, List.count_append, List.count_singleton]
    by_cases same : added = observer
    · by_cases published : id ∈ hub.handleIDs
      · simp [same, published]
      · simp [published]
    · simp [same]

theorem count_filter_ne (observers : List ObserverID) (removed observer : ObserverID) :
    (observers.filter fun other => decide (other ≠ removed)).count observer =
      if removed = observer then 0 else observers.count observer := by
  by_cases same : removed = observer
  · subst same
    rw [if_pos rfl]
    exact List.count_eq_zero.mpr fun member => of_decide_eq_true (List.mem_filter.mp member).2 rfl
  · rw [if_neg same]
    exact List.count_filter (decide_eq_true (Ne.symm same))

theorem Told.eraseObserver (told : hub.Told) (removed : Option ObserverID) :
    (hub.eraseObserver removed).Told := by
  cases removed with
  | none => exact told
  | some removed =>
    refine ⟨told.config, ?_, fun observer id => ?_⟩
    · unfold DeviceHub.eraseObserver
      dsimp only
      rw [sentConfig_append]
      · exact told.sent
      · simp
    · show toldBalance observer id (hub.notices ++ [.observerErased removed]) =
        if id ∈ hub.handleIDs then
          ((hub.observers.filter fun other => decide (other ≠ removed)).count observer : Int)
        else 0
      rw [toldBalance_append]
      show (if removed = observer then 0 else toldBalance observer id hub.notices) = _
      rw [told.observers, count_filter_ne]
      by_cases same : removed = observer
      · rw [if_pos same, if_pos same]
        exact (ite_self (0 : Int)).symm
      · rw [if_neg same, if_neg same]

/-! ### Every run -/

theorem Told.perform (told : hub.Told) {action : HubAction} {rest : List HubAction}
    (registered : hub.Registered) (queue : hub.queue = action :: rest) :
    (DeviceHub.perform { hub with queue := rest } action).Told := by
  have before : Told { hub with queue := rest } := ⟨told.config, told.sent, told.observers⟩
  cases action with
  | addDeviceHandle handle =>
    refine before.addDeviceHandle fun published => ?_
    have given := registered.given
    unfold givenIDs at given
    rw [queue] at given
    exact (List.nodup_append.mp given).2.2 _ published _ List.mem_cons_self rfl
  | removeDeviceHandle id => exact before.removeDeviceHandle registered.nodup_handleIDs id
  | addObserver observer => exact before.registerObserver registered.nodup_handleIDs observer
  | removeObserver observer => exact before.eraseObserver observer

/-- What holds of every hub. -/
structure Sound (hub : DeviceHub) : Prop where
  registered : hub.Registered
  told : hub.Told

theorem sound_initial : initial.Sound := ⟨registered_initial, told_initial⟩

theorem Sound.step (sound : hub.Sound) (op : HubOp) : (hub.step op).Sound := by
  have stepped := hub.step_cases op
  have ⟨registered, told⟩ := sound
  generalize hub.step op = next at stepped ⊢
  cases stepped with
  | stays => exact sound
  | adds key settings handle unknown numbered =>
    exact ⟨registered.addDevice unknown numbered, ⟨told.config, told.sent, told.observers⟩⟩
  | removes key => exact ⟨registered.removeDevice key, ⟨told.config, told.sent, told.observers⟩⟩
  | addsObserver observer =>
    exact ⟨registered.enqueue rfl fun _ => rfl, ⟨told.config, told.sent, told.observers⟩⟩
  | removesObserver observer =>
    exact ⟨registered.enqueue rfl fun _ => rfl, ⟨told.config, told.sent, told.observers⟩⟩
  | performs action rest queue =>
    exact ⟨registered.perform queue, told.perform registered queue⟩

theorem sound_run (ops : List HubOp) : (ops.foldl DeviceHub.step initial).Sound := by
  suffices every : ∀ before : DeviceHub, before.Sound → (ops.foldl DeviceHub.step before).Sound from
    every initial sound_initial
  induction ops with
  | nil => exact fun _ sound => sound
  | cons op rest inductionHypothesis => exact fun _ sound => inductionHypothesis _ (sound.step op)

/-! ### Devices that were never added -/

theorem registered_step {op : HubOp} {device : InputDeviceID}
    (registered : device ∈ (hub.step op).devices.map RegisteredDevice.device) :
    device ∈ hub.devices.map RegisteredDevice.device ∨
      ∃ settings, op = .addDevice (some device) settings := by
  have stepped := hub.step_cases op
  generalize hub.step op = next at stepped registered
  cases stepped with
  | stays => exact .inl registered
  | adds key settings handle unknown numbered =>
    rw [List.map_append, List.mem_append, List.map_singleton, List.mem_singleton] at registered
    exact registered.imp_right fun same => ⟨settings, by rw [same]⟩
  | removes key => exact .inl ((List.filter_sublist.map _).subset registered)
  | addsObserver observer => exact .inl registered
  | removesObserver observer => exact .inl registered
  | performs action rest queue =>
    rw [(perform_frame _ action).1] at registered
    exact .inl registered

theorem added_of_registered {ops : List HubOp} {device : InputDeviceID}
    (registered : device ∈ (ops.foldl DeviceHub.step hub).devices.map RegisteredDevice.device) :
    device ∈ hub.devices.map RegisteredDevice.device ∨
      ∃ settings, HubOp.addDevice (some device) settings ∈ ops := by
  induction ops generalizing hub with
  | nil => exact .inl registered
  | cons op rest inductionHypothesis =>
    rcases inductionHypothesis registered with before | ⟨settings, later⟩
    · rcases registered_step before with earlier | ⟨settings, same⟩
      · exact .inl earlier
      · exact .inr ⟨settings, same ▸ List.mem_cons_self⟩
    · exact .inr ⟨settings, List.mem_cons_of_mem _ later⟩

theorem removeDevice_unregistered {device : InputDeviceID}
    (unregistered : device ∉ hub.devices.map RegisteredDevice.device) :
    hub.removeDevice (some device) = .error .notManaged := by
  have noMatch : (hub.devices.filter fun item => decide (item.device = device)) = [] := by
    refine List.filter_eq_nil_iff.mpr fun item member matched => unregistered ?_
    rw [← of_decide_eq_true matched]
    exact List.mem_map_of_mem member
  exact if_pos noMatch

theorem step_removeDevice_unregistered {device : InputDeviceID}
    (unregistered : device ∉ hub.devices.map RegisteredDevice.device) :
    hub.step (.removeDevice (some device)) = hub := by
  unfold DeviceHub.step
  dsimp only
  rw [removeDevice_unregistered unregistered]

/-! ### Once the queue is worked off -/

/-- An observer that was not removed was told in all what it was told since. -/
theorem foldl_tell_of_never_erased {observer : ObserverID} {notices : List HubNotice}
    (never : HubNotice.observerErased observer ∉ notices) (id : DeviceID) (balance : Int) :
    notices.foldl (HubNotice.tell observer id) balance =
      balance + toldEver observer id notices := by
  induction notices generalizing balance with
  | nil => exact (Int.add_zero balance).symm
  | cons notice rest inductionHypothesis =>
    have later := inductionHypothesis fun member => never (List.mem_cons_of_mem _ member)
    rw [List.foldl_cons, later]
    unfold toldEver
    rw [List.count_cons, List.count_cons]
    cases notice with
    | observerErased other =>
      have stays : other ≠ observer := fun same => never (same ▸ List.mem_cons_self)
      simp [HubNotice.tell, stays]
    | deviceAdded other added =>
      by_cases same : other = observer ∧ added = id
      · simp [HubNotice.tell, same]
        omega
      · simp [HubNotice.tell, same]
    | deviceRemoved other removed =>
      by_cases same : other = observer ∧ removed = id
      · simp [HubNotice.tell, same]
        omega
      · simp [HubNotice.tell, same]
    | _ => simp [HubNotice.tell]

/-- What holds of a hub whose queue was worked off. -/
structure Settled (hub : DeviceHub) : Prop where
  handles : hub.handles = hub.deviceHandles
  devices : (hub.devices.map RegisteredDevice.device).Nodup
  handleIDs : hub.handleIDs.Nodup
  config : (sentConfig hub.notices).map DeviceConfig.id = hub.handleIDs
  told : ∀ observer id, toldBalance observer id hub.notices =
    if id ∈ hub.handleIDs then (hub.observers.count observer : Int) else 0
  toldOnce : ∀ observer, hub.observers.count observer = 1 →
    HubNotice.observerErased observer ∉ hub.notices →
    ∀ id, toldEver observer id hub.notices = if id ∈ hub.handleIDs then 1 else 0

theorem Sound.settled (sound : hub.Sound) (drained : hub.queue = []) : hub.Settled where
  handles := by
    have replayed := sound.registered.replayed
    rw [drained] at replayed
    exact replayed
  devices := sound.registered.devices
  handleIDs := sound.registered.nodup_handleIDs
  config := by
    rw [sound.told.sent]
    exact sound.told.config
  told := sound.told.observers
  toldOnce observer once never id := by
    have balance := sound.told.observers observer id
    unfold toldBalance at balance
    rw [foldl_tell_of_never_erased never, once, Int.zero_add] at balance
    exact balance

/-- Once the queue is worked off, what is published, sent and told is right for the registered
devices. A device that is not registered, such as one that was never added, cannot be removed. -/
theorem hub_settles (ops : List HubOp) {hub : DeviceHub}
    (run : ops.foldl DeviceHub.step initial = hub) :
    (hub.queue = [] → hub.Settled) ∧
    (∀ device, device ∉ hub.devices.map RegisteredDevice.device →
      hub.removeDevice (some device) = .error .notManaged ∧
        hub.step (.removeDevice (some device)) = hub) ∧
    ∀ device, (∀ settings, HubOp.addDevice (some device) settings ∉ ops) →
      device ∉ hub.devices.map RegisteredDevice.device := by
  subst run
  refine ⟨(sound_run ops).settled, fun device unregistered => ?_, fun device never registered => ?_⟩
  · exact ⟨removeDevice_unregistered unregistered, step_removeDevice_unregistered unregistered⟩
  · rcases added_of_registered registered with first | ⟨settings, member⟩
    · exact absurd first List.not_mem_nil
    · exact never settings member

def settings : Device := ⟨0, none, none, none, true⟩

/-- Two devices are added and one removed around two observers. -/
def pluggedAndUnplugged : List HubOp :=
  [.addDevice (some 10) settings, .addObserver 7, .runAction, .addDevice (some 11) settings,
    .runAction, .removeDevice (some 10), .addObserver 8, .runAction, .runAction, .runAction]

theorem hub_settles_when_unplugged :
    (pluggedAndUnplugged.foldl DeviceHub.step initial).Settled ∧
      (pluggedAndUnplugged.foldl DeviceHub.step initial).removeDevice (some 12) =
        .error .notManaged := by
  obtain ⟨settles, refuses, _⟩ := hub_settles pluggedAndUnplugged rfl
  exact ⟨settles (by decide), (refuses 12 (by decide)).1⟩

/-- An observer that is added twice, and one that is added again after it was removed, is told of
one device twice. -/
theorem observer_is_told_twice :
    (¬ ∀ (ops : List HubOp) (hub : DeviceHub), ops.foldl DeviceHub.step initial = hub →
      hub.queue = [] → ∀ observer ∈ hub.observers, ∀ id,
      toldEver observer id hub.notices = if id ∈ hub.handleIDs then 1 else 0) ∧
    ¬ ∀ (ops : List HubOp) (hub : DeviceHub), ops.foldl DeviceHub.step initial = hub →
      hub.queue = [] → ∀ observer, hub.observers.count observer = 1 → ∀ id,
      toldEver observer id hub.notices = if id ∈ hub.handleIDs then 1 else 0 := by
  refine ⟨fun claim => ?_, fun claim => ?_⟩
  · have told := claim [.addObserver 7, .addObserver 7, .addDevice (some 10) settings, .runAction,
      .runAction, .runAction] _ rfl (by decide) 7 (by decide) 1
    exact absurd told (by decide)
  · have told := claim [.addDevice (some 10) settings, .addObserver 7, .removeObserver (some 7),
      .addObserver 7, .runAction, .runAction, .runAction, .runAction] _ rfl (by decide) 7
      (by decide) 1
    exact absurd told (by decide)

end DeviceHub

end Mir.Input
