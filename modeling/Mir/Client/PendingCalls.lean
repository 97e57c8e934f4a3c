/-
This file models how the client's remote calls complete: `PendingCallCache` with its mutex,
and the paths of `MirProtobufRpcChannel` that reach it.

A call saves its response object and its closure under the id it was given, then sends its
message. A result that arrives first fills in the response object, under the mutex, and is
then completed at once or put on the queue of delayed results; completing a result takes the
closure out of the cache under the mutex and runs it without. A lost connection takes the
closures out one by one and runs them. Every section under the mutex is one step, and so is
every start and return of a closure, so the steps of any number of threads interleave freely
and a closure may itself make calls.
-/

import Mathlib.Algebra.Order.Ring.Int
import Mathlib.Data.Int.Order.Basic
import Mir.Library.OrderedMap
import Mir.Library.Transition

namespace Mir.Client.PendingCalls

/-! ### The channel -/

/-- The id of a call: `next_message_id` is an atomic `int`, which wraps round. -/
def messageId (number : Nat) : Int := Int.bmod number (2 ^ 32)

theorem messageId_eq {first second : Nat} :
    messageId first = messageId second ↔ first % 2 ^ 32 = second % 2 ^ 32 := by
  unfold messageId
  rw [Int.bmod_def, Int.bmod_def]
  omega

/-- A saved call: the response object to fill in, by its address, and the closure to run. The
closure is known by the number of the call that brought it. -/
structure PendingCall where
  number : Nat
  response : Nat
  deriving Repr, DecidableEq

/-- How far a `call_method` has come. -/
inductive Calling where
  | invoked (response : Nat)
  | saved
  | sending
  deriving Repr, DecidableEq

/-- What completes a response: the reader of the socket (which resumes the delayed queue
afterwards when this was the result waited for), the delayed queue, or a lost connection. -/
inductive Origin where
  | reader (resumes : Bool)
  | delayed
  | forced
  deriving Repr, DecidableEq

/-- A `complete_response` or a `force_completion` outside the mutex: it has taken a closure, is
running it, or has come back from it (or from reporting an orphaned result). -/
inductive Activity where
  | taken (origin : Origin) (call : PendingCall)
  | running (origin : Origin) (call : PendingCall)
  | returned (origin : Origin)
  deriving Repr, DecidableEq

/-- Where `on_data_available` stands, under the read mutex. -/
inductive Reader where
  | idle
  | populated (id : Int)
  | completing
  | completed (resumes : Bool)
  deriving Repr, DecidableEq

/-- What has happened. Only `connectionLost` is seen by the program itself. -/
inductive Entry where
  | discarded (response : Nat)
  | saved (number : Nat)
  | replaced (number replacement : Nat)
  | touched (number response : Nat)
  | taken (number : Nat)
  | ran (number : Nat)
  | connectionLost
  | completionForced
  deriving Repr, DecidableEq

/-- A call saved under the id of a pending one replaces it in the map. -/
def noteReplaced (old : Option PendingCall) (number : Nat) (trace : List Entry) : List Entry :=
  match old with
  | some call => .replaced call.number number :: trace
  | none => trace

structure Channel where
  nextMessageId : Nat
  calls : OrderedMap Nat Calling
  pendingCalls : OrderedMap Int PendingCall
  runningCallbacks : Nat
  activities : OrderedMap Nat Activity
  reader : Reader
  delayedProcessor : List Int
  delayedWatched : Bool
  prioritiseNextRequest : Bool
  idToWaitFor : Option Int
  discard : Bool
  disconnected : Bool
  /-- The `notify_disconnected` calls that have not entered `force_completion` yet. -/
  notifying : Nat
  /-- The latest entry comes first. -/
  trace : List Entry

namespace Channel

def start : Channel where
  nextMessageId := 0
  calls := .empty
  pendingCalls := .empty
  runningCallbacks := 0
  activities := .empty
  reader := .idle
  delayedProcessor := []
  delayedWatched := true
  prioritiseNextRequest := false
  idToWaitFor := none
  discard := false
  disconnected := false
  notifying := 0
  trace := []

/-! ### Making a call -/

/-- `call_method` up to `invocation_for`, which draws the id. -/
def callMethod (channel : Channel) (response : Nat) : Channel :=
  if channel.discard then { channel with trace := .discarded response :: channel.trace }
  else { channel with
    nextMessageId := channel.nextMessageId + 1
    calls := channel.calls.set channel.nextMessageId (.invoked response) }

/-- `save_completion_details`: the assignment drops whatever the map had under the id. -/
def saveCompletionDetails (channel : Channel) (number : Nat) : Channel :=
  match channel.calls.find number with
  | some (.invoked response) =>
    { channel with
      calls := channel.calls.set number .saved
      pendingCalls := channel.pendingCalls.set (messageId number) ⟨number, response⟩
      trace := .saved number ::
        noteReplaced (channel.pendingCalls.find (messageId number)) number channel.trace }
  | _ => channel

def prioritise (channel : Channel) (number : Nat) : Channel :=
  match channel.calls.find number with
  | some .saved =>
    { channel with
      calls := channel.calls.set number .sending
      idToWaitFor := if channel.prioritiseNextRequest then some (messageId number)
        else channel.idToWaitFor
      prioritiseNextRequest := false }
  | _ => channel

/-- `notify_disconnected` up to `force_completion`. -/
def notifyDisconnected (channel : Channel) : Channel :=
  { channel with
    disconnected := true
    notifying := channel.notifying + 1
    trace := if channel.disconnected then channel.trace else .connectionLost :: channel.trace }

/-- `send_message`: a transport that fails ends the connection. -/
def sendMessage (channel : Channel) (number : Nat) (sent : Bool) : Channel :=
  match channel.calls.find number with
  | some .sending =>
    if sent then { channel with calls := channel.calls.erase number }
    else { channel with calls := channel.calls.erase number }.notifyDisconnected
  | _ => channel

/-! ### Completing a call -/

/-- `complete_response` up to the end of its first section. -/
def completeResponse (channel : Channel) (activity : Nat) (origin : Origin) (id : Int) :
    Channel :=
  match channel.pendingCalls.find id with
  | some call =>
    { channel with
      pendingCalls := channel.pendingCalls.erase id
      runningCallbacks := channel.runningCallbacks + 1
      activities := channel.activities.set activity (.taken origin call)
      trace := .taken call.number :: channel.trace }
  | none =>
    { channel with
      runningCallbacks := channel.runningCallbacks + 1
      activities := channel.activities.set activity (.returned origin) }

/-- `on_data_available` up to `populate_message_for_result`. The response object is filled in
under the mutex of the cache; a result that is not pending makes `at` throw, and reading file
descriptors may throw when the response object has been parsed into. -/
def onDataAvailable (channel : Channel) (id : Int) (received : Bool) : Channel :=
  match channel.reader with
  | .idle =>
    match channel.pendingCalls.find id with
    | some call =>
      { channel with
        reader := if received then .populated id else .idle
        trace := .touched call.number call.response :: channel.trace }
    | none => channel
  | _ => channel

/-- The rest of `on_data_available`: complete the result, or put it off. -/
def dispatchResult (channel : Channel) (activity : Nat) : Channel :=
  match channel.reader with
  | .populated id =>
    match channel.idToWaitFor with
    | some waited =>
      if id = waited then
        { channel with reader := .completing }.completeResponse activity (.reader true) id
      else
        { channel with
          reader := .idle
          delayedProcessor := channel.delayedProcessor ++ [id] }
    | none => { channel with reader := .completing }.completeResponse activity (.reader false) id
  | _ => channel

/-- `add_watch` after the result waited for, and the end of `on_data_available`. -/
def releaseReader (channel : Channel) : Channel :=
  match channel.reader with
  | .completed resumes =>
    { channel with
      reader := .idle
      delayedWatched := channel.delayedWatched || resumes }
  | _ => channel

/-- The delayed queue runs its first action. -/
def runDelayed (channel : Channel) (activity : Nat) : Channel :=
  match channel.delayedProcessor with
  | id :: rest =>
    if channel.delayedWatched then
      { channel with delayedProcessor := rest }.completeResponse activity .delayed id
    else channel
  | [] => channel

/-- One section of `force_completion` under the mutex: take the first pending call, or leave. -/
def forceSection (channel : Channel) (activity : Nat) : Channel :=
  match channel.pendingCalls.entries with
  | (id, call) :: _ =>
    { channel with
      pendingCalls := channel.pendingCalls.erase id
      activities := channel.activities.set activity (.taken .forced call)
      trace := .taken call.number :: channel.trace }
  | [] =>
    { channel with
      runningCallbacks := channel.runningCallbacks - 1
      activities := channel.activities.erase activity
      trace := .completionForced :: channel.trace }

/-- `force_completion` up to the end of its first section. -/
def forceCompletion (channel : Channel) (activity : Nat) : Channel :=
  if channel.notifying = 0 then channel
  else { channel with
    notifying := channel.notifying - 1
    runningCallbacks := channel.runningCallbacks + 1
    activities := channel.activities.set activity (.returned .forced) }.forceSection activity

/-- The closure is run. -/
def run (channel : Channel) (activity : Nat) : Channel :=
  match channel.activities.find activity with
  | some (.taken origin call) =>
    { channel with
      activities := channel.activities.set activity (.running origin call)
      trace := .ran call.number :: channel.trace }
  | _ => channel

/-- The closure returns. -/
def runReturns (channel : Channel) (activity : Nat) : Channel :=
  match channel.activities.find activity with
  | some (.running origin _) =>
    { channel with activities := channel.activities.set activity (.returned origin) }
  | _ => channel

/-- The section after a closure: `complete_response` ends, `force_completion` goes on. -/
def finish (channel : Channel) (activity : Nat) : Channel :=
  match channel.activities.find activity with
  | some (.returned .forced) => channel.forceSection activity
  | some (.returned .delayed) =>
    { channel with
      runningCallbacks := channel.runningCallbacks - 1
      activities := channel.activities.erase activity }
  | some (.returned (.reader resumes)) =>
    { channel with
      runningCallbacks := channel.runningCallbacks - 1
      activities := channel.activities.erase activity
      reader := .completed resumes }
  | _ => channel

/-- The condition on which `wait_till_complete` leaves its loop. -/
def waitTillComplete (channel : Channel) : Bool :=
  channel.runningCallbacks = 0 && channel.pendingCalls.entries.isEmpty

end Channel

/-! ### Runs -/

inductive Label where
  | callMethod (response : Nat)
  | saveCompletionDetails (number : Nat)
  | prioritise (number : Nat)
  | sendMessage (number : Nat) (sent : Bool)
  | discardFutureCalls
  | processNextRequestFirst
  | onDataAvailable (id : Int) (received : Bool)
  | dispatchResult (activity : Nat)
  | releaseReader
  | runDelayed (activity : Nat)
  | onDisconnected
  | forceCompletion (activity : Nat)
  | run (activity : Nat)
  | runReturns (activity : Nat)
  | finish (activity : Nat)
  deriving Repr, DecidableEq

/-- A new `complete_response` or `force_completion` is none of those under way. -/
def unlessUnderWay (channel : Channel) (activity : Nat) (begun : Channel) : Channel :=
  if (channel.activities.find activity).isSome then channel else begun

def step (channel : Channel) : Label → Channel
  | .callMethod response => channel.callMethod response
  | .saveCompletionDetails number => channel.saveCompletionDetails number
  | .prioritise number => channel.prioritise number
  | .sendMessage number sent => channel.sendMessage number sent
  | .discardFutureCalls => { channel with discard := true }
  | .processNextRequestFirst =>
    { channel with prioritiseNextRequest := true, delayedWatched := false }
  | .onDataAvailable id received => channel.onDataAvailable id received
  | .dispatchResult activity => unlessUnderWay channel activity (channel.dispatchResult activity)
  | .releaseReader => channel.releaseReader
  | .runDelayed activity => unlessUnderWay channel activity (channel.runDelayed activity)
  | .onDisconnected => channel.notifyDisconnected
  | .forceCompletion activity => unlessUnderWay channel activity (channel.forceCompletion activity)
  | .run activity => channel.run activity
  | .runReturns activity => channel.runReturns activity
  | .finish activity => channel.finish activity

/-- The states of any interleaving of calls, results and lost connections. -/
def Reached (channel : Channel) : Prop :=
  Transition.Reaches step (fun _ _ => True) Channel.start channel

/-! ### Where a closure is -/

/-- An activity has taken this closure and has not run it yet. -/
def holds (number : Nat) : Activity → Bool
  | .taken _ call => call.number = number
  | _ => false

def isFor (number : Nat) (call : PendingCall) : Bool := call.number = number

/-- The closure's place in the map was taken by another call. -/
def replaces (number : Nat) : Entry → Bool
  | .replaced old _ => old = number
  | _ => false

/-- A `force_completion` has ended since the last call was saved. -/
def forcedSinceSaved : List Entry → Bool
  | [] => false
  | .completionForced :: _ => true
  | .saved _ :: _ => false
  | _ :: earlier => forcedSinceSaved earlier

/-- No response object is filled in for a call that was taken out of the cache before. -/
def TouchedWhilePending (trace : List Entry) : Prop :=
  trace.Pairwise fun later earlier => ∀ number response, later = .touched number response →
    earlier ≠ .taken number ∧ ∀ replacement, earlier ≠ .replaced number replacement

/-! ### Saving over a pending call -/

theorem count_noteReplaced (old : Option PendingCall) (number : Nat) (trace : List Entry)
    {entry : Entry} (other : ∀ first second, entry ≠ .replaced first second) :
    (noteReplaced old number trace).count entry = trace.count entry := by
  cases old with
  | none => rfl
  | some call => exact List.count_cons_of_ne fun same => other _ _ same.symm

theorem countP_noteReplaced (old : Option PendingCall) (number other : Nat)
    (trace : List Entry) :
    (noteReplaced old number trace).countP (replaces other) =
      trace.countP (replaces other) + if old.any (isFor other) then 1 else 0 := by
  cases old with
  | none => rfl
  | some call => exact List.countP_cons

theorem mem_noteReplaced {old : Option PendingCall} {number : Nat} {trace : List Entry}
    {entry : Entry} (member : entry ∈ noteReplaced old number trace) :
    (∃ call, old = some call ∧ entry = .replaced call.number number) ∨ entry ∈ trace := by
  cases old with
  | none => exact .inr member
  | some call => exact (List.mem_cons.mp member).imp (fun same => ⟨call, rfl, same⟩) id

theorem TouchedWhilePending.noteReplaced {trace : List Entry}
    (touched : TouchedWhilePending trace) (old : Option PendingCall) (number : Nat) :
    TouchedWhilePending (noteReplaced old number trace) := by
  cases old with
  | none => exact touched
  | some call =>
    refine List.pairwise_cons.mpr ⟨fun earlier _ other response same => ?_, touched⟩
    cases same

/-- A new entry of a kind is counted for its own number. -/
theorem count_cons_kind (kind : Nat → Entry) (injective : Function.Injective kind)
    (number other : Nat) (trace : List Entry) :
    (kind number :: trace).count (kind other) =
      trace.count (kind other) + if number = other then 1 else 0 := by
  rw [List.count_cons]
  simp [injective.eq_iff]

theorem count_saved_cons (number other : Nat) (trace : List Entry) :
    (Entry.saved number :: trace).count (.saved other) =
      trace.count (.saved other) + if number = other then 1 else 0 :=
  count_cons_kind .saved (fun _ _ => Entry.saved.inj) number other trace

theorem count_taken_cons (number other : Nat) (trace : List Entry) :
    (Entry.taken number :: trace).count (.taken other) =
      trace.count (.taken other) + if number = other then 1 else 0 :=
  count_cons_kind .taken (fun _ _ => Entry.taken.inj) number other trace

theorem count_ran_cons (number other : Nat) (trace : List Entry) :
    (Entry.ran number :: trace).count (.ran other) =
      trace.count (.ran other) + if number = other then 1 else 0 :=
  count_cons_kind .ran (fun _ _ => Entry.ran.inj) number other trace

/-! ### The books of the cache -/

/-- The books of the cache: every saved closure is in one place, and every activity is counted
in `running_callbacks`. -/
structure Accounted (channel : Channel) : Prop where
  counted : channel.runningCallbacks = channel.activities.size
  closures : ∀ number, channel.trace.count (.ran number) +
    channel.activities.count (holds number) + channel.pendingCalls.count (isFor number) +
      channel.trace.countP (replaces number) = channel.trace.count (.saved number)
  takenOut : ∀ number, channel.trace.count (.taken number) =
    channel.trace.count (.ran number) + channel.activities.count (holds number)
  savedOnce : ∀ number, channel.trace.count (.saved number) ≤ 1
  unsaved : ∀ number response, channel.calls.find number = some (.invoked response) →
    channel.trace.count (.saved number) = 0
  fresh : ∀ number, channel.nextMessageId ≤ number →
    channel.calls.find number = none ∧ channel.trace.count (.saved number) = 0
  identified : ∀ id call, channel.pendingCalls.find id = some call → id = messageId call.number
  replacing : ∀ number replacement, .replaced number replacement ∈ channel.trace →
    messageId number = messageId replacement ∧ number ≠ replacement
  forced : forcedSinceSaved channel.trace = true → channel.pendingCalls.entries = []
  touched : TouchedWhilePending channel.trace

namespace Accounted

variable {channel next : Channel}

theorem start : Accounted Channel.start where
  counted := rfl
  closures _ := rfl
  takenOut _ := rfl
  savedOnce _ := Nat.zero_le 1
  unsaved _ _ found := by cases found
  fresh _ _ := ⟨rfl, rfl⟩
  identified _ _ found := by cases found
  replacing _ _ member := by cases member
  forced _ := rfl
  touched := List.Pairwise.nil

/-- What changes nothing in the books. -/
theorem elsewhere (accounted : Accounted channel)
    (sameRunning : next.runningCallbacks = channel.runningCallbacks)
    (sameActivities : next.activities = channel.activities)
    (samePending : next.pendingCalls = channel.pendingCalls)
    (sameTrace : next.trace = channel.trace)
    (sameCalls : next.calls = channel.calls)
    (sameNext : next.nextMessageId = channel.nextMessageId) : Accounted next := by
  obtain ⟨counted, closures, takenOut, savedOnce, unsaved, fresh, identified, replacing, forced,
    touched⟩ := accounted
  constructor
  all_goals simp only [sameRunning, sameActivities, samePending, sameTrace, sameCalls, sameNext]
  all_goals assumption

/-- What is only noted: a response object is touched while its call is pending, a call is
discarded, the application is told that the connection is lost, or nothing is pending any
longer. -/
def Quiet (channel : Channel) : Entry → Prop
  | .discarded _ => True
  | .touched number _ => .taken number ∉ channel.trace ∧
    ∀ replacement, .replaced number replacement ∉ channel.trace
  | .connectionLost => True
  | .completionForced => channel.pendingCalls.entries = []
  | _ => False

theorem noted (accounted : Accounted channel) {entry : Entry} (quiet : Quiet channel entry) :
    Accounted { channel with trace := entry :: channel.trace } := by
  have countRan : ∀ number, (entry :: channel.trace).count (.ran number) =
      channel.trace.count (.ran number) := fun number =>
    List.count_cons_of_ne (by rintro rfl; exact quiet)
  have countTaken : ∀ number, (entry :: channel.trace).count (.taken number) =
      channel.trace.count (.taken number) := fun number =>
    List.count_cons_of_ne (by rintro rfl; exact quiet)
  have countSaved : ∀ number, (entry :: channel.trace).count (.saved number) =
      channel.trace.count (.saved number) := fun number =>
    List.count_cons_of_ne (by rintro rfl; exact quiet)
  have countReplaced : ∀ number, (entry :: channel.trace).countP (replaces number) =
      channel.trace.countP (replaces number) := fun number =>
    List.countP_cons_of_neg (by cases entry <;> first | exact quiet.elim | exact Bool.false_ne_true)
  constructor
  case counted => exact accounted.counted
  case closures =>
    intro number
    simpa only [countRan, countSaved, countReplaced] using accounted.closures number
  case takenOut =>
    intro number
    simpa only [countRan, countTaken] using accounted.takenOut number
  case savedOnce =>
    intro number
    simpa only [countSaved] using accounted.savedOnce number
  case unsaved =>
    intro number response found
    simpa only [countSaved] using accounted.unsaved number response found
  case fresh =>
    intro number above
    simpa only [countSaved] using accounted.fresh number above
  case identified => exact accounted.identified
  case replacing =>
    intro number replacement member
    rcases List.mem_cons.mp member with rfl | old
    · exact quiet.elim
    · exact accounted.replacing number replacement old
  case forced =>
    intro since
    cases entry with
    | completionForced => exact quiet
    | discarded | touched | connectionLost => exact accounted.forced since
    | _ => exact quiet.elim
  case touched =>
    refine List.pairwise_cons.mpr ⟨?_, accounted.touched⟩
    rintro earlier member number response rfl
    exact ⟨fun same => quiet.1 (same ▸ member),
      fun replacement same => quiet.2 replacement (same ▸ member)⟩

/-- A pending call has not been taken out before, nor replaced. -/
theorem quiet_touched (accounted : Accounted channel) {id : Int} {call : PendingCall}
    (found : channel.pendingCalls.find id = some call) :
    Quiet channel (.touched call.number call.response) := by
  have inside : 0 < channel.pendingCalls.count (isFor call.number) :=
    (channel.pendingCalls.count_pos_iff _).mpr ⟨id, call, found, decide_eq_true rfl⟩
  have closures := accounted.closures call.number
  have takenOut := accounted.takenOut call.number
  have savedOnce := accounted.savedOnce call.number
  refine ⟨List.count_eq_zero.mp (by omega), fun replacement member => ?_⟩
  have replaced : 0 < channel.trace.countP (replaces call.number) :=
    List.countP_pos_iff.mpr ⟨_, member, decide_eq_true rfl⟩
  omega

theorem callMethod (accounted : Accounted channel) (response : Nat) :
    Accounted (channel.callMethod response) := by
  unfold Channel.callMethod
  split_ifs with discard
  · exact accounted.noted trivial
  · obtain ⟨unknown, unsaved⟩ := accounted.fresh channel.nextMessageId le_rfl
    refine { accounted with unsaved := ?_, fresh := ?_ }
    · intro number other found
      rw [OrderedMap.find_set] at found
      split_ifs at found with same
      · exact same ▸ unsaved
      · exact accounted.unsaved number other found
    · intro number above
      have below : channel.nextMessageId < number := above
      rw [OrderedMap.find_set, if_neg (ne_of_gt below)]
      exact accounted.fresh number (le_of_lt below)

theorem prioritise (accounted : Accounted channel) (number : Nat) :
    Accounted (channel.prioritise number) := by
  unfold Channel.prioritise
  split
  case h_2 => exact accounted
  case h_1 found =>
    refine { accounted with unsaved := ?_, fresh := ?_ }
    · intro other response found
      rw [OrderedMap.find_set] at found
      split_ifs at found
      · cases found
      · exact accounted.unsaved other response found
    · intro other above
      have different : other ≠ number := by
        rintro rfl
        rw [(accounted.fresh other above).1] at found
        cases found
      rw [OrderedMap.find_set, if_neg different]
      exact accounted.fresh other above

theorem notifyDisconnected (accounted : Accounted channel) :
    Accounted channel.notifyDisconnected := by
  unfold Channel.notifyDisconnected
  split_ifs with disconnected
  · exact accounted.elsewhere rfl rfl rfl rfl rfl rfl
  · have quiet : Quiet channel .connectionLost := trivial
    exact (accounted.noted quiet).elsewhere rfl rfl rfl rfl rfl rfl

theorem forgetCall (accounted : Accounted channel) (number : Nat) :
    Accounted { channel with calls := channel.calls.erase number } := by
  refine { accounted with unsaved := ?_, fresh := ?_ }
  · intro other response found
    rw [OrderedMap.find_erase] at found
    split_ifs at found
    exact accounted.unsaved other response found
  · intro other above
    rw [OrderedMap.find_erase, (accounted.fresh other above).1]
    exact ⟨ite_self none, (accounted.fresh other above).2⟩

theorem sendMessage (accounted : Accounted channel) (number : Nat) (sent : Bool) :
    Accounted (channel.sendMessage number sent) := by
  unfold Channel.sendMessage
  split
  case h_2 => exact accounted
  case h_1 =>
    split_ifs
    · exact accounted.forgetCall number
    · exact (accounted.forgetCall number).notifyDisconnected

theorem saveCompletionDetails (accounted : Accounted channel) (number : Nat) :
    Accounted (channel.saveCompletionDetails number) := by
  unfold Channel.saveCompletionDetails
  split
  case h_2 => exact accounted
  case h_1 response found =>
    have unsaved := accounted.unsaved number response found
    have absent : channel.pendingCalls.count (isFor number) = 0 := by
      have closures := accounted.closures number
      omega
    constructor
    case counted => exact accounted.counted
    case closures =>
      intro other
      have closures := accounted.closures other
      have replaced := channel.pendingCalls.count_set (messageId number) ⟨number, response⟩
        (isFor other)
      rw [count_saved_cons, count_noteReplaced _ _ _ (by simp), List.count_cons_of_ne (by simp),
        count_noteReplaced _ _ _ (by simp), List.countP_cons_of_neg (by simp [replaces]),
        countP_noteReplaced]
      simp only [isFor, decide_eq_true_eq] at replaced closures ⊢
      omega
    case takenOut =>
      intro other
      rw [List.count_cons_of_ne (by simp), List.count_cons_of_ne (by simp),
        count_noteReplaced _ _ _ (by simp), count_noteReplaced _ _ _ (by simp)]
      exact accounted.takenOut other
    case savedOnce =>
      intro other
      rw [count_saved_cons, count_noteReplaced _ _ _ (by simp)]
      have savedOnce := accounted.savedOnce other
      split_ifs with same
      · subst same
        omega
      · exact savedOnce
    case unsaved =>
      intro other otherResponse invoked
      rw [OrderedMap.find_set] at invoked
      split_ifs at invoked with same
      · cases invoked
      · rw [count_saved_cons, count_noteReplaced _ _ _ (by simp), if_neg (Ne.symm same)]
        exact accounted.unsaved other otherResponse invoked
    case fresh =>
      intro other above
      have different : other ≠ number := by
        rintro rfl
        rw [(accounted.fresh other above).1] at found
        cases found
      rw [OrderedMap.find_set, if_neg different, count_saved_cons,
        count_noteReplaced _ _ _ (by simp), if_neg (Ne.symm different)]
      exact accounted.fresh other above
    case identified =>
      intro id call member
      rw [OrderedMap.find_set] at member
      split_ifs at member with same
      · cases member
        exact same
      · exact accounted.identified id call member
    case replacing =>
      intro old replacement member
      rcases List.mem_cons.mp member with same | older
      · cases same
      rcases mem_noteReplaced older with ⟨call, pending, same⟩ | earlier
      · cases same
        refine ⟨(accounted.identified _ _ pending).symm, ?_⟩
        rintro rfl
        have inside := (channel.pendingCalls.count_pos_iff (isFor call.number)).mpr
          ⟨_, call, pending, decide_eq_true rfl⟩
        omega
      · exact accounted.replacing old replacement earlier
    case forced =>
      intro since
      cases since
    case touched =>
      refine List.pairwise_cons.mpr ⟨fun earlier _ other otherResponse same => ?_,
        accounted.touched.noteReplaced _ _⟩
      cases same

/-- A pending call is taken out of the cache by an activity. -/
theorem take (accounted : Accounted channel) {id : Int} {call : PendingCall}
    (found : channel.pendingCalls.find id = some call) {running : Nat}
    {activities : OrderedMap Nat Activity} (counted : running = activities.size)
    (held : ∀ number, activities.count (holds number) =
      channel.activities.count (holds number) + if isFor number call then 1 else 0) :
    Accounted { channel with
      pendingCalls := channel.pendingCalls.erase id
      runningCallbacks := running
      activities := activities
      trace := .taken call.number :: channel.trace } := by
  have pendingCount := channel.pendingCalls.count_erase found
  constructor
  case counted => exact counted
  case closures =>
    intro number
    have closures := accounted.closures number
    have erased := pendingCount (isFor number)
    rw [List.count_cons_of_ne (by simp), List.count_cons_of_ne (by simp),
      List.countP_cons_of_neg (by simp [replaces]), held]
    dsimp only at erased ⊢
    omega
  case takenOut =>
    intro number
    have takenOut := accounted.takenOut number
    rw [count_taken_cons, List.count_cons_of_ne (by simp), held, takenOut, Nat.add_assoc]
    simp only [isFor, decide_eq_true_eq]
  case savedOnce =>
    intro number
    rw [List.count_cons_of_ne (by simp)]
    exact accounted.savedOnce number
  case unsaved =>
    intro number response invoked
    rw [List.count_cons_of_ne (by simp)]
    exact accounted.unsaved number response invoked
  case fresh =>
    intro number above
    rw [List.count_cons_of_ne (by simp)]
    exact accounted.fresh number above
  case identified =>
    intro other otherCall member
    rw [OrderedMap.find_erase] at member
    split_ifs at member
    exact accounted.identified other otherCall member
  case replacing =>
    intro old replacement member
    exact accounted.replacing old replacement (by simpa using member)
  case forced =>
    intro since
    have nothing := accounted.forced since
    rw [OrderedMap.find_eq_some_iff, nothing] at found
    cases found
  case touched =>
    refine List.pairwise_cons.mpr ⟨fun earlier _ number response same => ?_, accounted.touched⟩
    cases same

/-- An activity comes or goes that holds no closure. -/
theorem withActivities (accounted : Accounted channel) {running : Nat}
    {activities : OrderedMap Nat Activity} (counted : running = activities.size)
    (held : ∀ number, activities.count (holds number) =
      channel.activities.count (holds number)) :
    Accounted { channel with runningCallbacks := running, activities := activities } :=
  { accounted with
    counted := counted
    closures := fun number => by
      dsimp only
      rw [held]
      exact accounted.closures number
    takenOut := fun number => by
      dsimp only
      rw [held]
      exact accounted.takenOut number }

theorem completeResponse (accounted : Accounted channel) {activity : Nat}
    (new : channel.activities.find activity = none) (origin : Origin) (id : Int) :
    Accounted (channel.completeResponse activity origin id) := by
  unfold Channel.completeResponse
  split
  case h_1 call found =>
    refine accounted.take found ?_ fun number => ?_
    · rw [OrderedMap.size_set_new _ _ new, accounted.counted]
    · have counted := channel.activities.count_set activity (.taken origin call) (holds number)
      rw [new] at counted
      exact counted
  case h_2 =>
    refine accounted.withActivities ?_ fun number => ?_
    · rw [OrderedMap.size_set_new _ _ new, accounted.counted]
    · have counted := channel.activities.count_set activity (.returned origin) (holds number)
      rw [new] at counted
      exact counted

theorem onDataAvailable (accounted : Accounted channel) (id : Int) (received : Bool) :
    Accounted (channel.onDataAvailable id received) := by
  unfold Channel.onDataAvailable
  split
  case h_2 => exact accounted
  case h_1 =>
    split
    case h_2 => exact accounted
    case h_1 call found =>
      exact (accounted.noted (accounted.quiet_touched found)).elsewhere rfl rfl rfl rfl rfl rfl

theorem dispatchResult (accounted : Accounted channel) {activity : Nat}
    (new : channel.activities.find activity = none) :
    Accounted (channel.dispatchResult activity) := by
  have busy : Accounted { channel with reader := .completing } :=
    accounted.elsewhere rfl rfl rfl rfl rfl rfl
  unfold Channel.dispatchResult
  split
  case h_2 => exact accounted
  case h_1 id _ =>
    split
    case h_1 =>
      split_ifs
      · exact busy.completeResponse new _ id
      · exact accounted.elsewhere rfl rfl rfl rfl rfl rfl
    case h_2 => exact busy.completeResponse new _ id

theorem releaseReader (accounted : Accounted channel) : Accounted channel.releaseReader := by
  unfold Channel.releaseReader
  split
  · exact accounted.elsewhere rfl rfl rfl rfl rfl rfl
  · exact accounted

theorem runDelayed (accounted : Accounted channel) {activity : Nat}
    (new : channel.activities.find activity = none) :
    Accounted (channel.runDelayed activity) := by
  unfold Channel.runDelayed
  split
  case h_2 => exact accounted
  case h_1 id rest _ =>
    split_ifs
    · have shorter : Accounted { channel with delayedProcessor := rest } :=
        accounted.elsewhere rfl rfl rfl rfl rfl rfl
      exact shorter.completeResponse new _ id
    · exact accounted

/-- An activity that has come back from its closure leaves. -/
theorem leave (accounted : Accounted channel) {activity : Nat} {origin : Origin}
    (back : channel.activities.find activity = some (.returned origin)) :
    Accounted { channel with
      runningCallbacks := channel.runningCallbacks - 1
      activities := channel.activities.erase activity } := by
  refine accounted.withActivities ?_ fun number => ?_
  · have smaller := channel.activities.size_erase back
    rw [accounted.counted]
    omega
  · exact channel.activities.count_erase back (holds number)

theorem forceSection (accounted : Accounted channel) {activity : Nat} {origin : Origin}
    (back : channel.activities.find activity = some (.returned origin)) :
    Accounted (channel.forceSection activity) := by
  unfold Channel.forceSection
  split
  case h_1 id call rest entries =>
    have found : channel.pendingCalls.find id = some call :=
      (channel.pendingCalls.find_eq_some_iff id call).mpr (entries ▸ List.mem_cons_self)
    refine accounted.take found ?_ fun number => ?_
    · rw [OrderedMap.size_set_known _ _ back, accounted.counted]
    · have counted := channel.activities.count_set activity (.taken .forced call) (holds number)
      rw [back] at counted
      exact counted
  case h_2 entries =>
    have quiet : Quiet _ .completionForced := entries
    exact (accounted.leave back).noted quiet

theorem forceCompletion (accounted : Accounted channel) {activity : Nat}
    (new : channel.activities.find activity = none) :
    Accounted (channel.forceCompletion activity) := by
  unfold Channel.forceCompletion
  split_ifs
  · exact accounted
  · have entered : Accounted { channel with
        notifying := channel.notifying - 1
        runningCallbacks := channel.runningCallbacks + 1
        activities := channel.activities.set activity (.returned .forced) } := by
      refine (accounted.withActivities ?_ fun number => ?_).elsewhere rfl rfl rfl rfl rfl rfl
      · rw [OrderedMap.size_set_new _ _ new, accounted.counted]
      · have counted := channel.activities.count_set activity (.returned .forced) (holds number)
        rw [new] at counted
        exact counted
    have back : (channel.activities.set activity (.returned .forced)).find activity =
        some (.returned .forced) := by
      rw [OrderedMap.find_set, if_pos rfl]
    exact entered.forceSection back

theorem run (accounted : Accounted channel) (activity : Nat) :
    Accounted (channel.run activity) := by
  unfold Channel.run
  split
  case h_2 => exact accounted
  case h_1 origin call found =>
    have held : ∀ number,
        (channel.activities.set activity (.running origin call)).count (holds number) +
          (if call.number = number then 1 else 0) = channel.activities.count (holds number) := by
      intro number
      have counted := channel.activities.count_set activity (.running origin call) (holds number)
      simpa [found, holds] using counted
    constructor
    case counted =>
      show channel.runningCallbacks = _
      rw [OrderedMap.size_set_known _ _ found, accounted.counted]
    case closures =>
      intro number
      have closures := accounted.closures number
      have moved := held number
      rw [count_ran_cons, List.count_cons_of_ne (by simp),
        List.countP_cons_of_neg (by simp [replaces])]
      dsimp only
      omega
    case takenOut =>
      intro number
      have takenOut := accounted.takenOut number
      have moved := held number
      rw [count_ran_cons, List.count_cons_of_ne (by simp)]
      dsimp only
      omega
    case savedOnce =>
      intro number
      rw [List.count_cons_of_ne (by simp)]
      exact accounted.savedOnce number
    case unsaved =>
      intro number response invoked
      rw [List.count_cons_of_ne (by simp)]
      exact accounted.unsaved number response invoked
    case fresh =>
      intro number above
      rw [List.count_cons_of_ne (by simp)]
      exact accounted.fresh number above
    case identified => exact accounted.identified
    case replacing =>
      intro old replacement member
      exact accounted.replacing old replacement (by simpa using member)
    case forced => exact accounted.forced
    case touched =>
      refine List.pairwise_cons.mpr ⟨fun earlier _ number response same => ?_, accounted.touched⟩
      cases same

theorem runReturns (accounted : Accounted channel) (activity : Nat) :
    Accounted (channel.runReturns activity) := by
  unfold Channel.runReturns
  split
  case h_2 => exact accounted
  case h_1 origin call found =>
    refine accounted.withActivities ?_ fun number => ?_
    · rw [OrderedMap.size_set_known _ _ found, accounted.counted]
    · have counted := channel.activities.count_set activity (.returned origin) (holds number)
      rw [found] at counted
      exact counted

theorem finish (accounted : Accounted channel) (activity : Nat) :
    Accounted (channel.finish activity) := by
  unfold Channel.finish
  split
  case h_1 back => exact accounted.forceSection back
  case h_2 back => exact accounted.leave back
  case h_3 back => exact (accounted.leave back).elsewhere rfl rfl rfl rfl rfl rfl
  case h_4 => exact accounted

theorem unlessUnderWay (accounted : Accounted channel) {activity : Nat} {begun : Channel}
    (begins : channel.activities.find activity = none → Accounted begun) :
    Accounted (unlessUnderWay channel activity begun) := by
  unfold PendingCalls.unlessUnderWay
  split_ifs with underWay
  · exact accounted
  · exact begins (by simpa using underWay)

theorem step (accounted : Accounted channel) (label : Label) :
    Accounted (step channel label) := by
  cases label with
  | callMethod response => exact accounted.callMethod response
  | saveCompletionDetails number => exact accounted.saveCompletionDetails number
  | prioritise number => exact accounted.prioritise number
  | sendMessage number sent => exact accounted.sendMessage number sent
  | discardFutureCalls => exact accounted.elsewhere rfl rfl rfl rfl rfl rfl
  | processNextRequestFirst => exact accounted.elsewhere rfl rfl rfl rfl rfl rfl
  | onDataAvailable id received => exact accounted.onDataAvailable id received
  | dispatchResult activity =>
    exact accounted.unlessUnderWay fun new => accounted.dispatchResult new
  | releaseReader => exact accounted.releaseReader
  | runDelayed activity => exact accounted.unlessUnderWay fun new => accounted.runDelayed new
  | onDisconnected => exact accounted.notifyDisconnected
  | forceCompletion activity =>
    exact accounted.unlessUnderWay fun new => accounted.forceCompletion new
  | run activity => exact accounted.run activity
  | runReturns activity => exact accounted.runReturns activity
  | finish activity => exact accounted.finish activity

theorem reached (run : Reached channel) : Accounted channel :=
  run.invariant start fun _ label before _ => before.step label

/-- With nothing pending, a saved closure has been run once, or an activity holds it that is
about to run it, or its id was given to another call. -/
theorem settled (accounted : Accounted channel) (nothing : channel.pendingCalls.entries = [])
    {number : Nat} (saved : .saved number ∈ channel.trace) :
    (channel.trace.count (.ran number) = 1 ∧ channel.activities.count (holds number) = 0) ∨
    (channel.trace.count (.ran number) = 0 ∧ channel.activities.count (holds number) = 1) ∨
    ∃ replacement, .replaced number replacement ∈ channel.trace := by
  have closures := accounted.closures number
  have savedOnce := accounted.savedOnce number
  have positive := List.count_pos_iff.mpr saved
  have absent : channel.pendingCalls.count (isFor number) = 0 := by
    rw [OrderedMap.count, nothing]
    rfl
  by_cases replaced : channel.trace.countP (replaces number) = 0
  · omega
  · obtain ⟨entry, member, isReplaced⟩ :=
      List.countP_pos_iff.mp (Nat.pos_of_ne_zero replaced)
    cases entry with
    | replaced old replacement =>
      have same : old = number := of_decide_eq_true isReplaced
      exact .inr (.inr ⟨replacement, same ▸ member⟩)
    | _ => cases isReplaced

end Accounted

/-! ### Every closure is run once -/

/-- In every interleaving a closure is run at most once. When `notify_disconnected` has ended
after the last call was saved, every saved closure has been run once or has been taken by
another thread that is about to run it; `wait_till_complete` returns only when those are done
too. The exception is a call whose id was given again, a multiple of `2 ^ 32` calls apart,
while it was pending. A response object is only touched while its call is pending. -/
theorem calls_complete {channel : Channel} (reached : Reached channel) :
    (∀ number, channel.trace.count (.ran number) ≤ 1) ∧
    (forcedSinceSaved channel.trace = true → ∀ number, .saved number ∈ channel.trace →
      channel.trace.count (.ran number) = 1 ∨
      (channel.trace.count (.ran number) = 0 ∧ ∃ activity origin call,
        channel.activities.find activity = some (.taken origin call) ∧ call.number = number) ∨
      ∃ replacement, .replaced number replacement ∈ channel.trace) ∧
    (channel.waitTillComplete = true →
      channel.pendingCalls.entries = [] ∧ channel.activities.entries = [] ∧
      ∀ number, .saved number ∈ channel.trace → channel.trace.count (.ran number) = 1 ∨
        ∃ replacement, .replaced number replacement ∈ channel.trace) ∧
    (∀ number replacement, .replaced number replacement ∈ channel.trace →
      number ≠ replacement ∧ number % 2 ^ 32 = replacement % 2 ^ 32) ∧
    TouchedWhilePending channel.trace ∧
    ∀ id received, channel.pendingCalls.find id = none →
      step channel (.onDataAvailable id received) = channel := by
  have accounted := Accounted.reached reached
  refine ⟨fun number => ?_, fun since number saved => ?_, fun returns => ?_, ?_,
    accounted.touched, fun id received absent => ?_⟩
  · have closures := accounted.closures number
    have savedOnce := accounted.savedOnce number
    omega
  · rcases accounted.settled (accounted.forced since) saved with ran | held | replaced
    · exact .inl ran.1
    · refine .inr (.inl ⟨held.1, ?_⟩)
      obtain ⟨activity, held, found, isHeld⟩ :=
        (channel.activities.count_pos_iff (holds number)).mp (by omega)
      cases held with
      | taken origin call => exact ⟨activity, origin, call, found, of_decide_eq_true isHeld⟩
      | _ => cases isHeld
    · exact .inr (.inr replaced)
  · obtain ⟨idle, nothing⟩ := Bool.and_eq_true_iff.mp returns
    have noActivities : channel.activities.entries = [] := by
      refine List.length_eq_zero_iff.mp ?_
      exact accounted.counted.symm.trans (of_decide_eq_true idle)
    have nonePending := List.isEmpty_iff.mp nothing
    refine ⟨nonePending, noActivities, fun number saved => ?_⟩
    rcases accounted.settled nonePending saved with ran | held | replaced
    · exact .inl ran.1
    · rw [OrderedMap.count, noActivities] at held
      cases held.2
    · exact .inr replaced
  · intro number replacement member
    obtain ⟨sameId, different⟩ := accounted.replacing number replacement member
    exact ⟨different, messageId_eq.mp sameId⟩
  · dsimp only [step, Channel.onDataAvailable]
    rw [absent]
    split <;> rfl

/-- The reader is completing the first call when the message of the second cannot be sent. The
thread of the second call forces the completion of what it finds pending, and is done before
the reader gets to run the closure it has taken. -/
def disconnectDuringCompletion : List Label :=
  [.callMethod 10, .saveCompletionDetails 0, .prioritise 0, .sendMessage 0 true,
   .callMethod 11, .saveCompletionDetails 1, .prioritise 1,
   .onDataAvailable 0 true, .dispatchResult 0,
   .sendMessage 1 false, .forceCompletion 1, .run 1, .runReturns 1, .finish 1]

theorem calls_complete_during_completion :
    forcedSinceSaved (disconnectDuringCompletion.foldl step .start).trace = true ∧
    (disconnectDuringCompletion.foldl step .start).trace.count (.ran 1) ≤ 1 := by
  have reached : Reached (disconnectDuringCompletion.foldl step .start) :=
    Transition.Reaches.start.foldl disconnectDuringCompletion (by decide)
  exact ⟨by decide, (calls_complete reached).1 1⟩

/-- The closure of the first call has not been run when `notify_disconnected` has ended. -/
theorem notifyDisconnected_ends_early :
    ¬ ∀ channel, Reached channel → forcedSinceSaved channel.trace = true →
      ∀ number, .saved number ∈ channel.trace → channel.trace.count (.ran number) = 1 := by
  intro claimed
  have reached : Reached (disconnectDuringCompletion.foldl step .start) :=
    Transition.Reaches.start.foldl disconnectDuringCompletion (by decide)
  have once := claimed _ reached (by decide) 0 (by decide)
  revert once
  decide

end Mir.Client.PendingCalls
