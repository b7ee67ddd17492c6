import RtCore.Foundation.Run
import RtCore.Foundation.WorkItem
import RtCore.Sensors.CanRouteTable

/-!
# The routing of CAN frames

`CanFrameRouter` keeps the newest frame of each route and dispatches the frames in one work item,
route by route. The bus threads that store frames and submit the work item, and the run of the work
item, which takes a frame and then dispatches it, are interleaved step by step.

## Main definitions

* `CanFrameRouter` with `attach`, `onFrameReceived`, `takeFrame` and the other steps
* `RouterStep`, `CanFrameRouter.step` — the interleavings

## Main results

* `CanFrameRouter.routing_guarantees` — what a run dispatches, in which order, and that the newest
  frame of every route is dispatched
-/

namespace RtCore.Sensors

open RtCore.Can RtCore.Foundation
open RtCore.Mdf (CanFrame)
open CanRouteTable (CanReading)

/-- A frame with the number of those received on its route before it. -/
structure ReceivedFrame where
  number : ℕ
  frame : CanFrame
  deriving DecidableEq

/-- A route's slot, with a record of what was received. -/
structure RouteState where
  /-- A handler is registered for the route. -/
  isListening : Bool := false
  /-- The frame, where `has_frame` is set. -/
  frame : Option ReceivedFrame := none
  /-- The handler has stored a frame and not submitted the work item yet. -/
  isSubmitting : Bool := false
  /-- The frames received that were not empty. -/
  received : List CanFrame := []

/-- A frame that was dispatched: in which run, on which route, and what it made. -/
structure FrameDispatch where
  run : ℕ
  route : ℕ
  received : ReceivedFrame
  readings : List CanReading

/-- A router with a generation attached. -/
structure CanFrameRouter where
  routes : List CanRoute
  states : ℕ → RouteState
  work : WorkItem := {}
  /-- The route at which the run of the work item is. -/
  position : ℕ := 0
  /-- The frame that the run has taken and is dispatching. -/
  inFlight : Option ReceivedFrame := none
  /-- The runs that have started. -/
  runs : ℕ := 0
  dispatches : List FrameDispatch := []

/-- A step of a bus thread or of the work item; `accepts` is what the work queue does with a
submission. A bus hands the frames of a route to its handler one after another. -/
inductive RouterStep where
  | receive (route : ℕ) (frame : CanFrame)
  | submit (route : ℕ) (accepts : Bool)
  | startWork
  | takeFrame
  | dispatchFrame (currentTime : ℕ → ℤ)

namespace CanFrameRouter

section Steps

variable (getHash : Text → UInt32) (physical : CanSignalConfiguration → ℤ → UInt32)
  (router : CanFrameRouter)

/-- `Attach`: the router and the number of routes that listen. `register` says for which routes the
bus is available and takes the handler. -/
def attach (configuration : CanbusConfiguration) (register : CanRoute → Bool)
    (generation : List CanRuntime) : CanFrameRouter × ℕ :=
  let routes := CanRouteTable.build getHash (resolveSignal getHash configuration) generation
  ({ routes, states := fun i => { isListening := (routes[i]?.map register).getD false } },
    routes.countP register)

/-- Writes the state of a route. -/
def setState (route : ℕ) (state : RouteState) : CanFrameRouter :=
  { router with states := Function.update router.states route state }

/-- `OnFrameReceived`, up to the end of the lock. -/
def onFrameReceived (route : ℕ) (frame : CanFrame) : CanFrameRouter :=
  let state := router.states route
  if router.routes.length ≤ route ∨ frame.data = [] then router
  else if state.isListening = false ∨ state.isSubmitting = true then router
  else
    router.setState route { state with
      frame := some ⟨state.received.length, frame⟩
      isSubmitting := true
      received := state.received ++ [frame] }

/-- `OnFrameReceived`, behind the lock. -/
def submitWork (route : ℕ) (accepts : Bool) : CanFrameRouter :=
  let state := router.states route
  if state.isSubmitting then
    { router.setState route { state with isSubmitting := false } with
      work := router.work.submit accepts }
  else router

/-- The work queue calls `ProcessPendingFrames`. -/
def startWork : CanFrameRouter :=
  if router.work.isQueued && !router.work.isRunning then
    { router with work := router.work.start, position := 0, runs := router.runs + 1 }
  else router

/-- `ProcessPendingFrames` at a route, up to the end of the lock; behind the last route it
returns. -/
def takeFrame : CanFrameRouter :=
  if router.work.isRunning = true ∧ router.inFlight = none then
    if router.position < router.routes.length then
      let state := router.states router.position
      match state.frame with
      | none => { router with position := router.position + 1 }
      | some received =>
        { router.setState router.position { state with frame := none } with
          inFlight := some received }
    else { router with work := router.work.finish }
  else router

/-- `ProcessPendingFrames` at a route, behind the lock. -/
def dispatchFrame (currentTime : ℕ → ℤ) : CanFrameRouter :=
  match router.inFlight, router.routes[router.position]? with
  | some received, some route =>
    let readings := CanRouteTable.dispatch getHash physical route received.frame currentTime
    { router with
      position := router.position + 1
      inFlight := none
      dispatches := router.dispatches ++ [⟨router.runs, router.position, received, readings⟩] }
  | _, _ => router

/-- The router after a step; a thread that cannot take the step does nothing. -/
def step : RouterStep → CanFrameRouter
  | .receive route frame => router.onFrameReceived route frame
  | .submit route accepts => router.submitWork route accepts
  | .startWork => router.startWork
  | .takeFrame => router.takeFrame
  | .dispatchFrame currentTime => router.dispatchFrame getHash physical currentTime

end Steps

/-! ### What became of the frames -/

end CanFrameRouter

/-- The frames received on a route with their numbers. -/
def RouteState.numbered (state : RouteState) : List ReceivedFrame :=
  state.received.mapIdx ReceivedFrame.mk

namespace CanFrameRouter

section Fates

variable (router : CanFrameRouter) (route : ℕ)

/-- The frames of a route that were dispatched. -/
def dispatched : List ReceivedFrame :=
  (router.dispatches.filter (·.route = route)).map FrameDispatch.received

/-- The frame of a route that is being dispatched. -/
def dispatching : List ReceivedFrame :=
  if router.position = route then router.inFlight.toList else []

/-- The frames of a route that were dispatched, are being or will be. -/
def kept : List ReceivedFrame :=
  router.dispatched route ++ router.dispatching route ++ (router.states route).frame.toList

/-- The run of the work item has not passed a route. -/
def IsAhead : Prop :=
  router.work.isRunning = true ∧
    (router.position < route ∨ router.position = route ∧ router.inFlight = none)

end Fates

variable {getHash : Text → UInt32} {physical : CanSignalConfiguration → ℤ → UInt32}
  {router after : CanFrameRouter}

theorem numbered_concat (state : RouteState) (frame : CanFrame) :
    { state with received := state.received ++ [frame] }.numbered =
      state.numbered ++ [⟨state.received.length, frame⟩] := by
  rw [RouteState.numbered, List.mapIdx_append]
  simp [RouteState.numbered]

/-- A numbered frame is one that was received. -/
theorem frame_mem_of_mem_numbered {state : RouteState} {received : ReceivedFrame}
    (member : received ∈ state.numbered) : received.frame ∈ state.received := by
  obtain ⟨number, inside, rfl⟩ := List.mem_mapIdx.mp member
  exact List.getElem_mem inside

theorem numbered_nodup (state : RouteState) : state.numbered.Nodup := by
  apply List.Nodup.of_map ReceivedFrame.number
  have numbers : state.numbered.map ReceivedFrame.number = List.range state.received.length := by
    apply List.ext_getElem
    · simp [RouteState.numbered]
    · intro number _ _
      simp [RouteState.numbered]
  rw [numbers]
  exact List.nodup_range

@[simp] theorem states_setState_self (route : ℕ) (state : RouteState) :
    (router.setState route state).states route = state := Function.update_self ..

theorem states_setState_of_ne {route other : ℕ} (different : other ≠ route) (state : RouteState) :
    (router.setState route state).states other = router.states other :=
  Function.update_of_ne different ..

/-! ### What is kept -/

/-- What holds of the frames of a router at every moment. -/
structure Sound (router : CanFrameRouter) : Prop where
  /-- The frames of a route are kept in the order in which they were received. -/
  order : ∀ route, (router.kept route).Sublist (router.states route).numbered
  /-- The newest one is among them. -/
  newest : ∀ route, (router.kept route).getLast? = (router.states route).numbered.getLast?
  busy : router.inFlight ≠ none →
    router.work.isRunning = true ∧ router.position < router.routes.length
  some_data : ∀ route, ∀ frame ∈ (router.states route).received, frame.data ≠ []
  inside : ∀ route, (router.states route).frame ≠ none → route < router.routes.length
  calm : router.work.isCanceling = false

/-- A step at which no frame comes or goes. -/
structure Carries (router after : CanFrameRouter) : Prop where
  kept : ∀ route, after.kept route = router.kept route
  received : ∀ route, (after.states route).received = (router.states route).received

theorem Sound.carry (sound : Sound router) (carries : Carries router after)
    (busy : after.inFlight ≠ none →
      after.work.isRunning = true ∧ after.position < after.routes.length)
    (inside : ∀ route, (after.states route).frame ≠ none → route < after.routes.length)
    (calm : after.work.isCanceling = false) : Sound after := by
  have numbered : ∀ route, (after.states route).numbered = (router.states route).numbered :=
    fun route => congrArg (List.mapIdx ReceivedFrame.mk) (carries.received route)
  refine ⟨fun route => ?_, fun route => ?_, busy, fun route => ?_, inside, calm⟩
  · rw [carries.kept, numbered]
    exact sound.order route
  · rw [carries.kept, numbered]
    exact sound.newest route
  · rw [carries.received]
    exact sound.some_data route

theorem kept_attach (configuration : CanbusConfiguration) (register : CanRoute → Bool)
    (generation : List CanRuntime) (route : ℕ) :
    (attach getHash configuration register generation).1.kept route = [] := by
  have nothing :
      (attach getHash configuration register generation).1.dispatching route = [] := ite_self _
  rw [kept, nothing]
  rfl

theorem Sound.attach (configuration : CanbusConfiguration) (register : CanRoute → Bool)
    (generation : List CanRuntime) :
    Sound (CanFrameRouter.attach getHash configuration register generation).1 where
  order route := by
    rw [kept_attach]
    exact List.nil_sublist _
  newest route := by
    rw [kept_attach]
    rfl
  busy taken := absurd rfl taken
  some_data route frame member := nomatch member
  inside route taken := absurd rfl taken
  calm := rfl

/-- What a frame does on its arrival, or nothing. -/
theorem onFrameReceived_cases (router : CanFrameRouter) (route : ℕ) (frame : CanFrame) :
    router.onFrameReceived route frame = router ∨
      route < router.routes.length ∧ frame.data ≠ [] ∧
        (router.states route).isListening = true ∧
        router.onFrameReceived route frame = router.setState route { router.states route with
          frame := some ⟨(router.states route).received.length, frame⟩
          isSubmitting := true
          received := (router.states route).received ++ [frame] } := by
  unfold onFrameReceived
  dsimp only
  split
  case isTrue => exact .inl rfl
  case isFalse inside =>
    split
    case isTrue => exact .inl rfl
    case isFalse listens =>
      rw [not_or, Nat.not_le] at inside
      rw [not_or] at listens
      exact .inr ⟨inside.1, inside.2, by simpa using listens.1, rfl⟩

theorem Sound.onFrameReceived (sound : Sound router) (route : ℕ) (frame : CanFrame) :
    Sound (router.onFrameReceived route frame) := by
  rcases onFrameReceived_cases router route frame with same | ⟨inside, some_data, -, same⟩
  · rwa [same]
  rw [same]
  -- Only the slot of the route changes: its frame is replaced by the new one.
  let new : ReceivedFrame := ⟨(router.states route).received.length, frame⟩
  let state : RouteState := { router.states route with
    frame := some new
    isSubmitting := true
    received := (router.states route).received ++ [frame] }
  change Sound (router.setState route state)
  have numbered : state.numbered = (router.states route).numbered ++ [new] :=
    numbered_concat (router.states route) frame
  have kept : (router.setState route state).kept route =
      router.dispatched route ++ router.dispatching route ++ [new] := by
    rw [CanFrameRouter.kept, states_setState_self]
    rfl
  have others {other : ℕ} (different : other ≠ route) :
      (router.setState route state).kept other = router.kept other := by
    rw [CanFrameRouter.kept, states_setState_of_ne different]
    rfl
  refine ⟨fun other => ?_, fun other => ?_, sound.busy, fun other => ?_, fun other => ?_,
    sound.calm⟩
  · by_cases here : other = route
    · rw [here, kept, states_setState_self, numbered]
      have before : (router.dispatched route ++ router.dispatching route).Sublist
          (router.kept route) := List.sublist_append_left _ _
      exact (before.trans (sound.order route)).append (List.Sublist.refl _)
    · rw [others here, states_setState_of_ne here]
      exact sound.order other
  · by_cases here : other = route
    · rw [here, kept, states_setState_self, numbered, List.getLast?_concat, List.getLast?_concat]
    · rw [others here, states_setState_of_ne here]
      exact sound.newest other
  · by_cases here : other = route
    · rw [here, states_setState_self]
      intro received member
      rcases List.mem_append.mp member with old | last
      · exact sound.some_data route received old
      · rw [List.mem_singleton.mp last]
        exact some_data
    · rw [states_setState_of_ne here]
      exact sound.some_data other
  · by_cases here : other = route
    · rw [here]
      exact fun _ => inside
    · rw [states_setState_of_ne here]
      exact sound.inside other

theorem Sound.submitWork (sound : Sound router) (route : ℕ) (accepts : Bool) :
    Sound (router.submitWork route accepts) := by
  unfold CanFrameRouter.submitWork
  dsimp only
  split
  case isFalse => exact sound
  case isTrue =>
    let state : RouteState := { router.states route with isSubmitting := false }
    have frame (other : ℕ) : ((router.setState route state).states other).frame =
        (router.states other).frame := by
      by_cases here : other = route
      · rw [here, states_setState_self]
      · rw [states_setState_of_ne here]
    have received (other : ℕ) : ((router.setState route state).states other).received =
        (router.states other).received := by
      by_cases here : other = route
      · rw [here, states_setState_self]
      · rw [states_setState_of_ne here]
    refine sound.carry ⟨fun other => ?_, received⟩ ?_ (fun other => ?_) ?_
    · change _ ++ ((router.setState route state).states other).frame.toList = _
      rw [frame]
      rfl
    · rw [WorkItem.isRunning_submit]
      exact sound.busy
    · change ((router.setState route state).states other).frame ≠ none → _
      rw [frame]
      exact sound.inside other
    · rw [WorkItem.isCanceling_submit]
      exact sound.calm

theorem Sound.startWork (sound : Sound router) : Sound router.startWork := by
  unfold CanFrameRouter.startWork
  split
  case isFalse => exact sound
  case isTrue starts =>
    obtain ⟨queued, idle⟩ : router.work.isQueued = true ∧ router.work.isRunning = false := by
      simpa using starts
    have free : router.inFlight = none := by
      by_contra taken
      rw [(sound.busy taken).1] at idle
      cases idle
    refine sound.carry ⟨fun route => ?_, fun _ => rfl⟩ (fun taken => absurd free taken)
      sound.inside ?_
    · simp [kept, dispatched, dispatching, free]
    · simp [WorkItem.start, queued, idle, sound.calm]

/-- The run ends, goes on to the next route or takes the frame of its route, or nothing happens. -/
theorem takeFrame_cases (router : CanFrameRouter) :
    router.takeFrame = router ∨
      router.work.isRunning = true ∧ router.inFlight = none ∧
        (router.routes.length ≤ router.position ∧
            router.takeFrame = { router with work := router.work.finish } ∨
          router.position < router.routes.length ∧
            ((router.states router.position).frame = none ∧
              router.takeFrame = { router with position := router.position + 1 } ∨
            ∃ received, (router.states router.position).frame = some received ∧
              router.takeFrame = { router.setState router.position
                { router.states router.position with frame := none } with
                  inFlight := some received })) := by
  unfold takeFrame
  split
  case isFalse => exact .inl rfl
  case isTrue running =>
    refine .inr ⟨running.1, running.2, ?_⟩
    split
    case isFalse beyond => exact .inl ⟨Nat.le_of_not_lt beyond, rfl⟩
    case isTrue within =>
      dsimp only
      split
      case h_1 found => exact .inr ⟨within, .inl ⟨found, rfl⟩⟩
      case h_2 received found => exact .inr ⟨within, .inr ⟨received, found, rfl⟩⟩

theorem Sound.takeFrame (sound : Sound router) : Sound router.takeFrame := by
  rcases takeFrame_cases router with same | ⟨running, free, ⟨-, same⟩ | ⟨within, ⟨-, same⟩ |
    ⟨received, found, same⟩⟩⟩
  · rwa [same]
  · rw [same]
    exact sound.carry ⟨fun _ => rfl, fun _ => rfl⟩ (fun taken => absurd free taken) sound.inside rfl
  · rw [same]
    refine sound.carry ⟨fun route => ?_, fun _ => rfl⟩ (fun taken => absurd free taken)
      sound.inside sound.calm
    simp [kept, dispatched, dispatching, free]
  · rw [same]
    let state : RouteState := { router.states router.position with frame := none }
    -- The frame goes from its slot to the run.
    refine sound.carry ⟨fun route => ?_, fun route => ?_⟩ (fun _ => ⟨running, within⟩)
      (fun route => ?_) sound.calm
    · by_cases here : route = router.position
      · simp [kept, dispatched, dispatching, here, found, free, setState]
      · simp [kept, dispatched, dispatching, free, setState, Function.update_of_ne here,
          Ne.symm here]
    · change ((router.setState router.position state).states route).received = _
      by_cases here : route = router.position
      · rw [here, states_setState_self]
      · rw [states_setState_of_ne here]
    · change ((router.setState router.position state).states route).frame ≠ none → _
      by_cases here : route = router.position
      · rw [here, states_setState_self]
        exact fun taken => absurd rfl taken
      · rw [states_setState_of_ne here]
        exact sound.inside route

variable (getHash physical) in
/-- A dispatch of the frame that was taken, or nothing. -/
theorem dispatchFrame_cases (router : CanFrameRouter) (currentTime : ℕ → ℤ) :
    router.dispatchFrame getHash physical currentTime = router ∨
      ∃ received route, router.inFlight = some received ∧
        router.routes[router.position]? = some route ∧
        router.dispatchFrame getHash physical currentTime = { router with
          position := router.position + 1
          inFlight := none
          dispatches := router.dispatches ++ [⟨router.runs, router.position, received,
            CanRouteTable.dispatch getHash physical route received.frame currentTime⟩] } := by
  unfold dispatchFrame
  split
  case h_1 received route taken found => exact .inr ⟨received, route, taken, found, rfl⟩
  case h_2 => exact .inl rfl

theorem Sound.dispatchFrame (sound : Sound router) (currentTime : ℕ → ℤ) :
    Sound (router.dispatchFrame getHash physical currentTime) := by
  rcases dispatchFrame_cases getHash physical router currentTime with
    same | ⟨received, route, taken, -, same⟩
  · rwa [same]
  rw [same]
  refine sound.carry ⟨fun other => ?_, fun _ => rfl⟩ (fun taken => absurd rfl taken) sound.inside
    sound.calm
  by_cases here : router.position = other
  · simp [kept, dispatched, dispatching, taken, here]
  · simp [kept, dispatched, dispatching, here]

/-- Every step keeps what holds of the frames. -/
theorem Sound.step (sound : Sound router) (step : RouterStep) :
    Sound (router.step getHash physical step) := by
  cases step with
  | receive route frame => exact sound.onFrameReceived route frame
  | submit route accepts => exact sound.submitWork route accepts
  | startWork => exact sound.startWork
  | takeFrame => exact sound.takeFrame
  | dispatchFrame currentTime => exact sound.dispatchFrame currentTime

/-! ### What was dispatched -/

/-- Every dispatch made the readings of its frame, and no run dispatched twice on a route. -/
structure Logged (getHash : Text → UInt32) (physical : CanSignalConfiguration → ℤ → UInt32)
    (router : CanFrameRouter) : Prop where
  made : ∀ dispatch ∈ router.dispatches, ∃ route currentTime,
    router.routes[dispatch.route]? = some route ∧
      dispatch.readings =
        CanRouteTable.dispatch getHash physical route dispatch.received.frame currentTime
  passed : ∀ dispatch ∈ router.dispatches,
    dispatch.run < router.runs ∨ dispatch.run = router.runs ∧ dispatch.route < router.position
  once : (router.dispatches.map fun dispatch => (dispatch.run, dispatch.route)).Nodup

theorem Logged.attach (configuration : CanbusConfiguration) (register : CanRoute → Bool)
    (generation : List CanRuntime) :
    Logged getHash physical (attach getHash configuration register generation).1 where
  made _ member := nomatch member
  passed _ member := nomatch member
  once := List.nodup_nil

/-- Steps that dispatch nothing; the position of the run goes on, or a new run starts. -/
theorem Logged.carry (logged : Logged getHash physical router)
    (routes : after.routes = router.routes) (dispatches : after.dispatches = router.dispatches)
    (goes : router.runs < after.runs ∨
      after.runs = router.runs ∧ router.position ≤ after.position) :
    Logged getHash physical after := by
  refine ⟨?_, fun dispatch member => ?_, ?_⟩
  · rw [dispatches, routes]
    exact logged.made
  · rw [dispatches] at member
    have passed := logged.passed dispatch member
    omega
  · rw [dispatches]
    exact logged.once

theorem Logged.dispatchFrame (logged : Logged getHash physical router) (currentTime : ℕ → ℤ) :
    Logged getHash physical (router.dispatchFrame getHash physical currentTime) := by
  rcases dispatchFrame_cases getHash physical router currentTime with
    same | ⟨received, route, -, found, same⟩
  · rwa [same]
  rw [same]
  refine ⟨fun dispatch member => ?_, fun dispatch member => ?_, ?_⟩
  · rcases List.mem_append.mp member with old | last
    · exact logged.made dispatch old
    · rw [List.mem_singleton.mp last]
      exact ⟨route, currentTime, found, rfl⟩
  · rcases List.mem_append.mp member with old | last
    · rcases logged.passed dispatch old with earlier | ⟨now, behind⟩
      · exact .inl earlier
      · exact .inr ⟨now, Nat.lt_succ_of_lt behind⟩
    · rw [List.mem_singleton.mp last]
      exact .inr ⟨rfl, Nat.lt_succ_self _⟩
  · rw [List.map_append, List.map_singleton, List.nodup_append_comm, List.singleton_append,
      List.nodup_cons]
    refine ⟨fun clash => ?_, logged.once⟩
    -- The run has passed every route on which it has dispatched.
    obtain ⟨dispatch, member, same⟩ := List.mem_map.mp clash
    have passed := logged.passed dispatch member
    obtain ⟨now, here⟩ := Prod.mk.inj same
    rcases passed with earlier | ⟨-, behind⟩
    · exact absurd now earlier.ne
    · exact absurd here behind.ne

theorem Logged.step (logged : Logged getHash physical router) (step : RouterStep) :
    Logged getHash physical (router.step getHash physical step) := by
  cases step with
  | receive route frame =>
    rcases onFrameReceived_cases router route frame with same | ⟨-, -, -, same⟩
    · rwa [CanFrameRouter.step, same]
    · rw [CanFrameRouter.step, same]
      exact logged.carry rfl rfl (.inr ⟨rfl, le_rfl⟩)
  | submit route accepts =>
    simp only [CanFrameRouter.step, submitWork]
    split
    · exact logged.carry rfl rfl (.inr ⟨rfl, le_rfl⟩)
    · exact logged
  | startWork =>
    simp only [CanFrameRouter.step, startWork]
    split
    · exact logged.carry rfl rfl (.inl (Nat.lt_succ_self _))
    · exact logged
  | takeFrame =>
    rcases takeFrame_cases router with
      same | ⟨-, -, ⟨-, same⟩ | ⟨-, ⟨-, same⟩ | ⟨received, -, same⟩⟩⟩
    · rwa [CanFrameRouter.step, same]
    · rw [CanFrameRouter.step, same]
      exact logged.carry rfl rfl (.inr ⟨rfl, le_rfl⟩)
    · rw [CanFrameRouter.step, same]
      exact logged.carry rfl rfl (.inr ⟨rfl, Nat.le_succ _⟩)
    · rw [CanFrameRouter.step, same]
      exact logged.carry rfl rfl (.inr ⟨rfl, le_rfl⟩)
  | dispatchFrame currentTime => exact logged.dispatchFrame currentTime

/-! ### The newest frame -/

/-- A frame waits only where the work item is queued, a handler is about to queue it, or the run has
not passed the route. -/
def Promised (router : CanFrameRouter) : Prop :=
  ∀ route, (router.states route).frame ≠ none →
    router.work.isQueued = true ∨ (router.states route).isSubmitting = true ∨ router.IsAhead route

theorem Promised.onFrameReceived (promised : Promised router) (route : ℕ) (frame : CanFrame) :
    Promised (router.onFrameReceived route frame) := by
  rcases onFrameReceived_cases router route frame with same | ⟨-, -, -, same⟩
  · rwa [same]
  rw [same]
  intro other
  by_cases here : other = route
  · rw [here, states_setState_self]
    exact fun _ => .inr (.inl rfl)
  · rw [states_setState_of_ne here]
    exact promised other

/-- A submission that the queue accepts keeps the promise of its handler. -/
theorem Promised.submitWork (promised : Promised router) (calm : router.work.isCanceling = false)
    (route : ℕ) : Promised (router.submitWork route true) := by
  unfold CanFrameRouter.submitWork
  dsimp only
  split
  case isTrue =>
    have queued : (router.work.submit true).isQueued = true := by simp [WorkItem.submit, calm]
    exact fun _ _ => .inl queued
  case isFalse => exact promised

/-- A new run has every route ahead of it. -/
theorem Promised.startWork (promised : Promised router) (sound : Sound router) :
    Promised router.startWork := by
  unfold CanFrameRouter.startWork
  split
  case isFalse => exact promised
  case isTrue starts =>
    obtain ⟨queued, idle⟩ : router.work.isQueued = true ∧ router.work.isRunning = false := by
      simpa using starts
    have free : router.inFlight = none := by
      by_contra taken
      rw [(sound.busy taken).1] at idle
      cases idle
    intro route _
    refine .inr (.inr ⟨by simp [WorkItem.start, queued, idle], ?_⟩)
    rcases Nat.eq_zero_or_pos route with first | later
    · exact .inr ⟨first.symm, free⟩
    · exact .inl later

/-- Once the run is past a place, a route ahead of it is ahead of the next place. -/
private theorem ahead_succ {position route : ℕ} (later : position < route) {isFree : Prop}
    (free : isFree) : position + 1 < route ∨ position + 1 = route ∧ isFree := by
  rcases Nat.lt_or_eq_of_le (Nat.succ_le_of_lt later) with beyond | next
  · exact .inl beyond
  · exact .inr ⟨next, free⟩

theorem Promised.takeFrame (promised : Promised router) (sound : Sound router) :
    Promised router.takeFrame := by
  rcases takeFrame_cases router with same | ⟨running, free, ⟨beyond, same⟩ | ⟨-, ⟨found, same⟩ |
    ⟨received, -, same⟩⟩⟩
  · rwa [same]
  · rw [same]
    -- The run ends behind the last route, so it has nothing ahead that waits.
    intro route waits
    rcases promised route waits with queued | submitting | ⟨-, ahead⟩
    · exact .inl queued
    · exact .inr (.inl submitting)
    · have inside := sound.inside route waits
      omega
  · rw [same]
    intro route waits
    rcases promised route waits with queued | submitting | ⟨-, ahead⟩
    · exact .inl queued
    · exact .inr (.inl submitting)
    · have other : router.position ≠ route := by
        intro here
        rw [← here] at waits
        exact waits found
      have later := ahead.resolve_right fun here => other here.1
      exact .inr (.inr ⟨running, ahead_succ later free⟩)
  · rw [same]
    intro route
    let state : RouteState := { router.states router.position with frame := none }
    change ((router.setState router.position state).states route).frame ≠ none → _ ∨
      ((router.setState router.position state).states route).isSubmitting = true ∨ _
    by_cases here : route = router.position
    · rw [here, states_setState_self]
      exact fun waits => absurd rfl waits
    · rw [states_setState_of_ne here]
      intro waits
      rcases promised route waits with queued | submitting | ⟨-, ahead⟩
      · exact .inl queued
      · exact .inr (.inl submitting)
      · have later := ahead.resolve_right fun there => here there.1.symm
        exact .inr (.inr ⟨running, .inl later⟩)

theorem Promised.dispatchFrame (promised : Promised router) (currentTime : ℕ → ℤ) :
    Promised (router.dispatchFrame getHash physical currentTime) := by
  rcases dispatchFrame_cases getHash physical router currentTime with
    same | ⟨received, route, taken, -, same⟩
  · rwa [same]
  rw [same]
  intro other waits
  rcases promised other waits with queued | submitting | ⟨running, ahead⟩
  · exact .inl queued
  · exact .inr (.inl submitting)
  · have later := ahead.resolve_right fun here => by
      rw [here.2] at taken
      cases taken
    exact .inr (.inr ⟨running, ahead_succ later rfl⟩)

/-- A step that is no refused submission keeps the promise. -/
theorem Promised.step (promised : Promised router) (sound : Sound router) {step : RouterStep}
    (accepted : ∀ route, step ≠ .submit route false) :
    Promised (router.step getHash physical step) := by
  cases step with
  | receive route frame => exact promised.onFrameReceived route frame
  | submit route accepts =>
    cases accepts with
    | false => exact absurd rfl (accepted route)
    | true => exact promised.submitWork sound.calm route
  | startWork => exact promised.startWork sound
  | takeFrame => exact promised.takeFrame sound
  | dispatchFrame currentTime => exact promised.dispatchFrame currentTime

/-! ### Whole runs -/

variable (getHash physical)

theorem step_routes (router : CanFrameRouter) (step : RouterStep) :
    (router.step getHash physical step).routes = router.routes := by
  cases step with
  | receive route frame =>
    rcases onFrameReceived_cases router route frame with same | ⟨-, -, -, same⟩ <;>
      rw [CanFrameRouter.step, same]
    rfl
  | submit route accepts =>
    simp only [CanFrameRouter.step, submitWork]
    split <;> rfl
  | startWork =>
    simp only [CanFrameRouter.step, startWork]
    split <;> rfl
  | takeFrame =>
    rcases takeFrame_cases router with
      same | ⟨-, -, ⟨-, same⟩ | ⟨-, ⟨-, same⟩ | ⟨received, -, same⟩⟩⟩ <;>
      rw [CanFrameRouter.step, same]
    rfl
  | dispatchFrame currentTime =>
    rcases dispatchFrame_cases getHash physical router currentTime with
      same | ⟨received, route, -, -, same⟩ <;> rw [CanFrameRouter.step, same]

/-- A frame that was dispatched was received on its route. -/
theorem Sound.mem_received (sound : Sound router) {dispatch : FrameDispatch}
    (member : dispatch ∈ router.dispatches) :
    dispatch.received.frame ∈ (router.states dispatch.route).received := by
  have dispatched : dispatch.received ∈ router.dispatched dispatch.route :=
    List.mem_map_of_mem (List.mem_filter.mpr ⟨member, decide_eq_true rfl⟩)
  have kept : dispatch.received ∈ router.kept dispatch.route :=
    List.mem_append_left _ (List.mem_append_left _ dispatched)
  exact frame_mem_of_mem_numbered ((sound.order _).subset kept)

/-- The frames dispatched on a route are some of those received, in their order. -/
theorem Sound.dispatched_sublist (sound : Sound router) (route : ℕ) :
    (router.dispatched route).Sublist (router.states route).numbered := by
  have kept : (router.dispatched route).Sublist (router.kept route) :=
    (List.sublist_append_left _ _).trans (List.sublist_append_left _ _)
  exact kept.trans (sound.order route)

/-- A router that is at rest has dispatched the newest frame of every route whose handlers have
returned. -/
theorem Promised.newest (promised : Promised router) (sound : Sound router)
    (unqueued : router.work.isQueued = false) (idle : router.work.isRunning = false) (route : ℕ)
    (returned : (router.states route).isSubmitting = false) :
    (router.dispatched route).getLast? = (router.states route).numbered.getLast? := by
  have waits : (router.states route).frame = none := by
    by_contra waits
    rcases promised route waits with queued | submitting | ⟨running, -⟩
    · rw [unqueued] at queued
      cases queued
    · rw [returned] at submitting
      cases submitting
    · rw [idle] at running
      cases running
  have free : router.inFlight = none := by
    by_contra taken
    rw [(sound.busy taken).1] at idle
    cases idle
  rw [← sound.newest route]
  simp [kept, dispatching, waits, free]

/-- What the router guarantees of a generation at every moment of every run. There is one route for
each bus and frame ID, with the sensors of its own bus and frame ID. What was dispatched is a frame
received on the route that is not empty, and made one reading for each sensor of the route; no run
dispatched twice on a route. The frames dispatched on a route are some of those received, in their
order and none twice. If the queue took every submission, then whenever the work item is neither
queued nor running, the newest frame of every route has been dispatched, unless its handler has not
returned yet. -/
theorem routing_guarantees (configuration : CanbusConfiguration) (register : CanRoute → Bool)
    (generation : List CanRuntime) (steps : List RouterStep) :
    let attached := (attach getHash configuration register generation).1
    let router := run (CanFrameRouter.step getHash physical) attached steps
    let resolve := resolveSignal getHash configuration
    ((router.routes.map CanRoute.key).Nodup ∧
      (∀ route ∈ router.routes, route.bindings ≠ [] ∧
        route.bindings = generation.zipIdx.filterMap
          (CanRouteTable.bindingAt getHash resolve route.key)) ∧
      ∀ entry ∈ generation.zipIdx, ∀ key binding,
        CanRouteTable.binding? getHash resolve entry.1 entry.2 = some (key, binding) →
          ∃ route ∈ router.routes, route.key = key ∧ binding ∈ route.bindings) ∧
      (∀ dispatch ∈ router.dispatches, ∃ route currentTime,
        router.routes[dispatch.route]? = some route ∧
          dispatch.received.frame ∈ (router.states dispatch.route).received ∧
          dispatch.received.frame.data ≠ [] ∧
          dispatch.readings.map CanReading.runtime =
            route.bindings.map CanSignalBinding.runtime ∧
          dispatch.readings =
            CanRouteTable.dispatch getHash physical route dispatch.received.frame currentTime) ∧
      (router.dispatches.map fun dispatch => (dispatch.run, dispatch.route)).Nodup ∧
      (∀ route, (router.dispatched route).Sublist (router.states route).numbered ∧
        (router.dispatched route).Nodup) ∧
      ((∀ route, RouterStep.submit route false ∉ steps) →
        router.work.isQueued = false → router.work.isRunning = false →
          ∀ route, (router.states route).isSubmitting = false →
            (router.dispatched route).getLast? = (router.states route).numbered.getLast?) := by
  intro attached router resolve
  have sound : Sound router := run_invariant (.attach configuration register generation)
    (fun router step sound => sound.step step) steps
  have logged : Logged getHash physical router :=
    run_invariant (.attach configuration register generation)
      (fun router step logged => logged.step step) steps
  have routes : router.routes = attached.routes := by
    have start : attached.routes = attached.routes := rfl
    exact run_invariant (I := fun router => router.routes = attached.routes) start
      (fun router step same => (step_routes getHash physical router step).trans same) steps
  refine ⟨?_, fun dispatch member => ?_, logged.once, fun route => ?_,
    fun accepted unqueued idle route returned => ?_⟩
  · rw [routes]
    exact CanRouteTable.build_routes getHash resolve generation
  · obtain ⟨route, currentTime, found, readings⟩ := logged.made dispatch member
    have received := sound.mem_received member
    have some_data := sound.some_data _ _ received
    refine ⟨route, currentTime, found, received, some_data, ?_, readings⟩
    rw [readings]
    exact CanRouteTable.map_runtime_dispatch getHash physical route some_data currentTime
  · have order := sound.dispatched_sublist route
    exact ⟨order, order.nodup (numbered_nodup _)⟩
  -- The last part needs that no submission was refused, so it has an invariant of its own along
  -- such runs.
  · have along : Along (CanFrameRouter.step getHash physical)
        (fun _ step => ∀ route, step ≠ .submit route false) attached steps :=
      along_of_forall_mem fun step member route same => accepted route (same ▸ member)
    have start : Sound attached ∧ Promised attached :=
      ⟨.attach configuration register generation, fun route waits => absurd rfl waits⟩
    have both := along.always (I := fun router => Sound router ∧ Promised router) start
      fun router step sound accepted => ⟨sound.1.step step, sound.2.step sound.1 accepted⟩
    exact both.last.2.newest sound unqueued idle route returned

end CanFrameRouter

end RtCore.Sensors
