import MessageRouting.Polling.Lifecycle
import MessageRouting.Route.Basic

/-!
# Starting and stopping a route

A route that is fed from an endpoint starts a consumer of that endpoint. A route
that is fed from nowhere has nothing to start.
-/

namespace MessageRouting

structure RouteState where
  route : Route
  consumer : Option ConsumerState := none

namespace RouteState

def isStarted (state : RouteState) : Bool :=
  state.consumer.any ConsumerState.isRunning

def start (state : RouteState) (timeline : Timeline) : Except Failure (RouteState × Timeline) :=
  match state.route.source, state.consumer with
  | none, _ => .ok (state, timeline)
  | some _, some _ => .error (.lifecycle ("route " ++ state.route.id ++ " is already started"))
  | some uri, none => do
      let broker := timeline.broker
      let endpoint ← broker.endpoint uri
      let consumer ← endpoint.consumer uri state.route.processor broker.claims.next
      let timeline :=
        { timeline with broker := { broker with claims := broker.claims.add [] } }
      let (consumer, timeline) ← ConsumerState.start { consumer := consumer } timeline
      return ({ state with consumer := some consumer }, timeline)

def stop (state : RouteState) (lost : Nat) (timeline : Timeline) : RouteState × Timeline :=
  match state.consumer with
  | some consumer => ({ state with consumer := none }, (consumer.stop lost timeline).2)
  | none => (state, timeline)

end RouteState

end MessageRouting
