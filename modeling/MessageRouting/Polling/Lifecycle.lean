import MessageRouting.Timeline

/-!
# Starting and stopping a polling consumer

A consumer that was started polls in the background, first after its initial
delay and then at its interval, until it is stopped. It counts as running from
the start to the stop, even if its task in the background has ended.
-/

namespace MessageRouting

/-- A polling consumer, whether it was started and not stopped since, and its task in the
background. The number of the task stands for its handle and for the sender of its shutdown: a start
stores both, and a stop takes both. -/
structure ConsumerState where
  consumer : PollingConsumer
  isRunning : Bool := false
  task : Option Nat := none

namespace ConsumerState

def start (state : ConsumerState) (timeline : Timeline) :
    Except Failure (ConsumerState × Timeline) :=
  if state.isRunning then
    .error (.lifecycle ("consumer for " ++ state.consumer.uri ++ " is already running"))
  else
    let (task, timeline) := timeline.start (.startConsumer state.consumer)
    .ok ({ state with isRunning := true, task := some task }, timeline)

/-- Stops a consumer and waits until it has stopped. Its shutdown loses the given number of selects
against a tick that is ready. -/
def stop (state : ConsumerState) (lost : Nat) (timeline : Timeline) : ConsumerState × Timeline :=
  ({ state with isRunning := false, task := none },
    match state.task with
    | some task => timeline.stop task lost
    | none => timeline)

end ConsumerState

end MessageRouting
