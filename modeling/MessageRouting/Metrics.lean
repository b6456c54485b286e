import MessageRouting.Duration
import MessageRouting.Text.Numeral

/-!
# Metrics

Counters of what happens to exchanges, and the latencies of the last ones.
Counters are 64-bit and stop at their largest value.
-/

namespace MessageRouting

/-- Latencies in milliseconds at three quantiles, and the largest one. -/
structure LatencySummary where
  p50 : Binary64 := .ofNat 0
  p95 : Binary64 := .ofNat 0
  p99 : Binary64 := .ofNat 0
  maximum : Binary64 := .ofNat 0
deriving DecidableEq, Repr, Inhabited

structure Counters where
  exchanges : Nat := 0
  failures : Nat := 0
  redeliveries : Nat := 0
  exhausted : Nat := 0
  deadLettered : Nat := 0
  handled : Nat := 0
  duplicates : Nat := 0
  latency : LatencySummary := {}
deriving DecidableEq, Repr, Inhabited

/-- Counters with the window of the last latencies in milliseconds, oldest first. -/
structure Metrics where
  counters : Counters := {}
  samples : List Nat := []
  maximumSamples : Nat := 1000
deriving DecidableEq, Repr, Inhabited

/-- One more, up to the largest 64-bit number. -/
def countUp (n : Nat) : Nat :=
  min (n + 1) Text.maxU64

namespace Metrics

/-- Counts an exchange that went through a route. -/
def recordExchange (metrics : Metrics) (failed : Bool) : Metrics :=
  { metrics with counters :=
      { metrics.counters with
        exchanges := countUp metrics.counters.exchanges
        failures :=
          if failed then countUp metrics.counters.failures else metrics.counters.failures } }

def recordRedelivery (metrics : Metrics) : Metrics :=
  { metrics with counters :=
      { metrics.counters with redeliveries := countUp metrics.counters.redeliveries } }

/-- Counts an exchange whose redeliveries ran out. -/
def recordExhausted (metrics : Metrics) : Metrics :=
  { metrics with counters :=
      { metrics.counters with exhausted := countUp metrics.counters.exhausted } }

def recordDeadLettered (metrics : Metrics) : Metrics :=
  { metrics with counters :=
      { metrics.counters with deadLettered := countUp metrics.counters.deadLettered } }

def recordHandled (metrics : Metrics) : Metrics :=
  { metrics with counters :=
      { metrics.counters with handled := countUp metrics.counters.handled } }

def recordDuplicate (metrics : Metrics) : Metrics :=
  { metrics with counters :=
      { metrics.counters with duplicates := countUp metrics.counters.duplicates } }

/-- The sample at a quantile of a sorted list: the one whose place is the list's length times the
quantile, cut to a whole number and to the last place. -/
def atQuantile (sorted : List Nat) (quantile : Binary64) : Binary64 :=
  let place := ((Binary64.ofNat sorted.length).mul quantile).toRat.floor.toNat
  .ofNat (sorted.getD (min place (sorted.length - 1)) 0)

/-- The summary of some latencies; none if there are none. -/
def summarize? (samples : List Nat) : Option LatencySummary :=
  let sorted := samples.mergeSort
  sorted.getLast?.map fun maximum =>
    { p50 := atQuantile sorted (.ofRat (mkRat 1 2))
      p95 := atQuantile sorted (.ofRat (mkRat 95 100))
      p99 := atQuantile sorted (.ofRat (mkRat 99 100))
      maximum := .ofNat maximum }

/-- Adds a latency to the window and sums the window up. -/
def recordLatency (metrics : Metrics) (latency : Duration) : Metrics :=
  let samples := metrics.samples ++ [min latency.millis Text.maxU64]
  let kept := samples.drop (samples.length - metrics.maximumSamples)
  { metrics with
    samples := kept
    counters :=
      match summarize? kept with
      | some summary => { metrics.counters with latency := summary }
      | none => metrics.counters }

/-- Everything back to zero; the size of the window stays. -/
def reset (metrics : Metrics) : Metrics :=
  { maximumSamples := metrics.maximumSamples }

end Metrics

end MessageRouting
