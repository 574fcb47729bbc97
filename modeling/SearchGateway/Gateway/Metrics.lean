import SearchGateway.Registry.Policy
import SearchGateway.Routing.Route

/-!
# Metrics

The gateway keeps an account of what became of its requests. A counter of the exposition is the
number of events with one set of labels.
-/

namespace SearchGateway.Gateway

open Routing (Action Dialect)
open Security (Operation)

/-- Why a caller was turned away. -/
inductive DenialKind where
  | unauthenticated
  | forbidden
deriving DecidableEq, Repr

def DenialKind.label : DenialKind → String
  | .unauthenticated => "unauthenticated"
  | .forbidden => "forbidden"

/-- What became of a target expression. -/
inductive Resolution where
  | resolved
  | empty
  | rejected
deriving DecidableEq, Repr

def Resolution.label : Resolution → String
  | .resolved => "resolved"
  | .empty => "empty"
  | .rejected => "rejected"

/-- Something that is counted. -/
inductive Event where
  | dispatched (action : Action) (dialect : Dialect) (status : Nat)
  | denied (operation : Operation) (kind : DenialKind)
  | target (policy : Registry.Policy) (resolution : Resolution)
  | refused (type : String)
  | unmatched (method : String)
deriving DecidableEq, Repr

/-- The name of a metric with its labels. -/
def sample (name : String) (labels : List (String × String)) : String :=
  let shown := labels.map fun label => s!"{label.1}=\"{label.2}\""
  name ++ "\x7b" ++ ",".intercalate shown ++ "\x7d"

namespace Event

/-- The counter that an event goes to. -/
def counter : Event → String
  | .dispatched action dialect status =>
    sample "sift_dispatch_total"
      [("action", action.token), ("dialect", dialect.token), ("status", toString status)]
  | .denied operation kind =>
    sample "sift_auth_denied_total" [("operation", operation.token), ("reason", kind.label)]
  | .target policy resolution =>
    sample "sift_alias_resolution_total"
      [("policy", policy.token), ("outcome", resolution.label)]
  | .refused type => sample "sift_compat_rejected_total" [("error_type", type)]
  | .unmatched method => sample "sift_unmatched_total" [("method", method)]

/-- The summary that an event adds a duration to. -/
def timer? : Event → Option String
  | .dispatched action dialect _ =>
    some (sample "sift_dispatch_duration_seconds_count"
      [("action", action.token), ("dialect", dialect.token)])
  | _ => none

/-- The metrics that an event belongs to, each with its type and what it counts. -/
def families : Event → List (String × String × String)
  | .dispatched _ _ _ => [
    ("sift_dispatch_total", "counter", "Requests that reached an operation handler"),
    ("sift_dispatch_duration_seconds", "summary",
      "Handler latency as seen by the dispatch layer")]
  | .denied _ _ => [
    ("sift_auth_denied_total", "counter", "Requests rejected by authorization")]
  | .target _ _ => [
    ("sift_alias_resolution_total", "counter",
      "Target expressions resolved on compatibility routes")]
  | .refused _ => [
    ("sift_compat_rejected_total", "counter", "Compatibility requests rejected before dispatch")]
  | .unmatched _ => [
    ("sift_unmatched_total", "counter", "Requests no route matched")]

end Event

/-- Every text of a list with the number of its occurrences. -/
def tally (l : List String) : List (String × Nat) :=
  l.eraseDups.map fun text => (text, l.count text)

def sortTexts (l : List String) : List String :=
  l.mergeSort fun a b => decide (a ≤ b)

/-- The lines with the values of the counters, in order. -/
def sampleLines (log : List Event) : List String :=
  sortTexts ((tally (log.map Event.counter ++ log.filterMap Event.timer?)).map
    fun entry => s!"{entry.1} {entry.2}")

/-- The lines that describe the metrics that have a value. -/
def describingLines (log : List Event) : List String :=
  sortTexts <| (log.flatMap Event.families).eraseDups.flatMap fun (name, type, help) =>
    [s!"# HELP {name} {help}", s!"# TYPE {name} {type}"]

def exposition (log : List Event) : String :=
  String.join ((describingLines log ++ sampleLines log).map (· ++ "\n"))

end SearchGateway.Gateway
