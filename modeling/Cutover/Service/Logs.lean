/-
**Logs of a service.**

Events are read from a moment on, over all pages and in the order of time.  Before a log can be
followed its streams have to exist; streams that are not there yet are asked for again and again,
for a while.

Main definitions:

* `Cutover.Service.formatEvent` — the line that shows an event;
* `Cutover.Service.eventsSince` — events from a moment on;
* `Cutover.Service.awaitStreams` — the wait for streams.
-/
import Cutover.Cloud.Listing
import Cutover.Cloud.Poll
import Cutover.Text.Blank
import Cutover.Text.Sorted
import Cutover.Time.Calendar

set_option autoImplicit false

namespace Cutover.Service

variable {σ : Type}

/-- The line that shows an event: its stream, its time, and its text without the blank end. -/
def formatEvent (e : LogEvent) : String :=
  "[" ++ e.stream ++ "] [" ++ (Time.text? e.timestamp).getD (toString e.timestamp) ++ "] " ++
    Text.trimEnd e.message

/-- The events of a listing that are not older than a moment, in the order of time; events of one
moment keep their order. -/
def sinceInOrder (start : Int) (events : List LogEvent) : List LogEvent :=
  (events.filter (fun e => start ≤ e.timestamp)).mergeSort (fun a b => a.timestamp ≤ b.timestamp)

/-- The events of streams from a moment on, in the order of time. -/
def eventsSince (group : String) (streams : List String) (start : Int) :
    Run σ (List LogEvent) := do
  let events ← Run.listAll (fun token => Run.call (.filterLogEvents group streams start token))
  return sinceInOrder start events

/-! ### Streams -/

/-- The error code for a group or stream that is not there. -/
def notFoundCode : String := "ResourceNotFoundException"

/-- The seconds for which streams are waited for. -/
def streamTimeout : Nat := 300

/-- Whether a stream is there.  A group that is not there has no streams yet. -/
def isStreamPresent (group stream : String) : Run σ Bool := do
  match ← Run.attempt (Run.call (.describeLogStreams group stream 1)) with
  | .ok found =>
    let names : List String := found
    return names.contains stream
  | .error e => if e.code? = some notFoundCode then return false else Run.fail e

/-- The streams that are not there, in their order. -/
def missingStreams (group : String) : List String → Run σ (List String)
  | [] => return []
  | stream :: rest => do
    let present ← isStreamPresent group stream
    let missing ← missingStreams group rest
    return if present then missing else stream :: missing

/-- One pass over the streams that were missing so far. -/
def streamPass (group : String) (missing : List String) :
    Run σ (Attempt Unit (List String)) := do
  let left ← missingStreams group missing
  return if left.isEmpty then .done () else .again left

/-- The wait until every stream is there. -/
def awaitStreams (group : String) (streams : List String) : Run σ Unit := do
  match ← Run.poll (.withTimeout streamTimeout) (Text.sortedSet streams) (streamPass group) with
  | .done () => return ()
  | .timedOut missing waited => Run.fail (.logStreamsTimeout group missing waited)

end Cutover.Service
