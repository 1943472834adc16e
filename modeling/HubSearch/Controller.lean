/-
The work on one Search in a cluster: a reconcile makes a pass and publishes its notices, and a cleanup
makes way for the deletion of the Search. Either says when the Search is to be looked at again.
-/
import HubSearch.Cluster.Client
import HubSearch.Cluster.Event

namespace HubSearch

/-- When a Search is looked at again. -/
inductive NextLook where
  | after (d : Duration)
  /-- Once it changes. -/
  | onChange
  deriving DecidableEq

/-- What the operator tells about itself. -/
structure Diagnostics where
  /-- When it last began to work on a Search. -/
  lastEvent : Timestamp
  deriving DecidableEq, Inhabited

instance : Encode Diagnostics where
  encode d := .record [("last_event", always d.lastEvent)]

/-- The clock, at each of its readings in the work on a Search. -/
structure Clock where
  /-- When the condition of a feature is made. -/
  condition : Feature → Timestamp
  /-- When a notice is published, the notices being counted from zero. -/
  notice : Nat → Timestamp

/-- A clock that stands still. -/
def Clock.stopped (now : Timestamp) : Clock := ⟨fun _ => now, fun _ => now⟩

namespace Controller

variable {σ : Type}

/-- Make a pass over a Search and publish its notices. -/
def reconcile (exchange : Exchange σ) (search : Search) (config : OperatorConfig) (clock : Clock)
    (recorder : Recorder) (s : σ) : Except OperatorError NextLook × Recorder × σ :=
  match Pass.new? search config clock.condition with
  | .error e => (.error e, recorder, s)
  | .ok p =>
    let ((notices, result), s) := p.apply.run (StoreCall.answer exchange) s
    let state := Recorder.publishAll exchange search clock.notice notices (recorder, s)
    (result.map fun _ => .after config.requeueInterval, state)

/-- The notice that a Search is being deleted. -/
def deletionNotice (search : Search) : Notice where
  reason := "DeleteRequested"
  action := "Deleting"
  note := "Delete `" ++ search.metadata.anyName ++ "`"

/-- Publish that the Search is being deleted, and remove what does not go with it. -/
def cleanup (exchange : Exchange σ) (search : Search) (config : OperatorConfig) (clock : Clock)
    (recorder : Recorder) (s : σ) : Except OperatorError NextLook × Recorder × σ :=
  let (recorder, s) := Recorder.publish exchange search (clock.notice 0) (recorder, s) (deletionNotice search)
  match Pass.new? search config clock.condition with
  | .error e => (.error e, recorder, s)
  | .ok p =>
    let (result, s) := p.cleanup.run (StoreCall.answer exchange) s
    (result.map fun _ => .onChange, recorder, s)

end Controller

end HubSearch
