/-
Conditions: one entry per type, with a status, a reason, and the instant at which the status last
changed. Main operations: `upsert` keeps that instant while the status stays, `remove` drops a type.
-/
import HubSearch.Timestamp

namespace HubSearch

/-- The three values of a status. -/
inductive ConditionStatus where
  | true
  | false
  | unknown
  deriving DecidableEq, Inhabited

namespace ConditionStatus

/-- The word for a status. -/
def word : ConditionStatus → String
  | .true => "True"
  | .false => "False"
  | .unknown => "Unknown"

/-- All statuses. -/
def all : List ConditionStatus := [.true, .false, .unknown]

/-- The status of a truth value. -/
def ofBool (b : Bool) : ConditionStatus := if b then .true else .false

end ConditionStatus

/-- A condition. -/
structure Condition where
  type : String
  status : String
  reason : String
  message : String
  /-- The generation of the object that the condition was seen at. -/
  observedGeneration : Option Int64
  /-- When the status last changed. -/
  lastTransitionTime : Timestamp
  deriving DecidableEq, Inhabited

instance : Encode Condition where
  encode c := .record [
    ("lastTransitionTime", always c.lastTransitionTime),
    ("message", always c.message),
    ("observedGeneration", whenSome c.observedGeneration),
    ("reason", always c.reason),
    ("status", always c.status),
    ("type", always c.type)]

instance : Decode Condition := .record "Condition" <|
  Condition.mk <$> .defaulted "type" ""
    <*> .defaulted "status" ""
    <*> .defaulted "reason" ""
    <*> .defaulted "message" ""
    <*> .optional "observedGeneration"
    <*> .required "lastTransitionTime"

namespace Condition

/-- A condition that takes its status at the instant `now`. -/
def new (now : Timestamp) (type : String) (status : ConditionStatus) (reason message : String)
    (generation : Int64) : Condition :=
  ⟨type, status.word, reason, message, some generation, now⟩

/-- Whether two conditions agree in everything but type and instant. -/
def agrees (a b : Condition) : Bool :=
  a.status = b.status && a.reason = b.reason && a.message = b.message &&
    a.observedGeneration = b.observedGeneration

/-- What becomes of a condition when a new one of its type comes in: the new one, with the old instant
while the status stays the same. -/
def replacedBy (old new : Condition) : Condition :=
  { new with
    lastTransitionTime := if old.status = new.status then old.lastTransitionTime else new.lastTransitionTime }

/-- The first condition of a type. -/
def find? (type : String) (cs : List Condition) : Option Condition := cs.find? (·.type = type)

/-- Put a condition in the place of the first one of its type, or at the end; `none` when that one
agrees already. -/
def upsert? (new : Condition) : List Condition → Option (List Condition)
  | [] => some [new]
  | c :: rest =>
    if c.type = new.type then
      if c.agrees new then none else some (c.replacedBy new :: rest)
    else (upsert? new rest).map (c :: ·)

/-- The conditions after `upsert?`. -/
def upsert (new : Condition) (cs : List Condition) : List Condition := (upsert? new cs).getD cs

/-- The conditions without those of a type. -/
def remove (type : String) (cs : List Condition) : List Condition := cs.filter (·.type ≠ type)

end Condition

end HubSearch
