/-
The stores of a cluster kept in memory. Names are unique in a store; each write gives the object the
next version of its store, and a write that carries an older version is refused. Writes can be made to
fail, by name, by store or by namespace. All calls are logged. Main statements: what a store holds after
another one was set, and that a call never changes another store than its own.
-/
import HubSearch.Json.Patch
import HubSearch.Store.Call

namespace HubSearch

/-! ## One store -/

/-- The objects of one store. -/
structure Store (k : Kind) where
  objects : Dict k.Object := .empty
  /-- The number of writes so far, which is the version of the last one. -/
  version : Nat := 0
  /-- Whether every write fails. -/
  failsAll : Bool := false
  /-- The names whose writes fail. -/
  failsFor : List String := []

namespace Store

variable {k : Kind}

instance : Inhabited (Store k) := ⟨{}⟩

/-- The version of an object. -/
def versionOf (o : k.Object) : Option String := (k.metadata o).resourceVersion

/-- An object as it is stored at a version. -/
def stamped (version : Nat) (o : k.Object) : k.Object :=
  k.withMetadata o ((k.metadata o).withVersion (toString version))

/-- Store an object under a name, as the next version. -/
def put (s : Store k) (name : String) (o : k.Object) : k.Object × Store k :=
  let stored := stamped (s.version + 1) o
  (stored, { s with objects := s.objects.insert name stored, version := s.version + 1 })

/-- Place an object, whatever is there. -/
def seed (s : Store k) (o : k.Object) : Store k := (s.put ((k.metadata o).name.getD "") o).2

/-- How messages call an object of the store. -/
def describe (k : Kind) (name : String) : String := k.api.kind ++ " `" ++ name ++ "`"

/-- The failure of a write to an object that is not there. -/
def absent (k : Kind) (name : String) : OperatorError := .other (describe k name ++ " not found")

/-- Store an object whose name must be free. -/
def insert (s : Store k) (name : String) (o : k.Object) : Except OperatorError (k.Object × Store k) :=
  if s.objects.contains name then .error (.other (describe k name ++ " already exists"))
  else .ok (s.put name o)

/-- Replace an object; the version that the new one carries, if any, must be that of the old one. -/
def update (s : Store k) (name : String) (o : k.Object) : Except OperatorError (k.Object × Store k) :=
  match s.objects.get? name with
  | none => .error (absent k name)
  | some live =>
    if versionOf o ≠ none ∧ versionOf o ≠ versionOf live then .error (.conflict (describe k name))
    else .ok (s.put name o)

/-- Remove an object, and whether there was one. -/
def remove (s : Store k) (name : String) : Bool × Store k :=
  (s.objects.contains name, { s with objects := s.objects.erase name })

/-- An object with a status merged into its written form. -/
def withStatus? (o : k.Object) (status : Json) : Except OperatorError k.Object :=
  match k.flat? o with
  | none => .error (.serialization (.ofMessage "the object has no written form"))
  | some flat =>
    match k.ofFlat? (.ofJson (flat.merge (.object [("status", status)]))) with
    | none => .error (.serialization (.ofMessage "the object cannot be read with this status"))
    | some merged => .ok merged

/-- Merge a status into an object, which must have the version asked for, if any is. -/
def writeStatus (s : Store k) (name : String) (version : Option String) (status : Json) :
    Except OperatorError (k.Object × Store k) :=
  match s.objects.get? name with
  | none => .error (absent k name)
  | some live =>
    if version ≠ none ∧ versionOf live ≠ version then .error (.conflict ("status of " ++ describe k name))
    else (withStatus? live status).map (s.put name)

end Store

/-! ## All stores -/

/-- All stores of a cluster. -/
structure World where
  store : (r : StoreRef) → Store r.kind := fun _ => {}
  /-- The namespaces in which every write fails. -/
  failing : List String := []
  /-- The calls so far, the latest last. A write of an object without a name is no call. -/
  log : List StoreCall := []

namespace World

instance : Inhabited World := ⟨{}⟩

/-- The stores with one of them replaced. -/
def set (w : World) (r : StoreRef) (s : Store r.kind) : World :=
  { w with store := fun r' => if h : r' = r then h ▸ s else w.store r' }

@[simp]
theorem store_set_self (w : World) (r : StoreRef) (s : Store r.kind) : (w.set r s).store r = s := by
  simp [set]

theorem store_set_of_ne (w : World) {r r' : StoreRef} (s : Store r.kind) (h : r' ≠ r) :
    (w.set r s).store r' = w.store r' := by
  simp [set, h]

/-- Place an object without a call. -/
def seed (w : World) (r : StoreRef) (o : r.kind.Object) : World := w.set r ((w.store r).seed o)

/-- Make every later write into a store fail. -/
def failWrites (w : World) (r : StoreRef) : World := w.set r { w.store r with failsAll := true }

/-- Make every later write of a name into a store fail. -/
def failName (w : World) (r : StoreRef) (name : String) : World :=
  w.set r { w.store r with failsFor := name :: (w.store r).failsFor }

/-- Make every later write into a namespace fail, for every kind. -/
def failNamespace (w : World) (namespaceName : String) : World :=
  { w with failing := namespaceName :: w.failing }

/-- Whether a write of a name into a store is made to fail. -/
def blocks (w : World) (r : StoreRef) (name : String) : Bool :=
  (w.store r).failsAll || (w.store r).failsFor.contains name || r.inNamespace.any fun ns => w.failing.contains ns

/-- The stores with one more call in the log. -/
def logged (w : World) (c : StoreCall) : World := { w with log := w.log ++ [c] }

/-- Write to a store, unless the write is made to fail. What fails changes nothing. -/
def write {β : Type} (w : World) (r : StoreRef) (name : String)
    (act : Store r.kind → Except OperatorError (β × Store r.kind)) : Except OperatorError β × World :=
  if w.blocks r name then
    (.error (.other ("injected failure writing " ++ Store.describe r.kind name)), w)
  else
    match act (w.store r) with
    | .error e => (.error e, w)
    | .ok (b, s) => (.ok b, w.set r s)

/-- Write an object under its name, which it must have. -/
def writeNamed (w : World) (r : StoreRef) (c : StoreCall) (o : r.kind.Object)
    (act : Store r.kind → String → Except OperatorError (r.kind.Object × Store r.kind)) :
    Except OperatorError r.kind.Object × World :=
  match (r.kind.metadata o).name with
  | none => (.error (.missingKey ".metadata.name"), w)
  | some name => (w.logged c).write r name fun s => act s name

/-- Answer a call. -/
def answer : Plan.Answering World
  | w, .fetch r name => (.ok ((w.store r).objects.get? name), w.logged (.fetch r name))
  | w, .fetchAll r => (.ok (w.store r).objects.values, w.logged (.fetchAll r))
  | w, .insert r o => w.writeNamed r (.insert r o) o fun s name => s.insert name o
  | w, .update r o => w.writeNamed r (.update r o) o fun s name => s.update name o
  | w, .remove r name => (w.logged (.remove r name)).write r name fun s => .ok (s.remove name)
  | w, .writeStatus r name version status =>
    (w.logged (.writeStatus r name version status)).write r name fun s => s.writeStatus name version status

/-- Run a plan on the stores. -/
def run {α : Type} (w : World) (p : Plan α) : α × World := p.run answer w

theorem store_write_of_ne {β : Type} (w : World) {r r' : StoreRef} (name : String)
    (act : Store r.kind → Except OperatorError (β × Store r.kind)) (h : r' ≠ r) :
    (w.write r name act).2.store r' = w.store r' := by
  unfold write
  split
  · rfl
  · split
    · rfl
    · exact w.store_set_of_ne _ h

theorem store_writeNamed_of_ne (w : World) {r r' : StoreRef} (c : StoreCall) (o : r.kind.Object)
    (act : Store r.kind → String → Except OperatorError (r.kind.Object × Store r.kind)) (h : r' ≠ r) :
    (w.writeNamed r c o act).2.store r' = w.store r' := by
  unfold writeNamed
  split
  · rfl
  · exact store_write_of_ne (w.logged c) _ _ h

/-- A call leaves every other store as it is. -/
theorem store_answer_of_ne (w : World) (c : StoreCall) {r : StoreRef} (h : r ≠ c.store) :
    (answer w c).2.store r = w.store r := by
  cases c with
  | fetch => rfl
  | fetchAll => rfl
  | insert => exact store_writeNamed_of_ne w _ _ _ h
  | update => exact store_writeNamed_of_ne w _ _ _ h
  | remove => exact store_write_of_ne (w.logged _) _ _ h
  | writeStatus => exact store_write_of_ne (w.logged _) _ _ h

end World

/-! ## Counting calls -/

/-- How many calls of each kind. -/
structure CallCounts where
  fetches : Nat
  inserts : Nat
  updates : Nat
  removes : Nat
  statusWrites : Nat
  deriving DecidableEq, Inhabited

namespace CallCounts

/-- All calls that can change objects. -/
def writes (c : CallCounts) : Nat := c.inserts + c.updates + c.removes + c.statusWrites

/-- Count the calls of a log. -/
def ofLog (log : List StoreCall) : CallCounts where
  fetches := log.countP fun c => !c.isWrite
  inserts := log.countP fun | .insert .. => true | _ => false
  updates := log.countP fun | .update .. => true | _ => false
  removes := log.countP fun | .remove .. => true | _ => false
  statusWrites := log.countP fun | .writeStatus .. => true | _ => false

end CallCounts

namespace World

/-- The calls of all stores. -/
def calls (w : World) : CallCounts := .ofLog w.log

/-- The calls of one store. -/
def callsOf (w : World) (r : StoreRef) : CallCounts := .ofLog (w.log.filter fun c => c.store = r)

end World

end HubSearch
