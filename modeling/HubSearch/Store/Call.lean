/-
Calls to the stores of a cluster, and plans made of them. A store holds the objects of one kind, in one
namespace or in the whole cluster. A plan says which call to make next after each reply, and knows
nothing of what answers: the same plan runs against the objects in memory and against an API server.
Main statement: the run of a plan followed by another is the one run after the other.
-/
import HubSearch.Error
import HubSearch.Object.Kind

namespace HubSearch

/-- Which store: a kind, and a namespace unless it is the whole cluster. -/
structure StoreRef where
  kind : Kind
  inNamespace : Option String
  deriving DecidableEq, Inhabited

/-- A call to a store. -/
inductive StoreCall where
  | fetch (store : StoreRef) (name : String)
  | fetchAll (store : StoreRef)
  | insert (store : StoreRef) (object : store.kind.Object)
  | update (store : StoreRef) (object : store.kind.Object)
  | remove (store : StoreRef) (name : String)
  /-- Merge a status into the object; with a version only if the object still has it. -/
  | writeStatus (store : StoreRef) (name : String) (version : Option String) (status : Json)

namespace StoreCall

/-- The store that is called. -/
def store : StoreCall → StoreRef
  | .fetch r _ => r
  | .fetchAll r => r
  | .insert r _ => r
  | .update r _ => r
  | .remove r _ => r
  | .writeStatus r _ _ _ => r

/-- What a call gives when it succeeds: the object if there is one, all objects, the object as it is
stored, or whether there was one to remove. -/
abbrev Reply : StoreCall → Type
  | .fetch r _ => Option r.kind.Object
  | .fetchAll r => List r.kind.Object
  | .insert r _ => r.kind.Object
  | .update r _ => r.kind.Object
  | .remove _ _ => Bool
  | .writeStatus r _ _ _ => r.kind.Object

/-- Whether a call can change objects. -/
def isWrite : StoreCall → Bool
  | .fetch _ _ => false
  | .fetchAll _ => false
  | _ => true

end StoreCall

/-! ## Plans -/

/-- Calls to stores, each chosen by the replies before it, and a value in the end. -/
inductive Plan (α : Type) where
  | done (value : α)
  | call (c : StoreCall) (next : Except OperatorError c.Reply → Plan α)

namespace Plan

variable {α β σ : Type}

/-- A plan, and then the plan that its value asks for. -/
def andThen : Plan α → (α → Plan β) → Plan β
  | .done a, f => f a
  | .call c next, f => .call c fun reply => (next reply).andThen f

instance : Monad Plan where
  pure := .done
  bind := andThen

theorem pure_eq (a : α) : (pure a : Plan α) = .done a := rfl

theorem bind_eq (p : Plan α) (f : α → Plan β) : p >>= f = p.andThen f := rfl

theorem andThen_done : ∀ p : Plan α, p.andThen .done = p
  | .done _ => rfl
  | .call c next => by
    simp only [andThen]
    congr 1
    exact funext fun reply => andThen_done (next reply)

theorem andThen_assoc {γ : Type} (f : α → Plan β) (g : β → Plan γ) :
    ∀ p : Plan α, (p.andThen f).andThen g = p.andThen fun a => (f a).andThen g
  | .done _ => rfl
  | .call c next => by
    simp only [andThen]
    congr 1
    exact funext fun reply => andThen_assoc f g (next reply)

theorem map_eq (f : α → β) (p : Plan α) : f <$> p = p.andThen fun a => .done (f a) := rfl

instance : LawfulMonad Plan :=
  .mk' Plan andThen_done (fun _ _ => rfl) (fun p f g => andThen_assoc f g p)

/-- What answers calls and keeps a state: given a state and a call, the reply and the next state. -/
abbrev Answering (σ : Type) := σ → (c : StoreCall) → Except OperatorError c.Reply × σ

/-- Run a plan from a state: its value, and the state after its last call. -/
def run (answer : Answering σ) : Plan α → σ → α × σ
  | .done a, s => (a, s)
  | .call c next, s =>
    let (reply, s) := answer s c
    (next reply).run answer s

@[simp]
theorem run_pure (answer : Answering σ) (a : α) (s : σ) : (pure a : Plan α).run answer s = (a, s) := rfl

theorem run_bind (answer : Answering σ) (f : α → Plan β) :
    ∀ (p : Plan α) (s : σ), (p >>= f).run answer s = (f (p.run answer s).1).run answer (p.run answer s).2
  | .done _, _ => rfl
  | .call c next, s => run_bind answer f (next (answer s c).1) (answer s c).2

/-- Do something for each item in turn; the values in the order of the items. -/
def forEach (act : α → Plan β) : List α → Plan (List β)
  | [] => pure []
  | a :: rest => do
    let b ← act a
    let bs ← forEach act rest
    pure (b :: bs)

end Plan

/-! ## Work that can fail -/

/-- A plan that ends early when something fails. -/
abbrev Work (α : Type) := ExceptT OperatorError Plan α

namespace Work

variable {α : Type}

/-- Make one call. -/
def ask (c : StoreCall) : Work c.Reply := .mk (.call c .done)

/-- The result that is there already. -/
def ofExcept (r : Except OperatorError α) : Work α := .mk (pure r)

/-- The object of a name, if there is one. -/
def fetch (r : StoreRef) (name : String) : Work (Option r.kind.Object) := ask (.fetch r name)

/-- All objects, in ascending order of their names. -/
def fetchAll (r : StoreRef) : Work (List r.kind.Object) := ask (.fetchAll r)

/-- Store a new object. -/
def insert (r : StoreRef) (o : r.kind.Object) : Work r.kind.Object := ask (.insert r o)

/-- Replace the object of the same name. An object that carries a version replaces that version only. -/
def update (r : StoreRef) (o : r.kind.Object) : Work r.kind.Object := ask (.update r o)

/-- Remove the object of a name, and whether there was one. -/
def remove (r : StoreRef) (name : String) : Work Bool := ask (.remove r name)

/-- Merge a status into an object. -/
def writeStatus (r : StoreRef) (name : String) (version : Option String) (status : Json) :
    Work r.kind.Object :=
  ask (.writeStatus r name version status)

/-! ## Running work -/

section

variable {β σ : Type} (answer : Plan.Answering σ) (s : σ)

@[simp]
theorem run_pure (a : α) : (pure a : Work α).run.run answer s = (.ok a, s) := rfl

@[simp]
theorem run_throw (e : OperatorError) : (throw e : Work α).run.run answer s = (.error e, s) := rfl

@[simp]
theorem run_ofExcept (r : Except OperatorError α) : (ofExcept r).run.run answer s = (r, s) := rfl

/-- Work, and then more work unless it failed. -/
theorem run_bind (x : Work α) (f : α → Work β) :
    (x >>= f).run.run answer s =
      match x.run.run answer s with
      | (.ok a, s) => (f a).run.run answer s
      | (.error e, s) => (.error e, s) := by
  rw [ExceptT.run_bind, Plan.run_bind]
  rcases x.run.run answer s with ⟨a | a, s'⟩ <;> rfl

@[simp]
theorem run_ask (c : StoreCall) : (ask c).run.run answer s = answer s c := rfl

@[simp]
theorem run_fetch (r : StoreRef) (name : String) :
    (fetch r name).run.run answer s = answer s (.fetch r name) := rfl

@[simp]
theorem run_fetchAll (r : StoreRef) : (fetchAll r).run.run answer s = answer s (.fetchAll r) := rfl

@[simp]
theorem run_insert (r : StoreRef) (o : r.kind.Object) :
    (insert r o).run.run answer s = answer s (.insert r o) := rfl

@[simp]
theorem run_update (r : StoreRef) (o : r.kind.Object) :
    (update r o).run.run answer s = answer s (.update r o) := rfl

@[simp]
theorem run_remove (r : StoreRef) (name : String) :
    (remove r name).run.run answer s = answer s (.remove r name) := rfl

@[simp]
theorem run_writeStatus (r : StoreRef) (name : String) (version : Option String) (status : Json) :
    (writeStatus r name version status).run.run answer s = answer s (.writeStatus r name version status) := rfl

end

/-! ## Failures along the way -/

/-- Work on a single object; a failure says what was being done to which. -/
def onObject (action : StoreAction) (kind name : String) (work : Work α) : Work α :=
  work.adapt (.apply action kind name)

theorem run_onObject {σ : Type} (answer : Plan.Answering σ) (s : σ) (action : StoreAction) (kind name : String)
    (work : Work α) :
    (onObject action kind name work).run.run answer s =
      ((work.run.run answer s).1.mapError (.apply action kind name), (work.run.run answer s).2) := by
  show (Except.mapError _ <$> work.run : Plan _).run answer s = _
  rw [map_eq_pure_bind, Plan.run_bind]
  rfl

/-- Do something for each item, whatever fails on the way. The failures are in the order of the items,
each with the labels of its item. -/
def attemptEach (labels : α → List String) (act : α → Work Unit) : List α → Plan Failures
  | [] => pure []
  | a :: rest => do
    let outcome ← (act a).run
    let later ← attemptEach labels act rest
    pure (match outcome with
      | .ok _ => later
      | .error e => (labels a, e) :: later)

end Work

end HubSearch
