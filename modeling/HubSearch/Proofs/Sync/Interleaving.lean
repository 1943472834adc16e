/-
Clients that use the same stores at the same time. Between the calls of one client anything can happen to the stores:
calls of other clients, objects that are placed or removed and created again, writes that are made to fail. No update is
lost (`no_lost_update`): a call that carries a version is answered only if the last write to the place gave that
version, and so a client that updates an object stores what it makes of the object that was live just before.
-/
import HubSearch.Proofs.Store.History
import HubSearch.Proofs.Sync

namespace HubSearch

open World

/-! ## Plans amid other events -/

/-- The events while a plan runs: its own calls, each answered by the stores at that time, among those of others. The
own calls are listed with the stores as they found them. -/
inductive Plan.Amid {α : Type} : Plan α → World → List Event → List (World × StoreCall) → α → Prop
  | done {a : α} {w : World} : Amid (.done a) w [] [] a
  | own {c : StoreCall} {next : Except OperatorError c.Reply → Plan α} {w : World} {es : List Event}
      {calls : List (World × StoreCall)} {a : α} (h : Amid (next (answer w c).1) (answer w c).2 es calls a) :
      Amid (.call c next) w (.call c :: es) ((w, c) :: calls) a
  | other {p : Plan α} {w : World} {e : Event} {es : List Event} {calls : List (World × StoreCall)} {a : α}
      (h : Amid p (w.after e) es calls a) : Amid p w (e :: es) calls a

namespace Plan.Amid

variable {α : Type} {w : World} {es : List Event} {calls : List (World × StoreCall)} {a b : α}

theorem of_done (h : (Plan.done a).Amid w es calls b) : calls = [] ∧ b = a := by
  generalize hp : Plan.done a = p at h
  induction h with
  | done =>
    cases hp
    exact ⟨rfl, rfl⟩
  | own => cases hp
  | other _ ih => exact ih hp

/-- The next own call comes after some events of others. -/
theorem of_call {c : StoreCall} {next : Except OperatorError c.Reply → Plan α}
    (h : (Plan.call c next).Amid w es calls b) :
    ∃ first later own, es = first ++ .call c :: later ∧ calls = (w.afterAll first, c) :: own ∧
      (next (answer (w.afterAll first) c).1).Amid (answer (w.afterAll first) c).2 later own b := by
  generalize hp : Plan.call c next = p at h
  induction h with
  | done => cases hp
  | own h =>
    cases hp
    exact ⟨[], _, _, rfl, rfl, h⟩
  | other h ih =>
    obtain ⟨first, later, own, rfl, rfl, hnext⟩ := ih hp
    exact ⟨_ :: first, later, own, rfl, rfl, hnext⟩

end Plan.Amid

/-! ## Bringing an object into its state amid other events -/

/-- How bringing an object into its state ends, with the calls that it made and the stores as they found them. -/
inductive Wanted.Ended (x : Wanted) : List (World × StoreCall) → Except OperatorError SyncOutcome → Prop
  /-- The object that was fetched needs no write. -/
  | unchanged {w : World} {live : x.store.kind.Object} (hlive : w.object? x.store x.name = some live)
      (hamend : x.store.kind.amend live x.object = none) :
      Ended x [(w, .fetch x.store x.name)] (.ok .unchanged)
  /-- The name was free, and the desired object is stored. -/
  | created {w v : World} (habsent : v.object? x.store x.name = none)
      (hstored : (answer v (.insert x.store x.object)).2.object? x.store x.name =
        some (Store.stamped (v.lastVersion x.store + 1) x.object)) :
      Ended x [(w, .fetch x.store x.name), (v, .insert x.store x.object)] (.ok .created)
  /-- What is stored is what becomes of the object that was live just before. -/
  | updated {w v : World} {live amended : x.store.kind.Object} (hlive : v.object? x.store x.name = some live)
      (hamend : x.store.kind.amend live x.object = some amended)
      (hstored : (answer v (.update x.store amended)).2.object? x.store x.name =
        some (Store.stamped (v.lastVersion x.store + 1) amended)) :
      Ended x [(w, .fetch x.store x.name), (v, .update x.store amended)] (.ok .updated)
  /-- The write was needed, it failed, and nothing changed. -/
  | failed {w v : World} {c : StoreCall} {action : StoreAction} {e : OperatorError}
      (hwrite : action = .create ∧ c = .insert x.store x.object ∨
        action = .update ∧ ∃ live amended, w.object? x.store x.name = some live ∧
          x.store.kind.amend live x.object = some amended ∧ c = .update x.store amended)
      (hreply : (answer v c).1 = .error e) (hstore : (answer v c).2.store = v.store) :
      Ended x [(w, .fetch x.store x.name), (v, c)] (.error (.apply action x.kindName x.name e))

/-- The calls of bringing an object into its state. -/
theorem sync_eq (x : Wanted) : (sync x.store x.object).run = .call (.fetch x.store x.name) fun fetched =>
    match fetched with
    | .error e => .done (.error (.apply .get x.kindName x.name e))
    | .ok none => .call (.insert x.store x.object) fun reply =>
      .done ((reply.mapError (.apply .create x.kindName x.name)).map fun _ => .created)
    | .ok (some live) =>
      match x.store.kind.amend live x.object with
      | none => .done (.ok .unchanged)
      | some amended => .call (.update x.store amended) fun reply =>
        .done ((reply.mapError (.apply .update x.kindName x.name)).map fun _ => .updated) := by
  show Plan.call (.fetch x.store x.name) _ = _
  congr 1
  funext fetched
  cases fetched with
  | error e => rfl
  | ok found =>
    cases found with
    | none =>
      show Plan.call (.insert x.store x.object) _ = _
      congr 1
      funext reply
      cases reply <;> rfl
    | some live =>
      dsimp only [Plan.andThen, Function.comp_apply, Except.mapError, ExceptT.bindCont]
      cases x.store.kind.amend live x.object with
      | none => rfl
      | some amended =>
        show Plan.call (.update x.store amended) _ = _
        congr 1
        funext reply
        cases reply <;> rfl

section

variable {x : Wanted} {w v : World}

theorem Wanted.ended_insert (w v : World) (x : Wanted) :
    x.Ended [(w, .fetch x.store x.name), (v, .insert x.store x.object)]
      (((answer v (.insert x.store x.object)).1.mapError (.apply .create x.kindName x.name)).map
        fun _ => .created) := by
  rcases answer_insert_cases v x.store x.object with ⟨name, hname, habsent, hw⟩ | ⟨e, he, hs⟩
  · have hx : x.name = name := by rw [Wanted.name, Kind.objectName, hname, Option.getD_some]
    rw [← hx] at habsent hw
    have hreply : (answer v (.insert x.store x.object)).1 = _ := congrArg (·.1) hw
    rw [hreply]
    exact .created habsent (object?_of_put (congrArg (·.2.store) hw))
  · rw [he]
    exact .failed (.inl ⟨rfl, rfl⟩) he hs

/-- When the object that is updated must have the version of the one that was fetched, it is that one. -/
theorem Wanted.ended_update {live amended : x.store.kind.Object} (hlive : w.object? x.store x.name = some live)
    (hamend : x.store.kind.amend live x.object = some amended) (hversion : Store.versionOf live ≠ none)
    (hsame : ∀ name live', v.object? x.store name = some live' → Store.versionOf live' = Store.versionOf live →
      name = x.name ∧ live' = live) :
    x.Ended [(w, .fetch x.store x.name), (v, .update x.store amended)]
      (((answer v (.update x.store amended)).1.mapError (.apply .update x.kindName x.name)).map
        fun _ => .updated) := by
  have hkept : Store.versionOf amended = Store.versionOf live := by
    rw [Store.versionOf, Store.versionOf, x.store.kind.metadata_amend hamend]
  rcases answer_update_cases v x.store amended with ⟨name, live', -, hlive', hv, hw⟩ | ⟨e, he, hs⟩
  · rw [hkept] at hv
    obtain ⟨rfl, rfl⟩ := hsame name live' hlive' (hv.resolve_left hversion).symm
    have hreply : (answer v (.update x.store amended)).1 = _ := congrArg (·.1) hw
    rw [hreply]
    exact .updated hlive' hamend (object?_of_put (congrArg (·.2.store) hw))
  · rw [he]
    exact .failed (.inr ⟨rfl, live, amended, hlive, hamend, rfl⟩) he hs

theorem Wanted.ended_of_amid {es more : List Event} {calls : List (World × StoreCall)}
    {outcome : Except OperatorError SyncOutcome}
    (hamid : (sync x.store x.object).run.Amid (ofHistory es) more calls outcome) : x.Ended calls outcome := by
  rw [sync_eq] at hamid
  obtain ⟨first, rest, own, -, rfl, hrest⟩ := hamid.of_call
  rw [← ofHistory_append] at hrest ⊢
  have hfetch : answer (ofHistory (es ++ first)) (.fetch x.store x.name) =
      (.ok ((ofHistory (es ++ first)).object? x.store x.name),
        ofHistory (es ++ first ++ [.call (.fetch x.store x.name)])) := by
    rw [ofHistory_append (es ++ first)]
    rfl
  rw [hfetch] at hrest
  -- what was fetched decides on the write
  cases hlive : (ofHistory (es ++ first)).object? x.store x.name with
  | none =>
    rw [hlive] at hrest
    obtain ⟨mid, last, own, -, rfl, hlast⟩ := hrest.of_call
    obtain ⟨rfl, rfl⟩ := hlast.of_done
    exact ended_insert _ _ x
  | some live =>
    rw [hlive] at hrest
    cases hamend : x.store.kind.amend live x.object with
    | none =>
      simp only [hamend] at hrest
      obtain ⟨rfl, rfl⟩ := hrest.of_done
      exact .unchanged hlive hamend
    | some amended =>
      simp only [hamend] at hrest
      obtain ⟨mid, last, own, -, rfl, hlast⟩ := hrest.of_call
      obtain ⟨rfl, rfl⟩ := hlast.of_done
      rw [← ofHistory_append]
      refine ended_update hlive hamend ?_ ?_
      · obtain ⟨_, _, _, _, hversion, -⟩ := exists_lastWrite hlive
        rw [hversion]
        exact Option.some_ne_none _
      · intro name live' hlive' hversion
        rw [List.append_assoc (es ++ first)] at hlive'
        exact object?_eq_of_version hlive hlive' hversion

end

/-- No update is lost, whatever happens to the stores and whoever uses them. A call that carries a version for a name
is answered only if the last event that wrote to the name is the one that gave this version. What brings an object into
its state either finds that no write is needed, or creates the object under a name that is free, or stores what becomes
of the object that was live just before, or fails and changes nothing. -/
theorem no_lost_update (es : List Event) :
    (∀ (c : StoreCall) (name version : String) (reply : c.Reply), c.Carries name version →
      (answer (ofHistory es) c).1 = .ok reply →
      ∃ before e later, LastWrite es before e later c.store name version ∧
        ∀ before' e' later' name', GivenBy es before' e' later' c.store name' version → before' = before) ∧
    ∀ (x : Wanted) (more : List Event) (calls : List (World × StoreCall)) (outcome : Except OperatorError SyncOutcome),
      (sync x.store x.object).run.Amid (ofHistory es) more calls outcome → x.Ended calls outcome := by
  refine ⟨?_, ?_⟩
  · intro c name version reply hcarries hok
    obtain ⟨before, e, later, hlast⟩ := lastWrite_of_carries hcarries hok
    refine ⟨before, e, later, hlast, ?_⟩
    intro before' e' later' name' hgiven
    exact (hlast.toGivenBy.unique hgiven).1
  · intro x more calls outcome hamid
    exact Wanted.ended_of_amid hamid

/-- Config maps of the search in a namespace. -/
def sampleConfigMaps : StoreRef := ⟨.configMap, some "hub"⟩

def sampleConfigMap (version : Option String) (value : String) : ConfigMap where
  metadata := { name := some "settings", resourceVersion := version }
  data := some (.ofList [("work_mem", value)])

/-- While a client amends what it fetched, the object is removed and created again: the update is refused. One that
carries the version of the object that is there now is answered. -/
theorem no_lost_update_recreated :
    let es : List Event := [.seed sampleConfigMaps (sampleConfigMap none "16MB")]
    let again : List Event := [.call (.remove sampleConfigMaps "settings"),
      .call (.insert sampleConfigMaps (sampleConfigMap none "32MB"))]
    let x : Wanted := ⟨sampleConfigMaps, sampleConfigMap none "64MB"⟩
    let current : StoreCall := .update sampleConfigMaps (sampleConfigMap (some "2") "64MB")
    (∃ more calls outcome, (sync x.store x.object).run.Amid (ofHistory es) more calls outcome ∧ outcome.isOk = false ∧
      x.Ended calls outcome) ∧
    (answer (ofHistory (es ++ again)) current).1.isOk = true ∧
      ∃ before e later, LastWrite (es ++ again) before e later sampleConfigMaps "settings" "2" := by
  intro es again x current
  constructor
  · let more : List Event := .call (.fetch sampleConfigMaps "settings") :: again ++
      [.call (.update sampleConfigMaps (sampleConfigMap (some "1") "64MB"))]
    obtain ⟨calls, outcome, hamid, hfails⟩ : ∃ calls outcome,
        (sync x.store x.object).run.Amid (ofHistory es) more calls outcome ∧ outcome.isOk = false := by
      rw [sync_eq]
      exact ⟨_, _, .own (.other (.other (.own .done))), by decide⟩
    exact ⟨more, calls, outcome, hamid, hfails, (no_lost_update es).2 x _ _ _ hamid⟩
  · have hcarries : current.Carries "settings" "2" := ⟨rfl, rfl⟩
    have hok : (answer (ofHistory (es ++ again)) current).1.isOk = true := by decide
    obtain ⟨reply, hreply⟩ := exists_ok_of_isOk hok
    obtain ⟨before, e, later, hlast, -⟩ := (no_lost_update (es ++ again)).1 current _ _ reply hcarries hreply
    exact ⟨hok, before, e, later, hlast⟩

end HubSearch
