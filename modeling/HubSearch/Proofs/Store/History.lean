/-
Histories of the stores in memory, from the empty ones on: calls, objects that are placed, and writes that are made to
fail from some point on. An object that is there was put by the last event that wrote to its place
(`exists_lastWrite`), and no two events of a history give the same version in a store (`GivenBy.unique`). So a call that
carries a version is answered only if the last write to the place that it names gave that version
(`lastWrite_of_carries`).
-/
import HubSearch.Proofs.Store.Faulty
import Mathlib.Data.List.Induction

namespace HubSearch

/-- What can happen to the stores. -/
inductive Event where
  | call (c : StoreCall)
  | seed (store : StoreRef) (object : store.kind.Object)
  | failWrites (store : StoreRef)
  | failName (store : StoreRef) (name : String)
  | failNamespace (name : String)

/-- A call that names an object and carries a version for it. -/
def StoreCall.Carries (name version : String) : StoreCall → Prop
  | .update r o => (r.kind.metadata o).name = some name ∧ Store.versionOf o = some version
  | .writeStatus _ other carried _ => other = name ∧ carried = some version
  | _ => False

namespace World

/-! ## Events -/

/-- The stores after an event. -/
def after (w : World) : Event → World
  | .call c => (answer w c).2
  | .seed r o => w.seed r o
  | .failWrites r => w.failWrites r
  | .failName r name => w.failName r name
  | .failNamespace name => w.failNamespace name

/-- The stores after some events. -/
abbrev afterAll (w : World) (es : List Event) : World := es.foldl after w

/-- The place to which an event writes: that of an object that is placed, or of a write that succeeds. -/
def place? (w : World) : Event → Option (StoreRef × String)
  | .call c => if c.isWrite ∧ (answer w c).1.isOk then c.target?.map fun name => (c.store, name) else none
  | .seed r o => some (r, (r.kind.metadata o).name.getD "")
  | _ => none

/-- The event writes to the place, and the object there has the version afterwards. -/
structure Gives (w : World) (e : Event) (r : StoreRef) (name version : String) : Prop where
  place : w.place? e = some (r, name)
  given : ((w.after e).object? r name).bind Store.versionOf = some version

/-- What an event does to the stores. -/
inductive Effect (w : World) (e : Event) : Prop
  /-- No object is touched. -/
  | idle (hplace : w.place? e = none) (hobjects : ∀ r, ((w.after e).store r).objects = (w.store r).objects)
      (hversions : ∀ r, ((w.after e).store r).version = (w.store r).version)
  | put {r : StoreRef} {name : String} {o : r.kind.Object} (hplace : w.place? e = some (r, name))
      (hstore : (w.after e).store = (w.set r ((w.store r).put name o).2).store)
  | remove {r : StoreRef} {name : String} (hplace : w.place? e = some (r, name))
      (hstore : (w.after e).store = (w.set r ((w.store r).remove name).2).store)

variable {w : World} {e : Event} {r : StoreRef} {name version : String}

theorem place?_call_of_ok {c : StoreCall} {reply : c.Reply} (hwrite : c.isWrite = true)
    (h : (answer w c).1 = .ok reply) : w.place? (.call c) = c.target?.map fun name => (c.store, name) := by
  rw [place?, h]
  exact if_pos ⟨hwrite, rfl⟩

theorem place?_call_of_error {c : StoreCall} {e : OperatorError} (h : (answer w c).1 = .error e) :
    w.place? (.call c) = none := by
  rw [place?, h]
  exact if_neg fun hok => nomatch hok.2

/-- A call that fails, or only reads. -/
theorem Effect.of_store_eq {c : StoreCall} (hplace : w.place? (.call c) = none)
    (h : (answer w c).2.store = w.store) : w.Effect (.call c) := by
  refine .idle hplace (fun r => ?_) fun r => ?_
  · exact congrArg (fun stores : (r : StoreRef) → Store r.kind => (stores r).objects) h
  · exact congrArg (fun stores : (r : StoreRef) → Store r.kind => (stores r).version) h

theorem effect_call (w : World) (c : StoreCall) : w.Effect (.call c) := by
  cases c with
  | fetch r name => exact .of_store_eq rfl rfl
  | fetchAll r => exact .of_store_eq rfl rfl
  | insert r o =>
    rcases answer_insert_cases w r o with ⟨name, hname, -, hw⟩ | ⟨e, he, hs⟩
    · have hplace : w.place? (.call (.insert r o)) = some (r, name) := by
        rw [place?_call_of_ok rfl (congrArg (·.1) hw), StoreCall.target?, hname]
        rfl
      exact .put hplace (congrArg (·.2.store) hw)
    · exact .of_store_eq (place?_call_of_error he) hs
  | update r o =>
    rcases answer_update_cases w r o with ⟨name, live, hname, -, -, hw⟩ | ⟨e, he, hs⟩
    · have hplace : w.place? (.call (.update r o)) = some (r, name) := by
        rw [place?_call_of_ok rfl (congrArg (·.1) hw), StoreCall.target?, hname]
        rfl
      exact .put hplace (congrArg (·.2.store) hw)
    · exact .of_store_eq (place?_call_of_error he) hs
  | remove r name =>
    rcases answer_remove_cases w r name with hw | ⟨e, he, hs⟩
    · exact .remove (place?_call_of_ok rfl (congrArg (·.1) hw)) (congrArg (·.2.store) hw)
    · exact .of_store_eq (place?_call_of_error he) hs
  | writeStatus r name version status =>
    rcases answer_writeStatus_cases w r name version status with ⟨live, merged, -, -, -, hw⟩ | ⟨e, he, hs⟩
    · exact .put (place?_call_of_ok rfl (congrArg (·.1) hw)) (congrArg (·.2.store) hw)
    · exact .of_store_eq (place?_call_of_error he) hs

/-- The settings of a store say nothing about its objects. -/
theorem Effect.of_set (hplace : w.place? e = none) {s : Store r.kind} (hafter : w.after e = w.set r s)
    (hobjects : s.objects = (w.store r).objects) (hversion : s.version = (w.store r).version) : w.Effect e := by
  have hother : ∀ r', r' ≠ r → (w.after e).store r' = w.store r' := by
    intro r' hr
    rw [hafter, store_set_of_ne w s hr]
  have hself : (w.after e).store r = s := by rw [hafter, store_set_self]
  refine .idle hplace (fun r' => ?_) fun r' => ?_
  all_goals
    by_cases hr : r' = r
    · subst hr
      rw [hself]
      assumption
    · rw [hother r' hr]

theorem effect (w : World) : ∀ e : Event, w.Effect e
  | .call c => effect_call w c
  | .seed _ _ => .put rfl rfl
  | .failWrites _ => .of_set rfl rfl rfl rfl
  | .failName _ _ => .of_set rfl rfl rfl rfl
  | .failNamespace _ => .idle rfl (fun _ => rfl) fun _ => rfl

/-! ## What an event leaves alone -/

/-- An event changes no other place than the one that it writes to. -/
theorem object?_after_of_place_ne (h : w.place? e ≠ some (r, name)) :
    (w.after e).object? r name = w.object? r name := by
  have hne : ∀ {r' name'}, w.place? e = some (r', name') → r ≠ r' ∨ name ≠ name' := by
    intro r' name' hplace
    refine Decidable.not_and_iff_or_not.1 fun hsame => h ?_
    rw [hplace, hsame.1, hsame.2]
  cases effect w e with
  | idle hplace hobjects hversions =>
    rw [object?, hobjects]
    rfl
  | put hplace hstore =>
    rw [object?_congr hstore]
    exact object?_set_of_ne w (fun _ => Store.get?_put_of_ne _ _) (hne hplace)
  | remove hplace hstore =>
    rw [object?_congr hstore]
    exact object?_set_of_ne w (fun _ => Store.get?_remove_of_ne _) (hne hplace)

theorem object?_of_put {v : World} {o : r.kind.Object}
    (h : v.store = (w.set r ((w.store r).put name o).2).store) :
    v.object? r name = some (Store.stamped ((w.store r).version + 1) o) :=
  (object?_congr h r name).trans (object?_put_self _ _ _ _)

theorem object?_of_remove {v : World} (h : v.store = (w.set r ((w.store r).remove name).2).store) :
    v.object? r name = none := by
  rw [object?, h, store_set_self]
  exact Store.get?_remove_self _ _

/-! ## No version is given twice -/

/-- The number of the last version that a store has given. -/
def lastVersion (w : World) (r : StoreRef) : Nat := (w.store r).version

theorem lastVersion_of_set {w v : World} {r r' : StoreRef} {s : Store r'.kind} (h : v.store = (w.set r' s).store) :
    v.lastVersion r = if r = r' then s.version else w.lastVersion r := by
  rw [lastVersion, h]
  split
  · rename_i hr
    subst hr
    rw [store_set_self]
  · rename_i hr
    rw [store_set_of_ne w s hr]
    rfl

theorem lastVersion_le_after (w : World) (e : Event) (r : StoreRef) : w.lastVersion r ≤ (w.after e).lastVersion r := by
  cases effect w e with
  | idle hplace hobjects hversions => exact Nat.le_of_eq (hversions r).symm
  | put hplace hstore =>
    rw [lastVersion_of_set hstore]
    split
    · rename_i hr
      subst hr
      exact Nat.le_succ _
    · exact Nat.le_refl _
  | remove hplace hstore =>
    rw [lastVersion_of_set hstore]
    split
    · rename_i hr
      subst hr
      exact Nat.le_refl _
    · exact Nat.le_refl _

theorem lastVersion_le_afterAll (r : StoreRef) : ∀ (es : List Event) (w : World),
    w.lastVersion r ≤ (w.afterAll es).lastVersion r
  | [], _ => Nat.le_refl _
  | e :: es, w => Nat.le_trans (lastVersion_le_after w e r) (lastVersion_le_afterAll r es (w.after e))

/-- The version that an event gives is the next one of its store. -/
theorem Gives.eq_next (h : w.Gives e r name version) :
    version = toString (w.lastVersion r + 1) ∧ (w.after e).lastVersion r = w.lastVersion r + 1 := by
  obtain ⟨hplace, hgiven⟩ := h
  cases effect w e with
  | idle hnone => cases hnone.symm.trans hplace
  | put hsome hstore =>
    cases hsome.symm.trans hplace
    rw [object?_of_put hstore, Option.bind_some, Store.versionOf_stamped] at hgiven
    refine ⟨(Option.some.inj hgiven).symm, ?_⟩
    rw [lastVersion_of_set hstore, if_pos rfl]
    rfl
  | remove hsome hstore =>
    cases hsome.symm.trans hplace
    rw [object?_of_remove hstore] at hgiven
    cases hgiven

end World

/-! ## Histories -/

/-- Nothing is written to a place. -/
def World.Untouched (r : StoreRef) (name : String) : World → List Event → Prop
  | _, [] => True
  | w, e :: es => w.place? e ≠ some (r, name) ∧ Untouched r name (w.after e) es

/-- The stores after a history. -/
def World.ofHistory (es : List Event) : World := World.afterAll {} es

open World

/-- An event in a history gives a version to the object of a place. -/
structure GivenBy (es before : List Event) (e : Event) (later : List Event) (r : StoreRef) (name version : String) :
    Prop where
  split : es = before ++ e :: later
  gives : (ofHistory before).Gives e r name version

/-- An event gives a version, and is the last one to write to the place. -/
structure LastWrite (es before : List Event) (e : Event) (later : List Event) (r : StoreRef) (name version : String) :
    Prop extends GivenBy es before e later r name version where
  untouched : ((ofHistory before).after e).Untouched r name later

section

variable {es before before' later later' more : List Event} {e e' : Event} {r : StoreRef}
  {name name' version : String}

theorem ofHistory_append (es more : List Event) : ofHistory (es ++ more) = (ofHistory es).afterAll more :=
  List.foldl_append

/-- What can be built from empty stores is what histories come to. -/
theorem built_iff_exists_history {w : World} : w.Built ↔ ∃ es, w = ofHistory es := by
  constructor
  · intro h
    have hnext : ∀ {v : World} (e : Event), (∃ es, v = ofHistory es) → ∃ es, v.after e = ofHistory es := by
      rintro _ e ⟨es, rfl⟩
      exact ⟨es ++ [e], (ofHistory_append es [e]).symm⟩
    induction h with
    | start => exact ⟨[], rfl⟩
    | seed r o _ ih => exact hnext (.seed r o) ih
    | answer c _ ih => exact hnext (.call c) ih
    | failWrites r _ ih => exact hnext (.failWrites r) ih
    | failName r name _ ih => exact hnext (.failName r name) ih
    | failNamespace name _ ih => exact hnext (.failNamespace name) ih
  · rintro ⟨es, rfl⟩
    induction es using List.reverseRecOn with
    | nil => exact .start
    | append_singleton es e ih =>
      rw [ofHistory_append]
      cases e with
      | call c => exact .answer c ih
      | seed r o => exact .seed r o ih
      | failWrites r => exact .failWrites r ih
      | failName r name => exact .failName r name ih
      | failNamespace name => exact .failNamespace name ih

theorem untouched_append : ∀ {es : List Event} {w : World}, w.Untouched r name es →
    (w.afterAll es).Untouched r name more → w.Untouched r name (es ++ more)
  | [], _, _, h' => h'
  | _ :: _, _, h, h' => ⟨h.1, untouched_append h.2 h'⟩

/-- The object that is there was put by the last event that wrote to its place. -/
theorem exists_lastWrite : ∀ {es : List Event} {o : r.kind.Object}, (ofHistory es).object? r name = some o →
    ∃ version before e later, Store.versionOf o = some version ∧ LastWrite es before e later r name version ∧
      ((ofHistory before).after e).object? r name = some o := by
  intro es
  induction es using List.reverseRecOn with
  | nil =>
    intro o ho
    cases ho
  | append_singleton es e ih =>
    intro o ho
    rw [ofHistory_append] at ho
    by_cases hplace : (ofHistory es).place? e = some (r, name)
    · cases effect (ofHistory es) e with
      | idle hnone => cases hnone.symm.trans hplace
      | put hsome hstore =>
        cases hsome.symm.trans hplace
        have hput := object?_of_put hstore
        obtain rfl := Option.some.inj (hput.symm.trans ho)
        refine ⟨_, es, e, [], Store.versionOf_stamped _ _, ⟨⟨rfl, hplace, ?_⟩, trivial⟩, ho⟩
        rw [hput]
        exact Store.versionOf_stamped _ _
      | remove hsome hstore =>
        cases hsome.symm.trans hplace
        cases (object?_of_remove hstore).symm.trans ho
    · have hsame : ((ofHistory es).afterAll [e]).object? r name = _ := object?_after_of_place_ne hplace
      obtain ⟨version, before, e', later, hversion, hlast, hobject⟩ := ih (hsame.symm.trans ho)
      have hes : ((ofHistory before).after e').afterAll later = ofHistory es := by
        rw [hlast.split, ofHistory_append]
        rfl
      refine ⟨version, before, e', later ++ [e], hversion, ⟨⟨?_, hlast.gives⟩, ?_⟩, hobject⟩
      · rw [hlast.split, List.append_assoc]
        rfl
      · refine untouched_append hlast.untouched ⟨?_, trivial⟩
        rw [hes]
        exact hplace

/-- A version that was given in a store is not given again. -/
theorem GivenBy.not_again {mid : List Event} (h : (ofHistory before).Gives e r name version)
    (h' : (ofHistory (before ++ e :: mid)).Gives e' r name' version) : False := by
  have hle := lastVersion_le_afterAll r mid ((ofHistory before).after e)
  rw [ofHistory_append] at h'
  have heq := toString_nat_injective (h.eq_next.1.symm.trans h'.eq_next.1)
  have hnext := h.eq_next.2
  change (ofHistory before).lastVersion r + 1 = (((ofHistory before).after e).afterAll mid).lastVersion r + 1 at heq
  omega

theorem GivenBy.eq_of_append {mid : List Event} (h : (ofHistory before).Gives e r name version)
    (h' : (ofHistory (before ++ mid)).Gives e' r name' version) (hmid : e :: later = mid ++ e' :: later') :
    mid = [] ∧ e' = e ∧ later' = later ∧ name' = name := by
  cases mid with
  | nil =>
    obtain ⟨rfl, rfl⟩ := List.cons.inj hmid
    rw [List.append_nil] at h'
    cases h.place.symm.trans h'.place
    exact ⟨rfl, rfl, rfl, rfl⟩
  | cons d mid =>
    obtain ⟨rfl, rfl⟩ := List.cons.inj hmid
    exact (GivenBy.not_again h h').elim

/-- One event of a history at most gives a version in a store. -/
theorem GivenBy.unique (h : GivenBy es before e later r name version)
    (h' : GivenBy es before' e' later' r name' version) :
    before' = before ∧ e' = e ∧ later' = later ∧ name' = name := by
  obtain ⟨hsplit, hgives⟩ := h
  obtain ⟨hsplit', hgives'⟩ := h'
  -- one of the two comes first, and it is not given again after that
  rcases List.append_eq_append_iff.1 (hsplit.symm.trans hsplit') with ⟨mid, rfl, hmid⟩ | ⟨mid, rfl, hmid⟩
  · obtain ⟨rfl, rfl, rfl, rfl⟩ := GivenBy.eq_of_append hgives hgives' hmid
    exact ⟨List.append_nil _, rfl, rfl, rfl⟩
  · obtain ⟨rfl, rfl, rfl, rfl⟩ := GivenBy.eq_of_append hgives' hgives hmid
    exact ⟨(List.append_nil _).symm, rfl, rfl, rfl⟩

/-- As long as an object of some version is there, it is the one that had that version before. -/
theorem object?_eq_of_version {o o' : r.kind.Object} (h : (ofHistory es).object? r name = some o)
    (h' : (ofHistory (es ++ more)).object? r name' = some o') (hversion : Store.versionOf o' = Store.versionOf o) :
    name' = name ∧ o' = o := by
  obtain ⟨v, before, e, later, hv, hlast, hobject⟩ := exists_lastWrite h
  obtain ⟨v', before', e', later', hv', hlast', hobject'⟩ := exists_lastWrite h'
  obtain rfl : v' = v := Option.some.inj (hv'.symm.trans (hversion.trans hv))
  have hsplit : es ++ more = before ++ e :: (later ++ more) := by
    rw [hlast.split, List.append_assoc]
    rfl
  obtain ⟨rfl, rfl, -, rfl⟩ := GivenBy.unique ⟨hsplit, hlast.gives⟩ hlast'.toGivenBy
  exact ⟨rfl, Option.some.inj (hobject'.symm.trans hobject)⟩

/-- A call that carries a version is answered only if the object that it names has that version. -/
theorem exists_object?_of_carries {w : World} {c : StoreCall} {reply : c.Reply} (hcarries : c.Carries name version)
    (hok : (answer w c).1 = .ok reply) :
    ∃ live, w.object? c.store name = some live ∧ Store.versionOf live = some version := by
  cases c with
  | update r o =>
    obtain ⟨hname, hversion⟩ := hcarries
    rcases answer_update_cases w r o with ⟨other, live, hother, hlive, hv, -⟩ | ⟨e, he, -⟩
    · obtain rfl := Option.some.inj (hname.symm.trans hother)
      refine ⟨live, hlive, ?_⟩
      rw [hversion] at hv
      exact (hv.resolve_left (Option.some_ne_none _)).symm
    · cases he.symm.trans hok
  | writeStatus r other carried status =>
    obtain ⟨rfl, rfl⟩ := hcarries
    rcases answer_writeStatus_cases w r other (some version) status with ⟨live, merged, hlive, hv, -⟩ | ⟨e, he, -⟩
    · exact ⟨live, hlive, hv.resolve_left (Option.some_ne_none _)⟩
    · cases he.symm.trans hok
  | _ => exact hcarries.elim

theorem lastWrite_of_carries {c : StoreCall} {reply : c.Reply} (hcarries : c.Carries name version)
    (hok : (answer (ofHistory es) c).1 = .ok reply) :
    ∃ before e later, LastWrite es before e later c.store name version := by
  obtain ⟨live, hlive, hversion⟩ := exists_object?_of_carries hcarries hok
  obtain ⟨v, before, e, later, hv, hlast, -⟩ := exists_lastWrite hlive
  obtain rfl : v = version := Option.some.inj (hv.symm.trans hversion)
  exact ⟨before, e, later, hlast⟩

end

end HubSearch
