/-
What bringing one object into its desired state does to the stores. Apart from failures there are two cases:
the object was as desired and only a fetch was made, or it stands in its place afterwards as it was created or
amended (`run_sync_cases`). Main statements: after a success the object that is wanted is held
(`holds_of_run_sync_ok`), what is held already takes no write (`run_sync_of_holds`), and what is held stays held
when the same or another object is brought into its state (`keeps_holds_sync`).
-/
import HubSearch.Pass
import HubSearch.Proofs.Amend.Kind
import HubSearch.Proofs.Store.Call
import HubSearch.Proofs.Store.Memory

namespace HubSearch

/-- The name under which the object is wanted. -/
def Wanted.name (x : Wanted) : String := x.store.kind.objectName x.object

/-- The kind that messages call the object by. -/
def Wanted.kindName (x : Wanted) : String := x.store.kind.objectKindName x.object

namespace World

/-- The object that is wanted is there, and it agrees with the desired one. -/
def Holds (w : World) (x : Wanted) : Prop :=
  ∃ live, w.object? x.store x.name = some live ∧ x.store.kind.Matches live x.object

theorem Holds.congr {w w' : World} {x : Wanted} (h : w.Holds x)
    (hs : w'.object? x.store x.name = w.object? x.store x.name) : w'.Holds x := by
  obtain ⟨live, hl, hm⟩ := h
  exact ⟨live, hs.trans hl, hm⟩

/-! ## One call on an object -/

theorem run_onObject_ask (w : World) (action : StoreAction) (kind name : String) (c : StoreCall) :
    w.run (Work.onObject action kind name (Work.ask c)).run =
      ((answer w c).1.mapError (.apply action kind name), (answer w c).2) :=
  Work.run_onObject_ask answer w action kind name c

theorem run_onObject_ask_then {α : Type} (w : World) (action : StoreAction) (kind name : String) (c : StoreCall)
    (a : α) :
    w.run (do let _ ← Work.onObject action kind name (Work.ask c); pure a : Work α).run =
      (((answer w c).1.mapError (.apply action kind name)).map fun _ => a, (answer w c).2) :=
  Work.run_onObject_ask_then answer w action kind name c a

/-! ## Bringing an object into its desired state -/

section

variable {w : World} {x : Wanted}

theorem run_sync_eq : w.run (sync x.store x.object).run =
    (w.logged (.fetch x.store x.name)).run (match w.object? x.store x.name with
      | none => do
        let _ ← Work.onObject .create x.kindName x.name (Work.insert x.store x.object)
        pure SyncOutcome.created
      | some live =>
        match x.store.kind.amend live x.object with
        | none => pure .unchanged
        | some amended => do
          let _ ← Work.onObject .update x.kindName x.name (Work.update x.store amended)
          pure .updated : Work SyncOutcome).run := by
  have hfetch : w.run (Work.onObject .get x.kindName x.name (Work.fetch x.store x.name)).run =
      (.ok (w.object? x.store x.name), w.logged (.fetch x.store x.name)) := rfl
  have hrun : w.run (sync x.store x.object).run = _ := run_work_bind_ok hfetch _
  rw [hrun]
  cases w.object? x.store x.name with
  | none => rfl
  | some live =>
    dsimp only
    cases x.store.kind.amend live x.object <;> rfl

theorem run_sync_absent (h : w.object? x.store x.name = none) :
    w.run (sync x.store x.object).run =
      (((answer (w.logged (.fetch x.store x.name)) (.insert x.store x.object)).1.mapError
          (.apply .create x.kindName x.name)).map fun _ => .created,
        (answer (w.logged (.fetch x.store x.name)) (.insert x.store x.object)).2) := by
  rw [run_sync_eq, h]
  exact run_onObject_ask_then _ _ _ _ (.insert x.store x.object) _

theorem run_sync_unchanged {live : x.store.kind.Object} (h : w.object? x.store x.name = some live)
    (ha : x.store.kind.amend live x.object = none) :
    w.run (sync x.store x.object).run = (.ok .unchanged, w.logged (.fetch x.store x.name)) := by
  rw [run_sync_eq, h]
  simp only [ha]
  rfl

theorem run_sync_amended {live after : x.store.kind.Object} (h : w.object? x.store x.name = some live)
    (ha : x.store.kind.amend live x.object = some after) :
    w.run (sync x.store x.object).run =
      (((answer (w.logged (.fetch x.store x.name)) (.update x.store after)).1.mapError
          (.apply .update x.kindName x.name)).map fun _ => .updated,
        (answer (w.logged (.fetch x.store x.name)) (.update x.store after)).2) := by
  rw [run_sync_eq, h]
  simp only [ha]
  exact run_onObject_ask_then _ _ _ _ (.update x.store after) _

/-- A wanted object is inserted into its place, or nothing changes. -/
theorem answer_insert_wanted_cases (w : World) (x : Wanted) :
    (answer w (.insert x.store x.object) = (.ok (Store.stamped ((w.store x.store).version + 1) x.object),
        (w.logged (.insert x.store x.object)).set x.store ((w.store x.store).put x.name x.object).2)) ∨
      ∃ e, (answer w (.insert x.store x.object)).1 = .error e ∧
        (answer w (.insert x.store x.object)).2.store = w.store := by
  rcases answer_insert_cases w x.store x.object with ⟨name, hname, -, hc⟩ | herror
  · have hx : x.name = name := by rw [Wanted.name, Kind.objectName, hname, Option.getD_some]
    rw [hx]
    exact .inl hc
  · exact .inr herror

/-- An amended object replaces the live one in its place, or nothing changes. -/
theorem answer_update_amended_cases (hw : w.Versioned) {live after : x.store.kind.Object}
    (hlive : w.object? x.store x.name = some live) (ha : x.store.kind.amend live x.object = some after) :
    (answer w (.update x.store after) = (.ok (Store.stamped ((w.store x.store).version + 1) after),
        (w.logged (.update x.store after)).set x.store ((w.store x.store).put x.name after).2)) ∨
      ∃ e, (answer w (.update x.store after)).1 = .error e ∧ (answer w (.update x.store after)).2.store = w.store := by
  rcases answer_update_cases w x.store after with ⟨name, old, hname, hold, hv, hc⟩ | herror
  · -- the amended object carries the version of the live one, which no other object has
    have hversion : Store.versionOf after = Store.versionOf live := by
      rw [Store.versionOf, Store.versionOf, x.store.kind.metadata_amend ha]
    obtain ⟨n, -, hn⟩ := (hw x.store).known x.name live hlive
    have hx : x.name = name := by
      refine (hw x.store).distinct x.name name live old hlive hold ?_
      rw [← hversion]
      exact hv.resolve_left (by rw [hversion, hn]; exact Option.some_ne_none _)
    rw [hx]
    exact .inl hc
  · exact .inr herror

/-- An object that is as desired takes a fetch; another one is put in its place as desired or as amended; and
what fails changes nothing. -/
theorem run_sync_cases (hw : w.Versioned) (x : Wanted) :
    (∃ live, w.object? x.store x.name = some live ∧ x.store.kind.amend live x.object = none ∧
      w.run (sync x.store x.object).run = (.ok .unchanged, w.logged (.fetch x.store x.name))) ∨
    (∃ outcome after v, w.run (sync x.store x.object).run = (.ok outcome, v) ∧
      v.store = (w.set x.store ((w.store x.store).put x.name after).2).store ∧
      (w.object? x.store x.name = none ∧ after = x.object ∨
        ∃ live, w.object? x.store x.name = some live ∧ x.store.kind.amend live x.object = some after)) ∨
    ∃ e v, w.run (sync x.store x.object).run = (.error e, v) ∧ v.store = w.store := by
  have hw' : (w.logged (.fetch x.store x.name)).Versioned := hw.congr rfl
  -- what was fetched decides on the write
  cases hlive : w.object? x.store x.name with
  | none =>
    refine .inr ?_
    rw [run_sync_absent hlive]
    rcases answer_insert_wanted_cases (w.logged (.fetch x.store x.name)) x with hc | ⟨e, he, hs⟩
    · rw [hc]
      exact .inl ⟨.created, x.object, _, rfl, rfl, .inl ⟨rfl, rfl⟩⟩
    · rw [he]
      exact .inr ⟨_, _, rfl, hs⟩
  | some live =>
    cases ha : x.store.kind.amend live x.object with
    | none => exact .inl ⟨live, rfl, ha, run_sync_unchanged hlive ha⟩
    | some after =>
      refine .inr ?_
      rw [run_sync_amended hlive ha]
      rcases answer_update_amended_cases hw' hlive ha with hc | ⟨e, he, hs⟩
      · rw [hc]
        exact .inl ⟨.updated, after, _, rfl, rfl, .inr ⟨live, rfl, ha⟩⟩
      · rw [he]
        exact .inr ⟨_, _, rfl, hs⟩

theorem holds_of_put {v : World} {after : x.store.kind.Object}
    (hs : v.store = (w.set x.store ((w.store x.store).put x.name after).2).store)
    (hm : x.store.kind.Matches after x.object) : v.Holds x :=
  ⟨Store.stamped ((w.store x.store).version + 1) after, (object?_congr hs _ _).trans (object?_put_self w _ _ _),
    (x.store.kind.matches_withMetadata _).2 hm⟩

/-- After a success the object that is wanted is held. -/
theorem holds_of_run_sync_ok (hw : w.Versioned) (hn : x.store.kind.HasDistinctNames x.object) {outcome : SyncOutcome}
    {v : World} (h : w.run (sync x.store x.object).run = (.ok outcome, v)) : v.Holds x := by
  rcases run_sync_cases hw x with ⟨live, hl, ha, hr⟩ | ⟨_, after, u, hr, hs, hafter⟩ | ⟨e, u, hr, -⟩
  · obtain rfl := (Prod.mk.inj (h.symm.trans hr)).2
    exact ⟨live, hl, x.store.kind.amend_eq_none_iff.1 ha⟩
  · obtain rfl := (Prod.mk.inj (h.symm.trans hr)).2
    refine holds_of_put hs ?_
    rcases hafter with ⟨-, rfl⟩ | ⟨live, -, ha⟩
    · exact x.store.kind.matches_self hn
    · exact x.store.kind.matches_of_amend hn ha
  · cases (Prod.mk.inj (h.symm.trans hr)).1

/-- What is held takes no write. -/
theorem run_sync_of_holds (h : w.Holds x) :
    w.run (sync x.store x.object).run = (.ok .unchanged, w.logged (.fetch x.store x.name)) := by
  obtain ⟨live, hl, hm⟩ := h
  exact run_sync_unchanged hl (x.store.kind.amend_eq_none_iff.2 hm)

end

end World

/-- The object in a place, if there is one, carries the name of the place. -/
def World.NamedAt (w : World) (r : StoreRef) (name : String) : Prop :=
  ∀ live, w.object? r name = some live → (r.kind.metadata live).name = some name

instance (w : World) (r : StoreRef) (name : String) : Decidable (w.NamedAt r name) :=
  decidable_of_iff (∀ live ∈ w.object? r name, (r.kind.metadata live).name = some name) Iff.rfl

namespace World

/-- What is put into a place under its name carries the name. -/
theorem namedAt_of_put {w v : World} {r : StoreRef} {name : String} {o : r.kind.Object}
    (hs : v.store = (w.set r ((w.store r).put name o).2).store) (hname : (r.kind.metadata o).name = some name) :
    v.NamedAt r name := by
  intro live hlive
  rw [object?_congr hs, object?_put_self] at hlive
  obtain rfl := Option.some.inj hlive
  rw [Store.stamped, Kind.metadata_withMetadata]
  exact hname

/-- The object in a place is as before, or it carries the name of the place, and writes there are not made to fail. -/
def SameOrWritten (r : StoreRef) (name : String) (w v : World) : Prop :=
  v.object? r name = w.object? r name ∨ v.blocks r name = false ∧ v.NamedAt r name

theorem sameOrWritten_answer {r : StoreRef} {name : String} (w : World) {c : StoreCall}
    (hc : c.isStatusWrite = true → c.store ≠ r) : SameOrWritten r name w (answer w c).2 := by
  by_cases hsame : (answer w c).2.object? r name = w.object? r name
  · exact .inl hsame
  have hblocks : w.blocks r name = false :=
    Bool.eq_false_iff.2 fun hblocks => hsame (object?_answer_of_blocks hblocks c)
  obtain ⟨rfl, htarget⟩ : r = c.store ∧ c.target? = some name := Decidable.byContradiction fun hplace =>
    hsame (object?_answer_of_ne w c (Decidable.not_and_iff_or_not.1 hplace))
  refine .inr ⟨(blocks_answer w c _ _).trans hblocks, ?_⟩
  cases c with
  | fetch => exact absurd rfl hsame
  | fetchAll => exact absurd rfl hsame
  | insert r o =>
    rcases answer_insert_cases w r o with ⟨other, hname, -, hw⟩ | ⟨e, -, hs⟩
    · obtain rfl : other = name := Option.some.inj (hname.symm.trans htarget)
      exact namedAt_of_put (w := w) (o := o) (by rw [hw]; rfl) hname
    · exact absurd (object?_congr hs _ _) hsame
  | update r o =>
    rcases answer_update_cases w r o with ⟨other, live, hname, -, -, hw⟩ | ⟨e, -, hs⟩
    · obtain rfl : other = name := Option.some.inj (hname.symm.trans htarget)
      exact namedAt_of_put (w := w) (o := o) (by rw [hw]; rfl) hname
    · exact absurd (object?_congr hs _ _) hsame
  | remove r other =>
    obtain rfl : other = name := Option.some.inj htarget
    rcases answer_remove_cases w r other with hw | ⟨e, -, hs⟩
    · have hgone : (answer w (.remove r other)).2.object? r other = none := by
        rw [hw, object?, store_set_self]
        exact Store.get?_remove_self _ _
      intro live hlive
      cases hgone.symm.trans hlive
    · exact absurd (object?_congr hs _ _) hsame
  | writeStatus r other version status => exact absurd rfl (hc rfl)

end World

/-- A plan that writes no status in a store leaves an object as it is, or writes it under its name. -/
theorem Plan.Makes.sameOrWritten {α : Type} {plan : Plan α} {r : StoreRef}
    (h : plan.Makes fun c => c.isStatusWrite = true → c.store ≠ r) (name : String) (w : World) :
    World.SameOrWritten r name w (w.run plan).2 := by
  refine h.keeps (fun v c hc hv => ?_) w (.inl rfl)
  have hanswer : World.SameOrWritten r name v (World.answer v c).2 := World.sameOrWritten_answer v hc
  rcases hanswer with hsame | hwritten
  · refine hv.imp hsame.trans fun hwritten => ⟨(World.blocks_answer v c r name).trans hwritten.1, fun live hlive => ?_⟩
    exact hwritten.2 live (hsame.symm.trans hlive)
  · exact .inr hwritten

/-- What differs is amended by one write, unless writes to it are made to fail. -/
theorem World.run_sync_updated {w : World} {x : Wanted} {live after : x.store.kind.Object}
    (hlive : w.object? x.store x.name = some live) (ha : x.store.kind.amend live x.object = some after)
    (hblocks : w.blocks x.store x.name = false) (hplace : w.NamedAt x.store x.name) :
    ∃ v, w.run (sync x.store x.object).run = (.ok .updated, v) ∧ w.MadeOnly (.update x.store after) v ∧
      v.store = (w.set x.store ((w.store x.store).put x.name after).2).store := by
  -- what is amended keeps its name and its version
  have hmetadata := x.store.kind.metadata_amend ha
  have hafter : (x.store.kind.metadata after).name = some x.name := by
    rw [hmetadata]
    exact hplace live hlive
  have hupdate := answer_update_ok (w := w.logged (.fetch x.store x.name)) hafter hblocks hlive
    (by rw [Store.versionOf, Store.versionOf, hmetadata])
  rw [run_sync_amended hlive ha, hupdate]
  refine ⟨_, rfl, ⟨w.logged (.fetch x.store x.name), .logged w rfl, ?_, ?_⟩, rfl⟩ <;> rw [hupdate]
  · rfl
  · exact .refl _

/-- What is wanted is brought into its state, unless writes are made to fail. -/
theorem World.run_sync_ok {w : World} {x : Wanted} (hblocks : w.Unblocked)
    (hname : (x.store.kind.metadata x.object).name = some x.name) (hplace : w.NamedAt x.store x.name) :
    ∃ o v, w.run (sync x.store x.object).run = (.ok o, v) := by
  cases hlive : w.object? x.store x.name with
  | none =>
    have hfetched : (w.logged (.fetch x.store x.name)).blocks x.store x.name = false := hblocks x.store x.name
    rw [run_sync_absent hlive, answer_insert_ok (w := w.logged (.fetch x.store x.name)) hname hfetched hlive]
    exact ⟨_, _, rfl⟩
  | some live =>
    cases ha : x.store.kind.amend live x.object with
    | none => exact ⟨_, _, run_sync_unchanged hlive ha⟩
    | some after =>
      obtain ⟨v, hv, -⟩ := run_sync_updated hlive ha (hblocks x.store x.name) hplace
      exact ⟨_, v, hv⟩

/-! ## What stays as it is -/

open World

/-- Every plan keeps the versions in order. -/
theorem Plan.keeps_versioned {α : Type} : ∀ p : Plan α, p.Keeps World.Versioned
  | .done _, _, h => h
  | .call c next, w, h => (next (answer w c).1).keeps_versioned _ (h.answer c)

theorem Plan.keeps_unblocked {α : Type} : ∀ p : Plan α, p.Keeps World.Unblocked
  | .done _, _, h => h
  | .call c next, w, h => (next (answer w c).1).keeps_unblocked _ (h.answer c)

theorem World.Versioned.of_run {α : Type} {plan : Plan α} {a : α} {w v : World} (hw : w.Versioned)
    (h : w.run plan = (a, v)) : v.Versioned := by
  have hv := plan.keeps_versioned w hw
  rwa [h] at hv

/-- Two wanted objects do not get in each other's way: they are the same one, or have different places. -/
def Wanted.Compatible (x y : Wanted) : Prop := y = x ∨ y.store ≠ x.store ∨ y.name ≠ x.name

theorem makes_onObject_ask {S : StoreCall → Prop} (action : StoreAction) (kind name : String) {c : StoreCall}
    (h : S c) :
    (Work.onObject action kind name (Work.ask c)).run.Makes S := by
  show (Except.mapError _ <$> (Work.ask c).run : Plan _).Makes _
  rw [map_eq_pure_bind]
  exact Plan.Makes.bind (fun _ => Plan.makes_pure _) (Plan.makes_ask h)

/-- Bringing an object into its state calls its store only, and writes no status. -/
theorem makes_sync (r : StoreRef) (desired : r.kind.Object) :
    (sync r desired).run.Makes fun c => c.store = r ∧ c.isStatusWrite = false := by
  refine Plan.Makes.work_bind (makes_onObject_ask _ _ _ ⟨rfl, rfl⟩) fun live => ?_
  cases live with
  | none => exact Plan.Makes.work_bind (makes_onObject_ask _ _ _ ⟨rfl, rfl⟩) fun _ => Plan.makes_pure _
  | some live =>
    dsimp only
    cases r.kind.amend live desired with
    | none => exact Plan.makes_pure _
    | some after => exact Plan.Makes.work_bind (makes_onObject_ask _ _ _ ⟨rfl, rfl⟩) fun _ => Plan.makes_pure _

theorem makes_ensureDeleted (r : StoreRef) (kind name : String) :
    (ensureDeleted r kind name).run.Makes (· = .remove r name) :=
  makes_onObject_ask _ _ _ rfl

section

variable {w : World} (hw : w.Versioned)

include hw

/-- An object stays as it is while another one is brought into its state. -/
theorem object?_run_sync_of_ne (x : Wanted) {r : StoreRef} {name : String} (h : r ≠ x.store ∨ name ≠ x.name) :
    (w.run (sync x.store x.object).run).2.object? r name = w.object? r name := by
  rcases run_sync_cases hw x with ⟨live, -, -, hr⟩ | ⟨_, after, v, hr, hs, -⟩ | ⟨e, v, hr, hs⟩
  · rw [hr]
    rfl
  · rw [hr, object?_congr hs]
    exact object?_set_of_ne w (fun _ => Store.get?_put_of_ne _ after) h
  · rw [hr]
    exact object?_congr hs r name

/-- What is held stays held while it, or an object of another place, is brought into its state. -/
theorem holds_run_sync {x y : Wanted} (hxy : x.Compatible y) (hy : w.Holds y) :
    (w.run (sync x.store x.object).run).2.Holds y := by
  rcases hxy with rfl | hne
  · rw [run_sync_of_holds hy]
    exact hy
  · exact hy.congr (object?_run_sync_of_ne hw x hne)

/-- Objects carry their names while one is brought into its state. -/
theorem namedAt_run_sync {x : Wanted} (hname : (x.store.kind.metadata x.object).name = some x.name) {r : StoreRef}
    {name : String} (h : w.NamedAt r name) : (w.run (sync x.store x.object).run).2.NamedAt r name := by
  by_cases hplace : r = x.store ∧ name = x.name
  · obtain ⟨rfl, rfl⟩ := hplace
    rcases run_sync_cases hw x with ⟨live, -, -, hr⟩ | ⟨_, after, v, hr, hs, hafter⟩ | ⟨e, v, hr, hs⟩
    · rw [hr]
      exact h
    · rw [hr]
      refine namedAt_of_put hs ?_
      rcases hafter with ⟨-, rfl⟩ | ⟨old, hold, ha⟩
      · exact hname
      · rw [x.store.kind.metadata_amend ha]
        exact h old hold
    · rw [hr]
      intro live hlive
      rw [object?_congr hs] at hlive
      exact h live hlive
  · intro live hlive
    rw [object?_run_sync_of_ne hw x (Decidable.not_and_iff_or_not.1 hplace)] at hlive
    exact h live hlive

/-- No object goes away while one is brought into its state. -/
theorem object?_run_sync_ne_none (x : Wanted) {r : StoreRef} {name : String} (h : w.object? r name ≠ none) :
    (w.run (sync x.store x.object).run).2.object? r name ≠ none := by
  by_cases hplace : r = x.store ∧ name = x.name
  · obtain ⟨rfl, rfl⟩ := hplace
    rcases run_sync_cases hw x with ⟨live, -, -, hr⟩ | ⟨_, after, v, hr, hs, -⟩ | ⟨e, v, hr, hs⟩
    · rw [hr]
      exact h
    · rw [hr, object?_congr hs, object?_put_self]
      exact Option.some_ne_none _
    · rw [hr, object?_congr hs]
      exact h
  · rw [object?_run_sync_of_ne hw x (Decidable.not_and_iff_or_not.1 hplace)]
    exact h

end

/-! ## Deleting -/

theorem run_ensureDeleted_of_unblocked {w : World} (hblocks : w.Unblocked) (r : StoreRef) (kind name : String) :
    ∃ b v, w.run (ensureDeleted r kind name).run = (.ok b, v) := by
  have hrun : w.run (ensureDeleted r kind name).run = _ := run_onObject_ask w .delete kind name (.remove r name)
  rw [hrun, answer_remove_ok (hblocks r name)]
  exact ⟨_, _, rfl⟩

end HubSearch
