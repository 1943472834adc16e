/-
Stored objects up to their versions. What bringing an object into its desired state comes to depends on the live object
and not on its version (`run_sync_alike`). Only where the live object carries another name than the one it stands under
can the failure have another reason, since the update is then refused in the place of that name.
-/
import HubSearch.Proofs.Store.Twin
import HubSearch.Proofs.Sync

namespace HubSearch

open World

/-! ## Objects without their versions -/

/-- An object without its version. -/
def Kind.versionless (k : Kind) (o : k.Object) : k.Object :=
  k.withMetadata o { k.metadata o with resourceVersion := none }

@[simp]
theorem Kind.versionless_stamped {k : Kind} (n : Nat) (o : k.Object) :
    k.versionless (Store.stamped n o) = k.versionless o := by
  cases k <;> rfl

theorem Kind.name_eq_of_versionless {k : Kind} {o o' : k.Object} (h : k.versionless o' = k.versionless o) :
    (k.metadata o').name = (k.metadata o).name := by
  have hname := congrArg (fun o => (k.metadata o).name) h
  simpa [versionless] using hname

/-- Amending an object does not look at its version. -/
theorem Kind.map_versionless_amend : ∀ (k : Kind) (live desired : k.Object),
    (k.amend live desired).map k.versionless = k.amend (k.versionless live) desired
  | .search, _, _ => rfl
  | .persistentVolumeClaim, _, _ => rfl
  | .configMap, live, desired => by
    change Option.map _ (ConfigMap.amend live desired) = ConfigMap.amend { live with metadata := _ } desired
    unfold ConfigMap.amend
    dsimp only
    cases changedPairs live.data desired.data <;> rfl
  | .serviceAccount, live, desired => apply_ite (Option.map (versionless .serviceAccount)) _ none (some _)
  | .clusterRole, live, desired => apply_ite (Option.map (versionless .clusterRole)) _ none (some _)
  | .clusterRoleBinding, live, desired => apply_ite (Option.map (versionless .clusterRoleBinding)) _ none (some _)
  | .service, _, ⟨_, none⟩ => rfl
  | .service, live, ⟨_, some want⟩ => apply_ite (Option.map (versionless .service)) _ none (some _)
  | .deployment, _, ⟨_, none⟩ => rfl
  | .deployment, live, ⟨_, some want⟩ => apply_ite (Option.map (versionless .deployment)) _ none (some _)
  | .unstructured k, live, desired => by
    change Option.map _ (Unstructured.amend live desired) = Unstructured.amend { live with metadata := _ } desired
    unfold Unstructured.amend
    cases desired.data with
    | object want =>
      dsimp only
      cases Unstructured.changedFields live.data want <;> rfl
    | _ => rfl

namespace World

variable {w v : World} {r : StoreRef} {name : String}

/-- What stands in a place, up to its version. -/
def content? (w : World) (r : StoreRef) (name : String) : Option r.kind.Object :=
  (w.object? r name).map r.kind.versionless

theorem content?_congr (h : v.object? r name = w.object? r name) : v.content? r name = w.content? r name := by
  rw [content?, content?, h]

theorem content?_of_put {o : r.kind.Object} (hs : v.store = (w.set r ((w.store r).put name o).2).store) :
    v.content? r name = some (r.kind.versionless o) := by
  rw [content?, object?_congr hs, object?_put_self, Option.map_some, Kind.versionless_stamped]

/-! ## Calls that are made to fail -/

theorem write_of_blocks {β : Type} (h : w.blocks r name = true)
    (act : Store r.kind → Except OperatorError (β × Store r.kind)) :
    w.write r name act = (.error (.other ("injected failure writing " ++ Store.describe r.kind name)), w) :=
  if_pos h

theorem answer_insert_of_blocks {o : r.kind.Object} (hname : (r.kind.metadata o).name = some name)
    (h : w.blocks r name = true) : answer w (.insert r o) =
      (.error (.other ("injected failure writing " ++ Store.describe r.kind name)), w.logged (.insert r o)) :=
  (writeNamed_of_name hname _ _).trans (write_of_blocks (w := w.logged _) h _)

theorem answer_update_of_blocks {o : r.kind.Object} (hname : (r.kind.metadata o).name = some name)
    (h : w.blocks r name = true) : answer w (.update r o) =
      (.error (.other ("injected failure writing " ++ Store.describe r.kind name)), w.logged (.update r o)) :=
  (writeNamed_of_name hname _ _).trans (write_of_blocks (w := w.logged _) h _)

theorem answer_remove_of_blocks (h : w.blocks r name = true) : answer w (.remove r name) =
    (.error (.other ("injected failure writing " ++ Store.describe r.kind name)), w.logged (.remove r name)) := by
  show (w.logged (.remove r name)).write r name (fun s => .ok (s.remove name)) = _
  exact write_of_blocks (w := w.logged _) h _

/-- An amended object that carries another name than the one it stands under replaces nothing. -/
theorem answer_update_misnamed (hw : w.Versioned) {x : Wanted} {live after : x.store.kind.Object}
    (hlive : w.object? x.store x.name = some live) (ha : x.store.kind.amend live x.object = some after)
    (hname : (x.store.kind.metadata live).name ≠ some x.name) :
    ∃ e u, answer w (.update x.store after) = (.error e, u) ∧ u.store = w.store := by
  have hmetadata := x.store.kind.metadata_amend ha
  rcases answer_update_cases w x.store after with ⟨other, old, hother, hold, hv, -⟩ | ⟨e, he, hs⟩
  · -- the amended object carries the version of the live one, which no other object has
    have hversion : Store.versionOf after = Store.versionOf live := by
      rw [Store.versionOf, Store.versionOf, hmetadata]
    obtain ⟨n, -, hn⟩ := (hw x.store).known x.name live hlive
    have hplace : x.name = other := by
      refine (hw x.store).distinct x.name other live old hlive hold ?_
      rw [← hversion]
      exact hv.resolve_left (by rw [hversion, hn]; exact Option.some_ne_none _)
    rw [hmetadata, ← hplace] at hother
    exact absurd hother hname
  · exact ⟨e, _, Prod.ext he rfl, hs⟩

end World

/-! ## What bringing an object into its state comes to -/

namespace World

variable {w : World} {x : Wanted}

/-- The update of an object fails. -/
def FailedUpdate (x : Wanted) (e : OperatorError) : Prop := ∃ reason, e = .apply .update x.kindName x.name reason

/-- The failure of a write that is made to fail. -/
def blockedFailure (x : Wanted) (action : StoreAction) : OperatorError :=
  .apply action x.kindName x.name (.other ("injected failure writing " ++ Store.describe x.store.kind x.name))

theorem run_sync_created (hname : (x.store.kind.metadata x.object).name = some x.name)
    (hfree : w.object? x.store x.name = none) (hblocks : w.blocks x.store x.name = false) :
    ∃ u, w.run (sync x.store x.object).run = (.ok .created, u) ∧
      u.store = (w.set x.store ((w.store x.store).put x.name x.object).2).store := by
  have hinsert := answer_insert_ok (w := w.logged (.fetch x.store x.name)) hname hblocks hfree
  rw [run_sync_absent hfree, hinsert]
  exact ⟨_, rfl, rfl⟩

theorem run_sync_absent_of_blocks (hname : (x.store.kind.metadata x.object).name = some x.name)
    (hfree : w.object? x.store x.name = none) (hblocks : w.blocks x.store x.name = true) :
    ∃ u, w.run (sync x.store x.object).run = (.error (blockedFailure x .create), u) ∧ u.store = w.store := by
  have hinsert := answer_insert_of_blocks (w := w.logged (.fetch x.store x.name)) hname hblocks
  rw [run_sync_absent hfree, hinsert]
  exact ⟨_, rfl, rfl⟩

theorem run_sync_amended_of_blocks {live after : x.store.kind.Object} (hlive : w.object? x.store x.name = some live)
    (ha : x.store.kind.amend live x.object = some after) (hname : (x.store.kind.metadata live).name = some x.name)
    (hblocks : w.blocks x.store x.name = true) :
    ∃ u, w.run (sync x.store x.object).run = (.error (blockedFailure x .update), u) ∧ u.store = w.store := by
  have hafter : (x.store.kind.metadata after).name = some x.name := by
    rw [x.store.kind.metadata_amend ha, hname]
  have hupdate := answer_update_of_blocks (w := w.logged (.fetch x.store x.name)) hafter hblocks
  rw [run_sync_amended hlive ha, hupdate]
  exact ⟨_, rfl, rfl⟩

theorem run_sync_misnamed (hw : w.Versioned) {live after : x.store.kind.Object}
    (hlive : w.object? x.store x.name = some live) (ha : x.store.kind.amend live x.object = some after)
    (hname : (x.store.kind.metadata live).name ≠ some x.name) :
    ∃ e u, w.run (sync x.store x.object).run = (.error e, u) ∧ FailedUpdate x e ∧ u.store = w.store := by
  obtain ⟨e, u, hupdate, hs⟩ :=
    answer_update_misnamed (w := w.logged (.fetch x.store x.name)) (hw.congr rfl) hlive ha hname
  rw [run_sync_amended hlive ha, hupdate]
  exact ⟨_, u, rfl, ⟨e, rfl⟩, hs⟩

end World

/-! ## Changes in one place -/

/-- Nothing has changed but the object in one place, and the version of its store. -/
structure World.ChangedAt (r : StoreRef) (name : String) (w v : World) : Prop where
  versioned : v.Versioned
  blocks : ∀ r' name', v.blocks r' name' = w.blocks r' name'
  store : ∀ r', r' ≠ r → v.store r' = w.store r'
  object : ∀ r' name', r' ≠ r ∨ name' ≠ name → v.object? r' name' = w.object? r' name'

/-- No run changes which writes are made to fail. -/
theorem World.blocks_run {α : Type} (w : World) (p : Plan α) (r : StoreRef) (name : String) :
    (w.run p).2.blocks r name = w.blocks r name :=
  p.makes_true.keeps (P := fun v => v.blocks r name = w.blocks r name)
    (fun v c _ hv => (blocks_answer v c r name).trans hv) w rfl

theorem World.changedAt_run_sync {w : World} (hw : w.Versioned) (x : Wanted) :
    w.ChangedAt x.store x.name (w.run (sync x.store x.object).run).2 where
  versioned := Plan.keeps_versioned _ w hw
  blocks := w.blocks_run _
  store := fun _ hne =>
    ((makes_sync x.store x.object).mono fun _ hc _ heq => hne (heq.symm.trans hc.1)).keeps_store w rfl
  object := fun _ _ hne => object?_run_sync_of_ne hw x hne

theorem World.changedAt_run_ensureDeleted {w : World} (hw : w.Versioned) (r : StoreRef) (kind name : String) :
    w.ChangedAt r name (w.run (ensureDeleted r kind name).run).2 where
  versioned := Plan.keeps_versioned _ w hw
  blocks := w.blocks_run _
  store := fun _ hne => ((makes_ensureDeleted r kind name).mono fun c hc _ heq => by
    subst hc
    exact hne heq.symm).keeps_store w rfl
  object := fun r' name' hne => by
    have hrun : w.run (ensureDeleted r kind name).run = _ :=
      World.run_onObject_ask w .delete kind name (.remove r name)
    rw [hrun]
    exact object?_answer_of_ne w (.remove r name) (hne.imp_right fun h heq => h (Option.some.inj heq).symm)

/-- Deleting puts no object anywhere. -/
theorem World.object?_of_run_ensureDeleted {w : World} {r : StoreRef} {kind name : String} {o : r.kind.Object}
    (h : (w.run (ensureDeleted r kind name).run).2.object? r name = some o) : w.object? r name = some o := by
  have hrun : w.run (ensureDeleted r kind name).run = _ := World.run_onObject_ask w .delete kind name (.remove r name)
  rw [hrun] at h
  rcases answer_remove_cases w r name with hw | ⟨e, -, hs⟩
  · rw [hw, object?, store_set_self, Store.get?_remove_self] at h
    cases h
  · rwa [object?_congr hs] at h

/-! ## In two worlds -/

section

variable {w v : World} {x : Wanted}

/-- Failures that differ in why an object cannot be updated that carries another name than the one it stands under. -/
def World.RefusedUpdate (w : World) (x : Wanted) (e e' : OperatorError) : Prop :=
  ¬w.NamedAt x.store x.name ∧ FailedUpdate x e ∧ FailedUpdate x e'

theorem run_sync_alike_absent (hname : (x.store.kind.metadata x.object).name = some x.name)
    (hblocks : v.blocks x.store x.name = w.blocks x.store x.name) (hw : w.object? x.store x.name = none)
    (hv : v.object? x.store x.name = none) :
    (v.run (sync x.store x.object).run).1 = (w.run (sync x.store x.object).run).1 ∧
      (v.run (sync x.store x.object).run).2.content? x.store x.name =
        (w.run (sync x.store x.object).run).2.content? x.store x.name := by
  cases hb : w.blocks x.store x.name with
  | true =>
    obtain ⟨u, hu, hs⟩ := run_sync_absent_of_blocks hname hw hb
    obtain ⟨u', hu', hs'⟩ := run_sync_absent_of_blocks hname hv (hblocks.trans hb)
    rw [hu, hu']
    refine ⟨rfl, ?_⟩
    rw [content?, content?, object?_congr hs, object?_congr hs', hv, hw]
  | false =>
    obtain ⟨u, hu, hs⟩ := run_sync_created hname hw hb
    obtain ⟨u', hu', hs'⟩ := run_sync_created hname hv (hblocks.trans hb)
    rw [hu, hu', content?_of_put hs, content?_of_put hs']
    exact ⟨rfl, rfl⟩

theorem run_sync_alike_amended (hw : w.Versioned) (hv : v.Versioned)
    (hblocks : v.blocks x.store x.name = w.blocks x.store x.name) {live live' after after' : x.store.kind.Object}
    (hlive : w.object? x.store x.name = some live) (hlive' : v.object? x.store x.name = some live')
    (ha : x.store.kind.amend live x.object = some after) (ha' : x.store.kind.amend live' x.object = some after')
    (hsame : x.store.kind.versionless live' = x.store.kind.versionless live)
    (hafter : x.store.kind.versionless after' = x.store.kind.versionless after) :
    SameUpTo (w.RefusedUpdate x) (w.run (sync x.store x.object).run).1
        (v.run (sync x.store x.object).run).1 ∧
      (v.run (sync x.store x.object).run).2.content? x.store x.name =
        (w.run (sync x.store x.object).run).2.content? x.store x.name := by
  have hunchanged : ∀ {u u' : World}, u.store = w.store → u'.store = v.store →
      u'.content? x.store x.name = u.content? x.store x.name := by
    intro u u' hs hs'
    rw [content?, content?, object?_congr hs, object?_congr hs', hlive, hlive', Option.map_some, Option.map_some, hsame]
  by_cases hname : (x.store.kind.metadata live).name = some x.name
  · have hname' := (Kind.name_eq_of_versionless hsame).trans hname
    cases hb : w.blocks x.store x.name with
    | true =>
      obtain ⟨u, hu, hs⟩ := run_sync_amended_of_blocks hlive ha hname hb
      obtain ⟨u', hu', hs'⟩ := run_sync_amended_of_blocks hlive' ha' hname' (hblocks.trans hb)
      rw [hu, hu']
      exact ⟨.inl rfl, hunchanged hs hs'⟩
    | false =>
      have hplace : w.NamedAt x.store x.name := fun o ho => by rwa [Option.some.inj (ho.symm.trans hlive)]
      have hplace' : v.NamedAt x.store x.name := fun o ho => by rwa [Option.some.inj (ho.symm.trans hlive')]
      obtain ⟨u, hu, -, hs⟩ := run_sync_updated hlive ha hb hplace
      obtain ⟨u', hu', -, hs'⟩ := run_sync_updated hlive' ha' (hblocks.trans hb) hplace'
      rw [hu, hu', content?_of_put hs, content?_of_put hs', hafter]
      exact ⟨.inl rfl, rfl⟩
  · have hname' : (x.store.kind.metadata live').name ≠ some x.name := by
      rwa [Kind.name_eq_of_versionless hsame]
    obtain ⟨e, u, hu, he, hs⟩ := run_sync_misnamed hw hlive ha hname
    obtain ⟨e', u', hu', he', hs'⟩ := run_sync_misnamed hv hlive' ha' hname'
    have hplace : ¬w.NamedAt x.store x.name := fun hplace => hname (hplace live hlive)
    rw [hu, hu']
    exact ⟨.inr ⟨e, e', rfl, rfl, hplace, he, he'⟩, hunchanged hs hs'⟩

/-- Where the same stands in a place up to its version, and the same writes are made to fail, bringing an object into
its state gives the same; only why an object cannot be updated that carries another name may differ. -/
theorem run_sync_alike (hw : w.Versioned) (hv : v.Versioned)
    (hname : (x.store.kind.metadata x.object).name = some x.name)
    (hblocks : v.blocks x.store x.name = w.blocks x.store x.name)
    (hcontent : v.content? x.store x.name = w.content? x.store x.name) :
    SameUpTo (w.RefusedUpdate x) (w.run (sync x.store x.object).run).1
        (v.run (sync x.store x.object).run).1 ∧
      (v.run (sync x.store x.object).run).2.content? x.store x.name =
        (w.run (sync x.store x.object).run).2.content? x.store x.name := by
  cases hlive : w.object? x.store x.name with
  | none =>
    have hlive' : v.object? x.store x.name = none := by
      rwa [content?, content?, hlive, Option.map_none, Option.map_eq_none_iff] at hcontent
    obtain ⟨hresult, hafter⟩ := run_sync_alike_absent hname hblocks hlive hlive'
    exact ⟨.inl hresult, hafter⟩
  | some live =>
    rw [content?, content?, hlive, Option.map_some] at hcontent
    obtain ⟨live', hlive', hsame⟩ := Option.map_eq_some_iff.1 hcontent
    have hamend : (x.store.kind.amend live' x.object).map x.store.kind.versionless =
        (x.store.kind.amend live x.object).map x.store.kind.versionless := by
      rw [Kind.map_versionless_amend, Kind.map_versionless_amend, hsame]
    cases ha : x.store.kind.amend live x.object with
    | none =>
      rw [ha, Option.map_none, Option.map_eq_none_iff] at hamend
      rw [run_sync_unchanged hlive ha, run_sync_unchanged hlive' hamend]
      refine ⟨.inl rfl, ?_⟩
      show (v.object? x.store x.name).map _ = (w.object? x.store x.name).map _
      rw [hlive, hlive', Option.map_some, Option.map_some, hsame]
    | some after =>
      rw [ha, Option.map_some] at hamend
      obtain ⟨after', ha', hafter⟩ := Option.map_eq_some_iff.1 hamend
      exact run_sync_alike_amended hw hv hblocks hlive hlive' ha ha' hsame hafter

/-- Deleting does not look at the object. -/
theorem run_ensureDeleted_alike {r : StoreRef} {name : String} (kind : String)
    (hblocks : v.blocks r name = w.blocks r name) (hcontent : v.content? r name = w.content? r name) :
    (v.run (ensureDeleted r kind name).run).1 = (w.run (ensureDeleted r kind name).run).1 ∧
      (v.run (ensureDeleted r kind name).run).2.content? r name =
        (w.run (ensureDeleted r kind name).run).2.content? r name := by
  have hrun : ∀ u : World, u.run (ensureDeleted r kind name).run = _ := fun u =>
    World.run_onObject_ask u .delete kind name (.remove r name)
  rw [hrun, hrun]
  cases hb : w.blocks r name with
  | true =>
    rw [answer_remove_of_blocks hb, answer_remove_of_blocks (hblocks.trans hb)]
    exact ⟨rfl, hcontent⟩
  | false =>
    have hcontains : (v.store r).objects.contains name = (w.store r).objects.contains name := by
      have hsome := congrArg Option.isSome hcontent
      rw [content?, content?, Option.isSome_map, Option.isSome_map] at hsome
      exact hsome
    have hgone : ∀ u : World,
        ((u.logged (.remove r name)).set r ((u.store r).remove name).2).content? r name = none := by
      intro u
      rw [content?, object?, store_set_self, Store.get?_remove_self]
      rfl
    rw [answer_remove_ok hb, answer_remove_ok (hblocks.trans hb), hgone, hgone, hcontains]
    exact ⟨rfl, rfl⟩

end

end HubSearch
