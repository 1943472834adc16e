/-
Bringing one object into its desired state as an upsert. It is created where it is absent, amended where it differs and
left alone where it agrees (`upsert_run_sync`): after one fetch, by one write at most, which takes effect in its own
place or not at all. Main statement: `sync_upserts`.
-/
import HubSearch.Proofs.Sync.Version

namespace HubSearch

open World

/-! ## Calls that succeed -/

namespace World

variable {w : World} {r : StoreRef} {o : r.kind.Object} {name : String}

/-- The call succeeds. -/
def Accepts (w : World) (c : StoreCall) : Prop := (answer w c).1.isOk = true

/-- The answer to a call does not depend on what is logged. -/
theorem fst_answer_logged (w : World) (c d : StoreCall) : (answer (w.logged d) c).1 = (answer w c).1 :=
  (@answer_congr w (w.logged d) c rfl rfl).1

theorem not_accepts_of_error {c : StoreCall} {e : OperatorError} (h : (answer w c).1 = .error e) : ¬w.Accepts c :=
  fun hok => Bool.false_ne_true ((congrArg Except.isOk h).symm.trans hok)

/-- An object can be inserted where none is, unless writes there are made to fail. -/
theorem accepts_insert_iff (hname : (r.kind.metadata o).name = some name) :
    w.Accepts (.insert r o) ↔ w.object? r name = none ∧ w.blocks r name = false := by
  constructor
  · intro h
    have hblocks : w.blocks r name = false := Bool.eq_false_iff.2 fun hb =>
      not_accepts_of_error (congrArg Prod.fst (answer_insert_of_blocks hname hb)) h
    rcases answer_insert_cases w r o with ⟨other, hother, hfree, -⟩ | ⟨e, he, -⟩
    · obtain rfl : name = other := Option.some.inj (hname.symm.trans hother)
      exact ⟨hfree, hblocks⟩
    · exact absurd h (not_accepts_of_error he)
  · rintro ⟨hfree, hblocks⟩
    rw [Accepts, answer_insert_ok hname hblocks hfree]
    rfl

/-- An object can be updated in the version that is there, unless writes there are made to fail. -/
theorem accepts_update_iff {live : r.kind.Object} (hname : (r.kind.metadata o).name = some name)
    (hlive : w.object? r name = some live) (hv : Store.versionOf o = Store.versionOf live) :
    w.Accepts (.update r o) ↔ w.blocks r name = false := by
  constructor
  · exact fun h => Bool.eq_false_iff.2 fun hb =>
      not_accepts_of_error (congrArg Prod.fst (answer_update_of_blocks hname hb)) h
  · intro hblocks
    rw [Accepts, answer_update_ok hname hblocks hlive hv]
    rfl

theorem log_write {β : Type} (w : World) (r : StoreRef) (name : String)
    (act : Store r.kind → Except OperatorError (β × Store r.kind)) : (w.write r name act).2.log = w.log := by
  rcases write_cases w r name act with ⟨b, s, -, -, hw⟩ | ⟨e, hw⟩ <;> exact congrArg (·.2.log) hw

theorem log_writeNamed (w : World) (r : StoreRef) (c : StoreCall) (o : r.kind.Object)
    (act : Store r.kind → String → Except OperatorError (r.kind.Object × Store r.kind)) :
    (w.writeNamed r c o act).2.log = w.log ∨ (w.writeNamed r c o act).2.log = w.log ++ [c] := by
  unfold writeNamed
  split
  · exact .inl rfl
  · exact .inr (log_write (w.logged c) r _ _)

/-- A call is logged once, if it is one. -/
theorem log_answer (w : World) (c : StoreCall) : (answer w c).2.log = w.log ∨ (answer w c).2.log = w.log ++ [c] := by
  cases c with
  | fetch => exact .inr rfl
  | fetchAll => exact .inr rfl
  | insert => exact log_writeNamed ..
  | update => exact log_writeNamed ..
  | remove => exact .inr (log_write (w.logged _) _ _ _)
  | writeStatus => exact .inr (log_write (w.logged _) _ _ _)

end World

/-! ## The ways to bring an object into its state -/

/-- The object was put into its place as the next version of its store, and nothing else has changed. -/
def Wanted.Put (x : Wanted) (w : World) (o : x.store.kind.Object) (v : World) : Prop :=
  v.store = (w.set x.store ((w.store x.store).put x.name o).2).store

/-- The object was fetched, and then a write was tried; one of an object without a name is no call. -/
def Wanted.Tried (x : Wanted) (w : World) (c : StoreCall) (v : World) : Prop :=
  v.log = w.log ++ [.fetch x.store x.name] ∨ v.log = w.log ++ [.fetch x.store x.name, c]

/-- What bringing an object into its desired state comes to. -/
inductive Wanted.Upsert (x : Wanted) (w : World) : Except OperatorError SyncOutcome → World → Prop
  /-- The live object agrees with the desired one. -/
  | unchanged (hholds : w.Holds x) : Upsert x w (.ok .unchanged) (w.logged (.fetch x.store x.name))
  /-- There was no object, and the desired one is in its place. -/
  | created {v : World} (habsent : w.object? x.store x.name = none)
      (haccepts : w.Accepts (.insert x.store x.object)) (hput : x.Put w x.object v)
      (hlog : v.log = w.log ++ [.fetch x.store x.name, .insert x.store x.object]) :
      Upsert x w (.ok .created) v
  /-- The live object differed, and is in its place as it was amended. -/
  | updated {live after : x.store.kind.Object} {v : World} (hlive : w.object? x.store x.name = some live)
      (hamend : x.store.kind.amend live x.object = some after) (haccepts : w.Accepts (.update x.store after))
      (hput : x.Put w after v)
      (hlog : v.log = w.log ++ [.fetch x.store x.name, .update x.store after]) :
      Upsert x w (.ok .updated) v
  /-- There was no object, and the desired one was refused. -/
  | notCreated {reason : OperatorError} {v : World} (habsent : w.object? x.store x.name = none)
      (hrefused : (answer w (.insert x.store x.object)).1 = .error reason) (hstore : v.store = w.store)
      (hlog : x.Tried w (.insert x.store x.object) v) :
      Upsert x w (.error (.apply .create x.kindName x.name reason)) v
  /-- The live object differed, and was refused as it was amended. -/
  | notUpdated {live after : x.store.kind.Object} {reason : OperatorError} {v : World}
      (hlive : w.object? x.store x.name = some live) (hamend : x.store.kind.amend live x.object = some after)
      (hrefused : (answer w (.update x.store after)).1 = .error reason) (hstore : v.store = w.store)
      (hlog : x.Tried w (.update x.store after) v) :
      Upsert x w (.error (.apply .update x.kindName x.name reason)) v

section

variable {w : World} {x : Wanted}

theorem tried_answer (x : Wanted) (w : World) (c : StoreCall) :
    x.Tried w c (answer (w.logged (.fetch x.store x.name)) c).2 :=
  (log_answer (w.logged (.fetch x.store x.name)) c).imp_right fun h => h.trans (List.append_assoc _ _ _)

theorem upsert_absent (habsent : w.object? x.store x.name = none) :
    x.Upsert w (w.run (sync x.store x.object).run).1 (w.run (sync x.store x.object).run).2 := by
  have hanswer := fst_answer_logged w (.insert x.store x.object) (.fetch x.store x.name)
  rw [run_sync_absent habsent]
  rcases answer_insert_wanted_cases (w.logged (.fetch x.store x.name)) x with hc | ⟨e, he, hs⟩
  · have haccepts : w.Accepts (.insert x.store x.object) := by
      rw [Accepts, ← hanswer, hc]
      rfl
    rw [hc]
    exact .created habsent haccepts rfl (List.append_assoc _ _ _)
  · rw [he]
    exact .notCreated habsent (hanswer.symm.trans he) hs (tried_answer x w _)

theorem upsert_amended (hw : w.Versioned) {live after : x.store.kind.Object}
    (hlive : w.object? x.store x.name = some live) (hamend : x.store.kind.amend live x.object = some after) :
    x.Upsert w (w.run (sync x.store x.object).run).1 (w.run (sync x.store x.object).run).2 := by
  have hanswer := fst_answer_logged w (.update x.store after) (.fetch x.store x.name)
  have hfetched : (w.logged (.fetch x.store x.name)).Versioned := hw.congr rfl
  rw [run_sync_amended hlive hamend]
  rcases answer_update_amended_cases hfetched hlive hamend with hc | ⟨e, he, hs⟩
  · have haccepts : w.Accepts (.update x.store after) := by
      rw [Accepts, ← hanswer, hc]
      rfl
    rw [hc]
    exact .updated hlive hamend haccepts rfl (List.append_assoc _ _ _)
  · rw [he]
    exact .notUpdated hlive hamend (hanswer.symm.trans he) hs (tried_answer x w _)

/-- What was fetched decides on the write, and the write on what comes of it. -/
theorem upsert_run_sync (hw : w.Versioned) (x : Wanted) :
    x.Upsert w (w.run (sync x.store x.object).run).1 (w.run (sync x.store x.object).run).2 := by
  cases hlive : w.object? x.store x.name with
  | none => exact upsert_absent hlive
  | some live =>
    cases hamend : x.store.kind.amend live x.object with
    | none =>
      rw [run_sync_unchanged hlive hamend]
      exact .unchanged ⟨live, hlive, x.store.kind.amend_eq_none_iff.1 hamend⟩
    | some after => exact upsert_amended hw hlive hamend

end

/-! ## What follows from them -/

namespace Wanted.Upsert

variable {x : Wanted} {w v : World} {r : Except OperatorError SyncOutcome}

theorem created_iff (h : x.Upsert w r v) :
    r = .ok .created ↔ w.object? x.store x.name = none ∧ w.Accepts (.insert x.store x.object) := by
  constructor
  · rintro rfl
    cases h with
    | created habsent haccepts _ _ => exact ⟨habsent, haccepts⟩
  · rintro ⟨habsent, haccepts⟩
    cases h with
    | unchanged hholds =>
      obtain ⟨live, hlive, -⟩ := hholds
      cases habsent.symm.trans hlive
    | created => rfl
    | updated hlive => cases habsent.symm.trans hlive
    | notCreated _ hrefused => exact absurd haccepts (not_accepts_of_error hrefused)
    | notUpdated hlive => cases habsent.symm.trans hlive

theorem updated_iff (h : x.Upsert w r v) :
    r = .ok .updated ↔ ∃ live after, w.object? x.store x.name = some live ∧ ¬x.store.kind.Matches live x.object ∧
      x.store.kind.amend live x.object = some after ∧ w.Accepts (.update x.store after) := by
  constructor
  · rintro rfl
    cases h with
    | updated hlive hamend haccepts =>
      refine ⟨_, _, hlive, fun hm => ?_, hamend, haccepts⟩
      cases hamend.symm.trans (x.store.kind.amend_eq_none_iff.2 hm)
  · rintro ⟨live, after, hlive, hdiffers, hamend, haccepts⟩
    cases h with
    | unchanged hholds =>
      obtain ⟨other, hother, hm⟩ := hholds
      obtain rfl := Option.some.inj (hlive.symm.trans hother)
      exact absurd hm hdiffers
    | created habsent => cases habsent.symm.trans hlive
    | updated => rfl
    | notCreated habsent => cases habsent.symm.trans hlive
    | notUpdated hother hamended hrefused =>
      -- what was refused is the live object, amended in the only way there is
      obtain rfl := Option.some.inj (hlive.symm.trans hother)
      obtain rfl := Option.some.inj (hamend.symm.trans hamended)
      exact absurd haccepts (not_accepts_of_error hrefused)

theorem unchanged_iff (h : x.Upsert w r v) : r = .ok .unchanged ↔ w.Holds x := by
  constructor
  · rintro rfl
    cases h with
    | unchanged hholds => exact hholds
  · rintro ⟨live, hlive, hm⟩
    have hkept : x.store.kind.amend live x.object = none := x.store.kind.amend_eq_none_iff.2 hm
    cases h with
    | unchanged => rfl
    | created habsent => cases habsent.symm.trans hlive
    | updated hother hamend =>
      obtain rfl := Option.some.inj (hlive.symm.trans hother)
      cases hkept.symm.trans hamend
    | notCreated habsent => cases habsent.symm.trans hlive
    | notUpdated hother hamend =>
      obtain rfl := Option.some.inj (hlive.symm.trans hother)
      cases hkept.symm.trans hamend

/-- There is one fetch, and one write at most, of the same store. -/
theorem calls (h : x.Upsert w r v) : ∃ writes, v.log = w.log ++ .fetch x.store x.name :: writes ∧
    writes.length ≤ 1 ∧ ∀ c ∈ writes, c.isWrite = true ∧ c.store = x.store := by
  have htried : ∃ c, (c.isWrite = true ∧ c.store = x.store) ∧ x.Tried w c v := by
    cases h with
    | unchanged => exact ⟨.remove x.store x.name, ⟨rfl, rfl⟩, .inl rfl⟩
    | created _ _ _ hlog => exact ⟨_, ⟨rfl, rfl⟩, .inr hlog⟩
    | updated _ _ _ _ hlog => exact ⟨_, ⟨rfl, rfl⟩, .inr hlog⟩
    | notCreated _ _ _ hlog => exact ⟨_, ⟨rfl, rfl⟩, hlog⟩
    | notUpdated _ _ _ _ hlog => exact ⟨_, ⟨rfl, rfl⟩, hlog⟩
  obtain ⟨c, hc, hlog | hlog⟩ := htried
  · exact ⟨[], hlog, Nat.zero_le 1, fun _ h => nomatch h⟩
  · exact ⟨[c], hlog, Nat.le_refl 1, fun d hd => by rwa [List.mem_singleton.1 hd]⟩

theorem put_of_created (h : x.Upsert w (.ok .created) v) : x.Put w x.object v := by
  cases h with
  | created _ _ hput _ => exact hput

theorem put_of_updated (h : x.Upsert w (.ok .updated) v) {live after : x.store.kind.Object}
    (hlive : w.object? x.store x.name = some live) (hamend : x.store.kind.amend live x.object = some after) :
    x.Put w after v := by
  cases h with
  | updated hother hamended _ hput _ =>
    obtain rfl := Option.some.inj (hlive.symm.trans hother)
    obtain rfl := Option.some.inj (hamend.symm.trans hamended)
    exact hput

theorem world_of_unchanged (h : x.Upsert w (.ok .unchanged) v) : v = w.logged (.fetch x.store x.name) := by
  cases h with
  | unchanged => rfl

/-- A failure names the write that failed, and nothing has changed. -/
theorem of_error {e : OperatorError} (h : x.Upsert w (.error e) v) : v.store = w.store ∧
    ∃ reason, e = .apply (if w.object? x.store x.name = none then .create else .update) x.kindName x.name reason := by
  cases h with
  | notCreated habsent _ hstore _ => exact ⟨hstore, _, by rw [if_pos habsent]⟩
  | notUpdated hlive _ _ hstore _ => exact ⟨hstore, _, by rw [if_neg (by rw [hlive]; exact Option.some_ne_none _)]⟩

end Wanted.Upsert

/-- Bringing an object into its desired state makes one fetch and at most one write, and is an upsert. It creates the
object where it is absent, amends it where it differs and leaves it alone where it agrees; when the write fails, the
failure names what was tried and nothing has changed. Whether the write fails is up to the failures that are injected,
as long as the live object carries its own name. No other place is touched, and after a success the same object takes
nothing but another fetch. -/
theorem sync_upserts {w v : World} (hw : w.Built) {x : Wanted} {r : Except OperatorError SyncOutcome}
    (hname : (x.store.kind.metadata x.object).name = some x.name) (hn : x.store.kind.HasDistinctNames x.object)
    (h : w.run (sync x.store x.object).run = (r, v)) :
    (∃ writes, v.log = w.log ++ .fetch x.store x.name :: writes ∧ writes.length ≤ 1 ∧
      ∀ c ∈ writes, c.isWrite = true ∧ c.store = x.store) ∧
    (r = .ok .created ↔ w.object? x.store x.name = none ∧ w.Accepts (.insert x.store x.object)) ∧
    (r = .ok .created → x.Put w x.object v) ∧
    (r = .ok .updated ↔ ∃ live after, w.object? x.store x.name = some live ∧ ¬x.store.kind.Matches live x.object ∧
      x.store.kind.amend live x.object = some after ∧ w.Accepts (.update x.store after)) ∧
    (r = .ok .updated → ∀ live after, w.object? x.store x.name = some live →
      x.store.kind.amend live x.object = some after → x.Put w after v) ∧
    (r = .ok .unchanged ↔ ∃ live, w.object? x.store x.name = some live ∧ x.store.kind.Matches live x.object) ∧
    (r = .ok .unchanged → v = w.logged (.fetch x.store x.name)) ∧
    (∀ e, r = .error e → v.store = w.store ∧ ∃ reason,
      e = .apply (if w.object? x.store x.name = none then .create else .update) x.kindName x.name reason) ∧
    (w.object? x.store x.name = none → (w.Accepts (.insert x.store x.object) ↔ w.blocks x.store x.name = false)) ∧
    (∀ live after, w.object? x.store x.name = some live → (x.store.kind.metadata live).name = some x.name →
      x.store.kind.amend live x.object = some after →
        (w.Accepts (.update x.store after) ↔ w.blocks x.store x.name = false)) ∧
    (∀ r' name, r' ≠ x.store ∨ name ≠ x.name → v.object? r' name = w.object? r' name) ∧
    ∀ o, r = .ok o → v.run (sync x.store x.object).run = (.ok .unchanged, v.logged (.fetch x.store x.name)) := by
  have hupsert : x.Upsert w r v := by
    have hrun := upsert_run_sync hw.versioned x
    rwa [h] at hrun
  refine ⟨hupsert.calls, hupsert.created_iff, ?_, hupsert.updated_iff, ?_, hupsert.unchanged_iff, ?_, ?_, ?_, ?_, ?_,
    ?_⟩
  · rintro rfl
    exact hupsert.put_of_created
  · rintro rfl live after hlive hamend
    exact hupsert.put_of_updated hlive hamend
  · rintro rfl
    exact hupsert.world_of_unchanged
  · rintro e rfl
    exact hupsert.of_error
  · intro habsent
    rw [accepts_insert_iff hname]
    exact and_iff_right habsent
  · intro live after hlive hnamed hamend
    have hmetadata := x.store.kind.metadata_amend hamend
    refine accepts_update_iff (by rw [hmetadata, hnamed]) hlive ?_
    rw [Store.versionOf, Store.versionOf, hmetadata]
  · intro r' name hne
    have hother := object?_run_sync_of_ne hw.versioned x hne
    rwa [h] at hother
  · rintro o rfl
    exact run_sync_of_holds (holds_of_run_sync_ok hw.versioned hn h)

/-- A deployment with two containers, the first of them of an image. -/
def sampleDeployment (image : String) : Deployment where
  metadata := { name := some "api" }
  spec := some { template := { spec := some {
    containers := [{ name := "server", image := some image }, { name := "proxy" }] } } }

/-- A deployment of another image is updated, although another one cannot be written, and then is unchanged. -/
theorem sync_upserts_other_image :
    let deployments : StoreRef := ⟨.deployment, some "hub"⟩
    let w : World := (World.seed {} deployments (sampleDeployment "server:1")).failName deployments "indexer"
    let x : Wanted := ⟨deployments, sampleDeployment "server:2"⟩
    w.Built ∧ ∃ v, w.run (sync x.store x.object).run = (.ok .updated, v) ∧
      v.run (sync x.store x.object).run = (.ok .unchanged, v.logged (.fetch deployments "api")) := by
  intro deployments w x
  have hbuilt : w.Built := .failName _ _ (.seed _ _ .start)
  have hdistinct : x.store.kind.HasDistinctNames x.object := by
    rintro _ ⟨⟩ _ ⟨⟩
    exact ⟨by decide, by decide⟩
  obtain ⟨-, -, -, hupdated, -, -, -, -, -, haccepts, -, hagain⟩ :=
    sync_upserts hbuilt (x := x) rfl hdistinct rfl
  let live : Deployment := Store.stamped (k := .deployment) 1 (sampleDeployment "server:1")
  have hlive : w.object? x.store x.name = some live := by decide
  obtain ⟨after, hamend⟩ : ∃ after, x.store.kind.amend live x.object = some after :=
    Option.isSome_iff_exists.1 (by decide)
  have hdiffers : ¬x.store.kind.Matches live x.object := fun hm => by
    cases hamend.symm.trans (x.store.kind.amend_eq_none_iff.2 hm)
  have haccepted := (haccepts live after hlive rfl hamend).2 (by decide)
  have hresult := hupdated.2 ⟨live, after, hlive, hdiffers, hamend, haccepted⟩
  exact ⟨hbuilt, _, Prod.ext hresult rfl, hagain _ hresult⟩

end HubSearch
