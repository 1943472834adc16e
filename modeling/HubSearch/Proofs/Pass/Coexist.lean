/-
Two Searches side by side. What a pass over one of them does leaves the objects of the other one as they are, but for
the cluster role binding, of which there is only one: each pass gives all of it to the service account of its own
Search. So the next pass over the other Search takes it back with one write, and so on back and forth. Main statement:
`binding_changes_hands`.
-/
import HubSearch.Proofs.Pass.Footprint

namespace HubSearch

open World

variable {w v : World}

namespace Report

/-- The report of parts of which one had something to report. -/
theorem concat_of_one {α β : Type} (r : Report) (later : List β) : ∀ earlier : List α,
    concat (earlier.map (fun _ => ({} : Report)) ++ r :: later.map fun _ => {}) = r
  | [] => by
    show r ++ concat (later.map fun _ => {}) = r
    rw [concat_map_empty]
    show Report.mk (r.notices ++ []) (r.failures ++ []) = r
    rw [List.append_nil, List.append_nil]
  | _ :: rest => by
    show ({} : Report) ++ concat (rest.map (fun _ => ({} : Report)) ++ r :: later.map fun _ => {}) = r
    rw [concat_of_one r later rest]
    rfl

end Report

namespace Pass

variable {p q : Pass} {live : Option ConfigMap} {x : Wanted}

/-! ## What another pass leaves alone -/

theorem footprint_run_apply (p : Pass) (hw : w.Versioned) : p.Footprint w (w.run p.apply).2 := by
  have hfootprint := p.run_apply_footprint (s := ⟨w, []⟩) (fun _ => none) hw
  rwa [(Recorded.run_none p.apply ⟨w, []⟩).2] at hfootprint

theorem kind_of_places {f : Feature} {owner : Owner} {ts : List Target} {r : StoreRef} {name : String}
    (h : f.Places owner ts r name) : ∃ k ∈ Feature.resourceKinds, r.kind = .unstructured k := by
  obtain ⟨t, -, y, hy, rfl, -⟩ := h
  exact ⟨y.kind, Feature.kind_of_mem_resources hy, rfl⟩

/-- A pass leaves alone what has a schema and is in another namespace than its Search. -/
theorem object?_run_apply_of_apart (hw : w.Versioned) {r : StoreRef} {ns : String} (hns : r.inNamespace = some ns)
    (hapart : ns ≠ q.owner.inNamespace) (hkind : ∀ k, r.kind ≠ .unstructured k) (name : String) :
    (w.run q.apply).2.object? r name = w.object? r name := by
  refine (q.footprint_run_apply hw).changed.object?_of_not ?_ ?_
  · rintro (⟨x, hx, rfl, -⟩ | ⟨f, -, hplace⟩ | ⟨rfl, -⟩)
    · rcases inNamespace_of_mem_wanted hx with hnone | hsome
      · cases hns.symm.trans hnone
      · exact hapart (Option.some.inj (hns.symm.trans hsome))
    · obtain ⟨k, -, hk⟩ := kind_of_places hplace
      exact hkind k hk
    · exact hapart (Option.some.inj hns).symm
  · rintro ⟨f, -, hplace⟩
    obtain ⟨k, -, hk⟩ := kind_of_places hplace
    exact hkind k hk

/-- A pass writes no status but that of its Search, and of the objects without a schema only resources. -/
theorem makes_apply_writes (q : Pass) : q.apply.Makes fun c =>
    (c.isStatusWrite = true → c.store = q.besideSearch .search) ∧
      (c.isWrite = true → ∀ k, c.store.kind = .unstructured k → k ∈ Feature.resourceKinds) := by
  refine makes_apply ⟨nofun, nofun⟩ (fun c hc => ?_) (fun c hc => ?_) fun _ => ⟨fun _ => rfl, nofun⟩
  · refine ⟨fun hstatus => (nomatch hc.2.2.symm.trans hstatus), fun _ k hk => ?_⟩
    exact absurd (by rw [← hk]) (hc.2.1 k c.store.inNamespace)
  · refine ⟨fun hstatus => (nomatch hc.2.symm.trans hstatus), fun hwrite k hk => ?_⟩
    rcases hc.1 with ⟨hread, -⟩ | ⟨k', hk', hkind⟩
    · cases hread.symm.trans hwrite
    · cases hk.symm.trans hkind
      exact hk'

/-- The stores that a feature looks at are not written to by a pass. -/
theorem store_run_apply_of_not_resource (q : Pass) (w : World) {k : UnstructuredKind} (hk : k ∉ Feature.resourceKinds)
    (ns : Option String) : (w.run q.apply).2.store ⟨.unstructured k, ns⟩ = w.store ⟨.unstructured k, ns⟩ :=
  (q.makes_apply_writes.mono fun _ hc hwrite heq => hk (hc.2 hwrite k (congrArg StoreRef.kind heq))).keeps_store w rfl

/-- A pass does not move a feature that is off there and was not switched off by it. -/
theorem unmoved_run_apply (hw : w.Versioned) {f : Feature} (hoff : q.toggles.isEnabled f = false)
    (hkept : ¬q.SwitchesOff f) (owner : Owner) (status : SearchStatus) :
    f.Unmoved owner status w status (w.run q.apply).2 := by
  refine ⟨rfl, Feature.targetsIn_congr (q.store_run_apply_of_not_resource w (by decide) _),
    Feature.validates_congr ?_, fun t r hr => ?_⟩
  · rintro _ (rfl | rfl) <;> exact q.store_run_apply_of_not_resource w (by decide) _
  -- no other feature has a resource in the same place
  · have hplaces : ∀ g : Feature, g.Places q.owner (g.targetsIn w) r.store r.name → g = f := by
      rintro g ⟨u, -, s, hs, hstore, hname⟩
      by_contra hne
      exact (Feature.apart_of_ne (Ne.symm hne) hs hr).elim (fun h => h hstore) fun h => h hname
    refine (q.footprint_run_apply hw).changed.object?_of_not ?_ ?_
    · rintro (⟨x, hx, hstore, -⟩ | ⟨g, hon, hplace⟩ | ⟨hstore, -⟩)
      · have hmem : x ∈ q.wanted (q.desired none) := hx
        exact (kind_of_mem_wanted hmem).2 r.kind (by cases r.kind <;> decide) (congrArg StoreRef.kind hstore).symm
      · obtain rfl := hplaces g hplace
        cases hoff.symm.trans hon
      · cases congrArg StoreRef.kind hstore
    · rintro ⟨g, hoff', hplace⟩
      obtain rfl := hplaces g hplace
      exact hkept hoff'

section

variable {notices : List Notice} (hw : w.Versioned) (hrun : w.run q.apply = ((notices, .ok ()), v))

include hw hrun

/-- A feature that is settled for one Search stays so when a pass over another one succeeds, unless that pass switched
it off: where it is on for both, the resources that the pass brings into their state are the same ones. -/
theorem settled_of_run_apply_ok {f : Feature} {owner : Owner} {generation : Int64} {isOn : Bool} {status : SearchStatus}
    (hkept : isOn = true → ¬q.SwitchesOff f) (hs : f.Settled owner generation isOn status w) :
    f.Settled owner generation isOn status v := by
  obtain rfl : (w.run q.apply).2 = v := congrArg Prod.snd hrun
  cases isOn with
  | false => exact hs
  | true =>
    cases hon : q.toggles.isEnabled f with
    | false => exact (unmoved_run_apply hw hon (hkept rfl) owner status).settled hs
    | true =>
      obtain ⟨state, u, happlied, hpersist⟩ := applied_of_run_apply_ok hw hrun
      have hsettled := (happlied.after_persist hpersist).2 f (by cases f <;> decide)
      rw [hon] at hsettled
      obtain ⟨hval, hholds, -⟩ := hsettled
      obtain ⟨-, -, hreports⟩ := hs
      refine ⟨hval, fun t ht r hr => Feature.holds_of_owner hr (hholds t ht), ?_⟩
      rw [Feature.targetsIn_congr (q.store_run_apply_of_not_resource w (by decide) _)]
      exact hreports

end

/-! ## The binding -/

/-- The binding of the cluster role, as it is wanted. -/
def wantedBinding (p : Pass) : Wanted := ⟨⟨.clusterRoleBinding, none⟩, Desired.clusterRoleBinding p.owner⟩

theorem mem_wanted_desired_cases (hx : x ∈ p.wanted (p.desired live)) :
    x = ⟨⟨.clusterRole, none⟩, Desired.clusterRole p.owner⟩ ∨ x = p.wantedBinding ∨
      x.store.inNamespace = some p.owner.inNamespace := by
  rw [desired_eq] at hx
  exact mem_wanted_cases hx

theorem wantedBinding_mem_wanted (p : Pass) (live : Option ConfigMap) :
    p.wantedBinding ∈ p.wanted (p.desired live) := by
  rw [desired_eq]
  simp [wanted, wantedBinding, DesiredState.build]

theorem wantedRole_mem_wanted (p : Pass) (live : Option ConfigMap) :
    (⟨⟨.clusterRole, none⟩, Desired.clusterRole p.owner⟩ : Wanted) ∈ p.wanted (p.desired live) := by
  rw [desired_eq]
  simp [wanted, DesiredState.build]

theorem name_wantedBinding (p : Pass) : p.wantedBinding.name = Desired.clusterRoleName := by
  show (Desired.ownedMeta p.owner Desired.clusterRoleName false).name.getD "" = _
  rw [Desired.ownedMeta, Owner.adopt_name]
  rfl

theorem name_wantedRole (owner : Owner) :
    Wanted.name ⟨⟨.clusterRole, none⟩, Desired.clusterRole owner⟩ = Desired.clusterRoleName := by
  show (Desired.ownedMeta owner Desired.clusterRoleName false).name.getD "" = _
  rw [Desired.ownedMeta, Owner.adopt_name]
  rfl

/-- The binding cannot be as two Searches of different namespaces want it. -/
theorem not_holds_wantedBinding (hapart : p.owner.inNamespace ≠ q.owner.inNamespace) (hq : w.Holds q.wantedBinding) :
    ¬w.Holds p.wantedBinding := by
  rintro ⟨other, hother, -, hsubjects⟩
  obtain ⟨binding, hbinding, -, hsubjects'⟩ := hq
  rw [name_wantedBinding] at hother hbinding
  obtain rfl : other = binding := Option.some.inj (hother.symm.trans hbinding)
  have hsame := (List.cons.inj (List.perm_singleton.1 (hsubjects.symm.trans hsubjects'))).1
  exact hapart (Option.some.inj (congrArg Subject.inNamespace hsame))

/-! ## One object that differs -/

theorem store_set_congr (hs : v.store = w.store) {r : StoreRef} (s : Store r.kind) :
    (v.set r s).store = (w.set r s).store := by
  unfold World.set
  rw [hs]

/-- Objects of which one is amended and the others are held are applied with that write alone. -/
theorem run_forEach_syncOne_of_holds_but {before later : List Wanted} {c : StoreCall} {u : World}
    (hbefore : ∀ y ∈ before, w.Holds y)
    (hsync : ∀ v, w.OnlyRead v → ∃ v', v.run (sync x.store x.object).run = (.ok .updated, v') ∧ v.MadeOnly c v' ∧
      v'.store = u.store)
    (hlater : ∀ y ∈ later, u.Holds y) :
    ∃ v, w.run (Plan.forEach syncOne (before ++ x :: later)) = (before.map (fun _ => ({} : Report)) ++
        syncReport x.kindName x.name (.ok .updated) :: later.map fun _ => {}, v) ∧
      w.MadeOnly c v ∧ v.store = u.store := by
  obtain ⟨v₁, hv₁, hread₁⟩ := run_forEach_syncOne_of_holds hbefore
  obtain ⟨v₂, hv₂, hmade, hstore⟩ := hsync v₁ hread₁
  obtain ⟨v₃, hv₃, hread₃⟩ := run_forEach_syncOne_of_holds (w := v₂) fun y hy =>
    (hlater y hy).congr (object?_congr hstore _ _)
  refine ⟨v₃, ?_, hread₁.madeOnly (hmade.onlyRead hread₃), hread₃.store.trans hstore⟩
  have hrun : w.run (Plan.forEach syncOne (before ++ x :: later)) = _ :=
    Plan.run_forEach_append answer syncOne (x :: later) before w
  rw [hrun, show (Plan.forEach syncOne before).run answer w = _ from hv₁]
  show (_ ++ (v₁.run (Plan.forEach syncOne (x :: later))).1, (v₁.run (Plan.forEach syncOne (x :: later))).2) = _
  rw [run_forEach_cons, run_syncOne, hv₂]
  dsimp only
  rw [hv₃]

theorem Reached.congr {status : SearchStatus} {after : Search} {u : World} (h : p.Reached live status after u)
    (hs : v.store = u.store) : p.Reached live status after v where
  objects x hx := (h.objects x hx).congr (object?_congr hs _ _)
  desired := (congrArg p.desired (object?_congr hs _ _)).trans h.desired
  features f hf := (h.features f hf).congr fun _ _ => congrFun hs _
  search := (object?_congr hs _ _).trans h.search
  status := h.status

/-- When one object differs from what is asked for, and all else is as a pass has left it, the next pass amends the
object and writes nothing else. -/
theorem run_apply_of_amended (hx : x ∈ p.wanted (p.desired live)) (hconfig : x.store ≠ p.besideSearch .configMap)
    {object amended : x.store.kind.Object} (hobject : w.object? x.store x.name = some object)
    (hamend : x.store.kind.amend object x.object = some amended) (hblocks : w.blocks x.store x.name = false)
    (hplace : w.NamedAt x.store x.name) {status : SearchStatus} {after : Search}
    (hreached : p.Reached live status after (w.set x.store ((w.store x.store).put x.name amended).2))
    (now : Feature → Timestamp) :
    ∃ v, w.run ({ p with search := after, now := now } : Pass).apply =
        (([syncNotice .updated x.kindName x.name], .ok ()), v) ∧
      w.MadeOnly (.update x.store amended) v ∧ p.Reached live status after v := by
  let r : Pass := { p with search := after, now := now }
  let u : World := w.set x.store ((w.store x.store).put x.name amended).2
  have hrest : r.AtRest u := atRest_of_reached hreached now
  have hlive : r.liveConfig u = r.liveConfig w := liveConfig_congr (store_set_of_ne w _ hconfig.symm)
  have hdesired : r.desired (r.liveConfig w) = p.desired live := by
    rw [← hlive]
    exact (desired_of_hasStatus hreached.status now _).trans hreached.desired
  obtain ⟨before, later, hsplit⟩ := List.append_of_mem hx
  have happart := p.apart_wanted live
  rw [hsplit, List.pairwise_append] at happart
  have hread : w.OnlyRead (w.logged r.configCall) := .logged w rfl
  have hbefore : ∀ y ∈ before, (w.logged r.configCall).Holds y := by
    intro y hy
    refine (hreached.objects y (by simp [hsplit, hy])).congr ?_
    refine (object?_set_of_ne w (fun _ => Store.get?_put_of_ne _ amended) ?_).symm
    exact (happart.2.2 y hy x List.mem_cons_self).imp Ne.symm Ne.symm
  have hsync : ∀ v, (w.logged r.configCall).OnlyRead v → ∃ v', v.run (sync x.store x.object).run =
      (.ok .updated, v') ∧ v.MadeOnly (.update x.store amended) v' ∧ v'.store = u.store := by
    intro v hv
    have hread' := hread.trans hv
    obtain ⟨v', hrun, hmade, hs⟩ := run_sync_updated ((object?_congr hread'.store _ _).trans hobject) hamend
      ((hread'.blocks_eq _ _).trans hblocks) fun o ho => hplace o ((object?_congr hread'.store _ _).symm.trans ho)
    refine ⟨v', hrun, hmade, hs.trans ?_⟩
    rw [hread'.store]
    exact store_set_congr hread'.store _
  have hlater : ∀ y ∈ later, u.Holds y := fun y hy => hreached.objects y (by simp [hsplit, hy])
  obtain ⟨v₁, hobjects, hmade, hstore⟩ := run_forEach_syncOne_of_holds_but hbefore hsync hlater
  obtain ⟨v₂, hfeatures, hread₂⟩ := run_reconcileFeatures_of_settled (p := r) (w := v₁) fun f hf =>
    (hrest.features f hf).congr fun _ _ => congrFun hstore _
  have hwritten : v₂.run (r.persist (finalStatus (r.desired (r.liveConfig w)) (r.search.status.getD {}))) =
      (.ok (), v₂) := run_persist_unchanged (hlive ▸ hrest.status) v₂
  refine ⟨v₂, ?_, hread.madeOnly (hmade.onlyRead hread₂), hreached.congr (hread₂.store.trans hstore)⟩
  have hwanted : r.wanted (r.desired (r.liveConfig w)) = before ++ x :: later := hdesired ▸ hsplit
  rw [show w.run r.apply = _ from run_apply (hwanted ▸ hobjects) hfeatures hwritten, Report.concat_of_one]
  rfl

/-! ## Taking turns -/

/-- A binding that is given to the service account of a Search, as a pass amends it. -/
def rebound (p : Pass) (binding : ClusterRoleBinding) : ClusterRoleBinding :=
  { binding with
    roleRef := (Desired.clusterRoleBinding p.owner).roleRef
    subjects := (Desired.clusterRoleBinding p.owner).subjects }

section

variable {status : SearchStatus} {after : Search} {notices : List Notice} (hw : w.Versioned)
  (hapart : p.owner.inNamespace ≠ q.owner.inNamespace) (hreached : p.Reached live status after w)
  (hrun : w.run q.apply = ((notices, .ok ()), v))

include hw hrun

theorem holds_wantedBinding_of_run_apply_ok : v.Holds q.wantedBinding := by
  obtain ⟨state, u, happlied, hpersist⟩ := applied_of_run_apply_ok hw hrun
  exact (happlied.after_persist hpersist).1 _ (q.wantedBinding_mem_wanted _)

include hapart

/-- What a Search asks for stays held when a pass over another one succeeds, but for the binding. -/
theorem holds_of_run_apply_ok (hx : x ∈ p.wanted (p.desired live)) (hne : x ≠ p.wantedBinding) (hheld : w.Holds x) :
    v.Holds x := by
  rcases mem_wanted_desired_cases hx with rfl | rfl | hns
  · -- the role is the same one for all Searches
    obtain ⟨state, u, happlied, hpersist⟩ := applied_of_run_apply_ok hw hrun
    obtain ⟨role, hrole, hmatches⟩ := (happlied.after_persist hpersist).1 _ (q.wantedRole_mem_wanted _)
    refine ⟨role, ?_, hmatches⟩
    rw [name_wantedRole] at hrole ⊢
    exact hrole
  · exact absurd rfl hne
  · have hkind : ∀ k, x.store.kind ≠ .unstructured k := fun k =>
      (kind_of_mem_wanted hx).2 k (by cases k <;> decide)
    have hsame := object?_run_apply_of_apart hw hns hapart hkind x.name
    rw [hrun] at hsame
    exact hheld.congr hsame

include hreached

/-- The binding was given to the other Search, so it can be amended, and then all is as before again. -/
theorem exists_rebound_of_run_apply_ok (hkept : ∀ f, p.toggles.isEnabled f = true → ¬q.SwitchesOff f) :
    ∃ binding : ClusterRoleBinding, v.object? ⟨.clusterRoleBinding, none⟩ Desired.clusterRoleName = some binding ∧
      binding.amend (Desired.clusterRoleBinding p.owner) = some (p.rebound binding) ∧
      v.blocks ⟨.clusterRoleBinding, none⟩ Desired.clusterRoleName = false ∧
      v.NamedAt ⟨.clusterRoleBinding, none⟩ Desired.clusterRoleName ∧
      p.Reached live status after (v.set ⟨.clusterRoleBinding, none⟩
        ((v.store ⟨.clusterRoleBinding, none⟩).put Desired.clusterRoleName (p.rebound binding)).2) := by
  have hrun_snd : (w.run q.apply).2 = v := congrArg Prod.snd hrun
  have htaken := holds_wantedBinding_of_run_apply_ok hw hrun
  have hlost : ¬v.Holds p.wantedBinding := not_holds_wantedBinding hapart htaken
  obtain ⟨binding, hbinding, -⟩ := htaken
  rw [name_wantedBinding] at hbinding
  have hamend : binding.amend (Desired.clusterRoleBinding p.owner) = some (p.rebound binding) := by
    cases ha : binding.amend (Desired.clusterRoleBinding p.owner) with
    | none =>
      refine absurd ⟨binding, ?_, ClusterRoleBinding.amend_eq_none_iff.1 ha⟩ hlost
      rw [name_wantedBinding]
      exact hbinding
    | some amended =>
      unfold ClusterRoleBinding.amend at ha
      split at ha <;> cases ha
      rfl
  have hother : ∀ (k : Kind) (name : String), (∀ u, k ≠ .unstructured u) →
      v.object? (p.besideSearch k) name = w.object? (p.besideSearch k) name := by
    intro k name hk
    rw [← hrun_snd]
    exact object?_run_apply_of_apart hw rfl hapart hk name
  have hwritten : World.SameOrWritten ⟨.clusterRoleBinding, none⟩ Desired.clusterRoleName w v := by
    rw [← hrun_snd]
    refine (q.makes_apply_writes.mono fun c hc hstatus heq => ?_).sameOrWritten _ w
    cases (hc.1 hstatus).symm.trans heq
  rcases hwritten with hsame | ⟨hblocks, hnamed⟩
  · refine absurd ((hreached.objects _ (p.wantedBinding_mem_wanted live)).congr ?_) hlost
    rw [name_wantedBinding]
    exact hsame
  refine ⟨binding, hbinding, hamend, hblocks, hnamed, fun x hx => ?_, ?_, fun f hf => ?_, ?_, hreached.status⟩
  · by_cases hx' : x = p.wantedBinding
    · subst hx'
      have hmatches : p.wantedBinding.store.kind.Matches (p.rebound binding) p.wantedBinding.object :=
        ClusterRoleBinding.matches_of_amend hamend
      refine holds_of_put (w := v) ?_ hmatches
      rw [name_wantedBinding]
      rfl
    · refine (holds_of_run_apply_ok hw hapart hrun hx hx' (hreached.objects x hx)).congr ?_
      refine object?_set_of_ne v (fun _ => Store.get?_put_of_ne _ _) ?_
      rw [← name_wantedBinding p]
      exact (compatible_of_mem_wanted (p.wantedBinding_mem_wanted live) hx).resolve_left hx'
  · refine Eq.trans (congrArg p.desired ?_) hreached.desired
    exact (liveConfig_congr (store_set_of_ne v _ (by rintro ⟨⟩))).trans (hother .configMap _ (by rintro _ ⟨⟩))
  · exact (settled_of_run_apply_ok hw hrun (hkept f) (hreached.features f hf)).congr fun k ns =>
      store_set_of_ne v _ (by rintro ⟨⟩)
  · refine (object?_set_of_ne v (fun _ => Store.get?_put_of_ne _ _) (.inl (by rintro ⟨⟩))).trans ?_
    exact (hother .search _ (by rintro _ ⟨⟩)).trans hreached.search

end

/-- What a pass over another Search leaves of what a pass has applied: all but the binding. -/
structure Overtaken (p q : Pass) (w v : World) : Prop where
  objects : ∀ x ∈ p.wanted (p.desired (p.liveConfig w)), x ≠ p.wantedBinding → v.Holds x
  /-- The resources of the features that are on, unless the other pass switched the feature off. -/
  resources : ∀ f : Feature, p.toggles.isEnabled f = true → ¬q.SwitchesOff f →
    ∀ t ∈ f.targetsIn w, ∀ r ∈ f.resources t p.owner, v.Holds r.wanted
  taken : v.Holds q.wantedBinding
  lost : ¬v.Holds p.wantedBinding

/-- A further pass takes the binding back, which is all that it writes, and then nothing is left to do for it. -/
structure TakesBack (p q further : Pass) (w v : World) (binding : ClusterRoleBinding) (u : World) : Prop where
  run : v.run further.apply =
    (([syncNotice .updated "ClusterRoleBinding" Desired.clusterRoleName], .ok ()), u)
  only : v.MadeOnly (.update ⟨.clusterRoleBinding, none⟩ (p.rebound binding)) u
  objects : ∀ x ∈ p.wanted (p.desired (p.liveConfig w)), u.Holds x
  rest : further.AtRest u
  lost : ¬u.Holds q.wantedBinding

section

variable {u : World} {status : SearchStatus} {after : Search} {notices : List Notice} (hv : v.Versioned)
  (hapart : p.owner.inNamespace ≠ q.owner.inNamespace) (hreached : p.Reached (p.liveConfig w) status after v)
  (hrun : v.run q.apply = ((notices, .ok ()), u))

include hv hapart hreached hrun

theorem overtaken_of_reached (htargets : ∀ f : Feature, f.targetsIn v = f.targetsIn w) : p.Overtaken q w u := by
  have htaken := holds_wantedBinding_of_run_apply_ok hv hrun
  refine ⟨fun x hx hne => holds_of_run_apply_ok hv hapart hrun hx hne (hreached.objects x hx),
    fun f hon hkept => ?_, htaken, not_holds_wantedBinding hapart htaken⟩
  have hsettled := hreached.features f (by cases f <;> decide)
  rw [hon] at hsettled
  obtain ⟨-, hholds, -⟩ := settled_of_run_apply_ok hv hrun (fun _ => hkept) hsettled
  obtain rfl : (v.run q.apply).2 = u := congrArg Prod.snd hrun
  rwa [Feature.targetsIn_congr (q.store_run_apply_of_not_resource v (by decide) _), htargets] at hholds

theorem takesBack_of_reached (hkept : ∀ f, p.toggles.isEnabled f = true → ¬q.SwitchesOff f) :
    ∃ binding, p.liveSearch? u = some after ∧
      u.object? ⟨.clusterRoleBinding, none⟩ Desired.clusterRoleName = some binding ∧
      ∀ now, ∃ t, p.TakesBack q { p with search := after, now := now } w u binding t := by
  obtain ⟨binding, hbinding, hamend, hblocks, hnamed, hagain⟩ :=
    exists_rebound_of_run_apply_ok hv hapart hreached hrun hkept
  have hlive : p.liveSearch? u = some after :=
    (object?_set_of_ne u (fun _ => Store.get?_put_of_ne _ _) (.inl (by rintro ⟨⟩))).symm.trans hagain.search
  refine ⟨binding, hlive, hbinding, fun now => ?_⟩
  rw [← name_wantedBinding p] at hbinding hblocks hnamed hagain
  obtain ⟨t, ht, honly, hafter⟩ := run_apply_of_amended (p.wantedBinding_mem_wanted _) (by rintro ⟨⟩) hbinding hamend
    hblocks hnamed hagain now
  rw [name_wantedBinding] at ht
  have hheld := hafter.objects _ (p.wantedBinding_mem_wanted _)
  exact ⟨t, ht, honly, hafter.objects, atRest_of_reached hafter now, not_holds_wantedBinding hapart.symm hheld⟩

end

/-- Two Searches of different namespaces in one cluster. After a pass over the one and then a pass over the other one
have succeeded, all that the first one asked for is still held, but for the binding of the cluster role, which is the
other one's. Unless the second pass switched off a feature that is on for the first Search, the next pass over the first
one takes the binding back, with its only write, so that now the other one has lost it. -/
theorem binding_changes_hands {v₁ v₂ : World} (hw : w.Built) {a b : Search} {config config' : OperatorConfig}
    {now now' : Feature → Timestamp} (hp : Pass.new? a config now = .ok p) (hq : Pass.new? b config' now' = .ok q)
    (hapart : a.metadata.inNamespace ≠ b.metadata.inNamespace) (hlive : p.liveSearch? w = some a)
    {notices notices' : List Notice} (hfirst : w.run p.apply = ((notices, .ok ()), v₁))
    (hsecond : v₁.run q.apply = ((notices', .ok ()), v₂)) :
    p.Overtaken q w v₂ ∧
      ((∀ f, p.toggles.isEnabled f = true → ¬q.SwitchesOff f) → ∃ after binding, p.liveSearch? v₂ = some after ∧
        v₂.object? ⟨.clusterRoleBinding, none⟩ Desired.clusterRoleName = some binding ∧
        ∀ now, ∃ further v₃, Pass.new? after config now = .ok further ∧ p.TakesBack q further w v₂ binding v₃) := by
  obtain ⟨owner, howner, rfl⟩ := new?_eq_ok.1 hp
  obtain ⟨owner', howner', rfl⟩ := new?_eq_ok.1 hq
  have hne : owner.inNamespace ≠ owner'.inNamespace := fun heq =>
    hapart (by rw [(Owner.of?_eq_ok.1 howner).2.1, (Owner.of?_eq_ok.1 howner').2.1, heq])
  have hv₁ : v₁.Versioned := hw.versioned.of_run hfirst
  obtain ⟨status, after, hreached⟩ := reached_of_run_apply_ok hw.versioned hlive hfirst
  refine ⟨overtaken_of_reached hv₁ hne hreached hsecond fun f => ?_, fun hkept => ?_⟩
  · obtain rfl : (w.run (⟨a, owner, config, now⟩ : Pass).apply).2 = v₁ := congrArg Prod.snd hfirst
    exact Feature.targetsIn_congr (store_run_apply_of_not_resource _ w (by decide) _)
  · obtain ⟨binding, hafter, hbinding, hback⟩ := takesBack_of_reached hv₁ hne hreached hsecond hkept
    refine ⟨after, binding, hafter, hbinding, fun now' => ?_⟩
    obtain ⟨v₃, hv₃⟩ := hback now'
    exact ⟨_, v₃, new?_of_hasStatus hp hreached.status now', hv₃⟩

/-- Another Search, in another namespace. -/
def otherSearch : Search where
  metadata := { name := some "search", inNamespace := some "apps", uid := some "2", resourceVersion := some "1" }

/-- A cluster with both Searches. -/
def twoSearches : World := sampleStores.seed ⟨.search, some "apps"⟩ otherSearch

theorem built_twoSearches : twoSearches.Built := .seed _ _ (.seed _ _ (.seed _ _ Feature.built_sampleHub))

/-- A pass over the other Search. -/
def otherPass : Pass := ⟨otherSearch, ⟨"search", "apps", "2"⟩, {}, default⟩

/-- Both passes succeed, the one after the other. -/
theorem exists_run_passes : ∃ notices v₁ notices' v₂, twoSearches.run samplePass.apply = ((notices, .ok ()), v₁) ∧
    v₁.run otherPass.apply = ((notices', .ok ()), v₂) := by
  have hblocks : twoSearches.Unblocked :=
    .seed (.seed (.seed (.seed (.seed (.seed unblocked_empty _ _) _ _) _ _) _ _) _ _) _ _
  obtain ⟨⟨⟩, hok⟩ := exists_ok_of_isOk (r := (twoSearches.run samplePass.apply).1.2) (by decide +kernel)
  have hfirst : twoSearches.run samplePass.apply = (((twoSearches.run samplePass.apply).1.1, .ok ()), _) :=
    Prod.ext (Prod.ext rfl hok) rfl
  let v₁ := (twoSearches.run samplePass.apply).2
  have hlive : otherPass.liveSearch? v₁ = some otherSearch := by decide +kernel
  have hnamed : ∀ x ∈ otherPass.wanted (otherPass.desired (otherPass.liveConfig v₁)),
      (v₁.object? x.store x.name).all (fun o => (x.store.kind.metadata o).name = some x.name) = true := by
    decide +kernel
  have hplaces : ∀ x ∈ otherPass.wanted (otherPass.desired (otherPass.liveConfig v₁)), v₁.NamedAt x.store x.name := by
    intro x hx o ho
    have h := hnamed x hx
    rw [ho] at h
    exact of_decide_eq_true h
  obtain ⟨merged, hmerged⟩ := exists_ok_of_isOk (r := Store.withStatus? (k := .search) otherSearch
    (statusJson (finalStatus (otherPass.desired (otherPass.liveConfig v₁)) {}))) (by decide +kernel)
  have hfeatures : ∀ f ∈ Feature.all, f.Settled otherPass.owner otherPass.generation (otherPass.toggles.isEnabled f)
      (otherSearch.status.getD {}) v₁ := by
    intro f _
    cases f <;> exact .inl rfl
  obtain ⟨notices', v₂, hsecond⟩ := run_apply_of_settled (built_twoSearches.versioned.of_run hfirst)
    (Plan.keeps_unblocked _ _ hblocks) hplaces hfeatures hlive hmerged
  exact ⟨_, _, notices', v₂, hfirst, hsecond⟩

theorem not_switchesOff_otherPass (f : Feature) : ¬otherPass.SwitchesOff f := by
  rintro ⟨-, htrue⟩
  cases f <;> cases htrue

/-- With two Searches the passes do write back and forth: after one pass over each of them the first Search has lost its
binding, and the next pass over it writes. -/
theorem passes_write_back_and_forth : twoSearches.Built ∧
    samplePass.liveSearch? twoSearches = some sampleSearch ∧ otherPass.liveSearch? twoSearches = some otherSearch ∧
    Pass.new? sampleSearch {} default = .ok samplePass ∧ Pass.new? otherSearch {} default = .ok otherPass ∧
    ∃ notices v₁ notices' v₂, twoSearches.run samplePass.apply = ((notices, .ok ()), v₁) ∧
      v₁.run otherPass.apply = ((notices', .ok ()), v₂) ∧
      (∃ x ∈ samplePass.wanted (samplePass.desired (samplePass.liveConfig twoSearches)), v₁.Holds x ∧ ¬v₂.Holds x) ∧
      ∃ after further, samplePass.liveSearch? v₂ = some after ∧ Pass.new? after {} default = .ok further ∧
        ¬v₂.OnlyRead (v₂.run further.apply).2 := by
  have hlive : samplePass.liveSearch? twoSearches = some sampleSearch := by decide +kernel
  have hnew : Pass.new? sampleSearch {} default = .ok samplePass := rfl
  refine ⟨built_twoSearches, hlive, by decide +kernel, hnew, rfl, ?_⟩
  obtain ⟨notices, v₁, notices', v₂, hfirst, hsecond⟩ := exists_run_passes
  have hv₁ : v₁.Versioned := built_twoSearches.versioned.of_run hfirst
  have hapart : samplePass.owner.inNamespace ≠ otherPass.owner.inNamespace := by decide
  obtain ⟨status, after, hreached⟩ := reached_of_run_apply_ok built_twoSearches.versioned hlive hfirst
  obtain ⟨binding, hafter, -, hback⟩ := takesBack_of_reached hv₁ hapart hreached hsecond fun f _ =>
    not_switchesOff_otherPass f
  obtain ⟨v₃, hback⟩ := hback default
  have hmem := samplePass.wantedBinding_mem_wanted (samplePass.liveConfig twoSearches)
  have hlost : ¬v₂.Holds samplePass.wantedBinding :=
    not_holds_wantedBinding hapart (holds_wantedBinding_of_run_apply_ok hv₁ hsecond)
  refine ⟨notices, v₁, notices', v₂, hfirst, hsecond, ⟨_, hmem, hreached.objects _ hmem, hlost⟩, after, _, hafter,
    new?_of_hasStatus hnew hreached.status default, fun hread => hlost ?_⟩
  -- reading does not bring the binding back
  rw [hback.run] at hread
  exact (hback.objects _ hmem).congr (object?_congr hread.store _ _).symm

/-- The next pass over the first Search takes the binding back. -/
theorem binding_changes_hands_twoSearches : ∃ v₂, samplePass.Overtaken otherPass twoSearches v₂ ∧
    ∃ after binding, samplePass.liveSearch? v₂ = some after ∧
      v₂.object? ⟨.clusterRoleBinding, none⟩ Desired.clusterRoleName = some binding ∧
      ∀ now, ∃ further v₃, Pass.new? after {} now = .ok further ∧
        samplePass.TakesBack otherPass further twoSearches v₂ binding v₃ := by
  have hlive : samplePass.liveSearch? twoSearches = some sampleSearch := by decide +kernel
  have hfirst : Pass.new? sampleSearch {} default = .ok samplePass := rfl
  have hother : Pass.new? otherSearch {} default = .ok otherPass := rfl
  obtain ⟨notices, v₁, notices', v₂, hrun, hrun'⟩ := exists_run_passes
  obtain ⟨hovertaken, hback⟩ := binding_changes_hands built_twoSearches hfirst hother (by decide) hlive hrun hrun'
  exact ⟨v₂, hovertaken, hback fun f _ => not_switchesOff_otherPass f⟩

end Pass

end HubSearch
