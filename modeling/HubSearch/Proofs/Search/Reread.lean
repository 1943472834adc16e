/-
What a Search is after its status was merged into its written form and the result was read back. Instants
need not read back as they were written, so metadata and conditions are compared without theirs. Main
statement: `Search.hasStatus_of_withStatus`.
-/
import HubSearch.Pass
import HubSearch.Proofs.Json.Patch
import HubSearch.Proofs.Json.Reread
import HubSearch.Store.Memory

namespace HubSearch

open WrittenJson

attribute [local simp] Fields.decode?_defaulted Fields.decode?_optional Fields.decode?_leftOut List.lookup_cons

/-! ## Specs -/

instance : LawfulCodec SecretKey := .of_record fun _ => by simp

instance : LawfulCodec ConfigMapKey := .of_record fun _ => by simp

instance : LawfulCodec ObjectFieldSelector := .of_record fun _ => by simp

instance : LawfulCodec ResourceFieldSelector := .of_record fun _ => by simp

instance : LawfulCodec EnvVarSource := .of_record fun _ => by simp

instance : LawfulCodec EnvVar := .of_record fun _ => by simp

instance : LawfulCodec ResourceClaim := .of_record fun _ => by simp

instance : LawfulCodec ResourceRequirements := .of_record fun _ => by simp

instance : LawfulCodec Toleration := .of_record fun _ => by simp

instance : LawfulCodec StorageSpec := .of_strict (fun _ => by simp) fun _ => by simp

instance : LawfulCodec DeploymentConfig := .of_strict (fun _ => by simp) fun _ => by simp

instance : LawfulCodec SearchDeployments := .of_strict (fun _ => by simp) fun _ => by simp

instance : LawfulCodec SearchSpec := by
  refine .of_strict (fun _ => by simp) fun s => ?_
  have hd : (always s.deployments).elim (some {}) (fun j => decode? (ofJson j)) = some s.deployments :=
    LawfulCodec.decode_encode s.deployments
  simp [hd]

/-! ## Metadata -/

/-- Metadata that a pass over a Search cannot tell apart but by the version. -/
structure ObjectMeta.Alike (a b : ObjectMeta) : Prop where
  name : a.name = b.name
  inNamespace : a.inNamespace = b.inNamespace
  uid : a.uid = b.uid
  generation : a.generation = b.generation
  annotations : a.annotations = b.annotations

theorem ObjectMeta.alike_of_reread {m m' : ObjectMeta} (h : decode? (.ofJson (encode m)) = some m') : m'.Alike m := by
  replace h := (Decode.decode?_record _ _ _).symm.trans h
  simp [Option.bind_eq_some_iff, Option.map_eq_some_iff] at h
  obtain ⟨_, _, _, _, -, rfl⟩ := h
  exact ⟨rfl, rfl, rfl, rfl, rfl⟩

/-! ## Conditions -/

/-- Conditions that differ at most in their instants. -/
structure Condition.Alike (a b : Condition) : Prop where
  type : a.type = b.type
  agrees : a.agrees b = true

theorem Condition.alike_of_reread {c c' : Condition} (h : decode? (.ofJson (encode c)) = some c') : c'.Alike c := by
  replace h := (Decode.decode?_record _ _ _).symm.trans h
  simp [Fields.decode?_required, Option.bind_eq_some_iff, Option.map_eq_some_iff] at h
  obtain ⟨_, -, _, -, rfl⟩ := h
  exact ⟨rfl, by simp [Condition.agrees]⟩

/-! ## Statuses -/

/-- Statuses that differ at most in the instants of their conditions. -/
structure SearchStatus.Alike (a b : SearchStatus) : Prop where
  db : a.db = b.db
  storage : a.storage = b.storage
  conditions : List.Forall₂ Condition.Alike a.conditionList b.conditionList

theorem Condition.Alike.refl (c : Condition) : c.Alike c := ⟨rfl, by simp [Condition.agrees]⟩

theorem Condition.find?_of_alike (type : String) {cs cs' : List Condition} (h : List.Forall₂ Condition.Alike cs' cs) :
    (find? type cs' = none ∧ find? type cs = none) ∨
      ∃ c' c, find? type cs' = some c' ∧ find? type cs = some c ∧ c'.Alike c := by
  induction h with
  | nil => exact .inl ⟨rfl, rfl⟩
  | @cons c' c rest' rest hc _ ih =>
    rw [find?, find?, List.find?_cons, List.find?_cons, hc.type]
    by_cases ht : c.type = type
    · rw [decide_eq_true ht]
      exact .inr ⟨c', c, rfl, rfl, hc⟩
    · rw [decide_eq_false ht]
      exact ih

theorem SearchStatus.Alike.refl (s : SearchStatus) : s.Alike s :=
  ⟨rfl, rfl, List.forall₂_same.2 fun c _ => .refl c⟩

/-- What a status reads back as that has all fields and was merged into any other one: nothing is left of that. -/
theorem SearchStatus.read_of_merge {old : Json} {status status' : SearchStatus} (hdb : status.db ≠ none)
    (hstorage : status.storage ≠ none) (hold : Entries.Ascending (old.object?.getD []))
    (h : decode? (.ofJson (old.merge (Pass.statusJson status))) = some status') :
    status'.db = status.db ∧ status'.storage = status.storage ∧
      decode? (.ofJson (encode status.conditionList)) = some status'.conditionList := by
  obtain ⟨db, hdb⟩ := Option.ne_none_iff_exists'.1 hdb
  obtain ⟨storage, hstorage⟩ := Option.ne_none_iff_exists'.1 hstorage
  let fields := Json.mergeFields (old.object?.getD [])
    [("conditions", encode status.conditionList), ("db", encode status.db), ("storage", encode status.storage)]
  have hn : (fields.map (·.1)).Nodup := (Json.ascending_mergeFields hold).nodup_keys
  replace h := (Decode.decode?_strict_object _ _ hn).symm.trans h
  have hlookup : ∀ key change, (key, change) ∈ [("conditions", encode status.conditionList),
      ("db", encode status.db), ("storage", encode status.storage)] →
      fields.lookup key = Json.changed ((old.object?.getD []).lookup key) change :=
    fun key change hm => Json.lookup_mergeFields _ (by simp) hm
  have hldb : fields.lookup "db" = some (.string db) := by
    rw [hlookup "db" (encode status.db) (by simp), hdb]
    rfl
  have hlstorage : fields.lookup "storage" = some (.string storage) := by
    rw [hlookup "storage" (encode status.storage) (by simp), hstorage]
    rfl
  have hlconditions : fields.lookup "conditions" = some (.array (status.conditionList.map encode)) := by
    rw [hlookup "conditions" (encode status.conditionList) (by simp)]
    rfl
  -- no field of the old status is seen by the decoder any more
  simp only [Fields.decode?_seq, Fields.decode?_map, Fields.decode?_leftOut_object hn, hldb, hlstorage, hlconditions,
    Option.elim_some, Option.bind_eq_some_iff, Option.map_eq_some_iff] at h
  obtain ⟨_, ⟨_, ⟨_, hd, rfl⟩, _, hs, rfl⟩, _, hc, rfl⟩ := h
  obtain ⟨cs, hcs, rfl⟩ := Option.map_eq_some_iff.1 hc
  exact ⟨(Option.some.inj hd).symm.trans hdb.symm, (Option.some.inj hs).symm.trans hstorage.symm, hcs⟩

/-! ## Searches -/

/-- A Search that was stored with a status: what the user asks for is as before, and the status is the one
that was written. -/
structure Search.HasStatus (before : Search) (status : SearchStatus) (after : Search) : Prop where
  metadata : after.metadata.Alike before.metadata
  spec : after.spec = before.spec
  status : ∃ written, after.status = some written ∧ written.Alike status

theorem Search.hasStatus_self {search : Search} {status : SearchStatus} (h : search.status = some status) :
    search.HasStatus status search :=
  ⟨⟨rfl, rfl, rfl, rfl, rfl⟩, rfl, status, h, .refl status⟩

theorem Search.HasStatus.stamped {before after : Search} {status : SearchStatus} (h : before.HasStatus status after)
    (version : Nat) : before.HasStatus status (Store.stamped (k := .search) version after) := by
  obtain ⟨⟨hname, hns, huid, hgeneration, hannotations⟩, hspec, hstatus⟩ := h
  exact ⟨⟨hname, hns, huid, hgeneration, hannotations⟩, hspec, hstatus⟩

theorem Search.reread_of_withStatus {search after : Search} {status : Json}
    (h : Store.withStatus? (k := .search) search status = .ok after) :
    decode? (α := Search) (.ofJson ((encode search).merge (.object [("status", status)]))) = some after := by
  unfold Store.withStatus? at h
  simp only [Kind.flat?, Kind.ofFlat?] at h
  split at h
  · cases h
  · rename_i hm
    cases h
    exact hm

/-- What a Search reads back as that a status was merged into: the spec is the same, metadata and status are what their
written forms read back as. -/
theorem Search.parts_of_withStatus {search after : Search} {status : SearchStatus} (hdb : status.db ≠ none)
    (hstorage : status.storage ≠ none)
    (h : Store.withStatus? (k := .search) search (Pass.statusJson status) = .ok after) :
    decode? (.ofJson (encode search.metadata)) = some after.metadata ∧ after.spec = search.spec ∧
      ∃ written, after.status = some written ∧ written.db = status.db ∧ written.storage = status.storage ∧
        decode? (.ofJson (encode status.conditionList)) = some written.conditionList := by
  have hread := reread_of_withStatus h
  -- the merged fields, one by one
  let old := (encode search).object?.getD []
  let fields := Json.mergeFields old [("status", Pass.statusJson status)]
  have hold : Entries.Ascending old := ascending_record (by
      simp only [List.map_cons, List.map_nil]
      decide +kernel)
  have holdStatus : old.lookup "status" = whenSome search.status :=
    (lookup_record "status" (by simp)).trans (by simp)
  have hn : (fields.map (·.1)).Nodup := (Json.ascending_mergeFields hold).nodup_keys
  have hmetadata : fields.lookup "metadata" = some (encode search.metadata) := by
    rw [Json.lookup_mergeFields_of_not_mem old (by simp)]
    exact (lookup_record "metadata" (by simp)).trans (by simp [always])
  have hspec : fields.lookup "spec" = some (encode search.spec) := by
    rw [Json.lookup_mergeFields_of_not_mem old (by simp)]
    exact (lookup_record "spec" (by simp)).trans (by simp [always])
  have hstatus : fields.lookup "status" =
      some (((whenSome search.status).getD .null).merge (Pass.statusJson status)) := by
    rw [← holdStatus]
    exact Json.lookup_mergeFields old (by simp) List.mem_cons_self
  -- metadata and spec read back by themselves, the status as the merge of the old one with the new one
  replace hread := (Decode.decode?_strict_object _ _ hn).symm.trans hread
  simp only [Fields.decode?_seq, Fields.decode?_map, Fields.decode?_required_object hn,
    Fields.decode?_optional_object hn, hmetadata, hspec, hstatus, Option.bind_some, LawfulCodec.decode_encode,
    Option.map_some, Option.bind_eq_some_iff, Option.map_eq_some_iff] at hread
  obtain ⟨_, ⟨_, ⟨metadata, hm, rfl⟩, hf⟩, _, hr, rfl⟩ := hread
  obtain rfl := Option.some.inj hf
  obtain ⟨written, hw, rfl⟩ := Option.map_eq_some_iff.1 hr
  have hascending : Entries.Ascending (((whenSome search.status).getD .null).object?.getD []) := by
    cases search.status with
    | none => exact List.Pairwise.nil
    | some _ => exact ascending_record (by
        simp only [List.map_cons, List.map_nil]
        decide +kernel)
  exact ⟨hm, rfl, written, rfl, SearchStatus.read_of_merge hdb hstorage hascending hw⟩

theorem Search.hasStatus_of_withStatus {search after : Search} {status : SearchStatus} (hdb : status.db ≠ none)
    (hstorage : status.storage ≠ none)
    (h : Store.withStatus? (k := .search) search (Pass.statusJson status) = .ok after) :
    search.HasStatus status after := by
  obtain ⟨hmetadata, hspec, written, hwritten, hdb', hstorage', hconditions⟩ := parts_of_withStatus hdb hstorage h
  exact ⟨ObjectMeta.alike_of_reread hmetadata, hspec, written, hwritten, hdb', hstorage',
    forall₂_of_decode? (fun _ _ => Condition.alike_of_reread) hconditions⟩

end HubSearch
