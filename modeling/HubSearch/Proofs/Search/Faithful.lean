/-
What a written status leaves of a Search, to the second. A status is written by merging it into the written form of the
Search, which is then read back. Nothing but the status changes, except that instants lose what their texts do not say.
Main statement: `Search.reports_of_withStatus`.
-/
import HubSearch.Proofs.Condition
import HubSearch.Proofs.Search.Reread
import HubSearch.Proofs.Timestamp

namespace HubSearch

open WrittenJson

attribute [local simp] Fields.decode?_defaulted Fields.decode?_optional List.lookup_cons

/-! ## Instants and conditions -/

/-- Instants that are the same to the second, which is as far as texts tell them apart. -/
def Timestamp.SameSecond (a b : Timestamp) : Prop := a.text = b.text

theorem Timestamp.decode?_string (s : String) :
    (decode? (.string s) : Option Timestamp) = (ofChars s.toList).toOption := rfl

theorem Timestamp.sameSecond_of_reread {t t' : Timestamp} (h : decode? (.ofJson (encode t)) = some t') :
    t'.SameSecond t := by
  have hwritten : ofJson (encode t) = .string t.text := rfl
  rw [hwritten, decode?_string, text, String.toList_ofList] at h
  cases hchars : ofChars t.chars with
  | error e =>
    rw [hchars] at h
    cases h
  | ok u =>
    rw [hchars] at h
    obtain rfl := Option.some.inj h
    exact text_of_ofChars hchars

/-- Conditions that are the same but for parts of a second. -/
structure Condition.SameToSecond (a b : Condition) : Prop where
  rest : a = { b with lastTransitionTime := a.lastTransitionTime }
  lastTransitionTime : a.lastTransitionTime.SameSecond b.lastTransitionTime

theorem Condition.SameToSecond.refl (c : Condition) : c.SameToSecond c := ⟨rfl, rfl⟩

theorem Condition.SameToSecond.alike {a b : Condition} (h : a.SameToSecond b) : a.Alike b := by
  obtain ⟨hrest, -⟩ := h
  rw [hrest]
  exact ⟨rfl, agrees_iff.2 ⟨rfl, rfl, rfl, rfl⟩⟩

theorem Condition.sameToSecond_of_reread {c c' : Condition} (h : decode? (.ofJson (encode c)) = some c') :
    c'.SameToSecond c := by
  replace h := (Decode.decode?_record _ _ _).symm.trans h
  simp [Fields.decode?_required, Option.bind_eq_some_iff, Option.map_eq_some_iff] at h
  obtain ⟨_, htext, t, ht, rfl⟩ := h
  obtain rfl := Option.some.inj htext
  exact ⟨rfl, Timestamp.sameSecond_of_reread ht⟩

/-! ## Metadata -/

instance : LawfulCodec OwnerReference := .of_record fun _ => by simp

/-- The fields of a manager as readers of JSON see them: the order of keys does not count, and `null` is as good as
nothing. -/
def FieldManager.fields? (f : FieldManager) : Option Json := (f.fieldsV1.map Json.reread).filter (· ≠ .null)

theorem FieldManager.fields?_of_reread {j j' : Option Json} (h : readBack (whenSome j) = some j') :
    (j'.map Json.reread).filter (· ≠ .null) = (j.map Json.reread).filter (· ≠ .null) := by
  cases j with
  | none =>
    obtain rfl : none = j' := Option.some.inj h
    rfl
  | some j =>
    by_cases hnull : j = .null
    · subst hnull
      obtain rfl : none = j' := Option.some.inj h
      rfl
    · obtain ⟨_, hread, rfl⟩ := Option.map_eq_some_iff.1 ((decode?_some (ofJson_ne_null hnull)).symm.trans h)
      obtain rfl : j.reread = _ := Option.some.inj hread
      rw [Option.map_some, Json.reread_reread]
      rfl

/-- Records of managers that are the same but for parts of a second. -/
structure FieldManager.SameToSecond (a b : FieldManager) : Prop where
  rest : a = { b with fieldsV1 := a.fieldsV1, time := a.time }
  fields : a.fields? = b.fields?
  time : Option.Rel Timestamp.SameSecond a.time b.time

theorem FieldManager.sameToSecond_of_reread {f f' : FieldManager} (h : decode? (.ofJson (encode f)) = some f') :
    f'.SameToSecond f := by
  replace h := (Decode.decode?_record _ _ _).symm.trans h
  simp [Option.bind_eq_some_iff, Option.map_eq_some_iff] at h
  obtain ⟨fields, hfields, time, htime, rfl⟩ := h
  refine ⟨rfl, fields?_of_reread hfields, rel_of_readBack (fun _ _ => Timestamp.sameSecond_of_reread) ?_ htime⟩
  exact fun _ h => Json.noConfusion h

/-- Metadata that is the same but for parts of a second. -/
structure ObjectMeta.SameToSecond (a b : ObjectMeta) : Prop where
  rest : a = { b with
    creationTimestamp := a.creationTimestamp, deletionTimestamp := a.deletionTimestamp,
    managedFields := a.managedFields }
  creationTimestamp : Option.Rel Timestamp.SameSecond a.creationTimestamp b.creationTimestamp
  deletionTimestamp : Option.Rel Timestamp.SameSecond a.deletionTimestamp b.deletionTimestamp
  managedFields : Option.Rel (List.Forall₂ FieldManager.SameToSecond) a.managedFields b.managedFields

theorem ObjectMeta.sameToSecond_of_reread {m m' : ObjectMeta} (h : decode? (.ofJson (encode m)) = some m') :
    m'.SameToSecond m := by
  replace h := (Decode.decode?_record _ _ _).symm.trans h
  simp [Option.bind_eq_some_iff, Option.map_eq_some_iff] at h
  obtain ⟨deleted, created, managers, ⟨hdeleted, hcreated, hmanagers⟩, rfl⟩ := h
  have hnull : ∀ t : Timestamp, encode t ≠ .null := fun _ h => Json.noConfusion h
  refine ⟨rfl, rel_of_readBack (fun _ _ => Timestamp.sameSecond_of_reread) hnull hcreated,
    rel_of_readBack (fun _ _ => Timestamp.sameSecond_of_reread) hnull hdeleted, rel_of_readBack ?_ ?_ hmanagers⟩
  · exact fun _ _ hitems => forall₂_of_decode? (fun _ _ => FieldManager.sameToSecond_of_reread) hitems
  · exact fun _ h => Json.noConfusion h

theorem ObjectMeta.SameToSecond.refl (m : ObjectMeta) : m.SameToSecond m := by
  have hsame : ∀ o : Option Timestamp, Option.Rel Timestamp.SameSecond o o := by
    rintro (_ | t)
    · exact .none
    · exact .some rfl
  refine ⟨rfl, hsame _, hsame _, ?_⟩
  cases m.managedFields with
  | none => exact .none
  | some managers => exact .some (List.forall₂_same.2 fun f _ => ⟨rfl, rfl, hsame _⟩)

/-! ## Searches -/

/-- Statuses that are the same but for parts of a second. An absent list of conditions is as good as an empty one. -/
structure SearchStatus.SameToSecond (a b : SearchStatus) : Prop where
  db : a.db = b.db
  storage : a.storage = b.storage
  conditions : List.Forall₂ Condition.SameToSecond a.conditionList b.conditionList

/-- A condition that a status does not have is not in one that is the same to the second. -/
theorem SearchStatus.SameToSecond.condition?_eq_none {a b : SearchStatus} (h : a.SameToSecond b) {type : String}
    (hb : b.condition? type = none) : a.condition? type = none := by
  rcases Condition.find?_of_alike type (h.conditions.imp fun _ _ hc => hc.alike) with ⟨ha, -⟩ | ⟨_, d, -, hd, -⟩
  · exact ha
  · cases hb.symm.trans hd

/-- A Search that reports a status is the one before but for the status and the version of the Search. -/
structure Search.Reports (before : Search) (status : SearchStatus) (after : Search) : Prop where
  metadata : after.metadata.SameToSecond { before.metadata with resourceVersion := after.metadata.resourceVersion }
  spec : after.spec = before.spec
  status : ∃ written, after.status = some written ∧ written.SameToSecond status

/-- A condition that is not in the status is gone. -/
theorem Search.Reports.condition?_eq_none {before after : Search} {status : SearchStatus}
    (h : before.Reports status after) {type : String} (hnone : status.condition? type = none) :
    after.status.bind (·.condition? type) = none := by
  obtain ⟨written, hwritten, hsame⟩ := h.status
  rw [hwritten]
  exact hsame.condition?_eq_none hnone

theorem Search.reports_self {search : Search} {status : SearchStatus} (h : search.status = some status) :
    search.Reports status search :=
  ⟨.refl _, rfl, status, h, rfl, rfl, List.forall₂_same.2 fun c _ => .refl c⟩

/-- A Search that was stored with a status reports it. -/
theorem Search.reports_of_withStatus {search after : Search} {status : SearchStatus} (hdb : status.db ≠ none)
    (hstorage : status.storage ≠ none)
    (h : Store.withStatus? (k := .search) search (Pass.statusJson status) = .ok after) (version : Nat) :
    search.Reports status (Store.stamped (k := .search) version after) := by
  obtain ⟨hmetadata, hspec, written, hwritten, hdb', hstorage', hconditions⟩ := parts_of_withStatus hdb hstorage h
  obtain ⟨hrest, hcreation, hdeletion, hmanagers⟩ := ObjectMeta.sameToSecond_of_reread hmetadata
  refine ⟨⟨?_, hcreation, hdeletion, hmanagers⟩, hspec, written, hwritten, hdb', hstorage', ?_⟩
  · exact congrArg (fun m : ObjectMeta => m.withVersion (toString version)) hrest
  · exact forall₂_of_decode? (fun _ _ => Condition.sameToSecond_of_reread) hconditions

end HubSearch
