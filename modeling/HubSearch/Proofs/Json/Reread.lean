/-
Reading back what was written. `LawfulCodec` is for types of which every value reads back as itself; records
read back field by field. The keys of a written record differ, so each field is found under its key:
`values_ofJson_object`. Main statements: `optional?_ofJson_record` and the instances.
-/
import HubSearch.Json.Codec
import HubSearch.Proofs.Dict
import Mathlib.Data.List.Forall2

namespace HubSearch

variable {α β : Type}

/-- Types whose values read back as what they are. -/
class LawfulCodec (α : Type) [Encode α] [Decode α] : Prop where
  decode_encode : ∀ a : α, decode? (.ofJson (encode a)) = some a
  encode_ne_null : ∀ a : α, encode a ≠ .null

/-! ## Values under a key -/

namespace WrittenJson

theorem ofFields_eq_map : ∀ es : List (String × Json), ofFields es = es.map fun e => (e.1, ofJson e.2)
  | [] => rfl
  | (k, j) :: rest => by rw [ofFields, ofFields_eq_map rest, List.map_cons]

theorem ofItems_eq_map : ∀ js : List Json, ofItems js = js.map ofJson
  | [] => rfl
  | j :: rest => by rw [ofItems, ofItems_eq_map rest, List.map_cons]

/-- Under a key of an object whose keys differ there is the one value that it has. -/
theorem values_ofJson_object (key : String) : ∀ {es : List (String × Json)}, (es.map (·.1)).Nodup →
    (ofJson (.object es)).values key = ((es.lookup key).map ofJson).toList
  | [], _ => rfl
  | (k, j) :: rest, hn => by
    rw [List.map_cons, List.nodup_cons] at hn
    have ih := values_ofJson_object key hn.2
    simp only [ofJson, values, object?, Option.getD_some] at ih
    simp only [ofJson, ofFields, values, object?, Option.getD_some, List.filter_cons]
    by_cases hk : k = key
    · subst hk
      rw [Entries.lookup_eq_none hn.1] at ih
      simp [ih]
    · have hk' : (key == k) = false := beq_false_of_ne fun h => hk h.symm
      simp [List.lookup_cons, hk, hk', ih]

/-- What the value of a field reads back as; a field that is left out reads as nothing. -/
def readBack [Decode α] (o : Option Json) : Option (Option α) := o.elim (some none) fun j => decode? (ofJson j)

theorem optional?_ofJson_object [Decode α] {es : List (String × Json)} (hn : (es.map (·.1)).Nodup) (key : String) :
    ((ofJson (.object es)).optional? key : Option (Option α)) = readBack (es.lookup key) := by
  rw [optional?, values_ofJson_object key hn]
  cases es.lookup key <;> rfl

theorem decode?_some [Decode α] {w : WrittenJson} (h : w ≠ .null) :
    (decode? w : Option (Option α)) = (decode? w : Option α).map some := by
  cases w with
  | null => exact absurd rfl h
  | _ => rfl

theorem ofJson_ne_null {j : Json} (h : j ≠ .null) : ofJson j ≠ .null := by
  cases j <;> simp_all [ofJson]

section

variable [Encode α] [Decode α] [LawfulCodec α]

@[simp]
theorem readBack_always (a : α) : (readBack (always a) : Option (Option α)) = some (some a) := by
  show decode? (ofJson (encode a)) = _
  rw [decode?_some (ofJson_ne_null (LawfulCodec.encode_ne_null a)), LawfulCodec.decode_encode]
  rfl

@[simp]
theorem readBack_whenSome : ∀ a : Option α, (readBack (whenSome a) : Option (Option α)) = some a
  | none => rfl
  | some a => readBack_always a

end

end WrittenJson

/-! ## Records -/

theorem lookup_record (key : String) : ∀ {fs : List (String × Option Json)}, (fs.map (·.1)).Nodup →
    (fs.filterMap fun f => f.2.map (f.1, ·)).lookup key = (fs.lookup key).join
  | [], _ => rfl
  | (k, v) :: rest, hn => by
    rw [List.map_cons, List.nodup_cons] at hn
    have ih := lookup_record key hn.2
    by_cases hk : key = k
    · subst hk
      rw [Entries.lookup_eq_none hn.1] at ih
      rw [List.lookup_cons_self]
      cases v with
      | none => exact ih
      | some v => exact List.lookup_cons_self
    · have hk : (key == k) = false := beq_false_of_ne hk
      rw [List.lookup_cons, hk]
      cases v with
      | none => exact ih
      | some v =>
        show ((k, v) :: rest.filterMap fun f => f.2.map (f.1, ·)).lookup key = _
        rw [List.lookup_cons, hk]
        exact ih

theorem nodup_record {fs : List (String × Option Json)} (hn : (fs.map (·.1)).Nodup) :
    ((fs.filterMap fun f => f.2.map (f.1, ·)).map (·.1)).Nodup := by
  refine hn.sublist ?_
  induction fs with
  | nil => exact .slnil
  | cons f rest ih =>
    obtain ⟨k, v⟩ := f
    rw [List.map_cons, List.nodup_cons] at hn
    cases v with
    | none => exact .cons _ (ih hn.2)
    | some v => exact .cons_cons _ (ih hn.2)

theorem ascending_record {fs : List (String × Option Json)} (h : (fs.map (·.1)).Pairwise (· < ·)) :
    Entries.Ascending (fs.filterMap fun f => f.2.map (f.1, ·)) := by
  refine List.Pairwise.filterMap _ (fun f g hfg e he e' he' => ?_) (List.pairwise_map.1 h)
  obtain ⟨_, -, rfl⟩ := Option.map_eq_some_iff.1 he
  obtain ⟨_, -, rfl⟩ := Option.map_eq_some_iff.1 he'
  exact hfg

namespace Fields

open WrittenJson

@[simp]
theorem decode?_map (f : α → β) (a : Fields α) (w : WrittenJson) : (f <$> a).decode? w = (a.decode? w).map f := rfl

@[simp]
theorem decode?_seq (f : Fields (α → β)) (a : Fields α) (w : WrittenJson) :
    (f <*> a).decode? w = (f.decode? w).bind fun f => (a.decode? w).map f := by
  show (do pure ((← f.decode? w) (← a.decode? w))) = _
  cases f.decode? w <;> cases a.decode? w <;> rfl

section

variable [Decode α] {fs : List (String × Option Json)}

theorem decode?_optional_object {es : List (String × Json)} (hn : (es.map (·.1)).Nodup) (key : String) :
    (optional key : Fields (Option α)).decode? (ofJson (.object es)) = readBack (es.lookup key) :=
  optional?_ofJson_object hn key

theorem decode?_optional (hn : (fs.map (·.1)).Nodup) (key : String) :
    (optional key : Fields (Option α)).decode? (ofJson (.record fs)) = readBack (fs.lookup key).join := by
  rw [Json.record, decode?_optional_object (nodup_record hn), lookup_record key hn]

theorem decode?_defaulted (hn : (fs.map (·.1)).Nodup) (key : String) (absent : α) :
    (defaulted key absent).decode? (ofJson (.record fs)) =
      (readBack (fs.lookup key).join).map fun o => o.getD absent := by
  rw [← lookup_record key hn, ← optional?_ofJson_object (nodup_record hn)]
  rfl

theorem decode?_required_object {es : List (String × Json)} (hn : (es.map (·.1)).Nodup) (key : String) :
    (required key : Fields α).decode? (ofJson (.object es)) =
      (es.lookup key).bind fun j => Decode.decode? (ofJson j) := by
  show ((ofJson (.object es)).values key).getLast?.bind Decode.decode? = _
  rw [values_ofJson_object key hn]
  cases es.lookup key <;> rfl

theorem decode?_required (hn : (fs.map (·.1)).Nodup) (key : String) :
    (required key : Fields α).decode? (ofJson (.record fs)) =
      (fs.lookup key).join.bind fun j => Decode.decode? (ofJson j) := by
  rw [Json.record, decode?_required_object (nodup_record hn), lookup_record key hn]

theorem decode?_leftOut_object {es : List (String × Json)} (hn : (es.map (·.1)).Nodup) (key : String) (absent : α) :
    (leftOut key absent).decode? (ofJson (.object es)) =
      (es.lookup key).elim (some absent) fun j => Decode.decode? (ofJson j) := by
  simp only [leftOut, values_ofJson_object key hn]
  cases es.lookup key <;> rfl

theorem decode?_leftOut (hn : (fs.map (·.1)).Nodup) (key : String) (absent : α) :
    (leftOut key absent).decode? (ofJson (.record fs)) =
      (fs.lookup key).join.elim (some absent) fun j => Decode.decode? (ofJson j) := by
  rw [Json.record, decode?_leftOut_object (nodup_record hn), lookup_record key hn]

end

end Fields

namespace Decode

open WrittenJson

theorem decode?_record (name : String) (fields : Fields α) (fs : List (String × Option Json)) :
    (record name fields).decode? (ofJson (.record fs)) = fields.decode? (ofJson (.record fs)) := rfl

theorem decode?_strict_object (name : String) (fields : Fields α) {es : List (String × Json)}
    (hn : (es.map (·.1)).Nodup) :
    (strict name fields).decode? (ofJson (.object es)) = fields.decode? (ofJson (.object es)) := by
  have hsingle : (ofJson (.object es)).single? fields.shapes = some (ofJson (.object es)) := by
    show (if fields.shapes.all fun f => _ then _ else none) = _
    rw [if_pos]
    · rfl
    · refine List.all_eq_true.2 fun f _ => decide_eq_true ?_
      show ((ofJson (.object es)).values f.1).length ≤ 1
      rw [values_ofJson_object _ hn]
      cases es.lookup f.1 <;> simp
  show ((ofJson (.object es)).single? fields.shapes).bind fields.decode? = _
  rw [hsingle]
  rfl

theorem decode?_strict (name : String) (fields : Fields α) {fs : List (String × Option Json)}
    (hn : (fs.map (·.1)).Nodup) :
    (strict name fields).decode? (ofJson (.record fs)) = fields.decode? (ofJson (.record fs)) :=
  decode?_strict_object name fields (nodup_record hn)

end Decode

namespace LawfulCodec

variable {name : String} {fields : Fields α} {written : α → List (String × Option Json)}

/-- A record reads back if its fields do. -/
theorem of_record (h : ∀ a, fields.decode? (.ofJson (.record (written a))) = some a) :
    @LawfulCodec α ⟨fun a => .record (written a)⟩ (.record name fields) :=
  @LawfulCodec.mk α ⟨_⟩ (.record name fields) h fun _ h => Json.noConfusion h

/-- So does a strict one, if its keys differ. -/
theorem of_strict (hn : ∀ a, ((written a).map (·.1)).Nodup)
    (h : ∀ a, fields.decode? (.ofJson (.record (written a))) = some a) :
    @LawfulCodec α ⟨fun a => .record (written a)⟩ (.strict name fields) :=
  @LawfulCodec.mk α ⟨_⟩ (.strict name fields) (fun a => (Decode.decode?_strict _ _ (hn a)).trans (h a))
    fun _ h => Json.noConfusion h

end LawfulCodec

/-! ## Scalars and containers -/

instance : LawfulCodec String := ⟨fun _ => rfl, fun _ h => Json.noConfusion h⟩

instance : LawfulCodec Bool := ⟨fun _ => rfl, fun _ h => Json.noConfusion h⟩

instance : LawfulCodec Int32 where
  decode_encode i := by
    have h : Int32.minValue.toInt ≤ i.toInt ∧ i.toInt ≤ Int32.maxValue.toInt :=
      ⟨Int32.minValue_le_toInt i, Int32.toInt_le i⟩
    show Option.map Int32.ofInt (if _ then _ else _) = _
    rw [if_pos h, Option.map_some, Int32.ofInt_toInt]
  encode_ne_null _ h := Json.noConfusion h

instance : LawfulCodec Int64 where
  decode_encode i := by
    have h : Int64.minValue.toInt ≤ i.toInt ∧ i.toInt ≤ Int64.maxValue.toInt :=
      ⟨Int64.minValue_le_toInt i, Int64.toInt_le i⟩
    show Option.map Int64.ofInt (if _ then _ else _) = _
    rw [if_pos h, Option.map_some, Int64.ofInt_toInt]
  encode_ne_null _ h := Json.noConfusion h

section

variable [Encode α] [Decode α] [LawfulCodec α]

theorem decodeItems?_encode : ∀ xs : List α, decodeItems? ((xs.map encode).map .ofJson) = some xs
  | [] => rfl
  | a :: rest => by
    rw [List.map_cons, List.map_cons, decodeItems?, LawfulCodec.decode_encode, decodeItems?_encode rest]
    rfl

theorem decodeFields?_encode : ∀ es : List (String × α),
    decodeFields? (es.map fun e => (e.1, .ofJson (encode e.2))) = some es
  | [] => rfl
  | (k, a) :: rest => by
    rw [List.map_cons, decodeFields?, LawfulCodec.decode_encode, decodeFields?_encode rest]
    rfl

instance : LawfulCodec (List α) where
  decode_encode xs := by
    show decodeItems? (WrittenJson.ofItems (xs.map encode)) = some xs
    rw [WrittenJson.ofItems_eq_map, decodeItems?_encode]
  encode_ne_null _ h := Json.noConfusion h

instance : LawfulCodec (Dict α) where
  decode_encode d := by
    show (decodeFields? (WrittenJson.ofFields (d.entries.map fun e => (e.1, encode e.2)))).map Dict.ofList = some d
    rw [WrittenJson.ofFields_eq_map, List.map_map]
    show (decodeFields? (d.entries.map fun e => (e.1, .ofJson (encode e.2)))).map Dict.ofList = some d
    rw [decodeFields?_encode, Option.map_some, Dict.ofList_entries]
  encode_ne_null _ h := Json.noConfusion h

end

/-! ## Values that read back as something related -/

section

open WrittenJson

variable [Encode α] [Decode α] {R : α → α → Prop} (hR : ∀ a a' : α, decode? (.ofJson (encode a)) = some a' → R a' a)

include hR

theorem rel_of_readBack (hnull : ∀ a : α, encode a ≠ .null) {o o' : Option α}
    (h : readBack (whenSome o) = some o') : Option.Rel R o' o := by
  cases o with
  | none =>
    obtain rfl : none = o' := Option.some.inj h
    exact .none
  | some a =>
    obtain ⟨a', ha', rfl⟩ := Option.map_eq_some_iff.1 ((decode?_some (ofJson_ne_null (hnull a))).symm.trans h)
    exact .some (hR a a' ha')

theorem forall₂_of_decodeItems? : ∀ {xs xs' : List α}, decodeItems? ((xs.map encode).map ofJson) = some xs' →
    List.Forall₂ R xs' xs
  | [], xs', h => by
    obtain rfl := Option.some.inj h
    exact .nil
  | a :: rest, xs', h => by
    simp only [List.map_cons, decodeItems?, Option.bind_eq_bind, Option.bind_eq_some_iff, Option.pure_def,
      Option.some.injEq] at h
    obtain ⟨a', ha, rest', hrest, rfl⟩ := h
    exact .cons (hR a a' ha) (forall₂_of_decodeItems? hrest)

theorem forall₂_of_decode? {xs xs' : List α} (h : decode? (.ofJson (encode xs)) = some xs') :
    List.Forall₂ R xs' xs := by
  refine forall₂_of_decodeItems? hR ?_
  rw [← ofItems_eq_map]
  exact h

end

/-! ## JSON that reads as JSON -/

namespace Json

open WrittenJson

/-- What a value reads back as: in its objects each key once, in ascending order. -/
def reread (j : Json) : Json := (ofJson j).json

theorem itemsJson_ofItems : ∀ js : List Json, itemsJson (ofItems js) = js.map reread
  | [] => rfl
  | j :: rest => by
    rw [ofItems, itemsJson, itemsJson_ofItems rest]
    rfl

theorem fieldsJson_ofFields : ∀ es : List (String × Json), fieldsJson (ofFields es) = es.map fun e => (e.1, reread e.2)
  | [] => rfl
  | (k, j) :: rest => by
    rw [ofFields, fieldsJson, fieldsJson_ofFields rest]
    rfl

theorem reread_array (js : List Json) : reread (.array js) = .array (js.map reread) :=
  congrArg Json.array (itemsJson_ofItems js)

theorem reread_object (es : List (String × Json)) :
    reread (.object es) = .object (Entries.insertAll [] (es.map fun e => (e.1, reread e.2))) :=
  congrArg (fun fields => Json.object (Entries.insertAll [] fields)) (fieldsJson_ofFields es)

mutual

theorem reread_reread : ∀ j : Json, reread (reread j) = reread j
  | .null => rfl
  | .bool _ => rfl
  | .number _ => rfl
  | .string _ => rfl
  | .array js => by rw [reread_array, reread_array, reread_items js]
  | .object es => by
    let fields := Entries.insertAll [] (es.map fun e => (e.1, reread e.2))
    have hascending : Entries.Ascending fields := Entries.ascending_insertAll [] List.Pairwise.nil _
    -- the values in the object have been read back, and its keys are in order
    have hvalues : (fields.map fun e => (e.1, reread e.2)) = fields := by
      refine (List.map_inj_left.2 fun e he => ?_).trans (List.map_id fields)
      have hfixed := List.map_inj_left.1 ((reread_fields es).trans (List.map_id _).symm)
      exact hfixed e ((Entries.mem_insertAll he).resolve_left List.not_mem_nil)
    have hkeys : Entries.insertAll [] fields = fields :=
      congrArg Dict.entries (Dict.ofList_entries ⟨fields, hascending⟩)
    rw [reread_object, reread_object, hvalues, hkeys]

theorem reread_items : ∀ js : List Json, (js.map reread).map reread = js.map reread
  | [] => rfl
  | j :: rest => by rw [List.map_cons, List.map_cons, reread_reread j, reread_items rest]

theorem reread_fields : ∀ es : List (String × Json),
    (es.map fun e => (e.1, reread e.2)).map (fun e => (e.1, reread e.2)) = es.map fun e => (e.1, reread e.2)
  | [] => rfl
  | (k, j) :: rest => by rw [List.map_cons, List.map_cons, reread_reread j, reread_fields rest]

end

end Json

end HubSearch
