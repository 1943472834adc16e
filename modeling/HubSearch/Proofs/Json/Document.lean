/-
What reading a document gives, by where its path leads. A path leads to a value (`Json.At`), or a key on it has no
value (`Json.Lacks`), or something on it that is not null has no keys (`Json.Obstructs`), and never to two of these.
Main statements: a read gives the value or blames the part of the path up to there
(`Json.lookup_eq_ok_iff`, `Json.lookup_eq_missing_iff`, `Json.lookup_eq_wrongType_iff`), and a path is read in two parts,
one below the other (`Json.lookup_in_parts`).
-/
import HubSearch.Json.Document

namespace HubSearch

namespace FieldError

/-! ## The path of a failure -/

/-- The path that a failure blames. -/
def blamed : FieldError → List String
  | .missing path => path
  | .wrongType path _ => path

/-- A failure of the same kind, with its path below another one. -/
def below (before : List String) : FieldError → FieldError
  | .missing path => .missing (before ++ path)
  | .wrongType path expected => .wrongType (before ++ path) expected

theorem blamed_below (before : List String) (e : FieldError) : (e.below before).blamed = before ++ e.blamed := by
  cases e <;> rfl

theorem pathText_of_ne_nil {path : List String} (h : path ≠ []) : pathText path = ".".intercalate path := by
  cases path with
  | nil => exact absurd rfl h
  | cons key rest => rfl

/-- A point stands between the texts of two paths that have keys. -/
theorem pathText_append {path rest : List String} (hpath : path ≠ []) (hrest : rest ≠ []) :
    pathText (path ++ rest) = pathText path ++ "." ++ pathText rest := by
  rw [pathText_of_ne_nil hpath, pathText_of_ne_nil hrest, pathText_of_ne_nil (List.append_ne_nil_of_left_ne_nil hpath _),
    String.intercalate_append_of_ne_nil hpath hrest]

end FieldError

namespace Json

/-! ## Where a path leads -/

/-- There can be a value under the key, but there is none, or null. -/
def Vacant (j : Json) (key : String) : Prop := (j = .null ∨ j.isObject = true) ∧ j.field key = .null

/-- A value that has no keys, other than null. -/
def Keyless (j : Json) : Prop := j ≠ .null ∧ j.isObject = false

/-- The path leads to the value, and each of its keys has a value. -/
def At : Json → List String → Json → Prop
  | j, [], v => j = v
  | j, key :: rest, v => j.field key ≠ .null ∧ (j.field key).At rest v

/-- The path leads to a key without a value; the second path ends with this key. -/
def Lacks (j : Json) (path p : List String) : Prop :=
  ∃ before key rest u, path = before ++ key :: rest ∧ p = before ++ [key] ∧ j.At before u ∧ u.Vacant key

/-- The path goes through a value that has no keys; the second path leads there. -/
def Obstructs (j : Json) (path p : List String) : Prop :=
  ∃ key rest u, path = p ++ key :: rest ∧ j.At p u ∧ u.Keyless

variable {j u v : Json} {key : String} {path p : List String}

theorem At.eq : ∀ {path : List String} {j : Json}, j.At path u → j.At path v → u = v
  | [], _, hu, hv => hu.symm.trans hv
  | _ :: _, _, hu, hv => At.eq hu.2 hv.2

theorem isObject_of_field_ne_null (h : j.field key ≠ .null) : j.isObject = true := by
  cases j with
  | object => rfl
  | _ => exact absurd rfl h

/-- A value is found under a key, or not, or there are no keys. -/
theorem field_cases (j : Json) (key : String) : j.field key ≠ .null ∨ j.Vacant key ∨ j.Keyless := by
  by_cases hfield : j.field key = .null
  · refine .inr ?_
    cases j with
    | null => exact .inl ⟨.inl rfl, rfl⟩
    | object fields => exact .inl ⟨.inr rfl, hfield⟩
    | _ => exact .inr ⟨(nomatch ·), rfl⟩
  · exact .inl hfield

/-- Every path leads somewhere. -/
theorem at_cases : ∀ (path : List String) (j : Json),
    (∃ v, j.At path v) ∨ (∃ p, j.Lacks path p) ∨ ∃ p, j.Obstructs path p
  | [], j => .inl ⟨j, rfl⟩
  | key :: rest, j => by
    rcases j.field_cases key with hfield | hvacant | hkeyless
    · rcases at_cases rest (j.field key) with ⟨v, hv⟩ | ⟨p, hp⟩ | ⟨p, hp⟩
      · exact .inl ⟨v, hfield, hv⟩
      · obtain ⟨before, other, more, u, rfl, rfl, hat, hu⟩ := hp
        exact .inr (.inl ⟨_, key :: before, other, more, u, rfl, rfl, ⟨hfield, hat⟩, hu⟩)
      · obtain ⟨other, more, u, rfl, hat, hu⟩ := hp
        exact .inr (.inr ⟨key :: p, other, more, u, rfl, ⟨hfield, hat⟩, hu⟩)
    · exact .inr (.inl ⟨[key], [], key, rest, j, rfl, rfl, rfl, hvacant⟩)
    · exact .inr (.inr ⟨[], key, rest, j, rfl, rfl, hkeyless⟩)

/-- What a path leads to has a value, unless it is the document itself. -/
theorem At.ne_null : ∀ {path : List String} {j : Json}, j.At path v → path ≠ [] → v ≠ .null
  | [_], _, h, _ => h.2 ▸ h.1
  | _ :: _ :: _, _, h, _ => At.ne_null h.2 (List.cons_ne_nil _ _)

/-- What a path lacks is lacking on each longer one. -/
theorem Lacks.append (h : j.Lacks path p) (rest : List String) : j.Lacks (path ++ rest) p := by
  obtain ⟨before, key, more, u, rfl, rfl, hat, hvacant⟩ := h
  exact ⟨before, key, more ++ rest, u, by rw [List.append_assoc, List.cons_append], rfl, hat, hvacant⟩

/-- What is in the way of a path is in the way of each longer one. -/
theorem Obstructs.append (h : j.Obstructs path p) (rest : List String) : j.Obstructs (path ++ rest) p := by
  obtain ⟨key, more, u, rfl, hat, hkeyless⟩ := h
  exact ⟨key, more ++ rest, u, by rw [List.append_assoc, List.cons_append], hat, hkeyless⟩

theorem at_key (h : j.field key = v) (hv : v ≠ .null) : j.At [key] v := ⟨h.symm ▸ hv, h⟩

theorem lacks_key (h : j.Vacant key) : j.Lacks [key] [key] := ⟨[], key, [], j, rfl, rfl, rfl, h⟩

theorem obstructs_key (h : j.Keyless) : j.Obstructs [key] [] := ⟨key, [], j, rfl, rfl, h⟩

/-! ## Reading a value -/

/-- A key with a value is one step of the walk. -/
theorem lookupFrom_cons_of_field (here rest : List String) (h : j.field key ≠ .null) :
    lookupFrom here j (key :: rest) = lookupFrom (here ++ [key]) (j.field key) rest := by
  cases j with
  | object fields => grind [lookupFrom, field]
  | _ => exact absurd rfl h

theorem lookupFrom_cons_of_vacant (here rest : List String) (h : j.Vacant key) :
    lookupFrom here j (key :: rest) = .error (.missing (here ++ [key])) := by
  obtain ⟨hkeys, hfield⟩ := h
  cases j with
  | null => rfl
  | object fields => grind [lookupFrom, field]
  | _ => rcases hkeys with h | h <;> cases h

theorem lookupFrom_cons_of_keyless (here rest : List String) (h : j.Keyless) :
    lookupFrom here j (key :: rest) = .error (.wrongType here .object) := by
  obtain ⟨hne, hkeys⟩ := h
  cases j with
  | null => exact absurd rfl hne
  | object fields => cases hkeys
  | _ => rfl

/-- The part of a path that leads to a value is walked first. -/
theorem lookupFrom_append (rest : List String) : ∀ {before here : List String} {j : Json}, j.At before u →
    lookupFrom here j (before ++ rest) = lookupFrom (here ++ before) u rest
  | [], here, _, h => by rw [← h, List.nil_append, List.append_nil]
  | key :: before, here, j, h => by
    rw [List.cons_append, lookupFrom_cons_of_field here _ h.1, lookupFrom_append rest h.2, List.append_assoc,
      List.singleton_append]

theorem lookup_append (h : j.At path u) (rest : List String) : j.lookup (path ++ rest) = lookupFrom path u rest :=
  lookupFrom_append rest h

theorem lookup_of_at (h : j.At path v) : j.lookup path = .ok v := by
  have hwalk := lookup_append h []
  rwa [List.append_nil] at hwalk

theorem lookup_of_lacks (h : j.Lacks path p) : j.lookup path = .error (.missing p) := by
  obtain ⟨before, key, rest, u, rfl, rfl, hat, hvacant⟩ := h
  rw [lookup_append hat, lookupFrom_cons_of_vacant before rest hvacant]

theorem lookup_of_obstructs (h : j.Obstructs path p) : j.lookup path = .error (.wrongType p .object) := by
  obtain ⟨key, rest, u, rfl, hat, hkeyless⟩ := h
  rw [lookup_append hat, lookupFrom_cons_of_keyless p rest hkeyless]

/-- A read gives the value that its path leads to. -/
theorem lookup_eq_ok_iff : j.lookup path = .ok v ↔ j.At path v := by
  refine ⟨fun h => ?_, lookup_of_at⟩
  rcases at_cases path j with ⟨u, hu⟩ | ⟨p, hp⟩ | ⟨p, hp⟩
  · cases (lookup_of_at hu).symm.trans h
    exact hu
  · cases (lookup_of_lacks hp).symm.trans h
  · cases (lookup_of_obstructs hp).symm.trans h

/-- A read fails for want of a value exactly where its path leads to a key without one. -/
theorem lookup_eq_missing_iff : j.lookup path = .error (.missing p) ↔ j.Lacks path p := by
  refine ⟨fun h => ?_, lookup_of_lacks⟩
  rcases at_cases path j with ⟨u, hu⟩ | ⟨q, hq⟩ | ⟨q, hq⟩
  · cases (lookup_of_at hu).symm.trans h
  · cases (lookup_of_lacks hq).symm.trans h
    exact hq
  · cases (lookup_of_obstructs hq).symm.trans h

/-- A read fails for the type of a value exactly where its path goes through one that has no keys. -/
theorem lookup_eq_wrongType_iff {type : FieldType} :
    j.lookup path = .error (.wrongType p type) ↔ type = .object ∧ j.Obstructs path p := by
  refine ⟨fun h => ?_, fun ⟨htype, h⟩ => htype ▸ lookup_of_obstructs h⟩
  rcases at_cases path j with ⟨u, hu⟩ | ⟨q, hq⟩ | ⟨q, hq⟩
  · cases (lookup_of_at hu).symm.trans h
  · cases (lookup_of_lacks hq).symm.trans h
  · cases (lookup_of_obstructs hq).symm.trans h
    exact ⟨rfl, hq⟩

/-! ## Reading along a path in two parts -/

/-- A walk that has come a longer way blames the same, below that way. -/
theorem lookupFrom_below (before : List String) : ∀ (path here : List String) (j : Json),
    lookupFrom (before ++ here) j path = (lookupFrom here j path).mapError (FieldError.below before)
  | [], _, _ => rfl
  | key :: rest, here, j => by
    rcases j.field_cases key with hfield | hvacant | hkeyless
    · rw [lookupFrom_cons_of_field _ rest hfield, lookupFrom_cons_of_field here rest hfield, List.append_assoc,
        lookupFrom_below before rest]
    · rw [lookupFrom_cons_of_vacant _ rest hvacant, lookupFrom_cons_of_vacant here rest hvacant, List.append_assoc]
      rfl
    · rw [lookupFrom_cons_of_keyless _ rest hkeyless, lookupFrom_cons_of_keyless here rest hkeyless]
      rfl

/-- The second part of a path is read below the value that the first part leads to. -/
theorem lookup_append_of_ok (h : j.lookup path = .ok v) (rest : List String) :
    j.lookup (path ++ rest) = (v.lookup rest).mapError (FieldError.below path) := by
  have hwalk := lookupFrom_below path rest [] v
  rw [List.append_nil] at hwalk
  rw [lookup_append (lookup_eq_ok_iff.1 h), hwalk]
  rfl

/-- What fails on a path fails in the same way on each longer one. -/
theorem lookup_append_of_error {e : FieldError} (h : j.lookup path = .error e) (rest : List String) :
    j.lookup (path ++ rest) = .error e := by
  cases e with
  | missing p => exact lookup_of_lacks ((lookup_eq_missing_iff.1 h).append rest)
  | wrongType p type =>
    obtain ⟨rfl, hobstructs⟩ := lookup_eq_wrongType_iff.1 h
    exact lookup_of_obstructs (hobstructs.append rest)

/-- A path is read in two parts, one after the other, and the shortest part of it that cannot be read is blamed. If the
first part fails, so does the whole, in the same way. If it leads to a value, then the whole gives what the second part
gives below this value, or fails in the same way, with the path of that failure below the first part; in its text a
point stands between the two, and the empty path, whose own text is a point, adds nothing. A path with keys never leads
to null. It fails for want of a value exactly if a key on it has none, and is blamed up to this key, and for the type of
a value exactly if one on it, other than null, has no keys, and is blamed up to this value; in both cases each key
before has a value, so the first of them counts. -/
theorem lookup_in_parts (j : Json) (p q : List String) :
    (∀ e, j.lookup p = .error e → j.lookup (p ++ q) = .error e) ∧
    (∀ v, j.lookup p = .ok v →
      (∀ w, j.lookup (p ++ q) = .ok w ↔ v.lookup q = .ok w) ∧
      ∀ e, v.lookup q = .error e →
        j.lookup (p ++ q) = .error (e.below p) ∧ (e.below p).blamed = p ++ e.blamed ∧
        (e.blamed = [] →
          FieldError.pathText e.blamed = "." ∧ FieldError.pathText (e.below p).blamed = FieldError.pathText p) ∧
        (p ≠ [] → e.blamed ≠ [] →
          FieldError.pathText (e.below p).blamed = FieldError.pathText p ++ "." ++ FieldError.pathText e.blamed)) ∧
    (p ≠ [] → j.lookup p ≠ .ok .null) ∧
    (∀ r, j.lookup p = .error (.missing r) ↔ j.Lacks p r) ∧
    ∀ r type, j.lookup p = .error (.wrongType r type) ↔ type = .object ∧ j.Obstructs p r := by
  refine ⟨fun e h => lookup_append_of_error h q, fun v h => ⟨fun w => ?_, fun e he => ?_⟩, fun hp h => ?_,
    fun r => lookup_eq_missing_iff, fun r type => lookup_eq_wrongType_iff⟩
  · rw [lookup_append_of_ok h q]
    cases v.lookup q with
    | ok u => rfl
    | error e => exact iff_of_false (nomatch ·) (nomatch ·)
  · rw [lookup_append_of_ok h q, he, FieldError.blamed_below]
    refine ⟨rfl, rfl, fun hempty => ?_, fun hp hblamed => FieldError.pathText_append hp hblamed⟩
    rw [hempty, List.append_nil]
    exact ⟨rfl, rfl⟩
  · exact (lookup_eq_ok_iff.1 h).ne_null hp rfl

/-- An engine with a setting that is null, and a list of components. -/
def engineDocument : Json :=
  .object [("spec", .object [("availabilityConfig", .null), ("overrides", .object [("components", .array [])])])]

/-- A null is blamed on each longer path. A list that is read like an object is blamed from where it stands, also where
the second part starts at the list itself, so that the path of its failure is empty. -/
theorem lookup_in_parts_engineDocument :
    engineDocument.lookup (["spec", "availabilityConfig"] ++ ["mode"]) =
      .error (.missing ["spec", "availabilityConfig"]) ∧
    engineDocument.lookup (["spec", "overrides"] ++ ["components", "name"]) =
      .error (.wrongType ["spec", "overrides", "components"] .object) ∧
    FieldError.pathText ["spec", "overrides", "components"] = "spec.overrides" ++ "." ++ "components" ∧
    (Json.array []).lookup ["name"] = .error (.wrongType [] .object) ∧ FieldError.pathText [] = "." ∧
    engineDocument.lookup (["spec", "overrides", "components"] ++ ["name"]) =
      .error (.wrongType ["spec", "overrides", "components"] .object) ∧
    engineDocument.lookup ["spec", "overrides"] ≠ .ok .null := by
  have hnull := (lookup_in_parts engineDocument ["spec", "availabilityConfig"] ["mode"]).1 _ rfl
  obtain ⟨-, hbelow, hvalue, -⟩ := lookup_in_parts engineDocument ["spec", "overrides"] ["components", "name"]
  obtain ⟨hlist, -, -, htext⟩ := (hbelow (.object [("components", .array [])]) rfl).2 _ rfl
  have hhere := (lookup_in_parts engineDocument ["spec", "overrides", "components"] ["name"]).2.1 (.array []) rfl
  obtain ⟨hwhole, -, hempty, -⟩ := hhere.2 _ rfl
  exact ⟨hnull, hlist, htext (List.cons_ne_nil _ _) (List.cons_ne_nil _ _), rfl, (hempty rfl).1, hwhole,
    hvalue (List.cons_ne_nil _ _)⟩

/-! ## Reading a value of a type -/

section

variable {α : Type} {view : Json → Option α} {type : FieldType}

theorem typed_of_at {a : α} (h : j.At path v) (hv : view v = some a) : typed view type j path = .ok a := by
  simp only [typed, lookup_of_at h, bind, Except.bind, hv]

theorem typed_of_view_eq_none (h : j.At path v) (hv : view v = none) :
    typed view type j path = .error (.wrongType path type) := by
  simp only [typed, lookup_of_at h, bind, Except.bind, hv]

theorem typed_of_lacks (h : j.Lacks path p) : typed view type j path = .error (.missing p) := by
  rw [typed, lookup_of_lacks h]
  rfl

theorem typed_of_obstructs (h : j.Obstructs path p) : typed view type j path = .error (.wrongType p .object) := by
  rw [typed, lookup_of_obstructs h]
  rfl

end

end Json

end HubSearch
