/-
What calls do to the stores in memory. A call that is no write, or fails, leaves them as they are; any other
one puts or removes the one object that it names (`store_answer_cases`). In stores that were filled by their
own operations every object carries a version of its own (`World.Built.versioned`), so an object can be
replaced only under the name that it was read under.
-/
import HubSearch.Proofs.Dict
import HubSearch.Store.Memory

namespace HubSearch

theorem toString_nat_injective {m n : Nat} (h : toString m = toString n) : m = n := by
  rw [Nat.toString_eq_repr, Nat.toString_eq_repr, Nat.repr_eq_ofList_toDigits, Nat.repr_eq_ofList_toDigits,
    String.ofList_inj] at h
  have hm := @Nat.ofDigitChars_ten_toDigits m
  rw [h, Nat.ofDigitChars_ten_toDigits] at hm
  exact hm.symm

/-! ## One store -/

namespace Store

variable {k : Kind}

@[simp]
theorem versionOf_stamped (n : Nat) (o : k.Object) : versionOf (stamped n o) = some (toString n) := by
  simp [versionOf, stamped, ObjectMeta.withVersion]

theorem get?_put_self (s : Store k) (name : String) (o : k.Object) :
    (s.put name o).2.objects.get? name = some (stamped (s.version + 1) o) :=
  s.objects.get?_insert_self name _

theorem get?_put_of_ne (s : Store k) {name other : String} (o : k.Object) (h : other ≠ name) :
    (s.put name o).2.objects.get? other = s.objects.get? other :=
  s.objects.get?_insert_of_ne _ h

theorem get?_remove_self (s : Store k) (name : String) : (s.remove name).2.objects.get? name = none :=
  s.objects.get?_erase_self name

theorem get?_remove_of_ne (s : Store k) {name other : String} (h : other ≠ name) :
    (s.remove name).2.objects.get? other = s.objects.get? other :=
  s.objects.get?_erase_of_ne h

theorem writeStatus_of_version {s : Store k} {name : String} {version : Option String} {live : k.Object}
    (hlive : s.objects.get? name = some live) (hv : versionOf live = version) (status : Json) :
    s.writeStatus name version status = (withStatus? live status).map (s.put name) := by
  rw [writeStatus, hlive]
  exact if_neg fun h => h.2 hv

theorem writeStatus_of_outdated {s : Store k} {name : String} {version : Option String} {live : k.Object}
    (hlive : s.objects.get? name = some live) (hversion : version ≠ none) (hv : versionOf live ≠ version)
    (status : Json) : s.writeStatus name version status = .error (.conflict ("status of " ++ describe k name)) := by
  rw [writeStatus, hlive]
  exact if_pos ⟨hversion, hv⟩

/-- Every object carries one of the versions that its store has given, and no two carry the same one. -/
structure Versioned (s : Store k) : Prop where
  known : ∀ name o, s.objects.get? name = some o → ∃ n ≤ s.version, versionOf o = some (toString n)
  distinct : ∀ name name' o o', s.objects.get? name = some o → s.objects.get? name' = some o' →
    versionOf o = versionOf o' → name = name'

theorem versioned_empty : ({} : Store k).Versioned :=
  ⟨fun _ _ h => (nomatch h), fun _ _ _ _ h => (nomatch h)⟩

theorem Versioned.put {s : Store k} (h : s.Versioned) (name : String) (o : k.Object) :
    (s.put name o).2.Versioned := by
  have hself := get?_put_self s name o
  -- the version that is given is greater than all that are there
  have hfresh : ∀ other o', other ≠ name → (s.put name o).2.objects.get? other = some o' →
      versionOf o' ≠ some (toString (s.version + 1)) := by
    intro other o' hne ho' heq
    rw [get?_put_of_ne s o hne] at ho'
    obtain ⟨n, hn, hv⟩ := h.known other o' ho'
    have := toString_nat_injective (Option.some.inj (hv.symm.trans heq))
    omega
  constructor
  · intro other o' ho'
    by_cases hne : other = name
    · subst hne
      obtain rfl := Option.some.inj (hself.symm.trans ho')
      exact ⟨s.version + 1, Nat.le_refl _, versionOf_stamped _ o⟩
    · rw [get?_put_of_ne s o hne] at ho'
      obtain ⟨n, hn, hv⟩ := h.known other o' ho'
      exact ⟨n, Nat.le_succ_of_le hn, hv⟩
  · intro a b oa ob ha hb heq
    by_cases hane : a = name <;> by_cases hbne : b = name
    · rw [hane, hbne]
    · subst hane
      obtain rfl := Option.some.inj (hself.symm.trans ha)
      exact absurd (heq.symm.trans (versionOf_stamped _ o)) (hfresh b ob hbne hb)
    · subst hbne
      obtain rfl := Option.some.inj (hself.symm.trans hb)
      exact absurd (heq.trans (versionOf_stamped _ o)) (hfresh a oa hane ha)
    · rw [get?_put_of_ne s o hane] at ha
      rw [get?_put_of_ne s o hbne] at hb
      exact h.distinct a b oa ob ha hb heq

theorem Versioned.remove {s : Store k} (h : s.Versioned) (name : String) : (s.remove name).2.Versioned := by
  have hget : ∀ other o, (s.remove name).2.objects.get? other = some o → s.objects.get? other = some o := by
    intro other o ho
    by_cases hne : other = name
    · subst hne
      rw [get?_remove_self] at ho
      cases ho
    · rwa [get?_remove_of_ne s hne] at ho
  exact ⟨fun other o ho => h.known other o (hget other o ho),
    fun a b oa ob ha hb => h.distinct a b oa ob (hget a oa ha) (hget b ob hb)⟩

end Store

/-- The name of the object that a call may change. -/
def StoreCall.target? : StoreCall → Option String
  | .fetch _ _ => none
  | .fetchAll _ => none
  | .insert r o => (r.kind.metadata o).name
  | .update r o => (r.kind.metadata o).name
  | .remove _ name => some name
  | .writeStatus _ name _ _ => some name

namespace World

/-- The object of a name in a store. -/
def object? (w : World) (r : StoreRef) (name : String) : Option r.kind.Object := (w.store r).objects.get? name

theorem object?_congr {w w' : World} (h : w'.store = w.store) (r : StoreRef) (name : String) :
    w'.object? r name = w.object? r name := by
  rw [object?, object?, h]

/-- A store that is set changes no other place if it differs from the store before in one place only. -/
theorem object?_set_of_ne (w : World) {r r' : StoreRef} {s : Store r.kind} {name name' : String}
    (hs : ∀ other, other ≠ name → s.objects.get? other = (w.store r).objects.get? other)
    (h : r' ≠ r ∨ name' ≠ name) : (w.set r s).object? r' name' = w.object? r' name' := by
  rw [object?, object?]
  by_cases hr : r' = r
  · subst hr
    rw [store_set_self]
    exact hs name' (h.resolve_left (· rfl))
  · rw [store_set_of_ne w s hr]

theorem object?_put_self (w : World) (r : StoreRef) (name : String) (o : r.kind.Object) :
    (w.set r ((w.store r).put name o).2).object? r name =
      some (Store.stamped ((w.store r).version + 1) o) := by
  rw [object?, store_set_self]
  exact Store.get?_put_self _ _ _

/-! ## Calls -/

/-- A write succeeds and sets its store, or it fails and changes nothing. -/
theorem write_cases {β : Type} (w : World) (r : StoreRef) (name : String)
    (act : Store r.kind → Except OperatorError (β × Store r.kind)) :
    (∃ b s, w.blocks r name = false ∧ act (w.store r) = .ok (b, s) ∧ w.write r name act = (.ok b, w.set r s)) ∨
      ∃ e, w.write r name act = (.error e, w) := by
  unfold write
  cases hb : w.blocks r name with
  | true => exact .inr ⟨_, rfl⟩
  | false =>
    cases ha : act (w.store r) with
    | error e => exact .inr ⟨e, rfl⟩
    | ok p => exact .inl ⟨p.1, p.2, rfl, rfl, rfl⟩

theorem write_of_ok {β : Type} {w : World} {r : StoreRef} {name : String} {b : β} {s : Store r.kind}
    {act : Store r.kind → Except OperatorError (β × Store r.kind)} (hblocks : w.blocks r name = false)
    (h : act (w.store r) = .ok (b, s)) : w.write r name act = (.ok b, w.set r s) := by
  unfold write
  rw [hblocks, if_neg Bool.false_ne_true, h]

theorem write_of_error {β : Type} {w : World} {r : StoreRef} {name : String} {e : OperatorError}
    {act : Store r.kind → Except OperatorError (β × Store r.kind)} (hblocks : w.blocks r name = false)
    (h : act (w.store r) = .error e) : w.write r name act = (.error e, w) := by
  unfold write
  rw [hblocks, if_neg Bool.false_ne_true, h]

theorem snd_write_of_blocks {β : Type} {w : World} {r : StoreRef} {name : String} (h : w.blocks r name = true)
    (act : Store r.kind → Except OperatorError (β × Store r.kind)) : (w.write r name act).2 = w := by
  unfold write
  rw [if_pos h]

theorem writeNamed_of_name {w : World} {r : StoreRef} {o : r.kind.Object} {name : String}
    (h : (r.kind.metadata o).name = some name) (c : StoreCall)
    (act : Store r.kind → String → Except OperatorError (r.kind.Object × Store r.kind)) :
    w.writeNamed r c o act = (w.logged c).write r name fun s => act s name := by
  unfold writeNamed
  rw [h]

/-- An object is inserted under a name that was free, or nothing changes. -/
theorem answer_insert_cases (w : World) (r : StoreRef) (o : r.kind.Object) :
    (∃ name, (r.kind.metadata o).name = some name ∧ w.object? r name = none ∧
      answer w (.insert r o) = (.ok (Store.stamped ((w.store r).version + 1) o),
        (w.logged (.insert r o)).set r ((w.store r).put name o).2)) ∨
      ∃ e, (answer w (.insert r o)).1 = .error e ∧ (answer w (.insert r o)).2.store = w.store := by
  simp only [answer, writeNamed]
  cases (r.kind.metadata o).name with
  | none => exact .inr ⟨_, rfl, rfl⟩
  | some name =>
    rcases write_cases (w.logged (.insert r o)) r name fun s => s.insert name o with
      ⟨b, s, -, hs, hw⟩ | ⟨e, hw⟩
    · simp only [Store.insert] at hs
      split at hs
      · cases hs
      · rename_i hc
        obtain rfl := (Prod.mk.inj (Except.ok.inj hs)).1
        obtain rfl := (Prod.mk.inj (Except.ok.inj hs)).2
        exact .inl ⟨name, rfl, Dict.contains_eq_false_iff.1 (Bool.eq_false_iff.2 hc), hw⟩
    · exact .inr ⟨e, congrArg (·.1) hw, congrArg (·.2.store) hw⟩

/-- An object is replaced by one that carries no version or the live one, or nothing changes. -/
theorem answer_update_cases (w : World) (r : StoreRef) (o : r.kind.Object) :
    (∃ name live, (r.kind.metadata o).name = some name ∧ w.object? r name = some live ∧
      (Store.versionOf o = none ∨ Store.versionOf o = Store.versionOf live) ∧
      answer w (.update r o) = (.ok (Store.stamped ((w.store r).version + 1) o),
        (w.logged (.update r o)).set r ((w.store r).put name o).2)) ∨
      ∃ e, (answer w (.update r o)).1 = .error e ∧ (answer w (.update r o)).2.store = w.store := by
  simp only [answer, writeNamed]
  cases (r.kind.metadata o).name with
  | none => exact .inr ⟨_, rfl, rfl⟩
  | some name =>
    rcases write_cases (w.logged (.update r o)) r name fun s => s.update name o with
      ⟨b, s, -, hs, hw⟩ | ⟨e, hw⟩
    · simp only [Store.update] at hs
      split at hs
      · cases hs
      · rename_i live hlive
        split at hs
        · cases hs
        · rename_i hv
          obtain rfl := (Prod.mk.inj (Except.ok.inj hs)).1
          obtain rfl := (Prod.mk.inj (Except.ok.inj hs)).2
          refine .inl ⟨name, live, rfl, hlive, ?_, hw⟩
          by_cases hnone : Store.versionOf o = none
          · exact .inl hnone
          · exact .inr (Decidable.byContradiction fun hne => hv ⟨hnone, hne⟩)
    · exact .inr ⟨e, congrArg (·.1) hw, congrArg (·.2.store) hw⟩

/-- An object is removed, if it is there, or nothing changes. -/
theorem answer_remove_cases (w : World) (r : StoreRef) (name : String) :
    (answer w (.remove r name) = (.ok ((w.store r).objects.contains name),
        (w.logged (.remove r name)).set r ((w.store r).remove name).2)) ∨
      ∃ e, (answer w (.remove r name)).1 = .error e ∧ (answer w (.remove r name)).2.store = w.store := by
  simp only [answer]
  rcases write_cases (w.logged (.remove r name)) r name fun s => .ok (s.remove name) with
    ⟨b, s, -, hs, hw⟩ | ⟨e, hw⟩
  · obtain ⟨rfl, rfl⟩ := Prod.mk.inj (Except.ok.inj hs)
    exact .inl hw
  · exact .inr ⟨e, congrArg (·.1) hw, congrArg (·.2.store) hw⟩

/-- A status is merged into the live object if that has the version asked for, or nothing changes. -/
theorem answer_writeStatus_cases (w : World) (r : StoreRef) (name : String) (version : Option String)
    (status : Json) :
    (∃ live merged, w.object? r name = some live ∧ (version = none ∨ Store.versionOf live = version) ∧
      Store.withStatus? live status = .ok merged ∧
      answer w (.writeStatus r name version status) = (.ok (Store.stamped ((w.store r).version + 1) merged),
        (w.logged (.writeStatus r name version status)).set r ((w.store r).put name merged).2)) ∨
      ∃ e, (answer w (.writeStatus r name version status)).1 = .error e ∧
        (answer w (.writeStatus r name version status)).2.store = w.store := by
  simp only [answer]
  rcases write_cases (w.logged (.writeStatus r name version status)) r name
    fun s => s.writeStatus name version status with ⟨b, s, -, hs, hw⟩ | ⟨e, hw⟩
  · simp only [Store.writeStatus] at hs
    split at hs
    · cases hs
    · rename_i live hlive
      split at hs
      · cases hs
      · rename_i hv
        cases hm : Store.withStatus? live status with
        | error e =>
          rw [hm] at hs
          cases hs
        | ok merged =>
          rw [hm] at hs
          obtain rfl := (Prod.mk.inj (Except.ok.inj hs)).1
          obtain rfl := (Prod.mk.inj (Except.ok.inj hs)).2
          refine .inl ⟨live, merged, hlive, ?_, hm, hw⟩
          by_cases hnone : version = none
          · exact .inl hnone
          · exact .inr (Decidable.byContradiction fun hne => hv ⟨hnone, hne⟩)
  · exact .inr ⟨e, congrArg (·.1) hw, congrArg (·.2.store) hw⟩

/-- Writing a status does not conflict with the live object when it has the version asked for. -/
theorem answer_writeStatus_ne_conflict {w : World} {r : StoreRef} {name : String} {version : Option String}
    {status : Json} {live : r.kind.Object} (hlive : w.object? r name = some live)
    (hv : Store.versionOf live = version) (what : String) :
    (answer w (.writeStatus r name version status)).1 ≠ .error (.conflict what) := by
  show ((w.logged _).write r name fun s => s.writeStatus name version status).1 ≠ _
  unfold write
  split
  · exact fun h => nomatch h
  · dsimp only [logged]
    rw [Store.writeStatus_of_version hlive hv]
    cases hm : Store.withStatus? live status with
    | ok merged => exact fun h => nomatch h
    | error e =>
      rintro ⟨⟩
      unfold Store.withStatus? at hm
      split at hm
      · cases hm
      · split at hm <;> cases hm

/-- A status that is written for another version than that of the live object is refused. -/
theorem answer_writeStatus_conflict {w : World} {r : StoreRef} {name : String} {version : Option String} {status : Json}
    {live : r.kind.Object} (hblocks : w.blocks r name = false) (hlive : w.object? r name = some live)
    (hversion : version ≠ none) (hv : Store.versionOf live ≠ version) :
    (answer w (.writeStatus r name version status)).1 =
      .error (.conflict ("status of " ++ Store.describe r.kind name)) := by
  have hanswer : (w.logged (.writeStatus r name version status)).write r name
      (fun s => s.writeStatus name version status) = (.error _, _) :=
    write_of_error hblocks (Store.writeStatus_of_outdated hlive hversion hv status)
  exact congrArg (·.1) hanswer

/-- An insertion that is not made to fail succeeds under a name that is free. -/
theorem answer_insert_ok {w : World} {r : StoreRef} {o : r.kind.Object} {name : String}
    (hname : (r.kind.metadata o).name = some name) (hblocks : w.blocks r name = false)
    (hfree : w.object? r name = none) :
    answer w (.insert r o) = (.ok (Store.stamped ((w.store r).version + 1) o),
      (w.logged (.insert r o)).set r ((w.store r).put name o).2) := by
  have hinsert : (w.store r).insert name o = .ok ((w.store r).put name o) := by
    rw [Store.insert, Dict.contains_eq_false_iff.2 hfree]
    rfl
  exact (writeNamed_of_name hname _ _).trans (write_of_ok (w := w.logged _) hblocks hinsert)

/-- A replacement that is not made to fail succeeds if it carries the version of what it replaces. -/
theorem answer_update_ok {w : World} {r : StoreRef} {o live : r.kind.Object} {name : String}
    (hname : (r.kind.metadata o).name = some name) (hblocks : w.blocks r name = false)
    (hlive : w.object? r name = some live) (hv : Store.versionOf o = Store.versionOf live) :
    answer w (.update r o) = (.ok (Store.stamped ((w.store r).version + 1) o),
      (w.logged (.update r o)).set r ((w.store r).put name o).2) := by
  have hupdate : (w.store r).update name o = .ok ((w.store r).put name o) := by
    rw [Store.update, show (w.store r).objects.get? name = some live from hlive]
    exact if_neg fun h => h.2 hv
  exact (writeNamed_of_name hname _ _).trans (write_of_ok (w := w.logged _) hblocks hupdate)

/-- A removal that is not made to fail succeeds. -/
theorem answer_remove_ok {w : World} {r : StoreRef} {name : String} (hblocks : w.blocks r name = false) :
    answer w (.remove r name) = (.ok ((w.store r).objects.contains name),
      (w.logged (.remove r name)).set r ((w.store r).remove name).2) := by
  have hremove : (w.store r).remove name = ((w.store r).objects.contains name, ((w.store r).remove name).2) := rfl
  show (w.logged (.remove r name)).write r name (fun s => .ok (s.remove name)) = _
  exact write_of_ok hblocks (congrArg Except.ok hremove)

/-- A status that is not made to fail is written to an object of the version asked for that can be read with it. -/
theorem answer_writeStatus_ok {w : World} {r : StoreRef} {name : String} {version : Option String} {status : Json}
    {live merged : r.kind.Object} (hblocks : w.blocks r name = false) (hlive : w.object? r name = some live)
    (hv : Store.versionOf live = version) (hm : Store.withStatus? live status = .ok merged) :
    (answer w (.writeStatus r name version status)).1 = .ok (Store.stamped ((w.store r).version + 1) merged) := by
  have hput : (w.store r).writeStatus name version status = .ok ((w.store r).put name merged) := by
    rw [Store.writeStatus_of_version hlive hv, hm]
    rfl
  have hanswer : (w.logged (.writeStatus r name version status)).write r name
      (fun s => s.writeStatus name version status) = (.ok _, _) := write_of_ok hblocks hput
  exact congrArg (·.1) hanswer

/-- A call leaves the stores as they are, or puts or removes the object that it names. -/
theorem store_answer_cases (w : World) (c : StoreCall) :
    (answer w c).2.store = w.store ∨
      ∃ name s, c.target? = some name ∧ (answer w c).2.store = (w.set c.store s).store ∧
        ((∃ o, s = ((w.store c.store).put name o).2) ∨ s = ((w.store c.store).remove name).2) := by
  cases c with
  | fetch r name => exact .inl rfl
  | fetchAll r => exact .inl rfl
  | insert r o =>
    rcases answer_insert_cases w r o with ⟨name, hn, -, hw⟩ | ⟨e, -, hw⟩
    · exact .inr ⟨name, _, hn, congrArg (·.2.store) hw, .inl ⟨o, rfl⟩⟩
    · exact .inl hw
  | update r o =>
    rcases answer_update_cases w r o with ⟨name, live, hn, -, -, hw⟩ | ⟨e, -, hw⟩
    · exact .inr ⟨name, _, hn, congrArg (·.2.store) hw, .inl ⟨o, rfl⟩⟩
    · exact .inl hw
  | remove r name =>
    rcases answer_remove_cases w r name with hw | ⟨e, -, hw⟩
    · exact .inr ⟨name, _, rfl, congrArg (·.2.store) hw, .inr rfl⟩
    · exact .inl hw
  | writeStatus r name version status =>
    rcases answer_writeStatus_cases w r name version status with ⟨live, merged, -, -, -, hw⟩ | ⟨e, -, hw⟩
    · exact .inr ⟨name, _, rfl, congrArg (·.2.store) hw, .inl ⟨merged, rfl⟩⟩
    · exact .inl hw

/-- A call changes no other object than the one that it names. -/
theorem object?_answer_of_ne (w : World) (c : StoreCall) {r : StoreRef} {name : String}
    (h : r ≠ c.store ∨ c.target? ≠ some name) : (answer w c).2.object? r name = w.object? r name := by
  rcases store_answer_cases w c with hw | ⟨other, s, ht, hw, hs⟩
  · exact object?_congr hw r name
  · have hne : r ≠ c.store ∨ name ≠ other := h.imp_right fun hn heq => hn (heq ▸ ht)
    rw [object?_congr hw]
    rcases hs with ⟨o, rfl⟩ | rfl
    · exact object?_set_of_ne w (fun _ => Store.get?_put_of_ne _ o) hne
    · exact object?_set_of_ne w (fun _ => Store.get?_remove_of_ne _) hne

/-- Where writes are made to fail nothing changes. -/
theorem object?_answer_of_blocks {w : World} {r : StoreRef} {name : String} (h : w.blocks r name = true)
    (c : StoreCall) : (answer w c).2.object? r name = w.object? r name := by
  by_cases hplace : r = c.store ∧ c.target? = some name
  · obtain ⟨rfl, htarget⟩ := hplace
    have hworld : (answer w c).2 = w.logged c := by
      cases c with
      | fetch => rfl
      | fetchAll => rfl
      | insert r o =>
        exact (congrArg Prod.snd (writeNamed_of_name htarget _ _)).trans (snd_write_of_blocks (w := w.logged _) h _)
      | update r o =>
        exact (congrArg Prod.snd (writeNamed_of_name htarget _ _)).trans (snd_write_of_blocks (w := w.logged _) h _)
      | remove r other =>
        obtain rfl : other = name := Option.some.inj htarget
        exact snd_write_of_blocks (w := w.logged _) h _
      | writeStatus r other version status =>
        obtain rfl : other = name := Option.some.inj htarget
        exact snd_write_of_blocks (w := w.logged _) h _
    rw [hworld]
    rfl
  · exact object?_answer_of_ne w c (Decidable.not_and_iff_or_not.1 hplace)

/-! ## What a call depends on -/

theorem write_congr {β : Type} {w w' : World} {r : StoreRef} (hs : w'.store r = w.store r)
    (hf : w'.failing = w.failing) (name : String) (act : Store r.kind → Except OperatorError (β × Store r.kind)) :
    (w'.write r name act).1 = (w.write r name act).1 ∧
      (w'.write r name act).2.store r = (w.write r name act).2.store r := by
  unfold write blocks
  rw [hs, hf]
  split
  · exact ⟨rfl, hs⟩
  · split
    · exact ⟨rfl, hs⟩
    · exact ⟨rfl, (store_set_self _ _ _).trans (store_set_self _ _ _).symm⟩

theorem writeNamed_congr {w w' : World} {r : StoreRef} (hs : w'.store r = w.store r) (hf : w'.failing = w.failing)
    (c : StoreCall) (o : r.kind.Object)
    (act : Store r.kind → String → Except OperatorError (r.kind.Object × Store r.kind)) :
    (w'.writeNamed r c o act).1 = (w.writeNamed r c o act).1 ∧
      (w'.writeNamed r c o act).2.store r = (w.writeNamed r c o act).2.store r := by
  unfold writeNamed
  split
  · exact ⟨rfl, hs⟩
  · exact @write_congr _ (w.logged c) (w'.logged c) _ hs hf _ _

/-- The answer to a call depends on the store that is called, and on the namespaces in which writes fail. -/
theorem answer_congr {w w' : World} {c : StoreCall} (hs : w'.store c.store = w.store c.store)
    (hf : w'.failing = w.failing) :
    (answer w' c).1 = (answer w c).1 ∧ (answer w' c).2.store c.store = (answer w c).2.store c.store := by
  cases c with
  | fetch r name => exact ⟨congrArg (fun s : Store r.kind => Except.ok (s.objects.get? name)) hs, hs⟩
  | fetchAll r => exact ⟨congrArg (fun s : Store r.kind => Except.ok s.objects.values) hs, hs⟩
  | insert r o => exact writeNamed_congr hs hf _ _ _
  | update r o => exact writeNamed_congr hs hf _ _ _
  | remove r name => exact @write_congr _ (w.logged _) (w'.logged _) _ hs hf _ _
  | writeStatus r name version status => exact @write_congr _ (w.logged _) (w'.logged _) _ hs hf _ _

theorem failing_write {β : Type} (w : World) (r : StoreRef) (name : String)
    (act : Store r.kind → Except OperatorError (β × Store r.kind)) : (w.write r name act).2.failing = w.failing := by
  rcases write_cases w r name act with ⟨b, s, -, -, hw⟩ | ⟨e, hw⟩ <;> exact congrArg (·.2.failing) hw

theorem failing_writeNamed (w : World) (r : StoreRef) (c : StoreCall) (o : r.kind.Object)
    (act : Store r.kind → String → Except OperatorError (r.kind.Object × Store r.kind)) :
    (w.writeNamed r c o act).2.failing = w.failing := by
  unfold writeNamed
  split
  · rfl
  · exact failing_write _ _ _ _

theorem failing_answer (w : World) (c : StoreCall) : (answer w c).2.failing = w.failing := by
  cases c with
  | fetch => rfl
  | fetchAll => rfl
  | insert => exact failing_writeNamed ..
  | update => exact failing_writeNamed ..
  | remove => exact failing_write ..
  | writeStatus => exact failing_write ..

/-- No call changes which writes are made to fail. -/
theorem blocks_answer (w : World) (c : StoreCall) (r : StoreRef) (name : String) :
    (answer w c).2.blocks r name = w.blocks r name := by
  have hstore : ((answer w c).2.store r).failsAll = (w.store r).failsAll ∧
      ((answer w c).2.store r).failsFor = (w.store r).failsFor := by
    rcases store_answer_cases w c with hw | ⟨other, s, -, hw, hs⟩
    · rw [hw]
      exact ⟨rfl, rfl⟩
    · rw [hw]
      by_cases hr : r = c.store
      · subst hr
        rw [store_set_self]
        rcases hs with ⟨o, rfl⟩ | rfl <;> exact ⟨rfl, rfl⟩
      · rw [store_set_of_ne w s hr]
        exact ⟨rfl, rfl⟩
  rw [blocks, blocks, hstore.1, hstore.2, failing_answer]

/-- No write is made to fail. -/
def Unblocked (w : World) : Prop := ∀ r name, w.blocks r name = false

theorem unblocked_empty : ({} : World).Unblocked := by
  intro r name
  show (false || false || r.inNamespace.any fun _ => false) = false
  cases r.inNamespace <;> rfl

theorem Unblocked.answer {w : World} (h : w.Unblocked) (c : StoreCall) : (World.answer w c).2.Unblocked :=
  fun r name => (blocks_answer w c r name).trans (h r name)

theorem Unblocked.seed {w : World} (h : w.Unblocked) (r : StoreRef) (o : r.kind.Object) : (w.seed r o).Unblocked := by
  intro r' name
  rw [← h r' name]
  by_cases hr : r' = r
  · subst hr
    rw [blocks, blocks, World.seed, store_set_self]
    rfl
  · rw [blocks, blocks, World.seed, store_set_of_ne w _ hr]
    rfl

/-! ## Versions -/

/-- All stores have their versions in order. -/
def Versioned (w : World) : Prop := ∀ r, (w.store r).Versioned

theorem Versioned.set {w : World} (h : w.Versioned) {r : StoreRef} {s : Store r.kind} (hs : s.Versioned) :
    (w.set r s).Versioned := by
  intro r'
  by_cases hr : r' = r
  · subst hr
    rwa [store_set_self]
  · rw [store_set_of_ne w s hr]
    exact h r'

theorem Versioned.congr {w w' : World} (h : w.Versioned) (hs : w'.store = w.store) : w'.Versioned :=
  fun r => hs ▸ h r

theorem Versioned.answer {w : World} (h : w.Versioned) (c : StoreCall) : (World.answer w c).2.Versioned := by
  rcases store_answer_cases w c with hw | ⟨name, s, -, hw, hs⟩
  · exact h.congr hw
  · refine Versioned.congr (h.set ?_) hw
    rcases hs with ⟨o, rfl⟩ | rfl
    · exact (h c.store).put name o
    · exact (h c.store).remove name

theorem Versioned.seed {w : World} (h : w.Versioned) (r : StoreRef) (o : r.kind.Object) : (w.seed r o).Versioned :=
  Versioned.set h ((h r).put _ o)

/-- Stores that were filled by their own operations. -/
inductive Built : World → Prop
  | start : Built {}
  | seed {w : World} (r : StoreRef) (o : r.kind.Object) : Built w → Built (w.seed r o)
  | answer {w : World} (c : StoreCall) : Built w → Built (World.answer w c).2
  | failWrites {w : World} (r : StoreRef) : Built w → Built (w.failWrites r)
  | failName {w : World} (r : StoreRef) (name : String) : Built w → Built (w.failName r name)
  | failNamespace {w : World} (name : String) : Built w → Built (w.failNamespace name)

theorem Built.versioned {w : World} (h : w.Built) : w.Versioned := by
  induction h with
  | start => exact fun _ => Store.versioned_empty
  | seed r o _ ih => exact ih.seed r o
  | answer c _ ih => exact ih.answer c
  | failWrites r _ ih => exact ih.set ⟨(ih r).known, (ih r).distinct⟩
  | failName r name _ ih => exact ih.set ⟨(ih r).known, (ih r).distinct⟩
  | failNamespace name _ ih => exact ih.congr rfl

end World

end HubSearch
