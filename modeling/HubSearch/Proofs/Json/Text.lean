/-
The compact text of a value determines the value, as long as its numbers are integers: what follows
a value in a text never continues it, so a text can be cut into values in one way only. The proof
goes along the first of two values whose texts start alike.
-/
import HubSearch.Json.Text
import Mathlib.Tactic.SplitIfs

namespace HubSearch

/-! ## Integers -/

/-- A text that does not go on with a digit. -/
def EndsDigits (r : List Char) : Prop := ∀ c ∈ r.head?, c.isDigit = false

theorem endsDigits_cons {c : Char} (h : c.isDigit = false) (r : List Char) : EndsDigits (c :: r) := by
  intro d hd
  cases hd
  exact h

theorem isDigit_of_mem_decimalDigits {n : Nat} {c : Char} (h : c ∈ decimalDigits n) : c.isDigit = true :=
  Nat.isDigit_of_mem_toDigits (by decide) (by decide) h

theorem decimalDigits_ne_nil (n : Nat) : decimalDigits n ≠ [] := Nat.toDigits_ne_nil

theorem decimalDigits_injective {m n : Nat} (h : decimalDigits m = decimalDigits n) : m = n := by
  have hm := Nat.ofDigitChars_ten_toDigits (n := m)
  have hn := Nat.ofDigitChars_ten_toDigits (n := n)
  unfold decimalDigits at h
  rw [← hm, ← hn, h]

theorem takeWhile_digits {ds r : List Char} (hd : ∀ c ∈ ds, c.isDigit = true) (hr : EndsDigits r) :
    (ds ++ r).takeWhile Char.isDigit = ds := by
  rw [List.takeWhile_append_of_pos hd]
  cases r with
  | nil => simp
  | cons c r => simp [hr c rfl]

/-- Digits with different ends are told apart by the first character that is no digit. -/
theorem digits_append_inj {ds es r s : List Char} (hd : ∀ c ∈ ds, c.isDigit = true)
    (he : ∀ c ∈ es, c.isDigit = true) (hr : EndsDigits r) (hs : EndsDigits s) (h : ds ++ r = es ++ s) :
    ds = es ∧ r = s := by
  have hde : ds = es := by rw [← takeWhile_digits hd hr, h, takeWhile_digits he hs]
  subst hde
  exact ⟨rfl, List.append_cancel_left h⟩

theorem integerChars_append_inj {i j : Int} {r s : List Char} (hr : EndsDigits r) (hs : EndsDigits s)
    (h : integerChars i ++ r = integerChars j ++ s) : i = j ∧ r = s := by
  -- a sign is no digit, so a negative number is never taken for a natural one
  have sign : ∀ m t u, decimalDigits m ++ t ≠ '-' :: u := by
    intro m t u hmt
    have hm := decimalDigits_ne_nil m
    cases hds : decimalDigits m with
    | nil => exact hm hds
    | cons c ds =>
      rw [hds] at hmt
      cases hmt
      have : '-'.isDigit = true := isDigit_of_mem_decimalDigits (n := m) (by rw [hds]; exact List.mem_cons_self)
      exact absurd this (by decide)
  cases i with
  | ofNat m =>
    cases j with
    | ofNat n =>
      obtain ⟨hds, hrs⟩ := digits_append_inj (fun _ => isDigit_of_mem_decimalDigits)
        (fun _ => isDigit_of_mem_decimalDigits) hr hs h
      exact ⟨by rw [decimalDigits_injective hds], hrs⟩
    | negSucc n => exact absurd h (sign m r _)
  | negSucc m =>
    cases j with
    | ofNat n => exact absurd h.symm (sign n s _)
    | negSucc n =>
      obtain ⟨hds, hrs⟩ := digits_append_inj (fun _ => isDigit_of_mem_decimalDigits)
        (fun _ => isDigit_of_mem_decimalDigits) hr hs (List.cons.inj h).2
      exact ⟨by rw [Nat.succ.inj (decimalDigits_injective hds)], hrs⟩

theorem head_integerChars (i : Int) : ∃ c rest, integerChars i = c :: rest ∧ (c = '-' ∨ c.isDigit = true) := by
  cases i with
  | ofNat n =>
    cases hds : decimalDigits n with
    | nil => exact absurd hds (decimalDigits_ne_nil n)
    | cons c rest =>
      exact ⟨c, rest, hds, .inr (isDigit_of_mem_decimalDigits (n := n) (by rw [hds]; exact List.mem_cons_self))⟩
  | negSucc n => exact ⟨'-', _, rfl, .inl rfl⟩

namespace Json

/-! ## Strings -/

/-- The value of a hexadecimal digit in lower case. -/
def hexValue (c : Char) : Nat := if c.isDigit then c.toNat - '0'.toNat else c.toNat - 'a'.toNat + 10

theorem hexValue_hexDigit : ∀ n < 16, hexValue (hexDigit n) = n := by decide

/-- The first character that a text inside a string stands for, and what follows it. -/
def unescaped? : List Char → Option (Char × List Char)
  | [] => none
  | '\\' :: 'u' :: '0' :: '0' :: h :: l :: r => some (Char.ofNat (16 * hexValue h + hexValue l), r)
  | '\\' :: 'b' :: r => some ('\x08', r)
  | '\\' :: 't' :: r => some ('\t', r)
  | '\\' :: 'n' :: r => some ('\n', r)
  | '\\' :: 'f' :: r => some ('\x0c', r)
  | '\\' :: 'r' :: r => some ('\r', r)
  | '\\' :: c :: r => some (c, r)
  | c :: r => some (c, r)

theorem unescaped?_escapedChar (c : Char) (r : List Char) : unescaped? (escapedChar c ++ r) = some (c, r) := by
  unfold escapedChar
  split_ifs with h1 h2 h3 h4 h5 h6 h7 h8
  · simp [unescaped?, h1]
  · simp [unescaped?, h2]
  · simp [unescaped?, h3]
  · simp [unescaped?, h4]
  · simp [unescaped?, h5]
  · simp [unescaped?, h6]
  · simp [unescaped?, h7]
  · have high := hexValue_hexDigit (c.toNat / 16) (by omega)
    have low := hexValue_hexDigit (c.toNat % 16) (by omega)
    have hc : Char.ofNat (16 * (c.toNat / 16) + c.toNat % 16) = c := by
      rw [show 16 * (c.toNat / 16) + c.toNat % 16 = c.toNat by omega, Char.ofNat_toNat]
    simp [unescaped?, high, low, hc]
  · simp only [List.cons_append, List.nil_append]
    rw [unescaped?.eq_def]
    split <;> simp_all

theorem escapedChar_append_inj {c d : Char} {r s : List Char} (h : escapedChar c ++ r = escapedChar d ++ s) :
    c = d ∧ r = s := by
  have := (unescaped?_escapedChar c r).symm.trans (h ▸ unescaped?_escapedChar d s)
  simpa using this

/-- The quote that ends a string is never taken for one of its characters. -/
theorem escapedChar_append_ne_quote (c : Char) (r s : List Char) : escapedChar c ++ r ≠ '"' :: s := by
  unfold escapedChar
  split_ifs with h <;> simp
  exact fun h' => absurd h' h

theorem escaped_append_inj {r s : List Char} : ∀ {cs ds : List Char},
    cs.flatMap escapedChar ++ '"' :: r = ds.flatMap escapedChar ++ '"' :: s → cs = ds ∧ r = s
  | [], [], h => ⟨rfl, by simpa using h⟩
  | [], d :: ds, h => by
    rw [List.flatMap_nil, List.flatMap_cons, List.append_assoc] at h
    exact absurd h.symm (escapedChar_append_ne_quote d _ _)
  | c :: cs, [], h => by
    rw [List.flatMap_nil, List.flatMap_cons, List.append_assoc] at h
    exact absurd h (escapedChar_append_ne_quote c _ _)
  | c :: cs, d :: ds, h => by
    rw [List.flatMap_cons, List.flatMap_cons, List.append_assoc, List.append_assoc] at h
    obtain ⟨hcd, h⟩ := escapedChar_append_inj h
    obtain ⟨hcs, hr⟩ := escaped_append_inj h
    exact ⟨by rw [hcd, hcs], hr⟩

theorem quotedChars_append_inj {a b : String} {r s : List Char}
    (h : quotedChars a ++ r = quotedChars b ++ s) : a = b ∧ r = s := by
  simp only [quotedChars, List.cons_append, List.append_assoc, List.nil_append, List.cons.injEq, true_and] at h
  obtain ⟨hab, hr⟩ := escaped_append_inj h
  exact ⟨String.toList_inj.1 hab, hr⟩

/-! ## Values -/

mutual

/-- Every number of the value is an integer. -/
def Integral : Json → Prop
  | .number (.decimal _ _ _) => False
  | .array items => IntegralItems items
  | .object fields => IntegralFields fields
  | _ => True

/-- Every number of the items is an integer. -/
def IntegralItems : List Json → Prop
  | [] => True
  | j :: rest => j.Integral ∧ IntegralItems rest

/-- Every number of the values of the pairs is an integer. -/
def IntegralFields : List (String × Json) → Prop
  | [] => True
  | (_, j) :: rest => j.Integral ∧ IntegralFields rest

end

theorem integralItems_iff : ∀ {items : List Json}, IntegralItems items ↔ ∀ j ∈ items, j.Integral
  | [] => by simp [IntegralItems]
  | j :: rest => by simp [IntegralItems, @integralItems_iff rest]

theorem integralFields_iff : ∀ {fields : List (String × Json)}, IntegralFields fields ↔ ∀ e ∈ fields, e.2.Integral
  | [] => by simp [IntegralFields]
  | (_, j) :: rest => by simp [IntegralFields, @integralFields_iff rest]

/-- The values under the keys of a value have integers only, if the value has. -/
theorem Integral.of_mem_object {v : Json} (h : v.Integral) {e : String × Json} (he : e ∈ v.object?.getD []) :
    e.2.Integral := by
  cases v with
  | object fields => exact integralFields_iff.1 h e he
  | _ => exact nomatch he

/-- The items after the first one, each with the comma before it. -/
def moreItems (items : List Json) : List Char := items.flatMap fun j => ',' :: j.chars

/-- The pairs after the first one, each with the comma before it. -/
def moreFields (fields : List (String × Json)) : List Char :=
  fields.flatMap fun e => ',' :: (quotedChars e.1 ++ ':' :: e.2.chars)

theorem itemsChars_cons : ∀ (j : Json) (rest : List Json), itemsChars (j :: rest) = j.chars ++ moreItems rest
  | j, [] => by simp [itemsChars, moreItems]
  | j, k :: rest => by
    rw [itemsChars, itemsChars_cons k rest]
    simp [moreItems]

theorem fieldsChars_cons : ∀ (key : String) (j : Json) (rest : List (String × Json)),
    fieldsChars ((key, j) :: rest) = quotedChars key ++ ':' :: (j.chars ++ moreFields rest)
  | key, j, [] => by simp [fieldsChars, moreFields]
  | key, j, (l, k) :: rest => by
    rw [fieldsChars, fieldsChars_cons l k rest]
    simp [moreFields]

theorem endsDigits_moreItems (items : List Json) {r : List Char} (hr : EndsDigits r) :
    EndsDigits (moreItems items ++ r) := by
  cases items with
  | nil => exact hr
  | cons j rest => exact endsDigits_cons (by decide) _

theorem endsDigits_moreFields (fields : List (String × Json)) {r : List Char} (hr : EndsDigits r) :
    EndsDigits (moreFields fields ++ r) := by
  cases fields with
  | nil => exact hr
  | cons e rest => exact endsDigits_cons (by decide) _

/-- The first character of a value ends nothing. -/
theorem head_chars {j : Json} (h : j.Integral) : ∃ c rest, j.chars = c :: rest ∧ c ≠ ']' ∧ c ≠ '\x7d' := by
  cases j with
  | null => exact ⟨'n', _, rfl, by decide, by decide⟩
  | bool b => cases b <;> exact ⟨_, _, rfl, by decide, by decide⟩
  | number n =>
    cases n with
    | int i =>
      obtain ⟨c, rest, hc, hd⟩ := head_integerChars i
      refine ⟨c, rest, by simpa [chars, JsonNumber.chars] using hc, ?_, ?_⟩
      · rintro rfl; rcases hd with hd | hd <;> revert hd <;> decide
      · rintro rfl; rcases hd with hd | hd <;> revert hd <;> decide
    | decimal => exact absurd h (by simp [Integral])
  | string s => exact ⟨'"', _, rfl, by decide, by decide⟩
  | array items => exact ⟨'[', _, rfl, by decide, by decide⟩
  | object fields => exact ⟨'\x7b', _, rfl, by decide, by decide⟩

/-- The first character of a number starts nothing else. -/
theorem integerChars_append_ne {i : Int} {c : Char} (hm : c ≠ '-') (hd : c.isDigit = false) (r s : List Char) :
    integerChars i ++ r ≠ c :: s := by
  obtain ⟨d, rest, hi, h⟩ := head_integerChars i
  rw [hi]
  intro he
  cases he
  rcases h with h | h
  · exact hm h
  · rw [h] at hd; cases hd

theorem number_append_ne {n : JsonNumber} (hn : (Json.number n).Integral) {c : Char} (hm : c ≠ '-')
    (hd : c.isDigit = false) (r s : List Char) : (Json.number n).chars ++ r ≠ c :: s := by
  cases n with
  | int i => exact integerChars_append_ne hm hd r s
  | decimal => exact hn.elim

mutual

/-- Two values whose texts start alike are the same. -/
theorem chars_append_inj : ∀ {a b : Json} {r s : List Char}, a.Integral → b.Integral → EndsDigits r → EndsDigits s →
    a.chars ++ r = b.chars ++ s → a = b ∧ r = s
  | .null, b, r, s, _, hb, _, _, h => by
    cases b with
    | null => exact ⟨rfl, by simpa [chars] using h⟩
    | number n => exact absurd h.symm (number_append_ne hb (by decide) (by decide) _ _)
    | bool b => cases b <;> simp [chars] at h
    | _ => simp [chars, quotedChars] at h
  | .bool a, b, r, s, _, hb, _, _, h => by
    cases b with
    | bool b => cases a <;> cases b <;> simp_all [chars]
    | number n => cases a <;> exact absurd h.symm (number_append_ne hb (by decide) (by decide) _ _)
    | _ => cases a <;> simp [chars, quotedChars] at h
  | .number (.decimal ..), _, _, _, ha, _, _, _, _ => ha.elim
  | .number (.int i), b, r, s, _, hb, hr, hs, h => by
    cases b with
    | number n =>
      cases n with
      | int j =>
        obtain ⟨hij, hrs⟩ := integerChars_append_inj hr hs h
        exact ⟨by rw [hij], hrs⟩
      | decimal => exact hb.elim
    | bool b => cases b <;> exact absurd h (integerChars_append_ne (by decide) (by decide) _ _)
    | _ => exact absurd h (integerChars_append_ne (by decide) (by decide) _ _)
  | .string a, b, r, s, _, hb, _, _, h => by
    cases b with
    | string b =>
      obtain ⟨hab, hrs⟩ := quotedChars_append_inj h
      exact ⟨by rw [hab], hrs⟩
    | number n => exact absurd h.symm (number_append_ne hb (by decide) (by decide) _ _)
    | bool b => cases b <;> simp [chars, quotedChars] at h
    | _ => simp [chars, quotedChars] at h
  | .array as, b, r, s, ha, hb, hr, hs, h => by
    cases b with
    | array bs =>
      have h' : itemsChars as ++ ']' :: r = itemsChars bs ++ ']' :: s := by
        simpa [chars] using h
      obtain ⟨hab, hrs⟩ := itemsChars_append_inj ha hb h'
      exact ⟨by rw [hab], hrs⟩
    | number n => exact absurd h.symm (number_append_ne hb (by decide) (by decide) _ _)
    | bool b => cases b <;> simp [chars] at h
    | _ => simp [chars, quotedChars] at h
  | .object as, b, r, s, ha, hb, hr, hs, h => by
    cases b with
    | object bs =>
      have h' : fieldsChars as ++ '\x7d' :: r = fieldsChars bs ++ '\x7d' :: s := by
        simpa [chars] using h
      obtain ⟨hab, hrs⟩ := fieldsChars_append_inj ha hb h'
      exact ⟨by rw [hab], hrs⟩
    | number n => exact absurd h.symm (number_append_ne hb (by decide) (by decide) _ _)
    | bool b => cases b <;> simp [chars] at h
    | _ => simp [chars, quotedChars] at h

theorem itemsChars_append_inj : ∀ {as bs : List Json} {r s : List Char}, IntegralItems as → IntegralItems bs →
    itemsChars as ++ ']' :: r = itemsChars bs ++ ']' :: s → as = bs ∧ r = s
  | [], [], _, _, _, _, h => ⟨rfl, by simpa [itemsChars] using h⟩
  | [], b :: bs, r, s, _, hb, h => by
    obtain ⟨c, rest, hc, hne, -⟩ := head_chars hb.1
    rw [itemsChars_cons, hc] at h
    simp only [itemsChars, List.nil_append, List.cons_append, List.cons.injEq] at h
    exact absurd h.1.symm hne
  | a :: as, [], r, s, ha, _, h => by
    obtain ⟨c, rest, hc, hne, -⟩ := head_chars ha.1
    rw [itemsChars_cons, hc] at h
    simp only [itemsChars, List.nil_append, List.cons_append, List.cons.injEq] at h
    exact absurd h.1 hne
  | a :: as, b :: bs, r, s, ha, hb, h => by
    -- what follows the first item starts with a comma or a bracket, so it does not go on with its digits
    rw [itemsChars_cons, itemsChars_cons, List.append_assoc, List.append_assoc] at h
    obtain ⟨hab, h⟩ := chars_append_inj ha.1 hb.1 (endsDigits_moreItems as (endsDigits_cons (by decide) r))
      (endsDigits_moreItems bs (endsDigits_cons (by decide) s)) h
    obtain ⟨has, hrs⟩ := moreItems_append_inj ha.2 hb.2 h
    exact ⟨by rw [hab, has], hrs⟩

theorem moreItems_append_inj : ∀ {as bs : List Json} {r s : List Char}, IntegralItems as → IntegralItems bs →
    moreItems as ++ ']' :: r = moreItems bs ++ ']' :: s → as = bs ∧ r = s
  | [], [], _, _, _, _, h => ⟨rfl, by simpa [moreItems] using h⟩
  | [], b :: bs, r, s, _, _, h => by simp [moreItems] at h
  | a :: as, [], r, s, _, _, h => by simp [moreItems] at h
  | a :: as, b :: bs, r, s, ha, hb, h => by
    have h' : a.chars ++ (moreItems as ++ ']' :: r) = b.chars ++ (moreItems bs ++ ']' :: s) := by
      simpa [moreItems] using h
    obtain ⟨hab, h'⟩ := chars_append_inj ha.1 hb.1 (endsDigits_moreItems as (endsDigits_cons (by decide) r))
      (endsDigits_moreItems bs (endsDigits_cons (by decide) s)) h'
    obtain ⟨has, hrs⟩ := moreItems_append_inj ha.2 hb.2 h'
    exact ⟨by rw [hab, has], hrs⟩

theorem fieldsChars_append_inj : ∀ {as bs : List (String × Json)} {r s : List Char}, IntegralFields as →
    IntegralFields bs → fieldsChars as ++ '\x7d' :: r = fieldsChars bs ++ '\x7d' :: s → as = bs ∧ r = s
  | [], [], _, _, _, _, h => ⟨rfl, by simpa [fieldsChars] using h⟩
  | [], (l, b) :: bs, r, s, _, _, h => by
    rw [fieldsChars_cons] at h
    simp [fieldsChars, quotedChars] at h
  | (k, a) :: as, [], r, s, _, _, h => by
    rw [fieldsChars_cons] at h
    simp [fieldsChars, quotedChars] at h
  | (k, a) :: as, (l, b) :: bs, r, s, ha, hb, h => by
    rw [fieldsChars_cons, fieldsChars_cons, List.append_assoc, List.append_assoc] at h
    obtain ⟨hkl, h⟩ := quotedChars_append_inj h
    have h' : a.chars ++ (moreFields as ++ '\x7d' :: r) = b.chars ++ (moreFields bs ++ '\x7d' :: s) := by
      simpa using h
    obtain ⟨hab, h'⟩ := chars_append_inj ha.1 hb.1 (endsDigits_moreFields as (endsDigits_cons (by decide) r))
      (endsDigits_moreFields bs (endsDigits_cons (by decide) s)) h'
    obtain ⟨has, hrs⟩ := moreFields_append_inj ha.2 hb.2 h'
    exact ⟨by rw [hkl, hab, has], hrs⟩

theorem moreFields_append_inj : ∀ {as bs : List (String × Json)} {r s : List Char}, IntegralFields as →
    IntegralFields bs → moreFields as ++ '\x7d' :: r = moreFields bs ++ '\x7d' :: s → as = bs ∧ r = s
  | [], [], _, _, _, _, h => ⟨rfl, by simpa [moreFields] using h⟩
  | [], (l, b) :: bs, r, s, _, _, h => by simp [moreFields] at h
  | (k, a) :: as, [], r, s, _, _, h => by simp [moreFields] at h
  | (k, a) :: as, (l, b) :: bs, r, s, ha, hb, h => by
    have h' : quotedChars k ++ (':' :: (a.chars ++ (moreFields as ++ '\x7d' :: r))) =
        quotedChars l ++ (':' :: (b.chars ++ (moreFields bs ++ '\x7d' :: s))) := by
      simpa [moreFields] using h
    obtain ⟨hkl, h'⟩ := quotedChars_append_inj h'
    obtain ⟨hab, h'⟩ := chars_append_inj ha.1 hb.1 (endsDigits_moreFields as (endsDigits_cons (by decide) r))
      (endsDigits_moreFields bs (endsDigits_cons (by decide) s)) (List.cons.inj h').2
    obtain ⟨has, hrs⟩ := moreFields_append_inj ha.2 hb.2 h'
    exact ⟨by rw [hkl, hab, has], hrs⟩

end

/-- Values without fractions are told apart by their texts. -/
theorem text_inj {a b : Json} (ha : a.Integral) (hb : b.Integral) (h : a.text = b.text) : a = b := by
  have hc : a.chars ++ [] = b.chars ++ [] := by
    simpa [text] using congrArg String.toList h
  exact (chars_append_inj ha hb (by simp [EndsDigits]) (by simp [EndsDigits]) hc).1

end Json

end HubSearch
