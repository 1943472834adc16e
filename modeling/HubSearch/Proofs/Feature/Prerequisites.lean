/-
What a feature depends on. The add-ons that it requires are looked up first, and then the MultiClusterEngine that is
listed first is read: its list of components, entry by entry, up to the first one that is malformed. Main statement:
`validate_exact`.
-/
import HubSearch.Proofs.Json.Document
import HubSearch.Proofs.Pass.Apply

namespace HubSearch.Feature

open World

/-! ## Entries -/

/-- Where a MultiClusterEngine lists its components. -/
def componentsPath : List String := ["spec", "overrides", "components"]

/-- The entry is an object with a name, and a switch that is a truth value, null or absent. -/
structure WellFormedEntry (entry : Json) : Prop where
  isObject : entry.isObject = true
  name : ∃ name, entry.field "name" = .string name
  enabled : entry.field "enabled" = .null ∨ ∃ b, entry.field "enabled" = .bool b

/-- The entry switches the component on. -/
def SwitchesOn (entry : Json) (component : String) : Prop :=
  entry.field "name" = .string component ∧ entry.field "enabled" = .bool true

/-- What is wrong with an entry. -/
inductive EntryFault (entry : Json) : FieldError → Prop
  | keyless (h : entry.Keyless) : EntryFault entry (.wrongType [] .object)
  | unnamed (h : entry.Vacant "name") : EntryFault entry (.missing ["name"])
  | name (h : entry.field "name" ≠ .null) (htext : ∀ name, entry.field "name" ≠ .string name) :
      EntryFault entry (.wrongType ["name"] .string)
  | enabled {name : String} (hname : entry.field "name" = .string name) (h : entry.field "enabled" ≠ .null)
      (hbool : ∀ b, entry.field "enabled" ≠ .bool b) : EntryFault entry (.wrongType ["enabled"] .boolean)

section

variable {entry : Json} {e : FieldError}

theorem wellFormedEntry_or_fault (entry : Json) : WellFormedEntry entry ∨ ∃ e, EntryFault entry e := by
  rcases entry.field_cases "name" with hname | hvacant | hkeyless
  · by_cases htext : ∃ name, entry.field "name" = .string name
    · have hobject := Json.isObject_of_field_ne_null hname
      by_cases henabled : entry.field "enabled" = .null ∨ ∃ b, entry.field "enabled" = .bool b
      · exact .inl ⟨hobject, htext, henabled⟩
      · obtain ⟨name, htext⟩ := htext
        rw [not_or, not_exists] at henabled
        exact .inr ⟨_, .enabled htext henabled.1 henabled.2⟩
    · exact .inr ⟨_, .name hname (not_exists.1 htext)⟩
  · exact .inr ⟨_, .unnamed hvacant⟩
  · exact .inr ⟨_, .keyless hkeyless⟩

theorem stringAt_name {name : String} (h : entry.field "name" = .string name) : entry.stringAt ["name"] = .ok name :=
  Json.typed_of_at (Json.at_key h (nomatch ·)) rfl

/-- An entry that is well-formed is read as the component that it switches on, if it does. -/
theorem enabledComponent?_of_wellFormed (h : WellFormedEntry entry) :
    ∃ o, enabledComponent? entry = .ok o ∧ ∀ c, o = some c ↔ SwitchesOn entry c := by
  obtain ⟨name, hname⟩ := h.name
  have hswitches : ∀ c, SwitchesOn entry c ↔ name = c ∧ entry.field "enabled" = .bool true := fun c => by
    rw [SwitchesOn, hname, Json.string.injEq]
  have hread := stringAt_name hname
  rcases h.enabled with hnull | ⟨b, hb⟩
  · have hswitch : entry.boolAt ["enabled"] = .error (.missing ["enabled"]) :=
      Json.typed_of_lacks (Json.lacks_key ⟨.inr h.isObject, hnull⟩)
    refine ⟨none, by rw [enabledComponent?, hread, hswitch]; rfl, fun c => ?_⟩
    simp [hswitches, hnull]
  · have hswitch : entry.boolAt ["enabled"] = .ok b := Json.typed_of_at (Json.at_key hb (nomatch ·)) rfl
    refine ⟨if b then some name else none, by rw [enabledComponent?, hread, hswitch]; rfl, fun c => ?_⟩
    cases b <;> simp [hswitches, hb]

/-- Reading an entry fails for what is wrong with it. -/
theorem enabledComponent?_of_fault (h : EntryFault entry e) : enabledComponent? entry = .error e := by
  cases h with
  | keyless h =>
    have hread : entry.stringAt ["name"] = .error (.wrongType [] .object) :=
      Json.typed_of_obstructs (Json.obstructs_key h)
    rw [enabledComponent?, hread]
    rfl
  | unnamed h =>
    have hread : entry.stringAt ["name"] = .error (.missing ["name"]) := Json.typed_of_lacks (Json.lacks_key h)
    rw [enabledComponent?, hread]
    rfl
  | name h htext =>
    have hview : (entry.field "name").string? = none := by
      cases hv : entry.field "name" with
      | string s => exact absurd hv (htext s)
      | _ => rfl
    have hread : entry.stringAt ["name"] = .error (.wrongType ["name"] .string) :=
      Json.typed_of_view_eq_none (Json.at_key rfl h) hview
    rw [enabledComponent?, hread]
    rfl
  | enabled hname h hbool =>
    have hview : (entry.field "enabled").bool? = none := by
      cases hv : entry.field "enabled" with
      | bool b => exact absurd hv (hbool b)
      | _ => rfl
    have hswitch : entry.boolAt ["enabled"] = .error (.wrongType ["enabled"] .boolean) :=
      Json.typed_of_view_eq_none (Json.at_key rfl h) hview
    rw [enabledComponent?, stringAt_name hname, hswitch]
    rfl

end

/-! ## Lists of entries -/

theorem mapM_enabledComponent?_of_wellFormed : ∀ {entries : List Json}, (∀ entry ∈ entries, WellFormedEntry entry) →
    ∃ names, entries.mapM enabledComponent? = .ok names ∧
      ∀ c, some c ∈ names ↔ ∃ entry ∈ entries, SwitchesOn entry c
  | [], _ => ⟨[], rfl, by simp⟩
  | entry :: rest, h => by
    obtain ⟨hentry, hrest⟩ := List.forall_mem_cons.1 h
    obtain ⟨o, ho, hswitches⟩ := enabledComponent?_of_wellFormed hentry
    obtain ⟨names, hnames, hmem⟩ := mapM_enabledComponent?_of_wellFormed hrest
    refine ⟨o :: names, by rw [List.mapM_cons, ho, hnames]; rfl, fun c => ?_⟩
    rw [List.mem_cons, hmem, eq_comm, hswitches]
    simp only [List.mem_cons, exists_eq_or_imp]

/-- Entries are read up to the first one that is malformed. -/
theorem mapM_enabledComponent?_of_fault {entry : Json} {e : FieldError} (hfault : EntryFault entry e)
    (after : List Json) : ∀ {before : List Json}, (∀ b ∈ before, WellFormedEntry b) →
      (before ++ entry :: after).mapM enabledComponent? = .error e
  | [], _ => by rw [List.nil_append, List.mapM_cons, enabledComponent?_of_fault hfault]; rfl
  | b :: before, h => by
    obtain ⟨hb, hbefore⟩ := List.forall_mem_cons.1 h
    obtain ⟨o, ho, -⟩ := enabledComponent?_of_wellFormed hb
    rw [List.cons_append, List.mapM_cons, ho]
    show (do let names ← (before ++ entry :: after).mapM enabledComponent?; _) = _
    rw [mapM_enabledComponent?_of_fault hfault after hbefore]
    rfl

/-- The list is well-formed, or there is a first entry that is not. -/
theorem wellFormed_or_first_fault (entries : List Json) : (∀ entry ∈ entries, WellFormedEntry entry) ∨
    ∃ before entry after e, entries = before ++ entry :: after ∧ (∀ b ∈ before, WellFormedEntry b) ∧
      EntryFault entry e := by
  induction entries with
  | nil => exact .inl fun _ h => nomatch h
  | cons entry rest ih =>
    rcases wellFormedEntry_or_fault entry with hentry | ⟨e, he⟩
    · rcases ih with hrest | ⟨before, bad, after, e, rfl, hbefore, he⟩
      · exact .inl (List.forall_mem_cons.2 ⟨hentry, hrest⟩)
      · exact .inr ⟨entry :: before, bad, after, e, rfl, List.forall_mem_cons.2 ⟨hentry, hbefore⟩, he⟩
    · exact .inr ⟨[], entry, rest, e, rfl, fun _ h => (nomatch h), he⟩

/-! ## Engines -/

/-- What is wrong with the components of a MultiClusterEngine: something on the way to them has no keys, they are no
list, or an entry is not well-formed, of which the first one counts. -/
inductive Malformed (engine : Json) : FieldError → Prop
  | obstructed {p : List String} (h : engine.Obstructs componentsPath p) : Malformed engine (.wrongType p .object)
  | noList {v : Json} (h : engine.At componentsPath v) (hlist : v.array? = none) :
      Malformed engine (.wrongType componentsPath .array)
  | entry {before after : List Json} {entry : Json} {e : FieldError}
      (h : engine.At componentsPath (.array (before ++ entry :: after))) (hbefore : ∀ b ∈ before, WellFormedEntry b)
      (hfault : EntryFault entry e) : Malformed engine e

/-- The MultiClusterEngine lists well-formed entries. -/
def Lists (engine : Json) (entries : List Json) : Prop :=
  engine.At componentsPath (.array entries) ∧ ∀ entry ∈ entries, WellFormedEntry entry

section

variable {engine : Json} {entries : List Json}

/-- Well-formed entries are listed, or nothing is, or something is wrong. -/
theorem components_cases (engine : Json) :
    (∃ entries, Lists engine entries) ∨ (∃ p, engine.Lacks componentsPath p) ∨ ∃ e, Malformed engine e := by
  rcases Json.at_cases componentsPath engine with ⟨v, hv⟩ | hlacks | ⟨p, hp⟩
  · cases hlist : v.array? with
    | none => exact .inr (.inr ⟨_, .noList hv hlist⟩)
    | some entries =>
      obtain rfl : v = .array entries := by
        cases v with
        | array items => exact congrArg Json.array (Option.some.inj hlist)
        | _ => cases hlist
      rcases wellFormed_or_first_fault entries with hentries | ⟨before, entry, after, e, rfl, hbefore, he⟩
      · exact .inl ⟨entries, hv, hentries⟩
      · exact .inr (.inr ⟨e, .entry hv hbefore he⟩)
  · exact .inr (.inl hlacks)
  · exact .inr (.inr ⟨_, .obstructed hp⟩)

theorem enabledComponents_eq (engine : Json) : enabledComponents engine = (do
    let entries ← FieldError.optional (engine.arrayAt componentsPath)
    let names ← (entries.getD []).mapM enabledComponent?
    pure (names.filterMap id)) := rfl

theorem enabledComponents_of_lists (h : Lists engine entries) :
    ∃ names, enabledComponents engine = .ok names ∧ ∀ c, c ∈ names ↔ ∃ entry ∈ entries, SwitchesOn entry c := by
  have hread : engine.arrayAt componentsPath = .ok entries := Json.typed_of_at h.1 rfl
  obtain ⟨names, hnames, hmem⟩ := mapM_enabledComponent?_of_wellFormed h.2
  refine ⟨names.filterMap id, ?_, fun c => ?_⟩
  · rw [enabledComponents_eq, hread]
    show (entries.mapM enabledComponent? >>= _) = _
    rw [hnames]
    rfl
  · rw [← hmem, List.mem_filterMap]
    simp

/-- Where no list is, no component is switched on. -/
theorem enabledComponents_of_lacks {p : List String} (h : engine.Lacks componentsPath p) :
    enabledComponents engine = .ok [] := by
  have hread : engine.arrayAt componentsPath = .error (.missing p) := Json.typed_of_lacks h
  rw [enabledComponents_eq, hread]
  rfl

theorem enabledComponents_of_malformed {e : FieldError} (h : Malformed engine e) :
    enabledComponents engine = .error e := by
  rw [enabledComponents_eq]
  cases h with
  | obstructed h =>
    have hread : engine.arrayAt componentsPath = _ := Json.typed_of_obstructs h
    rw [hread]
    rfl
  | noList h hlist =>
    have hread : engine.arrayAt componentsPath = _ := Json.typed_of_view_eq_none h hlist
    rw [hread]
    rfl
  | @entry before after entry e h hbefore hfault =>
    have hread : engine.arrayAt componentsPath = .ok (before ++ entry :: after) := Json.typed_of_at h rfl
    rw [hread]
    show ((before ++ entry :: after).mapM enabledComponent? >>= _) = _
    rw [mapM_enabledComponent?_of_fault hfault after hbefore]
    rfl

end

/-! ## Required components -/

/-- The failure of a feature whose component is not switched on. -/
def componentFailure (f : Feature) (component : String) : OperatorError :=
  .validation (f.name ++ " requires the MultiClusterEngine component `" ++ component ++ "` to be enabled")

section

variable {f : Feature} {engine : Json} {entries : List Json}

/-- The components that are switched on are all that is required, or one that is not is named. -/
theorem requireComponents_of_ok {names : List String} (h : enabledComponents engine = .ok names) :
    f.requireComponents engine = .ok () ∧ (∀ c ∈ f.requiredComponents, c ∈ names) ∨
      ∃ c ∈ f.requiredComponents, c ∉ names ∧ f.requireComponents engine = .error (f.componentFailure c) := by
  rw [requireComponents, h]
  simp only [bind, Except.bind, Except.mapError]
  cases hfind : f.requiredComponents.find? fun c => !names.contains c with
  | none => exact .inl ⟨rfl, fun c hc => by simpa using List.find?_eq_none.1 hfind c hc⟩
  | some c => exact .inr ⟨c, List.mem_of_find?_eq_some hfind, by simpa using List.find?_some hfind, rfl⟩

theorem requireComponents_of_lists (h : Lists engine entries) :
    f.requireComponents engine = .ok () ↔ ∀ c ∈ f.requiredComponents, ∃ entry ∈ entries, SwitchesOn entry c := by
  obtain ⟨names, hnames, hmem⟩ := enabledComponents_of_lists h
  simp only [← hmem]
  rcases requireComponents_of_ok (f := f) hnames with ⟨hok, hall⟩ | ⟨c, hc, hoff, herror⟩
  · exact iff_of_true hok hall
  · exact iff_of_false (by rw [herror]; exact (nomatch ·)) fun hall => hoff (hall c hc)

theorem requireComponents_of_lacks {p : List String} (h : engine.Lacks componentsPath p) :
    ∃ c ∈ f.requiredComponents, f.requireComponents engine = .error (f.componentFailure c) := by
  rcases requireComponents_of_ok (f := f) (enabledComponents_of_lacks h) with ⟨-, hall⟩ | ⟨c, hc, -, herror⟩
  · cases f <;> exact absurd (hall _ List.mem_cons_self) List.not_mem_nil
  · exact ⟨c, hc, herror⟩

theorem requireComponents_of_malformed {e : FieldError} (h : Malformed engine e) :
    f.requireComponents engine = .error (.document e) := by
  rw [requireComponents, enabledComponents_of_malformed h]
  rfl

/-- Exactly a list that is malformed, or an entry, is a failure of the document. -/
theorem requireComponents_eq_document_iff {e : FieldError} :
    f.requireComponents engine = .error (.document e) ↔ Malformed engine e := by
  refine ⟨fun h => ?_, requireComponents_of_malformed⟩
  rcases components_cases engine with ⟨entries, hlists⟩ | ⟨p, hp⟩ | ⟨e', he'⟩
  · obtain ⟨names, hnames, -⟩ := enabledComponents_of_lists hlists
    rcases requireComponents_of_ok (f := f) hnames with ⟨hok, -⟩ | ⟨c, -, -, herror⟩
    · cases hok.symm.trans h
    · cases herror.symm.trans h
  · obtain ⟨c, -, herror⟩ := requireComponents_of_lacks (f := f) hp
    cases herror.symm.trans h
  · cases (requireComponents_of_malformed (f := f) he').symm.trans h
    exact he'

/-- The engine has what the feature requires exactly when it lists well-formed entries, some of which switch the
required components on. -/
theorem requireComponents_eq_ok_iff : f.requireComponents engine = .ok () ↔
    ∃ entries, Lists engine entries ∧ ∀ c ∈ f.requiredComponents, ∃ entry ∈ entries, SwitchesOn entry c := by
  constructor
  · intro h
    rcases components_cases engine with ⟨entries, hlists⟩ | ⟨p, hp⟩ | ⟨e, he⟩
    · exact ⟨entries, hlists, (requireComponents_of_lists hlists).1 h⟩
    · obtain ⟨c, -, herror⟩ := requireComponents_of_lacks (f := f) hp
      cases herror.symm.trans h
    · cases (requireComponents_of_malformed (f := f) he).symm.trans h
  · rintro ⟨entries, hlists, hall⟩
    exact (requireComponents_of_lists hlists).2 hall

end

/-! ## Checking everything -/

/-- The add-on is installed. -/
def HasAddon (w : World) (addon : String) : Prop := w.object? (hubStore .clusterManagementAddOn) addon ≠ none

/-- The data of the MultiClusterEngine that is listed first. -/
def firstEngine? (w : World) : Option Json :=
  (w.store (hubStore .multiClusterEngine)).objects.values.head?.map fun engine : Unstructured => engine.data

/-- The failure of a feature whose add-on is missing. -/
def addonFailure (f : Feature) (addon : String) : OperatorError :=
  .validation (f.name ++ " requires the `" ++ addon ++ "` add-on")

/-- The failure of a feature without an engine. -/
def engineFailure (f : Feature) : OperatorError := .validation (f.name ++ " requires a MultiClusterEngine")

/-- What checking the prerequisites of a feature gives. -/
def verdict (f : Feature) (w : World) : Except OperatorError Unit := (w.run f.validate.run).1

section

variable {f : Feature} {w : World}

/-- Look one add-on up. -/
def requireAddon (f : Feature) (addon : String) : Work Unit := do
  if (← Work.fetch (hubStore .clusterManagementAddOn) addon).isNone then throw (f.addonFailure addon)

theorem requireAddons_eq (f : Feature) : f.requireAddons = f.requiredAddons.forM f.requireAddon := rfl

theorem run_requireAddon (f : Feature) (addon : String) (w : World) :
    ∃ v, v.store = w.store ∧ (HasAddon w addon ∧ w.run (f.requireAddon addon).run = (.ok (), v) ∨
      ¬HasAddon w addon ∧ w.run (f.requireAddon addon).run = (.error (f.addonFailure addon), v)) := by
  have hfetch : w.run (Work.fetch (hubStore .clusterManagementAddOn) addon).run =
      (.ok (w.object? (hubStore .clusterManagementAddOn) addon), w.logged (.fetch _ addon)) := rfl
  refine ⟨w.logged (.fetch (hubStore .clusterManagementAddOn) addon), rfl, ?_⟩
  have hrun : w.run (f.requireAddon addon).run = _ := run_work_bind_ok hfetch _
  rw [hrun, HasAddon]
  cases w.object? (hubStore .clusterManagementAddOn) addon with
  | none => exact .inr ⟨fun h => h rfl, rfl⟩
  | some o => exact .inl ⟨(nomatch ·), rfl⟩

theorem hasAddon_congr {v : World} (h : v.store = w.store) (addon : String) : HasAddon v addon ↔ HasAddon w addon := by
  rw [HasAddon, HasAddon, object?_congr h]

/-- Add-ons are looked up one after the other, up to the first one that is missing. -/
theorem run_requireAddons (f : Feature) : ∀ (addons : List String) (w : World),
    (∃ v, v.store = w.store ∧ w.run (addons.forM f.requireAddon).run = (.ok (), v) ∧
      ∀ addon ∈ addons, HasAddon w addon) ∨
    ∃ v, ∃ addon ∈ addons, ¬HasAddon w addon ∧
      w.run (addons.forM f.requireAddon).run = (.error (f.addonFailure addon), v)
  | [], w => .inl ⟨w, rfl, rfl, fun _ h => (nomatch h)⟩
  | addon :: rest, w => by
    obtain ⟨u, hu, ⟨hhas, hrun⟩ | ⟨hmissing, hrun⟩⟩ := run_requireAddon f addon w
    · have hbind : w.run ((addon :: rest).forM f.requireAddon).run = u.run (rest.forM f.requireAddon).run :=
        run_work_bind_ok hrun _
      rw [hbind]
      rcases run_requireAddons f rest u with ⟨v, hv, hok, hall⟩ | ⟨v, other, hmem, hmissing, herror⟩
      · refine .inl ⟨v, hv.trans hu, hok, List.forall_mem_cons.2 ⟨hhas, fun other hother => ?_⟩⟩
        exact (hasAddon_congr hu other).1 (hall other hother)
      · exact .inr ⟨v, other, List.mem_cons_of_mem _ hmem, fun h => hmissing ((hasAddon_congr hu other).2 h), herror⟩
    · exact .inr ⟨u, addon, List.mem_cons_self, hmissing, Work.run_bind_of_error hrun _⟩

/-- The first engine is looked at if the add-ons are there, and else the failure is about one of them. -/
theorem verdict_cases (f : Feature) (w : World) :
    (∀ addon ∈ f.requiredAddons, HasAddon w addon) ∧
      (firstEngine? w = none ∧ f.verdict w = .error f.engineFailure ∨
        ∃ engine, firstEngine? w = some engine ∧ f.verdict w = f.requireComponents engine) ∨
    ∃ addon ∈ f.requiredAddons, ¬HasAddon w addon ∧ f.verdict w = .error (f.addonFailure addon) := by
  have haddons := run_requireAddons f f.requiredAddons w
  rw [← requireAddons_eq] at haddons
  rcases haddons with ⟨v, hv, hok, hall⟩ | ⟨v, addon, hmem, hmissing, herror⟩
  · refine .inl ⟨hall, ?_⟩
    have hrun : w.run f.validate.run = _ := run_work_bind_ok hok _
    have hfetch : v.run (Work.fetchAll (hubStore .multiClusterEngine)).run =
        (.ok (v.store (hubStore .multiClusterEngine)).objects.values, v.logged (.fetchAll _)) := rfl
    rw [hv] at hfetch
    rw [firstEngine?, verdict, hrun]
    cases hengines : (w.store (hubStore .multiClusterEngine)).objects.values with
    | nil =>
      rw [hengines] at hfetch
      exact .inl ⟨rfl, congrArg Prod.fst (run_work_bind_ok hfetch _)⟩
    | cons engine rest =>
      rw [hengines] at hfetch
      exact .inr ⟨_, rfl, congrArg Prod.fst (run_work_bind_ok hfetch _)⟩
  · refine .inr ⟨addon, hmem, hmissing, ?_⟩
    have hrun : w.run f.validate.run = _ := Work.run_bind_of_error herror _
    rw [verdict, hrun]

/-- The prerequisites are there exactly when the add-ons are, and the first engine lists well-formed entries, some of
which switch the required components on. -/
theorem validates_iff (f : Feature) (w : World) :
    f.Validates w ↔ (∀ addon ∈ f.requiredAddons, HasAddon w addon) ∧ ∃ engine entries,
      firstEngine? w = some engine ∧ Lists engine entries ∧
        ∀ c ∈ f.requiredComponents, ∃ entry ∈ entries, SwitchesOn entry c := by
  rw [show f.Validates w ↔ f.verdict w = .ok () from Iff.rfl]
  rcases verdict_cases f w with ⟨hall, ⟨hnone, herror⟩ | ⟨engine, hengine, hread⟩⟩ | ⟨addon, hmem, hmissing, herror⟩
  · refine iff_of_false (by rw [herror]; exact (nomatch ·)) ?_
    rintro ⟨-, engine, entries, hengine, -⟩
    cases hnone.symm.trans hengine
  · rw [hread, requireComponents_eq_ok_iff]
    constructor
    · rintro ⟨entries, hlists, hon⟩
      exact ⟨hall, engine, entries, hengine, hlists, hon⟩
    · rintro ⟨-, other, entries, hother, hlists, hon⟩
      obtain rfl := Option.some.inj (hengine.symm.trans hother)
      exact ⟨entries, hlists, hon⟩
  · exact iff_of_false (by rw [herror]; exact (nomatch ·)) fun h => hmissing (h.1 addon hmem)

/-- With all add-ons there the first engine decides. -/
theorem verdict_of_engine (haddons : ∀ addon ∈ f.requiredAddons, HasAddon w addon) {engine : Json}
    (hengine : firstEngine? w = some engine) : f.verdict w = f.requireComponents engine := by
  rcases verdict_cases f w with ⟨-, ⟨hnone, -⟩ | ⟨other, hother, hread⟩⟩ | ⟨addon, hmem, hmissing, -⟩
  · cases hnone.symm.trans hengine
  · obtain rfl := Option.some.inj (hengine.symm.trans hother)
    exact hread
  · exact absurd (haddons addon hmem) hmissing

/-- With a list in the first engine, its entries decide. -/
theorem validates_iff_of_at {engine : Json} {entries : List Json} (hengine : firstEngine? w = some engine)
    (hlist : engine.At componentsPath (.array entries)) :
    f.Validates w ↔ (∀ addon ∈ f.requiredAddons, HasAddon w addon) ∧ (∀ entry ∈ entries, WellFormedEntry entry) ∧
      ∀ c ∈ f.requiredComponents, ∃ entry ∈ entries, SwitchesOn entry c := by
  rw [validates_iff]
  refine and_congr_right fun _ => ⟨?_, fun h => ⟨engine, entries, hengine, ⟨hlist, h.1⟩, h.2⟩⟩
  rintro ⟨other, more, hother, hmore, hon⟩
  obtain rfl := Option.some.inj (hengine.symm.trans hother)
  obtain rfl := Json.array.inj (hlist.eq hmore.1)
  exact ⟨hmore.2, hon⟩

/-- Which entries are listed counts, and not in which order or how often. -/
theorem validates_of_same_entries {v : World} {engine engine' : Json} {entries entries' : List Json}
    (hengine : firstEngine? w = some engine) (hengine' : firstEngine? v = some engine')
    (hlist : engine.At componentsPath (.array entries)) (hlist' : engine'.At componentsPath (.array entries'))
    (hsame : ∀ entry, entry ∈ entries' ↔ entry ∈ entries)
    (haddons : ∀ addon ∈ f.requiredAddons, HasAddon v addon ↔ HasAddon w addon) : f.Validates v ↔ f.Validates w := by
  rw [validates_iff_of_at hengine' hlist', validates_iff_of_at hengine hlist]
  simp only [hsame]
  exact and_congr_left' (forall₂_congr haddons)

/-- Without its prerequisites a feature that is on writes nothing, and its status stays. -/
theorem run_reconcileFeature_on_of_not_validates {p : Pass} (hon : p.toggles.isEnabled f = true)
    (hval : ¬f.Validates w) (status : SearchStatus) :
    ∃ report v, w.run (p.reconcileFeature f status) = ((status, report), v) ∧ w.OnlyRead v := by
  rcases run_enable_cases f p.owner w with ⟨e, v, -, hr, hread⟩ | ⟨-, -, -, hval', -⟩
  · rcases Pass.run_reconcileFeature_cases p f status w with ⟨after, change, u, hu, -⟩ | ⟨e', u, hu, hp⟩ <;>
      rw [hon] at hu <;>
      rcases run_reconcile_on f p.owner (p.now f) p.generation status w with ⟨n, t, _, ht, -⟩ | ⟨e'', t, ht, hrun⟩
    · cases (Prod.mk.inj (hr.symm.trans ht)).1
    · cases (Prod.mk.inj (hu.symm.trans hrun)).1
    · cases (Prod.mk.inj (hr.symm.trans ht)).1
    · obtain rfl := (Prod.mk.inj (hu.symm.trans hrun)).2
      obtain rfl := (Prod.mk.inj (hr.symm.trans ht)).2
      exact ⟨_, _, hp, hread⟩
  · exact absurd hval' hval

end

/-- Checking the prerequisites is exact: they are there exactly when the required add-ons are, the engine that is listed
first lists components in well-formed entries, and each required component is switched on by one of them. A missing
add-on is reported whatever the engine is. With all add-ons there, the failure is one of the document exactly where
the list is malformed, or an entry, and it is about the first one; an absent list switches nothing on. The order of the
entries does not count, nor how often they are listed. Without its prerequisites switching a feature on makes no write,
and with the toggle on its status stays as it was. -/
theorem validate_exact (f : Feature) (w : World) :
    (f.Validates w ↔ (∀ addon ∈ f.requiredAddons, HasAddon w addon) ∧ ∃ engine entries,
      firstEngine? w = some engine ∧ Lists engine entries ∧
        ∀ c ∈ f.requiredComponents, ∃ entry ∈ entries, SwitchesOn entry c) ∧
    ((∃ addon ∈ f.requiredAddons, ¬HasAddon w addon) →
      ∃ addon ∈ f.requiredAddons, ¬HasAddon w addon ∧ f.verdict w = .error (f.addonFailure addon)) ∧
    (∀ engine, (∀ addon ∈ f.requiredAddons, HasAddon w addon) → firstEngine? w = some engine →
      (∀ e, f.verdict w = .error (.document e) ↔ Malformed engine e) ∧
      ∀ p, engine.Lacks componentsPath p →
        ∃ c ∈ f.requiredComponents, f.verdict w = .error (f.componentFailure c)) ∧
    (∀ v engine engine' entries entries', firstEngine? w = some engine → firstEngine? v = some engine' →
      engine.At componentsPath (.array entries) → engine'.At componentsPath (.array entries') →
      (∀ entry, entry ∈ entries' ↔ entry ∈ entries) →
      (∀ addon ∈ f.requiredAddons, HasAddon v addon ↔ HasAddon w addon) → (f.Validates v ↔ f.Validates w)) ∧
    (¬f.Validates w →
      (∀ owner, ∃ e v, w.run (f.enable owner).run = (.error e, v) ∧ w.OnlyRead v) ∧
      ∀ (p : Pass) (status : SearchStatus), p.toggles.isEnabled f = true →
        ∃ report v, w.run (p.reconcileFeature f status) = ((status, report), v) ∧ w.OnlyRead v) := by
  refine ⟨f.validates_iff w, ?_, fun engine haddons hengine => ?_, ?_, fun hval => ⟨fun owner => ?_, ?_⟩⟩
  · rintro ⟨addon, hmem, hmissing⟩
    rcases verdict_cases f w with ⟨hall, -⟩ | hfailure
    · exact absurd (hall addon hmem) hmissing
    · exact hfailure
  · rw [verdict_of_engine haddons hengine]
    exact ⟨fun e => requireComponents_eq_document_iff, fun p hp => requireComponents_of_lacks hp⟩
  · intro v engine engine' entries entries' hengine hengine' hlist hlist' hsame haddons
    exact validates_of_same_entries hengine hengine' hlist hlist' hsame haddons
  · rcases run_enable_cases f owner w with ⟨e, v, -, hr, hread⟩ | ⟨-, -, -, hval', -⟩
    · exact ⟨e, v, hr, hread⟩
    · exact absurd hval' hval
  · exact fun p status hon => run_reconcileFeature_on_of_not_validates hon hval status

/-- A pass of a Search that asks for global search. -/
def globalSearchPass : Pass :=
  ⟨{ metadata := { annotations := some (.ofList [(globalSearch.toggleKey, "true")]) } }, sampleOwner, {}, default⟩

/-- An engine whose second entry has a text for its switch. -/
def mistypedEngine : Json :=
  let entries : Json := .array [.object [("enabled", .bool true), ("name", .string "managedserviceaccount")],
    .object [("enabled", .string "yes"), ("name", .string "cluster-proxy-addon")]]
  .object [("spec", .object [("overrides", .object [("components", entries)])])]

/-- A hub with that engine and the add-on of global search. -/
def mistypedHub : World :=
  (World.seed {} (hubStore .clusterManagementAddOn)
    (.new UnstructuredKind.clusterManagementAddOn.api "managed-serviceaccount" none .null)).seed
      (hubStore .multiClusterEngine) (.new UnstructuredKind.multiClusterEngine.api "engine" none mistypedEngine)

/-- The second entry is to blame, and nothing is written. -/
theorem validate_exact_mistypedHub :
    globalSearch.verdict mistypedHub = .error (.document (.wrongType ["enabled"] .boolean)) ∧
      ∃ report v, mistypedHub.run (globalSearchPass.reconcileFeature globalSearch {}) = (({}, report), v) ∧
        mistypedHub.OnlyRead v := by
  obtain ⟨-, -, hengine, -, heffects⟩ := validate_exact globalSearch mistypedHub
  have haddons : ∀ addon ∈ globalSearch.requiredAddons, HasAddon mistypedHub addon := by
    intro addon hmem
    rw [List.mem_singleton.1 hmem, HasAddon]
    decide +kernel
  have hfirst : firstEngine? mistypedHub = some mistypedEngine := by decide +kernel
  have hblame : Malformed mistypedEngine (.wrongType ["enabled"] .boolean) :=
    @Malformed.entry _ [_] [] _ _ ⟨by decide, by decide, by decide, rfl⟩
      (List.forall_mem_singleton.2 ⟨rfl, ⟨_, rfl⟩, .inr ⟨true, rfl⟩⟩) (.enabled rfl (by decide) (by simp [Json.field]))
  have hverdict := ((hengine mistypedEngine haddons hfirst).1 _).2 hblame
  have hval : ¬globalSearch.Validates mistypedHub := fun h => by cases hverdict.symm.trans h
  exact ⟨hverdict, (heffects hval).2 globalSearchPass {} (by decide +kernel)⟩

/-- With the toggle off the prerequisites are not looked at: the condition of a feature that was on changes, although
there is no engine. -/
theorem switches_off_without_engine :
    let status : SearchStatus := (SearchStatus.upsert {} (fineGrainedRbac.enabledCondition default 0 1)).1
    globalSearchPass.toggles.isEnabled fineGrainedRbac = false ∧ ¬fineGrainedRbac.Validates {} ∧
      (World.run {} (globalSearchPass.reconcileFeature fineGrainedRbac status)).1.1 ≠ status := by
  intro status
  refine ⟨by decide +kernel, fun h => ?_, by decide +kernel⟩
  obtain ⟨-, engine, entries, hengine, -⟩ := (validates_iff fineGrainedRbac {}).1 h
  cases hengine

end HubSearch.Feature
