/-
Files that were edited in place. A user's own lines of a file are those that no release has generated, each once and in
the order of their first occurrence. Where there is no overlay, a merge moves exactly these lines into a new one and
appends them to the generated file; where there are none it leaves everything as it was generated. Main statement:
`migration_moves_own_lines`.
-/
import Mathlib.Data.List.Nodup
import HubSearch.Proofs.DatabaseConfig.Release

namespace HubSearch

/-! ## First occurrences -/

/-- Of a list's items, those that are kept once stand in the order of their first occurrence in the list. -/
theorem pairwise_idxOf_eraseDups {α : Type} [BEq α] [LawfulBEq α] (l : List α) :
    ∀ p : α → Bool, (l.filter p).eraseDups.Pairwise fun a b => l.idxOf a < l.idxOf b := by
  induction l with
  | nil => intro p; simp
  | cons x l ih =>
    intro p
    -- an item other than the first one occurs one place later than in the rest
    have hlater : ∀ {kept : List α}, (∀ a ∈ kept, a ≠ x) → kept.Pairwise (fun a b => l.idxOf a < l.idxOf b) →
        kept.Pairwise fun a b => (x :: l).idxOf a < (x :: l).idxOf b := by
      intro kept hne hkept
      refine hkept.imp_of_mem fun {a b} ha hb hab => ?_
      simpa [List.idxOf_cons, beq_eq_false_iff_ne.2 (hne a ha).symm, beq_eq_false_iff_ne.2 (hne b hb).symm] using hab
    cases hx : p x with
    | true =>
      rw [List.filter_cons_of_pos hx, List.eraseDups_cons, List.filter_filter]
      have hne : ∀ a ∈ (l.filter fun a => (!a == x) && p a).eraseDups, a ≠ x := by
        intro a ha
        rw [List.mem_eraseDups, List.mem_filter] at ha
        have hax := (Bool.and_eq_true_iff.1 ha.2).1
        simpa using hax
      refine List.pairwise_cons.2 ⟨fun a ha => ?_, hlater hne (ih _)⟩
      simp [List.idxOf_cons, beq_eq_false_iff_ne.2 (hne a ha).symm]
    | false =>
      rw [List.filter_cons_of_neg (by simp [hx])]
      refine hlater (fun a ha => ?_) (ih p)
      rw [List.mem_eraseDups, List.mem_filter] at ha
      rintro rfl
      rw [hx] at ha
      cases ha.2

namespace DatabaseConfig

/-! ## A user's own lines -/

/-- A line that no release has written: it is not the header of a moved overlay, and it stands neither in the generated
file nor in one that the release knows. -/
structure IsOwn (generated : List Char) (known : List String) (line : List Char) : Prop where
  ne_header : line ≠ migrationHeader
  not_generated : line ∉ trimmedLines generated
  not_known : ∀ t ∈ known, line ∉ trimmedLines t.toList

/-- A list of the own lines of a file, in the order of their first occurrence among its setting lines. It has each of
them once, as no line occurs first before itself. -/
structure ListsOwn (file generated : List Char) (known : List String) (own : List (List Char)) : Prop where
  mem_iff : ∀ line, line ∈ own ↔ line ∈ settingLines file ∧ IsOwn generated known line
  ordered : own.Pairwise fun a b => (settingLines file).idxOf a < (settingLines file).idxOf b

section own

variable {file generated : List Char} {known : List String} {own other : List (List Char)}

theorem mem_generatedLines_iff {line : List Char} :
    line ∈ (known.map String.toList ++ [generated]).flatMap trimmedLines ↔
      line ∈ trimmedLines generated ∨ ∃ t ∈ known, line ∈ trimmedLines t.toList := by
  simp [or_comm]

theorem listsOwn_ownLines (file generated : List Char) (known : List String) :
    ListsOwn file generated known (ownLines (trim file) generated (known.map String.toList)) := by
  unfold ownLines
  rw [settingLines_trim]
  refine ⟨fun line => ?_, pairwise_idxOf_eraseDups _ _⟩
  rw [List.mem_eraseDups, List.mem_filter]
  refine and_congr_right fun _ => ?_
  simp only [Bool.and_eq_true, decide_eq_true_eq, Bool.not_eq_true', List.contains_eq_mem, decide_eq_false_iff_not,
    mem_generatedLines_iff, not_or, not_exists, not_and]
  exact ⟨fun ⟨hheader, hgenerated, hknown⟩ => ⟨hheader, hgenerated, hknown⟩,
    fun h => ⟨h.ne_header, h.not_generated, h.not_known⟩⟩

namespace ListsOwn

theorem nodup (h : ListsOwn file generated known own) : own.Nodup :=
  h.ordered.imp fun hlt => by
    rintro rfl
    exact absurd hlt (Nat.lt_irrefl _)

theorem unique (h : ListsOwn file generated known own) (h' : ListsOwn file generated known other) : own = other := by
  have hperm : own.Perm other :=
    (List.perm_ext_iff_of_nodup h.nodup h'.nodup).2 fun line => (h.mem_iff line).trans (h'.mem_iff line).symm
  exact hperm.eq_of_pairwise (fun a b _ _ hab hba => absurd hab (Nat.lt_asymm hba)) h.ordered h'.ordered

theorem isSettingLine (h : ListsOwn file generated known own) {line : List Char} (hline : line ∈ own) :
    IsSettingLine line :=
  isSettingLine_of_mem ((h.mem_iff line).1 hline).1

theorem eq_nil_of_forall (h : ListsOwn file generated known own)
    (hall : ∀ line ∈ settingLines file, ¬ IsOwn generated known line) : own = [] := by
  refine List.eq_nil_iff_forall_not_mem.2 fun line hline => ?_
  obtain ⟨hfile, hown⟩ := (h.mem_iff line).1 hline
  exact hall line hfile hown

/-- A file that is blank, or is as some release has generated it, has no line of its own. -/
theorem eq_nil_of_trim (h : ListsOwn file generated known own)
    (hfile : trim file = [] ∨ trim file = trim generated ∨ ∃ t ∈ known, trim t.toList = trim file) : own = [] := by
  refine h.eq_nil_of_forall fun line hline hown => ?_
  rw [← settingLines_trim] at hline
  rcases hfile with hblank | hgenerated | ⟨t, ht, hknown⟩
  · rw [hblank] at hline
    cases hline
  · rw [hgenerated, settingLines_trim] at hline
    exact hown.not_generated (List.mem_filter.1 hline).1
  · rw [← hknown, settingLines_trim] at hline
    exact hown.not_known t ht (List.mem_filter.1 hline).1

end ListsOwn

theorem isSettingLine_migrationHeader : IsSettingLine migrationHeader :=
  ⟨by decide +kernel, by decide +kernel, by decide +kernel⟩

theorem ListsOwn.isSettingLine_header_cons (h : ListsOwn file generated known own) :
    ∀ line ∈ migrationHeader :: own, IsSettingLine line :=
  List.forall_mem_cons.2 ⟨isSettingLine_migrationHeader, fun _ => h.isSettingLine⟩

/-- What is moved out of a file: the header and the own lines, each ended by a line feed. -/
theorem migrated?_of_listsOwn (h : ListsOwn file generated known own) :
    migrated? file generated (known.map String.toList) =
      if own = [] then none else some (endedLines (migrationHeader :: own)) := by
  obtain rfl := h.unique (listsOwn_ownLines file generated known)
  unfold migrated?
  dsimp only
  by_cases hfile : trim file = [] ∨ trim file = trim generated ∨ trim file ∈ (known.map String.toList).map trim
  · rw [if_pos hfile, if_pos (h.eq_nil_of_trim (by simpa using hfile))]
  · rw [if_neg hfile]
    cases ownLines (trim file) generated (known.map String.toList) with
    | nil => rfl
    | cons line more =>
      rw [if_neg (by simp), endedLines_cons, endedLines_eq_joinLines (by simp), ← List.cons_append, ← List.append_assoc]

/-- Own lines are never covered by the generated file, so they are appended to it as they are. -/
theorem combined_endedLines (h : ListsOwn file generated known own) (hne : own ≠ []) :
    combined generated (endedLines (migrationHeader :: own)) =
      trimEnd generated ++ '\n' :: endedLines (migrationHeader :: own) := by
  have huncovered : ¬ isCovered (trim (endedLines (migrationHeader :: own))) generated = true := by
    intro hcovered
    obtain ⟨line, hline⟩ := List.exists_mem_of_ne_nil own hne
    have hcovers := mem_of_isCovered_trim hcovered
      ((settingLines_endedLines h.isSettingLine_header_cons).symm ▸ List.mem_cons_of_mem _ hline)
    exact ((h.mem_iff line).1 hline).2.not_generated (List.mem_filter.1 hcovers).1
  unfold combined
  rw [if_neg huncovered, List.append_assoc, List.cons_append, trim_endedLines (by simp) h.isSettingLine_header_cons]

/-- The setting lines of a file with own lines after the generated ones. -/
theorem settingLines_moved (h : ListsOwn file generated known own) :
    settingLines (trimEnd generated ++ '\n' :: endedLines (migrationHeader :: own)) =
      settingLines generated ++ migrationHeader :: own := by
  rw [settingLines_append_feed, settingLines_trimEnd, settingLines_endedLines h.isSettingLine_header_cons]

end own

/-! ## Merging -/

section merge

variable {live fresh : ConfigMap} {known : List String} {own : List (List Char)}

theorem merge_of_overlay?_eq_none (h : overlay? (textAt live.data overlayKey) (textAt live.data baseKey)
      (textAt fresh.data baseKey) (known.map String.toList) = none) : merge live fresh known = fresh := by
  simp only [merge, mergeData, h]

/-- A merge that has an overlay to go on with writes it and the combined file, and no other key. -/
theorem value?_merge_of_overlay? {ov : List Char} (h : overlay? (textAt live.data overlayKey)
      (textAt live.data baseKey) (textAt fresh.data baseKey) (known.map String.toList) = some ov) :
    value? (merge live fresh known) overlayKey = some (String.ofList ov) ∧
      value? (merge live fresh known) baseKey = some (String.ofList (combined (textAt fresh.data baseKey) ov)) ∧
      ∀ key, key ≠ baseKey → key ≠ overlayKey → value? (merge live fresh known) key = value? fresh key := by
  have hdata : (merge live fresh known).data = some (((fresh.data.getD .empty).insert baseKey
      (String.ofList (combined (textAt fresh.data baseKey) ov))).insert overlayKey (String.ofList ov)) := by
    simp only [merge, mergeData, h]
  refine ⟨?_, ?_, fun key hbase hoverlay => ?_⟩
  · rw [value?, hdata]
    exact Dict.get?_insert_self ..
  · rw [value?, hdata, Option.bind_some, Dict.get?_insert_of_ne _ _ (by decide)]
    exact Dict.get?_insert_self ..
  · rw [value?, hdata, Option.bind_some, Dict.get?_insert_of_ne _ _ hoverlay, Dict.get?_insert_of_ne _ _ hbase, value?]
    cases fresh.data <;> rfl

theorem overlay?_of_noOverlay (hoverlay : NoOverlay live) (base generated : List Char) (known : List (List Char)) :
    overlay? (textAt live.data overlayKey) base generated known = migrated? base generated known :=
  if_neg (fun hne => hne (trim_textAt_of_forall (P := (· = [])) rfl hoverlay))

theorem merge_of_no_own (hoverlay : NoOverlay live)
    (h : ListsOwn (textAt live.data baseKey) (textAt fresh.data baseKey) known []) : merge live fresh known = fresh := by
  refine merge_of_overlay?_eq_none ?_
  rw [overlay?_of_noOverlay hoverlay, migrated?_of_listsOwn h, if_pos rfl]

/-- A merge moves own lines into a new overlay and appends this to the generated file. -/
theorem value?_merge_of_own (hoverlay : NoOverlay live)
    (h : ListsOwn (textAt live.data baseKey) (textAt fresh.data baseKey) known own) (hne : own ≠ []) :
    value? (merge live fresh known) overlayKey = some (String.ofList (endedLines (migrationHeader :: own))) ∧
      value? (merge live fresh known) baseKey =
        some (String.ofList (trimEnd (textAt fresh.data baseKey) ++ '\n' :: endedLines (migrationHeader :: own))) ∧
      ∀ key, key ≠ baseKey → key ≠ overlayKey → value? (merge live fresh known) key = value? fresh key := by
  rw [← combined_endedLines h hne]
  refine value?_merge_of_overlay? ?_
  rw [overlay?_of_noOverlay hoverlay, migrated?_of_listsOwn h, if_neg hne]

/-- Where there is no overlay, a merge leaves everything as it was generated if the live file is blank, is as some
release has generated it or has no line of its own. Otherwise it moves exactly the own lines, each once: they are the
lines of the new overlay after its header, and the setting lines of the file after the generated ones. -/
theorem migration_moves_own_lines (hoverlay : NoOverlay live)
    (hown : ListsOwn (textAt live.data baseKey) (textAt fresh.data baseKey) known own) :
    (trim (textAt live.data baseKey) = [] ∨ trim (textAt live.data baseKey) = trim (textAt fresh.data baseKey) ∨
        (∃ t ∈ known, trim t.toList = trim (textAt live.data baseKey)) ∨ own = [] →
      merge live fresh known = fresh) ∧
    (own ≠ [] → ∃ overlay merged,
      value? (merge live fresh known) overlayKey = some overlay ∧
      value? (merge live fresh known) baseKey = some merged ∧
      lines overlay.toList = migrationHeader :: own ∧
      settingLines merged.toList = settingLines (textAt fresh.data baseKey) ++ migrationHeader :: own ∧
      (∀ line ∈ own, (settingLines merged.toList).count line = 1) ∧
      ∀ key, key ≠ baseKey → key ≠ overlayKey → value? (merge live fresh known) key = value? fresh key) := by
  constructor
  · intro hcond
    have hnone : own = [] := by
      rcases hcond with hblank | hgenerated | hknown | hnone
      · exact hown.eq_nil_of_trim (.inl hblank)
      · exact hown.eq_nil_of_trim (.inr (.inl hgenerated))
      · exact hown.eq_nil_of_trim (.inr (.inr hknown))
      · exact hnone
    subst hnone
    exact merge_of_no_own hoverlay hown
  · intro hne
    obtain ⟨hkey, hfile, hrest⟩ := value?_merge_of_own hoverlay hown hne
    have hsettings := settingLines_moved hown
    refine ⟨_, _, hkey, hfile, ?_, ?_, fun line hline => ?_, hrest⟩
    · rw [String.toList_ofList, lines_endedLines hown.isSettingLine_header_cons]
    · rw [String.toList_ofList, hsettings]
    · have hline' := ((hown.mem_iff line).1 hline).2
      have hgenerated : line ∉ settingLines (textAt fresh.data baseKey) := fun h =>
        hline'.not_generated (List.mem_filter.1 h).1
      rw [String.toList_ofList, hsettings, List.count_append, List.count_eq_zero_of_not_mem hgenerated,
        List.count_cons_of_ne hline'.ne_header.symm, List.nodup_iff_count_eq_one.1 hown.nodup line hline]

/-- A live ConfigMap whose file was edited in place, with one line added twice, other line ends and a line of an earlier
release. -/
def patchedLive : ConfigMap :=
  { data := some (.ofList [(baseKey, "ssl = 'on'\r\n\twork_mem = '8MB'\r\n\r\nmax_connections = 100\nport = 5433\n" ++
      "work_mem = '8MB'  \n"), (overlayKey, " \n")]) }

/-- The two lines that no release has written are moved, in the order in which they occur first. -/
theorem migration_moves_own_lines_patchedLive :
    ∃ overlay merged, value? (merge patchedLive sampleRelease ["max_connections = 100\n"]) overlayKey = some overlay ∧
      value? (merge patchedLive sampleRelease ["max_connections = 100\n"]) baseKey = some merged ∧
      lines overlay.toList = [migrationHeader, "work_mem = '8MB'".toList, "port = 5433".toList] ∧
      settingLines merged.toList = ["ssl = 'on'".toList, "max_connections = 200".toList, migrationHeader,
        "work_mem = '8MB'".toList, "port = 5433".toList] := by
  have hoverlay : NoOverlay patchedLive := by decide +kernel
  have hown := listsOwn_ownLines (textAt patchedLive.data baseKey) (textAt sampleRelease.data baseKey)
    ["max_connections = 100\n"]
  have hlines : ownLines (trim (textAt patchedLive.data baseKey)) (textAt sampleRelease.data baseKey)
      (["max_connections = 100\n"].map String.toList) = ["work_mem = '8MB'".toList, "port = 5433".toList] := by
    decide +kernel
  have hgenerated : settingLines (textAt sampleRelease.data baseKey) =
      ["ssl = 'on'".toList, "max_connections = 200".toList] := by decide +kernel
  rw [hlines] at hown
  obtain ⟨overlay, merged, hkey, hfile, hoverlayLines, hsettings, -, -⟩ :=
    (migration_moves_own_lines hoverlay hown).2 (by simp)
  exact ⟨overlay, merged, hkey, hfile, hoverlayLines, by rw [hsettings, hgenerated]; rfl⟩

end merge

end DatabaseConfig

end HubSearch
