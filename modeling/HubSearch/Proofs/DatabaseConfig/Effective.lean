/-
The settings that a file makes. A line sets the name before its first equals sign unless it is a comment, and of the
lines for one name the last counts. An overlay always wins over the generated file: `overlay_wins`. Own lines that are
moved out of an edited file keep the order of their first occurrence, so of the own lines for a name the one whose first
occurrence comes last counts afterwards, whichever counted before: `migration_keeps_iff`.
-/
import Mathlib.Data.List.Pairwise
import HubSearch.Proofs.DatabaseConfig.Migration

namespace HubSearch.DatabaseConfig

/-! ## The line that counts -/

/-- The name that a line sets: the text before its first equals sign. A comment and a line without one set none. -/
def settingName? (line : List Char) : Option (List Char) :=
  if line.head? = some '#' ∨ '=' ∉ line then none else some (trim (line.takeWhile (· ≠ '=')))

/-- The line of a file that counts for a name: the last that sets it. -/
def effective? (name file : List Char) : Option (List Char) :=
  ((trimmedLines file).filter fun line => settingName? line = some name).getLast?

/-- No name is set by two lines of a file. -/
def SetsOnce (file : List Char) : Prop := ((trimmedLines file).filterMap settingName?).Nodup

instance (file : List Char) : Decidable (SetsOnce file) :=
  inferInstanceAs (Decidable ((trimmedLines file).filterMap settingName?).Nodup)

variable {name file line : List Char}

theorem settingName?_migrationHeader : settingName? migrationHeader = none := by decide +kernel

/-- Blank lines set nothing. -/
theorem effective?_eq (name file : List Char) :
    effective? name file = ((settingLines file).filter fun line => settingName? line = some name).getLast? := by
  have hblank : ∀ line, (decide (settingName? line = some name) && decide (line ≠ [])) =
      decide (settingName? line = some name) := by
    intro line
    cases line with
    | nil => simp [settingName?]
    | cons c line => simp
  rw [effective?, settingLines, List.filter_filter]
  simp only [hblank]

theorem mem_of_effective? (h : effective? name file = some line) :
    line ∈ settingLines file ∧ settingName? line = some name := by
  rw [effective?_eq] at h
  simpa using List.mem_filter.1 (List.mem_of_getLast? h)

/-- A name that some line sets has a line that counts. -/
theorem exists_effective? (hline : line ∈ trimmedLines file) (hname : settingName? line = some name) :
    ∃ counted, effective? name file = some counted := by
  refine Option.ne_none_iff_exists'.1 fun hnone => ?_
  have hnil := List.getLast?_eq_none_iff.1 hnone
  exact List.not_mem_nil (hnil ▸ List.mem_filter.2 ⟨hline, by simpa using hname⟩)

theorem effective?_of_append {a b : List Char} (h : settingLines file = settingLines a ++ settingLines b) :
    effective? name file = (effective? name b).or (effective? name a) := by
  rw [effective?_eq, effective?_eq, effective?_eq, h, List.filter_append, List.getLast?_append]

theorem eq_of_setsOnce (honce : SetsOnce file) {a b : List Char} (ha : a ∈ trimmedLines file)
    (hb : b ∈ trimmedLines file) (hna : settingName? a = some name) (hnb : settingName? b = some name) : a = b := by
  have hsymm : Std.Symm fun a b : List Char =>
      ∀ x, settingName? a = some x → ∀ y, settingName? b = some y → x ≠ y :=
    ⟨fun _ _ h y hy x hx => (h x hx y hy).symm⟩
  have hapart := List.pairwise_filterMap.1 honce
  by_contra hne
  exact hapart.forall ha hb hne name hna name hnb rfl

/-- Where no name is set twice, the line that sets a name counts for it. -/
theorem effective?_of_setsOnce (honce : SetsOnce file) (hline : line ∈ trimmedLines file)
    (hname : settingName? line = some name) : effective? name file = some line := by
  obtain ⟨counted, hcounted⟩ := exists_effective? hline hname
  obtain ⟨hmem, hcname⟩ := mem_of_effective? hcounted
  rw [hcounted, eq_of_setsOnce honce (List.mem_filter.1 hmem).1 hline hcname hname]

/-! ## Overlays -/

section overlay

variable {live fresh : ConfigMap} {overlay : String}

/-- The combined file sets what the overlay sets, and else what the generated file sets. -/
theorem effective?_combined {generated : List Char} (honce : SetsOnce generated) (overlay : List Char) :
    effective? name (combined generated overlay) = (effective? name overlay).or (effective? name generated) := by
  unfold combined
  dsimp only
  split
  · rename_i hcovered
    -- each line of the overlay is the line of the generated file for its name
    cases hover : effective? name overlay with
    | none => rfl
    | some line =>
      obtain ⟨hline, hname⟩ := mem_of_effective? hover
      exact effective?_of_setsOnce honce (List.mem_filter.1 (mem_of_isCovered_trim hcovered hline)).1 hname
  · exact effective?_of_append (settingLines_append_trim generated overlay)

/-- Where a generated file sets no name twice, a merge over a set overlay makes exactly the settings of the overlay and,
for all other names, those of the generated file. -/
theorem overlay_wins (known : List String) (hoverlay : value? live overlayKey = some overlay)
    (hset : trim overlay.toList ≠ []) (honce : SetsOnce (textAt fresh.data baseKey)) :
    ∃ merged, value? (merge live fresh known) baseKey = some merged ∧
      ∀ name, effective? name merged.toList =
        (effective? name overlay.toList).or (effective? name (textAt fresh.data baseKey)) := by
  have hkept : overlay? (textAt live.data overlayKey) (textAt live.data baseKey) (textAt fresh.data baseKey)
      (known.map String.toList) = some overlay.toList := by
    rw [textAt_of_value? hoverlay]
    exact overlay?_self hset
  refine ⟨_, (value?_merge_of_overlay? hkept).2.1, fun name => ?_⟩
  rw [String.toList_ofList]
  exact effective?_combined honce overlay.toList

/-- An overlay that sets one name twice, with other line ends, and that begins like a generated line. -/
def reassignedLive : ConfigMap :=
  { data := some (.ofList [(overlayKey, "max_connections = 20\r\n\tport=5433\r\nmax_connections = 300\r\n")]) }

/-- Its last line for the name counts, and a name that it does not set is as generated. -/
theorem overlay_wins_reassignedLive :
    ∃ merged, value? (merge reassignedLive sampleRelease []) baseKey = some merged ∧
      effective? "max_connections".toList merged.toList = some "max_connections = 300".toList ∧
      effective? "port".toList merged.toList = some "port=5433".toList ∧
      effective? "ssl".toList merged.toList = some "ssl = 'on'".toList ∧
      effective? "work_mem".toList merged.toList = none := by
  have honce : SetsOnce (textAt sampleRelease.data baseKey) := by decide +kernel
  have hoverlay : value? reassignedLive overlayKey =
      some "max_connections = 20\r\n\tport=5433\r\nmax_connections = 300\r\n" := by decide +kernel
  obtain ⟨merged, hmerged, heffective⟩ := overlay_wins [] hoverlay (by decide +kernel) honce
  refine ⟨merged, hmerged, ?_, ?_, ?_, ?_⟩ <;> rw [heffective] <;> decide +kernel

end overlay

/-! ## Moved lines -/

/-- Of the own lines of a file for one name, the one whose first occurrence comes last. -/
structure LatestOwn (file generated : List Char) (known : List String) (name line : List Char) : Prop where
  mem : line ∈ settingLines file
  own : IsOwn generated known line
  sets : settingName? line = some name
  latest : ∀ other ∈ settingLines file, IsOwn generated known other → settingName? other = some name →
    (settingLines file).idxOf other ≤ (settingLines file).idxOf line

section moved

variable {live fresh : ConfigMap} {known : List String} {generated merged : List Char} {own : List (List Char)}

theorem LatestOwn.unique {other : List Char} (h : LatestOwn file generated known name line)
    (h' : LatestOwn file generated known name other) : line = other :=
  (List.idxOf_inj h.mem).1 (Nat.le_antisymm (h'.latest line h.mem h.own h.sets) (h.latest other h'.mem h'.own h'.sets))

/-- The last of the listed own lines for a name is the latest. -/
theorem ListsOwn.latestOwn (h : ListsOwn file generated known own)
    (hlast : (own.filter fun line => settingName? line = some name).getLast? = some line) :
    LatestOwn file generated known name line := by
  obtain ⟨hline, hsets⟩ := List.mem_filter.1 (List.mem_of_getLast? hlast)
  obtain ⟨hfile, hown⟩ := (h.mem_iff line).1 hline
  refine ⟨hfile, hown, by simpa using hsets, fun other hother hotherOwn hotherSets => ?_⟩
  obtain ⟨init, hinit⟩ := List.getLast?_eq_some_iff.1 hlast
  have hordered := h.ordered.filter fun line => decide (settingName? line = some name)
  rw [hinit] at hordered
  have hmem : other ∈ own.filter fun line => decide (settingName? line = some name) :=
    List.mem_filter.2 ⟨(h.mem_iff other).2 ⟨hother, hotherOwn⟩, by simpa using hotherSets⟩
  rw [hinit] at hmem
  rcases List.mem_append.1 hmem with hearlier | hself
  · exact Nat.le_of_lt ((List.pairwise_append.1 hordered).2.2 other hearlier line List.mem_cons_self)
  · rw [List.mem_singleton.1 hself]

/-- In a file with own lines after the generated ones, the latest own line for a name counts. -/
theorem effective?_of_moved (h : ListsOwn file generated known own)
    (hmerged : settingLines merged = settingLines generated ++ migrationHeader :: own) (hline : line ∈ own)
    (hname : settingName? line = some name) :
    ∃ counted, effective? name merged = some counted ∧ LatestOwn file generated known name counted := by
  have hne : own.filter (fun line => settingName? line = some name) ≠ [] :=
    List.ne_nil_of_mem (List.mem_filter.2 ⟨hline, by simpa using hname⟩)
  obtain ⟨counted, hlast⟩ := Option.ne_none_iff_exists'.1 (mt List.getLast?_eq_none_iff.1 hne)
  refine ⟨counted, ?_, h.latestOwn hlast⟩
  have hheader : (migrationHeader :: own).filter (fun line => settingName? line = some name) =
      own.filter fun line => settingName? line = some name :=
    List.filter_cons_of_neg (by simp [settingName?_migrationHeader])
  rw [effective?_eq, hmerged, List.filter_append, hheader, List.getLast?_append, hlast]
  rfl

/-- Where there is no overlay, let the line that counts for a name in the live file be one that no release has written.
After a merge an own line for this name counts, namely the latest. So the line that has counted still counts exactly if
no other own line for its name occurs first later than it does. -/
theorem migration_keeps_iff (hoverlay : NoOverlay live)
    (heffective : effective? name (textAt live.data baseKey) = some line)
    (hgenerated : line ∉ trimmedLines (textAt fresh.data baseKey)) (hknown : ∀ t ∈ known, line ∉ trimmedLines t.toList) :
    ∃ merged, value? (merge live fresh known) baseKey = some merged ∧
      (∃ counted, effective? name merged.toList = some counted ∧
        LatestOwn (textAt live.data baseKey) (textAt fresh.data baseKey) known name counted) ∧
      (effective? name merged.toList = some line ↔
        LatestOwn (textAt live.data baseKey) (textAt fresh.data baseKey) known name line) := by
  obtain ⟨hmem, hname⟩ := mem_of_effective? heffective
  have hown := listsOwn_ownLines (textAt live.data baseKey) (textAt fresh.data baseKey) known
  have hheader : line ≠ migrationHeader := by
    rintro rfl
    rw [settingName?_migrationHeader] at hname
    cases hname
  -- the line is an own one, so there is something to move
  have hline := (hown.mem_iff line).2 ⟨hmem, hheader, hgenerated, hknown⟩
  obtain ⟨-, hfile, -⟩ := value?_merge_of_own hoverlay hown (List.ne_nil_of_mem hline)
  obtain ⟨counted, hcounted, hlatest⟩ := effective?_of_moved hown (settingLines_moved hown) hline hname
  refine ⟨_, hfile, ⟨counted, by rwa [String.toList_ofList], hlatest⟩, ?_⟩
  rw [String.toList_ofList, hcounted, Option.some.injEq]
  exact ⟨fun h => h ▸ hlatest, hlatest.unique⟩

/-- A live file in which the user has set the memory, has changed it and has changed it back. -/
def revertedLive : ConfigMap :=
  { data := some (.ofList [(baseKey,
      "ssl = 'on'\nwork_mem = '8MB'\nwork_mem = '64MB'\nport = 5433\nwork_mem = '8MB'\n")]) }

/-- The memory that was set in between counts after the merge, as it occurs first later; the port still counts. -/
theorem migration_keeps_iff_revertedLive :
    ∃ merged, value? (merge revertedLive sampleRelease []) baseKey = some merged ∧
      effective? "port".toList merged.toList = some "port = 5433".toList ∧
      effective? "work_mem".toList merged.toList ≠ some "work_mem = '8MB'".toList := by
  have hoverlay : NoOverlay revertedLive := by decide +kernel
  have hmemoryCounts : effective? "work_mem".toList (textAt revertedLive.data baseKey) =
      some "work_mem = '8MB'".toList := by decide +kernel
  have hmemoryOwn : "work_mem = '8MB'".toList ∉ trimmedLines (textAt sampleRelease.data baseKey) := by decide +kernel
  have hportCounts : effective? "port".toList (textAt revertedLive.data baseKey) = some "port = 5433".toList := by
    decide +kernel
  have hportOwn : "port = 5433".toList ∉ trimmedLines (textAt sampleRelease.data baseKey) := by decide +kernel
  obtain ⟨merged, hmerged, -, hmemory⟩ := migration_keeps_iff hoverlay hmemoryCounts hmemoryOwn (List.forall_mem_nil _)
  obtain ⟨merged', hmerged', -, hport⟩ := migration_keeps_iff hoverlay hportCounts hportOwn (List.forall_mem_nil _)
  obtain rfl := Option.some.inj (hmerged.symm.trans hmerged')
  refine ⟨merged, hmerged, hport.2 ?_, fun heffective => ?_⟩
  · have honly : ∀ other ∈ settingLines (textAt revertedLive.data baseKey),
        settingName? other = some "port".toList → other = "port = 5433".toList := by decide +kernel
    exact ⟨by decide +kernel, ⟨by decide +kernel, by decide +kernel, by simp⟩, by decide +kernel,
      fun other hother _ hsets => by rw [honly other hother hsets]⟩
  · have hlater := (hmemory.1 heffective).latest "work_mem = '64MB'".toList (by decide +kernel)
      ⟨by decide +kernel, by decide +kernel, by simp⟩ (by decide +kernel)
    exact absurd hlater (by decide +kernel)

/-- A merge can change a setting: the memory that counts in the live file is 8MB, and this line is in no known file and
not in the generated one, but 64MB counts in the merged file. -/
theorem migration_revives_earlier_line :
    value? revertedLive overlayKey = none ∧
      effective? "work_mem".toList (textAt revertedLive.data baseKey) = some "work_mem = '8MB'".toList ∧
      "work_mem = '8MB'".toList ∉ trimmedLines (textAt sampleRelease.data baseKey) ∧
      effective? "work_mem".toList (textAt (merge revertedLive sampleRelease []).data baseKey) =
        some "work_mem = '64MB'".toList := by
  decide +kernel

end moved

end HubSearch.DatabaseConfig
