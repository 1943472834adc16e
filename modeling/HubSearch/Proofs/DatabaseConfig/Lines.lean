/-
The lines of a text, and a file's setting lines: those that are not blank, without the blanks around them. A file's
setting lines do not depend on the blanks at its ends (`settingLines_trim`), a line feed between two texts separates
their setting lines (`settingLines_append_feed`), and lines that are written one after the other are read again as
they are (`settingLines_endedLines`).
-/
import Mathlib.Data.List.DropRight
import HubSearch.Proofs.DatabaseConfig

namespace HubSearch

/-! ## Blanks at the ends of a text -/

theorem trimEnd_concat_of_isBlank {c : Char} (hc : isBlank c = true) (cs : List Char) :
    trimEnd (cs ++ [c]) = trimEnd cs :=
  List.rdropWhile_concat_pos isBlank cs c hc

theorem trimEnd_concat_of_not_isBlank {c : Char} (hc : isBlank c = false) (cs : List Char) :
    trimEnd (cs ++ [c]) = cs ++ [c] :=
  List.rdropWhile_concat_neg isBlank cs c (by simp [hc])

/-- What is dropped at the end of a text does not depend on what stands before it. -/
theorem trimEnd_cons_trimEnd (c : Char) (cs : List Char) : trimEnd (c :: trimEnd cs) = trimEnd (c :: cs) := by
  induction cs using List.reverseRecOn with
  | nil => rfl
  | append_singleton cs d ih =>
    cases hd : isBlank d with
    | true => rw [trimEnd_concat_of_isBlank hd, ih, ← List.cons_append, trimEnd_concat_of_isBlank hd]
    | false => rw [trimEnd_concat_of_not_isBlank hd]

theorem trim_cons_of_isBlank {c : Char} (hc : isBlank c = true) (cs : List Char) : trim (c :: cs) = trim cs := by
  rw [trim, trimStart, List.dropWhile_cons, if_pos hc]
  rfl

theorem trim_concat_of_isBlank {c : Char} (hc : isBlank c = true) (cs : List Char) : trim (cs ++ [c]) = trim cs := by
  unfold trim trimStart
  rw [List.dropWhile_append]
  split
  · rename_i hempty
    rw [List.isEmpty_iff.1 hempty, List.dropWhile_cons, if_pos hc]
    rfl
  · exact trimEnd_concat_of_isBlank hc _

theorem trim_trimEnd (cs : List Char) : trim (trimEnd cs) = trim cs := by
  induction cs using List.reverseRecOn with
  | nil => rfl
  | append_singleton cs c ih =>
    cases hc : isBlank c with
    | true => rw [trimEnd_concat_of_isBlank hc, trim_concat_of_isBlank hc, ih]
    | false => rw [trimEnd_concat_of_not_isBlank hc]

theorem trim_sublist (cs : List Char) : (trim cs).Sublist cs := by
  have hend : (trimEnd (trimStart cs)).Sublist (trimStart cs) := by
    simpa [trimEnd] using (List.dropWhile_sublist isBlank (l := (trimStart cs).reverse)).reverse
  exact hend.trans (List.dropWhile_sublist isBlank)

theorem trim_trim (cs : List Char) : trim (trim cs) = trim cs := by
  calc trim (trim cs) = trim (trimStart cs) := trim_trimEnd _
    _ = trim cs := by simp [trim, trimStart, List.dropWhile_idempotent]

theorem not_isBlank_head {c : Char} {rest : List Char} (h : trim (c :: rest) = c :: rest) : isBlank c = false := by
  by_contra hc
  rw [trim_cons_of_isBlank (by simpa using hc)] at h
  have hlength := (trim_sublist rest).length_le
  rw [h, List.length_cons] at hlength
  omega

theorem not_isBlank_last {c : Char} {init : List Char} (h : trim (init ++ [c]) = init ++ [c]) : isBlank c = false := by
  by_contra hc
  rw [trim_concat_of_isBlank (by simpa using hc)] at h
  have hlength := (trim_sublist init).length_le
  rw [h, List.length_append, List.length_singleton] at hlength
  omega

/-! ## Lines of a text without the blanks at its ends -/

/-- Lines with one more character before the first. -/
def consLine (c : Char) : List (List Char) → List (List Char)
  | [] => [[c]]
  | line :: more => (c :: line) :: more

theorem lines_cons {c : Char} {cs : List Char} (hfeed : c ≠ '\n') (hreturn : c = '\r' → cs.head? ≠ some '\n') :
    lines (c :: cs) = consLine c (lines cs) := by
  rw [lines]
  · cases lines cs <;> rfl
  · exact hfeed
  · rintro rest rfl rfl
    exact hreturn rfl rfl

theorem map_trimEnd_consLine (c : Char) (ls : List (List Char)) :
    (consLine c ls).map trimEnd = (consLine c (ls.map trimEnd)).map trimEnd := by
  cases ls with
  | nil => rfl
  | cons line more =>
    have hmore : (more.map trimEnd).map trimEnd = more.map trimEnd := by
      rw [List.map_map]
      exact List.map_congr_left fun line _ => List.rdropWhile_idempotent isBlank line
    simp only [consLine, List.map_cons, trimEnd_cons_trimEnd, hmore]

/-- A blank after a text changes no line but for blanks at its end; it may be a line of its own. -/
theorem map_trimEnd_lines_concat {c : Char} (hc : isBlank c = true) :
    ∀ cs, (lines (cs ++ [c])).map trimEnd = (lines cs).map trimEnd ∨
      (lines (cs ++ [c])).map trimEnd = (lines cs).map trimEnd ++ [[]]
  | [] => by
    right
    by_cases hfeed : c = '\n'
    · subst hfeed
      rfl
    · rw [List.nil_append, lines_cons hfeed (by simp)]
      exact congrArg (fun line => [line]) (trimEnd_concat_of_isBlank hc [])
  | d :: cs => by
    by_cases hfeed : d = '\n'
    · subst hfeed
      simpa [lines] using map_trimEnd_lines_concat hc cs
    by_cases hreturn : d = '\r' ∧ (cs ++ [c]).head? = some '\n'
    · obtain ⟨rfl, hhead⟩ := hreturn
      cases cs with
      | nil =>
        left
        obtain rfl := Option.some.inj hhead
        rfl
      | cons e cs =>
        obtain rfl : e = '\n' := Option.some.inj hhead
        simpa [lines] using map_trimEnd_lines_concat hc cs
    · have hcs : d = '\r' → cs.head? ≠ some '\n' := by
        rintro hd hhead
        exact hreturn ⟨hd, by rw [List.head?_append, hhead]; rfl⟩
      rw [List.cons_append, lines_cons hfeed (fun hd hhead => hreturn ⟨hd, hhead⟩), lines_cons hfeed hcs,
        map_trimEnd_consLine, map_trimEnd_consLine d (lines cs)]
      rcases map_trimEnd_lines_concat hc cs with ih | ih
      · left
        rw [ih]
      · rw [ih]
        cases (lines cs).map trimEnd with
        | nil => exact .inl rfl
        | cons line more => exact .inr (by simp [consLine, trimEnd])

/-! ## Lines one after the other -/

theorem not_mem_of_mem_lines (cs : List Char) : ∀ line ∈ lines cs, '\n' ∉ line := by
  fun_induction lines cs with
  | case1 => simp
  | case2 rest ih => simpa using ih
  | case3 rest ih => simpa using ih
  | case4 c rest hfeed hreturn hrest =>
    have hc : c ≠ '\n' := by rintro rfl; exact hfeed rfl
    simp [hc.symm]
  | case5 c rest hfeed hreturn line more hrest ih =>
    have hc : c ≠ '\n' := by rintro rfl; exact hfeed rfl
    rw [hrest] at ih
    simpa [hc.symm] using ih

theorem lines_eq_nil_iff {cs : List Char} : lines cs = [] ↔ cs = [] := by
  fun_cases lines cs <;> simp

theorem consLine_append (c : Char) {ls : List (List Char)} (hne : ls ≠ []) (more : List (List Char)) :
    consLine c (ls ++ more) = consLine c ls ++ more := by
  cases ls with
  | nil => exact absurd rfl hne
  | cons line ls => rfl

/-- A line feed ends a line, whatever comes after it. -/
theorem lines_append_feed (b : List Char) : ∀ a, lines (a ++ '\n' :: b) = lines (a ++ ['\n']) ++ lines b
  | [] => rfl
  | c :: a => by
    have hhead : (a ++ '\n' :: b).head? = (a ++ ['\n']).head? := by cases a <;> rfl
    by_cases hfeed : c = '\n'
    · subst hfeed
      simpa [lines] using lines_append_feed b a
    -- a carriage return right before the line feed goes with it, on both sides
    by_cases hreturn : c = '\r' ∧ (a ++ ['\n']).head? = some '\n'
    · obtain ⟨rfl, hnext⟩ := hreturn
      cases a with
      | nil => rfl
      | cons d a =>
        obtain rfl : d = '\n' := Option.some.inj hnext
        simpa [lines] using lines_append_feed b a
    · have hne : lines (a ++ ['\n']) ≠ [] := by simp [lines_eq_nil_iff]
      rw [List.cons_append, List.cons_append, lines_cons hfeed (fun hc h => hreturn ⟨hc, hhead ▸ h⟩),
        lines_cons hfeed (fun hc h => hreturn ⟨hc, h⟩), lines_append_feed b a, consLine_append c hne]

/-- Lines, each ended by a line feed. -/
def endedLines (ls : List (List Char)) : List Char := ls.flatMap (· ++ ['\n'])

theorem endedLines_cons (line : List Char) (ls : List (List Char)) :
    endedLines (line :: ls) = line ++ '\n' :: endedLines ls := by
  simp [endedLines]

theorem endedLines_concat (ls : List (List Char)) (line : List Char) :
    endedLines (ls ++ [line]) = endedLines ls ++ line ++ ['\n'] := by
  simp [endedLines]

theorem endedLines_eq_joinLines {ls : List (List Char)} (hne : ls ≠ []) : endedLines ls = joinLines ls ++ ['\n'] := by
  induction ls with
  | nil => exact absurd rfl hne
  | cons line ls ih =>
    cases ls with
    | nil => simp [endedLines, joinLines]
    | cons next ls =>
      have hjoin : joinLines (line :: next :: ls) = line ++ '\n' :: joinLines (next :: ls) := by
        simp [joinLines, List.intercalate]
      rw [endedLines_cons, ih (by simp), hjoin]
      simp

/-- A line as it stands in a file that has no blank lines and no blanks around its lines. -/
structure IsSettingLine (line : List Char) : Prop where
  ne_nil : line ≠ []
  trim_eq : trim line = line
  no_feed : '\n' ∉ line

namespace IsSettingLine

variable {line : List Char}

theorem exists_cons (h : IsSettingLine line) : ∃ c rest, isBlank c = false ∧ line = c :: rest := by
  obtain ⟨c, rest, rfl⟩ := List.exists_cons_of_ne_nil h.ne_nil
  exact ⟨c, rest, not_isBlank_head h.trim_eq, rfl⟩

theorem exists_concat (h : IsSettingLine line) : ∃ init c, isBlank c = false ∧ line = init ++ [c] := by
  obtain ⟨init, c, rfl⟩ := (List.eq_nil_or_concat' line).resolve_left h.ne_nil
  exact ⟨init, c, not_isBlank_last h.trim_eq, rfl⟩

end IsSettingLine

/-- A line that has no line feed and does not end in a carriage return is read as it was written. -/
theorem lines_append_of_not_mem {line : List Char} (hfeed : '\n' ∉ line) (hreturn : line.getLast? ≠ some '\r')
    (rest : List Char) : lines (line ++ '\n' :: rest) = line :: lines rest := by
  induction line with
  | nil => rfl
  | cons c line ih =>
    obtain ⟨hc, hline⟩ : '\n' ≠ c ∧ '\n' ∉ line := by simpa using hfeed
    have hlast : line.getLast? ≠ some '\r' := by
      intro h
      exact hreturn (by rw [List.getLast?_cons, h]; rfl)
    rw [List.cons_append, lines_cons hc.symm, ih hline hlast]
    · rfl
    · rintro rfl
      cases line with
      | nil => exact absurd rfl hreturn
      | cons d line =>
        intro hd
        obtain rfl : d = '\n' := Option.some.inj hd
        exact hline List.mem_cons_self

theorem lines_endedLines {ls : List (List Char)} (h : ∀ line ∈ ls, IsSettingLine line) : lines (endedLines ls) = ls := by
  induction ls with
  | nil => rfl
  | cons line ls ih =>
    obtain ⟨hline, hls⟩ := List.forall_mem_cons.1 h
    have hreturn : line.getLast? ≠ some '\r' := by
      obtain ⟨init, c, hc, rfl⟩ := hline.exists_concat
      rw [List.getLast?_concat]
      rintro ⟨⟩
      exact absurd hc (by decide)
    rw [endedLines_cons, lines_append_of_not_mem hline.no_feed hreturn, ih hls]

/-- Only the last line feed stands at an end of lines that are not blank. -/
theorem trim_endedLines {ls : List (List Char)} (hne : ls ≠ []) (h : ∀ line ∈ ls, IsSettingLine line) :
    trim (endedLines ls) ++ ['\n'] = endedLines ls := by
  have hstart : trimStart (endedLines ls) = endedLines ls := by
    obtain ⟨line, more, rfl⟩ := List.exists_cons_of_ne_nil hne
    obtain ⟨c, rest, hc, rfl⟩ := (h line List.mem_cons_self).exists_cons
    rw [endedLines_cons, List.cons_append, trimStart, List.dropWhile_cons, if_neg (by simp [hc])]
  obtain ⟨init, line, rfl⟩ := (List.eq_nil_or_concat' ls).resolve_left hne
  obtain ⟨start, c, hc, rfl⟩ := (h line (by simp)).exists_concat
  rw [trim, hstart, endedLines_concat, trimEnd_concat_of_isBlank (by decide), ← List.append_assoc,
    trimEnd_concat_of_not_isBlank hc]

namespace DatabaseConfig

theorem settingLines_eq (file : List Char) :
    settingLines file = (((lines file).map trimEnd).map trim).filter (· ≠ []) := by
  rw [List.map_map]
  exact congrArg _ (List.map_congr_left fun line _ => (trim_trimEnd line).symm)

theorem settingLines_concat {c : Char} (hc : isBlank c = true) (file : List Char) :
    settingLines (file ++ [c]) = settingLines file := by
  rw [settingLines_eq, settingLines_eq]
  rcases map_trimEnd_lines_concat hc file with h | h
  · rw [h]
  · rw [h, List.map_append, List.filter_append]
    exact List.append_nil _

theorem settingLines_trimEnd (file : List Char) : settingLines (trimEnd file) = settingLines file := by
  induction file using List.reverseRecOn with
  | nil => rfl
  | append_singleton file c ih =>
    cases hc : isBlank c with
    | true => rw [trimEnd_concat_of_isBlank hc, ih, settingLines_concat hc]
    | false => rw [trimEnd_concat_of_not_isBlank hc]

/-- A blank before a text belongs to its first line or is a line of its own. -/
theorem settingLines_cons {c : Char} (hc : isBlank c = true) (file : List Char) :
    settingLines (c :: file) = settingLines file := by
  by_cases hfeed : c = '\n'
  · subst hfeed
    rfl
  by_cases hreturn : c = '\r' ∧ file.head? = some '\n'
  · obtain ⟨rfl, hhead⟩ := hreturn
    obtain ⟨rest, rfl⟩ := List.head?_eq_some_iff.1 hhead
    rfl
  · unfold settingLines trimmedLines
    rw [lines_cons hfeed (fun h hhead => hreturn ⟨h, hhead⟩)]
    cases lines file with
    | nil =>
      have hline : trim [c] = [] := trim_cons_of_isBlank hc []
      simp [consLine, hline]
    | cons line more => simp only [consLine, List.map_cons, trim_cons_of_isBlank hc]

theorem settingLines_trimStart (file : List Char) : settingLines (trimStart file) = settingLines file := by
  induction file with
  | nil => rfl
  | cons c file ih =>
    unfold trimStart
    rw [List.dropWhile_cons]
    split
    · rename_i hc
      rw [settingLines_cons hc]
      exact ih
    · rfl

/-- The setting lines of a text are those of the text without the blanks at its ends. -/
theorem settingLines_trim (file : List Char) : settingLines (trim file) = settingLines file :=
  (settingLines_trimEnd _).trans (settingLines_trimStart file)

theorem isSettingLine_of_mem {file line : List Char} (h : line ∈ settingLines file) : IsSettingLine line := by
  obtain ⟨hline, hne⟩ := List.mem_filter.1 h
  obtain ⟨l, hl, rfl⟩ := List.mem_map.1 hline
  exact ⟨by simpa using hne, trim_trim l, fun hfeed => not_mem_of_mem_lines file l hl ((trim_sublist l).subset hfeed)⟩

theorem settingLines_append_feed (a b : List Char) :
    settingLines (a ++ '\n' :: b) = settingLines a ++ settingLines b := by
  calc settingLines (a ++ '\n' :: b) = settingLines (a ++ ['\n']) ++ settingLines b := by
        rw [settingLines, trimmedLines, lines_append_feed, List.map_append, List.filter_append]
        rfl
    _ = settingLines a ++ settingLines b := by rw [settingLines_concat (by decide)]

theorem settingLines_endedLines {ls : List (List Char)} (h : ∀ line ∈ ls, IsSettingLine line) :
    settingLines (endedLines ls) = ls := by
  have hmap : ls.map trim = ls := by
    simpa using List.map_congr_left fun line hline => (h line hline).trim_eq
  rw [settingLines, trimmedLines, lines_endedLines h, hmap]
  exact List.filter_eq_self.2 fun line hline => by simpa using (h line hline).ne_nil

/-- The setting lines of a file with an overlay after it. -/
theorem settingLines_append_trim (file overlay : List Char) :
    settingLines (trimEnd file ++ '\n' :: trim overlay ++ ['\n']) = settingLines file ++ settingLines overlay := by
  rw [List.append_assoc, List.cons_append, settingLines_append_feed, settingLines_trimEnd,
    settingLines_concat (by decide), settingLines_trim]

theorem mem_of_isCovered_trim {overlay generated line : List Char} (h : isCovered (trim overlay) generated = true)
    (hline : line ∈ settingLines overlay) : line ∈ settingLines generated := by
  unfold isCovered at h
  rw [settingLines_trim] at h
  exact List.mem_filter.2 ⟨List.contains_iff_mem.1 (List.all_eq_true.1 h line hline), (List.mem_filter.1 hline).2⟩

theorem isCovered_trim_iff {overlay generated : List Char} :
    isCovered (trim overlay) generated = true ↔
      ∀ line ∈ lines overlay, trim line ≠ [] → ∃ l ∈ lines generated, trim l = trim line := by
  unfold isCovered
  rw [settingLines_trim, List.all_eq_true]
  simp only [settingLines, trimmedLines, List.mem_filter, List.mem_map, List.contains_iff_mem, decide_eq_true_eq]
  constructor
  · intro h line hline hne
    exact h _ ⟨⟨line, hline, rfl⟩, hne⟩
  · rintro h _ ⟨⟨line, hline, rfl⟩, hne⟩
    exact h line hline hne

end DatabaseConfig

end HubSearch
