import Mathlib.Data.List.TakeWhile
import Mathlib.Data.String.Basic
import ZeroShot.FileTree

/-! Where paths lead.

The steps of a path that lead nowhere have no say in what is found under a name at its end, so two
paths that agree in the others are the same directory. The parent of a path has all of those but the
last, however the path is spelled. -/

namespace ZeroShot

namespace FileTree

abbrev IsProper (step : String) : Prop := step ≠ "" ∧ step ≠ "."

def properPieces (chars : List Char) : List String :=
  ((Text.splitAt '/' chars).map String.ofList).filter (IsProper ·)

theorem properSteps_eq (path : String) : properSteps path = properPieces path.toList := rfl

theorem properPieces_append_separator (chars rest : List Char) :
    properPieces (chars ++ '/' :: rest) = properPieces chars ++ properPieces rest := by
  simp [properPieces, Text.splitAt_append_separator]

theorem isProper_ofList {chars : List Char} :
    IsProper (String.ofList chars) ↔ chars ≠ [] ∧ chars ≠ ['.'] := by
  rw [IsProper, ne_eq, ne_eq, String.ofList_eq, String.ofList_eq]
  rfl

theorem properPieces_of_notMem {chars : List Char} (h : '/' ∉ chars) :
    properPieces chars = if IsProper (String.ofList chars) then [String.ofList chars] else [] := by
  rw [properPieces, Text.splitAt_of_notMem h, List.map_singleton]
  by_cases hproper : IsProper (String.ofList chars)
  · rw [if_pos hproper, List.filter_cons_of_pos (by simpa [IsProper] using hproper)]
    rfl
  · rw [if_neg hproper, List.filter_cons_of_neg (by simpa [IsProper] using hproper)]
    rfl

theorem properPieces_reverse_append_separator (piece reversed : List Char) :
    properPieces (piece ++ '/' :: reversed).reverse =
      properPieces reversed.reverse ++ properPieces piece.reverse := by
  simp [properPieces_append_separator]

theorem properPieces_reverse_cons_separator (reversed : List Char) :
    properPieces ('/' :: reversed).reverse = properPieces reversed.reverse :=
  (properPieces_reverse_append_separator [] reversed).trans (List.append_nil _)

end FileTree

namespace Path

open FileTree

theorem dropWhile_append_separator {piece : List Char} (h : '/' ∉ piece) (rest : List Char) :
    (piece ++ '/' :: rest).dropWhile (· ≠ '/') = '/' :: rest := by
  rw [List.dropWhile_append_of_pos fun c hc => decide_eq_true (ne_of_mem_of_not_mem hc h)]
  rfl

theorem dropWhile_of_notMem {chars : List Char} (h : '/' ∉ chars) :
    chars.dropWhile (· ≠ '/') = [] :=
  List.dropWhile_eq_nil_iff.2 fun _ hc => decide_eq_true (ne_of_mem_of_not_mem hc h)

theorem properPieces_dropIdleSteps (reversed : List Char) :
    properPieces (dropIdleSteps reversed).reverse = properPieces reversed.reverse := by
  fun_induction dropIdleSteps reversed with
  | case1 c rest ih => rw [ih, properPieces_reverse_cons_separator]
  | case2 c rest ih =>
    rw [ih, properPieces_reverse_cons_separator]
    exact ((properPieces_reverse_append_separator ['.'] (c :: rest)).trans
      (List.append_nil _)).symm
  | case3 chars => rfl

theorem getLast?_dropIdleSteps (reversed : List Char) :
    (dropIdleSteps reversed).getLast? = reversed.getLast? := by
  fun_induction dropIdleSteps reversed with
  | case1 c rest ih => rw [ih, List.getLast?_cons_cons]
  | case2 c rest ih => simp only [ih, List.getLast?_cons_cons]
  | case3 chars => rfl

theorem eq_nil_of_dropIdleSteps_eq {reversed piece rest : List Char}
    (h : dropIdleSteps reversed = piece ++ '/' :: rest) (hpiece : piece = [] ∨ piece = ['.']) :
    rest = [] := by
  fun_induction dropIdleSteps reversed with
  | case1 c rest ih => exact ih h
  | case2 c rest ih => exact ih h
  | case3 chars hslash hdot =>
    cases rest with
    | nil => rfl
    | cons c rest =>
      rcases hpiece with rfl | rfl
      · exact absurd h (hslash c rest)
      · exact absurd h (hdot c rest)

theorem properSteps_parent (path : String) :
    properSteps (parent path) = (properSteps path).dropLast := by
  have hpath : properSteps path = properPieces (dropIdleSteps path.toList.reverse).reverse := by
    rw [properPieces_dropIdleSteps, List.reverse_reverse, properSteps_eq]
  rw [hpath, parent, properSteps_eq, String.toList_ofList, properPieces_dropIdleSteps]
  generalize hchars : dropIdleSteps path.toList.reverse = chars
  by_cases hslash : '/' ∈ chars
  · obtain ⟨piece, rest, rfl, hpiece⟩ := List.eq_append_cons_of_mem hslash
    rw [dropWhile_append_separator hpiece, properPieces_reverse_cons_separator,
      properPieces_reverse_append_separator,
      properPieces_of_notMem (mt List.mem_reverse.1 hpiece)]
    split
    · exact List.dropLast_concat.symm
    · next himproper =>
      -- a last piece that leads nowhere is left only where there is nothing before it
      have hidle : piece = [] ∨ piece = ['.'] := by
        simpa [isProper_ofList, or_iff_not_imp_left] using himproper
      rw [eq_nil_of_dropIdleSteps_eq hchars hidle]
      rfl
  · rw [dropWhile_of_notMem hslash, properPieces_of_notMem (mt List.mem_reverse.1 hslash)]
    split <;> rfl

theorem isAbsolute_parent (path : String) : isAbsolute (parent path) = isAbsolute path := by
  have hpath : path.toList.head? = (dropIdleSteps path.toList.reverse).getLast? := by
    rw [getLast?_dropIdleSteps, List.getLast?_reverse]
  rw [isAbsolute, isAbsolute, hpath, parent, String.toList_ofList, List.head?_reverse,
    getLast?_dropIdleSteps]
  generalize dropIdleSteps path.toList.reverse = chars
  by_cases hslash : '/' ∈ chars
  · obtain ⟨piece, rest, rfl, hpiece⟩ := List.eq_append_cons_of_mem hslash
    rw [dropWhile_append_separator hpiece,
      List.getLast?_append_of_ne_nil piece (List.cons_ne_nil '/' rest)]
  · have hlast : chars.getLast? ≠ some '/' := fun h => hslash (List.mem_of_getLast? h)
    rw [dropWhile_of_notMem hslash, decide_eq_false hlast]
    rfl

variable {base path : String}

/-- A slash at the end of a path is as good as the one that is put between. -/
theorem exists_toList_join (hbase : base ≠ "") (hpath : isAbsolute path = false) :
    ∃ chars, (join base path).toList = chars ++ '/' :: path.toList ∧
      (base.toList = chars ∨ base.toList = chars ++ ['/']) := by
  have hempty : ¬base.isEmpty := mt String.isEmpty_iff.1 hbase
  rw [join, if_neg (by simp [hpath, hempty])]
  split
  · next hlast =>
    obtain ⟨chars, hchars⟩ := List.getLast?_eq_some_iff.1 hlast
    exact ⟨chars, by simp [hchars], .inr hchars⟩
  · exact ⟨base.toList, by simp, .inl rfl⟩

theorem join_empty (path : String) : join "" path = path := by
  simp [join]

theorem isAbsolute_join (hpath : isAbsolute path = false) (base : String) :
    isAbsolute (join base path) = isAbsolute base := by
  by_cases hbase : base = ""
  · rw [hbase, join_empty, hpath]
    rfl
  · obtain ⟨chars, hjoin, hchars⟩ := exists_toList_join hbase hpath
    have hnonempty : base.toList ≠ [] := mt String.toList_eq_nil_iff.1 hbase
    rw [isAbsolute, isAbsolute, hjoin]
    rcases hchars with rfl | hchars
    · rw [List.head?_append_of_ne_nil _ hnonempty]
    · rw [hchars]
      cases chars <;> rfl

theorem exists_steps_join (hpath : isAbsolute path = false) (base : String) :
    ∃ before, steps (join base path) = before ++ steps path ∧
      before.filter (IsProper ·) = properSteps base := by
  by_cases hbase : base = ""
  · rw [hbase, join_empty]
    exact ⟨[], rfl, rfl⟩
  · obtain ⟨chars, hjoin, hchars⟩ := exists_toList_join hbase hpath
    refine ⟨(Text.splitAt '/' chars).map String.ofList, ?_, ?_⟩
    · simp [steps, Text.split, hjoin, Text.splitAt_append_separator]
    · rw [properSteps_eq]
      rcases hchars with hchars | hchars
      · rw [hchars]
        rfl
      · rw [hchars, properPieces_append_separator]
        exact (List.append_nil _).symm

theorem properSteps_join (hpath : isAbsolute path = false) (base : String) :
    properSteps (join base path) = properSteps base ++ properSteps path := by
  obtain ⟨before, hsteps, hbefore⟩ := exists_steps_join hpath base
  rw [properSteps, hsteps, List.filter_append, ← hbefore]
  rfl

end Path

structure Path.IsName (name : String) : Prop where
  steps_eq : Path.steps name = [name]
  isProper : FileTree.IsProper name

theorem Path.IsName.isAbsolute_eq {name : String} (h : IsName name) : isAbsolute name = false := by
  rw [isAbsolute, decide_eq_false_iff_not]
  intro hhead
  obtain ⟨rest, hrest⟩ := List.head?_eq_some_iff.1 hhead
  have hsteps : steps name = "" :: (Text.splitAt '/' rest).map String.ofList := by
    rw [steps, Text.split, hrest]
    rfl
  rw [h.steps_eq] at hsteps
  exact h.isProper.1 (List.cons.inj hsteps).1

namespace FileTree

variable (tree : FileTree)

/-- A step that leads nowhere asks for a directory, and so does the step after it. -/
theorem foldlM_step_cons_of_not_isProper {s : String} (hs : ¬IsProper s) {steps : List String}
    (hsteps : steps ≠ []) (place : Place) :
    (s :: steps).foldlM tree.step place = steps.foldlM tree.step place := by
  have hstay : stepFrom place s = place := if_pos (by simpa [IsProper, or_iff_not_imp_left] using hs)
  obtain ⟨next, rest, rfl⟩ := List.exists_cons_of_ne_nil hsteps
  simp only [List.foldlM_cons, step, hstay]
  cases hentry : tree.entry? place with
  | none => rfl
  | some entry => cases entry <;> simp [hentry]

theorem foldlM_step_filter (steps : List String) (last : String) (place : Place) :
    (steps ++ [last]).foldlM tree.step place =
      (steps.filter (IsProper ·) ++ [last]).foldlM tree.step place := by
  induction steps generalizing place with
  | nil => rfl
  | cons s rest ih =>
    by_cases hs : IsProper s
    · rw [List.filter_cons_of_pos (by simpa [IsProper] using hs)]
      exact bind_congr fun next => ih next
    · rw [List.filter_cons_of_neg (by simpa [IsProper] using hs), List.cons_append,
        foldlM_step_cons_of_not_isProper tree hs (by simp), ih]

/-- Paths with the same proper steps hold the same under each name. -/
theorem find?_join_congr {base other name : String} (hname : Path.IsName name)
    (hsteps : properSteps base = properSteps other)
    (habsolute : Path.isAbsolute base = Path.isAbsolute other) :
    tree.find? (Path.join base name) = tree.find? (Path.join other name) := by
  have hfound (base : String) : tree.find? (Path.join base name) =
      ((properSteps base ++ [name]).foldlM tree.step (tree.start base)).bind tree.entry? := by
    obtain ⟨before, hjoin, hbefore⟩ := Path.exists_steps_join hname.isAbsolute_eq base
    rw [hname.steps_eq] at hjoin
    have hnonempty : Path.join base name ≠ "" := by
      intro hempty
      have hsteps : [] ++ [""] = before ++ [name] := by
        rw [← hjoin, hempty]
        rfl
      exact hname.isProper.1 (List.append_singleton_inj.1 hsteps).2.symm
    rw [find?, if_neg hnonempty, hjoin, foldlM_step_filter, hbefore, start, start,
      Path.isAbsolute_join hname.isAbsolute_eq]
  rw [hfound, hfound, hsteps, start, start, habsolute]

end FileTree

end ZeroShot
