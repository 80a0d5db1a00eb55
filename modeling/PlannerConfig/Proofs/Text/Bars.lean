import Mathlib.Algebra.GroupWithZero.Nat
import PlannerConfig.Proofs.Text.OneLine
import PlannerConfig.Reference.Table

/-!
What counts in a row of a table: line breaks, which end it, and bars without a backslash right before
them, which end a cell. Both counts add up over the parts of a text as long as a part does not start with
a bar.
-/
namespace PlannerConfig.Text

/-- How many bars of a text have no backslash right before them, if the text comes after `prev`. -/
def openBarsAfter (prev : Char) : List Char → Nat
  | [] => 0
  | c :: cs => (if c = '|' ∧ prev ≠ backslash then 1 else 0) + openBarsAfter c cs

/-- How many bars of a text have no backslash right before them. -/
def openBars (s : String) : Nat := openBarsAfter ' ' s.toList

variable {xs ys : List Char} {c p : Char} {s t sep : String}

lemma openBarsAfter_of_not_mem (h : '|' ∉ xs) : openBarsAfter p xs = 0 := by
  induction xs generalizing p with
  | nil => rfl
  | cons c xs ih =>
    rw [List.mem_cons, not_or] at h
    simp [openBarsAfter, ih h.2, Ne.symm h.1]

/-- Of the character before a text it matters only whether it is a backslash. -/
lemma openBarsAfter_of_ne (hp : p ≠ backslash) : openBarsAfter p xs = openBarsAfter ' ' xs := by
  have hblank : ' ' ≠ backslash := by decide
  cases xs with
  | nil => rfl
  | cons c cs => simp only [openBarsAfter, ne_eq, hp, hblank]

/-- Any other character between two parts keeps them apart. -/
lemma openBarsAfter_append_cons (hbar : c ≠ '|') (hc : c ≠ backslash) :
    openBarsAfter p (xs ++ c :: ys) = openBarsAfter p xs + openBarsAfter ' ' ys := by
  induction xs generalizing p with
  | nil => simp [openBarsAfter, hbar, openBarsAfter_of_ne hc]
  | cons d xs ih => rw [List.cons_append, openBarsAfter, openBarsAfter, ih, Nat.add_assoc]

lemma openBars_append (h : sep = .ofList (c :: xs)) (hbar : c ≠ '|') (hc : c ≠ backslash) :
    openBars (s ++ (sep ++ t)) = openBars s + openBarsAfter ' ' (xs ++ t.toList) := by
  rw [openBars, String.toList_append, String.toList_append, h, String.toList_ofList,
    List.cons_append, openBarsAfter_append_cons hbar hc]
  rfl

@[simp] lemma openBars_empty : openBars "" = 0 := rfl

@[simp] lemma openBars_append_dot : openBars (s ++ ("." ++ t)) = openBars s + openBars t :=
  openBars_append (show "." = .ofList ['.'] from rfl) (by decide) (by decide)

lemma openBars_append_tick : openBars (s ++ ("`" ++ t)) = openBars s + openBars t :=
  openBars_append (show "`" = .ofList ['`'] from rfl) (by decide) (by decide)

@[simp] lemma openBars_append_lineBreak :
    openBars (s ++ ("\n" ++ t)) = openBars s + openBars t :=
  openBars_append (show "\n" = .ofList ['\n'] from rfl) (by decide) (by decide)

@[simp] lemma openBars_append_brackets : openBars (s ++ "[]") = openBars s := by
  have h := openBars_append (s := s) (t := "") (show "[]" = .ofList ['[', ']'] from rfl) (by decide)
    (by decide)
  rwa [String.append_empty] at h

@[simp] lemma openBars_append_cellEnd :
    openBars (s ++ (" | " ++ t)) = openBars s + (1 + openBars t) := by
  rw [openBars_append (show " | " = .ofList [' ', '|', ' '] from rfl) (by decide) (by decide)]
  simp [openBarsAfter, openBars, show ' ' ≠ backslash by decide]

@[simp] lemma openBars_rowStart_append : openBars ("| " ++ t) = 1 + openBars t := by
  rw [openBars, String.toList_append, show "| " = .ofList ['|', ' '] from rfl, String.toList_ofList]
  simp [openBarsAfter, openBars, show ' ' ≠ backslash by decide]

@[simp] lemma openBars_append_rowEnd : openBars (s ++ " |") = openBars s + 1 := by
  have h := openBars_append (s := s) (t := "") (show " |" = .ofList [' ', '|'] from rfl) (by decide)
    (by decide)
  rwa [String.append_empty] at h

section table

@[simp] lemma openBars_inlineCode : openBars (inlineCode s) = openBars s := by
  unfold inlineCode
  split
  · simp [*]
  · have opening : openBars ("`" ++ (s ++ "`")) = openBars (s ++ "`") := by
      simpa using openBars_append_tick (s := "") (t := s ++ "`")
    have closing : openBars (s ++ "`") = openBars s := by
      simpa using openBars_append_tick (s := s) (t := "")
    rw [String.append_assoc, opening, closing]

@[simp] lemma lineBreaks_inlineCode : lineBreaks (inlineCode s) = lineBreaks s := by
  unfold inlineCode
  split
  · simp [*]
  · simp [show lineBreaks "`" = 0 from rfl]

/-- A bar of an escaped text has a backslash before it. -/
@[simp] lemma openBars_escapeCell : openBars (escapeCell s) = 0 := by
  have escaped : ∀ (cs : List Char) (p : Char), openBarsAfter p
      (cs.flatMap fun c => if c = '|' then [backslash, '|'] else [c]) = 0 := by
    intro cs
    induction cs with
    | nil => exact fun _ => rfl
    | cons c cs ih =>
      intro p
      rw [List.flatMap_cons]
      split
      · simp [openBarsAfter, ih, show backslash ≠ '|' by decide]
      · simp [openBarsAfter, *]
  rw [openBars, escapeCell, String.toList_ofList, escaped]

@[simp] lemma lineBreaks_escapeCell : lineBreaks (escapeCell s) = lineBreaks s := by
  have escaped : ∀ cs : List Char, (cs.flatMap fun c => if c = '|' then [backslash, '|'] else [c]).count
      '\n' = cs.count '\n' := by
    intro cs
    induction cs with
    | nil => rfl
    | cons c cs ih =>
      rw [List.flatMap_cons, List.count_append, ih, List.count_cons, Nat.add_comm]
      congr 1
      split
      · subst c
        decide
      · simp [List.count_singleton]
  rw [lineBreaks, escapeCell, String.toList_ofList, escaped, lineBreaks]

/-- A row has a bar at each end and one between any two cells. -/
lemma openBars_tableRow {cells : List String} (h : cells ≠ []) :
    openBars (tableRow cells) = cells.length + 1 + (cells.map openBars).sum := by
  have inside : ∀ (cell : String) (cells : List String), openBars (join " | " (cell :: cells) ++ " |")
      = (cell :: cells).length + ((cell :: cells).map openBars).sum := by
    intro cell cells
    induction cells generalizing cell with
    | nil => simp [Nat.add_comm]
    | cons next cells ih =>
      rw [join_cons_cons, String.append_assoc, String.append_assoc, openBars_append_cellEnd, ih]
      simp only [List.length_cons, List.map_cons, List.sum_cons]
      omega
  obtain ⟨cell, cells, rfl⟩ := List.exists_cons_of_ne_nil h
  rw [tableRow, String.append_assoc, openBars_rowStart_append, inside]
  omega

lemma lineBreaks_tableRow (cells : List String) :
    lineBreaks (tableRow cells) = (cells.map lineBreaks).sum := by
  have inside : lineBreaks (join " | " cells) = (cells.map lineBreaks).sum := by
    induction cells with
    | nil => rfl
    | cons cell cells ih =>
      cases cells with
      | nil => simp
      | cons next cells =>
        rw [join_cons_cons, lineBreaks_append, lineBreaks_append, ih, List.map_cons, List.sum_cons]
        rfl
  rw [tableRow, lineBreaks_append, lineBreaks_append, inside]
  simp [show lineBreaks "| " = 0 from rfl, show lineBreaks " |" = 0 from rfl]

section lines

variable {lines : List String}

lemma openBars_join_lines : openBars (join "\n" lines ++ "\n") = (lines.map openBars).sum := by
  have last : ∀ line, openBars (line ++ "\n") = openBars line := fun line => by
    simpa using openBars_append_lineBreak (s := line) (t := "")
  induction lines with
  | nil => exact last ""
  | cons line lines ih =>
    cases lines with
    | nil => simp [last]
    | cons next lines =>
      rw [join_cons_cons, String.append_assoc, String.append_assoc, openBars_append_lineBreak, ih,
        List.map_cons (a := line), List.sum_cons]

/-- Each line ends with a line break. -/
lemma lineBreaks_join_lines (h : lines ≠ []) :
    lineBreaks (join "\n" lines ++ "\n") = lines.length + (lines.map lineBreaks).sum := by
  have one : lineBreaks "\n" = 1 := rfl
  induction lines with
  | nil => exact absurd rfl h
  | cons line lines ih =>
    cases lines with
    | nil => simp [one, Nat.add_comm]
    | cons next lines =>
      have rest := ih (List.cons_ne_nil _ _)
      rw [join_cons_cons, String.append_assoc, String.append_assoc, lineBreaks_append,
        lineBreaks_append, rest, one]
      simp only [List.length_cons, List.map_cons, List.sum_cons]
      omega

end lines

end table

end PlannerConfig.Text
