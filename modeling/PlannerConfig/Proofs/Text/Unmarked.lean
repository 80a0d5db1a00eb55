import Mathlib.Tactic.Lemma
import PlannerConfig.Proofs.Text.Pieces
import PlannerConfig.Text.Encoding
import PlannerConfig.Text.Margin
import PlannerConfig.Text.Search

/-!
Texts without the mark of a surrogate. They can be encoded, and so can what is cut out of them or put
together from them.
-/
namespace PlannerConfig.Text

/-- Whether nothing in a text announces a surrogate. -/
def Unmarked (s : String) : Prop := surrogateMark ∉ s.toList

instance (s : String) : Decidable (Unmarked s) := inferInstanceAs (Decidable (_ ∉ _))

variable {s t sep : String} {cs : List Char}

lemma Unmarked.encodable (h : Unmarked s) : Encodable s := encodable_of_not_mem h

@[simp] lemma unmarked_ofList : Unmarked (.ofList cs) ↔ surrogateMark ∉ cs := by
  rw [Unmarked, String.toList_ofList]

/-- A text that is written out has no mark if none of its characters is one. -/
lemma Unmarked.of_ofList (h : s = .ofList cs) (hcs : cs.all (· != surrogateMark) = true) :
    Unmarked s := by
  subst h
  rw [unmarked_ofList]
  intro hmark
  simpa using List.all_eq_true.mp hcs _ hmark

@[simp] lemma unmarked_append : Unmarked (s ++ t) ↔ Unmarked s ∧ Unmarked t := by
  simp [Unmarked]

lemma Unmarked.append (hs : Unmarked s) (ht : Unmarked t) : Unmarked (s ++ t) :=
  unmarked_append.mpr ⟨hs, ht⟩

lemma Unmarked.of_subset (h : Unmarked s) (ht : t.toList ⊆ s.toList) : Unmarked t :=
  fun hmark => h (ht hmark)

lemma Unmarked.join (hsep : Unmarked sep) {texts : List String} (h : ∀ text ∈ texts, Unmarked text) :
    Unmarked (join sep texts) := by
  induction texts with
  | nil => exact .of_ofList rfl rfl
  | cons text texts ih =>
    obtain ⟨here, rest⟩ := List.forall_mem_cons.mp h
    cases texts with
    | nil => exact here
    | cons next texts => simp [here, hsep, ih rest]

lemma Unmarked.collapse (h : Unmarked s) : Unmarked (collapse s) := by
  refine .join (.of_ofList rfl rfl) fun text htext => ?_
  obtain ⟨word, hword, rfl⟩ := List.mem_map.mp htext
  rw [unmarked_ofList]
  exact fun hmark => h (of_mem_splitWhere (List.mem_filter.mp hword).1 hmark).1

lemma Unmarked.trim (h : Unmarked s) : Unmarked (trim s) := by
  refine h.of_subset fun c hc => ?_
  rw [toList_trim] at hc
  exact (List.dropWhile_suffix _).mem (mem_of_mem_trimEnd hc)

/-- What stands between line ends stands in a line. -/
lemma mem_of_mem_intercalate {c : Char} (hc : c ≠ '\n') {rows : List (List Char)}
    (h : c ∈ ['\n'].intercalate rows) : ∃ row ∈ rows, c ∈ row := by
  induction rows with
  | nil => simp at h
  | cons row rows ih =>
    cases rows with
    | nil => exact ⟨row, List.mem_cons_self, by simpa using h⟩
    | cons next rows =>
      rw [List.intercalate_cons_cons, List.append_assoc, List.mem_append, List.mem_append,
        List.mem_singleton, or_iff_right hc] at h
      rcases h with h | h
      · exact ⟨row, List.mem_cons_self, h⟩
      · obtain ⟨other, hother, h⟩ := ih h
        exact ⟨other, List.mem_cons_of_mem _ hother, h⟩

/-- A margin is taken off the lines, and nothing is put in but line ends. -/
lemma Unmarked.outdent (h : Unmarked s) : Unmarked (outdent s) := by
  rw [Text.outdent, unmarked_ofList]
  intro hmark
  obtain ⟨row, hrow, hmark⟩ := mem_of_mem_intercalate (by decide) hmark
  obtain ⟨line, hline, rfl⟩ := List.mem_map.mp hrow
  have hbare : surrogateMark ∈ line := by
    split at hmark
    · exact List.mem_of_mem_drop hmark
    · exact hmark
  obtain ⟨piece, hpiece, rfl⟩ := List.mem_map.mp hline
  split at hbare
  · simp at hbare
  · exact h (of_mem_splitWhere hpiece hbare).1

end PlannerConfig.Text
