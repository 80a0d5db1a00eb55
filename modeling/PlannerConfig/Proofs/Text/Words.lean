import Mathlib.Tactic.Lemma
import PlannerConfig.Text.Blank

/-!
The words of a text: a text with a character that is not blank has one, and stays a text when it is
collapsed.
-/
namespace PlannerConfig.Text

lemma exists_piece_ne_nil {p : Char → Bool} {cs : List Char} {c : Char} (hc : c ∈ cs)
    (hp : p c = false) : ∃ piece ∈ splitWhere p cs, piece ≠ [] := by
  induction cs with
  | nil => simp at hc
  | cons d cs ih =>
    unfold splitWhere
    split
    · rename_i hd
      have hcs : c ∈ cs := by
        rcases List.mem_cons.mp hc with rfl | hc
        · exact absurd hd (by simp [hp])
        · exact hc
      obtain ⟨piece, hm, hne⟩ := ih hcs
      exact ⟨piece, List.mem_cons_of_mem _ hm, hne⟩
    · split
      · exact ⟨[d], by simp, by simp⟩
      · rename_i piece pieces _
        exact ⟨d :: piece, by simp, by simp⟩

lemma join_ne_empty {sep s : String} {ss : List String} (hs : s ∈ ss) (hne : s ≠ "") :
    join sep ss ≠ "" := by
  induction ss with
  | nil => simp at hs
  | cons t ss ih =>
    cases ss with
    | nil =>
      rw [join_singleton, ← List.mem_singleton.mp hs]
      exact hne
    | cons u ss =>
      rw [join_cons_cons]
      rcases List.mem_cons.mp hs with rfl | hs
      · simp [hne]
      · simp [ih hs]

/-- Collapsing leaves something of a text that is not blank. -/
lemma collapse_ne_empty {s : String} {c : Char} (hc : c ∈ s.toList) (hb : isBlank c = false) :
    collapse s ≠ "" := by
  obtain ⟨piece, hm, hne⟩ := exists_piece_ne_nil hc hb
  have hword : piece ∈ words s.toList := List.mem_filter.mpr ⟨hm, by simpa using hne⟩
  exact join_ne_empty (List.mem_map_of_mem hword) (by simpa using hne)

end PlannerConfig.Text
