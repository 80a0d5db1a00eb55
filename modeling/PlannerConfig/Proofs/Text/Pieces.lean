import Mathlib.Data.List.DropRight
import Mathlib.Tactic.Lemma
import PlannerConfig.Text.Blank

/-!
Texts cut into pieces and texts that are trimmed. Pieces without a separator are what a text with
separators between them is cut into, and a text is trimmed up to the first character that stays.
-/
namespace PlannerConfig.Text

variable {p : Char → Bool} {c sep : Char} {cs xs ys piece : List Char} {rest : List (List Char)}

lemma splitWhere_of_forall (h : ∀ c ∈ cs, p c = false) : splitWhere p cs = [cs] := by
  induction cs with
  | nil => rfl
  | cons c cs ih =>
    unfold splitWhere
    rw [h c List.mem_cons_self, ih fun d hd => h d (List.mem_cons_of_mem c hd)]
    rfl

lemma splitWhere_append_cons (h : ∀ c ∈ xs, p c = false) (hsep : p sep = true) :
    splitWhere p (xs ++ sep :: ys) = xs :: splitWhere p ys := by
  induction xs with
  | nil => simp [splitWhere, hsep]
  | cons c xs ih =>
    have rest := ih fun d hd => h d (List.mem_cons_of_mem c hd)
    rw [List.cons_append, splitWhere, h c List.mem_cons_self, rest]
    rfl

/-- The first piece has no separator; it is all of a text, or a separator and what is cut into the others
come after it. -/
lemma splitWhere_eq_cons (h : splitWhere p cs = piece :: rest) : (∀ c ∈ piece, p c = false)
    ∧ (rest = [] ∧ cs = piece ∨ ∃ sep ys, cs = piece ++ sep :: ys ∧ splitWhere p ys = rest) := by
  induction cs generalizing piece with
  | nil =>
    obtain ⟨rfl, rfl⟩ := List.cons.inj h
    exact ⟨List.forall_mem_nil _, .inl ⟨rfl, rfl⟩⟩
  | cons c cs ih =>
    unfold splitWhere at h
    split at h
    · obtain ⟨rfl, rfl⟩ := List.cons.inj h
      exact ⟨List.forall_mem_nil _, .inr ⟨c, cs, rfl, rfl⟩⟩
    · rename_i hc
      split at h
      · rename_i hnil
        exact absurd hnil (splitWhere_ne_nil p cs)
      · rename_i first more hmore
        obtain ⟨rfl, rfl⟩ := List.cons.inj h
        obtain ⟨hfirst, hwhole⟩ := ih hmore
        refine ⟨List.forall_mem_cons.mpr ⟨by simpa using hc, hfirst⟩, ?_⟩
        rcases hwhole with ⟨hrest, rfl⟩ | ⟨sep, ys, rfl, hys⟩
        · exact .inl ⟨hrest, rfl⟩
        · exact .inr ⟨sep, ys, rfl, hys⟩

/-- A text ends with its last piece. -/
lemma suffix_of_splitWhere (h : (splitWhere p cs).getLast? = some piece) : piece <:+ cs := by
  generalize hpieces : splitWhere p cs = pieces at h
  induction pieces generalizing cs with
  | nil => cases h
  | cons first more ih =>
    obtain ⟨-, ⟨rfl, rfl⟩ | ⟨sep, ys, rfl, rfl⟩⟩ := splitWhere_eq_cons hpieces
    · obtain rfl : cs = piece := by simpa using h
      exact List.suffix_rfl
    · have last : (splitWhere p ys).getLast? = some piece := by
        rwa [List.getLast?_cons_of_ne_nil (splitWhere_ne_nil p ys)] at h
      exact (ih rfl last).trans ((List.suffix_cons sep ys).trans (List.suffix_append _ _))

/-- A piece has characters of the text that separate nothing. -/
lemma of_mem_splitWhere (h : piece ∈ splitWhere p cs) (hc : c ∈ piece) : c ∈ cs ∧ p c = false := by
  generalize hpieces : splitWhere p cs = pieces at h
  induction pieces generalizing cs with
  | nil => cases h
  | cons first more ih =>
    obtain ⟨hfirst, hwhole⟩ := splitWhere_eq_cons hpieces
    rcases List.mem_cons.mp h with rfl | h
    · refine ⟨?_, hfirst c hc⟩
      obtain ⟨-, rfl⟩ | ⟨sep, ys, rfl, -⟩ := hwhole
      · exact hc
      · exact List.mem_append_left _ hc
    · obtain ⟨rfl, -⟩ | ⟨sep, ys, rfl, hys⟩ := hwhole
      · cases h
      · obtain ⟨hmem, hpc⟩ := ih hys h
        exact ⟨List.mem_append_right _ (List.mem_cons_of_mem sep hmem), hpc⟩

lemma not_mem_of_mem_splitWhere (hc : p c = true) (h : piece ∈ splitWhere p cs) : c ∉ piece := by
  intro hmem
  rw [(of_mem_splitWhere h hmem).2] at hc
  cases hc

/-- Only what is dropped is lost. -/
lemma mem_dropWhile (hc : p c = false) (h : c ∈ cs) : c ∈ cs.dropWhile p := by
  rw [← List.takeWhile_append_dropWhile (p := p) (l := cs), List.mem_append] at h
  refine h.resolve_left fun hmem => ?_
  rw [List.mem_takeWhile_imp hmem] at hc
  cases hc

lemma mem_trimWhere (hc : p c = false) (h : c ∈ cs) : c ∈ trimWhere p cs :=
  List.mem_reverse.mpr (mem_dropWhile hc (List.mem_reverse.mpr (mem_dropWhile hc h)))

/-- Nothing that stays is trimmed, nor anything in front of it. -/
lemma trimEndWhere_append_cons (h : p c = false) :
    trimEndWhere p (xs ++ c :: ys) = xs ++ c :: trimEndWhere p ys := by
  induction ys using List.reverseRecOn with
  | nil => exact List.rdropWhile_concat_neg p xs c (by simp [h])
  | append_singleton ys d ih =>
    have parts : xs ++ c :: (ys ++ [d]) = xs ++ c :: ys ++ [d] := by simp
    show List.rdropWhile p _ = xs ++ c :: List.rdropWhile p _
    rw [parts]
    by_cases hd : p d = true
    · rw [List.rdropWhile_concat_pos p _ d hd, List.rdropWhile_concat_pos p _ d hd]
      exact ih
    · rw [List.rdropWhile_concat_neg p _ d hd, List.rdropWhile_concat_neg p _ d hd, parts]

lemma trimWhere_cons (h : p c = false) : trimWhere p (c :: cs) = trimEndWhere p (c :: cs) := by
  rw [trimWhere, List.dropWhile_cons_of_neg (by simp [h])]

lemma trimEndWhere_eq_self_iff :
    trimEndWhere p cs = cs ↔ ∀ c, cs.getLast? = some c → p c = false := by
  show cs.rdropWhile p = cs ↔ _
  rw [List.rdropWhile_eq_self_iff]
  constructor
  · intro h c hc
    obtain ⟨ds, rfl⟩ := List.getLast?_eq_some_iff.mp hc
    simpa using h (by simp)
  · intro h hne
    simp [h _ (List.getLast?_eq_some_getLast hne)]

lemma trimWhere_eq_self (h : ∀ c ∈ cs, p c = false) : trimWhere p cs = cs := by
  have front : cs.dropWhile p = cs := by
    rw [List.dropWhile_eq_self_iff]
    intro hlength
    simp [h _ (List.getElem_mem hlength)]
  rw [trimWhere, front]
  exact trimEndWhere_eq_self_iff.mpr fun c hc => h c (List.mem_of_getLast? hc)

lemma mem_of_mem_trimEnd (h : c ∈ trimEnd cs) : c ∈ cs := (List.rdropWhile_prefix _ _).mem h

lemma trimEndWhere_append (h : ∀ c ∈ ys, p c = true) : trimEndWhere p (xs ++ ys) = trimEndWhere p xs := by
  unfold trimEndWhere
  rw [List.reverse_append, List.dropWhile_append_of_pos fun c hc => h c (List.mem_reverse.mp hc)]

/-- What is put around a text to be trimmed off does not matter. -/
lemma trimWhere_append_append (hxs : ∀ c ∈ xs, p c = true) (hys : ∀ c ∈ ys, p c = true) :
    trimWhere p (xs ++ cs ++ ys) = trimWhere p cs := by
  unfold trimWhere
  rw [List.append_assoc, List.dropWhile_append_of_pos hxs, List.dropWhile_append]
  split
  · rename_i hnil
    have after : ys.dropWhile p = [] := List.dropWhile_eq_nil_iff.mpr hys
    rw [after, List.isEmpty_iff.mp hnil]
  · exact trimEndWhere_append hys

lemma trimWhere_map {f : Char → Char} (h : ∀ c, p (f c) = p c) :
    trimWhere p (cs.map f) = (trimWhere p cs).map f := by
  have same : p ∘ f = p := funext h
  simp only [trimWhere, trimEndWhere, List.dropWhile_map, ← List.map_reverse, same]

/-- What is trimmed ends with a character that stays. -/
lemma getLast?_trimWhere (h : (trimWhere p cs).getLast? = some c) : p c = false := by
  have trimmed : trimEndWhere p (trimWhere p cs) = trimWhere p cs :=
    List.rdropWhile_idempotent p (cs.dropWhile p)
  exact trimEndWhere_eq_self_iff.mp trimmed c h

end PlannerConfig.Text
