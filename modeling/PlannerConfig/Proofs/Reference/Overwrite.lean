import PlannerConfig.Proofs.Reference.Template

/-!
Filling one section. The markers of a filled section are found again where they were, so filling it once
more replaces what was there; and only a document without the two markers, in that order, is refused.
-/
namespace PlannerConfig

open PlannerConfig.Text

namespace Section

variable {s : Section} {doc text : String}

/-- A section has no region if one of its markers is missing. -/
lemma cut?_eq_none_iff {cs : List Char} : s.cut? cs = none ↔ ¬ s.beginMarker.toList <:+: cs
    ∨ ∃ before rest, cs = before ++ s.beginMarker.toList ++ rest ∧ Clear s.beginMarker.toList before
      ∧ ¬ s.endMarker.toList <:+: rest := by
  unfold cut?
  rw [← cutAt_eq_none_iff s.beginMarker_ne_nil]
  cases hcut : cutAt s.beginMarker.toList cs with
  | none => exact iff_of_true rfl (.inl rfl)
  | some p =>
    have first := (cutAt_eq_some_iff s.beginMarker_ne_nil).mp hcut
    have ends : cutAt s.endMarker.toList p.2 = none ↔ ¬ s.endMarker.toList <:+: p.2 :=
      cutAt_eq_none_iff s.endMarker_ne_nil
    simp only [Option.bind_eq_bind, Option.bind_some, Option.bind_eq_none_iff, reduceCtorEq,
      Option.pure_def, imp_false, false_or, ← Option.eq_none_iff_forall_ne_some]
    rw [ends]
    constructor
    · exact fun hnone => ⟨p.1, p.2, first.1, first.2, hnone⟩
    · rintro ⟨before, rest, hcs, hclear, hnone⟩
      have same := (cutAt_eq_some_iff s.beginMarker_ne_nil).mpr ⟨hcs, hclear⟩
      obtain rfl : p = (before, rest) := Option.some.inj (hcut.symm.trans same)
      exact hnone

lemma fill_eq_error_iff {e : TemplateError} :
    s.fill doc text = .error e ↔ e = ⟨s⟩ ∧ s.cut? doc.toList = none := by
  rw [fill, fill?_eq]
  cases s.cut? doc.toList with
  | none => exact ⟨fun h => ⟨(Except.error.inj h).symm, rfl⟩, fun h => by rw [h.1]; rfl⟩
  | some p =>
    refine iff_of_false (fun h => ?_) (fun h => ?_)
    · cases h
    · cases h.2

/-- A section that has been filled is filled again as it was, whatever was put into it. -/
theorem fill_fill (s : Section) (doc text text2 : String) :
    (s.OneLine → ¬ s.endMarker.toList <:+: text.toList → ∀ filled, s.fill doc text = .ok filled →
      s.fill filled text2 = s.fill doc text2)
    ∧ ∀ e, s.fill doc text = .error e ↔ e = ⟨s⟩ ∧ (¬ s.beginMarker.toList <:+: doc.toList
      ∨ ∃ before rest, doc.toList = before ++ s.beginMarker.toList ++ rest
        ∧ Clear s.beginMarker.toList before ∧ ¬ s.endMarker.toList <:+: rest) := by
  constructor
  · intro hline htext filled hfill
    obtain ⟨before, inside, after, hcut, rfl⟩ := fill_eq_ok hfill
    obtain ⟨-, hbefore, -⟩ := cut?_eq_some_iff.mp hcut
    have hcontent := Arranged.ends_content (isMarker_end hline) htext
    rw [fill_ofList hbefore hcontent, fill_of_cut? hcut]
  · intro e
    rw [fill_eq_error_iff, cut?_eq_none_iff]

/-- The end marker overlaps itself in this document, and the first text is one half of it. -/
theorem fill_fill_overlapping_markers :
    let s : Section := ⟨"A END --><!-- A"⟩
    let doc := "<!-- A END --><!-- A BEGIN --> old <!-- A END --><!-- A END --><!-- A END -->"
    let half := "<!-- A END -->"
    s.OneLine ∧ ¬ s.endMarker.toList <:+: half.toList
      ∧ (∃ filled, s.fill doc half = .ok filled ∧ s.fill filled "new" = s.fill doc "new")
      ∧ s.fill half "new" = .error ⟨s⟩ := by
  intro s doc half
  have oneLine : s.OneLine := by
    unfold OneLine
    decide +kernel
  have short : ¬ s.endMarker.toList <:+: half.toList := by decide +kernel
  have parts : doc = .ofList ([] ++ s.marked " old ".toList ++ half.toList) := by decide +kernel
  obtain ⟨filled, hfilled⟩ := s.exists_fill [] " old ".toList half.toList half
  rw [← parts] at hfilled
  refine ⟨oneLine, short, ⟨filled, hfilled, (fill_fill s doc half "new").1 oneLine short _ hfilled⟩, ?_⟩
  exact ((fill_fill s half "new" "").2 ⟨s⟩).mpr ⟨rfl, .inl (by decide +kernel)⟩

end Section
end PlannerConfig
