import Mathlib.Data.List.Count
import Mathlib.Tactic.Lemma
import PlannerConfig.Duration.Printer
import PlannerConfig.LinearFunction
import PlannerConfig.Proofs.Text.Pieces

/-!
Texts that stand on one line: numbers and durations, whatever they are, and any text that is collapsed.
-/
namespace PlannerConfig

open PlannerConfig.Text PlannerConfig.Number

namespace Text

def lineBreaks (s : String) : Nat := s.toList.count '\n'

variable {s t sep : String} {cs : List Char}

lemma lineBreaks_eq_zero_iff : lineBreaks s = 0 ↔ '\n' ∉ s.toList := List.count_eq_zero

@[simp] lemma lineBreaks_empty : lineBreaks "" = 0 := rfl

@[simp] lemma lineBreaks_append : lineBreaks (s ++ t) = lineBreaks s + lineBreaks t := by
  simp [lineBreaks]

lemma lineBreaks_ofList (h : '\n' ∉ cs) : lineBreaks (.ofList cs) = 0 := by
  simpa [lineBreaks_eq_zero_iff] using h

lemma lineBreaks_join (hsep : lineBreaks sep = 0) {texts : List String}
    (h : ∀ text ∈ texts, lineBreaks text = 0) : lineBreaks (join sep texts) = 0 := by
  induction texts with
  | nil => rfl
  | cons text texts ih =>
    have rest := ih fun other hother => h other (List.mem_cons_of_mem _ hother)
    cases texts with
    | nil => exact h text List.mem_cons_self
    | cons next texts => simp [h text List.mem_cons_self, hsep, rest]

/-- No word has a blank in it, so what is collapsed is on one line. -/
@[simp] lemma lineBreaks_collapse : lineBreaks (collapse s) = 0 := by
  apply lineBreaks_join rfl
  intro text htext
  obtain ⟨word, hword, rfl⟩ := List.mem_map.mp htext
  exact lineBreaks_ofList (not_mem_of_mem_splitWhere (by decide) (List.mem_filter.mp hword).1)

@[simp] lemma lineBreaks_repr_nat (n : Nat) : lineBreaks n.repr = 0 := by
  rw [lineBreaks_eq_zero_iff, Nat.toList_repr]
  intro h
  exact absurd (Nat.isDigit_of_mem_toDigits (by decide) (by decide) h) (by decide)

lemma lineBreaks_toString_int (n : Int) : lineBreaks (toString n) = 0 := by
  cases n with
  | ofNat n => exact lineBreaks_repr_nat n
  | negSucc n =>
    show lineBreaks ("-" ++ n.succ.repr) = 0
    simp [show lineBreaks "-" = 0 from rfl]

end Text

namespace Number

lemma not_mem_digitChars (ds : List Nat) : '\n' ∉ digitChars ds := by
  intro h
  obtain ⟨d, -, hd⟩ := List.mem_map.mp h
  have hcode : (Char.ofNat (48 + d)).toNat = 10 := congrArg Char.toNat hd
  by_cases hvalid : (48 + d).isValidChar
  · rw [Char.ofNat, dif_pos hvalid] at hcode
    have hten : 48 + d = 10 := hcode
    omega
  · -- a number that is no character stands for the one with code 0
    rw [Char.ofNat, dif_neg hvalid] at hcode
    exact absurd hcode (by decide)

lemma not_mem_positional (keepPoint : Bool) (x : Decimal) : '\n' ∉ positional keepPoint x := by
  unfold positional
  dsimp only
  rw [List.mem_append, not_or]
  constructor
  · split
    · decide
    · simp [not_mem_digitChars]
  · split
    · split <;> decide
    · simp [not_mem_digitChars]

lemma not_mem_exponentChars (e : Int) : '\n' ∉ exponentChars e := by
  unfold exponentChars
  dsimp only
  split <;> simp [not_mem_digitChars]

lemma not_mem_scientific (x : Decimal) : '\n' ∉ scientific x := by
  unfold scientific
  dsimp only
  rw [List.mem_append, List.mem_append, not_or, not_or]
  refine ⟨⟨not_mem_digitChars _, ?_⟩, not_mem_exponentChars _⟩
  split
  · exact List.not_mem_nil
  · simp [not_mem_digitChars]

lemma not_mem_withSign {negative : Bool} {cs : List Char} (h : '\n' ∉ cs) :
    '\n' ∉ withSign negative cs := by
  unfold withSign
  split <;> simp [h]

lemma not_mem_briefChars (b : Binary) : '\n' ∉ briefChars b := by
  unfold briefChars
  split
  · decide
  · dsimp only
    split
    · exact not_mem_positional false _
    · exact not_mem_scientific _

@[simp] lemma lineBreaks_floatText (x : Float) : lineBreaks (floatText x) = 0 := by
  apply lineBreaks_ofList
  cases Datum.ofFloat x with
  | notANumber => decide
  | infinite negative => exact not_mem_withSign (by decide)
  | finite negative b =>
    apply not_mem_withSign
    split
    · decide
    · dsimp only
      split
      · exact not_mem_positional true _
      · exact not_mem_scientific _

@[simp] lemma lineBreaks_briefText (x : Float) : lineBreaks (briefText x) = 0 := by
  apply lineBreaks_ofList
  cases Datum.ofFloat x with
  | notANumber => decide
  | infinite negative => exact not_mem_withSign (by decide)
  | finite negative b => exact not_mem_withSign (not_mem_briefChars b)

end Number

namespace Duration

lemma lineBreaks_component (n : Nat) {unit : String} (h : lineBreaks unit = 0) :
    lineBreaks (component n unit) = 0 := by
  unfold component
  split <;> simp [h]

lemma lineBreaks_secondsText (seconds microseconds : Nat) :
    lineBreaks (secondsText seconds microseconds) = 0 := by
  unfold secondsText
  split
  · exact lineBreaks_component _ rfl
  · rw [lineBreaks_append, lineBreaks_ofList (not_mem_briefChars _)]
    rfl

@[simp] lemma lineBreaks_text (d : Duration) : lineBreaks d.text = 0 := by
  have sign : lineBreaks (if d.microseconds < 0 then "-" else "") = 0 := by split <;> rfl
  have days := fun n => lineBreaks_component n (show lineBreaks "d" = 0 from rfl)
  have hours := fun n => lineBreaks_component n (show lineBreaks "h" = 0 from rfl)
  have minutes := fun n => lineBreaks_component n (show lineBreaks "m" = 0 from rfl)
  unfold text
  split
  · rfl
  · simp only [lineBreaks_append, sign, days, hours, minutes, lineBreaks_secondsText]

end Duration

@[simp] lemma LinearFunction.lineBreaks_text (f : LinearFunction) : lineBreaks f.text = 0 := by
  simp [text, show lineBreaks " + " = 0 from rfl, show lineBreaks " x" = 0 from rfl]

end PlannerConfig
