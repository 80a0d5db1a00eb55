import PlannerConfig.Proofs.Form.Nulls
import PlannerConfig.Proofs.Form.Refusals

/-!
The kinds of parameter that a configuration has. What is true of all of them is shown here, kind by kind, so
that a form need be gone through only once.
-/
namespace PlannerConfig

namespace Kind

/-- The kinds of parameter that a configuration has. -/
inductive InUse : {α : Type} → Kind α → Prop
  | boolean : InUse boolean
  | integer : InUse integer
  | double : InUse double
  | string : InUse string
  | duration : InUse duration
  | linearFunction : InUse linearFunction
  | locale : InUse locale
  | stringSet : InUse stringSet
  | feedScopedIds : InUse feedScopedIds
  | choice (κ : Type) [Choice κ] : InUse (choice κ)
  | custom {ε α : Type} (hint : String) (message : ε → String) (parse : String → Except ε α)
      (toValue : α → Value) : InUse (custom hint (fun s => refusing message (parse s)) toValue)
  | optional {α : Type} {k : Kind α} (h : InUse k) : InUse k.optional

namespace InUse

variable {α : Type} {k : Kind α}

lemma reasons (h : k.InUse) : k.Reasons := by
  induction h with
  | boolean => exact reasons_boolean
  | integer => exact reasons_integer
  | double => exact reasons_double
  | string => exact reasons_string
  | duration => exact reasons_duration
  | linearFunction => exact reasons_linearFunction
  | locale => exact reasons_locale
  | stringSet => exact reasons_stringSet
  | feedScopedIds => exact reasons_feedScopedIds
  | choice κ => exact reasons_choice κ
  | custom hint message parse toValue => exact reasons_custom hint message parse toValue
  | optional _ ih => exact ih.optional

lemma ignoresNulls (h : k.InUse) : k.IgnoresNulls := by
  induction h with
  | boolean => exact ignoresNulls_boolean
  | integer => exact ignoresNulls_integer
  | double => exact ignoresNulls_double
  | string => exact ignoresNulls_string
  | duration => exact ignoresNulls_duration
  | linearFunction => exact ignoresNulls_linearFunction
  | locale => exact ignoresNulls_locale
  | stringSet => exact ignoresNulls_stringSet
  | feedScopedIds => exact ignoresNulls_feedScopedIds
  | choice κ => exact ignoresNulls_choice κ
  | custom hint message parse toValue => exact ignoresNulls_custom hint _ toValue
  | optional _ ih => exact ih.optional

lemma refusesNull (h : k.InUse) : k.RefusesNull := by
  induction h with
  | optional _ ih =>
    intro a ha
    obtain ⟨b, hb, -⟩ := bind_eq_ok.mp ha
    exact ih b hb
  | _ => exact fun a ha => by cases ha

end InUse
end Kind

namespace Form

/-- Whether the kinds of a form are among those in use, and its optional groups are nothing without a
value. -/
def KindsInUse {σ α : Type} : Form σ α → Prop
  | ap f x => f.KindsInUse ∧ x.KindsInUse
  | zoom _ body => body.KindsInUse
  | scalar _ kind _ _ => kind.InUse
  | required _ kind _ => kind.InUse
  | enumMap _ _ kind _ _ => kind.InUse
  | eachKey kind _ => kind.InUse
  | group _ body _ => body.KindsInUse
  | optionalGroup _ body _ => body.KindsInUse ∧ body.demands = true
  | list _ element _ _ => element.KindsInUse
  | _ => True

namespace KindsInUse

variable {σ α : Type} {f : Form σ α}

lemma reasons (h : f.KindsInUse) : f.Reasons := by
  induction f with
  | ap f x ihf ihx => exact ⟨ihf h.1, ihx h.2⟩
  | zoom get body ih => exact ih h
  | scalar name kind get note => exact Kind.InUse.reasons h
  | required name kind note => exact Kind.InUse.reasons h
  | enumMap name keys kind get note => exact Kind.InUse.reasons h
  | eachKey kind note => exact Kind.InUse.reasons h
  | group name body note ih => exact ih h
  | optionalGroup name body note ih => exact ih h.1
  | list name element get note ih => exact ih h
  | _ => trivial

lemma nullAware (h : f.KindsInUse) : f.NullAware := by
  induction f with
  | ap f x ihf ihx => exact ⟨ihf h.1, ihx h.2⟩
  | zoom get body ih => exact ih h
  | scalar name kind get note => exact Kind.InUse.ignoresNulls h
  | required name kind note => exact Kind.InUse.ignoresNulls h
  | enumMap name keys kind get note => exact ⟨Kind.InUse.ignoresNulls h, Kind.InUse.refusesNull h⟩
  | eachKey kind note => exact Kind.InUse.ignoresNulls h
  | group name body note ih => exact ih h
  | optionalGroup name body note ih => exact ⟨ih h.1, h.2⟩
  | list name element get note ih => exact ih h
  | _ => trivial

end KindsInUse
end Form
end PlannerConfig
