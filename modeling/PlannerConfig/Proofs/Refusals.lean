import PlannerConfig.Proofs.Form.Refusals
import PlannerConfig.Proofs.Outcome

/-!
Why mapping a whole document fails. All kinds of this configuration have reasons, no registration is
refused and nothing is declared wrongly, so what is left are the values of the document.
-/
namespace PlannerConfig

open PlannerConfig.Number

/-- Why a mapping of a document fails: a value is missing or does not fit, or strictness finds values
that nobody reads. A value that does not fit is not told if a long integer keeps it from being written. -/
inductive Refused (document : Document) (strict : Bool) : Failure → Prop
  | missing (path : Path) : Refused document strict (.missing path)
  | mismatch (path : Path) (expected raw : String) (reason : Option String) :
    Refused document strict (.mismatch path expected raw reason)
  | unknown (paths : List String) (source : Option String) (h : strict = true) :
    Refused document strict (.unknown paths source)
  | unwritable (h : ¬document.Writable) : Refused document strict .unwritable

lemma RouteRequest.reasons_form (features : FeatureSet) : (form features).Reasons :=
  (kindsInUse_form features).reasons

lemma BuildConfig.reasons_form (features : FeatureSet) : (form features).Reasons :=
  (kindsInUse_form features).reasons

/-- A check for unknown values adds one failure to those of a step, and only if it is strict. -/
lemma Pass.settles_thenCheck {α : Type} {p : Pass α} {n : Node} {strict : Bool} {s : PassState}
    {P : α → Prop} {R : Failure → Prop} (h : Settles P R (p.runFrom s).1)
    (hunknown : ∀ paths, strict = true → R (.unknown paths n.source)) :
    Settles P R ((p.thenCheck n strict).runFrom s).1 := by
  cases strict with
  | false => rwa [thenCheck_lax]
  | true =>
    rcases hp : p.runFrom s with ⟨x, t⟩
    rw [hp] at h
    cases x with
    | error f =>
      have failed : ((p.thenCheck n true).runFrom s).1 = .error f := by
        unfold thenCheck
        rw [runFrom_bind, hp]
      rwa [failed]
    | ok a =>
      rw [runFrom_thenCheck_strict hp]
      split
      · exact h
      · exact hunknown _ rfl

section

variable {document : Document} {features : FeatureSet} {strict : Bool} {source : Option String}

/-- What is known of the value of the form is known of the mapping, apart from what strictness rejects. -/
lemma BuildConfig.settles_load {P : BuildConfig → Prop} {R : Failure → Prop}
    (h : Settles P R ((form features).value {} (.root document source)))
    (hunknown : ∀ paths, strict = true → R (.unknown paths source)) :
    Settles P R (load document features strict source).run.1 := by
  rw [run_load]
  apply Pass.settles_thenCheck _ hunknown
  rwa [Form.runFrom_read (declared_form features) (separate_form features)]

lemma RouteRequest.settles_loadDefaults {P : RouteRequest → Prop} {R : Failure → Prop}
    (h : Settles P R ((defaultForm features routingDefaultsKey).value {} (.root document source)))
    (hunknown : ∀ paths, strict = true → R (.unknown paths source)) :
    Settles P R (loadDefaults document features strict source).run.1 := by
  rw [run_loadDefaults]
  apply Pass.settles_thenCheck _ hunknown
  rwa [Form.runFrom_read (declared_defaultForm features _) (separate_defaultForm features)]

end

/-- What fails at the root of a document fails for the document. -/
lemma Node.Fails.refused {document : Document} {source : Option String} {f : Failure}
    (h : (Node.root document source).Fails f) (strict : Bool) : Refused document strict f := by
  cases h with
  | missing path => exact .missing path
  | mismatch path expected raw reason => exact .mismatch path expected raw reason
  | unwritable d hd hw =>
    obtain ⟨rfl, -⟩ := Document.present?_eq_some.mp hd
    exact .unwritable hw

/-- Mapping a document gives a value or fails for what the document holds. Where no integer is long, it
is told which value is missing or does not fit, or which values nobody reads. -/
theorem refusals_of_documents (document : Document) (features : FeatureSet) (strict : Bool)
    (source : Option String) :
    Settles (fun _ => True) (Refused document strict)
        (BuildConfig.load document features strict source).run.1
      ∧ Settles (fun _ => True) (Refused document strict)
        (RouteRequest.loadDefaults document features strict source).run.1 := by
  have unknown : ∀ paths, strict = true → Refused document strict (.unknown paths source) :=
    fun paths h => .unknown paths source h
  constructor
  · apply BuildConfig.settles_load _ unknown
    exact (Form.settled_value (BuildConfig.reasons_form features) {} (.root document source)).mono
      (fun _ _ => trivial) fun _ h => h.refused strict
  · apply RouteRequest.settles_loadDefaults _ unknown
    exact (Form.settled_value (f := RouteRequest.defaultForm features routingDefaultsKey)
      (RouteRequest.reasons_form features) {} (.root document source)).mono
      (fun _ _ => trivial) fun _ h => h.refused strict

/-- A long integer where a text should be is not told as a value that does not fit. -/
lemma BuildConfig.load_long_version {n : Int} (h : IsLong n) :
    (load (.object [("configVersion", .int n)]) .empty false none).run.1 = .error .unwritable := by
  have mismatched : (load (.object [("configVersion", .int n)]) .empty false none).run.1
      = .error (.ofMismatch [.key "configVersion"] "string" (some (.int n))
          "Expected a text value") := by
    rw [outcome_load]
    rfl
  have unshown : Document.rawText? (some (.int n)) = none := by
    rw [← Option.not_isSome_iff_eq_none, Document.isSome_rawText?_iff]
    exact fun hw => hw n (List.mem_singleton_self n) h
  rw [mismatched, Failure.ofMismatch, unshown]

theorem BuildConfig.load_power_of_ten :
    let power : Nat := tenTo maxIntegerDigits
    (load (.object [("configVersion", .int power)]) .empty false none).run.1
      = .error .unwritable := by
  intro power
  have long : IsLong power := (Int.natAbs_natCast power).ge
  exact load_long_version long

end PlannerConfig
