import PlannerConfig.Proofs.Load

/-!
Mapping a whole document without strictness gives the value of the form at its root, or fails as
that value does. The catalog has no part in it.
-/
namespace PlannerConfig

/-- A check that is not strict does not change the outcome. -/
lemma Pass.thenCheck_lax {α : Type} (p : Pass α) (n : Node) (s : PassState) :
    ((p.thenCheck n false).runFrom s).1 = (p.runFrom s).1 := by
  rcases hp : p.runFrom s with ⟨x, t⟩
  cases x with
  | error f =>
    unfold thenCheck
    rw [runFrom_bind, hp]
  | ok a =>
    obtain ⟨u, hu⟩ := runFrom_thenCheck_lax (n := n) hp
    rw [hu]

section

variable (document : Document) (features : FeatureSet) (source : Option String)

theorem BuildConfig.outcome_load : (load document features false source).run.1
    = (form features).value {} (.root document source) := by
  rw [run_load, Pass.thenCheck_lax]
  exact Form.runFrom_read (declared_form features) (separate_form features) _ _ _

/-- A mapping that succeeds gives the value of the form, strict or not. -/
lemma BuildConfig.value_of_load {document : Document} {features : FeatureSet}
    {source : Option String} {strict : Bool} {config : BuildConfig}
    (h : (load document features strict source).run.1 = .ok config) :
    (form features).value {} (.root document source) = .ok config := by
  rw [run_load] at h
  exact (Form.value_of_thenCheck (declared_form features) (Prod.ext h rfl)).1

theorem RouteRequest.outcome_loadDefaults : (loadDefaults document features false source).run.1
    = (defaultForm features routingDefaultsKey).value {} (.root document source) := by
  rw [run_loadDefaults, Pass.thenCheck_lax]
  exact Form.runFrom_read (declared_defaultForm features _) (separate_defaultForm features) _ _ _

end

end PlannerConfig
