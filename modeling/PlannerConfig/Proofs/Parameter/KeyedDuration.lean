import PlannerConfig.Proofs.Parameter.Effect
import PlannerConfig.Routing.Modes

/-!
What reading a duration with overrides registers. It makes two registrations one after the other, with
the value of the duration coerced and the declaration of the overrides checked in between, so it may stop
between them: then the record of the duration stays without that of the overrides.
-/
namespace PlannerConfig

namespace Catalog

/-- Sets records one after the other. -/
def putAll (c : Catalog) (rs : List Record) : Catalog := rs.foldl put c

lemma conflict?_congr {c d : Catalog} (h : c.root = d.root) (r : Record) :
    c.conflict? r = d.conflict? r := by
  simp only [conflict?, find?, h]

lemma root_put_congr {c d : Catalog} (h : c.root = d.root) (r : Record) :
    (c.put r).root = (d.put r).root := by
  rw [put, put, h]

end Catalog

namespace Parameter

variable {α : Type} (p : Parameter)

/-- Whether the record of a parameter comes into a catalog when the parameter is read. -/
def Registrable (r : Record) (c : Catalog) : Prop := p.note.HasSummary ∧ (c.conflict? r).isNone = true

instance (r : Record) (c : Catalog) : Decidable (p.Registrable r c) :=
  inferInstanceAs (Decidable (_ ∧ _))

variable {p} {r : Record} {c d : Catalog}

lemma registrable_congr (h : c.root = d.root) : p.Registrable r c ↔ p.Registrable r d := by
  rw [Registrable, Registrable, Catalog.conflict?_congr h]

section run

variable {step : Pass α} {outcome : Except Failure α} {paths : List Path} {s : PassState}
  (h : step.Performs (p.declaration (.parameter r)) outcome paths)
include h

lemma runFrom_of_registrable (hr : p.Registrable r s.catalog) :
    ∃ t, step.runFrom s = (outcome, t) ∧ t.catalog.root = (s.catalog.put r).root := by
  obtain ⟨summary, free⟩ := hr
  have taken : s.catalog.declare (p.declaration (.parameter r)) = .ok (s.catalog.put r) := by
    rw [declaration, if_pos summary]
    show (s.catalog.register r).mapError _ = _
    rw [Catalog.register, Option.isNone_iff_eq_none.mp free]
    rfl
  have hs := h.run s
  simp only [taken] at hs
  obtain ⟨events, hrun⟩ := hs
  exact ⟨_, hrun, Catalog.root_consumeAll⟩

lemma runFrom_of_not_registrable (hr : ¬ p.Registrable r s.catalog) :
    ∃ f, step.runFrom s = (.error f, s) := by
  have refused : ∃ f, s.catalog.declare (p.declaration (.parameter r)) = .error f := by
    unfold declaration
    split
    · rename_i summary
      show ∃ f, (s.catalog.register r).mapError _ = .error f
      unfold Catalog.register
      cases hc : s.catalog.conflict? r with
      | none => exact absurd ⟨summary, by simp [hc]⟩ hr
      | some conflict => exact ⟨_, rfl⟩
    · exact ⟨_, rfl⟩
  obtain ⟨f, hf⟩ := refused
  have hs := h.run s
  simp only [hf] at hs
  exact ⟨f, hs⟩

end run

variable (p)

/-- The record of a duration. -/
def durationRecord (default : Value) : Record := p.scalarRecord Kind.duration.generic (some default)

/-- The record of the overrides of a duration. -/
def overridesRecord (keyType : EnumType) : Record :=
  p.mapRecord keyType.enumeration Kind.duration.generic (.map [])

/-- The records that reading a duration with overrides registers. That of the overrides comes in if the
duration could be read, the keys have a type, the parameters are siblings, and the overrides have a summary
and a path without conflict beside the duration. -/
def keyedDurationRecords (default : Value) (overrides : Parameter) (keyType : Option EnumType)
    (c : Catalog) : List Record :=
  let duration := p.durationRecord default
  if p.Registrable duration c then
    match p.scalarValue Kind.duration.generic default.given?, keyType with
    | .ok _, some t =>
      if overrides.node.path.dropLast = p.node.path.dropLast
          ∧ overrides.Registrable (overrides.overridesRecord t) (c.put duration)
      then [duration, overrides.overridesRecord t]
      else [duration]
    | _, _ => [duration]
  else []

/-- A duration with overrides that is read has made both registrations; one that is not may have made that
of the duration alone. Overrides at the path of the duration itself take the place of its record. -/
theorem keyedDuration_registers (default : Value) (overrides : Parameter) (keyType : Option EnumType)
    (s : PassState) :
    let (outcome, t) := (p.keyedDuration default overrides keyType).runFrom s
    let records := p.keyedDurationRecords default overrides keyType s.catalog
    t.catalog.root = (s.catalog.putAll records).root
      ∧ (outcome.isOk = false ∨ records.length = 2) := by
  have first := performs_generic (p := p) Kind.duration default
  unfold keyedDuration keyedDurationRecords
  rw [Pass.runFrom_bind]
  by_cases hr : p.Registrable (p.durationRecord default) s.catalog
  · -- the duration is registered; what is left decides on the overrides only
    obtain ⟨u, hrun, tree⟩ := runFrom_of_registrable first hr
    rw [hrun]
    simp only [if_pos hr]
    cases hvalue : p.scalarValue Kind.duration.generic default.given? with
    | error f => exact ⟨tree, .inl rfl⟩
    | ok value =>
      cases keyType with
      | none => exact ⟨tree, .inl rfl⟩
      | some t =>
        by_cases hsibling : overrides.node.path.dropLast = p.node.path.dropLast
        · have second := (performs_entries (p := overrides) t.enumeration Kind.duration.generic
            (.map [])).map fun map => (⟨value, map.getD []⟩ : Keyed Member Value)
          simp only [hsibling, ne_eq, not_true_eq_false, if_false, true_and]
          by_cases hmap : overrides.Registrable (overrides.overridesRecord t)
              (s.catalog.put (p.durationRecord default))
          · obtain ⟨v, hv, both⟩ := runFrom_of_registrable second ((registrable_congr tree).mpr hmap)
            simp only [if_pos hmap]
            rw [hv]
            exact ⟨both.trans (Catalog.root_put_congr tree _), .inr rfl⟩
          · obtain ⟨f, hf⟩ := runFrom_of_not_registrable second (mt (registrable_congr tree).mp hmap)
            simp only [if_neg hmap]
            rw [hf]
            exact ⟨tree, .inl rfl⟩
        · simp only [hsibling, ne_eq, not_false_eq_true, if_true, false_and, if_false]
          exact ⟨tree, .inl rfl⟩
  · obtain ⟨f, hf⟩ := runFrom_of_not_registrable first hr
    simp only [hf, if_neg hr]
    exact ⟨rfl, .inl rfl⟩

/-- A duration that cannot be read is registered without its overrides, and so is one whose keys have no
type. -/
theorem duration_registered_alone :
    let root := Node.root (.object [("slack", .text "soon")])
    let note : Note := { summary := "Slack." }
    let overrides := root.parameter "slackForMode" note
    let unfit := ((root.parameter "slack" note).keyedDuration .required overrides
      (some (Choice.enumType TransitMode))).runFrom {}
    let untyped := ((root.parameter "other" note).keyedDuration (.duration { microseconds := 0 })
      overrides none).runFrom {}
    unfit.1.isOk = false ∧ unfit.2.catalog.contains ["slack"] = true
      ∧ unfit.2.catalog.contains ["slackForMode"] = false
      ∧ untyped.1.isOk = false ∧ untyped.2.catalog.contains ["other"] = true
      ∧ untyped.2.catalog.contains ["slackForMode"] = false := by
  decide +kernel

end Parameter
end PlannerConfig
