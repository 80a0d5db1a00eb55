import PlannerConfig.Proofs.Parameter.Effect
import PlannerConfig.Routing.Modes
import PlannerConfig.Unknown

/-!
The places that reading a parameter consumes. They can be told from the value: the place of the parameter,
unless there is no value or the parameter is a map and the value is no object.
-/
namespace PlannerConfig

namespace Pass

variable {α β : Type}

/-- A step that consumes the same places whatever the catalog holds, unless its declaration is refused. -/
def Consumes (p : Pass α) (paths : List Path) : Prop :=
  ∃ declaration outcome, Performs p declaration outcome paths

namespace Consumes

variable {p : Pass α} {paths : List Path}

lemma throw {f : Failure} (h : f.isMistake = true) (paths : List Path) :
    Consumes (MonadExcept.throw f : Pass α) paths :=
  ⟨.error f, .error f, .throw h _ paths⟩

/-- What comes after may change the value and do nothing else. -/
lemma bind_pure {k : α → Pass β} (h : Consumes p paths) (hk : ∀ a, ∃ b, k a = pure b) :
    Consumes (p >>= k) paths := by
  choose f hf using hk
  obtain rfl : k = fun a => pure (f a) := funext hf
  obtain ⟨declaration, outcome, hp⟩ := h
  exact ⟨declaration, outcome.map f, hp.map f⟩

lemma map (f : α → β) (h : Consumes p paths) : Consumes (do return f (← p)) paths :=
  h.bind_pure fun a => ⟨f a, rfl⟩

/-- The places that are consumed after a step which did not fail for a mistake. -/
lemma isConsumed_iff (h : Consumes p paths) (s : PassState)
    (hm : mistake? (p.runFrom s).1 = none) (path : Path) :
    (p.runFrom s).2.catalog.isConsumed path = true
      ↔ s.catalog.isConsumed path = true ∨ path ∈ paths := by
  obtain ⟨declaration, outcome, hp⟩ := h
  have hs := hp.run s
  cases hd : s.catalog.declare declaration with
  | error f =>
    simp only [hd] at hs
    have mistake : f.isMistake = true := Catalog.isMistake_of_declare hp.mistake hd
    simp [hs, mistake?, mistake] at hm
  | ok c =>
    simp only [hd] at hs
    obtain ⟨events, hrun⟩ := hs
    rw [hrun, Catalog.isConsumed_consumeAll, Catalog.isConsumed_declare hd]
    exact or_comm

end Consumes
end Pass

namespace Parameter

variable {α : Type} {p : Parameter}

/-- The places that reading a parameter of a type consumes. -/
def consumed (p : Parameter) : ValueType → List Path
  | .enumMap => if p.node.isObject then [p.node.path] else []
  | _ => if p.node.isMissing then [] else [p.node.path]

lemma mem_consumed {type : ValueType} {path : Path} :
    path ∈ p.consumed type ↔ path = p.node.path ∧ p.node.isMissing = false
      ∧ (type = .enumMap → p.node.isObject = true) := by
  by_cases hm : type = .enumMap
  · subst hm
    have present : p.node.isObject = true → p.node.isMissing = false := by
      intro h
      cases hv : p.node.value <;> simp_all [Node.isObject, Node.isMissing]
    unfold consumed
    cases hobject : p.node.isObject with
    | false => simp
    | true => simp [present hobject]
  · have same : p.consumed type = if p.node.isMissing then [] else [p.node.path] := by
      cases type <;> first | rfl | contradiction
    rw [same]
    cases p.node.isMissing <;> simp [hm]

lemma consumes_generic (kind : Kind α) (default : Value) :
    Pass.Consumes (p.generic kind default) (if p.node.isMissing then [] else [p.node.path]) :=
  ⟨_, _, performs_generic kind default⟩

lemma consumes_misdeclared (cause : Misdeclaration) (paths : List Path) :
    Pass.Consumes (p.misdeclared cause : Pass α) paths := .throw rfl paths

lemma consumes_genericEnum (enumType : Option EnumType) (default : Value) :
    Pass.Consumes (p.genericEnum enumType default) (p.consumed .enum) := by
  cases enumType with
  | some t => exact consumes_generic (.enum t.enumeration) default
  | none =>
    cases default with
    | member m => exact consumes_generic (.enum m.type.enumeration) (.member m)
    | _ => exact consumes_misdeclared .noEnumType _

lemma consumes_genericMap (keyType : EnumType) (valueType : MapValueType) (default : Value) :
    Pass.Consumes (p.genericMap keyType valueType default) (p.consumed .enumMap) := by
  unfold genericMap
  cases valueType.kind? with
  | none => exact consumes_misdeclared (.unsupportedMapValue valueType.name) _
  | some kind =>
    apply Pass.Consumes.bind_pure ⟨_, _, performs_entries keyType.enumeration kind _⟩
    intro es
    cases es <;> exact ⟨_, rfl⟩

lemma consumes_option {β : Type} (type : ValueType) (name : String) (x : Option α) {k : α → Pass β}
    {paths : List Path} (h : ∀ a, Pass.Consumes (k a) paths) :
    Pass.Consumes (p.option type name x >>= k) paths := by
  cases x with
  | none => exact consumes_misdeclared (.missingOption type name) paths
  | some a => exact h a

/-- A parameter of any type but those of groups. -/
lemma consumes_read {type : ValueType} (hg : type.isGroup = false) (default : Value)
    (options : ReadOptions) :
    Pass.Consumes (p.read type default options) (p.consumed type) := by
  cases type with
  | boolean => exact (consumes_generic Kind.boolean default).map Reading.value
  | integer => exact (consumes_generic Kind.integer default).map Reading.value
  | double => exact (consumes_generic Kind.double default).map Reading.value
  | string => exact (consumes_generic Kind.string default).map Reading.value
  | duration => exact (consumes_generic Kind.duration default).map Reading.value
  | linearFunction => exact (consumes_generic Kind.linearFunction default).map Reading.value
  | locale => exact (consumes_generic Kind.locale default).map Reading.value
  | stringSet => exact (consumes_generic Kind.stringSet default).map Reading.value
  | feedScopedIdList => exact (consumes_generic Kind.feedScopedIds default).map Reading.value
  | enum => exact (consumes_genericEnum options.enumType default).map Reading.value
  | enumSet =>
    apply consumes_option
    intro t
    exact (consumes_generic (.enumSet t.enumeration) default).map Reading.value
  | enumMap =>
    apply consumes_option
    intro keyType
    apply consumes_option
    intro valueType
    exact (consumes_genericMap keyType valueType default).map Reading.value
  | custom =>
    apply consumes_option
    intro hint
    apply consumes_option
    intro parse
    exact (consumes_generic (.custom hint parse id) default).map Reading.value
  | object => cases hg
  | objectList => cases hg

/-- The places that are consumed after a parameter of any type was read, from any catalog: with a value or
a failure, unless its declaration is a mistake. A value that is no object is not consumed by a map. -/
theorem isConsumed_read_iff (p : Parameter) (type : ValueType) (default : Value)
    (options : ReadOptions) (s : PassState) (hg : type.isGroup = false)
    (hm : mistake? ((p.read type default options).runFrom s).1 = none) (path : Path) :
    ((p.read type default options).runFrom s).2.catalog.isConsumed path = true ↔
      s.catalog.isConsumed path = true ∨ path = p.node.path ∧ p.node.isMissing = false
        ∧ (type = .enumMap → p.node.isObject = true) := by
  rw [(consumes_read hg default options).isConsumed_iff s hm, mem_consumed]

/-- A text where a number should be is consumed, though it makes the reading fail. -/
theorem isConsumed_read_iff_unfit :
    let root := Node.root (.object [("speed", .text "fast")])
    let p := root.parameter "speed" { summary := "Speed." }
    let run := (p.read .integer .required {}).runFrom {}
    ValueType.integer.isGroup = false ∧ mistake? run.1 = none
      ∧ run.1.isOk = false ∧ run.2.catalog.isConsumed [.key "speed"] = true := by
  intro root p run
  have hm : mistake? run.1 = none := by decide +kernel
  exact ⟨rfl, hm, by decide +kernel,
    (isConsumed_read_iff p .integer .required {} {} rfl hm [.key "speed"]).mpr
      (.inr ⟨rfl, rfl, by decide⟩)⟩

/-- A text where a map should be is not consumed: the failure tells of it, and then it is among the
unknown values as well. -/
theorem unfit_map_not_consumed :
    let root := Node.root (.object [("costs", .text "none")])
    let p := root.parameter "costs" { summary := "Costs." }
    let options : ReadOptions :=
      { keyType := some (Choice.enumType TransitMode), mapValueType := some .double }
    let run := (p.read .enumMap .none options).runFrom {}
    run.1 = .error (.mismatch [.key "costs"] "enum map of double" "none" none)
      ∧ p.node.isMissing = false ∧ run.2.catalog.isConsumed [.key "costs"] = false
      ∧ run.2.catalog.unknown root = ["costs"] := by
  exact ⟨rfl, rfl, by decide +kernel, by decide +kernel⟩

end Parameter
end PlannerConfig
