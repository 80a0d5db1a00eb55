import PlannerConfig.Parameter.Generic
import PlannerConfig.Proofs.Parameter.Values
import PlannerConfig.Proofs.Pass.Runs

/-!
All that reading a parameter does to a pass. It makes one declaration, before it looks at the document; if
that is refused nothing happens, and else the outcome and the places that are consumed depend on the value
alone, not on the catalog.
-/
namespace PlannerConfig

open PlannerConfig.Text

/-- Whether a failure tells of a mistake in the declaration of parameters. -/
def Failure.isMistake : Failure → Bool
  | misdeclared .. => true
  | conflict .. => true
  | _ => false

/-- The mistake for which a step fails, if that is why. -/
def mistake? {α : Type} : Except Failure α → Option Failure
  | .error f => if f.isMistake then some f else none
  | .ok _ => none

namespace Catalog

/-- What comes of a declaration: a failure at once, a refusal, or a catalog with the call made. -/
def declare (c : Catalog) (declaration : Except Failure Call) : Except Failure Catalog := do
  (c.call (← declaration)).mapError .conflict

variable {c d : Catalog} {declaration : Except Failure Call}

lemma declare_of_refused {call : Call} {conflict : Conflict} (h : c.call call = .error conflict) :
    c.declare (.ok call) = .error (.conflict conflict) := by
  show (c.call call).mapError Failure.conflict = _
  rw [h]
  rfl

lemma declare_of_taken {call : Call} (h : c.call call = .ok d) : c.declare (.ok call) = .ok d := by
  show (c.call call).mapError Failure.conflict = _
  rw [h]
  rfl

lemma isMistake_of_declare {f : Failure} (h : ∀ g, declaration = .error g → g.isMistake = true)
    (hd : c.declare declaration = .error f) : f.isMistake = true := by
  cases declaration with
  | error g =>
    obtain rfl : g = f := Except.error.inj hd
    exact h g rfl
  | ok call =>
    cases hc : c.call call with
    | error conflict =>
      obtain rfl : .conflict conflict = f := Except.error.inj ((declare_of_refused hc).symm.trans hd)
      rfl
    | ok d => cases (declare_of_taken hc).symm.trans hd

lemma isConsumed_declare (hd : c.declare declaration = .ok d) (path : Path) :
    d.isConsumed path = c.isConsumed path := by
  cases declaration with
  | error g => cases hd
  | ok call =>
    cases hc : c.call call with
    | error conflict => cases (declare_of_refused hc).symm.trans hd
    | ok e =>
      obtain rfl : e = d := Except.ok.inj ((declare_of_taken hc).symm.trans hd)
      rw [call_eq_put hc]
      rfl

end Catalog

namespace Pass

variable {α β κ : Type}

/-- A step that makes a declaration, and if that is taken comes to an outcome and consumes some places.
Only a mistake is no declaration. -/
structure Performs (p : Pass α) (declaration : Except Failure Call) (outcome : Except Failure α)
    (paths : List Path) : Prop where
  mistake : ∀ f, declaration = .error f → f.isMistake = true
  run : ∀ s : PassState, match s.catalog.declare declaration with
    | .error f => p.runFrom s = (.error f, s)
    | .ok c => ∃ events, p.runFrom s = (outcome, ⟨c.consumeAll paths, events⟩)

namespace Performs

variable {p : Pass α} {declaration : Except Failure Call} {outcome : Except Failure α}
  {paths : List Path}

lemma throw {f : Failure} (h : f.isMistake = true) (outcome : Except Failure α) (paths : List Path) :
    Performs (MonadExcept.throw f) (.error f) outcome paths where
  mistake := fun g hg => by
    cases hg
    exact h
  run := fun _ => rfl

/-- A step behind a registration. -/
lemma after_register (r : Record)
    (h : ∀ s, ∃ events, p.runFrom s = (outcome, ⟨s.catalog.consumeAll paths, events⟩)) :
    Performs (do Pass.register r; p) (.ok (.parameter r)) outcome paths where
  mistake := fun _ hf => by cases hf
  run := by
    intro s
    have call : s.catalog.declare (.ok (.parameter r)) = (s.catalog.register r).mapError .conflict := rfl
    rw [call]
    unfold Pass.register
    simp only [runFrom_bind, runFrom_get]
    cases s.catalog.register r with
    | error c => rfl
    | ok c =>
      obtain ⟨events, he⟩ := runFrom_tellReplaced r.path s
      simp only [runFrom_bind, he, runFrom_setCatalog]
      exact h ⟨c, events⟩

/-- A step behind the registration of a group. -/
lemma after_registerGroup (r : Record) (x : Except Failure α) :
    Performs (do Pass.registerGroup r; ofExcept x) (.ok (.group r)) x [] where
  mistake := fun _ hf => by cases hf
  run := by
    intro s
    show ∃ events, _ = (x, (⟨s.catalog.put r, events⟩ : PassState))
    obtain ⟨events, he⟩ := runFrom_tellReplaced r.path s
    unfold Pass.registerGroup
    simp only [runFrom_bind, he, runFrom_get, runFrom_setCatalog, runFrom_ofExcept]
    exact ⟨events, rfl⟩

lemma register (r : Record) (x : Except Failure α) :
    Performs (do Pass.register r; ofExcept x) (.ok (.parameter r)) x [] := by
  apply after_register
  intro s
  exact ⟨s.events, runFrom_ofExcept x s⟩

lemma register_consume (r : Record) (n : Node) (x : Except Failure α) :
    Performs (do Pass.register r; Pass.consume n; ofExcept x) (.ok (.parameter r)) x [n.path] := by
  apply after_register
  intro s
  refine ⟨s.events, ?_⟩
  unfold Pass.consume
  simp only [runFrom_bind, runFrom_get, runFrom_setCatalog, runFrom_ofExcept]
  rfl

lemma map (f : α → β) (h : Performs p declaration outcome paths) :
    Performs (do return f (← p)) declaration (outcome.map f) paths where
  mistake := h.mistake
  run := by
    intro s
    have hs := h.run s
    rw [runFrom_bind]
    cases hd : s.catalog.declare declaration with
    | error g =>
      simp only [hd] at hs ⊢
      rw [hs]
    | ok c =>
      simp only [hd] at hs ⊢
      obtain ⟨events, hrun⟩ := hs
      refine ⟨events, ?_⟩
      rw [hrun]
      cases outcome <;> rfl

/-- The effect of a step whose declaration is a call tells what it does when it succeeds. -/
lemma runs {call : Call} (h : Performs p (.ok call) outcome paths) : Runs p outcome [call] paths := by
  have run : ∀ s c, s.catalog.call call = .ok c →
      ∃ events, p.runFrom s = (outcome, ⟨c.consumeAll paths, events⟩) := by
    intro s c hc
    simpa only [Catalog.declare_of_taken hc] using h.run s
  constructor
  · intro s a c
    simp only [Catalog.absorb_eq_ok_iff, Catalog.callAll_cons, Catalog.callAll_nil]
    cases hcall : s.catalog.call call with
    | error conflict =>
      have stopped : p.runFrom s = (.error (.conflict conflict), s) := by
        simpa only [Catalog.declare_of_refused hcall] using h.run s
      simp [stopped]
    | ok d =>
      obtain ⟨events, hrun⟩ := run s d hcall
      simp [hrun, eq_comm]
  · intro s c hc
    obtain ⟨d, hd, -⟩ := Catalog.callAll_cons.mp hc
    obtain ⟨events, hrun⟩ := run s d hd
    rw [hrun]

end Performs

end Pass

/-- The default to fall back on, unless it is the mark of a required value. -/
def Value.given? : Value → Option Value
  | .required => Option.none
  | v => some v

namespace Parameter

variable {α κ : Type} {p : Parameter}

instance (note : Note) : Decidable note.HasSummary :=
  inferInstanceAs (Decidable (collapse note.summary ≠ ""))

/-- The declaration by a call, which fails if nothing is said of the parameter. -/
def declaration (p : Parameter) (call : Call) : Except Failure Call :=
  if p.note.HasSummary then .ok call else .error (.misdeclared p.node.path .noSummary)

lemma declaration_of_hasSummary (h : p.note.HasSummary) (call : Call) : p.declaration call = .ok call :=
  if_pos h

lemma performs_of_record {type : ValueType} {default : Value} {k : Record → Pass α} {call : Call}
    {outcome : Except Failure α} {paths : List Path}
    (h : p.note.HasSummary →
      Pass.Performs (k (p.note.record p.node.docPath type default)) (.ok call) outcome paths) :
    Pass.Performs (p.record type default >>= k) (p.declaration call) outcome paths := by
  unfold declaration
  split
  · rename_i hs
    rw [record_eq hs, pure_bind]
    exact h hs
  · rename_i hs
    have hnone : Record.ofNote? p.node.docPath type default p.note = none := by
      simpa [Record.ofNote?, nonempty?, Note.HasSummary] using hs
    unfold record
    rw [hnone]
    exact .throw rfl _ _

/-- The value of a parameter is consumed before it is coerced. -/
lemma performs_scalar (kind : Kind α) (default : Option α) :
    Pass.Performs (p.scalar kind default) (p.declaration (.parameter (p.scalarRecord kind default)))
      (p.scalarValue kind default) (if p.node.isMissing then [] else [p.node.path]) := by
  apply performs_of_record
  intro _
  unfold scalarValue
  split
  · cases default with
    | none => exact .register _ (.error (.missing p.node.path))
    | some a => exact .register _ (.ok a)
  · rw [Node.coerceAt_eq]
    exact .register_consume _ p.node _

/-- The value of a map is consumed once it is known to be an object. -/
lemma performs_entries [BEq κ] (keys : Enumeration κ) (kind : Kind α) (default : Value) :
    Pass.Performs (p.entries keys kind default)
      (p.declaration (.parameter (p.mapRecord keys kind default)))
      (p.mapValue keys kind) (if p.node.isObject then [p.node.path] else []) := by
  apply performs_of_record
  intro _
  unfold mapValue
  by_cases hmissing : p.node.isMissing = true
  · have hobject := Node.isObject_of_isMissing hmissing
    simp only [hmissing, hobject, if_true, Bool.false_eq_true, if_false]
    exact .register _ (.ok none)
  · cases hobject : p.node.isObject with
    | false =>
      simp only [hmissing, Bool.not_false, if_true, Bool.false_eq_true, if_false]
      exact .register _ (.error _)
    | true =>
      have read : p.node.keys.mapM (entryAt keys kind p.node)
          = Pass.ofExcept (p.node.keys.mapM (p.node.entry keys kind)) := by
        rw [Pass.ofExcept_mapM]
        congr 1
        funext key
        exact entryAt_eq keys kind p.node key
      simp only [hmissing, Bool.not_true, if_true, Bool.false_eq_true, if_false, read]
      have folded : ∀ fold : List (κ × α) → List (κ × α),
          (do
            let read ← Pass.ofExcept (p.node.keys.mapM (p.node.entry keys kind))
            return some (fold read) : Pass (Option (List (κ × α))))
            = Pass.ofExcept (do
                let read ← p.node.keys.mapM (p.node.entry keys kind)
                return some (fold read)) := by
        intro fold
        rw [Pass.ofExcept_bind]
        rfl
      rw [folded]
      exact .register_consume _ p.node _

lemma performs_generic (kind : Kind α) (default : Value) :
    Pass.Performs (p.generic kind default)
      (p.declaration (.parameter (p.scalarRecord kind.generic (some default))))
      (p.scalarValue kind.generic default.given?)
      (if p.node.isMissing then [] else [p.node.path]) := by
  have performs := performs_scalar (p := p) kind.generic default.given?
  cases default <;> exact performs

lemma performs_object :
    Pass.Performs p.object (p.declaration (.group (p.groupRecord .object))) p.node.group [] := by
  apply performs_of_record
  intro _
  have body : (if p.node.isMissing || p.node.isObject then pure p.node
      else throw (.ofMismatch p.node.path ValueType.object.docName p.node.value) : Pass Node)
      = Pass.ofExcept p.node.group := by
    unfold Node.group
    split <;> rfl
  rw [body]
  exact .after_registerGroup _ _

lemma performs_objectList :
    Pass.Performs p.objectList (p.declaration (.group (p.groupRecord .objectList))) p.node.groups
      [] := by
  apply performs_of_record
  intro _
  simp only [checkObject_eq, ← Pass.ofExcept_forM]
  have body : (if p.node.isMissing then pure []
      else if !p.node.isArray then
        throw (.ofMismatch p.node.path ValueType.objectList.docName p.node.value)
      else do
        Pass.ofExcept (p.node.elements.forM Node.checkObject)
        return p.node.elements : Pass (List Node)) = Pass.ofExcept p.node.groups := by
    unfold Node.groups
    split
    · rfl
    · split
      · rfl
      · rw [Pass.ofExcept_bind]
        rfl
  rw [body]
  exact .after_registerGroup _ _

/-- A parameter that something is said of is registered, and nothing else decides what it gives. -/
lemma runs_of_performs {q : Pass α} {call : Call} {outcome : Except Failure α} {paths : List Path}
    (h : p.note.HasSummary) (hq : q.Performs (p.declaration call) outcome paths) :
    q.Runs outcome [call] paths := by
  rw [declaration_of_hasSummary h] at hq
  exact hq.runs

section
variable (h : p.note.HasSummary)
include h

lemma runs_scalar (kind : Kind α) (default : Option α) :
    Pass.Runs (p.scalar kind default) (p.scalarValue kind default)
      [.parameter (p.scalarRecord kind default)]
      (if p.node.isMissing then [] else [p.node.path]) :=
  runs_of_performs h (performs_scalar kind default)

lemma runs_entries [BEq κ] (keys : Enumeration κ) (kind : Kind α) (default : Value) :
    Pass.Runs (p.entries keys kind default) (p.mapValue keys kind)
      [.parameter (p.mapRecord keys kind default)]
      (if p.node.isMissing then [] else [p.node.path]) := by
  refine (runs_of_performs h (performs_entries keys kind default)).of_ok fun es hes => ?_
  unfold mapValue at hes
  cases hmissing : p.node.isMissing with
  | true => simp [Node.isObject_of_isMissing hmissing]
  | false =>
    cases hobject : p.node.isObject with
    | true => rfl
    | false => simp [hmissing, hobject] at hes

lemma runs_object : Pass.Runs p.object p.node.group [.group (p.groupRecord .object)] [] :=
  runs_of_performs h performs_object

lemma runs_objectList :
    Pass.Runs p.objectList p.node.groups [.group (p.groupRecord .objectList)] [] :=
  runs_of_performs h performs_objectList

end

end Parameter
end PlannerConfig
