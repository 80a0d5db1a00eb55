import PlannerConfig.Proofs.Catalog.Replacement

/-!
What a reading leaves in a catalog: registrations, which may be refused, and consumed places of the
document. The two do not touch each other, so they may be told apart.
-/
namespace PlannerConfig
namespace Catalog

def consumeAll (c : Catalog) (paths : List Path) : Catalog := paths.foldl consume c

/-- The catalog after registrations and with places consumed. -/
def absorb (c : Catalog) (calls : List Call) (paths : List Path) : Except Conflict Catalog :=
  (c.callAll calls).map fun d => d.consumeAll paths

variable {c d : Catalog} {calls more : List Call} {paths others : List Path}

@[simp] lemma root_consume (p : Path) : (c.consume p).root = c.root := by
  unfold consume
  split <;> rfl

@[simp] lemma root_consumeAll : (c.consumeAll paths).root = c.root := by
  induction paths generalizing c with
  | nil => rfl
  | cons p paths ih => exact ih.trans (root_consume p)

@[simp] lemma contains_consumeAll {p : List String} :
    (c.consumeAll paths).contains p = c.contains p := by
  simp only [contains, find?, root_consumeAll]

lemma Sound.consumeAll (h : c.Sound) : (c.consumeAll paths).Sound where
  placed := by simpa using h.placed
  record_root := by simpa using h.record_root
  uncovered := by simpa using h.uncovered

lemma isConsumed_consumeAll {p : Path} :
    (c.consumeAll paths).isConsumed p = true ↔ p ∈ paths ∨ c.isConsumed p = true := by
  induction paths generalizing c with
  | nil => simp [consumeAll]
  | cons q paths ih =>
    have step : c.consumeAll (q :: paths) = (c.consume q).consumeAll paths := rfl
    rw [step, ih, isConsumed_consume, List.mem_cons]
    tauto

lemma isConsumed_callAll {p : Path} (h : c.callAll calls = .ok d) :
    d.isConsumed p = c.isConsumed p := by
  induction calls generalizing c with
  | nil => rw [callAll_nil.mp h]
  | cons call calls ih =>
    obtain ⟨e, he, h⟩ := callAll_cons.mp h
    rw [ih h, call_eq_put he]
    rfl

lemma put_consume (r : Record) (p : Path) : (c.consume p).put r = (c.put r).consume p := by
  unfold consume
  have same : (c.put r).isConsumed p = c.isConsumed p := rfl
  rw [same]
  split <;> rfl

lemma call_consume (call : Call) (p : Path) :
    (c.consume p).call call = (c.call call).map fun d => d.consume p := by
  cases call with
  | parameter r =>
    have same : (c.consume p).conflict? r = c.conflict? r := by
      simp only [conflict?, find?, root_consume]
    simp only [Catalog.call, register, same]
    split
    · rfl
    · exact congrArg Except.ok (put_consume r p)
  | group r => exact congrArg Except.ok (put_consume r p)

lemma call_consumeAll (call : Call) :
    (c.consumeAll paths).call call = (c.call call).map fun d => d.consumeAll paths := by
  induction paths generalizing c with
  | nil => show c.call call = _; cases c.call call <;> rfl
  | cons p paths ih =>
    have step : ∀ c : Catalog, c.consumeAll (p :: paths) = (c.consume p).consumeAll paths :=
      fun _ => rfl
    rw [step, ih, call_consume]
    cases c.call call <;> rfl

lemma callAll_consumeAll :
    (c.consumeAll paths).callAll calls = (c.callAll calls).map fun d => d.consumeAll paths := by
  induction calls generalizing c with
  | nil => rfl
  | cons call calls ih =>
    unfold callAll at ih ⊢
    rw [List.foldlM_cons, List.foldlM_cons, call_consumeAll]
    cases c.call call with
    | error conflict => rfl
    | ok e => exact ih

lemma absorb_eq_ok_iff :
    c.absorb calls paths = .ok d ↔ ∃ e, c.callAll calls = .ok e ∧ e.consumeAll paths = d := by
  unfold absorb
  cases c.callAll calls <;> simp [Except.map]

@[simp] lemma absorb_nil : c.absorb [] [] = .ok d ↔ c = d := by simp [absorb_eq_ok_iff, consumeAll]

/-- One reading after another leaves what both leave. -/
lemma absorb_append :
    c.absorb (calls ++ more) (paths ++ others) = .ok d
      ↔ ∃ e, c.absorb calls paths = .ok e ∧ e.absorb more others = .ok d := by
  simp only [absorb_eq_ok_iff, callAll_append]
  constructor
  · rintro ⟨f, ⟨e, he, hf⟩, rfl⟩
    refine ⟨e.consumeAll paths, ⟨e, he, rfl⟩, f.consumeAll paths, ?_, ?_⟩
    · rw [callAll_consumeAll, hf]
      rfl
    · simp [consumeAll]
  · rintro ⟨-, ⟨e, he, rfl⟩, f, hf, rfl⟩
    rw [callAll_consumeAll] at hf
    cases hm : e.callAll more with
    | error conflict => simp [hm, Except.map] at hf
    | ok g =>
      rw [hm] at hf
      cases hf
      exact ⟨g, ⟨e, he, hm⟩, by simp [consumeAll]⟩

end Catalog
end PlannerConfig
