import PlannerConfig.Proofs.Pass.Reads

/-!
What a step of a mapping pass gives, failures included, as long as the catalog refuses none of its
registrations, and with it what the step does when it succeeds.
-/
namespace PlannerConfig

/-- A step gives a value or fails in a certain way if none of its registrations is refused. -/
def Pass.Yields {α : Type} (p : Pass α) (value : Except Failure α) (calls : List Call) : Prop :=
  ∀ s c, s.catalog.callAll calls = .ok c → (p.runFrom s).1 = value

/-- What a step does when it succeeds, and what it gives whether it succeeds or not. -/
structure Pass.Runs {α : Type} (p : Pass α) (value : Except Failure α) (calls : List Call)
    (paths : List Path) : Prop where
  reads : p.Reads value calls paths
  yields : p.Yields value calls

namespace Pass
namespace Yields

variable {α β : Type}

/-- A step that succeeds whatever the catalog holds. -/
lemma of_reads {p : Pass α} {a : α} {calls : List Call} {paths : List Path}
    (hp : Reads p (.ok a) calls paths) : Yields p (.ok a) calls := by
  intro s c hc
  have habsorb : s.catalog.absorb calls paths = .ok (c.consumeAll paths) :=
    Catalog.absorb_eq_ok_iff.mpr ⟨c, hc, rfl⟩
  obtain ⟨t, ht, -⟩ := (hp s a _).mpr ⟨rfl, habsorb⟩
  rw [ht]

/-- One step and then another. If the first fails the second does not come to pass. -/
lemma bind {p : Pass α} {k : α → Pass β} {v : Except Failure α} {w : α → Except Failure β}
    {calls more : List Call} {paths : List Path} (hp : Reads p v calls paths)
    (hy : Yields p v calls) (hk : ∀ a, v = .ok a → Yields (k a) (w a) more) :
    Yields (p >>= k) (v >>= w) (calls ++ more) := by
  intro s c hc
  obtain ⟨d, hd, hc⟩ := Catalog.callAll_append.mp hc
  cases v with
  | error f =>
    have hfail := hy s d hd
    rw [runFrom_bind]
    rcases hrun : p.runFrom s with ⟨x, t⟩
    rw [hrun] at hfail
    obtain rfl : x = .error f := hfail
    rfl
  | ok a =>
    have habsorb : s.catalog.absorb calls paths = .ok (d.consumeAll paths) :=
      Catalog.absorb_eq_ok_iff.mpr ⟨d, hd, rfl⟩
    obtain ⟨t, ht, hcatalog⟩ := (hp s a _).mpr ⟨rfl, habsorb⟩
    have hmore : t.catalog.callAll more = .ok (c.consumeAll paths) := by
      rw [hcatalog, Catalog.callAll_consumeAll, hc]
      rfl
    rw [runFrom_bind, ht]
    exact hk a rfl t _ hmore

end Yields

namespace Runs

variable {α β κ : Type} {p : Pass α} {v : Except Failure α} {calls : List Call} {paths : List Path}

lemma of_reads {a : α} (h : Reads p (.ok a) calls paths) : Runs p (.ok a) calls paths :=
  ⟨h, .of_reads h⟩

lemma pure (a : α) : Runs (Pure.pure a) (Pure.pure a) [] [] := of_reads (.pure a)

/-- What a step consumes when it fails is not told, so it may be told in any way. -/
lemma of_ok {others : List Path} (h : Runs p v calls paths) (hv : ∀ a, v = .ok a → paths = others) :
    Runs p v calls others where
  reads := by
    intro s a c
    rw [h.reads s a c]
    constructor
    · rintro ⟨ha, hc⟩
      exact ⟨ha, hv a ha ▸ hc⟩
    · rintro ⟨ha, hc⟩
      exact ⟨ha, (hv a ha).symm ▸ hc⟩
  yields := h.yields

lemma bind {k : α → Pass β} {w : α → Except Failure β} {more : List Call} {others : List Path}
    (hp : Runs p v calls paths) (hk : ∀ a, v = .ok a → Runs (k a) (w a) more others) :
    Runs (p >>= k) (v >>= w) (calls ++ more) (paths ++ others) where
  reads := .bind hp.reads fun a ha => (hk a ha).reads
  yields := .bind hp.reads hp.yields fun a ha => (hk a ha).yields

lemma map (f : α → β) (hp : Runs p v calls paths) :
    Runs (p >>= fun a => Pure.pure (f a)) (v >>= fun a => Pure.pure (f a)) calls paths := by
  simpa only [List.append_nil] using bind hp fun a _ => pure (f a)

lemma mapM {f : κ → Pass α} {v : κ → Except Failure α} {calls : κ → List Call}
    {paths : κ → List Path} {xs : List κ} (h : ∀ x ∈ xs, Runs (f x) (v x) (calls x) (paths x)) :
    Runs (xs.mapM f) (xs.mapM v) (xs.flatMap calls) (xs.flatMap paths) := by
  induction xs with
  | nil => exact pure []
  | cons x xs ih =>
    rw [List.mapM_cons, List.mapM_cons, List.flatMap_cons, List.flatMap_cons]
    refine bind (h x (by simp)) fun a _ => ?_
    exact map _ (ih fun y hy => h y (by simp [hy]))

end Runs
end Pass
end PlannerConfig
