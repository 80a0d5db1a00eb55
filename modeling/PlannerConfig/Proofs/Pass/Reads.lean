import PlannerConfig.Parameter.Reading
import PlannerConfig.Proofs.Catalog.Absorb

/-!
What a step of a mapping pass does when it succeeds: the value it gives, the registrations it makes
and the places it consumes. None of them depends on the catalog, which can only refuse the
registrations.
-/
namespace PlannerConfig

/-- A step succeeds exactly if its value is one and its registrations are not refused. -/
def Pass.Reads {α : Type} (p : Pass α) (value : Except Failure α) (calls : List Call)
    (paths : List Path) : Prop :=
  ∀ s a c, (∃ t, p.runFrom s = (.ok a, t) ∧ t.catalog = c)
    ↔ value = .ok a ∧ s.catalog.absorb calls paths = .ok c

/-- A step that does nothing but give a value or fail. -/
def Pass.ofExcept {α : Type} (x : Except Failure α) : Pass α :=
  match x with
  | .ok a => pure a
  | .error f => throw f

namespace Pass

variable {α β κ : Type}

@[simp] lemma runFrom_pure (a : α) (s : PassState) : (pure a : Pass α).runFrom s = (.ok a, s) := rfl

@[simp] lemma runFrom_throw (f : Failure) (s : PassState) :
    (throw f : Pass α).runFrom s = (.error f, s) := rfl

@[simp] lemma runFrom_get (s : PassState) : (get : Pass PassState).runFrom s = (.ok s, s) := rfl

@[simp] lemma runFrom_setCatalog (c : Catalog) (s : PassState) :
    (setCatalog c).runFrom s = (.ok (), { s with catalog := c }) := rfl

@[simp] lemma runFrom_tell (e : Event) (s : PassState) :
    (tell e).runFrom s = (.ok (), { s with events := s.events ++ [e] }) := rfl

lemma runFrom_bind (p : Pass α) (k : α → Pass β) (s : PassState) :
    (p >>= k).runFrom s =
      match p.runFrom s with
      | (.ok a, t) => (k a).runFrom t
      | (.error f, t) => (.error f, t) := by
  show ((ExceptT.bind p k).run).run s = _
  simp only [ExceptT.bind, ExceptT.run, ExceptT.mk, runFrom, StateT.run, bind, StateT.bind,
    ExceptT.bindCont]
  rcases p s with ⟨_ | _, _⟩ <;> rfl

lemma runFrom_bind_ok {p : Pass α} {k : α → Pass β} {s u : PassState} {b : β} :
    (p >>= k).runFrom s = (.ok b, u)
      ↔ ∃ a t, p.runFrom s = (.ok a, t) ∧ (k a).runFrom t = (.ok b, u) := by
  rw [runFrom_bind]
  rcases p.runFrom s with ⟨_ | a, t⟩ <;> simp

lemma ofExcept_bind (x : Except Failure α) (k : α → Except Failure β) :
    ofExcept (x >>= k) = ofExcept x >>= fun a => ofExcept (k a) := by
  cases x with
  | error f => rfl
  | ok a => exact (pure_bind a fun a => ofExcept (k a)).symm

lemma ofExcept_mapM (f : κ → Except Failure α) (xs : List κ) :
    ofExcept (xs.mapM f) = xs.mapM fun x => ofExcept (f x) := by
  induction xs with
  | nil => rfl
  | cons x xs ih =>
    rw [List.mapM_cons, List.mapM_cons, ofExcept_bind]
    congr 1
    funext a
    rw [ofExcept_bind, ih]
    rfl

lemma ofExcept_forM (f : κ → Except Failure Unit) (xs : List κ) :
    ofExcept (xs.forM f) = xs.forM fun x => ofExcept (f x) := by
  induction xs with
  | nil => rfl
  | cons x xs ih =>
    show ofExcept (f x >>= fun _ => xs.forM f) = ofExcept (f x) >>= fun _ => xs.forM _
    rw [ofExcept_bind, ih]

lemma runFrom_ofExcept (x : Except Failure α) (s : PassState) :
    (ofExcept x).runFrom s = (x, s) := by cases x <;> rfl

/-- The catalog after the message that a record is replaced is the one before. -/
lemma runFrom_tellReplaced (path : List String) (s : PassState) :
    ∃ events, (tellReplaced path).runFrom s = (.ok (), ⟨s.catalog, events⟩) := by
  unfold tellReplaced
  rw [runFrom_bind, runFrom_get]
  by_cases h : (s.catalog.get? path).isSome = true
  · exact ⟨s.events ++ [.replaced path], by simp [h]⟩
  · exact ⟨s.events, by simp [h]⟩

namespace Reads

lemma pure (a : α) : Reads (Pure.pure a) (Pure.pure a) [] [] := by
  intro s b c
  rw [runFrom_pure, Catalog.absorb_nil]
  simp [Pure.pure, Except.pure]

lemma tell (e : Event) : Reads (Pass.tell e) (.ok ()) [] [] := by
  intro s a c
  simp

lemma consume (n : Node) : Reads (Pass.consume n) (.ok ()) [] [n.path] := by
  intro s a c
  unfold Pass.consume
  rw [runFrom_bind, runFrom_get]
  simp [Catalog.absorb_eq_ok_iff, Catalog.consumeAll]

/-- One step and then another, whose effect does not depend on the value of the first. -/
lemma bind {p : Pass α} {k : α → Pass β} {v : Except Failure α} {w : α → Except Failure β}
    {calls more : List Call} {paths others : List Path} (hp : Reads p v calls paths)
    (hk : ∀ a, v = .ok a → Reads (k a) (w a) more others) :
    Reads (p >>= k) (v >>= w) (calls ++ more) (paths ++ others) := by
  intro s b c
  simp only [runFrom_bind_ok, Catalog.absorb_append]
  constructor
  · rintro ⟨u, ⟨a, t, ht, hu⟩, hc⟩
    obtain ⟨rfl, hd⟩ := (hp s a t.catalog).mp ⟨t, ht, rfl⟩
    obtain ⟨hw, hc⟩ := (hk a rfl t b c).mp ⟨u, hu, hc⟩
    exact ⟨hw, _, hd, hc⟩
  · rintro ⟨hv, d, hd, hc⟩
    cases v with
    | error f => cases hv
    | ok a =>
      obtain ⟨t, ht, rfl⟩ := (hp s a d).mpr ⟨rfl, hd⟩
      obtain ⟨u, hu, hc⟩ := (hk a rfl t b c).mpr ⟨hv, hc⟩
      exact ⟨u, ⟨a, t, ht, hu⟩, hc⟩

lemma fst_eq_ok_iff {p : Pass α} {v : Except Failure α} {calls : List Call} {paths : List Path}
    (h : Reads p v calls paths) {s : PassState} {a : α} :
    (p.runFrom s).1 = .ok a ↔ v = .ok a ∧ ∃ c, s.catalog.absorb calls paths = .ok c := by
  constructor
  · intro hrun
    obtain ⟨hv, habsorb⟩ := (h s a _).mp ⟨_, Prod.ext hrun rfl, rfl⟩
    exact ⟨hv, _, habsorb⟩
  · rintro ⟨hv, c, habsorb⟩
    obtain ⟨t, hrun, -⟩ := (h s a c).mpr ⟨hv, habsorb⟩
    rw [hrun]

end Reads
end Pass
end PlannerConfig
