import PlannerConfig.Proofs.Form.Gives
import PlannerConfig.Proofs.Form.Kinds

/-!
Doubles are finite wherever a form reads them. What follows from this for the values of a form is found by
going down the form once: `OfFinite` is a condition on what the form puts together from its parts, and
`Gives.of_finite` shows it of whatever the form gives.
-/
namespace PlannerConfig

open PlannerConfig.Number

/-- Whether all of some floats are finite. -/
def AllFinite (xs : List Float) : Prop := ∀ x ∈ xs, isFinite x = true

instance (xs : List Float) : Decidable (AllFinite xs) :=
  inferInstanceAs (Decidable (∀ x ∈ xs, isFinite x = true))

@[simp] lemma allFinite_nil : AllFinite [] := List.forall_mem_nil _

@[simp] lemma allFinite_cons {x : Float} {xs : List Float} :
    AllFinite (x :: xs) ↔ isFinite x = true ∧ AllFinite xs := List.forall_mem_cons

@[simp] lemma allFinite_append {xs ys : List Float} :
    AllFinite (xs ++ ys) ↔ AllFinite xs ∧ AllFinite ys := List.forall_mem_append

@[simp] lemma allFinite_values {κ : Type} {map : List (κ × Float)} :
    AllFinite (map.map (·.2)) ↔ ∀ e ∈ map, isFinite e.2 = true := List.forall_mem_map

@[simp] lemma allFinite_flatMap {α : Type} {f : α → List Float} {as : List α} :
    AllFinite (as.flatMap f) ↔ ∀ a ∈ as, AllFinite (f a) := by
  simp only [AllFinite, List.mem_flatMap]
  exact ⟨fun h a ha x hx => h x ⟨a, ha, hx⟩, fun h x ⟨a, ha, hx⟩ => h a ha x hx⟩

namespace Kind

variable {α : Type}

/-- The float that a value of a kind of doubles is; values of other kinds have none. -/
def floats (k : Kind α) (a : α) : List Float :=
  match k.type, k.toValue a with
  | .double, .float x => [x]
  | _, _ => []

@[simp] lemma floats_double (x : Float) : double.floats x = [x] := rfl

lemma InUse.gives_finite {k : Kind α} (h : k.InUse) :
    k.coerce.Gives fun a => AllFinite (k.floats a) := by
  induction h with
  | double =>
    intro raw
    exact (Coercion.gives_double raw).mono (fun x hx => by simpa using hx) fun _ => id
  | optional _ ih => exact fun raw => (ih raw).bind fun _ ha => ha
  | _ => exact fun raw => Settles.of_ok fun _ _ => allFinite_nil

end Kind

namespace Form

/-- Whether the doubles among the defaults of a form are finite. -/
def finiteDefaults {σ α : Type} : Form σ α → σ → Bool
  | ap f x, d => f.finiteDefaults d && x.finiteDefaults d
  | zoom get body, d => body.finiteDefaults (get d)
  | scalar _ kind get _, d => (kind.floats (get d)).all isFinite
  | enumMap _ _ kind get _, d => (get d).all fun e => (kind.floats e.2).all isFinite
  | group _ body _, d => body.finiteDefaults d
  | _, _ => true

/-- Whether a condition follows for what a form gives if the doubles that it reads are finite. -/
def OfFinite {σ α : Type} : Form σ α → (α → Prop) → Prop
  | pure a, P => P a
  | ap f x, P => f.OfFinite fun g => x.OfFinite fun a => P (g a)
  | zoom _ body, P => body.OfFinite P
  | scalar _ kind _ _, P => ∀ a, AllFinite (kind.floats a) → P a
  | enumMap _ _ kind _ _, P => ∀ map, (∀ e ∈ map, AllFinite (kind.floats e.2)) → P map
  | eachKey kind _, P => ∀ map, (∀ e ∈ map, AllFinite (kind.floats e.2)) → P map
  | group _ body _, P => body.OfFinite P
  | _, P => ∀ a, P a

variable {σ α : Type} {f : Form σ α} {P : α → Prop} {d : σ} {n : Node}

theorem Gives.of_finite (hk : f.KindsInUse) (hd : f.finiteDefaults d = true) (h : f.OfFinite P) :
    f.Gives d n P := by
  induction f generalizing n with
  | pure a => exact .pure h
  | ap f x ihf ihx =>
    rw [finiteDefaults, Bool.and_eq_true] at hd
    exact Settles.bind (ihf hk.1 hd.1 h) fun g hg => Settles.bind (ihx hk.2 hd.2 hg) fun _ => id
  | zoom get body ih => exact ih hk hd h
  | group name body note ih => exact .group (ih hk hd h)
  | scalar name kind get note =>
    have hdefault : AllFinite (kind.floats (get d)) := List.all_eq_true.mp hd
    have given : (Form.scalar name kind get note).Gives d n fun a => AllFinite (kind.floats a) :=
      .scalar hdefault (Kind.InUse.gives_finite hk)
    exact given.mono h
  | enumMap name keys kind get note =>
    have hdefault : ∀ e ∈ get d, AllFinite (kind.floats e.2) := fun e he =>
      List.all_eq_true.mp (List.all_eq_true.mp hd e he)
    exact (Gives.enumMap hdefault (Kind.InUse.gives_finite hk)).mono h
  | eachKey kind note => exact (Gives.eachKey (Kind.InUse.gives_finite hk)).mono h
  | _ => exact (any _ _ _).mono fun a _ => h a

end Form
end PlannerConfig
