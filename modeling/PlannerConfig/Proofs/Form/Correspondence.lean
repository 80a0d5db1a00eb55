import Mathlib.Data.List.Forall2
import PlannerConfig.Proofs.Form.Coverage

/-!
Reading one form at two nodes. The outcomes are alike if the nodes look alike wherever the form looks:
the same value, or failures that are related. Which failures count as related is left open; a relation
may forget where they are, or what was found there.
-/
namespace PlannerConfig

/-- Outcomes with the same value, or with related failures. -/
inductive Alike {α : Type} (R : Failure → Failure → Prop) :
    Except Failure α → Except Failure α → Prop
  | ok (a : α) : Alike R (.ok a) (.ok a)
  | error {f g : Failure} (h : R f g) : Alike R (.error f) (.error g)

namespace Alike

variable {α β κ : Type} {R : Failure → Failure → Prop}

lemma ok_iff {x y : Except Failure α} (h : Alike R x y) {a : α} : x = .ok a ↔ y = .ok a := by
  cases h with
  | ok b => exact Iff.rfl
  | error _ => simp

lemma bind {x y : Except Failure α} {k l : α → Except Failure β} (h : Alike R x y)
    (hk : ∀ a, x = .ok a → Alike R (k a) (l a)) : Alike R (x >>= k) (y >>= l) := by
  cases h with
  | ok a => exact hk a rfl
  | error h => exact .error h

lemma map {x y : Except Failure α} (f : α → β) (h : Alike R x y) :
    Alike R (do return f (← x)) (do return f (← y)) := bind h fun a _ => .ok (f a)

lemma mapM {f g : κ → Except Failure α} {xs ys : List κ}
    (h : List.Forall₂ (fun x y => Alike R (f x) (g y)) xs ys) :
    Alike R (xs.mapM f) (ys.mapM g) := by
  induction h with
  | nil => exact .ok []
  | cons hx _ ih =>
    rw [List.mapM_cons, List.mapM_cons]
    exact bind hx fun a _ => map _ ih

end Alike

namespace Node

variable {α : Type} {R : Failure → Failure → Prop} {n m : Node}

/-- Nodes that look alike from outside, and at which failures are related. -/
structure Looks (R : Failure → Failure → Prop) (n m : Node) : Prop where
  isMissing : n.isMissing = m.isMissing
  isObject : n.isObject = m.isObject
  isArray : n.isArray = m.isArray
  missing : R (.missing n.path) (.missing m.path)
  mismatch : ∀ expected reason, R (.ofMismatch n.path expected n.value reason)
    (.ofMismatch m.path expected m.value reason)
  fault : ∀ text, R (.fault text) (.fault text)

/-- Nodes that also give the same value by a coercion. -/
structure Coerces (R : Failure → Failure → Prop) (coerce : Coercion α) (n m : Node) : Prop
    extends Looks R n m where
  coerce : coerce n.value = coerce m.value

lemma Coerces.alike {coerce : Coercion α} (h : Coerces R coerce n m) (expected : String) :
    Alike R (n.coerced expected coerce) (m.coerced expected coerce) := by
  unfold coerced
  rw [h.coerce]
  rcases coerce m.value with (reason | text) | a
  · exact .error (h.mismatch expected reason)
  · exact .error (h.fault text)
  · exact .ok a

/-- Whether nodes open groups alike, they go on alike. -/
lemma Looks.bind_group (h : Looks R n m) {k l : Node → Except Failure α}
    (hk : Alike R (k n) (l m)) : Alike R (n.group >>= k) (m.group >>= l) := by
  unfold group
  rw [h.isMissing, h.isObject]
  split
  · exact hk
  · exact .error (h.mismatch _ _)

lemma Looks.checkObject (h : Looks R n m) : Alike R n.checkObject m.checkObject := by
  unfold Node.checkObject
  rw [h.isObject]
  split
  · exact .ok ()
  · exact .error (h.mismatch _ _)

lemma alike_forM_checkObject {ns ms : List Node} (h : List.Forall₂ (Looks R) ns ms) :
    Alike R (ns.forM Node.checkObject) (ms.forM Node.checkObject) := by
  induction h with
  | nil => exact .ok ()
  | cons hx _ ih => exact .bind hx.checkObject fun _ _ => ih

lemma Looks.bind_groups (h : Looks R n m)
    (hall : m.isArray = true → List.Forall₂ (Looks R) n.elements m.elements)
    {k l : List Node → Except Failure α} (hnone : Alike R (k []) (l []))
    (hk : m.isArray = true → Alike R (k n.elements) (l m.elements)) :
    Alike R (n.groups >>= k) (m.groups >>= l) := by
  by_cases hmissing : m.isMissing = true
  · simp only [groups, hmissing, h.isMissing, if_true]
    exact hnone
  by_cases harray : m.isArray = true
  · have hthere : n.isMissing = false := by simpa [h.isMissing] using hmissing
    have hitems : n.isArray = true := h.isArray.trans harray
    simp only [groups, hmissing, hthere, harray, hitems, Bool.false_eq_true, if_false, Bool.not_true,
      bind_assoc, pure_bind]
    exact .bind (alike_forM_checkObject (hall harray)) fun _ _ => hk harray
  · have hthere : n.isMissing = false := by simpa [h.isMissing] using hmissing
    have hitems : n.isArray = false := by simpa [h.isArray] using harray
    simp only [groups, hmissing, hthere, harray, hitems, Bool.false_eq_true, if_false, if_true,
      Bool.not_false]
    exact .error (h.mismatch _ _)

end Node

namespace Parameter

variable {α κ : Type} {R : Failure → Failure → Prop} {n m : Node} {note : Note}

lemma alike_scalarValue {kind : Kind α} (h : n.Coerces R kind.coerce m) (default : Option α) :
    Alike R (scalarValue ⟨n, note⟩ kind default) (scalarValue ⟨m, note⟩ kind default) := by
  unfold scalarValue
  simp only [h.isMissing]
  split
  · cases default with
    | none => exact .error h.missing
    | some a => exact .ok a
  · exact h.alike _

/-- Maps whose entries are found alike. -/
structure MapsAlike (R : Failure → Failure → Prop) (coerce : Coercion α) (n m : Node) : Prop
    extends Node.Looks R n m where
  keys : n.keys = m.keys
  entry : ∀ key ∈ m.keys, (n.child key).Coerces R coerce (m.child key)
  /-- A key that spells no member is told of instead of the value under it. -/
  notAMember : ∀ key ∈ m.keys, ∀ expected raw reason,
    R (.ofMismatch (n.child key).path expected raw reason)
      (.ofMismatch (m.child key).path expected raw reason)

lemma alike_mapValue [BEq κ] {keys : Enumeration κ} {kind : Kind α}
    (h : MapsAlike R kind.coerce n m) :
    Alike R (mapValue ⟨n, note⟩ keys kind) (mapValue ⟨m, note⟩ keys kind) := by
  have entries : ∀ key ∈ m.keys, Alike R (n.entry keys kind key) (m.entry keys kind key) := by
    intro key hkey
    unfold Node.entry
    cases keys.find? key with
    | none => exact .error (h.notAMember key hkey _ _ _)
    | some k => exact .map _ ((h.entry key hkey).alike _)
  unfold mapValue
  simp only [h.isMissing, h.isObject, h.keys]
  split
  · exact .ok none
  · split
    · exact .error (h.mismatch _ _)
    · apply Alike.map
      exact .mapM (List.forall₂_same.mpr entries)

end Parameter

namespace Form

/-- Two nodes that look alike wherever a form looks. -/
def Corresponds (R : Failure → Failure → Prop) {σ α : Type} : Form σ α → Node → Node → Prop
  | pure _, _, _ => True
  | ap f x, n, m => f.Corresponds R n m ∧ x.Corresponds R n m
  | zoom _ body, n, m => body.Corresponds R n m
  | scalar name kind _ _, n, m => (n.child name).Coerces R kind.coerce (m.child name)
  | required name kind _, n, m => (n.child name).Coerces R kind.coerce (m.child name)
  | enumMap name _ kind _ _, n, m => Parameter.MapsAlike R kind.coerce (n.child name) (m.child name)
  | eachKey kind _, n, m =>
    n.keys = m.keys ∧ ∀ key ∈ m.keys, (n.child key).Coerces R kind.coerce (m.child key)
  | group name body _, n, m =>
    (n.child name).Looks R (m.child name) ∧ body.Corresponds R (n.child name) (m.child name)
  | optionalGroup name body _, n, m =>
    (n.child name).Looks R (m.child name) ∧ (n.child name).isEmpty = (m.child name).isEmpty
      ∧ ((m.child name).isEmpty = false → body.Corresponds R (n.child name) (m.child name))
  | list name element _ _, n, m =>
    (n.child name).Looks R (m.child name) ∧ ((m.child name).isArray = true → List.Forall₂
      (fun x y => x.Looks R y ∧ element.Corresponds R x y)
      (n.child name).elements (m.child name).elements)
  | tell _, _, _ => True
  | retired _ _, _, _ => True

/-- Nodes that look alike give outcomes that are alike. -/
theorem Corresponds.alike {R : Failure → Failure → Prop} {σ α : Type} {f : Form σ α} {n m : Node}
    (h : f.Corresponds R n m) (d : σ) : Alike R (f.value d n) (f.value d m) := by
  induction f generalizing n m with
  | pure a => exact .ok a
  | ap f x ihf ihx => exact .bind (ihf h.1 d) fun g _ => .map (fun a => g a) (ihx h.2 d)
  | zoom get body ih => exact ih h (get d)
  | scalar name kind get note => exact Parameter.alike_scalarValue h (some (get d))
  | required name kind note => exact Parameter.alike_scalarValue h none
  | enumMap name keys kind get note => exact .map _ (Parameter.alike_mapValue h)
  | eachKey kind note =>
    obtain ⟨hkeys, hvalues⟩ := h
    simp only [value, hkeys]
    apply Alike.mapM
    apply List.forall₂_same.mpr
    intro key hkey
    exact .map (fun a => (key, a)) (Parameter.alike_scalarValue (hvalues key hkey) none)
  | group name body note ih => exact h.1.bind_group (ih h.2 d)
  | optionalGroup name body note ih =>
    obtain ⟨hlooks, hempty, hbody⟩ := h
    apply hlooks.bind_group
    rw [hempty]
    cases hm : (m.child name).isEmpty with
    | true => exact .ok none
    | false => exact .map some (ih (hbody hm) d)
  | list name element get note ih =>
    obtain ⟨hlooks, helements⟩ := h
    apply hlooks.bind_groups (fun harray => (helements harray).imp fun _ _ h => h.1)
    · exact .ok (get d)
    · intro harray
      have hempty : (n.child name).elements.isEmpty = (m.child name).elements.isEmpty := by
        rw [Bool.eq_iff_iff, List.isEmpty_iff_length_eq_zero, List.isEmpty_iff_length_eq_zero,
          (helements harray).length_eq]
      rw [hempty]
      split
      · exact .ok (get d)
      · exact .mapM ((helements harray).imp fun _ _ h => ih h.2 d)
  | tell event => exact .ok ()
  | retired name event => exact .ok ()

end Form
end PlannerConfig
