import PlannerConfig.Proofs.Form.Correspondence

/-!
What the value of a form depends on. It does not matter where in a document a node stands, save for
the path in a failure, nor what is there under keys that the form does not read.
-/
namespace PlannerConfig

/-- A failure at a place, seen from further out. -/
def Failure.under (base : Path) : Failure → Failure
  | missing path => missing (base ++ path)
  | mismatch path expected raw reason => mismatch (base ++ path) expected raw reason
  | misdeclared path cause => misdeclared (base ++ path) cause
  | f => f

lemma Failure.ofMismatch_append (base path : Path) (expected : String) (raw : Option Document)
    (reason : String) :
    ofMismatch (base ++ path) expected raw reason = (ofMismatch path expected raw reason).under base := by
  unfold ofMismatch
  cases Document.rawText? raw <;> rfl

namespace Node

/-- A node with the value of another and a longer way to it. -/
structure Under (base : Path) (n m : Node) : Prop where
  value : n.value = m.value
  path : n.path = base ++ m.path

namespace Under

variable {α : Type} {base : Path} {n m : Node}

lemma child (h : Under base n m) (name : String) : Under base (n.child name) (m.child name) where
  value := by simp only [Node.child, h.value]
  path := by simp only [Node.child, h.path, List.append_assoc]

lemma childAt (h : Under base n m) (i : Int) : Under base (n.childAt i) (m.childAt i) where
  value := by simp only [Node.childAt, h.value]
  path := by simp only [Node.childAt, h.path, List.append_assoc]

lemma elements (h : Under base n m) : List.Forall₂ (Under base) n.elements m.elements := by
  have hsize : n.size = m.size := by simp only [size, h.value]
  unfold Node.elements
  rw [hsize, List.forall₂_map_left_iff, List.forall₂_map_right_iff]
  exact List.forall₂_same.mpr fun i _ => h.childAt i

lemma looks (h : Under base n m) : n.Looks (fun f g => f = g.under base) m where
  isMissing := by simp only [isMissing, h.value]
  isObject := by simp only [isObject, h.value]
  isArray := by simp only [isArray, h.value]
  missing := by rw [h.path, Failure.under]
  mismatch expected reason := by rw [h.value, h.path, Failure.ofMismatch_append]
  fault _ := rfl

lemma coerces (h : Under base n m) (coerce : Coercion α) :
    n.Coerces (fun f g => f = g.under base) coerce m :=
  { h.looks with coerce := by rw [h.value] }

lemma mapsAlike (h : Under base n m) (coerce : Coercion α) :
    Parameter.MapsAlike (fun f g => f = g.under base) coerce n m :=
  { h.looks with
    keys := by simp only [keys, h.value]
    entry := fun key _ => (h.child key).coerces coerce
    notAMember := fun key _ expected raw reason => by
      rw [(h.child key).path, Failure.ofMismatch_append] }

end Under
end Node

namespace Form

variable {σ α : Type} {base : Path} {n m : Node}

lemma corresponds_of_under (f : Form σ α) (h : n.Under base m) :
    f.Corresponds (fun f g => f = g.under base) n m := by
  induction f generalizing n m with
  | pure a => trivial
  | ap f x ihf ihx => exact ⟨ihf h, ihx h⟩
  | zoom get body ih => exact ih h
  | scalar name kind get note => exact (h.child name).coerces _
  | required name kind note => exact (h.child name).coerces _
  | enumMap name keys kind get note => exact (h.child name).mapsAlike _
  | eachKey kind note =>
    have hkeys : n.keys = m.keys := by simp only [Node.keys, h.value]
    exact ⟨hkeys, fun key _ => (h.child key).coerces _⟩
  | group name body note ih => exact ⟨(h.child name).looks, ih (h.child name)⟩
  | optionalGroup name body note ih =>
    have hempty : (n.child name).isEmpty = (m.child name).isEmpty := by
      simp only [Node.isEmpty, Node.isMissing, Node.isObject, Node.size, (h.child name).value]
    exact ⟨(h.child name).looks, hempty, fun _ => ih (h.child name)⟩
  | list name element get note ih =>
    refine ⟨(h.child name).looks, fun _ => ?_⟩
    exact (h.child name).elements.imp fun _ _ hx => ⟨hx.looks, ih hx⟩
  | tell event => trivial
  | retired name event => trivial

/-- A form gives the same wherever it is read; in a failure the way to the node is longer. -/
theorem value_under (f : Form σ α) (d : σ) (h : n.Under base m) :
    f.value d n = (f.value d m).mapError (Failure.under base) := by
  generalize hx : f.value d n = x
  generalize hy : f.value d m = y
  have halike := (f.corresponds_of_under h).alike d
  rw [hx, hy] at halike
  cases halike with
  | ok a => rfl
  | error h => rw [h, Except.mapError]

/-- Whether a form leaves alone what there is under a key. -/
def avoids (name : String) {σ α : Type} : Form σ α → Bool
  | pure _ => true
  | ap f x => f.avoids name && x.avoids name
  | zoom _ body => body.avoids name
  | scalar k _ _ _ => k != name
  | required k _ _ => k != name
  | enumMap k _ _ _ _ => k != name
  | eachKey _ _ => false
  | group k _ _ => k != name
  | optionalGroup k _ _ => k != name
  | list k _ _ _ => k != name
  | tell _ => true
  | retired k _ => k != name

/-- What a form leaves alone does not change its value. -/
lemma value_congr_of_avoids {name : String} {f : Form σ α} (hf : f.avoids name = true)
    (h : ∀ k, k ≠ name → n.child k = m.child k) (d : σ) : f.value d n = f.value d m := by
  have same : ∀ {k}, (k != name) = true → n.child k = m.child k := fun hk => h _ (by simpa using hk)
  induction f with
  | pure a => rfl
  | ap f x ihf ihx =>
    rw [avoids, Bool.and_eq_true] at hf
    simp only [value, ihf hf.1, ihx hf.2]
  | zoom get body ih => exact ih hf (get d)
  | scalar k kind get note => simp only [value, Node.parameter, same hf]
  | required k kind note => simp only [value, Node.parameter, same hf]
  | enumMap k keys kind get note => simp only [value, Node.parameter, same hf]
  | eachKey kind note => cases hf
  | group k body note => simp only [value, same hf]
  | optionalGroup k body note => simp only [value, same hf]
  | list k element get note => simp only [value, same hf]
  | tell event => rfl
  | retired k event => rfl

end Form
end PlannerConfig
