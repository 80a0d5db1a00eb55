import PlannerConfig.Proofs.Document.Scalars
import PlannerConfig.Proofs.Document.Writable
import PlannerConfig.Proofs.Form.Reading

/-!
Why reading a form fails. Kinds whose coercions have a reason for whatever they refuse make every failure
one of a value: it is missing, or it does not fit. Only a value that cannot be written is not told.
-/
namespace PlannerConfig

/-- What is known of an outcome, whether it is a value or an error. -/
def Settles {ε α : Type} (ok : α → Prop) (error : ε → Prop) : Except ε α → Prop
  | .ok a => ok a
  | .error e => error e

namespace Settles

variable {ε δ α β κ : Type} {P : α → Prop} {Q : β → Prop} {R S : ε → Prop} {x : Except ε α}

lemma ok {a : α} (h : Settles P R x) (hx : x = .ok a) : P a := by rwa [hx] at h

lemma of_ok (h : ∀ a, x = .ok a → P a) : Settles P (fun _ => True) x := by
  cases x with
  | error e => trivial
  | ok a => exact h a rfl

lemma mono {P' : α → Prop} (h : Settles P R x) (hP : ∀ a, P a → P' a) (hR : ∀ e, R e → S e) :
    Settles P' S x := by
  cases x with
  | error e => exact hR e h
  | ok a => exact hP a h

lemma bind {f : α → Except ε β} (h : Settles P R x) (hf : ∀ a, P a → Settles Q R (f a)) :
    Settles Q R (x >>= f) := by
  cases x with
  | error e => exact h
  | ok a => exact hf a h

lemma mapM {f : κ → Except ε α} {xs : List κ} (h : ∀ k ∈ xs, Settles P R (f k)) :
    Settles (fun as => ∀ a ∈ as, P a) R (xs.mapM f) := by
  induction xs with
  | nil => exact List.forall_mem_nil P
  | cons k xs ih =>
    rw [List.mapM_cons]
    apply bind (h k (by simp))
    intro a ha
    apply bind (ih fun j hj => h j (by simp [hj]))
    intro as has
    exact List.forall_mem_cons.mpr ⟨ha, has⟩

lemma forM {f : κ → Except ε Unit} {xs : List κ} (h : ∀ k ∈ xs, Settles (fun _ => True) R (f k)) :
    Settles (fun _ => True) R (xs.forM f) := by
  induction xs with
  | nil => trivial
  | cons k xs ih => exact bind (h k (by simp)) fun _ _ => ih fun j hj => h j (by simp [hj])

end Settles

section coercion

variable {ε α κ : Type}

/-- Whether a refusal gives a reason. -/
def Refusal.IsReason : Refusal → Prop
  | because _ => True
  | fault _ => False

/-- Whether what is not taken is refused with a reason. -/
abbrev Reasoned (x : Except Refusal α) : Prop := Settles (fun _ => True) Refusal.IsReason x

namespace Reasoned

lemma refusing (message : ε → String) (x : Except ε α) : Reasoned (refusing message x) := by
  cases x <;> trivial

lemma orBecause (x : Option α) (reason : String) : Reasoned (orBecause x reason) := by
  cases x <;> trivial

lemma string (raw : Option Document) : Reasoned (Coercion.string raw) := by
  unfold Coercion.string
  split <;> trivial

lemma strings (raw : Option Document) : Reasoned (Coercion.strings raw) := by
  unfold Coercion.strings
  split
  · exact (Settles.mapM fun item _ => string (some item)).mono (fun _ _ => trivial) fun _ h => h
  · trivial

lemma parsed {parse : String → Except Refusal α} (h : ∀ s, Reasoned (parse s))
    (raw : Option Document) : Reasoned (Coercion.parsed parse raw) :=
  (string raw).bind fun s _ => h s

lemma allParsed {parse : String → Except Refusal α} (h : ∀ s, Reasoned (parse s))
    (raw : Option Document) : Reasoned (Coercion.allParsed parse raw) := by
  apply (strings raw).bind
  intro texts _
  exact (Settles.mapM fun s _ => h s).mono (fun _ _ => trivial) fun _ h => h

end Reasoned

/-- Whether a kind has a reason for whatever it refuses. -/
def Kind.Reasons (k : Kind α) : Prop := ∀ raw, Reasoned (k.coerce raw)

namespace Kind

lemma reasons_boolean : boolean.Reasons := by
  intro raw
  show Reasoned (Coercion.boolean raw)
  unfold Coercion.boolean
  split
  · trivial
  · rename_i s
    generalize Text.lower (Text.trim s) = word
    show Reasoned (if word = "true" then _ else if word = "false" then _ else _)
    repeat' first | split | trivial
  · trivial

lemma reasons_integer : integer.Reasons := by
  intro raw
  show Reasoned (Coercion.integer raw)
  unfold Coercion.integer
  split
  · trivial
  · trivial
  · exact .orBecause _ _
  · unfold Coercion.integerOfText
    repeat' first | split | trivial
  · trivial

lemma reasoned_finite (x : Float) : Reasoned (Coercion.finite x) := by
  unfold Coercion.finite
  split <;> trivial

lemma reasons_double : double.Reasons := by
  intro raw
  show Reasoned (Coercion.double raw)
  unfold Coercion.double
  split
  · trivial
  · exact .orBecause _ _
  · exact reasoned_finite _
  · exact (Reasoned.orBecause _ _).bind fun x _ => reasoned_finite x
  · trivial

lemma reasons_string : string.Reasons := Reasoned.string

lemma reasons_duration : duration.Reasons := fun _ => .refusing _ _

lemma reasons_linearFunction : linearFunction.Reasons := Reasoned.parsed fun _ => .orBecause _ _

lemma reasons_locale : locale.Reasons := Reasoned.parsed fun _ => .refusing _ _

lemma reasons_stringSet : stringSet.Reasons := fun raw => (Reasoned.strings raw).bind fun _ _ => trivial

lemma reasons_feedScopedIds : feedScopedIds.Reasons := Reasoned.allParsed fun _ => .refusing _ _

lemma reasons_enum (e : Enumeration κ) : (enum e).Reasons := by
  intro raw
  dsimp only [enum]
  split
  · exact .orBecause _ _
  · trivial

lemma reasons_choice (κ : Type) [Choice κ] : (choice κ).Reasons := reasons_enum _

lemma reasons_custom (hint : String) (message : ε → String) (parse : String → Except ε α)
    (toValue : α → Value) :
    (custom hint (fun s => refusing message (parse s)) toValue).Reasons :=
  Reasoned.parsed fun _ => .refusing _ _

lemma Reasons.optional {k : Kind α} (h : k.Reasons) : k.optional.Reasons := fun raw =>
  (h raw).bind fun _ _ => trivial

end Kind
end coercion

/-- Why reading a value fails at a node: it is missing, or it does not fit and can or cannot be
shown. -/
inductive Node.Fails (n : Node) : Failure → Prop
  | missing (path : Path) : n.Fails (.missing path)
  | mismatch (path : Path) (expected raw : String) (reason : Option String) :
    n.Fails (.mismatch path expected raw reason)
  | unwritable (d : Document) (hd : n.value = some d) (h : ¬d.Writable) : n.Fails .unwritable

namespace Node

variable {n : Node} {f : Failure}

lemma Fails.ofMismatch (path : Path) (expected : String) (reason : String) :
    n.Fails (.ofMismatch path expected n.value reason) := by
  unfold Failure.ofMismatch
  split
  · rename_i h
    cases hd : n.value with
    | none =>
      rw [hd] at h
      cases h
    | some d =>
      refine .unwritable d hd fun hw => ?_
      rw [hd] at h
      have shown := (Document.isSome_rawText?_iff d).mpr hw
      simp [h] at shown
  · exact .mismatch _ _ _ _

lemma Fails.ofText (path : Path) (expected s reason : String) :
    n.Fails (.ofMismatch path expected (some (.text s)) reason) := .mismatch _ _ _ _

/-- A failure beneath a node is one of the node, as what cannot be written cannot be part of what can. -/
lemma Fails.of_beneath {m : Node} (h : m.Fails f)
    (hm : ∀ e, m.value = some e → ∃ d, n.value = some d ∧ ∀ i ∈ e.integers, i ∈ d.integers) :
    n.Fails f := by
  cases h with
  | missing path => exact .missing path
  | mismatch path expected raw reason => exact .mismatch path expected raw reason
  | unwritable e he hw =>
    obtain ⟨d, hd, hsub⟩ := hm e he
    exact .unwritable d hd fun hall => hw fun i hi => hall i (hsub i hi)

lemma Fails.child {name : String} (h : (n.child name).Fails f) : n.Fails f := by
  apply h.of_beneath
  intro e he
  obtain ⟨fields, hfields, hmem, -⟩ := exists_field_of_child he
  exact ⟨_, hfields, fun i hi => Document.mem_integersOfFields.mpr ⟨_, hmem, hi⟩⟩

lemma Fails.childAt {i : Int} (h : (n.childAt i).Fails f) : n.Fails f := by
  apply h.of_beneath
  intro e he
  obtain ⟨items, hitems, hget⟩ := exists_item_of_childAt he
  exact ⟨_, hitems, fun j hj => Document.mem_integersOfItems.mpr ⟨e, List.mem_of_getElem? hget, hj⟩⟩

/-- Whether an outcome at a node is a value or a failure of one. -/
abbrev Settled {α : Type} (n : Node) (x : Except Failure α) : Prop := Settles (fun _ => True) n.Fails x

namespace Settled

variable {α κ : Type}

lemma mismatch (path : Path) (expected reason : String) :
    n.Settled (.error (.ofMismatch path expected n.value reason) : Except Failure α) :=
  Fails.ofMismatch path expected reason

lemma child {name : String} {x : Except Failure α} (h : (n.child name).Settled x) : n.Settled x :=
  h.mono (fun _ _ => trivial) fun _ => Fails.child

lemma childAt {i : Int} {x : Except Failure α} (h : (n.childAt i).Settled x) : n.Settled x :=
  h.mono (fun _ _ => trivial) fun _ => Fails.childAt

lemma of_mem_elements {m : Node} (hm : m ∈ n.elements) {x : Except Failure α} (h : m.Settled x) :
    n.Settled x := by
  obtain ⟨i, -, rfl⟩ := List.mem_map.mp hm
  exact h.childAt

lemma coerced {k : Kind α} (hk : k.Reasons) (expected : String) :
    n.Settled (n.coerced expected k.coerce) := by
  have reasoned := hk n.value
  unfold Node.coerced
  rcases hc : k.coerce n.value with (reason | text) | a
  · exact mismatch _ _ _
  · rw [hc] at reasoned
    exact absurd reasoned id
  · trivial

lemma group : Settles (· = n) n.Fails n.group := by
  unfold Node.group
  split
  · exact rfl
  · exact Fails.ofMismatch _ _ _

lemma checkObject : n.Settled n.checkObject := by
  unfold Node.checkObject
  split
  · trivial
  · exact mismatch _ _ _

lemma groups : Settles (· = n.elements) n.Fails n.groups := by
  unfold Node.groups
  split
  · rename_i h
    exact (elements_of_isMissing h).symm
  · split
    · exact Fails.ofMismatch _ _ _
    · have elements := Settles.forM fun m (hm : m ∈ n.elements) => of_mem_elements hm checkObject
      exact elements.bind fun _ _ => rfl

lemma scalarValue {k : Kind α} (hk : k.Reasons) (note : Note) (default : Option α) :
    n.Settled (Parameter.scalarValue ⟨n, note⟩ k default) := by
  unfold Parameter.scalarValue
  split
  · cases default with
    | none => exact Fails.missing _
    | some a => trivial
  · exact coerced hk _

lemma entry {k : Kind α} (hk : k.Reasons) (keys : Enumeration κ) (key : String) :
    n.Settled (n.entry keys k key) := by
  unfold Node.entry
  split
  · exact Fails.ofText _ _ _ _
  · exact (coerced hk _).child.bind fun _ _ => trivial

lemma mapValue [BEq κ] {k : Kind α} (hk : k.Reasons) (keys : Enumeration κ) (note : Note) :
    n.Settled (Parameter.mapValue ⟨n, note⟩ keys k) := by
  unfold Parameter.mapValue
  split
  · trivial
  · split
    · exact mismatch _ _ _
    · exact (Settles.mapM fun key _ => entry hk keys key).bind fun _ _ => trivial

end Settled
end Node

namespace Form

/-- Whether the kinds of a form have reasons for whatever they refuse. -/
def Reasons {σ α : Type} : Form σ α → Prop
  | ap f x => f.Reasons ∧ x.Reasons
  | zoom _ body => body.Reasons
  | scalar _ kind _ _ => kind.Reasons
  | required _ kind _ => kind.Reasons
  | enumMap _ _ kind _ _ => kind.Reasons
  | eachKey kind _ => kind.Reasons
  | group _ body _ => body.Reasons
  | optionalGroup _ body _ => body.Reasons
  | list _ element _ _ => element.Reasons
  | _ => True

/-- A form of such kinds fails only for the values that it reads. -/
theorem settled_value {σ α : Type} {f : Form σ α} (hf : f.Reasons) (d : σ) (n : Node) :
    n.Settled (f.value d n) := by
  induction f generalizing n with
  | pure a => trivial
  | ap f x ihf ihx => exact (ihf hf.1 d n).bind fun _ _ => (ihx hf.2 d n).bind fun _ _ => trivial
  | zoom get body ih => exact ih hf (get d) n
  | scalar name kind get note => exact (Node.Settled.scalarValue hf note _).child
  | required name kind note => exact (Node.Settled.scalarValue hf note none).child
  | enumMap name keys kind get note =>
    exact (Node.Settled.mapValue hf keys note).child.bind fun _ _ => trivial
  | eachKey kind note =>
    have each : ∀ key ∈ n.keys, n.Settled (do
        return (key, ← (n.parameter key (note key)).scalarValue kind none)) := fun key _ =>
      (Node.Settled.scalarValue hf (note key) none).child.bind fun _ _ => trivial
    exact (Settles.mapM each).mono (fun _ _ => trivial) fun _ h => h
  | group name body note ih =>
    apply (Node.Settled.group.mono (fun _ h => h) fun _ => Node.Fails.child).bind
    rintro m rfl
    exact (ih hf d (n.child name)).child
  | optionalGroup name body note ih =>
    apply (Node.Settled.group.mono (fun _ h => h) fun _ => Node.Fails.child).bind
    rintro m rfl
    cases (n.child name).isEmpty with
    | true => trivial
    | false => exact (ih hf d (n.child name)).child.bind fun _ _ => trivial
  | list name element get note ih =>
    apply (Node.Settled.groups.mono (fun _ h => h) fun _ => Node.Fails.child).bind
    rintro ms rfl
    cases hempty : (n.child name).elements.isEmpty with
    | true => trivial
    | false =>
      have each := Settles.mapM fun m (hm : m ∈ (n.child name).elements) =>
        (Node.Settled.of_mem_elements hm (ih hf d m)).child
      exact each.mono (fun _ _ => trivial) fun _ h => h
  | tell event => trivial
  | retired name event => trivial

end Form
end PlannerConfig
