import PlannerConfig.Proofs.Form.Refusals
import PlannerConfig.Proofs.Number.Finite
import PlannerConfig.Proofs.Traversal

/-!
What is true of whatever a form gives, part by part: the parts of a form each have a condition for what
they give, and what is put together from them satisfies what follows from these conditions.
-/
namespace PlannerConfig

open PlannerConfig.Number

/-- Whether whatever a coercion takes satisfies a condition. -/
def Coercion.Gives {α : Type} (coerce : Coercion α) (P : α → Prop) : Prop :=
  ∀ raw, Settles P (fun _ => True) (coerce raw)

lemma Coercion.gives_double : Coercion.double.Gives fun x => isFinite x = true := by
  have finite : ∀ x, Settles (isFinite · = true) (fun _ => True) (finite x) := by
    intro x
    unfold Coercion.finite
    split
    · assumption
    · trivial
  intro raw
  unfold Coercion.double
  split
  · trivial
  · rename_i n
    cases h : floatOfInt? n with
    | none => trivial
    | some x => exact isFinite_of_floatOfInt? h
  · exact finite _
  · rename_i s
    cases decimalNumeral? (Text.trimChars s.toList) with
    | none => trivial
    | some x => exact finite x
  · trivial

/-- An entry of a map from which others were set is the entry that was set or an old one. -/
lemma mem_setField {κ α : Type} [BEq κ] {key : κ} {value : α} {fields : List (κ × α)} {e : κ × α}
    (h : e ∈ setField key value fields) : e.2 = value ∨ e ∈ fields := by
  induction fields with
  | nil =>
    obtain rfl : e = (key, value) := by simpa [setField] using h
    exact .inl rfl
  | cons f fields ih =>
    obtain ⟨k, v⟩ := f
    unfold setField at h
    split at h
    · rcases List.mem_cons.mp h with rfl | h
      · exact .inl rfl
      · exact .inr (List.mem_cons_of_mem _ h)
    · rcases List.mem_cons.mp h with rfl | h
      · exact .inr List.mem_cons_self
      · exact (ih h).imp id (List.mem_cons_of_mem _)

lemma forall_mem_foldl_setField {κ α : Type} [BEq κ] {P : α → Prop} {entries map : List (κ × α)}
    (h : ∀ e ∈ entries, P e.2) (hmap : ∀ e ∈ map, P e.2) :
    ∀ e ∈ entries.foldl (fun map (k, a) => setField k a map) map, P e.2 := by
  induction entries generalizing map with
  | nil => exact hmap
  | cons f entries ih =>
    obtain ⟨k, a⟩ := f
    apply ih fun e he => h e (List.mem_cons_of_mem _ he)
    intro e he
    rcases mem_setField he with heq | he
    · rw [heq]
      exact h (k, a) List.mem_cons_self
    · exact hmap e he

namespace Form

variable {ρ σ α β κ : Type}

/-- Whether whatever a form gives at a node satisfies a condition. -/
def Gives (f : Form σ α) (d : σ) (n : Node) (P : α → Prop) : Prop :=
  Settles P (fun _ => True) (f.value d n)

namespace Gives

variable {d : σ} {n : Node} {P : α → Prop} {Q : β → Prop}

lemma any (f : Form σ α) (d : σ) (n : Node) : f.Gives d n fun _ => True := by
  unfold Gives
  cases f.value d n <;> trivial

lemma mono {f : Form σ α} {P' : α → Prop} (h : f.Gives d n P) (hP : ∀ a, P a → P' a) :
    f.Gives d n P' :=
  Settles.mono h hP fun _ => id

lemma and {f : Form σ α} {P' : α → Prop} (h : f.Gives d n P) (h' : f.Gives d n P') :
    f.Gives d n fun a => P a ∧ P' a := by
  unfold Gives at *
  cases hf : f.value d n with
  | error e => trivial
  | ok a => exact ⟨h.ok hf, h'.ok hf⟩

lemma pure {a : α} (h : P a) : (Form.pure a : Form σ α).Gives d n P := h

lemma seq {f : Form σ (α → β)} {x : Form σ α} (hx : x.Gives d n P)
    (hf : f.Gives d n fun g => ∀ a, P a → Q (g a)) : (f <*> x).Gives d n Q :=
  Settles.bind hf fun _ hg => Settles.bind hx fun a ha => hg a ha

lemma seqRight {x : Form σ α} {y : Form σ β} (hy : y.Gives d n Q) : (x *> y).Gives d n Q :=
  seq hy (seq (any x d n) fun _ _ _ => id)

lemma zoom {get : ρ → σ} {body : Form σ α} {r : ρ} (h : body.Gives (get r) n P) :
    (Form.zoom get body).Gives r n P := h

lemma group {name : String} {body : Form σ α} {note : Note} (h : body.Gives d (n.child name) P) :
    (Form.group name body note).Gives d n P := by
  apply (Node.Settled.group.mono (fun _ h => h) fun _ _ => trivial).bind
  rintro m rfl
  exact h

lemma coerced {expected : String} {coerce : Coercion α} (h : coerce.Gives P) :
    Settles P (fun _ => True) (n.coerced expected coerce) := by
  have taken := h n.value
  unfold Node.coerced
  rcases hc : coerce n.value with (_ | _) | a
  · trivial
  · trivial
  · rwa [hc] at taken

lemma scalar {name : String} {kind : Kind α} {get : σ → α} {note : Note} (hd : P (get d))
    (hk : kind.coerce.Gives P) : (Form.scalar name kind get note).Gives d n P := by
  unfold Gives value Parameter.scalarValue
  split
  · exact hd
  · exact coerced hk

lemma enumMap [BEq κ] {name : String} {keys : Enumeration κ} {kind : Kind α}
    {get : σ → List (κ × α)} {note : Note} (hd : ∀ e ∈ get d, P e.2) (hk : kind.coerce.Gives P) :
    (Form.enumMap name keys kind get note).Gives d n fun map => ∀ e ∈ map, P e.2 := by
  have entry : ∀ m : Node, ∀ key, Settles (fun e : κ × α => P e.2) (fun _ => True)
      (m.entry keys kind key) := by
    intro m key
    unfold Node.entry
    split
    · trivial
    · exact (coerced hk).bind fun a ha => ha
  have map : Settles (fun map : Option (List (κ × α)) => ∀ e ∈ map.getD (get d), P e.2)
      (fun _ => True) ((n.parameter name note).mapValue keys kind) := by
    unfold Parameter.mapValue
    split
    · exact hd
    · split
      · trivial
      · apply Settles.bind (Settles.mapM fun key _ => entry _ key)
        intro read hread
        exact forall_mem_foldl_setField hread (List.forall_mem_nil _)
  exact map.bind fun _ h => h

lemma eachKey {kind : Kind α} {note : String → Note} (hk : kind.coerce.Gives P) :
    (Form.eachKey kind note : Form σ (List (String × α))).Gives d n fun map =>
      ∀ e ∈ map, P e.2 := by
  apply Settles.mapM
  intro key _
  have taken : Settles P (fun _ => True)
      ((n.parameter key (note key)).scalarValue kind none) := by
    unfold Parameter.scalarValue
    split
    · trivial
    · exact coerced hk
  exact taken.bind fun _ h => h

/-- What a list gives: the default if there are no elements, and else one value for each. -/
lemma list {name : String} {element : Form σ α} {get : σ → List α} {note : Note}
    {R : Node → α → Prop} (h : ∀ m ∈ (n.child name).elements, element.Gives d m (R m)) :
    (Form.list name element get note).Gives d n fun as =>
      (n.child name).elements = [] ∧ as = get d
        ∨ (n.child name).elements ≠ [] ∧ List.Forall₂ R (n.child name).elements as := by
  apply (Node.Settled.groups.mono (fun _ h => h) fun _ _ => trivial).bind
  rintro ms rfl
  cases hempty : (n.child name).elements.isEmpty with
  | true => exact .inl ⟨List.isEmpty_iff.mp hempty, rfl⟩
  | false =>
    show Settles _ _ ((n.child name).elements.mapM (element.value d))
    cases hvalues : (n.child name).elements.mapM (element.value d) with
    | error f => trivial
    | ok as =>
      have each : List.Forall₂ Eq ((n.child name).elements.map (element.value d)) (as.map .ok) := by
        rw [List.forall₂_eq_eq_eq]
        exact mapM_eq_ok_iff.mp hvalues
      rw [List.forall₂_map_left_iff, List.forall₂_map_right_iff] at each
      refine .inr ⟨List.isEmpty_eq_false_iff.mp hempty, ?_⟩
      exact ((List.forall₂_and_left _ _).mpr ⟨h, each⟩).imp fun m a hma => hma.1.ok hma.2

end Gives
end Form
end PlannerConfig
