import PlannerConfig.Proofs.Catalog.Agreement
import PlannerConfig.Proofs.Form.Paths

/-!
Forms whose registrations do not depend on what they read. Lists, free keys and groups that may be
left out do depend on it, and may stand only beneath hidden names of the root; the trees of two
readings then agree outside them.
-/
namespace PlannerConfig

lemma Parameter.groupRecord_congr {n n' : Node} (h : n.docPath = n'.docPath) (name : String)
    (note : Note) (type : ValueType) :
    (n.parameter name note).groupRecord type = (n'.parameter name note).groupRecord type := by
  simp [groupRecord, Node.parameter, h]

namespace Form

/-- Whether a form registers the same at all nodes of one path, apart from what is beneath hidden
names. -/
def fixedOutside {σ α : Type} (hidden : List String) : Form σ α → Bool
  | ap f x => f.fixedOutside hidden && x.fixedOutside hidden
  | zoom _ body => body.fixedOutside hidden
  | eachKey _ _ => false
  | group name body _ => hidden.contains name || body.fixedOutside []
  | optionalGroup name _ _ => hidden.contains name
  | list name _ _ _ => hidden.contains name
  | _ => true

variable {σ α : Type} {f : Form σ α} {d : σ} {n n' : Node}

lemma calls_eq_of_fixed (hf : f.fixedOutside [] = true) (h : n.docPath = n'.docPath) :
    f.calls d n = f.calls d n' := by
  induction f generalizing n n' with
  | pure a => rfl
  | ap f x ihf ihx =>
    obtain ⟨hf, hx⟩ := Bool.and_eq_true_iff.mp hf
    rw [calls, calls, ihf hf h, ihx hx h]
  | zoom get body ih => exact ih hf h
  | scalar name kind get note =>
    simp [calls, Parameter.scalarRecord, Node.parameter, h]
  | required name kind note => simp [calls, Parameter.scalarRecord, Node.parameter, h]
  | enumMap name keys kind get note => simp [calls, Parameter.mapRecord, Node.parameter, h]
  | eachKey kind note => cases hf
  | group name body note ih =>
    have hchild : (n.child name).docPath = (n'.child name).docPath := by simp [h]
    rw [calls, calls, ih hf hchild, Parameter.groupRecord_congr h]
  | optionalGroup name body note => simp [fixedOutside] at hf
  | list name element get note => simp [fixedOutside] at hf
  | tell event => rfl
  | retired name event => rfl

lemma ne_nil_of_mem_groupPaths {l : List String} (h : l ∈ f.groupPaths) : l ≠ [] := by
  induction f generalizing l with
  | ap f x ihf ihx => exact (List.mem_append.mp h).elim ihf ihx
  | zoom get body ih => exact ih h
  | group name body note ih =>
    rcases List.mem_cons.mp h with rfl | h
    · simp
    · obtain ⟨l, -, rfl⟩ := List.mem_map.mp h
      simp
  | optionalGroup name body note ih =>
    rcases List.mem_cons.mp h with rfl | h
    · simp
    · obtain ⟨l, -, rfl⟩ := List.mem_map.mp h
      simp
  | list name element get note ih =>
    rcases List.mem_cons.mp h with rfl | h
    · simp
    · obtain ⟨l, -, rfl⟩ := List.mem_map.mp h
      simp
  | _ => simp [groupPaths] at h

/-- All that a form registers is beneath its node. -/
lemma exists_path_of_mem_calls {call : Call} (h : call ∈ f.calls d n) :
    ∃ l, l ≠ [] ∧ call.path = n.docPath ++ l := by
  cases call with
  | parameter r =>
    obtain ⟨l, hl, hr⟩ := (f.exists_parameter_iff d n).mp ⟨r, h, rfl⟩
    exact ⟨l, ne_nil_of_mem hl, hr⟩
  | group g =>
    obtain ⟨l, hl, hg⟩ := f.exists_groupPath h
    exact ⟨l, ne_nil_of_mem_groupPaths hl, hg⟩

section agree

variable {hidden : List String} {c c' e e' : Catalog}

/-- A group under a hidden name: the group itself on both sides, and then what is beneath it. -/
lemma agree_of_hidden {name : String} {g : Record} {inside inside' : List Call}
    (h : c.root.Agree hidden c'.root) (hm : name ∈ hidden) (hg : g.path = [name])
    (hinside : ∀ call ∈ inside, ∃ l, l ≠ [] ∧ call.path = name :: l)
    (hinside' : ∀ call ∈ inside', ∃ l, l ≠ [] ∧ call.path = name :: l)
    (he : c.callAll (.group g :: inside) = .ok e)
    (he' : c'.callAll (.group g :: inside') = .ok e') : e.root.Agree hidden e'.root := by
  obtain ⟨b, hb, he⟩ := Catalog.callAll_cons.mp he
  obtain ⟨b', hb', he'⟩ := Catalog.callAll_cons.mp he'
  cases hb
  cases hb'
  have groups : (c.put g).root.Agree hidden (c'.put g).root :=
    h.update g (by rw [hg]; exact List.cons_ne_nil _ _)
  have there : ∀ b : Catalog, ((b.put g).root.child? name).isSome = true := by
    intro b
    unfold Catalog.put
    rw [hg]
    simp
  have left := Catalog.agree_callAll_left groups hm (there c') hinside he
  have kept : (e.root.child? name).isSome = true := by
    rw [left.isSome_child? name]
    exact there c'
  exact (Catalog.agree_callAll_left left.symm hm kept hinside' he').symm

lemma agree_of_fixed (hf : f.fixedOutside [] = true) (hn : n.docPath = []) (hn' : n'.docPath = [])
    (h : c.root.Agree hidden c'.root) (he : c.callAll (f.calls d n) = .ok e)
    (he' : c'.callAll (f.calls d n') = .ok e') : e.root.Agree hidden e'.root := by
  rw [← calls_eq_of_fixed hf (hn.trans hn'.symm)] at he'
  refine Catalog.agree_callAll h (fun call hcall => ?_) he he'
  obtain ⟨l, hl, hpath⟩ := exists_path_of_mem_calls hcall
  rw [hpath, hn]
  exact hl

lemma exists_path_of_child (hn : n.docPath = []) {name : String} :
    ∀ call ∈ f.calls d (n.child name), ∃ l, l ≠ [] ∧ call.path = name :: l := by
  intro call hcall
  obtain ⟨l, hl, hpath⟩ := exists_path_of_mem_calls hcall
  exact ⟨l, hl, by simp [hpath, hn]⟩

lemma exists_path_of_elements (hn : n.docPath = []) {name : String} :
    ∀ call ∈ (n.child name).elements.flatMap (f.calls d), ∃ l, l ≠ [] ∧ call.path = name :: l := by
  intro call hcall
  obtain ⟨m, hm, hcall⟩ := List.mem_flatMap.mp hcall
  obtain ⟨l, hl, hpath⟩ := exists_path_of_mem_calls hcall
  exact ⟨l, hl, by simp [hpath, Node.docPath_of_mem_elements hm, hn]⟩

/-- Reading a form at two roots leaves trees that agree. -/
theorem agree_of_callAll (hf : f.fixedOutside hidden = true) (hn : n.docPath = [])
    (hn' : n'.docPath = []) (h : c.root.Agree hidden c'.root)
    (he : c.callAll (f.calls d n) = .ok e) (he' : c'.callAll (f.calls d n') = .ok e') :
    e.root.Agree hidden e'.root := by
  induction f generalizing c c' e e' with
  | pure a => exact agree_of_fixed rfl hn hn' h he he'
  | ap f x ihf ihx =>
    obtain ⟨hf, hx⟩ := Bool.and_eq_true_iff.mp hf
    obtain ⟨b, hb, he⟩ := Catalog.callAll_append.mp he
    obtain ⟨b', hb', he'⟩ := Catalog.callAll_append.mp he'
    exact ihx hx (ihf hf h hb hb') he he'
  | zoom get body ih => exact ih hf h he he'
  | scalar name kind get note => exact agree_of_fixed rfl hn hn' h he he'
  | required name kind note => exact agree_of_fixed rfl hn hn' h he he'
  | enumMap name keys kind get note => exact agree_of_fixed rfl hn hn' h he he'
  | eachKey kind note => cases hf
  | group name body note =>
    rcases Bool.or_eq_true_iff.mp hf with hm | hbody
    · rw [calls, ← Parameter.groupRecord_congr (hn.trans hn'.symm)] at he'
      exact agree_of_hidden h (by simpa using hm) (by simp [hn]) (exists_path_of_child hn)
        (exists_path_of_child hn') he he'
    · exact agree_of_fixed (f := group name body note) hbody hn hn' h he he'
  | optionalGroup name body note =>
    rw [calls, ← Parameter.groupRecord_congr (hn.trans hn'.symm)] at he'
    have hm : name ∈ hidden := by simpa [fixedOutside] using hf
    refine agree_of_hidden h hm (by simp [hn]) ?_ ?_ he he'
    · split
      · simp
      · exact exists_path_of_child hn
    · split
      · simp
      · exact exists_path_of_child hn'
  | list name element get note =>
    rw [calls, ← Parameter.groupRecord_congr (hn.trans hn'.symm)] at he'
    have hm : name ∈ hidden := by simpa [fixedOutside] using hf
    exact agree_of_hidden h hm (by simp [hn]) (exists_path_of_elements hn)
      (exists_path_of_elements hn') he he'
  | tell event => exact agree_of_fixed rfl hn hn' h he he'
  | retired name event => exact agree_of_fixed rfl hn hn' h he he'

end agree
end Form
end PlannerConfig
