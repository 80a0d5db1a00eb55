import PlannerConfig.Proofs.Document.Scalars
import PlannerConfig.Proofs.Form.Paths
import PlannerConfig.Proofs.Traversal

/-!
The places that reading a form consumes against the paths that it documents. On the scalars of a
document they come to the same: a scalar lies in a consumed place exactly if its path without indexes
goes on from that of a parameter, one that is passed over included. It does not matter from which
element of an array the parameter was registered.
-/
namespace PlannerConfig

@[simp] lemma Path.keys_cons_key (name : String) (p : Path) :
    keys (.key name :: p) = name :: keys p := rfl

@[simp] lemma Path.keys_cons_index (i : Int) (p : Path) : keys (.index i :: p) = keys p := rfl

namespace Node

variable {n : Node} {name : String} {q : Path}

lemma isEmpty_of_mem_scalars (h : q ∈ n.scalars) : n.isEmpty = false := by
  obtain ⟨d, hd, hq⟩ := mem_scalars.mp h
  cases d with
  | object fields =>
    cases fields with
    | nil => simp [Document.scalars, Document.scalarsOfFields] at hq
    | cons f fields => simp [isEmpty, isMissing, isObject, size, hd, Document.size]
  | _ => simp [isEmpty, isMissing, isObject, hd, Document.isObject]

/-- A scalar of an object whose path starts with a name lies beneath that key. -/
lemma exists_key_of_keys {l : List String} (hd : n.KeysDistinct)
    (hn : (n.isMissing || n.isObject) = true) (hp : name :: l <+: Path.keys q)
    (hq : q ∈ n.scalars) :
    ∃ r, q = .key name :: r ∧ l <+: Path.keys r ∧ r ∈ (n.child name).scalars := by
  obtain ⟨k, r, rfl, -, hr⟩ := mem_scalars_of_object hd hn hq
  rw [Path.keys_cons_key, List.cons_prefix_cons] at hp
  obtain ⟨rfl, hp⟩ := hp
  exact ⟨r, rfl, hp, hr⟩

lemma exists_mark_of_keys {l : List String} (hd : n.KeysDistinct)
    (hn : (n.isMissing || n.isObject) = true) (hp : name :: l <+: Path.keys q)
    (hq : q ∈ n.scalars) : ∃ m ∈ n.mark name, m <+: q := by
  obtain ⟨r, rfl, -, hr⟩ := exists_key_of_keys hd hn hp hq
  refine ⟨[.key name], ?_, by simp⟩
  simp [mark, isMissing_of_mem_scalars hr]

lemma keys_of_mem_mark {m : Path} (h : m ∈ n.mark name) : Path.keys m = [name] := by
  unfold mark at h
  split at h
  · simp at h
  · rw [List.mem_singleton.mp h, Path.keys_key]

end Node

namespace Form

/-- The paths of the parameters of earlier releases that a form passes over. -/
def retiredPaths {σ α : Type} : Form σ α → List (List String)
  | ap f x => f.retiredPaths ++ x.retiredPaths
  | zoom _ body => body.retiredPaths
  | group name body _ => body.retiredPaths.map (name :: ·)
  | optionalGroup name body _ => body.retiredPaths.map (name :: ·)
  | list name element _ _ => element.retiredPaths.map (name :: ·)
  | retired name _ => [[name]]
  | _ => []

/-- Whether there are objects and arrays where a form opens groups. -/
def Opens {σ α : Type} : Form σ α → Node → Prop
  | ap f x, n => f.Opens n ∧ x.Opens n
  | zoom _ body, n => body.Opens n
  | group name body _, n =>
    ((n.child name).isMissing || (n.child name).isObject) = true ∧ body.Opens (n.child name)
  | optionalGroup name body _, n =>
    ((n.child name).isMissing || (n.child name).isObject) = true
      ∧ ((n.child name).isEmpty = false → body.Opens (n.child name))
  | list name element _ _, n =>
    ((n.child name).isMissing = true ∨ (n.child name).isArray = true)
      ∧ ∀ m ∈ (n.child name).elements, m.isObject = true ∧ element.Opens m
  | _, _ => True

variable {σ α : Type} {f : Form σ α} {n : Node}

lemma ok_of_mapM_ok {β : Type} {k : α → Except Failure β} {as : List α} {bs : List β}
    (h : as.mapM k = .ok bs) {a : α} (ha : a ∈ as) : ∃ b, k a = .ok b := by
  induction as generalizing bs with
  | nil => simp at ha
  | cons c as ih =>
    rw [List.mapM_cons] at h
    obtain ⟨b, hb, h⟩ := bind_eq_ok.mp h
    obtain ⟨rest, hrest, -⟩ := bind_eq_ok.mp h
    rcases List.mem_cons.mp ha with rfl | ha
    · exact ⟨b, hb⟩
    · exact ih hrest ha

section value

/-! What has been read where a form has a value, by the outermost part of the form. -/

variable {β : Type} {d : σ} {name : String} {note : Note}

lemma value_ap_eq_ok {f : Form σ (α → β)} {x : Form σ α} {b : β} : (ap f x).value d n = .ok b
    ↔ ∃ g a, f.value d n = .ok g ∧ x.value d n = .ok a ∧ g a = b := by
  simp only [value, bind_eq_ok, Pure.pure, Except.pure, Except.ok.injEq]
  tauto

lemma value_seq_eq_ok {f : Form σ (α → β)} {x : Form σ α} {b : β} : (f <*> x).value d n = .ok b
    ↔ ∃ g a, f.value d n = .ok g ∧ x.value d n = .ok a ∧ g a = b := value_ap_eq_ok

lemma value_group_eq_ok {body : Form σ α} {a : α} : (group name body note).value d n = .ok a
    ↔ ((n.child name).isMissing || (n.child name).isObject) = true
      ∧ body.value d (n.child name) = .ok a := by
  rw [value, bind_eq_ok]
  constructor
  · rintro ⟨m, hm, h⟩
    obtain ⟨rfl, hshape⟩ := Node.group_eq_ok.mp hm
    exact ⟨hshape, h⟩
  · rintro ⟨hshape, h⟩
    exact ⟨_, Node.group_eq_ok.mpr ⟨rfl, hshape⟩, h⟩

lemma of_value_optionalGroup {body : Form σ α} {o : Option α}
    (h : (optionalGroup name body note).value d n = .ok o) :
    ((n.child name).isMissing || (n.child name).isObject) = true
      ∧ ((n.child name).isEmpty = false → ∃ a, body.value d (n.child name) = .ok a) := by
  obtain ⟨m, hm, h⟩ := bind_eq_ok.mp h
  obtain ⟨rfl, hshape⟩ := Node.group_eq_ok.mp hm
  refine ⟨hshape, fun hempty => ?_⟩
  rw [hempty] at h
  obtain ⟨a, ha, -⟩ := bind_eq_ok.mp h
  exact ⟨a, ha⟩

lemma of_value_list {element : Form σ α} {get : σ → List α} {as : List α}
    (h : (list name element get note).value d n = .ok as) :
    ((n.child name).isMissing = true ∨ (n.child name).isArray = true)
      ∧ ∀ m ∈ (n.child name).elements, m.isObject = true ∧ ∃ a, element.value d m = .ok a := by
  obtain ⟨ms, hms, h⟩ := bind_eq_ok.mp h
  obtain ⟨rfl, hshape, hobjects⟩ := Node.groups_eq_ok hms
  refine ⟨hshape, fun m hm => ⟨hobjects m hm, ?_⟩⟩
  have hne : (n.child name).elements.isEmpty = false := by
    rw [List.isEmpty_eq_false_iff]
    exact List.ne_nil_of_mem hm
  rw [hne] at h
  exact ok_of_mapM_ok h hm

end value

lemma opens_of_value {d : σ} {a : α} (h : f.value d n = .ok a) : f.Opens n := by
  induction f generalizing n with
  | ap f x ihf ihx =>
    obtain ⟨g, b, hg, hb, -⟩ := value_ap_eq_ok.mp h
    exact ⟨ihf hg, ihx hb⟩
  | zoom get body ih => exact ih h
  | group name body note ih =>
    obtain ⟨hshape, h⟩ := value_group_eq_ok.mp h
    exact ⟨hshape, ih h⟩
  | optionalGroup name body note ih =>
    obtain ⟨hshape, hbody⟩ := of_value_optionalGroup h
    refine ⟨hshape, fun hempty => ?_⟩
    obtain ⟨b, hb⟩ := hbody hempty
    exact ih hb
  | list name element get note ih =>
    obtain ⟨hshape, helements⟩ := of_value_list h
    refine ⟨hshape, fun m hm => ?_⟩
    obtain ⟨hobject, b, hb⟩ := helements m hm
    exact ⟨hobject, ih hb⟩
  | _ => trivial

/-- Each place that is consumed is that of a parameter. -/
lemma keys_of_mem_marks {m : Path} (h : m ∈ f.marks n) :
    Path.keys m ∈ f.leafPaths n ∨ Path.keys m ∈ f.retiredPaths := by
  induction f generalizing n m with
  | pure a => simp [marks] at h
  | ap f x ihf ihx =>
    simp only [leafPaths, retiredPaths, List.mem_append]
    rcases List.mem_append.mp h with h | h
    · exact (ihf h).imp .inl .inl
    · exact (ihx h).imp .inr .inr
  | zoom get body ih => exact ih h
  | scalar name kind get note => exact .inl (by simp [leafPaths, Node.keys_of_mem_mark h])
  | required name kind note => exact .inl (by simp [leafPaths, Node.keys_of_mem_mark h])
  | enumMap name keys kind get note => exact .inl (by simp [leafPaths, Node.keys_of_mem_mark h])
  | eachKey kind note =>
    obtain ⟨key, hkey, h⟩ := List.mem_flatMap.mp h
    exact .inl (by simp [leafPaths, Node.keys_of_mem_mark h, hkey])
  | group name body note ih =>
    obtain ⟨m, hm, rfl⟩ := List.mem_map.mp h
    exact (ih hm).imp (List.mem_map_of_mem ·) (List.mem_map_of_mem ·)
  | optionalGroup name body note ih =>
    unfold marks at h
    unfold leafPaths
    split at h
    · simp at h
    · rename_i hempty
      obtain ⟨m, hm, rfl⟩ := List.mem_map.mp h
      rw [if_neg hempty]
      exact (ih hm).imp (List.mem_map_of_mem ·) (List.mem_map_of_mem ·)
  | list name element get note ih =>
    obtain ⟨i, hi, h⟩ := List.mem_flatMap.mp h
    obtain ⟨m, hm, rfl⟩ := List.mem_map.mp h
    refine (ih hm).imp (fun hl => ?_) (List.mem_map_of_mem ·)
    exact List.mem_flatMap.mpr ⟨_, List.mem_map_of_mem hi, List.mem_map_of_mem hl⟩
  | tell event => simp [marks] at h
  | retired name event => exact .inr (by simp [retiredPaths, Node.keys_of_mem_mark h])

lemma exists_cons_of_mem_map {name : String} {l : List String} {ps qs : List (List String)}
    (h : l ∈ ps.map (name :: ·) ∨ l ∈ qs.map (name :: ·)) :
    ∃ k, l = name :: k ∧ (k ∈ ps ∨ k ∈ qs) := by
  rcases h with h | h
  · obtain ⟨k, hk, rfl⟩ := List.mem_map.mp h
    exact ⟨k, rfl, .inl hk⟩
  · obtain ⟨k, hk, rfl⟩ := List.mem_map.mp h
    exact ⟨k, rfl, .inr hk⟩

/-- A scalar whose path goes on from that of a parameter lies in a place that is consumed. The
parameter may have been registered from another node. -/
lemma exists_mark_of_keys {n' : Node} {l : List String} {q : Path} (ho : f.Opens n)
    (hd : n.KeysDistinct) (hn : (n.isMissing || n.isObject) = true)
    (hl : l ∈ f.leafPaths n' ∨ l ∈ f.retiredPaths) (hp : l <+: Path.keys q) (hq : q ∈ n.scalars) :
    ∃ m ∈ f.marks n, m <+: q := by
  induction f generalizing n n' l q with
  | pure a => simp [leafPaths, retiredPaths] at hl
  | ap f x ihf ihx =>
    simp only [leafPaths, retiredPaths, List.mem_append] at hl
    have hl : (l ∈ f.leafPaths n' ∨ l ∈ f.retiredPaths)
        ∨ (l ∈ x.leafPaths n' ∨ l ∈ x.retiredPaths) := by tauto
    rcases hl with hl | hl
    · obtain ⟨m, hm, hmq⟩ := ihf ho.1 hd hn hl hp hq
      exact ⟨m, List.mem_append_left _ hm, hmq⟩
    · obtain ⟨m, hm, hmq⟩ := ihx ho.2 hd hn hl hp hq
      exact ⟨m, List.mem_append_right _ hm, hmq⟩
  | zoom get body ih => exact ih ho hd hn hl hp hq
  | scalar name kind get note =>
    obtain rfl : l = [name] := by simpa [leafPaths, retiredPaths] using hl
    exact Node.exists_mark_of_keys hd hn hp hq
  | required name kind note =>
    obtain rfl : l = [name] := by simpa [leafPaths, retiredPaths] using hl
    exact Node.exists_mark_of_keys hd hn hp hq
  | enumMap name keys kind get note =>
    obtain rfl : l = [name] := by simpa [leafPaths, retiredPaths] using hl
    exact Node.exists_mark_of_keys hd hn hp hq
  | eachKey kind note =>
    obtain ⟨k, r, rfl, hk, hr⟩ := Node.mem_scalars_of_object hd hn hq
    refine ⟨[.key k], List.mem_flatMap.mpr ⟨k, hk, ?_⟩, by simp⟩
    simp [Node.mark, Node.isMissing_of_mem_scalars hr]
  | group name body note ih =>
    obtain ⟨k, rfl, hk⟩ := exists_cons_of_mem_map hl
    obtain ⟨r, rfl, hp, hr⟩ := Node.exists_key_of_keys hd hn hp hq
    obtain ⟨m, hm, hmr⟩ := ih ho.2 (hd.child name) ho.1 hk hp hr
    exact ⟨_, List.mem_map_of_mem hm, List.cons_prefix_cons.mpr ⟨rfl, hmr⟩⟩
  | optionalGroup name body note ih =>
    have opened : l ∈ (optionalGroup name body note).leafPaths n' →
        l ∈ (body.leafPaths (n'.child name)).map (name :: ·) := by
      intro h
      unfold leafPaths at h
      split at h
      · exact absurd h List.not_mem_nil
      · exact h
    obtain ⟨k, rfl, hk⟩ := exists_cons_of_mem_map (hl.imp_left opened)
    obtain ⟨r, rfl, hp, hr⟩ := Node.exists_key_of_keys hd hn hp hq
    have hempty := Node.isEmpty_of_mem_scalars hr
    obtain ⟨m, hm, hmr⟩ := ih (ho.2 hempty) (hd.child name) ho.1 hk hp hr
    refine ⟨_, ?_, List.cons_prefix_cons.mpr ⟨rfl, hmr⟩⟩
    rw [marks, if_neg (by simp [hempty])]
    exact List.mem_map_of_mem hm
  | list name element get note ih =>
    -- the element that holds the scalar need not be the one that the path comes from
    obtain ⟨m', hl⟩ : ∃ m', l ∈ (element.leafPaths m').map (name :: ·)
        ∨ l ∈ element.retiredPaths.map (name :: ·) := by
      rcases hl with hl | hl
      · obtain ⟨m', -, hl⟩ := List.mem_flatMap.mp hl
        exact ⟨m', .inl hl⟩
      · exact ⟨n', .inr hl⟩
    obtain ⟨k, rfl, hk⟩ := exists_cons_of_mem_map hl
    obtain ⟨r, rfl, hp, hr⟩ := Node.exists_key_of_keys hd hn hp hq
    obtain ⟨i, s, rfl, hi, hs⟩ := Node.mem_scalars_of_array ho.1 hr
    rw [Path.keys_cons_index] at hp
    have hm : (n.child name).childAt i ∈ (n.child name).elements :=
      List.mem_map_of_mem (List.mem_range.mpr hi)
    obtain ⟨hobject, hopens⟩ := ho.2 _ hm
    obtain ⟨m, hm, hmr⟩ := ih hopens ((hd.child name).childAt i)
      (by rw [hobject, Bool.or_true]) hk hp hs
    refine ⟨_, List.mem_flatMap.mpr ⟨i, List.mem_range.mpr hi, List.mem_map_of_mem hm⟩, ?_⟩
    simpa using hmr
  | tell event => simp [leafPaths, retiredPaths] at hl
  | retired name event =>
    obtain rfl : l = [name] := by simpa [leafPaths, retiredPaths] using hl
    exact Node.exists_mark_of_keys hd hn hp hq

/-- Where a form reads objects, a scalar lies in a consumed place exactly if its path goes on from
that of a parameter. -/
theorem exists_mark_iff {q : Path} (ho : f.Opens n) (hd : n.KeysDistinct)
    (hn : (n.isMissing || n.isObject) = true) (hq : q ∈ n.scalars) :
    (∃ m ∈ f.marks n, m <+: q)
      ↔ ∃ l, (l ∈ f.leafPaths n ∨ l ∈ f.retiredPaths) ∧ l <+: Path.keys q := by
  constructor
  · rintro ⟨m, hm, hmq⟩
    exact ⟨_, keys_of_mem_marks hm, hmq.filterMap _⟩
  · rintro ⟨l, hl, hp⟩
    exact exists_mark_of_keys ho hd hn hl hp hq

end Form
end PlannerConfig
