import PlannerConfig.Proofs.Form.Reading

/-!
The paths at which a form registers parameters and groups. If no path is that of both, reading the
form into an empty catalog is never refused a registration, and the catalog holds in the end what
was registered.
-/
namespace PlannerConfig

def Call.leafPath? : Call → Option (List String)
  | parameter r => some r.path
  | group _ => none

namespace Form

/-- The paths of the parameters that reading a form registers, seen from the node. -/
def leafPaths {σ α : Type} : Form σ α → Node → List (List String)
  | pure _, _ => []
  | ap f x, n => f.leafPaths n ++ x.leafPaths n
  | zoom _ body, n => body.leafPaths n
  | scalar name _ _ _, _ => [[name]]
  | required name _ _, _ => [[name]]
  | enumMap name _ _ _ _, _ => [[name]]
  | eachKey _ _, n => n.keys.map ([·])
  | group name body _, n => (body.leafPaths (n.child name)).map (name :: ·)
  | optionalGroup name body _, n =>
    if (n.child name).isEmpty then [] else (body.leafPaths (n.child name)).map (name :: ·)
  | list name element _ _, n =>
    (n.child name).elements.flatMap fun m => (element.leafPaths m).map (name :: ·)
  | tell _, _ => []
  | retired _ _, _ => []

/-- Whether reading a form at some node registers a parameter at a path. -/
def mayRegister {σ α : Type} : Form σ α → List String → Bool
  | pure _, _ => false
  | ap f x, p => f.mayRegister p || x.mayRegister p
  | zoom _ body, p => body.mayRegister p
  | scalar name _ _ _, p => p == [name]
  | required name _ _, p => p == [name]
  | enumMap name _ _ _ _, p => p == [name]
  | eachKey _ _, p => p.length == 1
  | group name body _, p => p.head? == some name && body.mayRegister p.tail
  | optionalGroup name body _, p => p.head? == some name && body.mayRegister p.tail
  | list name element _ _, p => p.head? == some name && element.mayRegister p.tail
  | tell _, _ => false
  | retired _ _, _ => false

/-- The paths of the groups of a form. -/
def groupPaths {σ α : Type} : Form σ α → List (List String)
  | ap f x => f.groupPaths ++ x.groupPaths
  | zoom _ body => body.groupPaths
  | group name body _ => [name] :: body.groupPaths.map (name :: ·)
  | optionalGroup name body _ => [name] :: body.groupPaths.map (name :: ·)
  | list name element _ _ => [name] :: element.groupPaths.map (name :: ·)
  | _ => []

/-- Whether groups and parameters have different paths. -/
def Separate {σ α : Type} (f : Form σ α) : Prop := ∀ p ∈ f.groupPaths, f.mayRegister p = false

instance {σ α : Type} (f : Form σ α) : Decidable f.Separate :=
  inferInstanceAs (Decidable (∀ p ∈ f.groupPaths, f.mayRegister p = false))

section applicative

variable {σ α β : Type} (n : Node)

@[simp] lemma leafPaths_pure (a : α) : (Pure.pure a : Form σ α).leafPaths n = [] := rfl

@[simp] lemma leafPaths_map (g : α → β) (x : Form σ α) :
    (g <$> x).leafPaths n = x.leafPaths n := rfl

@[simp] lemma leafPaths_seq (f : Form σ (α → β)) (x : Form σ α) :
    (f <*> x).leafPaths n = f.leafPaths n ++ x.leafPaths n := rfl

@[simp] lemma leafPaths_seqRight (x : Form σ α) (y : Form σ β) :
    (x *> y).leafPaths n = x.leafPaths n ++ y.leafPaths n := rfl

end applicative

end Form

@[simp] lemma Node.docPath_child (n : Node) (name : String) :
    (n.child name).docPath = n.docPath ++ [name] := by
  simp [docPath, child]

@[simp] lemma Node.docPath_childAt (n : Node) (i : Int) : (n.childAt i).docPath = n.docPath := by
  simp [docPath, childAt]

lemma Node.docPath_of_mem_elements {n m : Node} (h : m ∈ n.elements) : m.docPath = n.docPath := by
  obtain ⟨i, -, rfl⟩ := List.mem_map.mp h
  exact n.docPath_childAt i

section paths

variable {α κ : Type} (n : Node) (name : String) (note : Note)

@[simp] lemma Parameter.path_scalarRecord (kind : Kind α) (default : Option α) :
    ((n.parameter name note).scalarRecord kind default).path = n.docPath ++ [name] :=
  n.docPath_child name

@[simp] lemma Parameter.path_mapRecord (keys : Enumeration κ) (kind : Kind α) (default : Value) :
    ((n.parameter name note).mapRecord keys kind default).path = n.docPath ++ [name] :=
  n.docPath_child name

@[simp] lemma Parameter.path_groupRecord (type : ValueType) :
    ((n.parameter name note).groupRecord type).path = n.docPath ++ [name] :=
  n.docPath_child name

end paths

namespace Form

variable {σ α : Type}

/-- The parameters that are registered are those at the paths of leaves. -/
lemma filterMap_calls (f : Form σ α) (d : σ) (n : Node) :
    (f.calls d n).filterMap Call.leafPath? = (f.leafPaths n).map (n.docPath ++ ·) := by
  induction f generalizing n with
  | pure a => rfl
  | ap f x ihf ihx => simp only [calls, leafPaths, List.filterMap_append, List.map_append, ihf, ihx]
  | zoom get body ih => exact ih (get d) n
  | scalar name kind get note => simp [calls, leafPaths, Call.leafPath?]
  | required name kind note => simp [calls, leafPaths, Call.leafPath?]
  | enumMap name keys kind get note => simp [calls, leafPaths, Call.leafPath?]
  | eachKey kind note =>
    simp [calls, leafPaths, List.filterMap_flatMap, Call.leafPath?, List.map_eq_flatMap,
      List.flatMap_assoc]
  | group name body note ih =>
    rw [calls, leafPaths, List.filterMap_cons_none rfl, ih, List.map_map]
    simp
  | optionalGroup name body note ih =>
    rw [calls, leafPaths, List.filterMap_cons_none rfl]
    split
    · rfl
    · rw [ih, List.map_map]
      simp
  | list name element get note ih =>
    rw [calls, leafPaths, List.filterMap_cons_none rfl]
    simp only [List.filterMap_flatMap, List.map_flatMap, ih, List.map_map]
    refine List.flatMap_congr fun m hm => List.map_congr_left fun l _ => ?_
    simp [Node.docPath_of_mem_elements hm]
  | tell event => rfl
  | retired name event => rfl

lemma exists_parameter_iff (f : Form σ α) (d : σ) (n : Node) {p : List String} :
    (∃ r, .parameter r ∈ f.calls d n ∧ r.path = p) ↔ ∃ l ∈ f.leafPaths n, p = n.docPath ++ l := by
  have hm : p ∈ (f.calls d n).filterMap Call.leafPath?
      ↔ ∃ r, .parameter r ∈ f.calls d n ∧ r.path = p := by
    rw [List.mem_filterMap]
    constructor
    · rintro ⟨call, hc, hp⟩
      cases call with
      | parameter r => exact ⟨r, hc, Option.some.inj hp⟩
      | group r => cases hp
    · rintro ⟨r, hr, rfl⟩
      exact ⟨_, hr, rfl⟩
  rw [← hm, filterMap_calls, List.mem_map]
  simp only [eq_comm]

lemma exists_cons_of_exists {m n : Node} {name : String} {paths : List (List String)}
    {p : List String} (hm : m.docPath = n.docPath ++ [name])
    (h : ∃ l ∈ paths, p = m.docPath ++ l) :
    ∃ l ∈ [name] :: paths.map (name :: ·), p = n.docPath ++ l := by
  obtain ⟨l, hl, rfl⟩ := h
  refine ⟨name :: l, List.mem_cons_of_mem _ (List.mem_map_of_mem hl), ?_⟩
  rw [hm, List.append_assoc, List.singleton_append]

/-- The groups that are registered are groups of the form. -/
lemma exists_groupPath (f : Form σ α) {d : σ} {n : Node} {g : Record}
    (h : .group g ∈ f.calls d n) : ∃ l ∈ f.groupPaths, g.path = n.docPath ++ l := by
  induction f generalizing n with
  | ap f x ihf ihx =>
    rcases List.mem_append.mp h with h | h
    · obtain ⟨l, hl, hg⟩ := ihf h
      exact ⟨l, List.mem_append_left _ hl, hg⟩
    · obtain ⟨l, hl, hg⟩ := ihx h
      exact ⟨l, List.mem_append_right _ hl, hg⟩
  | zoom get body ih => exact ih h
  | group name body note ih =>
    rcases List.mem_cons.mp h with heq | h
    · cases heq
      exact ⟨[name], List.mem_cons_self, Parameter.path_groupRecord n name note _⟩
    · exact exists_cons_of_exists (n.docPath_child name) (ih h)
  | optionalGroup name body note ih =>
    rcases List.mem_cons.mp h with heq | h
    · cases heq
      exact ⟨[name], List.mem_cons_self, Parameter.path_groupRecord n name note _⟩
    · split at h
      · simp at h
      · exact exists_cons_of_exists (n.docPath_child name) (ih h)
  | list name element get note ih =>
    rcases List.mem_cons.mp h with heq | h
    · cases heq
      exact ⟨[name], List.mem_cons_self, Parameter.path_groupRecord n name note _⟩
    · obtain ⟨m, hm, h⟩ := List.mem_flatMap.mp h
      refine exists_cons_of_exists ?_ (ih h)
      rw [Node.docPath_of_mem_elements hm, n.docPath_child name]
  | _ => simp [calls] at h

/-- Well-declared forms make calls with records of the right kind. -/
lemma proper_of_mem_calls {f : Form σ α} (hf : f.Declared) {d : σ} {n : Node} {call : Call}
    (h : call ∈ f.calls d n) : call.Proper := by
  induction f generalizing n with
  | pure a => simp [calls] at h
  | ap f x ihf ihx =>
    rcases List.mem_append.mp h with h | h
    · exact ihf hf.1 h
    · exact ihx hf.2 h
  | zoom get body ih => exact ih hf h
  | scalar name kind get note =>
    obtain rfl := List.mem_singleton.mp h
    exact ⟨by simp, hf.2⟩
  | required name kind note =>
    obtain rfl := List.mem_singleton.mp h
    exact ⟨by simp, hf.2⟩
  | enumMap name keys kind get note =>
    obtain rfl := List.mem_singleton.mp h
    exact ⟨by simp, rfl⟩
  | eachKey kind note =>
    obtain ⟨key, -, h⟩ := List.mem_flatMap.mp h
    obtain rfl := List.mem_singleton.mp h
    exact ⟨by simp, hf.2⟩
  | group name body note ih =>
    rcases List.mem_cons.mp h with rfl | h
    · exact ⟨by simp, rfl⟩
    · exact ih hf.2 h
  | optionalGroup name body note ih =>
    rcases List.mem_cons.mp h with rfl | h
    · exact ⟨by simp, rfl⟩
    · split at h
      · simp at h
      · exact ih hf.2 h
  | list name element get note ih =>
    rcases List.mem_cons.mp h with rfl | h
    · exact ⟨by simp, rfl⟩
    · obtain ⟨m, -, h⟩ := List.mem_flatMap.mp h
      exact ih hf.2 h
  | tell event => simp [calls] at h
  | retired name event => simp [calls] at h

lemma mayRegister_of_mem {f : Form σ α} {n : Node} {l : List String} (h : l ∈ f.leafPaths n) :
    f.mayRegister l = true := by
  induction f generalizing n l with
  | pure a => simp [leafPaths] at h
  | ap f x ihf ihx =>
    rw [mayRegister, Bool.or_eq_true]
    exact (List.mem_append.mp h).imp ihf ihx
  | zoom get body ih => exact ih h
  | scalar name kind get note => simpa [leafPaths, mayRegister] using h
  | required name kind note => simpa [leafPaths, mayRegister] using h
  | enumMap name keys kind get note => simpa [leafPaths, mayRegister] using h
  | eachKey kind note =>
    obtain ⟨key, -, rfl⟩ := List.mem_map.mp h
    rfl
  | group name body note ih =>
    obtain ⟨l, hl, rfl⟩ := List.mem_map.mp h
    simpa [mayRegister] using ih hl
  | optionalGroup name body note ih =>
    unfold leafPaths at h
    split at h
    · simp at h
    · obtain ⟨l, hl, rfl⟩ := List.mem_map.mp h
      simpa [mayRegister] using ih hl
  | list name element get note ih =>
    obtain ⟨m, -, h⟩ := List.mem_flatMap.mp h
    obtain ⟨l, hl, rfl⟩ := List.mem_map.mp h
    simpa [mayRegister] using ih hl
  | tell event => simp [leafPaths] at h
  | retired name event => simp [leafPaths] at h

lemma ne_nil_of_mem {f : Form σ α} {n : Node} {l : List String} (h : l ∈ f.leafPaths n) :
    l ≠ [] := by
  have none_at_root : f.mayRegister [] = false := by
    clear h
    induction f <;> simp_all [mayRegister]
  rintro rfl
  simpa [none_at_root] using mayRegister_of_mem h

lemma append_ne_singleton {l q : List String} {name : String} (hl : l ≠ []) (hq : q ≠ []) :
    l ++ q ≠ [name] := by
  simp [List.append_eq_singleton_iff, hl, hq]

lemma mem_cons_of_beneath {l q : List String} {name : String} {paths : List (List String)}
    {inside : List String → Bool} (hl : l ≠ [])
    (h : ((l ++ q).head? == some name && inside (l ++ q).tail) = true)
    (ih : ∀ {l}, inside (l ++ q) = true → l ≠ [] → l ∈ paths) :
    l ∈ [name] :: paths.map (name :: ·) := by
  obtain ⟨k, l, rfl⟩ := List.exists_cons_of_ne_nil hl
  obtain ⟨hk, hin⟩ : k = name ∧ inside (l ++ q) = true := by simpa using h
  subst hk
  cases l with
  | nil => exact List.mem_cons_self
  | cons j l =>
    exact List.mem_cons_of_mem _ (List.mem_map_of_mem (ih hin (List.cons_ne_nil j l)))

/-- Above a parameter there are only groups. -/
lemma mem_groupPaths_of_append {f : Form σ α} {l q : List String}
    (h : f.mayRegister (l ++ q) = true) (hl : l ≠ []) (hq : q ≠ []) : l ∈ f.groupPaths := by
  induction f generalizing l with
  | pure a => cases h
  | ap f x ihf ihx =>
    rw [mayRegister, Bool.or_eq_true] at h
    exact List.mem_append.mpr (h.imp (fun h => ihf h hl) fun h => ihx h hl)
  | zoom get body ih => exact ih h hl
  | scalar name kind get note => exact absurd (eq_of_beq h) (append_ne_singleton hl hq)
  | required name kind note => exact absurd (eq_of_beq h) (append_ne_singleton hl hq)
  | enumMap name keys kind get note => exact absurd (eq_of_beq h) (append_ne_singleton hl hq)
  | eachKey kind note =>
    obtain ⟨key, hkey⟩ := List.length_eq_one_iff.mp (eq_of_beq h)
    exact absurd hkey (append_ne_singleton hl hq)
  | group name body note ih => exact mem_cons_of_beneath hl h ih
  | optionalGroup name body note ih => exact mem_cons_of_beneath hl h ih
  | list name element get note ih => exact mem_cons_of_beneath hl h ih
  | tell event => cases h
  | retired name event => cases h

section catalog

variable {f : Form σ α} {d : σ} {n : Node}

/-- No call of a group is made at the path of a parameter. -/
lemma Separate.path_ne (hs : f.Separate) {r g : Record} (hr : .parameter r ∈ f.calls d n)
    (hg : .group g ∈ f.calls d n) : g.path ≠ r.path := by
  intro heq
  obtain ⟨l, hl, hlr⟩ := (f.exists_parameter_iff d n).mp ⟨r, hr, rfl⟩
  obtain ⟨k, hk, hkg⟩ := f.exists_groupPath hg
  obtain rfl : k = l := by rw [hkg, hlr] at heq; exact List.append_cancel_left heq
  simpa [hs k hk] using mayRegister_of_mem hl

/-- No parameter is registered beneath another. -/
lemma Separate.path_ne_append (hs : f.Separate) {r s : Record} {q : List String}
    (hr : .parameter r ∈ f.calls d n) (hm : .parameter s ∈ f.calls d n) (hq : q ≠ []) :
    s.path ≠ r.path ++ q := by
  intro heq
  obtain ⟨l, hl, hlr⟩ := (f.exists_parameter_iff d n).mp ⟨r, hr, rfl⟩
  obtain ⟨k, hk, hks⟩ := (f.exists_parameter_iff d n).mp ⟨s, hm, rfl⟩
  obtain rfl : k = l ++ q := by
    rw [hks, hlr, List.append_assoc] at heq
    exact List.append_cancel_left heq
  have hg := hs l (mem_groupPaths_of_append (mayRegister_of_mem hk) (ne_nil_of_mem hl) hq)
  simpa [hg] using mayRegister_of_mem hl

/-- Reading into an empty catalog is never refused a registration. -/
theorem exists_callAll_calls (hf : f.Declared) (hs : f.Separate) :
    ∃ c, ({} : Catalog).callAll (f.calls d n) = .ok c :=
  Catalog.exists_callAll (fun _ => proper_of_mem_calls hf) fun _ _ _ => hs.path_ne_append

/-- The catalog holds the parameters that were registered. -/
theorem contains_iff (hf : f.Declared) (hs : f.Separate) {c : Catalog}
    (hc : ({} : Catalog).callAll (f.calls d n) = .ok c) {p : List String} :
    c.contains p = true ↔ ∃ l ∈ f.leafPaths n, p = n.docPath ++ l := by
  rw [Catalog.contains_callAll (fun _ => proper_of_mem_calls hf) hc,
    Call.lastAt?_eq_parameter_iff, ← f.exists_parameter_iff d n]
  refine and_iff_left_of_imp ?_
  rintro ⟨r, hr, rfl⟩ before g after heq hg
  exact absurd hg (hs.path_ne hr (by rw [heq]; simp))

/-- Reading into an empty catalog gives the value of the form, be it one or a failure. -/
theorem runFrom_read (hf : f.Declared) (hs : f.Separate) (d : σ) (n : Node) (events : List Event) :
    ((f.read d n).runFrom { events }).1 = f.value d n := by
  obtain ⟨c, hc⟩ := exists_callAll_calls (d := d) (n := n) hf hs
  exact (f.runs hf d n).yields { events } c hc

/-- What a catalog holds after a form was read into an empty one. -/
structure Fills (f : Form σ α) (n : Node) (c : Catalog) : Prop where
  sound : c.Sound
  contains_iff : ∀ p, c.contains p = true ↔ ∃ l ∈ f.leafPaths n, p = n.docPath ++ l
  isConsumed_iff : ∀ p, c.isConsumed p = true ↔ ∃ q ∈ f.marks n, p = n.path ++ q

theorem fills_of_absorb (hf : f.Declared) (hs : f.Separate) {c : Catalog}
    (hc : ({} : Catalog).absorb (f.calls d n) ((f.marks n).map (n.path ++ ·)) = .ok c) :
    f.Fills n c := by
  obtain ⟨e, he, rfl⟩ := Catalog.absorb_eq_ok_iff.mp hc
  have hsound : e.Sound :=
    Catalog.sound_empty.callAll (fun _ hcall => (proper_of_mem_calls hf hcall).valid) he
  refine ⟨hsound.consumeAll, fun p => ?_, fun p => ?_⟩
  · rw [Catalog.contains_consumeAll, contains_iff hf hs he]
  · have initially : e.isConsumed p = false := Catalog.isConsumed_callAll he
    rw [Catalog.isConsumed_consumeAll, initially, List.mem_map]
    simp only [Bool.false_eq_true, or_false, eq_comm]

end catalog

end Form
end PlannerConfig
