import PlannerConfig.Proofs.Form.Paths

/-!
The names on the paths of a form: those that the form itself gives, and the keys that it takes from the
document for names of parameters.
-/
namespace PlannerConfig
namespace Form

/-- The names that a form gives to parameters and groups. -/
def names {σ α : Type} : Form σ α → List String
  | ap f x => f.names ++ x.names
  | zoom _ body => body.names
  | scalar name _ _ _ => [name]
  | required name _ _ => [name]
  | enumMap name _ _ _ _ => [name]
  | group name body _ => name :: body.names
  | optionalGroup name body _ => name :: body.names
  | list name element _ _ => name :: element.names
  | _ => []

/-- The keys of the document that a form takes for names of parameters. -/
def freeKeys {σ α : Type} : Form σ α → Node → List String
  | ap f x, n => f.freeKeys n ++ x.freeKeys n
  | zoom _ body, n => body.freeKeys n
  | eachKey _ _, n => n.keys
  | group name body _, n => body.freeKeys (n.child name)
  | optionalGroup name body _, n =>
    if (n.child name).isEmpty then [] else body.freeKeys (n.child name)
  | list name element _ _, n => (n.child name).elements.flatMap element.freeKeys
  | _, _ => []

section applicative

variable {σ α β : Type} (n : Node)

@[simp] lemma freeKeys_map (g : α → β) (x : Form σ α) : (g <$> x).freeKeys n = x.freeKeys n := rfl

@[simp] lemma freeKeys_seq (f : Form σ (α → β)) (x : Form σ α) :
    (f <*> x).freeKeys n = f.freeKeys n ++ x.freeKeys n := rfl

@[simp] lemma freeKeys_seqRight (x : Form σ α) (y : Form σ β) :
    (x *> y).freeKeys n = x.freeKeys n ++ y.freeKeys n := rfl

end applicative

variable {σ α : Type} {f : Form σ α} {n : Node} {path : List String} {name key : String}

lemma mem_names_of_mem_cons {names keys : List String} {group : String}
    (h : name ∈ group :: path) (inside : name ∈ path → name ∈ names ∨ name ∈ keys) :
    name ∈ group :: names ∨ name ∈ keys := by
  rcases List.mem_cons.mp h with rfl | h
  · exact .inl List.mem_cons_self
  · exact (inside h).imp_left (List.mem_cons_of_mem _)

/-- A name on the path of a parameter is one of the form or a key of the document. -/
lemma mem_names_or_freeKeys (hpath : path ∈ f.leafPaths n) (hname : name ∈ path) :
    name ∈ f.names ∨ name ∈ f.freeKeys n := by
  induction f generalizing n path with
  | ap f x ihf ihx =>
    simp only [names, freeKeys, List.mem_append]
    rcases List.mem_append.mp hpath with hpath | hpath
    · exact (ihf hpath hname).imp .inl .inl
    · exact (ihx hpath hname).imp .inr .inr
  | zoom get body ih => exact ih hpath hname
  | scalar name kind get note =>
    obtain rfl := List.mem_singleton.mp hpath
    exact .inl hname
  | required name kind note =>
    obtain rfl := List.mem_singleton.mp hpath
    exact .inl hname
  | enumMap name keys kind get note =>
    obtain rfl := List.mem_singleton.mp hpath
    exact .inl hname
  | eachKey kind note =>
    obtain ⟨key, hkey, rfl⟩ := List.mem_map.mp hpath
    obtain rfl := List.mem_singleton.mp hname
    exact .inr hkey
  | group name body note ih =>
    obtain ⟨inner, hinner, rfl⟩ := List.mem_map.mp hpath
    exact mem_names_of_mem_cons hname (ih hinner)
  | optionalGroup name body note ih =>
    simp only [leafPaths, freeKeys] at hpath ⊢
    split at hpath
    · simp at hpath
    · rename_i hempty
      obtain ⟨inner, hinner, rfl⟩ := List.mem_map.mp hpath
      rw [if_neg hempty]
      exact mem_names_of_mem_cons hname (ih hinner)
  | list name element get note ih =>
    obtain ⟨m, hm, hpath⟩ := List.mem_flatMap.mp hpath
    obtain ⟨inner, hinner, rfl⟩ := List.mem_map.mp hpath
    refine mem_names_of_mem_cons hname fun h => (ih hinner h).imp_right fun hkey => ?_
    exact List.mem_flatMap.mpr ⟨m, hm, hkey⟩
  | _ => simp [leafPaths] at hpath

lemma exists_cons_of_mem (name : String) {paths : List (List String)}
    (h : ∃ path ∈ paths, key ∈ path) :
    ∃ path ∈ paths.map (name :: ·), key ∈ path := by
  obtain ⟨path, hpath, hkey⟩ := h
  exact ⟨name :: path, List.mem_map_of_mem hpath, List.mem_cons_of_mem _ hkey⟩

/-- A key that is taken for a name is on the path of a parameter. -/
lemma exists_leafPath_of_mem_freeKeys (h : key ∈ f.freeKeys n) :
    ∃ path ∈ f.leafPaths n, key ∈ path := by
  induction f generalizing n with
  | ap f x ihf ihx =>
    rcases List.mem_append.mp h with h | h
    · obtain ⟨path, hpath, hkey⟩ := ihf h
      exact ⟨path, List.mem_append_left _ hpath, hkey⟩
    · obtain ⟨path, hpath, hkey⟩ := ihx h
      exact ⟨path, List.mem_append_right _ hpath, hkey⟩
  | zoom get body ih => exact ih h
  | eachKey kind note => exact ⟨[key], List.mem_map_of_mem h, List.mem_singleton_self key⟩
  | group name body note ih => exact exists_cons_of_mem name (ih h)
  | optionalGroup name body note ih =>
    simp only [leafPaths, freeKeys] at h ⊢
    split at h
    · simp at h
    · rename_i hempty
      rw [if_neg hempty]
      exact exists_cons_of_mem name (ih h)
  | list name element get note ih =>
    obtain ⟨m, hm, h⟩ := List.mem_flatMap.mp h
    obtain ⟨path, hpath, hkey⟩ := exists_cons_of_mem name (ih h)
    exact ⟨path, List.mem_flatMap.mpr ⟨m, hm, hpath⟩, hkey⟩
  | _ => simp [freeKeys] at h

end Form
end PlannerConfig
