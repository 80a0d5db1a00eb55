import PlannerConfig.Proofs.Catalog.Tree

/-!
Sequences of registrations. A catalog is filled by calls that register parameters and groups; a call
that is refused leaves it as it was. What the tree looks like after any such sequence is settled
here, and with it what a look-up finds.
-/
namespace PlannerConfig

/-- A registration. -/
inductive Call
  | parameter (r : Record)
  | group (r : Record)

namespace Call

def record : Call → Record
  | parameter r => r
  | group r => r

def path (call : Call) : List String := call.record.path

/-- Paths are not empty, and groups come with records of groups. A record of any type may come as
that of a parameter. -/
def Valid : Call → Prop
  | parameter r => r.path ≠ []
  | group r => r.path ≠ [] ∧ r.isGroup = true

/-- As `Valid`, and parameters come with records of parameters. -/
def Proper : Call → Prop
  | parameter r => r.path ≠ [] ∧ r.isGroup = false
  | group r => r.path ≠ [] ∧ r.isGroup = true

lemma Proper.valid {call : Call} (h : call.Proper) : call.Valid := by
  cases call with
  | parameter r => exact h.1
  | group r => exact h

end Call

namespace Catalog

def call (c : Catalog) : Call → Except Conflict Catalog
  | .parameter r => c.register r
  | .group r => return c.put r

/-- The catalog after a call, whether it was refused or not. -/
def attempt (c : Catalog) (call : Call) : Catalog := (c.call call).toOption.getD c

def attemptAll (c : Catalog) (calls : List Call) : Catalog := calls.foldl attempt c

/-- Makes calls up to the first that is refused. -/
def callAll (c : Catalog) (calls : List Call) : Except Conflict Catalog := calls.foldlM call c

/-- No parameter stands above a path or beneath it. -/
structure IsFree (c : Catalog) (path : List String) : Prop where
  above : ∀ p q, p ≠ [] → q ≠ [] → path = p ++ q → ¬ c.contains p = true
  beneath : ∀ q, q ≠ [] → ¬ c.contains (path ++ q) = true

/-- What any sequence of calls keeps. -/
structure Sound (c : Catalog) : Prop where
  placed : c.root.Placed []
  record_root : c.root.record = none
  uncovered : c.root.Uncovered

lemma contains_iff_hasLeafAt {c : Catalog} {p : List String} :
    c.contains p = true ↔ c.root.HasLeafAt p := by
  simp only [contains, find?, Entry.HasLeafAt, Option.any_eq_true]

lemma contains_iff {c : Catalog} {p : List String} :
    c.contains p = true ↔ ∃ r, c.get? p = some r ∧ r.isGroup = false :=
  contains_iff_hasLeafAt.trans Entry.hasLeafAt_iff

lemma get?_put (c : Catalog) (r : Record) (p : List String) :
    (c.put r).get? p = if p = r.path then some r else c.get? p :=
  Entry.recordAt?_update r r.path p c.root

lemma contains_put {c : Catalog} {r : Record} {p : List String} :
    (c.put r).contains p = true
      ↔ p = r.path ∧ r.isGroup = false ∨ p ≠ r.path ∧ c.contains p = true := by
  rw [contains_iff, contains_iff, get?_put]
  by_cases hp : p = r.path <;> simp [hp]

lemma conflict?_eq_none_iff {c : Catalog} (h : c.Sound) {r : Record} :
    c.conflict? r = none ↔ c.IsFree r.path := by
  have above : c.root.leafAbove? r.path = none
      ↔ ∀ p q, p ≠ [] → q ≠ [] → r.path = p ++ q → ¬ c.contains p = true := by
    simp only [Entry.leafAbove?_eq_none_iff, contains_iff_hasLeafAt]
  have beneath : (∀ e, c.find? r.path = some e → Entry.anyHasLeaves e.children = false)
      ↔ ∀ q, q ≠ [] → ¬ c.contains (r.path ++ q) = true := by
    simp only [contains_iff_hasLeafAt]
    constructor
    · rintro he q hq ⟨x, hx, hl⟩
      rw [Entry.find?_append] at hx
      obtain ⟨e, hf, hx⟩ := Option.bind_eq_some_iff.mp hx
      have hd : e.Distinct := fun p d hd => h.placed.distinct (r.path ++ p) d
        (by rw [Entry.find?_append, hf]; exact hd)
      exact Bool.eq_false_iff.mp (he e hf) ((Entry.anyHasLeaves_iff hd).mpr ⟨q, hq, x, hx, hl⟩)
    · intro hq e hf
      have hd : e.Distinct := fun p d hd => h.placed.distinct (r.path ++ p) d
        (by rw [Entry.find?_append]; exact (Option.bind_eq_some_iff.mpr ⟨e, hf, hd⟩))
      rw [Bool.eq_false_iff]
      intro hl
      obtain ⟨q, hne, x, hx, hl⟩ := (Entry.anyHasLeaves_iff hd).mp hl
      exact hq q hne ⟨x, by rw [Entry.find?_append]; exact Option.bind_eq_some_iff.mpr ⟨e, hf, hx⟩, hl⟩
  have both : c.conflict? r = none ↔ c.root.leafAbove? r.path = none
      ∧ ∀ e, c.find? r.path = some e → Entry.anyHasLeaves e.children = false := by
    unfold conflict?
    cases c.root.leafAbove? r.path <;> cases c.find? r.path <;> simp
  rw [both, above, beneath]
  exact ⟨fun h => ⟨h.1, h.2⟩, fun h => ⟨h.1, h.2⟩⟩

/-- A parameter is registered unless another stands above it or beneath it. -/
lemma register_eq_ok_iff {c c' : Catalog} (h : c.Sound) {r : Record} :
    c.register r = .ok c' ↔ c.IsFree r.path ∧ c.put r = c' := by
  rw [← conflict?_eq_none_iff h]
  unfold register
  cases c.conflict? r with
  | none => simp [pure, Except.pure]
  | some conflict => simp [throw, throwThe, MonadExceptOf.throw]

lemma sound_empty : ({} : Catalog).Sound where
  placed := Entry.placed_empty
  record_root := rfl
  uncovered := by
    intro p q _ _ hp
    obtain ⟨r, hr, -⟩ := Entry.hasLeafAt_iff.mp hp
    simp at hr

lemma Sound.put {c : Catalog} (h : c.Sound) {r : Record} (hp : r.path ≠ [])
    (hfree : r.isGroup = false → c.IsFree r.path) : (c.put r).Sound where
  placed := h.placed.put r
  record_root := by
    obtain ⟨name, rest, hr⟩ := List.exists_cons_of_ne_nil hp
    simp [Catalog.put, hr, h.record_root]
  uncovered := by
    intro p q hne hq hp hpq
    rw [← contains_iff_hasLeafAt, contains_put] at hp hpq
    rcases hp with ⟨rfl, hr⟩ | ⟨-, hp⟩
    · rcases hpq with ⟨heq, -⟩ | ⟨-, hpq⟩
      · exact hq (by simpa using heq)
      · exact (hfree hr).beneath q hq hpq
    · rcases hpq with ⟨heq, hr⟩ | ⟨-, hpq⟩
      · exact (hfree hr).above p q hne hq heq.symm hp
      · exact h.uncovered p q hne hq (contains_iff_hasLeafAt.mp hp) (contains_iff_hasLeafAt.mp hpq)

/-- A call keeps the tree sound. -/
lemma Sound.call {c c' : Catalog} (h : c.Sound) {call : Call} (hv : call.Valid)
    (hc : c.call call = .ok c') : c'.Sound := by
  cases call with
  | parameter r =>
    obtain ⟨hfree, rfl⟩ := (register_eq_ok_iff h).mp hc
    exact h.put hv fun _ => hfree
  | group r =>
    cases hc
    exact h.put hv.1 fun hr => by simp [hv.2] at hr

lemma Sound.attempt {c : Catalog} (h : c.Sound) {call : Call} (hv : call.Valid) :
    (c.attempt call).Sound := by
  unfold Catalog.attempt
  cases hc : c.call call with
  | error conflict => exact h
  | ok c' => exact h.call hv hc

/-- Any sequence of calls keeps the tree sound. -/
lemma Sound.attemptAll {c : Catalog} (h : c.Sound) {calls : List Call}
    (hv : ∀ call ∈ calls, call.Valid) : (c.attemptAll calls).Sound := by
  induction calls generalizing c with
  | nil => exact h
  | cons call calls ih =>
    exact ih (h.attempt (hv call (by simp))) fun d hd => hv d (by simp [hd])

section leaves

variable {c : Catalog} (h : c.Sound)
include h

lemma leaves_eq_filterMap : c.leaves = (c.root.places []).filterMap fun f => f.2.leaf? :=
  Entry.filterMap_walk h.placed.distinct h.uncovered 0 []

lemma mem_leaves {r : Record} : r ∈ c.leaves ↔ c.get? r.path = some r ∧ r.isGroup = false := by
  rw [leaves_eq_filterMap h, List.mem_filterMap]
  constructor
  · rintro ⟨⟨q, x⟩, hx, hr⟩
    obtain ⟨hr, hg⟩ := Entry.leaf?_eq_some.mp hr
    obtain ⟨name, rest, -, hf⟩ := (Entry.mem_places h.placed.distinct).mp hx
    have hget : c.get? (name :: rest) = some r := Option.bind_eq_some_iff.mpr ⟨x, hf, hr⟩
    rw [h.placed.path_eq _ _ hget]
    exact ⟨hget, hg⟩
  · rintro ⟨hget, hg⟩
    obtain ⟨x, hf, hr⟩ := Option.bind_eq_some_iff.mp hget
    have hp : r.path ≠ [] := by
      intro hp
      rw [hp] at hf
      cases hf
      rw [h.record_root] at hr
      cases hr
    obtain ⟨name, rest, hp⟩ := List.exists_cons_of_ne_nil hp
    rw [hp] at hf
    exact ⟨(name :: rest, x), (Entry.mem_places h.placed.distinct).mpr ⟨name, rest, rfl, hf⟩,
      Entry.leaf?_eq_some.mpr ⟨hr, hg⟩⟩

lemma contains_iff_exists_leaf {p : List String} :
    c.contains p = true ↔ ∃ r ∈ c.leaves, r.path = p := by
  rw [contains_iff]
  constructor
  · rintro ⟨r, hr, hg⟩
    have hp : r.path = p := h.placed.path_eq p r hr
    exact ⟨r, (mem_leaves h).mpr ⟨by rw [hp, hr], hg⟩, hp⟩
  · rintro ⟨r, hr, rfl⟩
    exact ⟨r, (mem_leaves h).mp hr⟩

/-- Two parameters never share a path. -/
lemma nodup_paths_leaves : (c.leaves.map Record.path).Nodup := by
  have sublist : ∀ places : List (List String × Entry),
      (∀ f ∈ places, ∀ r, f.2.record = some r → r.path = f.1) →
      ((places.filterMap fun f => f.2.leaf?).map Record.path).Sublist (places.map Prod.fst) := by
    intro places hpath
    induction places with
    | nil => exact .slnil
    | cons f places ih =>
      have ih := ih fun g hg => hpath g (by simp [hg])
      rw [List.filterMap_cons, List.map_cons]
      cases hl : f.2.leaf? with
      | none => exact ih.cons _
      | some r =>
        have hr := hpath f (by simp) r (Entry.leaf?_eq_some.mp hl).1
        simpa [hr] using ih.cons_cons f.1
  rw [leaves_eq_filterMap h]
  refine (sublist _ ?_).nodup (Entry.nodup_places h.placed.distinct [])
  rintro ⟨q, x⟩ hx r hr
  obtain ⟨name, rest, rfl, hf⟩ := (Entry.mem_places h.placed.distinct).mp hx
  exact h.placed.path_eq _ _ (Option.bind_eq_some_iff.mpr ⟨x, hf, hr⟩)

end leaves

/-- What a reader of a catalog may rely on. -/
structure TreeInvariant (c : Catalog) : Prop where
  /-- No parameter is hidden beneath another. -/
  uncovered : ∀ p q x y, c.find? p = some x → x.isLeaf = true → q ≠ [] →
    c.find? (p ++ q) = some y → y.isLeaf = false
  /-- The paths of the parameters differ, and none leads on to another. -/
  prefix_free : (c.leaves.map Record.path).Pairwise fun p q => ¬ p <+: q ∧ ¬ q <+: p
  /-- No parameter of the tree is left out. -/
  size_eq : c.size = (c.root.places []).countP fun f => f.2.isLeaf
  /-- A path is in the catalog if exactly one parameter has it. -/
  contains_iff : ∀ p, c.contains p = true ↔ ∃ r, c.leaves.filter (fun r => r.path = p) = [r]
  /-- A look-up finds that parameter. -/
  get?_eq : ∀ p r, c.leaves.filter (fun r => r.path = p) = [r] → c.get? p = some r

lemma filter_path_eq_singleton {rs : List Record} (h : (rs.map Record.path).Nodup) {r : Record} :
    rs.filter (fun s => s.path = r.path) = [r] ↔ r ∈ rs := by
  induction rs with
  | nil => simp
  | cons s rs ih =>
    obtain ⟨hs, hrs⟩ := List.nodup_cons.mp h
    by_cases hp : s.path = r.path
    · have none_left : rs.filter (fun s => s.path = r.path) = [] := by
        simp only [List.filter_eq_nil_iff, decide_eq_true_eq]
        intro t ht htp
        exact hs (by rw [hp, ← htp]; exact List.mem_map_of_mem ht)
      have hr : r ∉ rs := fun hr => hs (by rw [hp]; exact List.mem_map_of_mem hr)
      rw [List.filter_cons_of_pos (by simpa using hp), none_left]
      simp [hr, eq_comm (a := s)]
    · have hne : r ≠ s := fun heq => hp (by rw [heq])
      simp [hp, ih hrs, hne]

lemma Sound.treeInvariant {c : Catalog} (h : c.Sound) : c.TreeInvariant where
  uncovered := by
    intro p q x y hx hl hq hy
    have hp : p ≠ [] := by
      rintro rfl
      cases hx
      simp [Entry.isLeaf, h.record_root] at hl
    rw [← Bool.not_eq_true]
    exact fun hyl => h.uncovered p q hp hq ⟨x, hx, hl⟩ ⟨y, hy, hyl⟩
  prefix_free := by
    have ne : (c.leaves.map Record.path).Pairwise fun p q => p ≠ q := nodup_paths_leaves h
    refine (List.Pairwise.and_mem.mp ne).imp ?_
    have incomparable : ∀ p ∈ c.leaves.map Record.path, ∀ q ∈ c.leaves.map Record.path,
        p ≠ q → ¬ p <+: q := by
      rintro p hp q hq hne ⟨s, rfl⟩
      obtain ⟨r, hr, rfl⟩ := List.mem_map.mp hp
      have hs : s ≠ [] := fun hs => hne (by simp [hs])
      have hr' := contains_iff_hasLeafAt.mp ((contains_iff_exists_leaf h).mpr ⟨r, hr, rfl⟩)
      have hq' := contains_iff_hasLeafAt.mp
        ((contains_iff_exists_leaf h).mpr (List.mem_map.mp hq))
      have hroot : r.path ≠ [] := by
        intro hroot
        rw [hroot] at hr'
        simp [Entry.hasLeafAt_nil, Entry.isLeaf, h.record_root] at hr'
      exact h.uncovered r.path s hroot hs hr' hq'
    rintro p q ⟨hp, hq, hne⟩
    exact ⟨incomparable p hp q hq hne, incomparable q hq p hp hne.symm⟩
  size_eq := by
    rw [size, leaves_eq_filterMap h, List.length_filterMap_eq_countP]
    simp
  contains_iff p := by
    rw [contains_iff_exists_leaf h]
    constructor
    · rintro ⟨r, hr, rfl⟩
      exact ⟨r, (filter_path_eq_singleton (nodup_paths_leaves h)).mpr hr⟩
    · rintro ⟨r, hr⟩
      have hm : r ∈ c.leaves.filter fun r => r.path = p := by simp [hr]
      exact ⟨r, (List.mem_filter.mp hm).1, by simpa using (List.mem_filter.mp hm).2⟩
  get?_eq p r hr := by
    have hm : r ∈ c.leaves.filter fun r => r.path = p := by simp [hr]
    obtain ⟨hr, hp⟩ := List.mem_filter.mp hm
    rw [decide_eq_true_eq] at hp
    rw [← hp]
    exact ((mem_leaves h).mp hr).1

/-- Whatever calls are made, refused ones included, the tree stays in order. -/
theorem treeInvariant_attemptAll (calls : List Call) (hv : ∀ call ∈ calls, call.Valid) :
    (({} : Catalog).attemptAll calls).TreeInvariant :=
  (sound_empty.attemptAll hv).treeInvariant

/-- A group becomes a parameter, parameters above and beneath it are refused, and it becomes a group
again, now with a parameter. -/
theorem treeInvariant_attemptAll_alternating :
    let calls : List Call := [
      .group { path := ["a"], valueType := .object, summary := "Group." },
      .parameter { path := ["a"], valueType := .double, summary := "Leaf." },
      .parameter { path := ["a", "b"], valueType := .double, summary := "Beneath." },
      .group { path := ["a"], valueType := .objectList, summary := "List." },
      .parameter { path := ["a", "b"], valueType := .double, summary := "Leaf." },
      .parameter { path := ["a"], valueType := .double, summary := "Above." }]
    (∀ call ∈ calls, call.Valid) ∧ (({} : Catalog).attemptAll calls).TreeInvariant := by
  intro calls
  have hv : ∀ call ∈ calls, call.Valid := by
    simp [calls, Call.Valid, Record.isGroup, ValueType.isGroup]
  exact ⟨hv, treeInvariant_attemptAll calls hv⟩

end Catalog
end PlannerConfig
