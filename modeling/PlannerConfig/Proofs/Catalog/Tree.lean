import Mathlib.Data.List.Nodup
import PlannerConfig.Catalog.Basic
import PlannerConfig.Proofs.Document.Fields

/-!
The tree of parameters seen from outside: which entry a path leads to, which entries there are, and
how both change when a record is set. What is said of a catalog later is said in these terms.
-/
namespace PlannerConfig
namespace Entry

mutual

theorem induction {P : Entry → Prop}
    (node : ∀ record children, (∀ f ∈ children, P f.2) → P ⟨record, children⟩) : ∀ e, P e
  | ⟨record, children⟩ => node record children (induction_children node children)

theorem induction_children {P : Entry → Prop}
    (node : ∀ record children, (∀ f ∈ children, P f.2) → P ⟨record, children⟩) :
    ∀ (children : List (String × Entry)), ∀ f ∈ children, P f.2
  | [] => fun _ h => absurd h List.not_mem_nil
  | (_, e) :: rest => fun f h => by
    rcases List.mem_cons.mp h with rfl | h
    · exact induction node e
    · exact induction_children node rest f h

end

/-- The record of the entry that a path leads to. -/
def recordAt? (e : Entry) (path : List String) : Option Record := (e.find? path).bind Entry.record

/-- Whether a path leads to a parameter. -/
def HasLeafAt (e : Entry) (path : List String) : Prop :=
  ∃ c, e.find? path = some c ∧ c.isLeaf = true

/-- The record of an entry that is a parameter. -/
def leaf? (e : Entry) : Option Record := if e.isLeaf then e.record else none

/-- An entry with another record. -/
def withRecord (r : Record) (e : Entry) : Entry := { e with record := some r }

lemma find?_cons_eq_some {e x : Entry} {name : String} {rest : List String} :
    e.find? (name :: rest) = some x ↔ ∃ c, e.child? name = some c ∧ c.find? rest = some x := by
  simp [Option.bind_eq_some_iff]

lemma isLeaf_iff {e : Entry} :
    e.isLeaf = true ↔ ∃ r, e.record = some r ∧ r.isGroup = false := by
  cases h : e.record <;> simp [isLeaf, h]

lemma leaf?_eq_some {e : Entry} {r : Record} :
    e.leaf? = some r ↔ e.record = some r ∧ r.isGroup = false := by
  unfold leaf?
  cases h : e.record <;> simp +contextual [isLeaf, h, and_comm]

@[simp] lemma isSome_leaf? (e : Entry) : e.leaf?.isSome = e.isLeaf := by
  unfold leaf?
  split
  · rename_i h
    obtain ⟨r, hr, -⟩ := isLeaf_iff.mp h
    simp [h, hr]
  · rename_i h
    simpa using h

lemma hasLeafAt_iff {e : Entry} {path : List String} :
    e.HasLeafAt path ↔ ∃ r, e.recordAt? path = some r ∧ r.isGroup = false := by
  unfold HasLeafAt recordAt?
  cases e.find? path <;> simp [isLeaf_iff]

lemma hasLeafAt_nil {e : Entry} : e.HasLeafAt [] ↔ e.isLeaf = true := by simp [HasLeafAt]

lemma hasLeafAt_cons {e : Entry} {name : String} {rest : List String} :
    e.HasLeafAt (name :: rest) ↔ ∃ c, e.child? name = some c ∧ c.HasLeafAt rest := by
  unfold HasLeafAt
  constructor
  · rintro ⟨x, hx, hl⟩
    obtain ⟨c, hc, hx⟩ := find?_cons_eq_some.mp hx
    exact ⟨c, hc, x, hx, hl⟩
  · rintro ⟨c, hc, x, hx, hl⟩
    exact ⟨x, find?_cons_eq_some.mpr ⟨c, hc, hx⟩, hl⟩

section update

variable (f : Entry → Entry) (e : Entry) (name : String) (rest : List String)

@[simp] lemma record_update_cons : (e.update f (name :: rest)).record = e.record := rfl

@[simp] lemma child?_update_self :
    (e.update f (name :: rest)).child? name = some (((e.child? name).getD {}).update f rest) := by
  simp [update, child?]

lemma child?_update_of_ne {k : String} (h : k ≠ name) :
    (e.update f (name :: rest)).child? k = e.child? k :=
  lookup_setField_of_ne name _ e.children h

end update

@[simp] lemma recordAt?_empty (path : List String) : ({} : Entry).recordAt? path = none := by
  cases path <;> rfl

lemma recordAt?_cons (e : Entry) (name : String) (rest : List String) :
    e.recordAt? (name :: rest) = ((e.child? name).getD {}).recordAt? rest := by
  cases h : e.child? name with
  | none => simp [recordAt?, h]; cases rest <;> rfl
  | some c => simp [recordAt?, h]

/-- Setting a record changes no other: entries that are made on the way have none. -/
lemma recordAt?_update (r : Record) (p q : List String) (e : Entry) :
    (e.update (withRecord r) p).recordAt? q = if q = p then some r else e.recordAt? q := by
  induction p generalizing e q with
  | nil =>
    cases q with
    | nil => rfl
    | cons name rest => rw [recordAt?_cons, recordAt?_cons]; rfl
  | cons name rest ih =>
    cases q with
    | nil => rfl
    | cons k q =>
      rw [recordAt?_cons, recordAt?_cons]
      by_cases hk : k = name
      · subst hk
        simp [ih]
      · simp [child?_update_of_ne _ _ _ _ hk, hk]

/-- No entry beneath, itself included, names two of its children alike. -/
def Distinct (e : Entry) : Prop :=
  ∀ p c, e.find? p = some c → NamesDistinct c.children

lemma Distinct.children {e : Entry} (h : e.Distinct) : NamesDistinct e.children := h [] e rfl

lemma Distinct.child {e c : Entry} {name : String} (h : e.Distinct)
    (hc : e.child? name = some c) : c.Distinct :=
  fun p x hx => h (name :: p) x (find?_cons_eq_some.mpr ⟨c, hc, hx⟩)

lemma Distinct.child?_of_mem {e c : Entry} {name : String} (h : e.Distinct)
    (hm : (name, c) ∈ e.children) : e.child? name = some c := h.children.lookup_of_mem hm

lemma distinct_iff {e : Entry} :
    e.Distinct ↔ NamesDistinct e.children ∧ ∀ name c, e.child? name = some c → c.Distinct := by
  constructor
  · exact fun h => ⟨h.children, fun _ _ => h.child⟩
  · rintro ⟨hn, hc⟩ p x hx
    cases p with
    | nil => exact Option.some.inj hx ▸ hn
    | cons name rest =>
      obtain ⟨c, hc', hx⟩ := find?_cons_eq_some.mp hx
      exact hc name c hc' rest x hx

lemma Distinct.of_children_eq {e c : Entry} (h : e.Distinct) (hc : c.children = e.children) :
    c.Distinct := by
  rw [distinct_iff] at h ⊢
  simpa only [child?, hc] using h

lemma distinct_empty : ({} : Entry).Distinct := by
  rw [distinct_iff]
  exact ⟨List.nodup_nil, fun _ _ h => by simp [child?] at h⟩

/-- Setting a record anywhere keeps the names distinct. -/
lemma Distinct.update {e : Entry} (h : e.Distinct) (r : Record) (p : List String) :
    (e.update (withRecord r) p).Distinct := by
  induction p generalizing e with
  | nil => exact h.of_children_eq rfl
  | cons name rest ih =>
    rw [distinct_iff]
    refine ⟨h.children.setField, fun k c hc => ?_⟩
    by_cases hk : k = name
    · subst hk
      rw [child?_update_self] at hc
      cases hc
      apply ih
      cases hd : e.child? k with
      | none => exact distinct_empty
      | some d => exact h.child hd
    · rw [child?_update_of_ne _ _ _ _ hk] at hc
      exact h.child hc

/-- The parameters at or beneath an entry are those that some path leads to. -/
lemma hasLeaves_iff {e : Entry} (h : e.Distinct) :
    e.hasLeaves = true ↔ ∃ p, e.HasLeafAt p := by
  induction e using induction with
  | node record children ih =>
    have beneath : anyHasLeaves children = true ↔ ∃ f ∈ children, f.2.hasLeaves = true := by
      clear ih h
      induction children with
      | nil => simp [anyHasLeaves]
      | cons f rest ih => simp [anyHasLeaves, ih]
    rw [hasLeaves, Bool.or_eq_true, beneath]
    constructor
    · rintro (hl | ⟨⟨name, c⟩, hm, hl⟩)
      · exact ⟨[], hasLeafAt_nil.mpr hl⟩
      · have hc := h.child?_of_mem hm
        obtain ⟨p, hp⟩ := (ih _ hm (h.child hc)).mp hl
        exact ⟨name :: p, hasLeafAt_cons.mpr ⟨c, hc, hp⟩⟩
    · rintro ⟨p, hp⟩
      cases p with
      | nil => exact .inl (hasLeafAt_nil.mp hp)
      | cons name p =>
        obtain ⟨c, hc, hp⟩ := hasLeafAt_cons.mp hp
        have hm : (name, c) ∈ children := mem_of_lookup hc
        exact .inr ⟨_, hm, (ih _ hm (h.child hc)).mpr ⟨p, hp⟩⟩

lemma anyHasLeaves_iff {e : Entry} (h : e.Distinct) :
    anyHasLeaves e.children = true ↔ ∃ p, p ≠ [] ∧ e.HasLeafAt p := by
  -- the children alone, under a record that is no parameter's
  have hl := hasLeaves_iff (h.of_children_eq (c := { children := e.children }) rfl)
  simp only [hasLeaves, isLeaf, Option.any_none, Bool.false_or] at hl
  rw [hl]
  constructor
  · rintro ⟨p, hp⟩
    cases p with
    | nil => simp [hasLeafAt_nil, isLeaf] at hp
    | cons name p => exact ⟨_, List.cons_ne_nil _ _, hasLeafAt_cons.mpr (hasLeafAt_cons.mp hp)⟩
  · rintro ⟨p, hne, hp⟩
    obtain ⟨name, p, rfl⟩ := List.exists_cons_of_ne_nil hne
    exact ⟨_, hasLeafAt_cons.mpr (hasLeafAt_cons.mp hp)⟩

/-- Nothing stands above a path if no way that leads on to it ends at a parameter. -/
lemma leafAbove?_eq_none_iff {e : Entry} {path : List String} :
    e.leafAbove? path = none ↔ ∀ p q, p ≠ [] → q ≠ [] → path = p ++ q → ¬ e.HasLeafAt p := by
  fun_induction leafAbove? path e with
  | case1 name next rest e hc =>
    refine ⟨fun _ p q hp _ heq hl => ?_, fun _ => rfl⟩
    obtain ⟨k, p, rfl⟩ := List.exists_cons_of_ne_nil hp
    obtain ⟨rfl, -⟩ := List.cons.inj heq
    obtain ⟨c, hc', -⟩ := hasLeafAt_cons.mp hl
    simp [hc] at hc'
  | case2 name next rest e c hc hl =>
    obtain ⟨r, hr, -⟩ := isLeaf_iff.mp hl
    refine ⟨fun h => by simp [hr] at h, fun h => ?_⟩
    exact absurd (hasLeafAt_cons.mpr ⟨c, hc, hasLeafAt_nil.mpr hl⟩)
      (h [name] (next :: rest) (by simp) (by simp) rfl)
  | case3 name next rest e c hc hl ih =>
    rw [ih]
    constructor
    · rintro h p q hp hq heq hleaf
      obtain ⟨k, p, rfl⟩ := List.exists_cons_of_ne_nil hp
      obtain ⟨rfl, htail⟩ := List.cons.inj heq
      obtain ⟨c', hc', hleaf⟩ := hasLeafAt_cons.mp hleaf
      cases hc.symm.trans hc'
      cases p with
      | nil => exact hl (hasLeafAt_nil.mp hleaf)
      | cons k p => exact h _ q (by simp) hq htail hleaf
    · rintro h p q hp hq heq hleaf
      exact h (name :: p) q (by simp) hq (by rw [heq, List.cons_append])
        (hasLeafAt_cons.mpr ⟨c, hc, hleaf⟩)
  | case4 path e hne =>
    refine ⟨fun _ p q hp hq heq => ?_, fun _ => rfl⟩
    obtain ⟨k, p, rfl⟩ := List.exists_cons_of_ne_nil hp
    cases p with
    | nil =>
      obtain ⟨next, q, rfl⟩ := List.exists_cons_of_ne_nil hq
      exact (hne k next q heq).elim
    | cons next p => exact (hne k next (p ++ q) heq).elim

mutual

/-- All entries beneath an entry with their paths, each before those beneath it. Other than on a
walk nothing is left out. -/
def places (path : List String) : Entry → List (List String × Entry)
  | ⟨_, children⟩ => placesAll path children

def placesAll (path : List String) : List (String × Entry) → List (List String × Entry)
  | [] => []
  | (name, e) :: rest =>
    (path ++ [name], e) :: (e.places (path ++ [name]) ++ placesAll path rest)

end

lemma places_eq_flatMap (path : List String) (e : Entry) :
    e.places path
      = e.children.flatMap fun f => (path ++ [f.1], f.2) :: f.2.places (path ++ [f.1]) := by
  obtain ⟨_, children⟩ := e
  show placesAll path children = _
  induction children with
  | nil => rfl
  | cons f rest ih => simp [placesAll, ih]

/-- There are exactly the entries that paths lead to. -/
lemma mem_places {e x : Entry} (h : e.Distinct) {path q : List String} :
    (q, x) ∈ e.places path
      ↔ ∃ name rest, q = path ++ name :: rest ∧ e.find? (name :: rest) = some x := by
  induction e using induction generalizing path with
  | node record children ih =>
    rw [places_eq_flatMap]
    simp only [List.mem_flatMap, List.mem_cons]
    constructor
    · rintro ⟨⟨name, c⟩, hm, heq | hx⟩
      · cases heq
        exact ⟨name, [], rfl, find?_cons_eq_some.mpr ⟨_, h.child?_of_mem hm, rfl⟩⟩
      · have hc := h.child?_of_mem hm
        obtain ⟨next, rest, rfl, hf⟩ := (ih _ hm (h.child hc)).mp hx
        exact ⟨name, next :: rest, by simp, find?_cons_eq_some.mpr ⟨c, hc, hf⟩⟩
    · rintro ⟨name, rest, rfl, hx⟩
      obtain ⟨c, hc, hx⟩ := find?_cons_eq_some.mp hx
      have hm : (name, c) ∈ children := mem_of_lookup hc
      refine ⟨_, hm, ?_⟩
      cases rest with
      | nil => exact .inl (by cases hx; rfl)
      | cons next rest =>
        exact .inr ((ih _ hm (h.child hc)).mpr ⟨next, rest, by simp, hx⟩)

/-- No place is told twice. -/
lemma nodup_places {e : Entry} (h : e.Distinct) (path : List String) :
    ((e.places path).map Prod.fst).Nodup := by
  induction e using induction generalizing path with
  | node record children ih =>
    rw [places_eq_flatMap, List.map_flatMap, List.nodup_flatMap]
    have above : ∀ f ∈ children, ∀ q ∈ (f.2.places (path ++ [f.1])).map Prod.fst,
        ∃ name rest, q = path ++ f.1 :: name :: rest := by
      rintro ⟨k, c⟩ hm q hq
      obtain ⟨⟨q, x⟩, hx, rfl⟩ := List.mem_map.mp hq
      obtain ⟨name, rest, rfl, -⟩ := (mem_places (h.child (h.child?_of_mem hm))).mp hx
      exact ⟨name, rest, by simp⟩
    refine ⟨fun f hm => ?_, ?_⟩
    · rw [List.map_cons, List.nodup_cons]
      refine ⟨fun hq => ?_, ih f hm (h.child (h.child?_of_mem hm)) _⟩
      obtain ⟨name, rest, heq⟩ := above f hm _ hq
      simp at heq
    · have hn : children.Pairwise fun f g => f.1 ≠ g.1 := List.pairwise_map.mp h.children
      refine (List.Pairwise.and_mem.mp hn).imp fun {f g} ⟨hf, hg, hne⟩ q hqf hqg => ?_
      have first : ∀ f ∈ children, q ∈ (path ++ [f.1]) ::
          (f.2.places (path ++ [f.1])).map Prod.fst → ∃ rest, q = path ++ f.1 :: rest := by
        intro f hf hq
        rcases List.mem_cons.mp hq with rfl | hq
        · exact ⟨[], by simp⟩
        · obtain ⟨name, rest, rfl⟩ := above f hf q hq
          exact ⟨name :: rest, rfl⟩
      obtain ⟨s, rfl⟩ := first f hf hqf
      obtain ⟨t, heq⟩ := first g hg hqg
      simp at heq
      exact hne heq.1

/-- Every record stands at its own path; `path` is that of the entry. -/
structure Placed (path : List String) (e : Entry) : Prop where
  distinct : e.Distinct
  path_eq : ∀ p r, e.recordAt? p = some r → r.path = path ++ p

lemma placed_empty : ({} : Entry).Placed [] := ⟨distinct_empty, fun p r h => by simp at h⟩

lemma Placed.put {e : Entry} (h : e.Placed []) (r : Record) :
    (e.update (withRecord r) r.path).Placed [] where
  distinct := h.distinct.update r r.path
  path_eq p s hs := by
    rw [recordAt?_update] at hs
    split at hs
    · rename_i hp
      cases hs
      exact hp.symm
    · exact h.path_eq p s hs

/-- No parameter lies beneath another, the entry itself apart. -/
def Uncovered (e : Entry) : Prop :=
  ∀ p q, p ≠ [] → q ≠ [] → e.HasLeafAt p → ¬ e.HasLeafAt (p ++ q)

lemma Uncovered.child {e c : Entry} {name : String} (h : e.Uncovered)
    (hc : e.child? name = some c) : c.Uncovered := by
  intro p q _ hq hp hpq
  exact h (name :: p) q (by simp) hq (hasLeafAt_cons.mpr ⟨c, hc, hp⟩)
    (hasLeafAt_cons.mpr ⟨c, hc, hpq⟩)

lemma filterMap_places_eq_nil {e : Entry} (hd : e.Distinct) {path : List String}
    (h : ∀ p, p ≠ [] → ¬ e.HasLeafAt p) : (e.places path).filterMap (fun f => f.2.leaf?) = [] := by
  rw [List.filterMap_eq_nil_iff]
  rintro ⟨q, x⟩ hx
  obtain ⟨name, rest, -, hf⟩ := (mem_places hd).mp hx
  by_contra hne
  exact h _ (List.cons_ne_nil name rest)
    ⟨x, hf, by simpa using Option.isSome_iff_ne_none.mpr hne⟩

lemma walk_eq_flatMap (depth : Nat) (path : List String) (e : Entry) :
    e.walk depth path = e.children.flatMap fun f =>
      if f.2.isLeaf then [⟨depth, path ++ [f.1], f.2⟩]
      else if f.2.hasLeaves then
        ⟨depth, path ++ [f.1], f.2⟩ :: f.2.walk (depth + 1) (path ++ [f.1])
      else [] := by
  obtain ⟨_, children⟩ := e
  show walkAll depth path children = _
  induction children with
  | nil => rfl
  | cons f rest ih => simp [walkAll, ih]

/-- A walk leaves out no parameter unless one lies beneath another. -/
lemma filterMap_walk {e : Entry} (hd : e.Distinct) (hu : e.Uncovered) (depth : Nat)
    (path : List String) :
    (e.walk depth path).filterMap Place.leaf?
      = (e.places path).filterMap (fun f => f.2.leaf?) := by
  induction e using induction generalizing depth path with
  | node record children ih =>
    rw [walk_eq_flatMap, places_eq_flatMap, List.filterMap_flatMap, List.filterMap_flatMap]
    refine List.flatMap_congr fun ⟨name, c⟩ hm => ?_
    have hc := hd.child?_of_mem hm
    have hleaf : ∀ p, c.HasLeafAt p → Entry.HasLeafAt ⟨record, children⟩ (name :: p) :=
      fun p hp => hasLeafAt_cons.mpr ⟨c, hc, hp⟩
    have beneath := ih _ hm (hd.child hc) (hu.child hc) (depth + 1) (path ++ [name])
    by_cases hl : c.isLeaf = true
    · have none_beneath : ∀ p, p ≠ [] → ¬ c.HasLeafAt p := fun p hp h =>
        hu [name] p (by simp) hp (hleaf [] (hasLeafAt_nil.mpr hl)) (hleaf p h)
      have there : (Place.mk depth (path ++ [name]) c).leaf? = c.leaf? := rfl
      simp [hl, List.filterMap_cons, filterMap_places_eq_nil (hd.child hc) none_beneath, there]
    · have here : c.leaf? = none := by simp [leaf?, hl]
      have there : (Place.mk depth (path ++ [name]) c).leaf? = none := here
      by_cases hh : c.hasLeaves = true
      · simp [hl, hh, here, there, beneath]
      · have none_beneath : ∀ p, p ≠ [] → ¬ c.HasLeafAt p := fun p _ h =>
          hh ((hasLeaves_iff (hd.child hc)).mpr ⟨p, h⟩)
        simp [hl, hh, here, filterMap_places_eq_nil (hd.child hc) none_beneath]

end Entry
end PlannerConfig
