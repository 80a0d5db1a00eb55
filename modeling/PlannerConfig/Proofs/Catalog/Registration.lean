import PlannerConfig.Proofs.Catalog.Calls

/-!
What one registration does to the list of parameters. It makes the entries on the way to its path before
it looks for parameters beneath; that leaves no trace when it is refused, since a path with parameters
beneath it has all its entries. When it is not refused the list changes at one place.
-/
namespace PlannerConfig

namespace Entry

/-- Making entries makes none if they are all there. -/
lemma update_id_of_find? {e x : Entry} {path : List String} (h : e.find? path = some x) :
    e.update id path = e := by
  induction path generalizing e with
  | nil => rfl
  | cons name rest ih =>
    obtain ⟨c, hc, hx⟩ := find?_cons_eq_some.mp h
    have same : setField name c e.children = e.children := setField_of_lookup hc
    rw [update, hc, Option.getD_some, ih hx, same]
    cases e
    rfl

/-- Entries that are made before an entry is changed are made by the change as well. -/
lemma update_update_id (f : Entry → Entry) (path : List String) (e : Entry) :
    (e.update id path).update f path = e.update f path := by
  induction path generalizing e with
  | nil => rfl
  | cons name rest ih =>
    have beneath : ((e.update id (name :: rest)).child? name).getD {}
        = ((e.child? name).getD {}).update id rest := by simp
    rw [update, beneath, ih]
    simp [update, setField_setField]

/-- The parameters at an entry and beneath it. -/
def parameters (e : Entry) : List Record :=
  e.leaf?.toList ++ (e.places []).filterMap fun f => f.2.leaf?

lemma filterMap_places_eq_flatMap (path : List String) (e : Entry) :
    (e.places path).filterMap (fun f => f.2.leaf?) = e.children.flatMap fun f => f.2.parameters := by
  induction e using induction generalizing path with
  | node record children ih =>
    rw [places_eq_flatMap, List.filterMap_flatMap]
    refine List.flatMap_congr fun ⟨name, c⟩ hm => ?_
    have beneath : (c.places (path ++ [name])).filterMap (fun f => f.2.leaf?)
        = (c.places []).filterMap fun f => f.2.leaf? := by
      rw [ih _ hm, ih _ hm]
    show ((path ++ [name], c) :: c.places (path ++ [name])).filterMap (fun f => f.2.leaf?)
      = c.parameters
    unfold parameters
    cases hl : c.leaf? <;> simp [hl, beneath]

lemma parameters_eq (e : Entry) :
    e.parameters = e.leaf?.toList ++ e.children.flatMap fun f => f.2.parameters := by
  rw [parameters, filterMap_places_eq_flatMap]

/-- Setting a child changes the parameters only where those of the child stand. -/
lemma exists_flatMap_setField (name : String) (c : Entry) (children : List (String × Entry)) :
    ∃ before after,
      children.flatMap (fun f => f.2.parameters)
        = before ++ ((children.lookup name).getD {}).parameters ++ after ∧
      (setField name c children).flatMap (fun f => f.2.parameters)
        = before ++ c.parameters ++ after := by
  induction children with
  | nil => exact ⟨[], [], by simp [parameters, leaf?, isLeaf, places, placesAll], by simp [setField]⟩
  | cons f children ih =>
    obtain ⟨k, d⟩ := f
    by_cases hk : name = k
    · subst hk
      exact ⟨[], children.flatMap fun f => f.2.parameters, by simp, by simp [setField]⟩
    · obtain ⟨before, after, hold, hnew⟩ := ih
      have hk' : ¬ k = name := fun heq => hk heq.symm
      refine ⟨d.parameters ++ before, after, ?_, ?_⟩
      · rw [List.lookup_cons, beq_false_of_ne hk, List.flatMap_cons, hold]
        simp
      · simp [setField, hk', hnew]

/-- A record of a parameter that is set takes the place of the parameter that was there, or comes in
between the others. -/
lemma exists_parameters_update {r : Record} (hr : r.isGroup = false) (path : List String) (e : Entry) :
    ∃ before after,
      e.parameters = before ++ ((e.find? path).bind leaf?).toList ++ after ∧
      (e.update (withRecord r) path).parameters = before ++ r :: after := by
  induction path generalizing e with
  | nil =>
    have set : (e.withRecord r).leaf? = some r := leaf?_eq_some.mpr ⟨rfl, hr⟩
    refine ⟨[], e.children.flatMap fun f => f.2.parameters, ?_, ?_⟩
    · rw [parameters_eq]
      rfl
    · show (e.withRecord r).parameters = _
      rw [parameters_eq, set]
      rfl
  | cons name rest ih =>
    -- a child that is not there has no parameters, so it may stand for an empty one
    have old : (e.find? (name :: rest)).bind leaf?
        = (((e.child? name).getD {}).find? rest).bind leaf? := by
      cases hc : e.child? name with
      | none =>
        have nothing : (({} : Entry).find? rest).bind leaf? = none := by
          cases rest <;> rfl
        simp [hc, nothing]
      | some c => simp [hc]
    obtain ⟨b, a, hchild, hchild'⟩ := ih ((e.child? name).getD {})
    obtain ⟨before, after, hall, hall'⟩ := exists_flatMap_setField name
      (((e.child? name).getD {}).update (withRecord r) rest) e.children
    refine ⟨e.leaf?.toList ++ before ++ b, a ++ after, ?_, ?_⟩
    · have here : e.children.lookup name = e.child? name := rfl
      rw [parameters_eq, hall, here, hchild, old]
      simp
    · have leaf : (e.update (withRecord r) (name :: rest)).leaf? = e.leaf? := rfl
      rw [parameters_eq, leaf, update, hall', hchild']
      simp

end Entry

namespace Catalog

/-- Makes the entries on the way to a path, that at its end included, as far as they are missing. -/
def reach (c : Catalog) (path : List String) : Catalog := { c with root := c.root.update id path }

/-- A registration with the catalog that it leaves. The entries are made before the search for
parameters beneath the path. -/
def registerInPlace (c : Catalog) (r : Record) : Except Conflict Unit × Catalog :=
  match c.root.leafAbove? r.path with
  | some above => (throw ⟨r.path, above.summary, r.summary⟩, c)
  | none =>
    let reached := c.reach r.path
    let e := (reached.find? r.path).getD {}
    if Entry.anyHasLeaves e.children then
      (throw ⟨r.path, e.summary?.getD "<object>", r.summary⟩, reached)
    else (pure (), reached.put r)

variable {c : Catalog} {r : Record}

lemma put_reach (c : Catalog) (r : Record) : (c.reach r.path).put r = c.put r := by
  unfold put reach
  dsimp only
  rw [Entry.update_update_id]

/-- The entries that a refused registration makes were there before. -/
theorem registerInPlace_eq (c : Catalog) (r : Record) :
    c.registerInPlace r = match c.register r with
      | .error conflict => (.error conflict, c)
      | .ok d => (.ok (), d) := by
  unfold registerInPlace register conflict?
  cases c.root.leafAbove? r.path with
  | some above => rfl
  | none =>
    have reached : (c.reach r.path).find? r.path = some ((c.find? r.path).getD {}) :=
      Entry.find?_update_self id r.path c.root
    simp only [reached, Option.getD_some, put_reach]
    cases hf : c.find? r.path with
    | none => rfl
    | some e =>
      have same : c.reach r.path = c := by
        show ({ c with root := _ } : Catalog) = c
        rw [Entry.update_id_of_find? hf]
      simp only [Option.getD_some, same]
      split <;> rfl

lemma Sound.leaves_eq_parameters (h : c.Sound) : c.leaves = c.root.parameters := by
  have root : c.root.leaf? = none := by simp [Entry.leaf?, Entry.isLeaf, h.record_root]
  rw [leaves_eq_filterMap h, Entry.parameters, root]
  rfl

lemma Sound.exists_leaves_put (h : c.Sound) (hp : r.path ≠ []) (hr : r.isGroup = false)
    (hfree : c.IsFree r.path) :
    ∃ before after,
      c.leaves = before ++ ((c.find? r.path).bind Entry.leaf?).toList ++ after ∧
      (c.put r).leaves = before ++ r :: after := by
  rw [h.leaves_eq_parameters, (h.put hp fun _ => hfree).leaves_eq_parameters]
  exact Entry.exists_parameters_update hr r.path c.root

lemma exists_error_iff (h : c.Sound) :
    (∃ conflict, c.register r = .error conflict) ↔ ¬ c.IsFree r.path := by
  have ok_iff : (∃ d, c.register r = .ok d) ↔ c.IsFree r.path := by
    constructor
    · rintro ⟨d, hd⟩
      exact ((register_eq_ok_iff h).mp hd).1
    · intro hf
      exact ⟨_, (register_eq_ok_iff h).mpr ⟨hf, rfl⟩⟩
  rw [← ok_iff]
  cases c.register r <;> simp

lemma not_isFree_iff (h : c.Sound) {path : List String} :
    ¬ c.IsFree path ↔
      (∃ p q, p ≠ [] ∧ q ≠ [] ∧ path = p ++ q ∧ c.contains p = true) ∨
      ∃ s ∈ c.leaves, ∃ q, q ≠ [] ∧ s.path = path ++ q := by
  constructor
  · intro hfree
    by_contra hnone
    rw [not_or] at hnone
    refine hfree ⟨fun p q hp hq heq hc => hnone.1 ⟨p, q, hp, hq, heq, hc⟩, fun q hq hc => hnone.2 ?_⟩
    obtain ⟨s, hs, hpath⟩ := (contains_iff_exists_leaf h).mp hc
    exact ⟨s, hs, q, hq, hpath⟩
  · rintro (⟨p, q, hp, hq, heq, hc⟩ | ⟨s, hs, q, hq, hpath⟩) hfree
    · exact hfree.above p q hp hq heq hc
    · exact hfree.beneath q hq ((contains_iff_exists_leaf h).mpr ⟨s, hs, hpath⟩)

/-- What the registration of a parameter does: from the catalog `c` it comes to `d` with an outcome. -/
structure RegistrationEffect (c : Catalog) (r : Record) (outcome : Except Conflict Unit) (d : Catalog) :
    Prop where
  /-- It is refused exactly if a parameter stands above the path or beneath it. -/
  refused_iff : (∃ conflict, outcome = .error conflict) ↔
    (∃ p q, p ≠ [] ∧ q ≠ [] ∧ r.path = p ++ q ∧ c.contains p = true) ∨
    ∃ s ∈ c.leaves, ∃ q, q ≠ [] ∧ s.path = r.path ++ q
  /-- It leaves no trace then, in the tree or elsewhere. -/
  eq_of_refused : (∃ conflict, outcome = .error conflict) → d = c
  /-- A parameter that was there gives its place to the new one. -/
  replaced : outcome = .ok () → c.contains r.path = true →
    ∃ before s after, c.leaves = before ++ s :: after ∧ s.path = r.path ∧
      d.leaves = before ++ r :: after
  /-- A new parameter comes in between the others. -/
  inserted : outcome = .ok () → c.contains r.path = false →
    ∃ before after, c.leaves = before ++ after ∧ d.leaves = before ++ r :: after
  /-- A pass comes to the same without a catalog in between. -/
  register_eq : c.register r = outcome.map fun _ => d

lemma Sound.registrationEffect (h : c.Sound) (hp : r.path ≠ []) (hr : r.isGroup = false) :
    c.RegistrationEffect r (c.registerInPlace r).1 (c.registerInPlace r).2 := by
  rw [registerInPlace_eq]
  cases hreg : c.register r with
  | error conflict =>
    have blocked := (exists_error_iff h).mp ⟨conflict, hreg⟩
    exact {
      refused_iff := iff_of_true ⟨conflict, rfl⟩ ((not_isFree_iff h).mp blocked)
      eq_of_refused := fun _ => rfl
      replaced := fun hok => by cases hok
      inserted := fun hok => by cases hok
      register_eq := hreg }
  | ok d =>
    obtain ⟨hfree, rfl⟩ := (register_eq_ok_iff h).mp hreg
    obtain ⟨before, after, hold, hnew⟩ := h.exists_leaves_put hp hr hfree
    exact {
      refused_iff := iff_of_false (by simp) fun hblocked => (not_isFree_iff h).mpr hblocked hfree
      eq_of_refused := fun ⟨_, herror⟩ => by cases herror
      replaced := fun _ hc => by
        obtain ⟨s, hs, hg⟩ := contains_iff.mp hc
        obtain ⟨e, hf, he⟩ := Option.bind_eq_some_iff.mp hs
        have leaf : e.leaf? = some s := Entry.leaf?_eq_some.mpr ⟨he, hg⟩
        refine ⟨before, s, after, ?_, h.placed.path_eq _ _ hs, hnew⟩
        rw [hold, hf, Option.bind_some, leaf]
        simp
      inserted := fun _ hc => by
        have none_there : (c.find? r.path).bind Entry.leaf? = none := by
          rw [contains, Option.any_eq_false] at hc
          cases hf : c.find? r.path with
          | none => rfl
          | some e => simp [Entry.leaf?, hc e hf]
        refine ⟨before, after, ?_, hnew⟩
        rw [hold, none_there]
        simp
      register_eq := hreg }

/-- The registration of a parameter after any calls, refused ones included, with any places consumed. -/
theorem registrationEffect_attemptAll (consumed : List Path) (calls : List Call)
    (hv : ∀ call ∈ calls, call.Valid) (r : Record) (hp : r.path ≠ []) (hr : r.isGroup = false) :
    let c := ({ consumed } : Catalog).attemptAll calls
    let (outcome, d) := c.registerInPlace r
    c.RegistrationEffect r outcome d := by
  have start : ({ consumed } : Catalog).Sound :=
    ⟨sound_empty.placed, sound_empty.record_root, sound_empty.uncovered⟩
  exact (start.attemptAll hv).registrationEffect hp hr

/-- A parameter between two others comes to stand in a group without parameters, which was made first. -/
theorem registrationEffect_attemptAll_between :
    let calls : List Call := [
      .parameter { path := ["a"], valueType := .double, summary := "First." },
      .group { path := ["b"], valueType := .object, summary := "Group." },
      .parameter { path := ["c"], valueType := .double, summary := "Last." }]
    let r : Record := { path := ["b", "d"], valueType := .double, summary := "Between." }
    let c := ({ consumed := [[.key "a"]] } : Catalog).attemptAll calls
    let (outcome, d) := c.registerInPlace r
    ((∀ call ∈ calls, call.Valid) ∧ r.path ≠ [] ∧ r.isGroup = false) ∧
      c.RegistrationEffect r outcome d ∧ outcome = .ok () ∧
      d.leaves.map Record.path = [["a"], ["b", "d"], ["c"]] := by
  intro calls r c
  have hv : ∀ call ∈ calls, call.Valid := by
    simp [calls, Call.Valid, Record.isGroup, ValueType.isGroup]
  have hp : r.path ≠ [] := by simp [r]
  have hr : r.isGroup = false := by decide
  exact ⟨⟨hv, hp, hr⟩, registrationEffect_attemptAll [[.key "a"]] calls hv r hp hr, by decide, by decide⟩

end Catalog
end PlannerConfig
