import PlannerConfig.Proofs.Catalog.Replacement

/-!
Trees of parameters that differ only beneath hidden children of the root. Registering the same on
both sides keeps them so, and so does registering something beneath a hidden child on one side, once
the child is there.
-/
namespace PlannerConfig
namespace Entry

/-- Two children of one name, equal unless the name is hidden; their records are equal anyway. -/
def AgreeChild (hidden : List String) (f g : String × Entry) : Prop :=
  f.1 = g.1 ∧ (f.2 = g.2 ∨ f.1 ∈ hidden ∧ f.2.record = g.2.record)

/-- Two roots that differ only beneath hidden children. -/
structure Agree (hidden : List String) (e e' : Entry) : Prop where
  record : e.record = e'.record
  children : List.Forall₂ (AgreeChild hidden) e.children e'.children

variable {hidden : List String} {e e' : Entry} {name : String}

lemma AgreeChild.refl (f : String × Entry) : AgreeChild hidden f f := ⟨rfl, .inl rfl⟩

lemma AgreeChild.symm {f g : String × Entry} (h : AgreeChild hidden f g) :
    AgreeChild hidden g f := by
  obtain ⟨hname, heq | ⟨hm, hr⟩⟩ := h
  · exact ⟨hname.symm, .inl heq.symm⟩
  · exact ⟨hname.symm, .inr ⟨hname ▸ hm, hr.symm⟩⟩

lemma Agree.refl (e : Entry) : Agree hidden e e := ⟨rfl, List.forall₂_same.mpr fun f _ => .refl f⟩

lemma Agree.symm (h : Agree hidden e e') : Agree hidden e' e where
  record := h.record.symm
  children := List.Forall₂.flip (h.children.imp fun _ _ => AgreeChild.symm)

lemma isSome_lookup_of_forall₂ {xs ys : List (String × Entry)}
    (h : List.Forall₂ (AgreeChild hidden) xs ys) (name : String) :
    (xs.lookup name).isSome = (ys.lookup name).isSome := by
  induction h with
  | nil => rfl
  | @cons f g xs ys hfg _ ih =>
    obtain ⟨k, x⟩ := f
    obtain ⟨j, y⟩ := g
    obtain ⟨rfl, -⟩ : k = j ∧ _ := hfg
    rw [List.lookup_cons, List.lookup_cons]
    cases name == k with
    | true => rfl
    | false => exact ih

/-- The children have the same names. -/
lemma Agree.isSome_child? (h : Agree hidden e e') (name : String) :
    (e.child? name).isSome = (e'.child? name).isSome :=
  isSome_lookup_of_forall₂ h.children name

/-- The child of one name is replaced on each side by one made from it. -/
lemma forall₂_setField {xs ys : List (String × Entry)} {make make' : Entry → Entry}
    (h : List.Forall₂ (AgreeChild hidden) xs ys)
    (hmake : ∀ x y, AgreeChild hidden (name, x) (name, y) →
      AgreeChild hidden (name, make x) (name, make' y)) :
    List.Forall₂ (AgreeChild hidden) (setField name (make ((xs.lookup name).getD {})) xs)
      (setField name (make' ((ys.lookup name).getD {})) ys) := by
  induction h with
  | nil => exact .cons (hmake _ _ (.refl _)) .nil
  | @cons f g xs ys hfg hrest ih =>
    obtain ⟨k, x⟩ := f
    obtain ⟨j, y⟩ := g
    obtain rfl : k = j := hfg.1
    by_cases hk : k = name
    · subst hk
      simp only [setField, beq_self_eq_true, if_true, List.lookup_cons_self, Option.getD_some]
      exact .cons (hmake x y hfg) hrest
    · have hname : (name == k) = false := beq_false_of_ne (Ne.symm hk)
      simp only [setField, beq_false_of_ne hk, List.lookup_cons, hname]
      exact .cons hfg ih

lemma record_update (r : Record) {p : List String} (hp : p ≠ []) :
    (e.update (withRecord r) p).record = e.record := by
  obtain ⟨k, p, rfl⟩ := List.exists_cons_of_ne_nil hp
  rfl

lemma Agree.update (h : Agree hidden e e') (r : Record) {p : List String} (hp : p ≠ []) :
    Agree hidden (e.update (withRecord r) p) (e'.update (withRecord r) p) := by
  obtain ⟨name, rest, rfl⟩ := List.exists_cons_of_ne_nil hp
  refine ⟨h.record, forall₂_setField h.children fun x y hxy => ⟨rfl, ?_⟩⟩
  rcases hxy.2 with heq | ⟨hm, hr⟩
  · obtain rfl : x = y := heq
    exact .inl rfl
  · refine .inr ⟨hm, ?_⟩
    by_cases hrest : rest = []
    · subst hrest
      rfl
    · rw [record_update r hrest, record_update r hrest]
      exact hr

/-- Beneath a hidden child that is there, an update leaves the other side as it is. -/
lemma Agree.update_left (h : Agree hidden e e') (hm : name ∈ hidden)
    (hchild : (e'.child? name).isSome = true) (r : Record) {rest : List String} (hrest : rest ≠ []) :
    Agree hidden (e.update (withRecord r) (name :: rest)) e' := by
  obtain ⟨c, hc⟩ := Option.isSome_iff_exists.mp hchild
  have beneath : ∀ x y, AgreeChild hidden (name, x) (name, y) →
      AgreeChild hidden (name, x.update (withRecord r) rest) (name, id y) := by
    rintro x y ⟨-, heq | ⟨-, hr⟩⟩
    · obtain rfl : x = y := heq
      exact ⟨rfl, .inr ⟨hm, record_update r hrest⟩⟩
    · exact ⟨rfl, .inr ⟨hm, (record_update r hrest).trans hr⟩⟩
  have replaced := forall₂_setField h.children beneath
  have there : e'.children.lookup name = some c := hc
  rw [id, there, Option.getD_some, setField_of_lookup there] at replaced
  exact ⟨h.record, replaced⟩

end Entry

namespace Catalog

variable {hidden : List String} {c c' e e' : Catalog} {calls : List Call}

/-- The same calls on both sides. -/
lemma agree_callAll (h : c.root.Agree hidden c'.root) (hp : ∀ call ∈ calls, call.path ≠ [])
    (he : c.callAll calls = .ok e) (he' : c'.callAll calls = .ok e') :
    e.root.Agree hidden e'.root := by
  induction calls generalizing c c' with
  | nil =>
    rw [callAll_nil] at he he'
    exact he ▸ he' ▸ h
  | cons call calls ih =>
    obtain ⟨d, hd, he⟩ := callAll_cons.mp he
    obtain ⟨d', hd', he'⟩ := callAll_cons.mp he'
    refine ih ?_ (fun call hm => hp call (List.mem_cons_of_mem _ hm)) he he'
    rw [call_eq_put hd, call_eq_put hd']
    exact h.update call.record (hp call List.mem_cons_self)

/-- Calls beneath a hidden child on one side. -/
lemma agree_callAll_left {name : String} (h : c.root.Agree hidden c'.root) (hm : name ∈ hidden)
    (hchild : (c'.root.child? name).isSome = true)
    (hp : ∀ call ∈ calls, ∃ rest, rest ≠ [] ∧ call.path = name :: rest)
    (he : c.callAll calls = .ok e) : e.root.Agree hidden c'.root := by
  induction calls generalizing c with
  | nil => exact callAll_nil.mp he ▸ h
  | cons call calls ih =>
    obtain ⟨d, hd, he⟩ := callAll_cons.mp he
    refine ih ?_ (fun call hm => hp call (List.mem_cons_of_mem _ hm)) he
    obtain ⟨rest, hrest, hpath⟩ := hp call List.mem_cons_self
    have hput : d.root = c.root.update (Entry.withRecord call.record) call.path := by
      rw [call_eq_put hd]
      rfl
    rw [hput, hpath]
    exact h.update_left hm hchild call.record hrest

end Catalog
end PlannerConfig
