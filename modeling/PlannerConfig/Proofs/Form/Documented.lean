import PlannerConfig.Proofs.Form.Slots

/-!
What the catalog holds after a form was read slot by slot: its parameters are the slots, each with its
type and default, and its groups are those that the form opens. The document has no part in it.
-/
namespace PlannerConfig

/-- What is documented of a slot: its path, the shape of its values and its default. -/
def Slot.documented {σ : Type} (defaults : σ) (s : Slot σ) : List String × ValueShape × Value :=
  (s.path, s.shape, s.toValue (s.get defaults))

/-- What a record documents of its parameter's values. -/
def Record.documented (r : Record) : List String × ValueShape × Value :=
  (r.path, ⟨r.valueType, r.enumType, r.detailType, r.displayDefault⟩, r.default)

/-- What the call of a parameter documents of its values. -/
def Call.documented? : Call → Option (List String × ValueShape × Value)
  | parameter r => some r.documented
  | group _ => none

def Call.groupPath? : Call → Option (List String)
  | parameter _ => none
  | group r => some r.path

namespace Form

variable {ρ σ α : Type} {f : Form σ α} {n : Node}

/-- Each slot is registered with its own path, type and default, and nothing else is. -/
lemma filterMap_documented_calls (hf : f.slotted = true) (view : ρ → σ) (d : ρ)
    (more : List (Slot ρ)) :
    (f.calls (view d) n).filterMap Call.documented? ++ more.map (Slot.documented d)
      = (f.slots view n.docPath more).map (Slot.documented d) := by
  induction f generalizing n more with
  | pure a => rfl
  | ap f x ihf ihx =>
    rw [slotted, Bool.and_eq_true] at hf
    rw [calls, slots, List.filterMap_append, List.append_assoc, ihx hf.2, ihf hf.1]
  | zoom get body ih => exact ih hf (fun r => get (view r)) more
  | scalar name kind get note =>
    have hpath := Parameter.path_scalarRecord n name note kind (some (get (view d)))
    show Record.documented _ :: _ = _
    rw [Record.documented, hpath]
    rfl
  | enumMap name keys kind get note =>
    show Record.documented _ :: _ = _
    rw [Record.documented, Parameter.path_mapRecord]
    rfl
  | group name body note ih =>
    rw [calls, slots, List.filterMap_cons_none rfl, ih hf, Node.docPath_child]
  | tell event => rfl
  | retired name event => rfl
  | required name kind note => cases hf
  | eachKey kind note => cases hf
  | optionalGroup name body note => cases hf
  | list name element get note => cases hf

lemma filterMap_group_calls (hf : f.slotted = true) (d : σ) :
    (f.calls d n).filterMap Call.groupPath? = f.groupPaths.map (n.docPath ++ ·) := by
  induction f generalizing n with
  | pure a => rfl
  | ap f x ihf ihx =>
    rw [slotted, Bool.and_eq_true] at hf
    rw [calls, groupPaths, List.filterMap_append, List.map_append, ihf hf.1, ihx hf.2]
  | zoom get body ih => exact ih hf (get d)
  | group name body note ih =>
    rw [calls, groupPaths, List.filterMap_cons, Call.groupPath?, ih hf]
    simp
  | eachKey kind note => cases hf
  | optionalGroup name body note => cases hf
  | list name element get note => cases hf
  | _ => rfl

section catalog

variable {view : ρ → σ} {d : ρ} {c : Catalog} {paths : List Path}

lemma get?_absorb {calls : List Call} (hc : ({} : Catalog).absorb calls paths = .ok c)
    (p : List String) : c.get? p = (Call.lastAt? p calls).map Call.record := by
  obtain ⟨e, he, rfl⟩ := Catalog.absorb_eq_ok_iff.mp hc
  have empty : ({} : Catalog).get? p = none := Entry.recordAt?_empty p
  rw [Catalog.get?, Catalog.find?, Catalog.root_consumeAll]
  exact (Catalog.get?_callAll he p).trans (by rw [empty, Option.or_none])

/-- What the catalog holds was registered. -/
lemma mem_calls_of_get? {d : σ} (hf : f.Declared)
    (hc : ({} : Catalog).absorb (f.calls d n) paths = .ok c) {r : Record}
    (h : c.get? r.path = some r) :
    (r.isGroup = false → .parameter r ∈ f.calls d n) ∧ (r.isGroup = true → .group r ∈ f.calls d n) := by
  rw [get?_absorb hc] at h
  obtain ⟨call, hcall, hr⟩ := Option.map_eq_some_iff.mp h
  obtain ⟨hm, -⟩ := Call.mem_of_lastAt? hcall
  have hproper := proper_of_mem_calls hf hm
  cases call with
  | parameter s =>
    obtain rfl : s = r := hr
    exact ⟨fun _ => hm, fun hg => absurd (hproper.2.symm.trans hg) Bool.false_ne_true⟩
  | group s =>
    obtain rfl : s = r := hr
    exact ⟨fun hg => absurd (hg.symm.trans hproper.2) Bool.false_ne_true, fun _ => hm⟩

lemma exists_leaf_of_mem_calls {d : σ} (hf : f.Declared) (hs : f.Separate)
    (hc : ({} : Catalog).absorb (f.calls d n) ((f.marks n).map (n.path ++ ·)) = .ok c) {r : Record}
    (hr : .parameter r ∈ f.calls d n) : ∃ leaf ∈ c.leaves, leaf.path = r.path := by
  have hfills := fills_of_absorb hf hs hc
  apply (Catalog.contains_iff_exists_leaf hfills.sound).mp
  exact (hfills.contains_iff _).mpr ((f.exists_parameter_iff _ n).mp ⟨r, hr, rfl⟩)

lemma nodup_map_pair {κ : Type*} {β γ : Type} {xs : List κ} {key : κ → β} (value : κ → γ)
    (h : (xs.map key).Nodup) : (xs.map fun x => (key x, value x)).Nodup :=
  .of_map Prod.fst (by rw [List.map_map]; exact h)

/-- The parameters of the catalog are the slots with their types and defaults. -/
theorem perm_leaves (hf : f.Declared) (hs : f.Separate) (hslotted : f.slotted = true) (view : ρ → σ)
    (d : ρ) (hd : ((f.slots view n.docPath []).map Slot.path).Nodup)
    (hc : ({} : Catalog).absorb (f.calls (view d) n) ((f.marks n).map (n.path ++ ·)) = .ok c) :
    (c.leaves.map Record.documented).Perm
      ((f.slots view n.docPath []).map (Slot.documented d)) := by
  have hfills := fills_of_absorb hf hs hc
  have hslots := filterMap_documented_calls (n := n) hslotted view d []
  rw [List.map_nil, List.append_nil] at hslots
  have registered : ∀ r ∈ c.leaves,
      r.documented ∈ (f.slots view n.docPath []).map (Slot.documented d) := by
    intro r hr
    obtain ⟨hget, hgroup⟩ := (Catalog.mem_leaves hfills.sound).mp hr
    rw [← hslots]
    exact List.mem_filterMap.mpr ⟨_, (mem_calls_of_get? hf hc hget).1 hgroup, rfl⟩
  have hleaves := Catalog.nodup_paths_leaves hfills.sound
  refine (List.perm_ext_iff_of_nodup (nodup_map_pair _ hleaves) (nodup_map_pair _ hd)).mpr
    fun p => ⟨?_, ?_⟩
  · intro hp
    obtain ⟨r, hr, rfl⟩ := List.mem_map.mp hp
    exact registered r hr
  · intro hp
    obtain ⟨s, hmem, rfl⟩ := List.mem_map.mp hp
    have hslot : Slot.documented d s ∈ (f.slots view n.docPath []).map (Slot.documented d) :=
      List.mem_map_of_mem hmem
    rw [← hslots] at hslot
    obtain ⟨call, hcall, hdefault⟩ := List.mem_filterMap.mp hslot
    cases call with
    | group g => cases hdefault
    | parameter r =>
      obtain ⟨hpath, -⟩ := Prod.mk.inj (Option.some.inj hdefault)
      obtain ⟨leaf, hleaf, hlp⟩ := exists_leaf_of_mem_calls hf hs hc hcall
      obtain ⟨t, ht, heq⟩ := List.mem_map.mp (registered leaf hleaf)
      have hst : t = s := by
        apply List.inj_on_of_nodup_map hd ht hmem
        rw [(Prod.mk.inj heq).1, hlp, hpath]
      show Slot.documented d s ∈ c.leaves.map Record.documented
      rw [← hst, heq]
      exact List.mem_map_of_mem hleaf

/-- The groups of the catalog are those that the form opens. -/
theorem exists_group_iff (hf : f.Declared) (hs : f.Separate) (hslotted : f.slotted = true) {d : σ}
    (hc : ({} : Catalog).absorb (f.calls d n) ((f.marks n).map (n.path ++ ·)) = .ok c)
    {p : List String} : (∃ r, c.get? p = some r ∧ r.isGroup = true)
      ↔ p ∈ f.groupPaths.map (n.docPath ++ ·) := by
  have hfills := fills_of_absorb hf hs hc
  rw [← filterMap_group_calls (n := n) hslotted d, List.mem_filterMap]
  constructor
  · rintro ⟨r, hr, hgroup⟩
    have hp : r.path = p := hfills.sound.placed.path_eq p r hr
    rw [← hp] at hr
    exact ⟨_, (mem_calls_of_get? hf hc hr).2 hgroup, congrArg some hp⟩
  · rintro ⟨call, hcall, hp⟩
    cases call with
    | parameter r => cases hp
    | group g =>
      obtain rfl : g.path = p := Option.some.inj hp
      rw [get?_absorb hc]
      cases hlast : Call.lastAt? g.path (f.calls d n) with
      | none => exact absurd rfl (Call.lastAt?_eq_none_iff.mp hlast _ hcall)
      | some last =>
        obtain ⟨hm, hpath⟩ := Call.mem_of_lastAt? hlast
        cases last with
        | parameter r => exact absurd hpath.symm (hs.path_ne hm hcall)
        | group r => exact ⟨r, rfl, (proper_of_mem_calls hf hm).2⟩

end catalog

end Form
end PlannerConfig
