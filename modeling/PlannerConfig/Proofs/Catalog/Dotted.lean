import PlannerConfig.Proofs.Catalog.Replacement
import PlannerConfig.Proofs.Text.Pieces

/-!
Paths written with points between their names. The names can be told from such a text as long as
none of them has a point itself, so the entries of a catalog that was filled at such paths have
different texts, and a text finds what the names find.
-/
namespace PlannerConfig

open PlannerConfig.Text

/-- No name of a path has a point. -/
def IsPointFree (path : List String) : Prop := ∀ name ∈ path, '.' ∉ name.toList

instance (path : List String) : Decidable (IsPointFree path) :=
  inferInstanceAs (Decidable (∀ name ∈ path, '.' ∉ name.toList))

namespace IsPointFree

variable {p q : List String}

lemma of_prefix (h : IsPointFree q) (hp : p <+: q) : IsPointFree p :=
  fun name hname => h name (hp.subset hname)

/-- A text is cut where the names were joined, also on both sides of an empty name. -/
lemma undotted_dotted (h : IsPointFree p) (hne : p ≠ []) : undotted (dotted p) = p := by
  induction p with
  | nil => exact absurd rfl hne
  | cons name rest ih =>
    have first : ∀ c ∈ name.toList, (c == '.') = false := by
      intro c hc
      rw [beq_eq_false_iff_ne]
      rintro rfl
      exact h name List.mem_cons_self hc
    cases rest with
    | nil =>
      rw [undotted, splitOnChar, dotted, join_singleton, splitWhere_of_forall first, List.map_singleton,
        String.ofList_toList]
    | cons next rest =>
      have parts : (dotted (name :: next :: rest)).toList
          = name.toList ++ '.' :: (dotted (next :: rest)).toList := by
        simp [dotted]
      have others : undotted (dotted (next :: rest)) = next :: rest :=
        ih (fun k hk => h k (List.mem_cons_of_mem name hk)) (List.cons_ne_nil _ _)
      rw [undotted, splitOnChar, parts, splitWhere_append_cons first rfl, List.map_cons,
        String.ofList_toList]
      exact congrArg (name :: ·) others

lemma dotted_inj (hp : IsPointFree p) (hq : IsPointFree q) (hp0 : p ≠ []) (hq0 : q ≠ []) :
    dotted p = dotted q ↔ p = q := by
  refine ⟨fun h => ?_, congrArg dotted⟩
  rw [← hp.undotted_dotted hp0, h, hq.undotted_dotted hq0]

end IsPointFree

/-- Setting a record makes entries on the way to it and nowhere else. -/
lemma Entry.prefix_or_exists_of_find?_update {r : Record} {e x : Entry} {p q : List String}
    (h : (e.update (withRecord r) p).find? q = some x) : q <+: p ∨ ∃ y, e.find? q = some y := by
  induction p generalizing e q with
  | nil =>
    cases q with
    | nil => exact .inl List.prefix_rfl
    | cons name rest => exact .inr ⟨x, h⟩
  | cons name rest ih =>
    cases q with
    | nil => exact .inl List.nil_prefix
    | cons k q =>
      obtain ⟨d, hd, hx⟩ := find?_cons_eq_some.mp h
      by_cases hk : k = name
      · subst hk
        rw [child?_update_self] at hd
        cases hd
        rw [List.cons_prefix_cons]
        rcases ih hx with hq | ⟨y, hy⟩
        · exact .inl ⟨rfl, hq⟩
        · cases hc : e.child? k with
          | some c =>
            rw [hc] at hy
            exact .inr ⟨y, find?_cons_eq_some.mpr ⟨c, hc, hy⟩⟩
          | none =>
            -- nothing was there, and the empty entry has only itself
            rw [hc] at hy
            cases q with
            | nil => exact .inl ⟨rfl, List.nil_prefix⟩
            | cons next q => cases hy
      · rw [child?_update_of_ne _ _ _ _ hk] at hd
        exact .inr ⟨x, find?_cons_eq_some.mpr ⟨d, hd, hx⟩⟩

namespace Catalog

variable {c : Catalog}

/-- What calls at paths without points keep. Their records may be of any type. -/
structure PointFree (c : Catalog) : Prop where
  placed : c.root.Placed []
  names : ∀ p x, c.find? p = some x → IsPointFree p

namespace PointFree

lemma empty : ({} : Catalog).PointFree where
  placed := Entry.placed_empty
  names p x hx := by
    cases p with
    | nil => exact fun name hname => absurd hname List.not_mem_nil
    | cons name rest => cases hx

lemma put (h : c.PointFree) {r : Record} (hr : IsPointFree r.path) : (c.put r).PointFree where
  placed := h.placed.put r
  names p x hx := by
    rcases Entry.prefix_or_exists_of_find?_update hx with hp | ⟨y, hy⟩
    · exact hr.of_prefix hp
    · exact h.names p y hy

lemma attempt (h : c.PointFree) {call : Call} (hcall : IsPointFree call.path) :
    (c.attempt call).PointFree := by
  unfold Catalog.attempt
  cases hc : c.call call with
  | error conflict => exact h
  | ok c' =>
    rw [call_eq_put hc]
    exact h.put hcall

lemma attemptAll (h : c.PointFree) {calls : List Call}
    (hcalls : ∀ call ∈ calls, IsPointFree call.path) : (c.attemptAll calls).PointFree := by
  induction calls generalizing c with
  | nil => exact h
  | cons call calls ih =>
    have first := hcalls call List.mem_cons_self
    exact ih (h.attempt first) fun d hd => hcalls d (List.mem_cons_of_mem call hd)

lemma path_of_mem_places (h : c.PointFree) {f : List String × Entry} (hf : f ∈ c.root.places []) :
    f.1 ≠ [] ∧ IsPointFree f.1 ∧ c.find? f.1 = some f.2 := by
  obtain ⟨name, rest, hpath, hfind⟩ := (Entry.mem_places h.placed.distinct).mp hf
  rw [List.nil_append] at hpath
  rw [hpath]
  exact ⟨List.cons_ne_nil _ _, h.names _ _ hfind, hfind⟩

/-- No two entries have the same text. -/
lemma nodup_dotted (h : c.PointFree) : ((c.root.places []).map fun f => dotted f.1).Nodup := by
  have paths := Entry.nodup_places h.placed.distinct []
  have texts : (((c.root.places []).map Prod.fst).map dotted).Nodup := by
    refine paths.map_on fun p hp q hq heq => ?_
    obtain ⟨f, hf, rfl⟩ := List.mem_map.mp hp
    obtain ⟨g, hg, rfl⟩ := List.mem_map.mp hq
    obtain ⟨hf0, hf, -⟩ := h.path_of_mem_places hf
    obtain ⟨hg0, hg, -⟩ := h.path_of_mem_places hg
    exact (hf.dotted_inj hg hf0 hg0).mp heq
  rwa [List.map_map] at texts

lemma countP_dotted_le_one (h : c.PointFree) (text : String) :
    (c.root.places []).countP (fun f => dotted f.1 = text) ≤ 1 := by
  have once := List.nodup_iff_count_le_one.mp h.nodup_dotted text
  rwa [List.count_eq_countP, List.countP_map] at once

end PointFree
end Catalog
end PlannerConfig
