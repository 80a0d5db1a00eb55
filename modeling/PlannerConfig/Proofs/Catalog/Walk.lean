import Mathlib.Data.List.Flatten
import PlannerConfig.Proofs.Catalog.Calls

/-!
The walk over a tree of parameters: it comes past exactly the entries with parameters at or beneath
them, each once and each after the groups around it.
-/
namespace PlannerConfig
namespace Entry

lemma hasLeaves_of_isLeaf {e : Entry} (h : e.isLeaf = true) : e.hasLeaves = true := by
  obtain ⟨record, children⟩ := e
  rw [hasLeaves, h, Bool.true_or]

lemma Distinct.of_find? {e x : Entry} (h : e.Distinct) {p : List String}
    (hx : e.find? p = some x) : x.Distinct := by
  intro q y hy
  apply h (p ++ q)
  rw [find?_append, hx]
  exact hy

/-- A walk leaves out places and does not move any. -/
lemma walk_sublist_places (depth : Nat) (path : List String) (e : Entry) :
    ((e.walk depth path).map fun p => (p.path, p.entry)).Sublist (e.places path) := by
  induction e using induction generalizing depth path with
  | node record children ih =>
    rw [walk_eq_flatMap, places_eq_flatMap, List.map_flatMap]
    apply List.Sublist.flatMap_right
    rintro ⟨name, c⟩ hm
    have beneath := ih _ hm (depth + 1) (path ++ [name])
    split
    · exact List.Sublist.cons_cons _ (List.nil_sublist _)
    · split
      · exact beneath.cons_cons _
      · exact List.nil_sublist _

lemma nodup_walk {e : Entry} (h : e.Distinct) (depth : Nat) (path : List String) :
    ((e.walk depth path).map Place.path).Nodup := by
  have sublist := (walk_sublist_places depth path e).map Prod.fst
  rw [List.map_map] at sublist
  exact sublist.nodup (nodup_places h path)

/-- A walk stays beneath the entry that it starts from. -/
lemma exists_path_of_mem_walk {e : Entry} {depth : Nat} {path : List String} {p : Place}
    (hp : p ∈ e.walk depth path) : ∃ name rest, p.path = path ++ name :: rest := by
  induction e using induction generalizing depth path with
  | node record children ih =>
    rw [walk_eq_flatMap, List.mem_flatMap] at hp
    obtain ⟨⟨name, c⟩, hm, hp⟩ := hp
    split at hp
    · obtain rfl := List.mem_singleton.mp hp
      exact ⟨name, [], rfl⟩
    · split at hp
      · rcases List.mem_cons.mp hp with rfl | hp
        · exact ⟨name, [], rfl⟩
        · obtain ⟨next, rest, hpath⟩ := ih _ hm hp
          refine ⟨name, next :: rest, ?_⟩
          rw [hpath, List.append_assoc, List.singleton_append]
      · simp at hp

/-- Above an entry with parameters at or beneath it there are groups with parameters. -/
lemma isLeaf_of_beneath {e c x : Entry} {name next : String} {rest : List String}
    (hd : e.Distinct) (hu : e.Uncovered) (hc : e.child? name = some c)
    (hfind : c.find? (next :: rest) = some x) (hl : x.hasLeaves = true) :
    c.isLeaf = false ∧ c.hasLeaves = true := by
  obtain ⟨q, y, hy, hleaf⟩ := (hasLeaves_iff ((hd.child hc).of_find? hfind)).mp hl
  have inside : c.HasLeafAt (next :: rest ++ q) := by
    refine ⟨y, ?_, hleaf⟩
    rw [find?_append, hfind]
    exact hy
  refine ⟨?_, (hasLeaves_iff (hd.child hc)).mpr ⟨_, inside⟩⟩
  rw [Bool.eq_false_iff]
  intro hleaf
  apply hu [name] (next :: rest ++ q) (List.cons_ne_nil _ _) (List.cons_ne_nil _ _)
  · exact hasLeafAt_cons.mpr ⟨c, hc, hasLeafAt_nil.mpr hleaf⟩
  · exact hasLeafAt_cons.mpr ⟨c, hc, inside⟩

/-- A walk comes past an entry if there are parameters at or beneath it. -/
lemma mem_walk {e : Entry} (hd : e.Distinct) (hu : e.Uncovered) {depth : Nat}
    {path : List String} {p : Place} :
    p ∈ e.walk depth path ↔ ∃ name rest, p.path = path ++ name :: rest
      ∧ p.depth = depth + rest.length ∧ e.find? (name :: rest) = some p.entry
      ∧ p.entry.hasLeaves = true := by
  induction e using induction generalizing depth path p with
  | node record children ih =>
    rw [walk_eq_flatMap, List.mem_flatMap]
    constructor
    · rintro ⟨⟨name, c⟩, hm, hp⟩
      have hc := hd.child?_of_mem hm
      have here : Entry.find? [name] ⟨record, children⟩ = some c :=
        find?_cons_eq_some.mpr ⟨c, hc, rfl⟩
      split at hp
      · rename_i hleaf
        obtain rfl := List.mem_singleton.mp hp
        exact ⟨name, [], rfl, rfl, here, hasLeaves_of_isLeaf hleaf⟩
      · split at hp
        · rename_i hleaves
          rcases List.mem_cons.mp hp with rfl | hp
          · exact ⟨name, [], rfl, rfl, here, hleaves⟩
          · obtain ⟨next, rest, hpath, hdepth, hfind, hl⟩ :=
              (ih _ hm (hd.child hc) (hu.child hc)).mp hp
            refine ⟨name, next :: rest, ?_, ?_, find?_cons_eq_some.mpr ⟨c, hc, hfind⟩, hl⟩
            · rw [hpath, List.append_assoc, List.singleton_append]
            · rw [hdepth, List.length_cons]
              omega
        · simp at hp
    · rintro ⟨name, rest, hpath, hdepth, hx, hl⟩
      obtain ⟨c, hc, hfind⟩ := find?_cons_eq_some.mp hx
      have hm : (name, c) ∈ children := mem_of_lookup hc
      refine ⟨_, hm, ?_⟩
      cases rest with
      | nil =>
        obtain ⟨d, q, x⟩ := p
        obtain rfl : d = depth := hdepth
        obtain rfl : q = path ++ [name] := hpath
        obtain rfl : c = x := Option.some.inj hfind
        by_cases hleaf : c.isLeaf = true
        · simp [hleaf]
        · have hleaves : c.hasLeaves = true := hl
          simp [hleaf, hleaves]
      | cons next rest =>
        -- what lies beneath has parameters, so the child has some and is none itself
        obtain ⟨hgroup, hleaves⟩ := isLeaf_of_beneath hd hu hc hfind hl
        rw [if_neg (by simp [hgroup]), if_pos hleaves]
        apply List.mem_cons_of_mem
        apply (ih _ hm (hd.child hc) (hu.child hc)).mpr
        refine ⟨next, rest, ?_, ?_, hfind, hl⟩
        · rw [hpath, List.append_assoc, List.singleton_append]
        · rw [hdepth, List.length_cons]
          omega

end Entry
end PlannerConfig
