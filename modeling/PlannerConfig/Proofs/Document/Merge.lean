import PlannerConfig.Document.Merge
import PlannerConfig.Proofs.Document.Scalars

/-!
One object laid over another: which keys the outcome has, in which order, and what stands under each.
A key of the lower object keeps its place.
-/
namespace PlannerConfig

section setField

variable {α : Type} {name : String} {value : α} {fields : List (String × α)}

lemma keys_setField : (setField name value fields).map Prod.fst
    = if name ∈ fields.map Prod.fst then fields.map Prod.fst else fields.map Prod.fst ++ [name] := by
  induction fields with
  | nil => simp [setField]
  | cons f rest ih =>
    obtain ⟨k, v⟩ := f
    unfold setField
    by_cases hk : k = name
    · simp [hk]
    · rw [if_neg (by simpa using hk), List.map_cons, ih]
      simp only [List.map_cons, List.mem_cons, Ne.symm hk, false_or]
      split <;> rfl

lemma lookup_eq_none_of_cons {f : String × α} (h : NamesDistinct (f :: fields)) :
    fields.lookup f.1 = none := by
  rw [List.lookup_eq_none_iff]
  intro g hg
  rw [bne_iff_ne]
  intro heq
  apply (List.nodup_cons.mp h).1
  rw [heq]
  exact List.mem_map_of_mem hg

lemma isSome_lookup_iff : (fields.lookup name).isSome = true ↔ name ∈ fields.map Prod.fst := by
  induction fields with
  | nil => simp
  | cons f rest ih =>
    rw [List.lookup_cons, List.map_cons, List.mem_cons, ← ih]
    by_cases hk : name = f.1
    · simp [hk]
    · simp [hk, beq_false_of_ne hk]

end setField

namespace Document

variable {base layer : List (String × Document)}

/-- Under a key of the upper object stands its value, laid over what was there. -/
lemma lookup_mergeFields (h : NamesDistinct layer) (base : List (String × Document))
    (key : String) : (mergeFields base layer).lookup key
      = (layer.lookup key).elim (base.lookup key) fun d => some (layOver (base.lookup key) d) := by
  induction layer generalizing base with
  | nil => simp [mergeFields]
  | cons f layer ih =>
    obtain ⟨k, d⟩ := f
    rw [mergeFields, ih h.tail]
    by_cases hk : key = k
    · have absent : layer.lookup k = none := lookup_eq_none_of_cons h
      simp [hk, absent]
    · rw [lookup_setField_of_ne _ _ _ hk, List.lookup_cons, beq_false_of_ne hk]

/-- The keys of the lower object come first, and then those that only the upper one has. -/
lemma keys_mergeFields (h : NamesDistinct layer) (base : List (String × Document)) :
    (mergeFields base layer).map Prod.fst
      = base.map Prod.fst ++ (layer.map Prod.fst).filter (· ∉ base.map Prod.fst) := by
  induction layer generalizing base with
  | nil => simp [mergeFields]
  | cons f layer ih =>
    have fresh := (List.nodup_cons.mp h).1
    rw [mergeFields, ih h.tail, keys_setField, List.map_cons]
    by_cases hf : f.1 ∈ base.map Prod.fst
    · rw [if_pos hf, List.filter_cons_of_neg (by simpa using hf)]
    · rw [if_neg hf, List.filter_cons_of_pos (by simpa using hf), List.append_assoc,
        List.singleton_append]
      -- that `f.1` is there now hides no other key of the upper object
      have same : (layer.map Prod.fst).filter (· ∉ base.map Prod.fst ++ [f.1])
          = (layer.map Prod.fst).filter (· ∉ base.map Prod.fst) := by
        apply List.filter_congr
        intro key hkey
        have hne : key ≠ f.1 := fun heq => fresh (heq ▸ hkey)
        simp [hne]
      rw [same]

lemma layOver_of_isObject_eq_false {d : Document} (h : d.isObject = false)
    (below : Option Document) : layOver below d = d := by
  cases d with
  | object fields => cases h
  | _ => rcases below with _ | (_ | _) <;> rfl

lemma isObject_layOver (below : Option Document) (d : Document) :
    (layOver below d).isObject = d.isObject := by
  cases d with
  | object fields => rcases below with _ | (_ | _) <;> rfl
  | _ => rcases below with _ | (_ | _) <;> rfl

end Document
end PlannerConfig
