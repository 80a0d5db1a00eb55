import Mathlib.Data.List.Basic
import Mathlib.Tactic.Lemma
import PlannerConfig.Document.Basic

/-!
Fields that are set and looked up. Where their names are distinct, looking a name up finds the field that
has it.
-/
namespace PlannerConfig

section setField

variable {κ α : Type} [BEq κ] [LawfulBEq κ] {key : κ}

lemma setField_of_lookup {value : α} {fields : List (κ × α)} (h : fields.lookup key = some value) :
    setField key value fields = fields := by
  induction fields with
  | nil => cases h
  | cons f fields ih =>
    obtain ⟨k, v⟩ := f
    unfold setField
    by_cases hk : key = k
    · subst hk
      obtain rfl : v = value := by simpa using h
      simp
    · have hk' : ¬ k = key := fun heq => hk heq.symm
      rw [List.lookup_cons, beq_false_of_ne hk] at h
      simp [hk', ih h]

lemma setField_setField (value other : α) (fields : List (κ × α)) :
    setField key value (setField key other fields) = setField key value fields := by
  induction fields with
  | nil => simp [setField]
  | cons f fields ih =>
    obtain ⟨k, v⟩ := f
    by_cases hk : k = key <;> simp [setField, hk, ih]

end setField

/-- No name occurs twice. -/
def NamesDistinct {α : Type} (fields : List (String × α)) : Prop := (fields.map Prod.fst).Nodup

variable {α : Type} {fields : List (String × α)} {name : String} {value : α}

lemma NamesDistinct.tail {f : String × α} (h : NamesDistinct (f :: fields)) :
    NamesDistinct fields := (List.nodup_cons.mp h).2

lemma mem_of_lookup (h : fields.lookup name = some value) : (name, value) ∈ fields := by
  obtain ⟨before, after, rfl, -⟩ := List.lookup_eq_some_iff.mp h
  simp

lemma NamesDistinct.lookup_of_mem (h : NamesDistinct fields) (hm : (name, value) ∈ fields) :
    fields.lookup name = some value := by
  induction fields with
  | nil => simp at hm
  | cons f rest ih =>
    obtain ⟨k, v⟩ := f
    rcases List.mem_cons.mp hm with heq | hm
    · cases heq
      simp
    · have hk : name ≠ k := by
        intro hk
        apply (List.nodup_cons.mp h).1
        simpa only [hk] using List.mem_map_of_mem (f := Prod.fst) hm
      rw [List.lookup_cons, beq_false_of_ne hk]
      exact ih h.tail hm

/-- Setting a field keeps the names distinct. -/
lemma NamesDistinct.setField (h : NamesDistinct fields) :
    NamesDistinct (setField name value fields) := by
  induction fields with
  | nil => simp [NamesDistinct, PlannerConfig.setField]
  | cons f rest ih =>
    obtain ⟨k, v⟩ := f
    have hk := (List.nodup_cons.mp h).1
    unfold PlannerConfig.setField
    split
    · exact List.nodup_cons.mpr ⟨hk, h.tail⟩
    · rename_i hne
      refine List.nodup_cons.mpr ⟨fun hm => hk ?_, ih h.tail⟩
      -- the only name that may be new is the one that is set, and it is not `k`
      obtain ⟨⟨j, w⟩, hj, hjk⟩ := List.mem_map.mp hm
      have hl := (ih h.tail).lookup_of_mem hj
      have hjn : j ≠ name := fun hjn => hne (beq_of_eq (hjk.symm.trans hjn))
      rw [lookup_setField_of_ne name value rest hjn] at hl
      exact List.mem_map.mpr ⟨(j, w), mem_of_lookup hl, hjk⟩

end PlannerConfig
