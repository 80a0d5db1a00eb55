/-!
Sets of texts. A set is kept as its elements in ascending order by code point, so that equal sets
are equal lists.
-/
namespace PlannerConfig

structure TextSet where
  elements : List String
  ascending : elements.Pairwise (· < ·)
  deriving DecidableEq

namespace TextSet

/-- A text put in its place among ascending texts. -/
def place (s : String) : List String → List String
  | [] => [s]
  | t :: ts => if s < t then s :: t :: ts else if s = t then t :: ts else t :: place s ts

@[simp] theorem mem_place {s t : String} {ts : List String} : t ∈ place s ts ↔ t = s ∨ t ∈ ts := by
  induction ts with
  | nil => simp [place]
  | cons u us ih =>
    unfold place
    split
    · simp
    · split
      · rename_i h
        subst h
        simp
      · simp only [List.mem_cons, ih]
        exact or_left_comm

theorem ascending_place (s : String) {ts : List String} (h : ts.Pairwise (· < ·)) :
    (place s ts).Pairwise (· < ·) := by
  induction ts with
  | nil => simp [place]
  | cons t ts ih =>
    obtain ⟨ht, hts⟩ := List.pairwise_cons.mp h
    unfold place
    split
    · rename_i hst
      refine List.pairwise_cons.mpr ⟨fun u hu => ?_, h⟩
      rcases List.mem_cons.mp hu with rfl | hu
      · exact hst
      · exact String.lt_trans hst (ht u hu)
    · split
      · exact h
      · rename_i hst hne
        refine List.pairwise_cons.mpr ⟨fun u hu => ?_, ih hts⟩
        rcases mem_place.mp hu with rfl | hu
        · exact String.not_le.mp fun hle => hne (String.le_antisymm hle (String.not_lt.mp hst))
        · exact ht u hu

def empty : TextSet := ⟨[], List.Pairwise.nil⟩

def insert (s : String) (x : TextSet) : TextSet :=
  ⟨place s x.elements, ascending_place s x.ascending⟩

def ofList (xs : List String) : TextSet := xs.foldr insert empty

instance : Membership String TextSet := ⟨fun x s => s ∈ x.elements⟩

@[simp] theorem mem_insert {s t : String} {x : TextSet} : t ∈ x.insert s ↔ t = s ∨ t ∈ x :=
  mem_place

@[simp] theorem mem_ofList {s : String} {xs : List String} : s ∈ ofList xs ↔ s ∈ xs := by
  induction xs with
  | nil => exact ⟨fun h => h, fun h => h⟩
  | cons x xs ih =>
    show s ∈ (ofList xs).insert x ↔ _
    simp [ih]

end TextSet

end PlannerConfig
