import Mathlib.Data.List.Infix
import PlannerConfig.Node
import PlannerConfig.Proofs.Document.Fields

/-!
The scalars of a document and the ways to them, as a walk of its own. Where no object has a key
twice, the walk agrees with going from place to place.
-/
namespace PlannerConfig
namespace Document

mutual

/-- The ways to the scalars in a document, in document order. A null is no scalar. -/
def scalars : Document → List Path
  | null => []
  | array items => scalarsOfItems 0 items
  | object fields => scalarsOfFields fields
  | _ => [[]]

def scalarsOfItems (index : Nat) : List Document → List Path
  | [] => []
  | item :: items =>
    item.scalars.map (.index index :: ·) ++ scalarsOfItems (index + 1) items

def scalarsOfFields : List (String × Document) → List Path
  | [] => []
  | (key, value) :: fields => value.scalars.map (.key key :: ·) ++ scalarsOfFields fields

end

mutual

/-- No object in a document has a key twice. -/
def KeysDistinct : Document → Prop
  | array items => KeysDistinctItems items
  | object fields => NamesDistinct fields ∧ KeysDistinctFields fields
  | _ => True

def KeysDistinctItems : List Document → Prop
  | [] => True
  | item :: items => item.KeysDistinct ∧ KeysDistinctItems items

def KeysDistinctFields : List (String × Document) → Prop
  | [] => True
  | (_, value) :: fields => value.KeysDistinct ∧ KeysDistinctFields fields

end

lemma mem_scalarsOfItems {index : Nat} {items : List Document} {q : Path} :
    q ∈ scalarsOfItems index items ↔ ∃ (i : Nat) (d : Document) (r : Path),
      items[i]? = some d ∧ r ∈ d.scalars ∧ q = .index ((index + i : Nat) : Int) :: r := by
  induction items generalizing index with
  | nil => simp [scalarsOfItems]
  | cons item items ih =>
    rw [scalarsOfItems, List.mem_append, List.mem_map, ih]
    constructor
    · rintro (⟨r, hr, rfl⟩ | ⟨i, d, r, hi, hr, rfl⟩)
      · exact ⟨0, item, r, rfl, hr, rfl⟩
      · refine ⟨i + 1, d, r, hi, hr, ?_⟩
        rw [Nat.add_right_comm, Nat.add_assoc]
    · rintro ⟨i, d, r, hi, hr, rfl⟩
      cases i with
      | zero =>
        obtain rfl : item = d := by simpa using hi
        exact .inl ⟨r, hr, rfl⟩
      | succ i =>
        refine .inr ⟨i, d, r, hi, hr, ?_⟩
        rw [Nat.add_right_comm, Nat.add_assoc]

lemma mem_scalarsOfFields {fields : List (String × Document)} {q : Path} :
    q ∈ scalarsOfFields fields
      ↔ ∃ k d r, (k, d) ∈ fields ∧ r ∈ d.scalars ∧ q = .key k :: r := by
  induction fields with
  | nil => simp [scalarsOfFields]
  | cons f fields ih =>
    obtain ⟨j, value⟩ := f
    rw [scalarsOfFields, List.mem_append, List.mem_map, ih]
    constructor
    · rintro (⟨r, hr, rfl⟩ | ⟨k, d, r, hm, hr, rfl⟩)
      · exact ⟨j, value, r, by simp, hr, rfl⟩
      · exact ⟨k, d, r, by simp [hm], hr, rfl⟩
    · rintro ⟨k, d, r, hm, hr, rfl⟩
      rcases List.mem_cons.mp hm with heq | hm
      · cases heq
        exact .inl ⟨r, hr, rfl⟩
      · exact .inr ⟨k, d, r, hm, hr, rfl⟩

lemma KeysDistinctItems.of_getElem? {items : List Document} (h : KeysDistinctItems items) {i : Nat}
    {d : Document} (hi : items[i]? = some d) : d.KeysDistinct := by
  induction items generalizing i with
  | nil => simp at hi
  | cons item items ih =>
    cases i with
    | zero =>
      obtain rfl : item = d := by simpa using hi
      exact h.1
    | succ i => exact ih h.2 (by simpa using hi)

lemma KeysDistinctFields.of_mem {fields : List (String × Document)} (h : KeysDistinctFields fields)
    {k : String} {d : Document} (hm : (k, d) ∈ fields) : d.KeysDistinct := by
  induction fields with
  | nil => simp at hm
  | cons f fields ih =>
    rcases List.mem_cons.mp hm with rfl | hm
    · exact h.1
    · exact ih h.2 hm

lemma present?_eq_some {d e : Document} : d.present? = some e ↔ d = e ∧ d ≠ null := by
  cases d <;> simp [present?, eq_comm]

lemma present?_of_isObject {d : Document} (h : d.isObject = true) : d.present? = some d :=
  present?_eq_some.mpr ⟨rfl, by rintro rfl; cases h⟩

lemma present?_of_mem_scalars {d : Document} {q : Path} (h : q ∈ d.scalars) :
    d.present? = some d := by
  cases d <;> simp_all [present?, scalars]

end Document

namespace Node

open Document

/-- The ways from a place to the scalars beneath it. -/
def scalars (n : Node) : List Path := (n.value.map Document.scalars).getD []

def KeysDistinct (n : Node) : Prop := ∀ d, n.value = some d → d.KeysDistinct

variable {n : Node} {q : Path}

lemma mem_scalars : q ∈ n.scalars ↔ ∃ d, n.value = some d ∧ q ∈ d.scalars := by
  unfold scalars
  cases n.value <;> simp

lemma isMissing_of_mem_scalars (h : q ∈ n.scalars) : n.isMissing = false := by
  obtain ⟨d, hd, -⟩ := mem_scalars.mp h
  simp [isMissing, hd]

lemma keysDistinct_root {d : Document} (h : d.KeysDistinct) (source : Option String) :
    (root d source).KeysDistinct := by
  intro e he
  obtain ⟨rfl, -⟩ := present?_eq_some.mp he
  exact h

lemma isMissing_eq_false_iff : n.isMissing = false ↔ ∃ d, n.value = some d := by
  unfold isMissing
  cases n.value <;> simp

/-- What is there under a key is the value of a field, and no null. -/
lemma exists_field_of_child {name : String} {d : Document} (h : (n.child name).value = some d) :
    ∃ fields, n.value = some (.object fields) ∧ (name, d) ∈ fields ∧ d ≠ .null := by
  obtain ⟨e, he, hpresent⟩ := Option.bind_eq_some_iff.mp h
  obtain ⟨o, ho, hlookup⟩ := Option.bind_eq_some_iff.mp he
  obtain ⟨rfl, hne⟩ := present?_eq_some.mp hpresent
  cases o with
  | object fields => exact ⟨fields, ho, mem_of_lookup hlookup, hne⟩
  | _ => cases hlookup

/-- What is there at an index is an element. -/
lemma exists_item_of_childAt {i : Int} {d : Document} (h : (n.childAt i).value = some d) :
    ∃ items, n.value = some (.array items) ∧ items[i.toNat]? = some d := by
  obtain ⟨e, he, hpresent⟩ := Option.bind_eq_some_iff.mp h
  obtain ⟨a, ha, hget⟩ := Option.bind_eq_some_iff.mp he
  obtain ⟨rfl, -⟩ := present?_eq_some.mp hpresent
  cases a with
  | array items =>
    simp only [Document.getAt?] at hget
    split at hget
    · cases hget
    · exact ⟨items, ha, hget⟩
  | _ => cases hget

lemma KeysDistinct.child (h : n.KeysDistinct) (name : String) : (n.child name).KeysDistinct := by
  intro d hd
  obtain ⟨fields, hfields, hmem, -⟩ := exists_field_of_child hd
  exact (h _ hfields).2.of_mem hmem

lemma KeysDistinct.childAt (h : n.KeysDistinct) (i : Int) : (n.childAt i).KeysDistinct := by
  intro d hd
  obtain ⟨items, hitems, hget⟩ := exists_item_of_childAt hd
  exact KeysDistinctItems.of_getElem? (h _ hitems) hget

lemma cons_mem_scalars {name : String} (h : q ∈ (n.child name).scalars) :
    .key name :: q ∈ n.scalars := by
  obtain ⟨d, hd, hq⟩ := mem_scalars.mp h
  obtain ⟨fields, hfields, hmem, -⟩ := exists_field_of_child hd
  exact mem_scalars.mpr ⟨_, hfields, mem_scalarsOfFields.mpr ⟨name, d, q, hmem, hq, rfl⟩⟩

@[simp] lemma path_root (d : Document) (source : Option String) : (root d source).path = [] := rfl

@[simp] lemma scalars_root (d : Document) (source : Option String) : (root d source).scalars = d.scalars := by
  cases d <;> rfl

lemma value_child {n : Node} {d : Document} (h : n.value = d.present?) (name : String) :
    (n.child name).value = (d.get? name).bind Document.present? := by
  cases d <;> simp [child, h, Document.present?, Document.get?]

lemma scalars_child (name : String) :
    (n.child name).scalars = ((n.value.bind (Document.get? name)).elim [] Document.scalars) := by
  unfold scalars child
  cases n.value.bind (Document.get? name) with
  | none => rfl
  | some d => cases d <;> rfl

/-- A scalar in an object lies beneath one of its keys. -/
lemma mem_scalars_of_object (h : n.KeysDistinct) (hn : (n.isMissing || n.isObject) = true)
    (hq : q ∈ n.scalars) :
    ∃ k r, q = .key k :: r ∧ k ∈ n.keys ∧ r ∈ (n.child k).scalars := by
  obtain ⟨d, hd, hq⟩ := mem_scalars.mp hq
  cases d with
  | object fields =>
    obtain ⟨k, e, r, hm, hr, rfl⟩ := mem_scalarsOfFields.mp hq
    have hlookup : fields.lookup k = some e := (h _ hd).1.lookup_of_mem hm
    refine ⟨k, r, rfl, ?_, mem_scalars.mpr ⟨e, ?_, hr⟩⟩
    · simpa [keys, hd, Document.keys] using ⟨e, hm⟩
    · simp [child, hd, Document.get?, hlookup, present?_of_mem_scalars hr]
  | _ => simp [isMissing, isObject, Document.isObject, hd] at hn

/-- A scalar in an array lies beneath one of its indexes. -/
lemma mem_scalars_of_array (hn : n.isMissing = true ∨ n.isArray = true) (hq : q ∈ n.scalars) :
    ∃ (i : Nat) (r : Path), q = .index i :: r ∧ i < n.size ∧ r ∈ (n.childAt i).scalars := by
  obtain ⟨d, hd, hq⟩ := mem_scalars.mp hq
  cases d with
  | array items =>
    obtain ⟨i, e, r, hi, hr, rfl⟩ := mem_scalarsOfItems.mp hq
    obtain ⟨hlt, -⟩ := List.getElem?_eq_some_iff.mp hi
    refine ⟨i, r, by simp, by simpa [size, hd, Document.size] using hlt,
      mem_scalars.mpr ⟨e, ?_, hr⟩⟩
    have hget : Document.getAt? (i : Int) (.array items) = some e := by
      simpa [Document.getAt?] using hi
    simp [childAt, hd, hget, present?_of_mem_scalars hr]
  | _ => simp [isMissing, isArray, Document.isArray, hd] at hn

/-- The places of the elements of an array, element by element. -/
lemma elements_of_array {n : Node} {items : List Document} (h : n.value = some (.array items)) :
    n.elements = items.zipIdx.map fun p =>
      ⟨p.1.present?, n.path ++ [.index p.2], n.source⟩ := by
  have hsize : n.size = items.length := by simp [size, h, Document.size]
  apply List.ext_getElem
  · simp [elements, hsize]
  · intro i hi _
    have hlt : i < items.length := by simpa [elements, hsize] using hi
    have hnat : ¬ (i : Int) < 0 := by omega
    simp [elements, childAt, h, Document.getAt?, hlt, hnat]

end Node
end PlannerConfig
