import Mathlib.Data.List.Basic
import PlannerConfig.Node

/-!
Documents that can be written. Only integers of too many digits stand in the way of a text.
-/
namespace PlannerConfig

open PlannerConfig.Number

/-- Whether an integer has more digits than integers may be written with. -/
def IsLong (n : Int) : Prop := tenTo maxIntegerDigits ≤ n.natAbs

lemma isSome_integerText?_iff (n : Int) : (integerText? n).isSome = true ↔ ¬IsLong n := by
  unfold integerText? IsLong
  -- the limit is kept from being computed
  generalize tenTo maxIntegerDigits = limit
  rw [Nat.not_le]
  split
  · rename_i h
    exact iff_of_true rfl h
  · rename_i h
    exact iff_of_false (by simp) h

namespace Document

mutual

/-- The integers of a document in order. -/
def integers : Document → List Int
  | int n => [n]
  | array items => integersOfItems items
  | object fields => integersOfFields fields
  | _ => []

def integersOfItems : List Document → List Int
  | [] => []
  | item :: items => item.integers ++ integersOfItems items

def integersOfFields : List (String × Document) → List Int
  | [] => []
  | (_, value) :: fields => value.integers ++ integersOfFields fields

end

/-- Whether no integer of a document is long. -/
def Writable (d : Document) : Prop := ∀ n ∈ d.integers, ¬IsLong n

lemma mem_integersOfItems {items : List Document} {n : Int} :
    n ∈ integersOfItems items ↔ ∃ d ∈ items, n ∈ d.integers := by
  induction items with
  | nil => simp [integersOfItems]
  | cons item items ih => simp [integersOfItems, ih]

lemma mem_integersOfFields {fields : List (String × Document)} {n : Int} :
    n ∈ integersOfFields fields ↔ ∃ f ∈ fields, n ∈ f.2.integers := by
  induction fields with
  | nil => simp [integersOfFields]
  | cons f fields ih => simp [integersOfFields, ih]

mutual

theorem isSome_literal?_iff (d : Document) : d.literal?.isSome = true ↔ d.Writable := by
  cases d with
  | int n =>
    rw [literal?, isSome_integerText?_iff]
    simp [Writable, integers]
  | array items =>
    rw [literal?, Option.isSome_map]
    exact isSome_literalItems?_iff items
  | object fields =>
    rw [literal?, Option.isSome_map]
    exact isSome_literalFields?_iff fields
  | _ => exact iff_of_true rfl fun n hn => absurd hn List.not_mem_nil

theorem isSome_literalItems?_iff (items : List Document) :
    (literalItems? items).isSome = true ↔ ∀ n ∈ integersOfItems items, ¬IsLong n := by
  cases items with
  | nil => exact iff_of_true rfl fun n hn => absurd hn List.not_mem_nil
  | cons item items =>
    have first := isSome_literal?_iff item
    have rest := isSome_literalItems?_iff items
    rw [literalItems?, integersOfItems, List.forall_mem_append, ← rest]
    rw [Writable] at first
    rw [← first]
    cases item.literal? <;> cases literalItems? items <;> simp

theorem isSome_literalFields?_iff (fields : List (String × Document)) :
    (literalFields? fields).isSome = true ↔ ∀ n ∈ integersOfFields fields, ¬IsLong n := by
  cases fields with
  | nil => exact iff_of_true rfl fun n hn => absurd hn List.not_mem_nil
  | cons f fields =>
    obtain ⟨key, value⟩ := f
    have first := isSome_literal?_iff value
    have rest := isSome_literalFields?_iff fields
    rw [literalFields?, integersOfFields, List.forall_mem_append, ← rest]
    rw [Writable] at first
    rw [← first]
    cases value.literal? <;> cases literalFields? fields <;> simp

end

mutual

theorem writable_of_json? (d : Document) (h : d.json?.isSome = true) : d.Writable := by
  cases d with
  | int n =>
    rw [json?, isSome_integerText?_iff] at h
    simpa [Writable, integers] using h
  | array items =>
    rw [json?, Option.isSome_map] at h
    exact writable_of_jsonItems? items h
  | object fields =>
    rw [json?, Option.isSome_map] at h
    exact writable_of_jsonFields? fields h
  | _ => exact fun n hn => absurd hn List.not_mem_nil

theorem writable_of_jsonItems? (items : List Document) (h : (jsonItems? items).isSome = true) :
    ∀ n ∈ integersOfItems items, ¬IsLong n := by
  cases items with
  | nil => exact fun n hn => absurd hn List.not_mem_nil
  | cons item items =>
    obtain ⟨first, rest⟩ : item.json?.isSome = true ∧ (jsonItems? items).isSome = true := by
      rw [jsonItems?] at h
      cases hitem : item.json? <;> cases hitems : jsonItems? items <;> simp_all
    rw [integersOfItems, List.forall_mem_append]
    exact ⟨writable_of_json? item first, writable_of_jsonItems? items rest⟩

theorem writable_of_jsonFields? (fields : List (String × Document))
    (h : (jsonFields? fields).isSome = true) : ∀ n ∈ integersOfFields fields, ¬IsLong n := by
  cases fields with
  | nil => exact fun n hn => absurd hn List.not_mem_nil
  | cons f fields =>
    obtain ⟨key, value⟩ := f
    obtain ⟨first, rest⟩ : value.json?.isSome = true ∧ (jsonFields? fields).isSome = true := by
      rw [jsonFields?] at h
      cases hvalue : value.json? <;> cases hfields : jsonFields? fields <;> simp_all
    rw [integersOfFields, List.forall_mem_append]
    exact ⟨writable_of_json? value first, writable_of_jsonFields? fields rest⟩

end

lemma isSome_plainText?_iff (d : Document) : d.plainText?.isSome = true ↔ d.Writable := by
  cases d with
  | text s => exact iff_of_true rfl fun n hn => absurd hn List.not_mem_nil
  | date d => exact iff_of_true rfl fun n hn => absurd hn List.not_mem_nil
  | time t => exact iff_of_true rfl fun n hn => absurd hn List.not_mem_nil
  | moment m => exact iff_of_true rfl fun n hn => absurd hn List.not_mem_nil
  | _ => exact isSome_literal?_iff _

/-- A message can show a value unless an integer in it is long: what has no JSON has a literal. -/
theorem isSome_rawText?_iff (d : Document) : (rawText? (some d)).isSome = true ↔ d.Writable := by
  have shown : ((json? d).orElse fun _ => plainText? d).isSome = true ↔ d.Writable := by
    rw [← isSome_plainText?_iff]
    cases hjson : d.json? with
    | none => rfl
    | some s =>
      have writable : d.Writable := writable_of_json? d (by simp [hjson])
      exact iff_of_true rfl ((isSome_plainText?_iff d).mpr writable)
  cases d with
  | text s => exact iff_of_true rfl fun n hn => absurd hn List.not_mem_nil
  | _ => exact shown

end Document

end PlannerConfig
