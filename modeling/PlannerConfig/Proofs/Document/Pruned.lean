import PlannerConfig.Proofs.Document.Scalars

/-!
Documents without nulls in their objects. A null in an array is an element and stays.
-/
namespace PlannerConfig
namespace Document

mutual

/-- A document without the fields whose value is null, at any depth. -/
def pruned : Document → Document
  | array items => array (prunedItems items)
  | object fields => object (prunedFields fields)
  | d => d

def prunedItems : List Document → List Document
  | [] => []
  | item :: items => item.pruned :: prunedItems items

def prunedFields : List (String × Document) → List (String × Document)
  | [] => []
  | (_, null) :: fields => prunedFields fields
  | (key, value) :: fields => (key, value.pruned) :: prunedFields fields

end

lemma prunedItems_eq_map (items : List Document) : prunedItems items = items.map pruned := by
  induction items with
  | nil => rfl
  | cons item items ih => rw [prunedItems, ih, List.map_cons]

lemma prunedFields_cons_of_ne {key : String} {value : Document} (h : value ≠ null)
    (fields : List (String × Document)) :
    prunedFields ((key, value) :: fields) = (key, value.pruned) :: prunedFields fields := by
  cases value with
  | null => exact absurd rfl h
  | _ => rfl

@[simp] lemma isObject_pruned (d : Document) : d.pruned.isObject = d.isObject := by cases d <;> rfl

@[simp] lemma isArray_pruned (d : Document) : d.pruned.isArray = d.isArray := by cases d <;> rfl

@[simp] lemma present?_pruned (d : Document) : d.pruned.present? = d.present?.map pruned := by
  cases d <;> rfl

@[simp] lemma kindName_pruned (d : Document) : kindName (some d.pruned) = kindName (some d) := by
  cases d <;> rfl

lemma mem_prunedFields {fields : List (String × Document)} {key : String} {e : Document} :
    (key, e) ∈ prunedFields fields ↔ ∃ d, (key, d) ∈ fields ∧ d ≠ null ∧ d.pruned = e := by
  induction fields with
  | nil => simp [prunedFields]
  | cons f fields ih =>
    obtain ⟨k, value⟩ := f
    by_cases hnull : value = null
    · subst hnull
      rw [prunedFields, ih]
      constructor
      · rintro ⟨d, hm, hd⟩
        exact ⟨d, by simp [hm], hd⟩
      · rintro ⟨d, hm, hne, heq⟩
        have hm : (key, d) ∈ fields := by simpa [hne] using hm
        exact ⟨d, hm, hne, heq⟩
    · rw [prunedFields_cons_of_ne hnull, List.mem_cons, ih]
      constructor
      · rintro (heq | ⟨d, hm, hd⟩)
        · obtain ⟨rfl, rfl⟩ := Prod.mk.inj heq
          exact ⟨value, by simp, hnull, rfl⟩
        · exact ⟨d, by simp [hm], hd⟩
      · rintro ⟨d, hm, hne, rfl⟩
        rcases List.mem_cons.mp hm with heq | hm
        · obtain ⟨rfl, rfl⟩ := Prod.mk.inj heq
          exact .inl rfl
        · exact .inr ⟨d, hm, hne, rfl⟩

/-- Where keys are distinct, a look-up finds what was there, unless that was null. -/
lemma lookup_prunedFields {fields : List (String × Document)} (h : NamesDistinct fields)
    (key : String) : (prunedFields fields).lookup key
      = ((fields.lookup key).bind present?).map pruned := by
  induction fields with
  | nil => rfl
  | cons f fields ih =>
    obtain ⟨k, value⟩ := f
    have ih := ih h.tail
    rw [List.lookup_cons]
    by_cases hk : key = k
    · subst hk
      have absent : fields.lookup key = none := by
        rw [List.lookup_eq_none_iff]
        intro f hf
        have hne : f.1 ≠ key := by
          intro heq
          exact (List.nodup_cons.mp h).1 (List.mem_map.mpr ⟨f, hf, heq⟩)
        exact bne_iff_ne.mpr hne.symm
      by_cases hnull : value = null
      · subst hnull
        rw [prunedFields, ih, absent]
        simp [present?]
      · have hp : value.present? = some value := present?_eq_some.mpr ⟨rfl, hnull⟩
        rw [prunedFields_cons_of_ne hnull, List.lookup_cons]
        simp [hp]
    · have hbeq : (key == k) = false := beq_false_of_ne hk
      rw [hbeq, ← ih]
      by_cases hnull : value = null
      · subst hnull
        rw [prunedFields]
      · rw [prunedFields_cons_of_ne hnull, List.lookup_cons, hbeq]

lemma get?_pruned {d : Document} (h : d.KeysDistinct) (key : String) :
    (d.pruned.get? key).bind present? = ((d.get? key).bind present?).map pruned := by
  cases d with
  | object fields =>
    show ((prunedFields fields).lookup key).bind present? = ((fields.lookup key).bind present?).map pruned
    rw [lookup_prunedFields h.1]
    cases hl : (fields.lookup key).bind present? with
    | none => rfl
    | some e =>
      obtain ⟨d, -, hd⟩ := Option.bind_eq_some_iff.mp hl
      obtain ⟨rfl, hne⟩ := present?_eq_some.mp hd
      simp [hd]
  | _ => rfl

lemma getAt?_pruned (d : Document) (i : Int) :
    (d.pruned.getAt? i).bind present? = ((d.getAt? i).bind present?).map pruned := by
  cases d with
  | array items =>
    have hget : ∀ items : List Document,
        (array items).getAt? i = if i < 0 then none else items[i.toNat]? := fun _ => rfl
    rw [pruned, prunedItems_eq_map, hget, hget]
    by_cases hi : i < 0
    · simp [hi]
    · rw [if_neg hi, if_neg hi, List.getElem?_map]
      cases items[i.toNat]? <;> simp
  | _ => rfl

lemma size_pruned_array {d : Document} (h : d.isArray = true) : d.pruned.size = d.size := by
  cases d with
  | array items => simp [pruned, size, prunedItems_eq_map]
  | _ => cases h

/-- The keys that are left are all if none of them had a null. -/
lemma keys_pruned {d : Document} (h : ∀ fields, d = object fields → ∀ f ∈ fields, f.2 ≠ null) :
    d.pruned.keys = d.keys := by
  cases d with
  | object fields =>
    have hnone := h fields rfl
    show (prunedFields fields).map Prod.fst = fields.map Prod.fst
    clear h
    induction fields with
    | nil => rfl
    | cons f fields ih =>
      rw [prunedFields_cons_of_ne (hnone f (by simp)), List.map_cons, List.map_cons,
        ih fun g hg => hnone g (by simp [hg])]
  | _ => rfl

section texts

lemma isSome_cons {α β : Type} (g : α → β) (x : Option α) (y : Option (List β)) :
    (do return g (← x) :: (← y) : Option (List β)).isSome = (x.isSome && y.isSome) := by
  cases x <;> cases y <;> rfl

mutual

lemma isSome_json?_pruned : ∀ d : Document, d.pruned.json?.isSome = d.json?.isSome
  | array items => by simp only [pruned, json?, Option.isSome_map, isSome_jsonItems?_pruned items]
  | object fields => by simp only [pruned, json?, Option.isSome_map, isSome_jsonFields?_pruned fields]
  | null => rfl
  | bool _ => rfl
  | int _ => rfl
  | float _ => rfl
  | text _ => rfl
  | date _ => rfl
  | time _ => rfl
  | moment _ => rfl

lemma isSome_jsonItems?_pruned : ∀ items : List Document,
    (jsonItems? (prunedItems items)).isSome = (jsonItems? items).isSome
  | [] => rfl
  | item :: items => by
    rw [prunedItems, jsonItems?, jsonItems?, isSome_cons, isSome_cons, isSome_json?_pruned item,
      isSome_jsonItems?_pruned items]

lemma isSome_jsonFields?_pruned : ∀ fields : List (String × Document),
    (jsonFields? (prunedFields fields)).isSome = (jsonFields? fields).isSome
  | [] => rfl
  | (key, value) :: fields => by
    have rest := isSome_jsonFields?_pruned fields
    by_cases hnull : value = null
    · rw [hnull, prunedFields, jsonFields?, isSome_cons, json?, Option.isSome_some, Bool.true_and, rest]
    · rw [prunedFields_cons_of_ne hnull, jsonFields?, jsonFields?, isSome_cons, isSome_cons,
        isSome_json?_pruned value, rest]

end

mutual

lemma isSome_literal?_pruned : ∀ d : Document, d.pruned.literal?.isSome = d.literal?.isSome
  | array items => by simp only [pruned, literal?, Option.isSome_map, isSome_literalItems?_pruned items]
  | object fields => by simp only [pruned, literal?, Option.isSome_map, isSome_literalFields?_pruned fields]
  | null => rfl
  | bool _ => rfl
  | int _ => rfl
  | float _ => rfl
  | text _ => rfl
  | date _ => rfl
  | time _ => rfl
  | moment _ => rfl

lemma isSome_literalItems?_pruned : ∀ items : List Document,
    (literalItems? (prunedItems items)).isSome = (literalItems? items).isSome
  | [] => rfl
  | item :: items => by
    rw [prunedItems, literalItems?, literalItems?, isSome_cons, isSome_cons, isSome_literal?_pruned item,
      isSome_literalItems?_pruned items]

lemma isSome_literalFields?_pruned : ∀ fields : List (String × Document),
    (literalFields? (prunedFields fields)).isSome = (literalFields? fields).isSome
  | [] => rfl
  | (key, value) :: fields => by
    have rest := isSome_literalFields?_pruned fields
    by_cases hnull : value = null
    · rw [hnull, prunedFields, literalFields?, isSome_cons, literal?, Option.isSome_some, Bool.true_and, rest]
    · rw [prunedFields_cons_of_ne hnull, literalFields?, literalFields?, isSome_cons, isSome_cons,
        isSome_literal?_pruned value, rest]

end

/-- A null has a text of its own, so a value without nulls can be written if the value can. -/
lemma isSome_rawText?_pruned (d : Document) :
    (rawText? (some d.pruned)).isSome = (rawText? (some d)).isSome := by
  have either : ∀ x y : Option String, (x.orElse fun _ => y).isSome = (x.isSome || y.isSome) := by
    intro x y
    cases x <;> rfl
  cases d with
  | array items =>
    show ((json? (pruned (array items))).orElse fun _ => literal? (pruned (array items))).isSome
      = ((json? (array items)).orElse fun _ => literal? (array items)).isSome
    rw [either, either, isSome_json?_pruned, isSome_literal?_pruned]
  | object fields =>
    show ((json? (pruned (object fields))).orElse fun _ => literal? (pruned (object fields))).isSome
      = ((json? (object fields)).orElse fun _ => literal? (object fields)).isSome
    rw [either, either, isSome_json?_pruned, isSome_literal?_pruned]
  | _ => rfl

end texts

end Document
end PlannerConfig
