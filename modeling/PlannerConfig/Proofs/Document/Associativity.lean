import PlannerConfig.Proofs.Document.Layers

/-!
Layers that are merged beforehand. Documents may be laid over one another from either end, the order of
keys included, unless a layer takes an object away that a later one brings back: the later one, merged with
the layer below it, no longer shows that the object was away.
-/
namespace PlannerConfig

/-- Fields are known by their names in order and by what stands under each. -/
lemma NamesDistinct.ext {α : Type} {fields others : List (String × α)} (h : NamesDistinct fields)
    (hnames : fields.map Prod.fst = others.map Prod.fst)
    (hlookup : ∀ name, fields.lookup name = others.lookup name) : fields = others := by
  induction fields generalizing others with
  | nil => exact (List.map_eq_nil_iff.mp hnames.symm).symm
  | cons f fields ih =>
    have distinct : NamesDistinct others := by
      unfold NamesDistinct
      rw [← hnames]
      exact h
    cases others with
    | nil => cases hnames
    | cons g others =>
      obtain ⟨name, value⟩ := f
      obtain ⟨other, theirs⟩ := g
      obtain ⟨rfl, hrest⟩ : name = other ∧ fields.map Prod.fst = others.map Prod.fst := by
        simpa using hnames
      obtain rfl : value = theirs := by simpa using hlookup name
      have rest : fields = others := by
        apply ih h.tail hrest
        intro key
        by_cases hkey : key = name
        · rw [hkey, lookup_eq_none_of_cons h, lookup_eq_none_of_cons distinct]
        · simpa [List.lookup_cons, beq_false_of_ne hkey] using hlookup key
      rw [rest]

namespace Document

mutual

/-- Induction on the objects of a document. -/
theorem induction {P : Document → Prop} (value : ∀ d, d.isObject = false → P d)
    (fields : ∀ fields, (∀ f ∈ fields, P f.2) → P (object fields)) : ∀ d, P d
  | object fs => fields fs (induction_fields value fields fs)
  | null => value _ rfl
  | bool _ => value _ rfl
  | int _ => value _ rfl
  | float _ => value _ rfl
  | text _ => value _ rfl
  | date _ => value _ rfl
  | time _ => value _ rfl
  | moment _ => value _ rfl
  | array _ => value _ rfl

theorem induction_fields {P : Document → Prop} (value : ∀ d, d.isObject = false → P d)
    (fields : ∀ fields, (∀ f ∈ fields, P f.2) → P (object fields)) :
    ∀ fs : List (String × Document), ∀ f ∈ fs, P f.2
  | [] => fun _ h => absurd h List.not_mem_nil
  | (_, d) :: rest => fun f h => by
    rcases List.mem_cons.mp h with rfl | h
    · exact induction value fields d
    · exact induction_fields value fields rest f h

end

variable {a b c : List (String × Document)}

lemma namesDistinct_mergeFields (ha : NamesDistinct a) (b : List (String × Document)) :
    NamesDistinct (mergeFields a b) := by
  induction b generalizing a with
  | nil => simpa [mergeFields] using ha
  | cons f b ih =>
    rw [mergeFields]
    exact ih ha.setField

/-- The keys of three objects do not depend on which two are merged first. -/
lemma keys_mergeFields_assoc (hb : NamesDistinct b) (hc : NamesDistinct c) :
    (mergeFields (mergeFields a b) c).map Prod.fst = (mergeFields a (mergeFields b c)).map Prod.fst := by
  rw [keys_mergeFields hc, keys_mergeFields hb,
    keys_mergeFields (namesDistinct_mergeFields hb c), keys_mergeFields hc, List.filter_append,
    List.filter_filter, List.append_assoc]
  congr 2
  apply List.filter_congr
  intro key _
  by_cases ha : key ∈ a.map Prod.fst <;> simp_all

lemma mergeFields_assoc (ha : NamesDistinct a) (hb : NamesDistinct b) (hc : NamesDistinct c)
    (h : ∀ key y z, b.lookup key = some y → c.lookup key = some z →
      layOver (some (layOver (a.lookup key) y)) z = layOver (a.lookup key) (layOver (some y) z)) :
    mergeFields (mergeFields a b) c = mergeFields a (mergeFields b c) := by
  apply (namesDistinct_mergeFields (namesDistinct_mergeFields ha b) c).ext
    (keys_mergeFields_assoc hb hc)
  intro key
  rw [lookup_mergeFields hc, lookup_mergeFields hb,
    lookup_mergeFields (namesDistinct_mergeFields hb c), lookup_mergeFields hc]
  cases hz : c.lookup key with
  | none => rfl
  | some z =>
    cases hy : b.lookup key with
    | none => simp [layOver]
    | some y => simpa using h key y z hy hz

lemma layOver_of_below {below : Option Document} (h : below.any isObject = false) (d : Document) :
    layOver below d = d := by
  rcases below with _ | (_ | _ | _ | _ | _ | _ | _ | _ | _ | _)
  case some.object => cases h
  all_goals cases d <;> rfl

/-- What is laid over a value may be merged with it first, if it brings back no object that the value has
taken away. -/
lemma layOver_assoc {z : Document} (below : Option Document) (y : Document)
    (hx : ∀ d, below = some d → d.KeysDistinct) (hy : y.KeysDistinct) (hz : z.KeysDistinct)
    (h : ∀ path u v w, below.bind (find? path) = some u → y.find? path = some v →
      z.find? path = some w → u.isObject = true → w.isObject = true → v.isObject = true) :
    layOver (some (layOver below y)) z = layOver below (layOver (some y) z) := by
  induction z using induction generalizing below y with
  | value z hvalue => simp only [layOver_of_isObject_eq_false hvalue]
  | fields cs ih =>
    cases hbelow : below.any isObject with
    | false => simp only [layOver_of_below hbelow]
    | true =>
      obtain ⟨x, rfl, hobject⟩ := (Option.any_eq_true _ _).mp hbelow
      have kept : y.isObject = true := h [] x y _ rfl rfl rfl hobject rfl
      cases x with
      | object as =>
        cases y with
        | object bs =>
          have dx := hx _ rfl
          simp only [layOver]
          congr 1
          apply mergeFields_assoc dx.1 hy.1 hz.1
          intro key y z hbs hcs
          apply ih (key, z) (mem_of_lookup hcs)
          · intro d hd
            exact dx.2.of_mem (mem_of_lookup hd)
          · exact hy.2.of_mem (mem_of_lookup hbs)
          · exact hz.2.of_mem (mem_of_lookup hcs)
          · intro path u v w hu hv hw
            apply h (key :: path) u v w
            · simpa [get?] using hu
            · simpa [get?, hbs] using hv
            · simpa [get?, hcs] using hw
        | _ => cases kept
      | _ => cases hobject

/-- Two layers may be merged beforehand, unless at some path there is an object in the document and in
the upper layer and a value that is no object in the layer between. -/
theorem merge_assoc (a b c : Document) (ha : a.KeysDistinct) (hb : b.KeysDistinct)
    (hc : c.KeysDistinct)
    (h : ∀ path x y z, a.find? path = some x → b.find? path = some y → c.find? path = some z →
      x.isObject = true → z.isObject = true → y.isObject = true) :
    (a.merge b).merge c = a.merge (b.merge c) := by
  apply layOver_assoc (some a) b _ hb hc h
  rintro d ⟨rfl⟩
  exact ha

/-- Three layers that name the same group and give it keys of their own. -/
theorem merge_assoc_shared_group :
    let a : Document := .object [("walk", .object [("speed", .int 1)]), ("bus", .null)]
    let b : Document := .object [("walk", .object [("cost", .int 2)])]
    let c : Document := .object [("tram", .int 4), ("walk", .object [("speed", .int 3)])]
    (a.KeysDistinct ∧ b.KeysDistinct ∧ c.KeysDistinct) ∧
      (a.merge b).merge c = a.merge (b.merge c) := by
  intro a b c
  have ha : a.KeysDistinct := by simp [a, KeysDistinct, KeysDistinctFields, NamesDistinct]
  have hb : b.KeysDistinct := by simp [b, KeysDistinct, KeysDistinctFields, NamesDistinct]
  have hc : c.KeysDistinct := by simp [c, KeysDistinct, KeysDistinctFields, NamesDistinct]
  refine ⟨⟨ha, hb, hc⟩, merge_assoc a b c ha hb hc ?_⟩
  intro path x y z hx hy _ _ _
  rcases path with _ | ⟨key, _ | ⟨next, rest⟩⟩
  · cases hy
    rfl
  · by_cases hkey : key = "walk"
    · subst hkey
      cases hy
      rfl
    · simp [b, get?, List.lookup_cons, beq_false_of_ne hkey] at hy
  · by_cases hkey : key = "walk"
    · subst hkey
      by_cases hnext : next = "cost"
      · subst hnext
        simp [a, get?, List.lookup_cons] at hx
      · simp [b, get?, List.lookup_cons, beq_false_of_ne hnext] at hy
    · simp [b, get?, List.lookup_cons, beq_false_of_ne hkey] at hy

end Document
end PlannerConfig
