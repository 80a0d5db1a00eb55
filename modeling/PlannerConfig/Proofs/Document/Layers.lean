import PlannerConfig.Proofs.Document.Merge

/-!
Layers of documents. What stands at a place of the merged document is decided by the last layer that
has a say there: one with a value at the place, or with a value on the way to it that has no fields.
-/
namespace PlannerConfig.Document

/-- The value that a path of keys leads to. A null is a value here. -/
def find? : List String → Document → Option Document
  | [], d => some d
  | key :: path, d => (d.get? key).bind (find? path)

/-- Whether a document has a say in what is at a path: it has a value there, or on the way there a
value that is no object. -/
def settles : List String → Document → Bool
  | [], _ => true
  | key :: path, object fields => (fields.lookup key).any (settles path)
  | _ :: _, _ => true

@[simp] lemma find?_nil (d : Document) : d.find? [] = some d := rfl

@[simp] lemma find?_cons (key : String) (path : List String) (d : Document) :
    d.find? (key :: path) = (d.get? key).bind (find? path) := rfl

variable {path : List String} {d v : Document}

lemma settles_eq_false_iff : d.settles path = false ↔ d.find? path = none
    ∧ ∀ q w, q <+: path → q ≠ path → d.find? q = some w → w.isObject = true := by
  induction path generalizing d with
  | nil => simp [settles]
  | cons key path ih =>
    cases d with
    | object fields =>
      cases hkey : fields.lookup key with
      | none =>
        refine iff_of_true (by simp [settles, hkey]) ⟨by simp [get?, hkey], ?_⟩
        rintro (_ | ⟨k, q⟩) w hq - hw
        · rw [← Option.some.inj hw]
          rfl
        · obtain ⟨rfl, -⟩ := List.cons_prefix_cons.mp hq
          simp [get?, hkey] at hw
      | some e =>
        have below : ∀ q, (object fields).find? (key :: q) = e.find? q := fun q => by
          rw [find?_cons, get?, hkey, Option.bind_some]
        rw [settles, hkey, Option.any_some, ih, below]
        refine and_congr_right fun _ => ⟨fun h q w hq hne hw => ?_, fun h q w hq hne hw => ?_⟩
        · cases q with
          | nil =>
            rw [← Option.some.inj hw]
            rfl
          | cons k q =>
            obtain ⟨rfl, hrest⟩ := List.cons_prefix_cons.mp hq
            rw [below] at hw
            exact h q w hrest (fun heq => hne (by rw [heq])) hw
        · exact h (key :: q) w (List.cons_prefix_cons.mpr ⟨rfl, hq⟩)
            (fun heq => hne (List.cons.inj heq).2) ((below q).trans hw)
    | _ =>
      refine iff_of_false (by simp [settles]) fun h => ?_
      exact absurd (h.2 [] _ List.nil_prefix (by simp) rfl) (by simp [isObject])

/-- One document over another: at a place the upper one decides if it has a say there, and else the
lower one. -/
theorem find?_layOver_eq_some_iff {layer : Document} (h : layer.KeysDistinct)
    (hv : v.isObject = false) (below : Option Document) :
    (layOver below layer).find? path = some v
      ↔ layer.find? path = some v
        ∨ layer.settles path = false ∧ below.bind (find? path) = some v := by
  induction path generalizing layer below with
  | nil =>
    simp only [find?_nil, settles, Bool.true_eq_false, false_and, or_false, Option.some.injEq]
    constructor
    · intro heq
      have hlayer : layer.isObject = false := by rw [← isObject_layOver below, heq, hv]
      rwa [layOver_of_isObject_eq_false hlayer] at heq
    · rintro rfl
      exact layOver_of_isObject_eq_false hv below
  | cons key path ih =>
    cases layer with
    | object fields =>
      cases below with
      | none => simp [layOver]
      | some b =>
        cases b with
        | object base =>
          simp only [layOver, find?_cons, get?, lookup_mergeFields h.1, settles, Option.bind_some]
          cases hkey : fields.lookup key with
          | none => simp
          | some e =>
            have he : e.KeysDistinct := h.2.of_mem (mem_of_lookup hkey)
            simp only [Option.elim_some, Option.bind_some, Option.any_some, ih he]
        | _ => simp [layOver, get?]
    | _ =>
      rw [layOver_of_isObject_eq_false rfl]
      simp [settles]

lemma mergeAll_concat (layers : List Document) (layer : Document) :
    mergeAll (layers ++ [layer]) = layOver (some (mergeAll layers)) layer :=
  List.foldl_concat ..

/-- What is no object at a path of the merged document comes from a layer that has it there, and no
later layer has a value at the path or, on the way there, one that is no object. -/
theorem find?_mergeAll_eq_some_iff (layers : List Document) (h : ∀ l ∈ layers, l.KeysDistinct)
    (path : List String) (hpath : path ≠ []) (v : Document) (hv : v.isObject = false) :
    (mergeAll layers).find? path = some v ↔ ∃ before layer after,
      layers = before ++ layer :: after ∧ layer.find? path = some v
        ∧ ∀ later ∈ after, later.find? path = none
          ∧ ∀ q w, q <+: path → q ≠ path → later.find? q = some w → w.isObject = true := by
  simp only [← settles_eq_false_iff]
  induction layers using List.reverseRecOn with
  | nil =>
    obtain ⟨key, path, rfl⟩ := List.exists_cons_of_ne_nil hpath
    simp [mergeAll, get?]
  | append_singleton layers layer ih =>
    rw [mergeAll_concat, find?_layOver_eq_some_iff (h layer (by simp)) hv, Option.bind_some,
      ih fun l hl => h l (by simp [hl])]
    constructor
    · rintro (hlayer | ⟨hsilent, before, l, after, rfl, hl, hafter⟩)
      · exact ⟨layers, layer, [], rfl, hlayer, by simp⟩
      · refine ⟨before, l, after ++ [layer], by simp, hl, fun later hlater => ?_⟩
        rcases List.mem_append.mp hlater with hlater | hlater
        · exact hafter later hlater
        · rwa [List.mem_singleton.mp hlater]
    · rintro ⟨before, l, after, heq, hl, hafter⟩
      -- the last layer is either the one that decides or one of those after it
      rcases List.eq_nil_or_concat after with rfl | ⟨after, last, rfl⟩
      · obtain ⟨-, rfl⟩ := List.append_inj' heq rfl |>.imp_right List.singleton_inj.mp
        exact .inl hl
      · rw [List.concat_eq_append, ← List.cons_append, ← List.append_assoc] at heq
        obtain ⟨rfl, hlast⟩ := List.append_inj' heq rfl
        obtain rfl := List.singleton_inj.mp hlast
        exact .inr ⟨hafter layer (by simp), before, l, after, rfl, hl,
          fun later hlater => hafter later (by simp [hlater])⟩

/-- A group is taken away by a null and comes back with a new value, which a later layer keeps. -/
theorem find?_mergeAll_eq_some_iff_reappearing :
    let speed (n : Int) : Document := .object [("walk", .object [("speed", .int n)])]
    let layers := [speed 1, .object [("walk", .null)], speed 2,
      .object [("walk", .object [("cost", .int 3)])]]
    (∀ l ∈ layers, l.KeysDistinct) ∧ ["walk", "speed"] ≠ [] ∧ (Document.int 2).isObject = false
      ∧ (mergeAll layers).find? ["walk", "speed"] = some (.int 2) := by
  intro speed layers
  have hdistinct : ∀ l ∈ layers, l.KeysDistinct := by
    simp [layers, speed, KeysDistinct, KeysDistinctFields, NamesDistinct]
  refine ⟨hdistinct, by simp, rfl, ?_⟩
  apply (find?_mergeAll_eq_some_iff layers hdistinct _ (by simp) _ rfl).mpr
  refine ⟨[speed 1, .object [("walk", .null)]], speed 2, _, rfl, rfl, fun later hlater => ?_⟩
  rw [← settles_eq_false_iff, List.mem_singleton.mp hlater]
  decide

end PlannerConfig.Document
