import PlannerConfig.Proofs.Document.Pruned
import PlannerConfig.Proofs.Form.Correspondence

/-!
Reading a document with nulls and reading it without them. A key that a form names may as well be
missing as have a null. Where the keys themselves are read, in maps and in objects with free keys, a
null is a value that is refused, and an object that has nothing but nulls is not empty.
-/
namespace PlannerConfig

/-- A failure without the text of the value that was found. -/
def Failure.bare : Failure → Failure
  | mismatch path expected _ reason => mismatch path expected "" reason
  | f => f

/-- Failures of one kind, at one place and for one reason. -/
def Failure.Same (f g : Failure) : Prop := f.bare = g.bare

lemma Failure.same_ofMismatch (path : Path) (expected : String) (d : Document) (reason : String) :
    (ofMismatch path expected (some d) reason).Same
      (ofMismatch path expected (some d.pruned) reason) := by
  have writable := Document.isSome_rawText?_pruned d
  unfold ofMismatch Same
  cases hraw : Document.rawText? (some d) <;> cases hpruned : Document.rawText? (some d.pruned) <;>
    simp [hraw, hpruned] at writable
  · rfl
  · rfl

namespace Kind

variable {α κ : Type}

/-- Whether nulls inside a value make no difference to its coercion. -/
def IgnoresNulls (k : Kind α) : Prop := ∀ d : Document, k.coerce (some d.pruned) = k.coerce (some d)

/-- Whether having no value is no value. -/
def RefusesNull (k : Kind α) : Prop := ∀ a, k.coerce none ≠ .ok a

lemma string_pruned (d : Document) :
    Coercion.string (some d.pruned) = Coercion.string (some d) := by cases d <;> rfl

lemma strings_pruned (d : Document) :
    Coercion.strings (some d.pruned) = Coercion.strings (some d) := by
  cases d with
  | array items =>
    show (Document.prunedItems items).mapM (fun item => Coercion.string (some item)) = _
    rw [Document.prunedItems_eq_map, List.mapM_map]
    show items.mapM (fun item => Coercion.string (some item.pruned)) = _
    simp only [string_pruned]
    rfl
  | _ => rfl

lemma parsed_pruned (parse : String → Except Refusal α) (d : Document) :
    Coercion.parsed parse (some d.pruned) = Coercion.parsed parse (some d) := by
  unfold Coercion.parsed
  rw [string_pruned]

lemma allParsed_pruned (parse : String → Except Refusal α) (d : Document) :
    Coercion.allParsed parse (some d.pruned) = Coercion.allParsed parse (some d) := by
  unfold Coercion.allParsed
  rw [strings_pruned]

lemma ignoresNulls_boolean : boolean.IgnoresNulls := fun d => by cases d <;> rfl

lemma ignoresNulls_integer : integer.IgnoresNulls := fun d => by cases d <;> rfl

lemma ignoresNulls_double : double.IgnoresNulls := fun d => by cases d <;> rfl

lemma ignoresNulls_string : string.IgnoresNulls := string_pruned

lemma ignoresNulls_duration : duration.IgnoresNulls := fun d => by cases d <;> rfl

lemma ignoresNulls_linearFunction : linearFunction.IgnoresNulls := parsed_pruned _

lemma ignoresNulls_locale : locale.IgnoresNulls := parsed_pruned _

lemma ignoresNulls_custom (hint : String) (parse : String → Except Refusal α)
    (toValue : α → Value) : (custom hint parse toValue).IgnoresNulls := parsed_pruned _

lemma ignoresNulls_stringSet : stringSet.IgnoresNulls := by
  intro d
  show (do return TextSet.ofList (← Coercion.strings (some d.pruned))) = _
  rw [strings_pruned]
  rfl

lemma ignoresNulls_feedScopedIds : feedScopedIds.IgnoresNulls := allParsed_pruned _

lemma ignoresNulls_choice (κ : Type) [Choice κ] : (choice κ).IgnoresNulls := fun d => by cases d <;> rfl

lemma IgnoresNulls.optional {k : Kind α} (h : k.IgnoresNulls) : k.optional.IgnoresNulls := by
  intro d
  show (do return some (← k.coerce (some d.pruned))) = _
  rw [h d]
  rfl

end Kind

namespace Node

/-- Whether no key of an object has a null. -/
def NoNulls (n : Node) : Prop :=
  ∀ fields, n.value = some (.object fields) → ∀ f ∈ fields, f.2 ≠ .null

/-- Whether an object that has keys has a value under one of them. -/
def NotAllNull (n : Node) : Prop :=
  ∀ fields, n.value = some (.object fields) → fields ≠ [] → ∃ f ∈ fields, f.2 ≠ .null

/-- A node whose value is that of another without nulls. -/
structure Prunes (n m : Node) : Prop where
  value : m.value = n.value.map Document.pruned
  path : m.path = n.path
  distinct : n.KeysDistinct

variable {α : Type} {n m : Node}

lemma value_child_of_mem (h : n.KeysDistinct) {fields : List (String × Document)}
    (hn : n.value = some (.object fields)) {k : String} {d : Document} (hm : (k, d) ∈ fields) :
    (n.child k).value = d.present? := by
  have hl : fields.lookup k = some d := (h _ hn).1.lookup_of_mem hm
  simp [child, hn, Document.get?, hl]

lemma notAllNull_of_isEmpty (h : n.isEmpty = true) : n.NotAllNull := by
  intro fields hfields hne
  simp [isEmpty, isMissing, isObject, size, hfields, Document.isObject, Document.size, hne] at h

namespace Prunes

lemma child (h : n.Prunes m) (name : String) : (n.child name).Prunes (m.child name) where
  value := by
    cases hn : n.value with
    | none => simp [Node.child, h.value, hn]
    | some d => simp [Node.child, h.value, hn, Document.get?_pruned (h.distinct d hn)]
  path := by simp only [Node.child, h.path]
  distinct := h.distinct.child name

lemma childAt (h : n.Prunes m) (i : Int) : (n.childAt i).Prunes (m.childAt i) where
  value := by
    cases hn : n.value with
    | none => simp [Node.childAt, h.value, hn]
    | some d => simp [Node.childAt, h.value, hn, Document.getAt?_pruned]
  path := by simp only [Node.childAt, h.path]
  distinct := h.distinct.childAt i

lemma isMissing (h : n.Prunes m) : n.isMissing = m.isMissing := by
  rw [Node.isMissing, Node.isMissing, h.value, Option.isNone_map]

lemma isObject (h : n.Prunes m) : n.isObject = m.isObject := by
  rw [Node.isObject, Node.isObject, h.value]
  cases n.value <;> simp

lemma isArray (h : n.Prunes m) : n.isArray = m.isArray := by
  rw [Node.isArray, Node.isArray, h.value]
  cases n.value <;> simp

lemma looks (h : n.Prunes m) : n.Looks Failure.Same m where
  isMissing := h.isMissing
  isObject := h.isObject
  isArray := h.isArray
  missing := by rw [h.path, Failure.Same]
  mismatch expected reason := by
    rw [h.path, h.value]
    cases n.value with
    | none => rfl
    | some d => exact Failure.same_ofMismatch _ _ _ _
  fault _ := rfl

lemma coerces (h : n.Prunes m) {k : Kind α} (hk : k.IgnoresNulls) :
    n.Coerces Failure.Same k.coerce m :=
  { h.looks with
    coerce := by
      rw [h.value]
      cases n.value with
      | none => rfl
      | some d => exact (hk d).symm }

lemma keys (h : n.Prunes m) (hnulls : n.NoNulls) : n.keys = m.keys := by
  unfold Node.keys
  rw [h.value]
  cases hn : n.value with
  | none => rfl
  | some d =>
    have hkeys : d.pruned.keys = d.keys :=
      Document.keys_pruned fun fields hd => hnulls fields (by rw [hn, hd])
    simp [hkeys]

lemma mapsAlike (h : n.Prunes m) (hnulls : n.NoNulls) {k : Kind α} (hk : k.IgnoresNulls) :
    Parameter.MapsAlike Failure.Same k.coerce n m :=
  { h.looks with
    keys := h.keys hnulls
    entry := fun key _ => (h.child key).coerces hk
    notAMember := fun key _ expected raw reason => by rw [(h.child key).path, Failure.Same] }

lemma isEmpty (h : n.Prunes m) (hnulls : n.NotAllNull) : n.isEmpty = m.isEmpty := by
  unfold Node.isEmpty
  rw [h.isMissing]
  congr 1
  unfold Node.isObject Node.size
  rw [h.value]
  cases hn : n.value with
  | none => rfl
  | some d =>
    cases d with
    | object fields =>
      have same : fields = [] ↔ Document.prunedFields fields = [] := by
        constructor
        · rintro rfl
          rfl
        · intro hnil
          by_contra hne
          obtain ⟨⟨k, d⟩, hm, hd⟩ := hnulls fields hn hne
          have hleft := Document.mem_prunedFields.mpr ⟨d, hm, hd, rfl⟩
          simp [hnil] at hleft
      have sizes : fields.length = 0 ↔ (Document.prunedFields fields).length = 0 := by
        rw [List.length_eq_zero_iff, List.length_eq_zero_iff, same]
      rw [Bool.eq_iff_iff]
      simpa [Document.isObject, Document.size, Document.pruned] using sizes
    | _ => rfl

lemma elements (h : n.Prunes m) (harray : n.isArray = true) :
    List.Forall₂ Prunes n.elements m.elements := by
  have hsize : n.size = m.size := by
    unfold size
    rw [h.value]
    cases hn : n.value with
    | none => rfl
    | some d =>
      have hd : d.isArray = true := by simpa [Node.isArray, hn] using harray
      simp [Document.size_pruned_array hd]
  unfold Node.elements
  rw [hsize, List.forall₂_map_left_iff, List.forall₂_map_right_iff]
  exact List.forall₂_same.mpr fun i _ => h.childAt i

end Prunes
end Node

namespace Form

/-- Whether a form reads a parameter that must be there. -/
def demands {σ α : Type} : Form σ α → Bool
  | ap f x => f.demands || x.demands
  | zoom _ body => body.demands
  | required _ _ _ => true
  | _ => false

/-- Whether a form reads values in which nulls make no difference, maps that refuse nulls, and optional
groups that are nothing without a value. -/
def NullAware {σ α : Type} : Form σ α → Prop
  | ap f x => f.NullAware ∧ x.NullAware
  | zoom _ body => body.NullAware
  | scalar _ kind _ _ => kind.IgnoresNulls
  | required _ kind _ => kind.IgnoresNulls
  | enumMap _ _ kind _ _ => kind.IgnoresNulls ∧ kind.RefusesNull
  | eachKey kind _ => kind.IgnoresNulls
  | group _ body _ => body.NullAware
  | optionalGroup _ body _ => body.NullAware ∧ body.demands = true
  | list _ element _ _ => element.NullAware
  | _ => True

/-- Whether there is no null where a form reads the keys of an object. -/
def NullFree {σ α : Type} : Form σ α → Node → Prop
  | ap f x, n => f.NullFree n ∧ x.NullFree n
  | zoom _ body, n => body.NullFree n
  | enumMap name _ _ _ _, n => (n.child name).NoNulls
  | eachKey _ _, n => n.NoNulls
  | group name body _, n => body.NullFree (n.child name)
  | optionalGroup name body _, n =>
    (n.child name).NotAllNull ∧ ((n.child name).isEmpty = false → body.NullFree (n.child name))
  | list name element _ _, n =>
    (n.child name).isArray = true → ∀ m ∈ (n.child name).elements, element.NullFree m
  | _, _ => True

section applicative

variable {σ α β : Type} (n : Node)

@[simp] lemma nullFree_map (g : α → β) (x : Form σ α) :
    (g <$> x).NullFree n ↔ x.NullFree n := iff_of_eq (true_and _)

@[simp] lemma nullFree_seq (f : Form σ (α → β)) (x : Form σ α) :
    (f <*> x).NullFree n ↔ f.NullFree n ∧ x.NullFree n := Iff.rfl

@[simp] lemma nullFree_seqRight (x : Form σ α) (y : Form σ β) :
    (x *> y).NullFree n ↔ x.NullFree n ∧ y.NullFree n :=
  and_congr_left' (iff_of_eq (true_and _))

end applicative

variable {σ α : Type} {f : Form σ α} {n m : Node}

lemma corresponds_of_prunes (hf : f.NullAware) (h : n.Prunes m) (hnulls : f.NullFree n) :
    f.Corresponds Failure.Same n m := by
  induction f generalizing n m with
  | pure a => trivial
  | ap f x ihf ihx => exact ⟨ihf hf.1 h hnulls.1, ihx hf.2 h hnulls.2⟩
  | zoom get body ih => exact ih hf h hnulls
  | scalar name kind get note => exact (h.child name).coerces hf
  | required name kind note => exact (h.child name).coerces hf
  | enumMap name keys kind get note => exact (h.child name).mapsAlike hnulls hf.1
  | eachKey kind note => exact ⟨h.keys hnulls, fun key _ => (h.child key).coerces hf⟩
  | group name body note ih => exact ⟨(h.child name).looks, ih hf (h.child name) hnulls⟩
  | optionalGroup name body note ih =>
    have hempty := (h.child name).isEmpty hnulls.1
    refine ⟨(h.child name).looks, hempty, fun hm => ?_⟩
    exact ih hf.1 (h.child name) (hnulls.2 (hempty.trans hm))
  | list name element get note ih =>
    refine ⟨(h.child name).looks, fun harray => ?_⟩
    have harray := (h.child name).isArray.trans harray
    have hall := (h.child name).elements harray
    have hboth := (List.forall₂_and_left _ _).mpr ⟨hnulls harray, hall⟩
    exact hboth.imp fun x y hxy => ⟨hxy.2.looks, ih hf hxy.2 hxy.1⟩
  | tell event => trivial
  | retired name event => trivial

/-- Reading a document with nulls that are not where keys are read is reading it without any. -/
theorem alike_of_prunes (hf : f.NullAware) (h : n.Prunes m) (hnulls : f.NullFree n) (d : σ) :
    Alike Failure.Same (f.value d n) (f.value d m) :=
  (corresponds_of_prunes hf h hnulls).alike d

lemma exists_child_of_demands (hf : f.demands = true) {d : σ} {a : α} (h : f.value d n = .ok a) :
    ∃ name, (n.child name).isMissing = false := by
  induction f with
  | ap f x ihf ihx =>
    obtain ⟨g, b, hg, hb, -⟩ := value_ap_eq_ok.mp h
    rcases (Bool.or_eq_true _ _).mp hf with hf | hf
    · exact ihf hf hg
    · exact ihx hf hb
  | zoom get body ih => exact ih hf h
  | required name kind note =>
    refine ⟨name, ?_⟩
    rw [← Bool.not_eq_true]
    intro hmissing
    have hmissing : (n.parameter name note).node.isMissing = true := hmissing
    simp [value, Parameter.scalarValue, hmissing] at h
  | _ => cases hf

/-- A map that is read has no null, if having no value is refused. -/
lemma noNulls_of_mapValue {κ : Type} [BEq κ] {keys : Enumeration κ} {kind : Kind α} {note : Note}
    (hk : kind.RefusesNull) (hd : n.KeysDistinct) {o : Option (List (κ × α))}
    (h : Parameter.mapValue ⟨n, note⟩ keys kind = .ok o) : n.NoNulls := by
  intro fields hfields f hm hnull
  have hthere : n.isMissing = false := by simp [Node.isMissing, hfields]
  have hobject : n.isObject = true := by simp [Node.isObject, hfields, Document.isObject]
  simp only [Parameter.mapValue, hthere, hobject, Bool.false_eq_true, if_false, Bool.not_true] at h
  obtain ⟨entries, hentries, -⟩ := bind_eq_ok.mp h
  have hkey : f.1 ∈ n.keys := by simpa [Node.keys, hfields, Document.keys] using ⟨f.2, hm⟩
  obtain ⟨e, he⟩ := ok_of_mapM_ok hentries hkey
  unfold Node.entry at he
  cases hfind : keys.find? f.1 with
  | none => simp [hfind] at he
  | some k =>
    rw [hfind] at he
    obtain ⟨a, ha, -⟩ := bind_eq_ok.mp he
    have hvalue : (n.child f.1).value = none := by
      rw [Node.value_child_of_mem hd hfields hm, hnull]
      rfl
    rw [Node.coerced_eq_ok, hvalue] at ha
    exact hk a ha

/-- An object with free keys that is read has no null. -/
lemma noNulls_of_eachKey {kind : Kind α} {note : String → Note} (hd : n.KeysDistinct) {d : σ}
    {values : List (String × α)} (h : (eachKey kind note).value d n = .ok values) : n.NoNulls := by
  intro fields hfields f hm hnull
  have hkey : f.1 ∈ n.keys := by simpa [Node.keys, hfields, Document.keys] using ⟨f.2, hm⟩
  obtain ⟨e, he⟩ := ok_of_mapM_ok h hkey
  obtain ⟨a, ha, -⟩ := bind_eq_ok.mp he
  have hmissing : (n.parameter f.1 (note f.1)).node.isMissing = true := by
    rw [Node.isMissing, Node.parameter, Node.value_child_of_mem hd hfields hm, hnull]
    rfl
  simp [Parameter.scalarValue, hmissing] at ha

/-- What a form demands is there when it is read. -/
lemma notAllNull_of_value (hf : f.demands = true) {d : σ} {a : α} (h : f.value d n = .ok a) :
    n.NotAllNull := by
  intro fields hfields _
  obtain ⟨k, hk⟩ := exists_child_of_demands hf h
  obtain ⟨e, he⟩ := Node.isMissing_eq_false_iff.mp hk
  obtain ⟨others, hothers, hmem, hne⟩ := Node.exists_field_of_child he
  obtain rfl : fields = others := by
    rw [hfields] at hothers
    simpa using hothers
  exact ⟨(k, e), hmem, hne⟩

/-- A reading that succeeds has met no null where keys are read. -/
theorem nullFree_of_value (hf : f.NullAware) (hd : n.KeysDistinct) {d : σ} {a : α}
    (h : f.value d n = .ok a) : f.NullFree n := by
  induction f generalizing n with
  | ap f x ihf ihx =>
    obtain ⟨g, b, hg, hb, -⟩ := value_ap_eq_ok.mp h
    exact ⟨ihf hf.1 hd hg, ihx hf.2 hd hb⟩
  | zoom get body ih => exact ih hf hd h
  | enumMap name keys kind get note =>
    obtain ⟨entries, hentries, -⟩ := bind_eq_ok.mp h
    exact noNulls_of_mapValue hf.2 (hd.child name) hentries
  | eachKey kind note => exact noNulls_of_eachKey hd h
  | group name body note ih => exact ih hf (hd.child name) (value_group_eq_ok.mp h).2
  | optionalGroup name body note ih =>
    obtain ⟨-, hbody⟩ := of_value_optionalGroup h
    cases hempty : (n.child name).isEmpty with
    | true => exact ⟨Node.notAllNull_of_isEmpty hempty, fun hfilled => by simp [hempty] at hfilled⟩
    | false =>
      obtain ⟨b, hb⟩ := hbody hempty
      exact ⟨notAllNull_of_value hf.2 hb, fun _ => ih hf.1 (hd.child name) hb⟩
  | list name element get note ih =>
    obtain ⟨-, helements⟩ := of_value_list h
    intro _ m hm
    obtain ⟨-, b, hb⟩ := helements m hm
    obtain ⟨i, -, rfl⟩ := List.mem_map.mp hm
    exact ih hf ((hd.child name).childAt i) hb
  | _ => trivial

/-- A reading succeeds if it meets no null where keys are read and succeeds without any nulls. -/
theorem exists_value_iff_of_prunes (hf : f.NullAware) (h : n.Prunes m) (d : σ) :
    (∃ a, f.value d n = .ok a) ↔ f.NullFree n ∧ ∃ a, f.value d m = .ok a := by
  constructor
  · rintro ⟨a, ha⟩
    have hnulls := nullFree_of_value hf h.distinct ha
    exact ⟨hnulls, a, (alike_of_prunes hf h hnulls d).ok_iff.mp ha⟩
  · rintro ⟨hnulls, a, ha⟩
    exact ⟨a, (alike_of_prunes hf h hnulls d).ok_iff.mpr ha⟩

end Form
end PlannerConfig
