import PlannerConfig.Proofs.Form.Coverage

/-!
Slots: the parts of a value that a form fills, each from one path of a document. A form without lists
and without keys of the document's own is read slot by slot: it gives a value exactly if there are
objects where it opens groups and each slot can be read by itself, and the value is put together from
what the slots hold.
-/
namespace PlannerConfig

namespace Document

/-- The value at the end of a path, if there is one. -/
def valueAt : List String → Document → Option Document
  | [], d => d.present?
  | name :: path, d => (d.get? name).bind (valueAt path)

lemma valueAt_concat (d : Document) (path : List String) (name : String) :
    d.valueAt (path ++ [name]) = ((d.valueAt path).bind (get? name)).bind present? := by
  induction path generalizing d with
  | nil => cases d <;> rfl
  | cons k path ih =>
    rw [List.cons_append, valueAt, valueAt, Option.bind_assoc, Option.bind_assoc]
    congr 1
    funext e
    rw [ih, Option.bind_assoc]

lemma valueAt_append (d : Document) (path more : List String) :
    d.valueAt (path ++ more) = (d.valueAt path).bind (valueAt more) := by
  induction path generalizing d with
  | nil =>
    cases d with
    | null => cases more <;> rfl
    | _ => rfl
  | cons k path ih =>
    rw [List.cons_append, valueAt, valueAt, Option.bind_assoc]
    congr 1
    funext e
    exact ih e

/-- The order of the keys of an object does not matter beneath it. -/
lemma valueAt_of_perm {fields others : List (String × Document)} (hd : NamesDistinct fields)
    (h : fields.Perm others) {path : List String} (hp : path ≠ []) :
    (object fields).valueAt path = (object others).valueAt path := by
  have hd' : NamesDistinct others := (h.map Prod.fst).nodup_iff.mp hd
  obtain ⟨name, rest, rfl⟩ := List.exists_cons_of_ne_nil hp
  have same : fields.lookup name = others.lookup name := by
    ext value
    constructor
    · intro hv
      exact hd'.lookup_of_mem (h.subset (mem_of_lookup hv))
    · intro hv
      exact hd.lookup_of_mem (h.symm.subset (mem_of_lookup hv))
  show (fields.lookup name).bind _ = (others.lookup name).bind _
  rw [same]

/-- The entry under a key, if the key spells a member and the value fits. -/
def entry? {κ α : Type} (keys : Enumeration κ) (kind : Kind α) (d : Document) (key : String) :
    Option (κ × α) := do
  return (← keys.find? key, ← (kind.coerce ((d.get? key).bind present?)).toOption)

/-- The entries of an object, if there is one under each key. -/
def entries? {κ α : Type} [BEq κ] (keys : Enumeration κ) (kind : Kind α) (d : Document) :
    Option (List (κ × α)) :=
  if d.isObject then do
    let read ← d.keys.mapM (d.entry? keys kind)
    return read.foldl (fun map (k, a) => setField k a map) []
  else none

end Document

lemma Node.value_child_concat {n : Node} {document : Document} {path : List String}
    (h : n.value = document.valueAt path) (name : String) :
    (n.child name).value = document.valueAt (path ++ [name]) := by
  rw [Document.valueAt_concat, ← h]
  rfl

/-- What a record says of the values that its parameter takes, the default itself apart. -/
structure ValueShape where
  type : ValueType
  enumType : Option EnumType := none
  detailType : Option String := none
  displayDefault : Option String := none

/-- A part of values of type `σ` that is filled from a path of a document. -/
structure Slot (σ : Type) : Type 1 where
  path : List String
  shape : ValueShape
  Content : Type
  /-- What the slot holds for a value of the document, if the value fits. -/
  coerce : Document → Option Content
  /-- What the slot holds as a value that can be documented. -/
  toValue : Content → Value
  get : σ → Content

namespace Slot

variable {ρ σ α κ : Type}

/-- A slot for values of one kind. -/
def ofKind (path : List String) (kind : Kind α) (get : σ → α) : Slot σ where
  path
  shape := { type := kind.type, enumType := kind.enumType, displayDefault := kind.displayDefault }
  Content := α
  coerce d := (kind.coerce (some d)).toOption
  toValue := kind.toValue
  get

/-- A slot for maps. -/
def ofMap [BEq κ] (path : List String) (keys : Enumeration κ) (kind : Kind α)
    (get : σ → List (κ × α)) : Slot σ where
  path
  shape := { type := .enumMap, enumType := some keys.type, detailType := some kind.type.text }
  Content := List (κ × α)
  coerce := Document.entries? keys kind
  toValue := Value.ofEntries (fun k => .member (keys.member k)) kind.toValue
  get

/-- A slot of a part, seen in the whole. -/
def zoom (part : ρ → σ) (s : Slot σ) : Slot ρ :=
  ⟨s.path, s.shape, s.Content, s.coerce, s.toValue, fun r => s.get (part r)⟩

/-- A slot that is filled from a group. -/
def under (name : String) (s : Slot σ) : Slot σ := { s with path := name :: s.path }

/-- The slots of a part that is read from a group of its own. -/
def inGroup (name : String) (part : ρ → σ) (slots : List (Slot σ)) : List (Slot ρ) :=
  slots.map fun s => (s.under name).zoom part

/-- What a slot holds after a document is read: the value at its path as it fits, or the default if
there is none. -/
def read (s : Slot σ) (defaults : σ) (document : Document) : Option s.Content :=
  match document.valueAt s.path with
  | none => some (s.get defaults)
  | some d => s.coerce d

section read

variable {s : Slot σ} {defaults : σ} {document : Document}

lemma read_of_none (h : document.valueAt s.path = none) :
    s.read defaults document = some (s.get defaults) := by
  rw [read, h]

lemma read_of_some {d : Document} (h : document.valueAt s.path = some d) :
    s.read defaults document = s.coerce d := by
  rw [read, h]

variable (s defaults) in
lemma isSome_read : (s.read defaults document).isSome = true
    ↔ ∀ d, document.valueAt s.path = some d → (s.coerce d).isSome = true := by
  unfold read
  cases document.valueAt s.path <;> simp

end read

/-- What several slots hold. -/
def Contents : List (Slot σ) → Type
  | [] => Unit
  | s :: slots => s.Content × Contents slots

/-- What the slots of a value hold. -/
def collect : (slots : List (Slot σ)) → σ → Contents slots
  | [], _ => ()
  | s :: slots, a => (s.get a, collect slots a)

/-- What the slots hold after a document is read, if each can be read. -/
def readAll : (slots : List (Slot σ)) → σ → Document → Option (Contents slots)
  | [], _, _ => some ()
  | s :: slots, defaults, document => do
    return (← s.read defaults document, ← readAll slots defaults document)

section readAll

variable {defaults : σ} {document : Document}

lemma readAll_cons {s : Slot σ} {slots : List (Slot σ)} {a : s.Content} {v : Contents slots} :
    readAll (s :: slots) defaults document = some (a, v)
      ↔ s.read defaults document = some a ∧ readAll slots defaults document = some v := by
  rw [readAll]
  cases s.read defaults document with
  | none => simp
  | some b =>
    cases readAll slots defaults document with
    | none => simp
    | some w =>
      rw [Option.some_inj, Option.some_inj]
      exact Option.some_inj.trans Prod.ext_iff

lemma exists_readAll (slots : List (Slot σ)) : (∃ v, readAll slots defaults document = some v)
    ↔ ∀ s ∈ slots, (s.read defaults document).isSome = true := by
  induction slots with
  | nil => exact iff_of_true ⟨(), rfl⟩ (by simp)
  | cons s slots ih =>
    rw [List.forall_mem_cons, ← ih, Option.isSome_iff_exists]
    constructor
    · rintro ⟨⟨a, v⟩, h⟩
      obtain ⟨ha, hv⟩ := readAll_cons.mp h
      exact ⟨⟨a, ha⟩, v, hv⟩
    · rintro ⟨⟨a, ha⟩, v, hv⟩
      exact ⟨(a, v), readAll_cons.mpr ⟨ha, hv⟩⟩

/-- A value holds what was read exactly if each of its slots does. -/
lemma readAll_eq_collect {slots : List (Slot σ)} {a : σ} :
    readAll slots defaults document = some (collect slots a)
      ↔ ∀ s ∈ slots, s.read defaults document = some (s.get a) := by
  induction slots with
  | nil => exact iff_of_true rfl (by simp)
  | cons s slots ih =>
    rw [List.forall_mem_cons, ← ih]
    exact readAll_cons

end readAll
end Slot

section toOption

variable {α β : Type}

lemma toOption_eq_some {x : Except Failure α} {a : α} : x.toOption = some a ↔ x = .ok a := by
  cases x <;> simp [Except.toOption]

lemma toOption_bind (x : Except Failure α) (k : α → Except Failure β) :
    (x >>= k).toOption = x.toOption.bind fun a => (k a).toOption := by
  cases x <;> rfl

lemma toOption_mapM (k : α → Except Failure β) (as : List α) :
    (as.mapM k).toOption = as.mapM fun a => (k a).toOption := by
  induction as with
  | nil => rfl
  | cons a as ih =>
    rw [List.mapM_cons, List.mapM_cons, toOption_bind]
    congr 1
    funext b
    rw [toOption_bind, ih]
    rfl

lemma toOption_coerced (n : Node) (expected : String) (coerce : Coercion α) :
    (n.coerced expected coerce).toOption = (coerce n.value).toOption := by
  unfold Node.coerced
  rcases coerce n.value with (_ | _) | _ <;> rfl

lemma toOption_entry {κ : Type} {n : Node} {e : Document} (h : n.value = some e)
    (keys : Enumeration κ) (kind : Kind α) (key : String) :
    (n.entry keys kind key).toOption = e.entry? keys kind key := by
  have hfield : (n.child key).value = (e.get? key).bind Document.present? := by
    rw [Node.child, h, Option.bind_some]
  unfold Node.entry Document.entry?
  cases keys.find? key with
  | none => rfl
  | some k =>
    rw [toOption_bind, toOption_coerced, hfield]
    rfl

end toOption

namespace Form

/-- Whether what a form reads is the same for all documents. -/
def slotted {σ α : Type} : Form σ α → Bool
  | pure _ => true
  | ap f x => f.slotted && x.slotted
  | zoom _ body => body.slotted
  | scalar _ _ _ _ => true
  | enumMap _ _ _ _ _ => true
  | group _ body _ => body.slotted
  | tell _ => true
  | retired _ _ => true
  | _ => false

/-- The slots of a form in the order in which they are filled, and then some more. `view` gives the
defaults of the form as a part of those of the whole, `path` is that of the node that is read. -/
def slots {ρ σ α : Type} : Form σ α → (ρ → σ) → List String → List (Slot ρ) → List (Slot ρ)
  | ap f x, view, path, more => f.slots view path (x.slots view path more)
  | zoom get body, view, path, more => body.slots (fun r => get (view r)) path more
  | scalar name kind get _, view, path, more =>
    .ofKind (path ++ [name]) kind (fun r => get (view r)) :: more
  | enumMap name keys kind get _, view, path, more =>
    .ofMap (path ++ [name]) keys kind (fun r => get (view r)) :: more
  | group name body _, view, path, more => body.slots view (path ++ [name]) more
  | _, _, _, more => more

/-- The value that is put together from what the slots hold, and what the other slots hold. -/
def assemble {ρ σ α : Type} : (f : Form σ α) → (view : ρ → σ) → (path : List String) →
    (more : List (Slot ρ)) → Slot.Contents (f.slots view path more) →
    Option (α × Slot.Contents more)
  | pure a, _, _, _, v => some (a, v)
  | ap f x, view, path, more, v =>
    (f.assemble view path (x.slots view path more) v).bind fun g =>
      (x.assemble view path more g.2).map fun a => (g.1 a.1, a.2)
  | zoom get body, view, path, more, v => body.assemble (fun r => get (view r)) path more v
  | scalar _ _ _ _, _, _, _, v => some v
  | enumMap _ _ _ _ _, _, _, _, v => some v
  | group name body _, view, path, more, v => body.assemble view (path ++ [name]) more v
  | tell _, _, _, _, v => some ((), v)
  | retired _ _, _, _, _, v => some ((), v)
  | _, _, _, _, _ => none

variable {ρ σ α κ : Type} {document : Document} {n : Node} {path : List String}

/-- A parameter with a default gives what its slot holds. -/
lemma toOption_scalarValue (h : n.value = document.valueAt path) (name : String) (note : Note)
    (kind : Kind α) (get : ρ → α) (d : ρ) :
    ((n.parameter name note).scalarValue kind (some (get d))).toOption
      = (Slot.ofKind (path ++ [name]) kind get).read d document := by
  have hchild := Node.value_child_concat h name
  have hnode : (n.parameter name note).node = n.child name := rfl
  unfold Parameter.scalarValue
  rw [hnode]
  cases hvalue : (n.child name).value with
  | none =>
    rw [Slot.read_of_none (hchild.symm.trans hvalue), if_pos (by simp [Node.isMissing, hvalue])]
    rfl
  | some e =>
    rw [Slot.read_of_some (hchild.symm.trans hvalue), if_neg (by simp [Node.isMissing, hvalue]),
      toOption_coerced, hvalue]
    rfl

/-- A map gives what its slot holds. -/
lemma toOption_mapValue [BEq κ] (h : n.value = document.valueAt path) (name : String) (note : Note)
    (keys : Enumeration κ) (kind : Kind α) (get : ρ → List (κ × α)) (d : ρ) :
    ((enumMap name keys kind get note).value d n).toOption
      = (Slot.ofMap (path ++ [name]) keys kind get).read d document := by
  have hchild := Node.value_child_concat h name
  have hnode : (n.parameter name note).node = n.child name := rfl
  unfold value Parameter.mapValue
  rw [hnode]
  cases hvalue : (n.child name).value with
  | none =>
    rw [Slot.read_of_none (hchild.symm.trans hvalue), if_pos (by simp [Node.isMissing, hvalue])]
    rfl
  | some e =>
    have hobject : (n.child name).isObject = e.isObject := by simp [Node.isObject, hvalue]
    have hkeys : (n.child name).keys = e.keys := by simp [Node.keys, hvalue]
    rw [Slot.read_of_some (hchild.symm.trans hvalue), if_neg (by simp [Node.isMissing, hvalue]),
      hobject, hkeys]
    show _ = e.entries? keys kind
    unfold Document.entries?
    cases e.isObject with
    | false => rfl
    | true =>
      rw [if_neg (by simp), if_pos rfl, toOption_bind, toOption_bind, toOption_mapM]
      simp only [toOption_entry hvalue, Option.bind_assoc]
      rfl

section step

variable {d : ρ} {more : List (Slot ρ)} {w : Slot.Contents more}

/-- What reads nothing fills no slot. -/
lemma ok_and_readAll {a b : α} :
    (.ok a : Except Failure α) = .ok b ∧ Slot.readAll more d document = some w ↔ True ∧
      ∃ v, Slot.readAll more d document = some v ∧ some (a, v) = some (b, w) := by
  constructor
  · rintro ⟨ha, hw⟩
    cases ha
    exact ⟨trivial, w, hw, rfl⟩
  · rintro ⟨-, v, hv, hb⟩
    cases hb
    exact ⟨rfl, hv⟩

/-- What reads a parameter fills one slot. -/
lemma ok_and_readAll_cons (s : Slot ρ) {x : Except Failure s.Content} {a : s.Content}
    (hx : x.toOption = s.read d document) :
    x = .ok a ∧ Slot.readAll more d document = some w ↔ True ∧
      ∃ v, Slot.readAll (s :: more) d document = some v ∧ some v = some (a, w) := by
  rw [← toOption_eq_some, hx, ← Slot.readAll_cons]
  constructor
  · intro h
    exact ⟨trivial, (a, w), h, rfl⟩
  · rintro ⟨-, v, hv, hvw⟩
    rw [hv, hvw]

end step

/-- A form gives a value exactly if there are objects where it opens groups and each slot can be read
by itself; the value is put together from what the slots hold. -/
theorem value_eq_ok_iff {f : Form σ α} (hf : f.slotted = true) (view : ρ → σ) (d : ρ)
    (more : List (Slot ρ)) (h : n.value = document.valueAt path) {a : α} {w : Slot.Contents more} :
    f.value (view d) n = .ok a ∧ Slot.readAll more d document = some w ↔ f.Opens n ∧
      ∃ v, Slot.readAll (f.slots view path more) d document = some v
        ∧ f.assemble view path more v = some (a, w) := by
  induction f generalizing n path more with
  | pure b => exact ok_and_readAll
  | ap f x ihf ihx =>
    rw [slotted, Bool.and_eq_true] at hf
    rw [value, bind_eq_ok]
    constructor
    · rintro ⟨⟨g, hg, ha⟩, hw⟩
      obtain ⟨b, hb, ha⟩ := bind_eq_ok.mp ha
      obtain ⟨hox, u, hu, hassemble⟩ := (ihx hf.2 view more h).mp ⟨hb, hw⟩
      obtain ⟨hof, v, hv, hfirst⟩ := (ihf hf.1 view _ h).mp ⟨hg, hu⟩
      cases ha
      refine ⟨⟨hof, hox⟩, v, hv, Option.bind_eq_some_iff.mpr ⟨(g, u), hfirst, ?_⟩⟩
      exact Option.map_eq_some_iff.mpr ⟨(b, w), hassemble, rfl⟩
    · rintro ⟨⟨hof, hox⟩, v, hv, ha⟩
      obtain ⟨⟨g, u⟩, hfirst, ha⟩ := Option.bind_eq_some_iff.mp ha
      obtain ⟨⟨b, t⟩, hassemble, ha⟩ := Option.map_eq_some_iff.mp ha
      cases ha
      obtain ⟨hg, hu⟩ := (ihf hf.1 view _ h).mpr ⟨hof, v, hv, hfirst⟩
      obtain ⟨hb, hw⟩ := (ihx hf.2 view more h).mpr ⟨hox, u, hu, hassemble⟩
      exact ⟨⟨g, hg, by rw [hb]; rfl⟩, hw⟩
  | zoom get body ih => exact ih hf (fun r => get (view r)) more h
  | scalar name kind get note =>
    have hread := toOption_scalarValue h name note kind (fun r => get (view r)) d
    exact ok_and_readAll_cons (.ofKind _ kind _) hread
  | required name kind note => cases hf
  | enumMap name keys kind get note =>
    have hread := toOption_mapValue h name note keys kind (fun r => get (view r)) d
    exact ok_and_readAll_cons (.ofMap _ keys kind _) hread
  | eachKey kind note => cases hf
  | group name body note ih =>
    have hchild := Node.value_child_concat h name
    rw [value_group_eq_ok]
    constructor
    · rintro ⟨⟨hobject, ha⟩, hw⟩
      obtain ⟨ho, hv⟩ := (ih hf view more hchild).mp ⟨ha, hw⟩
      exact ⟨⟨hobject, ho⟩, hv⟩
    · rintro ⟨⟨hobject, ho⟩, hv⟩
      obtain ⟨ha, hw⟩ := (ih hf view more hchild).mpr ⟨ho, hv⟩
      exact ⟨⟨hobject, ha⟩, hw⟩
  | optionalGroup name body note => cases hf
  | list name element get note => cases hf
  | tell event => exact ok_and_readAll
  | retired name event => exact ok_and_readAll

lemma opens_iff {f : Form σ α} (hf : f.slotted = true) (h : n.value = document.valueAt path) :
    f.Opens n ↔ ∀ p ∈ f.groupPaths, ∀ e, document.valueAt (path ++ p) = some e →
      e.isObject = true := by
  induction f generalizing n path with
  | ap f x ihf ihx =>
    rw [slotted, Bool.and_eq_true] at hf
    rw [Opens, groupPaths, List.forall_mem_append, ihf hf.1 h, ihx hf.2 h]
  | zoom get body ih => exact ih hf h
  | group name body note ih =>
    have hchild := Node.value_child_concat h name
    have here : ((n.child name).isMissing || (n.child name).isObject) = true
        ↔ ∀ e, document.valueAt (path ++ [name]) = some e → e.isObject = true := by
      rw [← hchild, Node.isMissing, Node.isObject]
      cases (n.child name).value <;> simp
    rw [Opens, groupPaths, List.forall_mem_cons, here, ih hf hchild]
    simp
  | eachKey kind note => cases hf
  | optionalGroup name body note => cases hf
  | list name element get note => cases hf
  | _ => simp [Opens, groupPaths]

end Form
end PlannerConfig
