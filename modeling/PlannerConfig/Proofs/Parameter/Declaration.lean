import PlannerConfig.Proofs.Parameter.Effect

/-!
What reading a parameter declares. Each reading makes at most one registration, and makes it before it
looks at the document: whatever comes then leaves the tree of the catalog as it is. So a sequence of
readings leaves the same tree, and makes the same mistakes, over all documents.
-/
namespace PlannerConfig

section mistake

variable {α β κ : Type}

lemma mistake?_error {f : Failure} (h : f.isMistake = false) :
    mistake? (.error f : Except Failure α) = none := by simp [mistake?, h]

lemma mistake?_ofMismatch (path : Path) (expected : String) (raw : Option Document) (reason : String) :
    mistake? (.error (.ofMismatch path expected raw reason) : Except Failure α) = none := by
  apply mistake?_error
  unfold Failure.ofMismatch
  cases Document.rawText? raw <;> rfl

lemma mistake?_bind {x : Except Failure α} {k : α → Except Failure β} (hx : mistake? x = none)
    (hk : ∀ a, mistake? (k a) = none) : mistake? (x >>= k) = none := by
  cases x with
  | error f => exact hx
  | ok a => exact hk a

lemma mistake?_mapM {f : κ → Except Failure α} (h : ∀ x, mistake? (f x) = none) (xs : List κ) :
    mistake? (xs.mapM f) = none := by
  induction xs with
  | nil => rfl
  | cons x xs ih =>
    rw [List.mapM_cons]
    exact mistake?_bind (h x) fun _ => mistake?_bind ih fun _ => rfl

lemma mistake?_forM {f : κ → Except Failure Unit} (h : ∀ x, mistake? (f x) = none) (xs : List κ) :
    mistake? (xs.forM f) = none := by
  induction xs with
  | nil => rfl
  | cons x xs ih => exact mistake?_bind (h x) fun _ => ih

lemma mistake?_coerced (n : Node) (expected : String) (coerce : Coercion α) :
    mistake? (n.coerced expected coerce) = none := by
  unfold Node.coerced
  rcases coerce n.value with (reason | text) | a
  · exact mistake?_ofMismatch _ _ _ _
  · rfl
  · rfl

lemma mistake?_scalarValue (p : Parameter) (kind : Kind α) (default : Option α) :
    mistake? (p.scalarValue kind default) = none := by
  unfold Parameter.scalarValue
  split
  · cases default <;> rfl
  · exact mistake?_coerced _ _ _

lemma mistake?_entry (n : Node) (keys : Enumeration κ) (kind : Kind α) (key : String) :
    mistake? (n.entry keys kind key) = none := by
  unfold Node.entry
  cases keys.find? key with
  | none => exact mistake?_ofMismatch _ _ _ _
  | some k => exact mistake?_bind (mistake?_coerced _ _ _) fun _ => rfl

lemma mistake?_mapValue [BEq κ] (p : Parameter) (keys : Enumeration κ) (kind : Kind α) :
    mistake? (p.mapValue keys kind) = none := by
  unfold Parameter.mapValue
  split
  · rfl
  · split
    · exact mistake?_ofMismatch _ _ _ _
    · exact mistake?_bind (mistake?_mapM (mistake?_entry p.node keys kind) _) fun _ => rfl

lemma mistake?_group (n : Node) : mistake? n.group = none := by
  unfold Node.group
  split
  · rfl
  · exact mistake?_ofMismatch _ _ _ _

lemma mistake?_groups (n : Node) : mistake? n.groups = none := by
  have element : ∀ m : Node, mistake? m.checkObject = none := by
    intro m
    unfold Node.checkObject
    split
    · rfl
    · exact mistake?_ofMismatch _ _ _ _
  unfold Node.groups
  split
  · rfl
  · split
    · exact mistake?_ofMismatch _ _ _ _
    · exact mistake?_bind (mistake?_forM element _) fun _ => rfl

end mistake

namespace Catalog

/-- What comes of a declaration is decided by the tree. -/
lemma declare_congr {c d : Catalog} (h : c.root = d.root) (declaration : Except Failure Call) :
    (c.declare declaration).map Catalog.root = (d.declare declaration).map Catalog.root := by
  have tree : ∀ r, (c.put r).root = (d.put r).root := by
    intro r
    rw [put, put, h]
  cases declaration with
  | error f => rfl
  | ok call =>
    cases call with
    | parameter r =>
      have same : c.conflict? r = d.conflict? r := by simp only [conflict?, find?, h]
      show ((c.register r).mapError _).map _ = ((d.register r).mapError _).map _
      unfold register
      rw [same]
      cases d.conflict? r with
      | some conflict => rfl
      | none => exact congrArg Except.ok (tree r)
    | group r => exact congrArg Except.ok (tree r)

end Catalog

namespace Pass

variable {α β : Type}

/-- A step that leaves the tree as it is and fails for no mistake. -/
def Quiet (p : Pass α) : Prop :=
  ∀ s, (p.runFrom s).2.catalog.root = s.catalog.root ∧ mistake? (p.runFrom s).1 = none

lemma Quiet.pure (a : α) : Quiet (Pure.pure a : Pass α) := fun _ => ⟨rfl, rfl⟩

/-- A step that declares one thing. If that fails the step fails with it, and else the tree stays as the
declaration leaves it. -/
def Declares (p : Pass α) (declaration : Except Failure Call) : Prop :=
  ∀ s : PassState, match s.catalog.declare declaration with
    | .error f => p.runFrom s = (.error f, s)
    | .ok c => (p.runFrom s).2.catalog.root = c.root ∧ mistake? (p.runFrom s).1 = none

namespace Declares

variable {p q : Pass α} {declaration : Except Failure Call}

lemma throw (f : Failure) : Declares (MonadExcept.throw f : Pass α) (.error f) := fun _ => rfl

lemma of_performs {outcome : Except Failure α} {paths : List Path}
    (h : Performs p declaration outcome paths) (hm : mistake? outcome = none) :
    Declares p declaration := by
  intro s
  have hs := h.run s
  cases hd : s.catalog.declare declaration with
  | error f =>
    simp only [hd] at hs ⊢
    exact hs
  | ok c =>
    simp only [hd] at hs ⊢
    obtain ⟨events, hrun⟩ := hs
    rw [hrun]
    exact ⟨Catalog.root_consumeAll, hm⟩

lemma bind {k : α → Pass β} (hp : Declares p declaration) (hk : ∀ a, Quiet (k a)) :
    Declares (p >>= k) declaration := by
  intro s
  have hs := hp s
  simp only [runFrom_bind]
  cases hd : s.catalog.declare declaration with
  | error f =>
    simp only [hd] at hs ⊢
    rw [hs]
  | ok c =>
    simp only [hd] at hs ⊢
    obtain ⟨tree, quiet⟩ := hs
    rcases hrun : p.runFrom s with ⟨x, t⟩
    rw [hrun] at tree quiet
    cases x with
    | error f => exact ⟨tree, quiet⟩
    | ok a => exact ⟨((hk a t).1).trans tree, (hk a t).2⟩

/-- Steps that declare the same thing do so from all states with one tree. -/
lemma alike (hp : Declares p declaration) (hq : Declares q declaration) {s t : PassState}
    (h : s.catalog.root = t.catalog.root) :
    (p.runFrom s).2.catalog.root = (q.runFrom t).2.catalog.root
      ∧ mistake? (p.runFrom s).1 = mistake? (q.runFrom t).1 := by
  have hs := hp s
  have ht := hq t
  have same := Catalog.declare_congr h declaration
  cases hc : s.catalog.declare declaration with
  | error f =>
    cases hd : t.catalog.declare declaration with
    | error g =>
      obtain rfl : f = g := by simpa [hc, hd, Except.map] using same
      simp only [hc] at hs
      simp only [hd] at ht
      rw [hs, ht]
      exact ⟨h, rfl⟩
    | ok d => simp [hc, hd, Except.map] at same
  | ok c =>
    cases hd : t.catalog.declare declaration with
    | error g => simp [hc, hd, Except.map] at same
    | ok d =>
      have trees : c.root = d.root := by simpa [hc, hd, Except.map] using same
      simp only [hc] at hs
      simp only [hd] at ht
      exact ⟨by rw [hs.1, ht.1, trees], by rw [hs.2, ht.2]⟩

end Declares
end Pass

namespace Parameter

variable {α κ : Type} {p : Parameter}

/-- The default that is declared is the one that is given, the mark of a required value included. -/
lemma declares_generic (kind : Kind α) (default : Value) :
    Pass.Declares (p.generic kind default)
      (p.declaration (.parameter (p.scalarRecord kind.generic (some default)))) :=
  .of_performs (performs_generic kind default) (mistake?_scalarValue _ _ _)

lemma declares_entries [BEq κ] (keys : Enumeration κ) (kind : Kind α) (default : Value) :
    Pass.Declares (p.entries keys kind default)
      (p.declaration (.parameter (p.mapRecord keys kind default))) :=
  .of_performs (performs_entries keys kind default) (mistake?_mapValue _ _ _)

lemma declares_object :
    Pass.Declares p.object (p.declaration (.group (p.groupRecord .object))) :=
  .of_performs performs_object (mistake?_group _)

lemma declares_objectList :
    Pass.Declares p.objectList (p.declaration (.group (p.groupRecord .objectList))) :=
  .of_performs performs_objectList (mistake?_groups _)

end Parameter

/-- Steps that declare the same thing. -/
def Pass.DeclareAlike {α : Type} (p q : Pass α) : Prop :=
  ∃ declaration, Declares p declaration ∧ Declares q declaration

lemma Pass.DeclareAlike.bind {α β : Type} {p q : Pass α} {k l : α → Pass β} (h : DeclareAlike p q)
    (hk : ∀ a, Quiet (k a)) (hl : ∀ a, Quiet (l a)) : DeclareAlike (p >>= k) (q >>= l) := by
  obtain ⟨declaration, hp, hq⟩ := h
  exact ⟨declaration, hp.bind hk, hq.bind hl⟩

lemma Pass.DeclareAlike.map {α β : Type} {p q : Pass α} (f : α → β) (h : DeclareAlike p q) :
    DeclareAlike (do return f (← p)) (do return f (← q)) :=
  h.bind (fun _ => .pure _) fun _ => .pure _

lemma Pass.DeclareAlike.misdeclared {α : Type} {p q : Parameter} (h : p.node.path = q.node.path)
    (cause : Misdeclaration) :
    DeclareAlike (p.misdeclared cause : Pass α) (q.misdeclared cause) := by
  refine ⟨.error (.misdeclared p.node.path cause), .throw _, ?_⟩
  rw [h]
  exact .throw _

namespace Parameter

variable {α κ : Type} {p q : Parameter}

/-- Parameters at one place and with one note, in documents that may differ. -/
structure Twins (p q : Parameter) : Prop where
  path : p.node.path = q.node.path
  note : p.note = q.note

namespace Twins

variable (h : p.Twins q)
include h

lemma docPath : p.node.docPath = q.node.docPath := by rw [Node.docPath, Node.docPath, h.path]

lemma declaration (call : Call) : p.declaration call = q.declaration call := by
  unfold Parameter.declaration
  rw [h.path, h.note]

lemma generic (kind : Kind α) (default : Value) :
    Pass.DeclareAlike (p.generic kind default) (q.generic kind default) := by
  have same : p.scalarRecord kind.generic (some default)
      = q.scalarRecord kind.generic (some default) := by
    simp only [scalarRecord, h.note, h.docPath]
  refine ⟨_, declares_generic kind default, ?_⟩
  rw [h.declaration, same]
  exact declares_generic kind default

lemma entries [BEq κ] (keys : Enumeration κ) (kind : Kind α) (default : Value) :
    Pass.DeclareAlike (p.entries keys kind default) (q.entries keys kind default) := by
  have same : p.mapRecord keys kind default = q.mapRecord keys kind default := by
    simp only [mapRecord, h.note, h.docPath]
  refine ⟨_, declares_entries keys kind default, ?_⟩
  rw [h.declaration, same]
  exact declares_entries keys kind default

lemma groupRecord (type : ValueType) : p.groupRecord type = q.groupRecord type := by
  simp only [Parameter.groupRecord, h.note, h.docPath]

lemma object : Pass.DeclareAlike p.object q.object := by
  refine ⟨_, declares_object, ?_⟩
  rw [h.declaration, h.groupRecord]
  exact declares_object

lemma objectList : Pass.DeclareAlike p.objectList q.objectList := by
  refine ⟨_, declares_objectList, ?_⟩
  rw [h.declaration, h.groupRecord]
  exact declares_objectList

lemma genericEnum (enumType : Option EnumType) (default : Value) :
    Pass.DeclareAlike (p.genericEnum enumType default) (q.genericEnum enumType default) := by
  cases enumType with
  | some t => exact h.generic (.enum t.enumeration) default
  | none =>
    cases default with
    | member m => exact h.generic (.enum m.type.enumeration) (.member m)
    | _ => exact .misdeclared h.path .noEnumType

lemma genericMap (keyType : EnumType) (valueType : MapValueType) (default : Value) :
    Pass.DeclareAlike (p.genericMap keyType valueType default)
      (q.genericMap keyType valueType default) := by
  unfold Parameter.genericMap
  cases valueType.kind? with
  | none => exact .misdeclared h.path (.unsupportedMapValue valueType.name)
  | some kind =>
    apply (h.entries keyType.enumeration kind _).bind
    all_goals
      intro es
      cases es <;> exact .pure _

/-- An option that is left out is a mistake; what is read with one that is there is read alike. -/
lemma bind_option {β : Type} (type : ValueType) (name : String) (x : Option α) {k l : α → Pass β}
    (hk : ∀ a, Pass.DeclareAlike (k a) (l a)) :
    Pass.DeclareAlike (p.option type name x >>= k) (q.option type name x >>= l) := by
  cases x with
  | none => exact .misdeclared h.path (.missingOption type name)
  | some a => exact hk a

/-- A parameter of any type declares the same in all documents. -/
theorem read (type : ValueType) (default : Value) (options : ReadOptions) :
    Pass.DeclareAlike (p.read type default options) (q.read type default options) := by
  cases type with
  | boolean => exact (h.generic Kind.boolean default).map Reading.value
  | integer => exact (h.generic Kind.integer default).map Reading.value
  | double => exact (h.generic Kind.double default).map Reading.value
  | string => exact (h.generic Kind.string default).map Reading.value
  | duration => exact (h.generic Kind.duration default).map Reading.value
  | linearFunction => exact (h.generic Kind.linearFunction default).map Reading.value
  | locale => exact (h.generic Kind.locale default).map Reading.value
  | stringSet => exact (h.generic Kind.stringSet default).map Reading.value
  | feedScopedIdList => exact (h.generic Kind.feedScopedIds default).map Reading.value
  | enum => exact (h.genericEnum options.enumType default).map Reading.value
  | enumSet =>
    apply h.bind_option
    intro t
    exact (h.generic (.enumSet t.enumeration) default).map Reading.value
  | enumMap =>
    apply h.bind_option
    intro keyType
    apply h.bind_option
    intro valueType
    exact (h.genericMap keyType valueType default).map Reading.value
  | custom =>
    apply h.bind_option
    intro hint
    apply h.bind_option
    intro parse
    exact (h.generic (.custom hint parse id) default).map Reading.value
  | object => exact h.object.map Reading.node
  | objectList => exact h.objectList.map Reading.nodes

end Twins
end Parameter
end PlannerConfig
