import PlannerConfig.Parameter.Reading
import PlannerConfig.Proofs.Pass.Reads

/-!
What reading a parameter comes to, without the pass: its record, and the value that the coercion of its kind
gives for what stands at its node.
-/
namespace PlannerConfig

open PlannerConfig.Text

/-- Whether a note has a summary. -/
def Note.HasSummary (note : Note) : Prop := collapse note.summary ≠ ""

/-- The record of a parameter with a note that has a summary. -/
def Note.record (note : Note) (path : List String) (type : ValueType) (default : Value) : Record where
  path := path
  valueType := type
  summary := collapse note.summary
  default := default
  since := note.since
  description := nonempty? (trim (outdent note.description))
  feature := note.feature

lemma Note.HasSummary.ofNote? {note : Note} (h : note.HasSummary) (path : List String) (type : ValueType)
    (default : Value) :
    Record.ofNote? path type default note = some (note.record path type default) := by
  simp only [Record.ofNote?, nonempty?, if_neg h, Option.map_some]
  rfl

namespace Node

variable {α κ : Type} (n : Node)

/-- The way to the value under a key, if there is one. -/
def mark (name : String) : List Path := if (n.child name).isMissing then [] else [[.key name]]

/-- The value as the coercion of a type gives it. -/
def coerced (expected : String) (coerce : Coercion α) : Except Failure α :=
  match coerce n.value with
  | .ok a => .ok a
  | .error (.because reason) => .error (.ofMismatch n.path expected n.value reason)
  | .error (.fault text) => .error (.fault text)

/-- The entry of a map under one key. -/
def entry (keys : Enumeration κ) (kind : Kind α) (key : String) : Except Failure (κ × α) :=
  match keys.find? key with
  | none =>
    .error (.ofMismatch (n.child key).path ValueType.enum.text (some (.text key))
      keys.notAMemberText)
  | some k => do return (k, ← (n.child key).coerced kind.type.text kind.coerce)

/-- A value where a group should be: an object or none. -/
def group : Except Failure Node :=
  if n.isMissing || n.isObject then .ok n
  else .error (.ofMismatch n.path ValueType.object.docName n.value)

/-- A value where an element of a list of groups should be: an object. -/
def checkObject : Except Failure Unit :=
  if n.isObject then .ok ()
  else .error (.ofMismatch n.path ValueType.object.docName n.value)

/-- Values where groups should be: an array of objects or none. -/
def groups : Except Failure (List Node) :=
  if n.isMissing then .ok []
  else if !n.isArray then .error (.ofMismatch n.path ValueType.objectList.docName n.value)
  else do
    n.elements.forM checkObject
    return n.elements

lemma map_mark (name : String) :
    (n.mark name).map (n.path ++ ·)
      = if (n.child name).isMissing then [] else [(n.child name).path] := by
  unfold mark
  split <;> rfl

lemma map_key_cons (name : String) (qs : List Path) :
    (qs.map (.key name :: ·)).map (n.path ++ ·) = qs.map ((n.child name).path ++ ·) := by
  simp [child]

lemma map_index_cons (name : String) (i : Nat) (qs : List Path) :
    (qs.map fun q => .key name :: .index i :: q).map (n.path ++ ·)
      = qs.map (((n.child name).childAt i).path ++ ·) := by
  simp [child, childAt]

lemma group_eq_ok {n m : Node} : n.group = .ok m ↔ m = n ∧ (n.isMissing || n.isObject) = true := by
  unfold group
  split
  · rename_i h
    rw [Except.ok.injEq, and_iff_left h, eq_comm]
  · rename_i h
    simp [h]

lemma coerced_eq_ok {n : Node} {expected : String} {coerce : Coercion α} {a : α} :
    n.coerced expected coerce = .ok a ↔ coerce n.value = .ok a := by
  unfold coerced
  rcases coerce n.value with (_ | _) | _ <;> simp

lemma elements_of_isMissing {n : Node} (h : n.isMissing = true) : n.elements = [] := by
  simp [elements, size, Option.isNone_iff_eq_none.mp h]

lemma isObject_of_isMissing {n : Node} (h : n.isMissing = true) : n.isObject = false := by
  simp [isObject, Option.isNone_iff_eq_none.mp h]

lemma groups_eq_ok {n : Node} {ms : List Node} (h : n.groups = .ok ms) :
    ms = n.elements ∧ (n.isMissing = true ∨ n.isArray = true)
      ∧ ∀ m ∈ n.elements, m.isObject = true := by
  have check : ∀ ns : List Node, ns.forM checkObject = .ok () → ∀ m ∈ ns, m.isObject = true := by
    intro ns
    induction ns with
    | nil => simp
    | cons m ns ih =>
      intro hok
      cases hm : m.isObject with
      | false => simp [checkObject, hm, bind, Except.bind] at hok
      | true =>
        have rest : ns.forM checkObject = .ok () := by
          simpa [checkObject, hm, bind, Except.bind] using hok
        simpa [hm] using ih rest
  unfold groups at h
  split at h
  · rename_i hmissing
    cases h
    rw [elements_of_isMissing hmissing]
    exact ⟨rfl, .inl hmissing, by simp⟩
  · split at h
    · cases h
    · rename_i harray
      cases hc : n.elements.forM checkObject with
      | error f => simp [hc, bind, Except.bind] at h
      | ok u =>
        simp [hc, bind, Except.bind, pure, Except.pure] at h
        exact ⟨h.symm, .inr (by simpa using harray), check _ hc⟩

lemma coerceAt_eq (expected : String) (coerce : Coercion α) :
    Parameter.coerceAt n expected coerce = Pass.ofExcept (n.coerced expected coerce) := by
  unfold Parameter.coerceAt coerced
  rcases coerce n.value with (_ | _) | _ <;> rfl

end Node

namespace Parameter

variable {α κ : Type} (p : Parameter)

/-- The record of a parameter that has a value of its own. -/
def scalarRecord (kind : Kind α) (default : Option α) : Record :=
  { p.note.record p.node.docPath kind.type (default.elim .required kind.toValue) with
    enumType := kind.enumType
    displayDefault := kind.displayDefault }

def scalarValue (kind : Kind α) (default : Option α) : Except Failure α :=
  if p.node.isMissing then
    match default with
    | some a => .ok a
    | none => .error (.missing p.node.path)
  else p.node.coerced kind.type.text kind.coerce

/-- The record of a parameter whose value is a map. -/
def mapRecord (keys : Enumeration κ) (kind : Kind α) (default : Value) : Record :=
  { p.note.record p.node.docPath .enumMap default with
    enumType := some keys.type
    detailType := some kind.type.text }

def mapValue [BEq κ] (keys : Enumeration κ) (kind : Kind α) :
    Except Failure (Option (List (κ × α))) :=
  if p.node.isMissing then .ok none
  else if !p.node.isObject then
    .error (.ofMismatch p.node.path ("enum map of " ++ kind.type.text) p.node.value)
  else do
    let read ← p.node.keys.mapM (p.node.entry keys kind)
    return some (read.foldl (fun map (k, a) => setField k a map) [])

def groupRecord (type : ValueType) : Record := p.note.record p.node.docPath type .ungiven

lemma entryAt_eq (keys : Enumeration κ) (kind : Kind α) (n : Node) (key : String) :
    entryAt keys kind n key = Pass.ofExcept (n.entry keys kind key) := by
  unfold entryAt Node.entry
  cases keys.find? key with
  | none => rfl
  | some k =>
    simp only [Node.coerceAt_eq, Pass.ofExcept_bind]
    rfl

lemma checkObject_eq (element : Node) :
    (unless element.isObject do
      throw (.ofMismatch element.path ValueType.object.docName element.value) : Pass Unit)
      = Pass.ofExcept element.checkObject := by
  unfold Node.checkObject
  split <;> rfl

lemma record_eq {p : Parameter} (h : p.note.HasSummary) (type : ValueType) (default : Value) :
    p.record type default = pure (p.note.record p.node.docPath type default) := by
  unfold record
  rw [h.ofNote?]

end Parameter
end PlannerConfig
