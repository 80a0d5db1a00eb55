import PlannerConfig.Proofs.Parameter.Declaration

/-!
Sequences of readings over one document, where a reading that fails does not end the sequence.
-/
namespace PlannerConfig

/-- A reading of any type: the keys that lead to the object that is asked, and what it is asked for. -/
structure Query where
  place : List String
  name : String
  note : Note
  type : ValueType
  default : Value := .required
  options : ReadOptions := {}
  /-- Whether a collection that has no default may be left out. -/
  implied : Bool := false

namespace Query

/-- The object that is asked. -/
def object (q : Query) (root : Node) : Node := q.place.foldl (fun n key => n.child key) root

def parameter (q : Query) (root : Node) : Parameter := (q.object root).parameter q.name q.note

def ask (q : Query) (root : Node) : Pass Reading :=
  if q.implied then (q.parameter root).readType q.type q.default q.options
  else (q.parameter root).read q.type q.default q.options

/-- The answers to a sequence of queries, each asked from the state in which the one before has left the
pass, and the last of these states. -/
def askAll (root : Node) : List Query → PassState → List (Except Failure Reading) × PassState
  | [], s => ([], s)
  | q :: qs, s =>
    let (answer, t) := (q.ask root).runFrom s
    let (answers, last) := askAll root qs t
    (answer :: answers, last)

lemma path_foldl_child (keys : List String) (n : Node) :
    (keys.foldl (fun n key => n.child key) n).path = n.path ++ keys.map .key := by
  induction keys generalizing n with
  | nil => simp
  | cons key keys ih =>
    rw [List.foldl_cons, ih]
    simp [Node.child]

variable {root other : Node}

/-- One query asks for parameters at one place in all documents. -/
lemma twins (q : Query) (h : root.path = other.path) :
    (q.parameter root).Twins (q.parameter other) where
  path := by
    have same : (q.object root).path = (q.object other).path := by
      rw [object, object, path_foldl_child, path_foldl_child, h]
    show (q.object root).path ++ [.key q.name] = (q.object other).path ++ [.key q.name]
    rw [same]
  note := rfl

lemma declareAlike_ask (q : Query) (h : root.path = other.path) :
    Pass.DeclareAlike (q.ask root) (q.ask other) := by
  unfold ask
  split
  · exact (q.twins h).read q.type _ q.options
  · exact (q.twins h).read q.type q.default q.options

/-- One query over two documents: from one tree it comes to one tree, with the same mistake or none. -/
lemma ask_alike (q : Query) (h : root.path = other.path) {s t : PassState}
    (hst : s.catalog.root = t.catalog.root) :
    ((q.ask root).runFrom s).2.catalog.root = ((q.ask other).runFrom t).2.catalog.root
      ∧ mistake? ((q.ask root).runFrom s).1 = mistake? ((q.ask other).runFrom t).1 := by
  obtain ⟨declaration, hroot, hother⟩ := q.declareAlike_ask h
  exact hroot.alike hother hst

lemma askAll_alike (qs : List Query) (h : root.path = other.path) {s t : PassState}
    (hst : s.catalog.root = t.catalog.root) :
    (askAll root qs s).2.catalog.root = (askAll other qs t).2.catalog.root
      ∧ (askAll root qs s).1.map mistake? = (askAll other qs t).1.map mistake? := by
  induction qs generalizing s t with
  | nil => exact ⟨hst, rfl⟩
  | cons q qs ih =>
    obtain ⟨trees, mistakes⟩ := q.ask_alike h hst
    obtain ⟨last, rest⟩ := ih trees
    exact ⟨last, congrArg₂ List.cons mistakes rest⟩

/-- The tree that a sequence of queries leaves, and the mistakes among its answers, are the same over all
documents. -/
theorem declarations_are_of_queries (qs : List Query) (document other : Document)
    (source otherSource : Option String) :
    let (answers, last) := askAll (Node.root document source) qs {}
    let (otherAnswers, otherLast) := askAll (Node.root other otherSource) qs {}
    last.catalog.root = otherLast.catalog.root
      ∧ answers.map mistake? = otherAnswers.map mistake? := by
  have start : (Node.root document source).path = (Node.root other otherSource).path := rfl
  exact askAll_alike qs start rfl

end Query
end PlannerConfig
