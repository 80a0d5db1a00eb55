import PlannerConfig.Form
import PlannerConfig.Proofs.Parameter.Effect

/-!
What reading a form does. The value, the registrations and the consumed places are given apart, each as a
walk over the form that knows no catalog and no pass.
-/
namespace PlannerConfig

namespace Form

/-- The value that a form gives at a node. -/
def value {σ α : Type} : Form σ α → σ → Node → Except Failure α
  | pure a, _, _ => .ok a
  | ap f x, d, n => do
    let g ← f.value d n
    let a ← x.value d n
    return g a
  | zoom get body, d, n => body.value (get d) n
  | scalar name kind get note, d, n => (n.parameter name note).scalarValue kind (some (get d))
  | required name kind note, _, n => (n.parameter name note).scalarValue kind none
  | enumMap name keys kind get note, d, n => do
    return (← (n.parameter name note).mapValue keys kind).getD (get d)
  | eachKey kind note, _, n =>
    n.keys.mapM fun key => do return (key, ← (n.parameter key (note key)).scalarValue kind none)
  | group name body _, d, n => do body.value d (← (n.child name).group)
  | optionalGroup name body _, d, n => do
    let inner ← (n.child name).group
    if inner.isEmpty then return none else return some (← body.value d inner)
  | list name element get _, d, n => do
    let elements ← (n.child name).groups
    if elements.isEmpty then return get d else elements.mapM (element.value d)
  | tell _, _, _ => .ok ()
  | retired _ _, _, _ => .ok ()

/-- The registrations that reading a form makes. -/
def calls {σ α : Type} : Form σ α → σ → Node → List Call
  | pure _, _, _ => []
  | ap f x, d, n => f.calls d n ++ x.calls d n
  | zoom get body, d, n => body.calls (get d) n
  | scalar name kind get note, d, n =>
    [.parameter ((n.parameter name note).scalarRecord kind (some (get d)))]
  | required name kind note, _, n => [.parameter ((n.parameter name note).scalarRecord kind none)]
  | enumMap name keys kind get note, d, n =>
    let shown := Value.ofEntries (fun k => .member (keys.member k)) kind.toValue (get d)
    [.parameter ((n.parameter name note).mapRecord keys kind shown)]
  | eachKey kind note, _, n =>
    n.keys.flatMap fun key => [.parameter ((n.parameter key (note key)).scalarRecord kind none)]
  | group name body note, d, n =>
    .group ((n.parameter name note).groupRecord .object) :: body.calls d (n.child name)
  | optionalGroup name body note, d, n =>
    .group ((n.parameter name note).groupRecord .object) ::
      if (n.child name).isEmpty then [] else body.calls d (n.child name)
  | list name element _ note, d, n =>
    .group ((n.parameter name note).groupRecord .objectList) ::
      (n.child name).elements.flatMap (element.calls d)
  | tell _, _, _ => []
  | retired _ _, _, _ => []

/-- The places of the values that reading a form consumes, seen from the node. -/
def marks {σ α : Type} : Form σ α → Node → List Path
  | pure _, _ => []
  | ap f x, n => f.marks n ++ x.marks n
  | zoom _ body, n => body.marks n
  | scalar name _ _ _, n => n.mark name
  | required name _ _, n => n.mark name
  | enumMap name _ _ _ _, n => n.mark name
  | eachKey _ _, n => n.keys.flatMap n.mark
  | group name body _, n => (body.marks (n.child name)).map (.key name :: ·)
  | optionalGroup name body _, n =>
    if (n.child name).isEmpty then [] else (body.marks (n.child name)).map (.key name :: ·)
  | list name element _ _, n =>
    (List.range (n.child name).size).flatMap fun (i : Nat) =>
      (element.marks ((n.child name).childAt i)).map fun q => .key name :: .index i :: q
  | tell _, _ => []
  | retired name _, n => n.mark name

/-- Whether everything has a summary, and parameters have types of parameters. -/
def Declared {σ α : Type} : Form σ α → Prop
  | pure _ => True
  | ap f x => f.Declared ∧ x.Declared
  | zoom _ body => body.Declared
  | scalar _ kind _ note => note.HasSummary ∧ kind.type.isGroup = false
  | required _ kind note => note.HasSummary ∧ kind.type.isGroup = false
  | enumMap _ _ _ _ note => note.HasSummary
  | eachKey kind note => (∀ key, (note key).HasSummary) ∧ kind.type.isGroup = false
  | group _ body note => note.HasSummary ∧ body.Declared
  | optionalGroup _ body note => note.HasSummary ∧ body.Declared
  | list _ element _ note => note.HasSummary ∧ element.Declared
  | tell _ => True
  | retired _ _ => True

/-- A form that is declared well is read as these walks say. -/
theorem runs {σ α : Type} (f : Form σ α) (h : f.Declared) (d : σ) (n : Node) :
    Pass.Runs (f.read d n) (f.value d n) (f.calls d n) ((f.marks n).map (n.path ++ ·)) := by
  induction f generalizing n with
  | pure a => exact .pure a
  | ap f x ihf ihx =>
    simp only [read, value, calls, marks, List.map_append]
    exact .bind (ihf h.1 d n) fun g _ => .map (fun a => g a) (ihx h.2 d n)
  | zoom get body ih => exact ih h (get d) n
  | scalar name kind get note =>
    simp only [read, value, calls, marks, Node.map_mark]
    exact Parameter.runs_scalar (p := n.parameter name note) h.1 kind (some (get d))
  | required name kind note =>
    simp only [read, value, calls, marks, Node.map_mark]
    exact Parameter.runs_scalar (p := n.parameter name note) h.1 kind none
  | enumMap name keys kind get note =>
    simp only [read, value, calls, marks, Node.map_mark]
    exact .map _ (Parameter.runs_entries (p := n.parameter name note) h keys kind _)
  | eachKey kind note =>
    simp only [read, value, calls, marks, List.map_flatMap, Node.map_mark]
    exact .mapM fun key _ => .map (fun a => (key, a))
      (Parameter.runs_scalar (p := n.parameter key (note key)) (h.1 key) kind none)
  | group name body note ih =>
    simp only [read, value, calls, marks, Node.map_key_cons]
    refine .bind (Parameter.runs_object (p := n.parameter name note) h.1) fun inner hinner => ?_
    rw [(Node.group_eq_ok.mp hinner).1]
    exact ih h.2 d (n.child name)
  | optionalGroup name body note ih =>
    simp only [read, value, calls, marks]
    refine .bind (Parameter.runs_object (p := n.parameter name note) h.1) fun inner hinner => ?_
    rw [(Node.group_eq_ok.mp hinner).1]
    have hnode : (n.parameter name note).node = n.child name := rfl
    rw [hnode]
    cases (n.child name).isEmpty with
    | true => exact .pure none
    | false =>
      have inside := Pass.Runs.map some (ih h.2 d (n.child name))
      rwa [← Node.map_key_cons] at inside
  | list name element get note ih =>
    simp only [read, value, calls, marks, List.map_flatMap, Node.map_index_cons]
    refine .bind (Parameter.runs_objectList (p := n.parameter name note) h.1)
      fun elements helements => ?_
    rw [(Node.groups_eq_ok helements).1]
    have hnode : (n.parameter name note).node = n.child name := rfl
    rw [hnode]
    have each := Pass.Runs.mapM fun m (_ : m ∈ (n.child name).elements) => ih h.2 d m
    cases hempty : (n.child name).elements.isEmpty with
    | true =>
      rw [List.isEmpty_iff.mp hempty] at each ⊢
      have hrange : List.range (n.child name).size = [] := by
        simpa [Node.elements] using hempty
      rw [hrange]
      exact .pure (get d)
    | false =>
      have marks_eq : (n.child name).elements.flatMap (fun m => (element.marks m).map (m.path ++ ·))
          = (List.range (n.child name).size).flatMap fun (i : Nat) =>
              (element.marks ((n.child name).childAt i)).map
                (((n.child name).childAt i).path ++ ·) := by
        rw [Node.elements, List.flatMap_map]
      rw [marks_eq] at each
      exact each
  | tell event => exact .of_reads (.tell _)
  | retired name event =>
    simp only [read, value, calls, marks, Node.map_mark]
    cases hm : (n.child name).isMissing with
    | true => exact .pure ()
    | false =>
      exact .of_reads (.bind (.tell (event (n.child name).path)) fun _ _ => .consume (n.child name))

end Form
end PlannerConfig
