import PlannerConfig.Proofs.Form.Documented
import PlannerConfig.Proofs.Form.Fixed
import PlannerConfig.Proofs.Reference.Table
import PlannerConfig.Proofs.Reference.Template
import PlannerConfig.Proofs.Text.Unmarked

/-!
References without surrogates. If a form says nothing that has one, and takes names from the document
only beneath what the reference skips, then the reference can be encoded, whatever the document has.
-/
namespace PlannerConfig

open PlannerConfig.Text

section texts

variable {s : String}

lemma unmarked_inlineCode (h : Unmarked s) : Unmarked (inlineCode s) := by
  unfold inlineCode
  split
  · exact .of_ofList rfl rfl
  · exact .append (.append (.of_ofList rfl rfl) h) (.of_ofList rfl rfl)

lemma unmarked_escapeCell (h : Unmarked s) : Unmarked (escapeCell s) := by
  rw [escapeCell, unmarked_ofList]
  intro hmark
  obtain ⟨c, hc, hmark⟩ := List.mem_flatMap.mp hmark
  split at hmark
  · exact absurd hmark (by decide)
  · exact h (List.mem_singleton.mp hmark ▸ hc)

lemma unmarked_tableRow {cells : List String} (h : ∀ cell ∈ cells, Unmarked cell) :
    Unmarked (tableRow cells) :=
  .append (.append (.of_ofList rfl rfl) (.join (.of_ofList rfl rfl) h)) (.of_ofList rfl rfl)

lemma unmarked_labelled {label : String} (hlabel : Unmarked label) (h : Unmarked s) :
    Unmarked (labelled label s) := by
  simp only [labelled, unmarked_append, hlabel, h, and_true]
  exact ⟨⟨.of_ofList rfl rfl, .of_ofList rfl rfl⟩, .of_ofList rfl rfl⟩

lemma unmarked_heading (level : Int) (h : Unmarked s) : Unmarked (heading level s) := by
  refine .append (.append (unmarked_ofList.mpr fun hmark => ?_) (.of_ofList rfl rfl)) h
  exact absurd (List.eq_of_mem_replicate hmark) (by decide)

lemma ValueType.unmarked_text (type : ValueType) : Unmarked type.text := by
  cases type <;> exact .of_ofList rfl rfl

lemma Version.unmarked_text (v : Version) : Unmarked v.text := by
  cases v <;> exact .of_ofList rfl rfl

lemma Feature.unmarked_text (f : Feature) : Unmarked f.text := by
  cases f <;> exact .of_ofList rfl rfl

end texts

/-- Whether nothing that is shown of a record has a surrogate, its path apart. -/
structure Record.IsUnmarked (r : Record) : Prop where
  typeName : Unmarked r.typeName
  default : Unmarked r.defaultText
  values : ∀ v ∈ r.enumValues, Unmarked v
  summary : Unmarked r.summary
  description : ∀ text, r.description = some text → Unmarked text

namespace Record.IsUnmarked

variable {r : Record}

lemma metaLine (h : r.IsUnmarked) : Unmarked r.metaLine := by
  refine .join (.of_ofList rfl rfl) ?_
  simp only [List.forall_mem_append, List.forall_mem_cons, List.forall_mem_map]
  refine ⟨⟨?_, ?_, ?_, List.forall_mem_nil _⟩, fun text htext => ?_⟩
  · exact unmarked_labelled (.of_ofList rfl rfl) r.since.unmarked_text
  · exact unmarked_labelled (.of_ofList rfl rfl) h.typeName
  · refine unmarked_labelled (.of_ofList rfl rfl) ?_
    split <;> exact .of_ofList rfl rfl
  · refine unmarked_labelled (.of_ofList rfl rfl) ?_
    obtain ⟨-, rfl⟩ := nonempty?_eq_some.mp (Option.mem_toList.mp htext)
    exact h.default

lemma enumLine (h : r.IsUnmarked) {line : String} (hline : r.enumLine? = some line) :
    Unmarked line := by
  unfold enumLine? at hline
  split at hline
  · cases hline
  · cases hline
    refine .append (.append (.append (.of_ofList rfl rfl) ?_) (.of_ofList rfl rfl)) ?_
    · split <;> exact .of_ofList rfl rfl
    · refine .join (.of_ofList rfl rfl) (List.forall_mem_map.mpr fun v hv => ?_)
      exact .append (.append (.of_ofList rfl rfl) (h.values v hv)) (.of_ofList rfl rfl)

lemma body (h : r.IsUnmarked) : ∀ text ∈ r.body, Unmarked text := by
  simp only [Record.body, List.forall_mem_append, List.forall_mem_singleton, Option.mem_toList]
  refine ⟨⟨⟨fun line hline => h.enumLine hline, fun text htext => ?_⟩, h.summary⟩,
    fun text htext => ?_⟩
  · obtain ⟨f, -, rfl⟩ := Option.map_eq_some_iff.mp htext
    exact unmarked_labelled (.of_ofList rfl rfl) f.unmarked_text
  · obtain ⟨description, hdescription, hsays⟩ := Option.bind_eq_some_iff.mp htext
    obtain ⟨-, rfl⟩ := nonempty?_eq_some.mp hsays
    exact h.description _ hdescription

end Record.IsUnmarked

/-- Whether nothing that is shown of an item has a surrogate. -/
structure Item.IsUnmarked (i : Item) : Prop where
  name : Unmarked i.name
  display : Unmarked i.display
  parent : Unmarked i.parent
  reference : ∀ reference, i.reference = some reference → Unmarked reference
  record : ∀ r, i.record? = some r → r.IsUnmarked

namespace Item.IsUnmarked

variable {i : Item}

lemma link {reference stop : String} (h : Unmarked reference) (hstop : Unmarked stop) :
    Unmarked ("See [" ++ reference ++ "](" ++ reference ++ stop) := by
  simp only [unmarked_append, h, hstop, and_true]
  exact ⟨.of_ofList rfl rfl, .of_ofList rfl rfl⟩

lemma row (h : i.IsUnmarked) {row : String} (hrow : i.row? = some row) : Unmarked row := by
  unfold row? at hrow
  split at hrow
  · rename_i reference hreference
    cases hrow
    have hlink := link (h.reference reference hreference) (.of_ofList rfl rfl : Unmarked ")")
    unfold referenceRow
    split
    · rename_i r hr
      refine unmarked_tableRow ?_
      simp only [List.forall_mem_cons]
      exact ⟨unmarked_inlineCode h.display, unmarked_inlineCode (h.record r hr).typeName,
        .of_ofList rfl rfl, hlink, r.since.unmarked_text, List.forall_mem_nil _⟩
    · refine unmarked_tableRow ?_
      simp only [List.forall_mem_cons]
      exact ⟨unmarked_inlineCode h.display, unmarked_inlineCode (ValueType.unmarked_text _),
        .of_ofList rfl rfl, hlink, .of_ofList rfl rfl, List.forall_mem_nil _⟩
  · obtain ⟨r, hleaf, rfl⟩ := Option.map_eq_some_iff.mp hrow
    have hr := h.record r (Entry.leaf?_eq_some.mp hleaf).1
    refine unmarked_tableRow ?_
    simp only [List.forall_mem_cons]
    refine ⟨unmarked_inlineCode h.display, unmarked_inlineCode hr.typeName, unmarked_escapeCell ?_,
      unmarked_escapeCell hr.summary, r.since.unmarked_text, List.forall_mem_nil _⟩
    split
    · exact .of_ofList rfl rfl
    · exact unmarked_inlineCode hr.default

lemma pathLine (h : i.IsUnmarked) : Unmarked i.pathLine := by
  refine .append (.of_ofList rfl rfl) (unmarked_ofList.mpr fun hmark => ?_)
  obtain ⟨c, hc, hmark⟩ := List.mem_map.mp hmark
  split at hmark
  · exact absurd hmark (by decide)
  · exact h.parent (hmark ▸ hc)

lemma detail (h : i.IsUnmarked) (level : Int) : Unmarked (i.detail level) := by
  refine .join (.of_ofList rfl rfl) ?_
  simp only [List.forall_mem_append, List.forall_mem_singleton, Option.mem_toList]
  refine ⟨⟨⟨unmarked_heading _ h.name, fun text htext => ?_⟩, h.pathLine⟩, ?_⟩
  · obtain ⟨r, hr, rfl⟩ := Option.map_eq_some_iff.mp htext
    exact (h.record r hr).metaLine
  · split
    · rename_i reference hreference
      exact List.forall_mem_singleton.mpr
        (link (h.reference reference hreference) (.of_ofList rfl rfl))
    · cases hr : i.record? with
      | none => exact List.forall_mem_nil _
      | some r => exact (h.record r hr).body

end Item.IsUnmarked

namespace Catalog

variable {c : Catalog} {skip : Skip}

end Catalog

/-- Whether nothing that a note says has a surrogate. -/
structure Note.IsUnmarked (note : Note) : Prop where
  summary : Unmarked note.summary
  description : Unmarked note.description

section records

variable {α : Type} {name : String} {note : Note}

lemma Note.IsUnmarked.shown (h : note.IsUnmarked) {text : String}
    (htext : nonempty? (trim (outdent note.description)) = some text) : Unmarked text := by
  obtain ⟨-, rfl⟩ := nonempty?_eq_some.mp htext
  exact h.description.outdent.trim

/-- Whether neither the name nor the record of a parameter has a surrogate, wherever it stands. -/
structure ShownUnmarked (name : String) (note : Note) (record : Parameter → Record) : Prop where
  key : Unmarked name
  shown : ∀ n : Node, (record (n.parameter name note)).IsUnmarked

end records

/-- Whether nothing that is shown of a form has a surrogate, apart from what is beneath hidden names of
the root. -/
def Form.IsUnmarked {σ α : Type} (hidden : List String) : Form σ α → σ → Prop
  | ap f x, d => f.IsUnmarked hidden d ∧ x.IsUnmarked hidden d
  | zoom get body, d => body.IsUnmarked hidden (get d)
  | scalar name kind get note, d => ShownUnmarked name note (·.scalarRecord kind (some (get d)))
  | required name kind note, _ => ShownUnmarked name note (·.scalarRecord kind none)
  | enumMap name keys kind get note, d =>
    let shown := Value.ofEntries (fun k => .member (keys.member k)) kind.toValue (get d)
    ShownUnmarked name note (·.mapRecord keys kind shown)
  | eachKey _ _, _ => False
  | group name body note, d =>
    ShownUnmarked name note (·.groupRecord .object) ∧ (name ∈ hidden ∨ body.IsUnmarked [] d)
  | optionalGroup name body note, d =>
    ShownUnmarked name note (·.groupRecord .object) ∧ (name ∈ hidden ∨ body.IsUnmarked [] d)
  | list name element _ note, d =>
    ShownUnmarked name note (·.groupRecord .objectList) ∧ (name ∈ hidden ∨ element.IsUnmarked [] d)
  | _, _ => True

/-- Whether what a call shows has no surrogate, or the call is made beneath a hidden name. -/
def Call.UnmarkedOutside (hidden : List String) (n : Node) (call : Call) : Prop :=
  ((∀ name ∈ call.path, Unmarked name) ∧ call.record.IsUnmarked)
    ∨ ∃ name ∈ hidden, Unmarked name ∧ ∃ l, l ≠ [] ∧ call.path = n.docPath ++ name :: l

section calls

variable {σ α : Type} {f : Form σ α} {d : σ} {n m : Node} {hidden : List String} {name : String}
  {note : Note} {record : Parameter → Record}

namespace ShownUnmarked

lemma docPath_child (h : ShownUnmarked name note record) (hn : ∀ key ∈ n.docPath, Unmarked key) :
    ∀ key ∈ n.docPath ++ [name], Unmarked key :=
  List.forall_mem_append.mpr ⟨hn, List.forall_mem_singleton.mpr h.key⟩

lemma call (h : ShownUnmarked name note record) (hn : ∀ key ∈ n.docPath, Unmarked key) {call : Call}
    (hcall : call.record = record (n.parameter name note)) (hpath : call.path = n.docPath ++ [name]) :
    call.UnmarkedOutside hidden n := by
  refine .inl ⟨?_, hcall ▸ h.shown n⟩
  rw [hpath]
  exact h.docPath_child hn

/-- Within a group all is well if the group is hidden or all is well seen from there. -/
lemma calls (h : ShownUnmarked name note record) (hm : m.docPath = n.docPath ++ [name])
    (hbody : name ∈ hidden ∨ ∀ call ∈ f.calls d m, call.UnmarkedOutside [] m) :
    ∀ call ∈ f.calls d m, call.UnmarkedOutside hidden n := by
  intro call hcall
  rcases hbody with hname | hbody
  · obtain ⟨l, hl, hpath⟩ := Form.exists_path_of_mem_calls hcall
    refine .inr ⟨name, hname, h.key, l, hl, ?_⟩
    rw [hpath, hm, List.append_assoc, List.singleton_append]
  · rcases hbody call hcall with shown | ⟨_, hnone, -⟩
    · exact .inl shown
    · cases hnone

end ShownUnmarked

end calls

namespace Form

variable {σ α : Type} {f : Form σ α} {d : σ} {n : Node} {hidden : List String} {skip : Skip} {c : Catalog}
  {p : Place}

end Form
end PlannerConfig
