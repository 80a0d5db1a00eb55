import PlannerConfig.Proofs.Form.Documented
import PlannerConfig.Proofs.Form.Names
import PlannerConfig.Proofs.Reference.Visible
import PlannerConfig.Proofs.Text.Bars

/-!
When the summary table is one. Types, versions, defaults and summaries of parameters leave a row as it
is; paths do so if none of their names has a line break or an open bar.
-/
namespace PlannerConfig

open PlannerConfig.Text

/-- Whether a name leaves the row of a table in which it stands as it is. -/
def IsPlain (name : String) : Prop := lineBreaks name = 0 ∧ openBars name = 0

instance (name : String) : Decidable (IsPlain name) := inferInstanceAs (Decidable (_ ∧ _))

/-- A name that is written out is plain if none of its characters does harm. -/
lemma isPlain_of_ofList {name : String} {cs : List Char} (h : name = .ofList cs)
    (hcs : cs.all (fun c => c != '\n' && c != '|') = true) : IsPlain name := by
  subst h
  simp only [List.all_eq_true, Bool.and_eq_true, bne_iff_ne] at hcs
  constructor
  · rw [lineBreaks_eq_zero_iff, String.toList_ofList]
    exact fun h => (hcs _ h).1 rfl
  · rw [openBars, String.toList_ofList]
    exact openBarsAfter_of_not_mem fun h => (hcs _ h).2 rfl

/-- Whether a text is a table with some number of rows, each on a line of its own and with five cells,
which have six bars around them. -/
def IsTable (size : Nat) (text : String) : Prop := ∃ rows : List String, rows.length = size
  ∧ text = join "\n" (tableHeader ++ rows) ++ "\n" ∧ ∀ row ∈ rows, '\n' ∉ row.toList ∧ openBars row = 6

namespace Entry

variable {e x : Entry} {parent name : String} {path : List String}

lemma lineBreaks_displayUnder (parent name : String) (e : Entry) :
    lineBreaks (e.displayUnder parent name) = lineBreaks parent + lineBreaks name := by
  have brackets : lineBreaks (if e.isList then "[]" else "") = 0 := by split <;> rfl
  rw [displayUnder, lineBreaks_append, brackets]
  split <;> simp [*, show lineBreaks "." = 0 from rfl]

lemma openBars_displayUnder (parent name : String) (e : Entry) :
    openBars (e.displayUnder parent name) = openBars parent + openBars name := by
  have brackets : ∀ s, openBars (s ++ if e.isList then "[]" else "") = openBars s := by
    intro s
    split <;> simp
  rw [displayUnder, brackets]
  split <;> simp [*, String.append_assoc]

/-- What adds up over a name adds up over a path. -/
lemma sum_displayAt {count : String → Nat}
    (hcount : ∀ parent name e, count (displayUnder parent name e) = count parent + count name)
    (h : (e.find? path).isSome) :
    count (e.displayAt parent path) = count parent + (path.map count).sum := by
  induction path generalizing e parent with
  | nil => rfl
  | cons name path ih =>
    rw [find?_cons] at h
    cases hx : e.child? name with
    | none => simp [hx] at h
    | some x =>
      have rest : (x.find? path).isSome := by simpa [hx] using h
      rw [displayAt_cons hx, ih rest, hcount, List.map_cons, List.sum_cons, Nat.add_assoc]

end Entry

/-- Whether everything that is said of a parameter, its path apart, stands on one line, and its type has
no bar. -/
structure Record.IsTidy (r : Record) : Prop where
  detail : ∀ detail, r.detailType = some detail → ∃ type : ValueType, detail = type.text
  default : r.isRequired = false → lineBreaks r.defaultText = 0
  summary : lineBreaks r.summary = 0

lemma ValueType.isPlain_text (type : ValueType) : IsPlain type.text := by cases type <;> decide

lemma ValueType.isPlain_docName (type : ValueType) : IsPlain type.docName := by
  cases type <;> decide

lemma Version.isPlain_text (v : Version) : IsPlain v.text := by cases v <;> decide

lemma Record.IsTidy.isPlain_typeName {r : Record} (h : r.IsTidy) : IsPlain r.typeName := by
  have of_append : ∀ s t, openBars (s ++ (" of " ++ t)) = openBars s + openBars t := by
    intro s t
    rw [openBars_append (show " of " = .ofList [' ', 'o', 'f', ' '] from rfl) (by decide) (by decide)]
    simp [openBarsAfter, openBars]
  unfold typeName
  split
  · rename_i detail hdetail
    obtain ⟨text, htext, hnonempty⟩ := Option.bind_eq_some_iff.mp hdetail
    obtain ⟨type, rfl⟩ := h.detail text htext
    obtain ⟨-, rfl⟩ := nonempty?_eq_some.mp hnonempty
    obtain ⟨hlines, hbars⟩ := r.valueType.isPlain_docName
    obtain ⟨htypeLines, htypeBars⟩ := type.isPlain_text
    constructor
    · simp [hlines, htypeLines, show lineBreaks " of " = 0 from rfl]
    · rw [String.append_assoc, of_append, hbars, htypeBars]
  · exact r.valueType.isPlain_docName

namespace Catalog

variable {c : Catalog} {r : Record}

lemma lineBreaks_parameterRowAt (h : r.IsTidy) :
    lineBreaks (c.parameterRowAt r) = lineBreaks (c.displayPath r.path) := by
  have default : lineBreaks (if r.isRequired then "Required" else inlineCode r.defaultText) = 0 := by
    split
    · rfl
    · rename_i hrequired
      rw [lineBreaks_inlineCode, h.default (by simpa using hrequired)]
  rw [parameterRowAt, lineBreaks_tableRow]
  simp [default, h.isPlain_typeName.1, h.summary, r.since.isPlain_text.1]

lemma openBars_parameterRowAt (h : r.IsTidy) :
    openBars (c.parameterRowAt r) = 6 + openBars (c.displayPath r.path) := by
  rw [parameterRowAt, openBars_tableRow (List.cons_ne_nil _ _)]
  simp [h.isPlain_typeName.2, r.since.isPlain_text.2]

lemma find?_isSome_of_get? {path : List String} (h : c.get? path = some r) :
    (c.root.find? path).isSome := by
  obtain ⟨e, he, -⟩ := Option.bind_eq_some_iff.mp h
  exact Option.isSome_iff_exists.mpr ⟨e, he⟩

lemma sum_eq_zero_iff {α : Type} {xs : List α} {count : α → Nat} :
    (xs.map count).sum = 0 ↔ ∀ x ∈ xs, count x = 0 := by
  rw [List.sum_eq_zero_iff_forall_eq_nat, List.forall_mem_map]

lemma sum_eq_of_forall {α : Type} {xs : List α} {count more : α → Nat} {k : Nat}
    (h : ∀ x ∈ xs, count x = k + more x) :
    (xs.map count).sum = k * xs.length + (xs.map more).sum := by
  induction xs with
  | nil => rfl
  | cons x xs ih =>
    have rest := ih fun y hy => h y (List.mem_cons_of_mem _ hy)
    have here := h x List.mem_cons_self
    rw [List.map_cons, List.map_cons, List.sum_cons, List.sum_cons, List.length_cons, Nat.mul_add_one]
    omega

/-- Two tables with as many rows have as many line breaks and bars in their rows. -/
lemma sum_eq_of_join_eq {rows others : List String} (hlength : rows.length = others.length)
    (h : join "\n" (tableHeader ++ rows) ++ "\n" = join "\n" (tableHeader ++ others) ++ "\n") :
    (rows.map lineBreaks).sum = (others.map lineBreaks).sum
      ∧ (rows.map openBars).sum = (others.map openBars).sum := by
  have some_line : ∀ lines, tableHeader ++ lines ≠ [] := fun lines => by simp [tableHeader]
  have breaks := congrArg lineBreaks h
  have bars := congrArg openBars h
  rw [lineBreaks_join_lines (some_line _), lineBreaks_join_lines (some_line _)] at breaks
  rw [openBars_join_lines, openBars_join_lines] at bars
  simp only [List.map_append, List.sum_append, List.length_append] at breaks bars
  omega

/-- The table is one if all names are plain, and only then: what a name adds to its row shows in the
number of lines or in that of the bars. -/
theorem Sound.isTable_iff (h : c.Sound) (htidy : ∀ r ∈ c.leaves, r.IsTidy) :
    IsTable c.size (c.summaryTable Skip.none) ↔ ∀ r ∈ c.leaves, ∀ name ∈ r.path, IsPlain name := by
  have breaks : ∀ r ∈ c.leaves,
      lineBreaks (c.parameterRowAt r) = (r.path.map lineBreaks).sum := by
    intro r hr
    have found := find?_isSome_of_get? ((mem_leaves h).mp hr).1
    rw [lineBreaks_parameterRowAt (htidy r hr), displayPath,
      Entry.sum_displayAt Entry.lineBreaks_displayUnder found, lineBreaks_empty, Nat.zero_add]
  have bars : ∀ r ∈ c.leaves,
      openBars (c.parameterRowAt r) = 6 + (r.path.map openBars).sum := by
    intro r hr
    have found := find?_isSome_of_get? ((mem_leaves h).mp hr).1
    rw [openBars_parameterRowAt (htidy r hr), displayPath,
      Entry.sum_displayAt Entry.openBars_displayUnder found, openBars_empty, Nat.zero_add]
  rw [h.summaryTable_none]
  constructor
  · rintro ⟨rows, hsize, htext, hrows⟩ r hr name hname
    obtain ⟨sameBreaks, sameBars⟩ := sum_eq_of_join_eq (by rw [List.length_map, hsize]; rfl) htext
    rw [List.map_map, sum_eq_zero_iff.mpr fun row hrow => lineBreaks_eq_zero_iff.mpr (hrows row hrow).1]
      at sameBreaks
    have noBreak : (r.path.map lineBreaks).sum = 0 :=
      (breaks r hr).symm.trans (sum_eq_zero_iff.mp sameBreaks r hr)
    have expected : (rows.map openBars).sum = 6 * rows.length := by
      have each : ∀ row ∈ rows, openBars row = 6 + (fun _ => 0) row := fun row hrow =>
        (hrows row hrow).2
      rw [sum_eq_of_forall each]
      simp
    have found : ((c.leaves.map c.parameterRowAt).map openBars).sum
        = 6 * c.leaves.length + (c.leaves.map fun r => (r.path.map openBars).sum).sum := by
      rw [List.map_map]
      exact sum_eq_of_forall bars
    have noBars : (c.leaves.map fun r => (r.path.map openBars).sum).sum = 0 := by
      have size : rows.length = c.leaves.length := hsize
      omega
    exact ⟨sum_eq_zero_iff.mp noBreak name hname,
      sum_eq_zero_iff.mp (sum_eq_zero_iff.mp noBars r hr) name hname⟩
  · intro hplain
    refine ⟨c.leaves.map c.parameterRowAt, List.length_map .., rfl, fun row hrow => ?_⟩
    obtain ⟨r, hr, rfl⟩ := List.mem_map.mp hrow
    rw [← lineBreaks_eq_zero_iff, breaks r hr, bars r hr, sum_eq_zero_iff]
    refine ⟨fun name hname => (hplain r hr name hname).1, ?_⟩
    rw [sum_eq_zero_iff.mpr fun name hname => (hplain r hr name hname).2]

end Catalog

section form

/-- The default of a parameter of some kind as the documentation shows it. -/
def Kind.defaultText {α : Type} (kind : Kind α) (a : α) : String :=
  match kind.displayDefault with
  | some hint => Value.enquote hint
  | none => (kind.toValue a).display

/-- Whether a default of a parameter of some kind is shown on one line. -/
structure Kind.ShowsOnOneLine {α : Type} (kind : Kind α) (a : α) : Prop where
  lineBreaks : lineBreaks (kind.defaultText a) = 0

/-- Whether a map is shown on one line. -/
structure Kind.ShowsMapOnOneLine {κ α : Type} (kind : Kind α) (keys : Enumeration κ)
    (entries : List (κ × α)) : Prop where
  lineBreaks : lineBreaks
    (Value.ofEntries (fun k => .member (keys.member k)) kind.toValue entries).display = 0

namespace Form

/-- Whether the default of each parameter of a form is shown on one line. -/
def DefaultsOnOneLine {σ α : Type} : Form σ α → σ → Prop
  | ap f x, d => f.DefaultsOnOneLine d ∧ x.DefaultsOnOneLine d
  | zoom get body, d => body.DefaultsOnOneLine (get d)
  | scalar _ kind get _, d => kind.ShowsOnOneLine (get d)
  | enumMap _ keys kind get _, d => kind.ShowsMapOnOneLine keys (get d)
  | group _ body _, d => body.DefaultsOnOneLine d
  | optionalGroup _ body _, d => body.DefaultsOnOneLine d
  | list _ element _ _, d => element.DefaultsOnOneLine d
  | _, _ => True

variable {σ α : Type} {f : Form σ α} {d : σ} {n : Node} {r : Record}

lemma isTidy_scalarRecord {p : Parameter} {kind : Kind α} {default : Option α}
    (h : ∀ a, default = some a → kind.ShowsOnOneLine a) :
    (p.scalarRecord kind default).IsTidy where
  detail := fun _ hdetail => by cases hdetail
  default := by
    intro hrequired
    cases default with
    | none => cases hrequired
    | some a => exact (h a rfl).lineBreaks
  summary := lineBreaks_collapse

/-- A form registers tidy parameters if its defaults are. -/
lemma isTidy_of_mem_calls (hf : f.DefaultsOnOneLine d) (h : .parameter r ∈ f.calls d n) :
    r.IsTidy := by
  induction f generalizing n with
  | ap f x ihf ihx => exact (List.mem_append.mp h).elim (ihf hf.1) (ihx hf.2)
  | zoom get body ih => exact ih hf h
  | scalar name kind get note =>
    obtain rfl := Call.parameter.inj (List.mem_singleton.mp h)
    exact isTidy_scalarRecord fun a ha => Option.some.inj ha ▸ hf
  | required name kind note =>
    obtain rfl := Call.parameter.inj (List.mem_singleton.mp h)
    exact isTidy_scalarRecord fun a ha => by cases ha
  | enumMap name keys kind get note =>
    obtain rfl := Call.parameter.inj (List.mem_singleton.mp h)
    exact ⟨fun detail hdetail => ⟨kind.type, (Option.some.inj hdetail).symm⟩, fun _ => hf.lineBreaks,
      lineBreaks_collapse⟩
  | eachKey kind note =>
    obtain ⟨key, -, h⟩ := List.mem_flatMap.mp h
    obtain rfl := Call.parameter.inj (List.mem_singleton.mp h)
    exact isTidy_scalarRecord fun a ha => by cases ha
  | group name body note ih => exact ih hf ((List.mem_cons.mp h).resolve_left (by simp))
  | optionalGroup name body note ih =>
    have h := (List.mem_cons.mp h).resolve_left (by simp)
    split at h
    · simp at h
    · exact ih hf h
  | list name element get note ih =>
    obtain ⟨m, -, h⟩ := List.mem_flatMap.mp ((List.mem_cons.mp h).resolve_left (by simp))
    exact ih hf h
  | _ => simp [calls] at h

/-- A form into an empty catalog fills a table if the names that it gives are plain and the keys that it
takes from the document are. -/
theorem isTable_iff (hf : f.Declared) (hs : f.Separate) (hdefaults : f.DefaultsOnOneLine d)
    (hnames : ∀ name ∈ f.names, IsPlain name) (hroot : n.docPath = []) {c : Catalog}
    (hc : ({} : Catalog).absorb (f.calls d n) ((f.marks n).map (n.path ++ ·)) = .ok c) :
    IsTable c.size (c.summaryTable Skip.none) ↔ ∀ key ∈ f.freeKeys n, IsPlain key := by
  have hfills := fills_of_absorb hf hs hc
  have paths : ∀ l, (∃ r ∈ c.leaves, r.path = l) ↔ l ∈ f.leafPaths n := by
    intro l
    rw [← Catalog.contains_iff_exists_leaf hfills.sound, hfills.contains_iff, hroot]
    simp
  have tidy : ∀ r ∈ c.leaves, r.IsTidy := by
    intro r hr
    obtain ⟨hget, hgroup⟩ := (Catalog.mem_leaves hfills.sound).mp hr
    exact isTidy_of_mem_calls hdefaults ((mem_calls_of_get? hf hc hget).1 hgroup)
  rw [hfills.sound.isTable_iff tidy]
  constructor
  · intro hplain key hkey
    obtain ⟨l, hl, hin⟩ := exists_leafPath_of_mem_freeKeys hkey
    obtain ⟨r, hr, rfl⟩ := (paths l).mpr hl
    exact hplain r hr key hin
  · intro hplain r hr name hname
    rcases mem_names_or_freeKeys ((paths r.path).mp ⟨r, hr, rfl⟩) hname with hin | hkey
    · exact hnames name hin
    · exact hplain name hkey

end Form
end form
end PlannerConfig
