import PlannerConfig.Parameter.Generic
import PlannerConfig.Proofs.Document.Merge
import PlannerConfig.Proofs.Form.Reading
import PlannerConfig.Proofs.Traversal

/-!
Maps whose keys spell members, read from one object laid over another. Layers are laid over each other
by the letters of their keys, and a map knows its keys by the members that they spell. Of the keys that
spell one member the last counts, and a key of the lower object keeps its place.
-/
namespace PlannerConfig

namespace Enumeration

variable {κ : Type} [DecidableEq κ] (keys : Enumeration κ)

/-- The last of some names that spells a member. -/
def lastName? (names : List String) (k : κ) : Option String :=
  (names.filter fun name => keys.find? name = some k).getLast?

variable {keys} {names others base layer : List String} {name : String} {k : κ}

lemma lastName?_append : keys.lastName? (names ++ others) k
    = (keys.lastName? others k).or (keys.lastName? names k) := by
  rw [lastName?, List.filter_append, List.getLast?_append]
  rfl

lemma lastName?_singleton :
    keys.lastName? [name] k = if keys.find? name = some k then some name else none := by
  unfold lastName?
  split <;> simp [*]

lemma lastName?_eq_none_iff :
    keys.lastName? names k = none ↔ ∀ name ∈ names, keys.find? name ≠ some k := by
  simp [lastName?]

lemma spells_of_lastName? (h : keys.lastName? names k = some name) :
    name ∈ names ∧ keys.find? name = some k := by
  simpa using List.mem_of_getLast? h

lemma lastName?_filter {q : String → Bool} (h : keys.lastName? names k = some name)
    (hq : q name = true) : keys.lastName? (names.filter q) k = some name := by
  obtain ⟨before, hnames⟩ := List.getLast?_eq_some_iff.mp h
  have swap : (names.filter q).filter (fun name => keys.find? name = some k)
      = (names.filter fun name => keys.find? name = some k).filter q := by
    simp only [List.filter_filter, Bool.and_comm]
  rw [lastName?, swap, hnames, List.filter_append, List.filter_singleton, hq]
  exact List.getLast?_concat ..

/-- Whether the name that counts in an upper object is the one that counts when it is laid over a
lower one: it is new, or all names of the member are known and it is the last of them there too. -/
def Prevails (keys : Enumeration κ) (base layer : List String) (k : κ) (name : String) : Prop :=
  name ∉ base ∨
    (∀ other ∈ layer, keys.find? other = some k → other ∈ base) ∧ keys.lastName? base k = some name

/-- The names of a merged object are those of the lower one and then the new ones. -/
lemma lastName?_merged_iff (h : keys.lastName? layer k = some name) :
    keys.lastName? (base ++ layer.filter (· ∉ base)) k = some name
      ↔ keys.Prevails base layer k name := by
  have known : keys.lastName? (layer.filter (· ∉ base)) k = none
      ↔ ∀ other ∈ layer, keys.find? other = some k → other ∈ base := by
    simp only [lastName?_eq_none_iff, List.mem_filter, decide_eq_true_eq]
    exact ⟨fun hnone other hin hspells => by_contra fun hnew => hnone other ⟨hin, hnew⟩ hspells,
      fun hall other hin hspells => hin.2 (hall other hin.1 hspells)⟩
  rw [Prevails, lastName?_append, ← known]
  cases hfresh : keys.lastName? (layer.filter (· ∉ base)) k with
  | none =>
    obtain ⟨hin, hspells⟩ := spells_of_lastName? h
    have hname : name ∈ base := known.mp hfresh name hin hspells
    simp [hname]
  | some other =>
    have hother : other ∉ base := by simpa using (List.mem_filter.mp (spells_of_lastName? hfresh).1).2
    constructor
    · intro heq
      obtain rfl : other = name := Option.some.inj heq
      exact .inl hother
    · rintro (hname | ⟨hnone, -⟩)
      · have hlast := lastName?_filter (q := (· ∉ base)) h (by simpa using hname)
        exact hfresh.symm.trans hlast
      · cases hnone

end Enumeration

section fold

variable {κ α : Type} [BEq κ] [LawfulBEq κ] {k : κ}

/-- Of entries with the same key the last counts. -/
lemma lookup_foldl_setField (entries : List (κ × α)) :
    (entries.foldl (fun map (k, a) => setField k a map) []).lookup k
      = entries.reverse.lookup k := by
  induction entries using List.reverseRecOn with
  | nil => rfl
  | append_singleton entries e ih =>
    obtain ⟨j, a⟩ := e
    rw [List.foldl_append, List.reverse_append, List.reverse_singleton, List.singleton_append,
      List.lookup_cons]
    by_cases hk : k = j
    · subst hk
      simp
    · rw [beq_false_of_ne hk, ← ih]
      exact lookup_setField_of_ne _ _ _ hk

end fold

namespace Parameter

variable {κ α : Type} {p : Parameter}

/-- The parameter in a document that has a value for it. -/
def given (p : Parameter) (d : Document) : Parameter :=
  { p with node := { p.node with value := some d } }

variable {keys : Enumeration κ} {kind : Kind α} {entries : List (κ × α)}

lemma entry_eq_ok_iff {n : Node} {name : String} {k : κ} {a : α} :
    n.entry keys kind name = .ok (k, a)
      ↔ keys.find? name = some k ∧ kind.coerce (n.child name).value = .ok a := by
  unfold Node.entry
  cases keys.find? name with
  | none => simp
  | some j =>
    simp only [bind_eq_ok, Node.coerced_eq_ok, pure, Except.pure, Except.ok.injEq,
      Prod.mk.injEq, Option.some.injEq]
    constructor
    · rintro ⟨b, hb, rfl, rfl⟩
      exact ⟨rfl, hb⟩
    · rintro ⟨rfl, ha⟩
      exact ⟨a, ha, rfl, rfl⟩

lemma lookup_reverse_of_map_entry [DecidableEq κ] {n : Node} {names : List String}
    (h : names.map (n.entry keys kind) = entries.map .ok) (k : κ) :
    entries.reverse.lookup k
      = (keys.lastName? names k).bind fun name => (kind.coerce (n.child name).value).toOption := by
  induction names using List.reverseRecOn generalizing entries with
  | nil =>
    obtain rfl : entries = [] := by simpa using h.symm
    rfl
  | append_singleton names name ih =>
    rw [List.map_append, List.map_singleton] at h
    obtain ⟨before, last, rfl, hbefore, hlast⟩ := List.append_eq_map_iff.mp h
    obtain ⟨⟨j, a⟩, rfl, hentry⟩ := List.map_eq_singleton_iff.mp hlast
    obtain ⟨hfind, hcoerce⟩ := entry_eq_ok_iff.mp hentry.symm
    rw [List.reverse_append, List.reverse_singleton, List.singleton_append, List.lookup_cons,
      Enumeration.lastName?_append, Enumeration.lastName?_singleton, hfind]
    by_cases hk : k = j
    · subst hk
      simp [hcoerce, Except.toOption]
    · have hne : some j ≠ some k := fun heq => hk (Option.some.inj heq).symm
      rw [beq_false_of_ne hk, if_neg hne, Option.none_or]
      exact ih hbefore.symm

end Parameter

/-- The value of a map under a key. -/
def Value.valueUnder? (v key : Value) : Option Value :=
  match v with
  | map entries => (entries.find? fun e => e.1.same key).map (·.2)
  | _ => Option.none

lemma Value.valueUnder?_ofEntries (entries : List (Member × Value)) (m : Member) :
    (ofEntries member id entries).valueUnder? (member m) = entries.lookup m := by
  rw [ofEntries, valueUnder?]
  induction entries with
  | nil => rfl
  | cons e entries ih =>
    have hsame : (member e.1).same (member m) = (m == e.1) := by
      simp only [same, sameScalar, number?]
      exact Bool.beq_comm
    rw [List.map_cons, List.find?_cons, List.lookup_cons, hsame]
    cases m == e.1 with
    | true => rfl
    | false => exact ih

/-- No supported value of a map is read from an object. -/
lemma MapValueType.coerce_object {valueType : MapValueType} {kind : Kind Value}
    (h : valueType.kind? = some kind) (fields : List (String × Document)) (a : Value) :
    kind.coerce (some (.object fields)) ≠ .ok a := by
  cases valueType with
  | unsupported name => cases h
  | _ =>
    obtain rfl := Option.some.inj h
    intro hok
    cases hok

namespace Parameter

variable {p : Parameter} {keyType : EnumType} {valueType : MapValueType} {default v : Value}
  {s : PassState}

lemma kind_of_genericMap (h : ((p.genericMap keyType valueType default).runFrom s).1 = .ok v) :
    ∃ kind, valueType.kind? = some kind := by
  unfold genericMap at h
  cases hkind : valueType.kind? with
  | none =>
    rw [hkind] at h
    cases h
  | some kind => exact ⟨kind, rfl⟩

lemma hasSummary_of_genericMap
    (h : ((p.genericMap keyType valueType default).runFrom s).1 = .ok v) : p.note.HasSummary := by
  obtain ⟨kind, hkind⟩ := kind_of_genericMap h
  by_contra hnone
  have hrecord : ∀ type shown, Record.ofNote? p.node.docPath type shown p.note = none := by
    intro type shown
    simp only [Record.ofNote?, nonempty?, Classical.not_not.mp hnone]
    rfl
  have hentries : ∀ shown, p.entries keyType.enumeration kind shown = p.misdeclared .noSummary := by
    intro shown
    unfold entries record
    rw [hrecord]
    rfl
  unfold genericMap at h
  rw [hkind] at h
  dsimp only at h
  rw [hentries] at h
  cases h

/-- What a map gives: its entries, or what is shown for a missing one. -/
def mapOr (shown : Value) : Option (List (Member × Value)) → Value
  | none => shown
  | some es => .ofEntries .member id es

/-- The map of the entries read from an object. -/
def mapOf (keyType : EnumType) (kind : Kind Value) (n : Node) (fields : List (String × Document)) :
    Except Failure Value := do
  let read ← (fields.map (·.1)).mapM (n.entry keyType.enumeration kind)
  return .ofEntries .member id (read.foldl (fun map (k, a) => setField k a map) [])

/-- Reading a map from an object registers the same record whatever the object. -/
lemma reads_genericMap (h : p.note.HasSummary) (keyType : EnumType) (default : Value)
    {kind : Kind Value} (hkind : valueType.kind? = some kind) :
    ∃ calls paths, ∀ fields, Pass.Reads
      ((p.given (.object fields)).genericMap keyType valueType default)
      (mapOf keyType kind (p.given (.object fields)).node fields) calls paths := by
  obtain ⟨shown, hshown⟩ : ∃ shown, ∀ q : Parameter, q.genericMap keyType valueType default
      = q.entries keyType.enumeration kind shown >>= fun es => pure (mapOr shown es) := by
    unfold genericMap
    rw [hkind]
    dsimp only
    refine ⟨_, fun q => bind_congr fun es => ?_⟩
    cases es <;> rfl
  refine ⟨[.parameter (p.mapRecord keyType.enumeration kind shown)], [p.node.path],
    fun fields => ?_⟩
  have value : mapOf keyType kind (p.given (.object fields)).node fields
      = (p.given (.object fields)).mapValue keyType.enumeration kind
        >>= fun es => pure (mapOr shown es) := by
    have keys : (p.given (.object fields)).node.keys = fields.map (·.1) := rfl
    unfold mapOf mapValue
    rw [keys, if_neg (by simp [given, Node.isMissing]),
      if_neg (by simp [given, Node.isObject, Document.isObject])]
    cases (fields.map (·.1)).mapM ((p.given (.object fields)).node.entry keyType.enumeration kind)
      <;> rfl
  rw [hshown, value]
  have runs := runs_entries (p := p.given (.object fields)) h keyType.enumeration kind shown
  exact (runs.map _).reads

lemma mapOf_eq_ok_iff {kind : Kind Value} {n : Node} {fields : List (String × Document)} :
    mapOf keyType kind n fields = .ok v ↔ ∃ entries : List (Member × Value),
      (fields.map (·.1)).map (n.entry keyType.enumeration kind) = entries.map .ok
        ∧ .ofEntries .member id (entries.foldl (fun map (k, a) => setField k a map) []) = v := by
  unfold mapOf
  simp only [bind_eq_ok, mapM_eq_ok_iff, pure, Except.pure, Except.ok.injEq]

/-- A map has for a member what stands under the last key that spells it. -/
lemma valueUnder?_of_mapOf {kind : Kind Value} {n : Node} {fields : List (String × Document)}
    (h : mapOf keyType kind n fields = .ok v) (m : Member) :
    v.valueUnder? (.member m) = (keyType.enumeration.lastName? (fields.map (·.1)) m).bind fun name =>
      (kind.coerce (n.child name).value).toOption := by
  obtain ⟨entries, hentries, rfl⟩ := mapOf_eq_ok_iff.mp h
  rw [Value.valueUnder?_ofEntries, lookup_foldl_setField, lookup_reverse_of_map_entry hentries]

variable {base layer fields others : List (String × Document)} {kind : Kind Value} {name : String}

lemma exists_entry_of_mapOf {n : Node} (h : mapOf keyType kind n fields = .ok v)
    (hname : name ∈ fields.map (·.1)) : ∃ k a, keyType.enumeration.find? name = some k
      ∧ kind.coerce (n.child name).value = .ok a := by
  obtain ⟨entries, hentries, -⟩ := mapOf_eq_ok_iff.mp h
  obtain ⟨⟨k, a⟩, -, hentry⟩ := List.mem_map.mp (hentries ▸ List.mem_map_of_mem hname)
  exact ⟨k, a, entry_eq_ok_iff.mp hentry.symm⟩

lemma exists_mapOf {n : Node} (h : ∀ name ∈ fields.map (·.1),
      ∃ k a, keyType.enumeration.find? name = some k ∧ kind.coerce (n.child name).value = .ok a) :
    ∃ v, mapOf keyType kind n fields = .ok v := by
  have each : ∀ name ∈ fields.map (·.1), ∃ e, n.entry keyType.enumeration kind name = .ok e := by
    intro name hname
    obtain ⟨k, a, hentry⟩ := h name hname
    exact ⟨(k, a), entry_eq_ok_iff.mpr hentry⟩
  obtain ⟨entries, hentries⟩ := exists_map_eq_map_ok each
  exact ⟨_, mapOf_eq_ok_iff.mpr ⟨entries, hentries, rfl⟩⟩

lemma child_given_congr (h : fields.lookup name = others.lookup name) :
    (p.given (.object fields)).node.child name = (p.given (.object others)).node.child name := by
  simp only [given, Node.child, Option.bind_some, Document.get?, h]

section layers

variable {keyType : EnumType} {u w : Value} {m : Member} (hkind : valueType.kind? = some kind)
  (hlayer : NamesDistinct layer)
  (hw : mapOf keyType kind (p.given (.object layer)).node layer = .ok w)
include hkind hlayer hw

/-- An upper object that can be read holds no objects, which could be merged with others. -/
lemma lookup_mergeFields_of_mapOf : (Document.mergeFields base layer).lookup name
    = (layer.lookup name).or (base.lookup name) := by
  rw [Document.lookup_mergeFields hlayer]
  cases hd : layer.lookup name with
  | none => rfl
  | some d =>
    have hname : name ∈ layer.map (·.1) := isSome_lookup_iff.mp (by rw [hd]; rfl)
    obtain ⟨k, a, -, hcoerce⟩ := exists_entry_of_mapOf hw hname
    have hscalar : d.isObject = false := by
      cases d with
      | object fields =>
        refine absurd ?_ (MapValueType.coerce_object hkind fields a)
        simpa [Node.child, given, Document.get?, hd, Document.present?] using hcoerce
      | _ => rfl
    simp [Document.layOver_of_isObject_eq_false hscalar]

lemma child_merged_of_mem (h : name ∈ layer.map (·.1)) :
    (p.given (.object (Document.mergeFields base layer))).node.child name
      = (p.given (.object layer)).node.child name := by
  obtain ⟨d, hd⟩ := Option.isSome_iff_exists.mp (isSome_lookup_iff.mpr h)
  apply child_given_congr
  rw [lookup_mergeFields_of_mapOf hkind hlayer hw, hd]
  rfl

lemma child_merged_of_not_mem (h : name ∉ layer.map (·.1)) :
    (p.given (.object (Document.mergeFields base layer))).node.child name
      = (p.given (.object base)).node.child name := by
  have hnone : layer.lookup name = none := by
    rw [← isSome_lookup_iff, Bool.not_eq_true, Option.isSome_eq_false_iff] at h
    exact Option.isNone_iff_eq_none.mp h
  apply child_given_congr
  rw [lookup_mergeFields_of_mapOf hkind hlayer hw, hnone]
  rfl

lemma exists_mapOf_merged (hv : mapOf keyType kind (p.given (.object base)).node base = .ok v) :
    ∃ u, mapOf keyType kind (p.given (.object (Document.mergeFields base layer))).node
      (Document.mergeFields base layer) = .ok u := by
  apply exists_mapOf
  intro name hname
  by_cases hin : name ∈ layer.map (·.1)
  · rw [child_merged_of_mem hkind hlayer hw hin]
    exact exists_entry_of_mapOf hw hin
  · rw [child_merged_of_not_mem hkind hlayer hw hin]
    rw [Document.keys_mergeFields hlayer] at hname
    rcases List.mem_append.mp hname with hname | hname
    · exact exists_entry_of_mapOf hv hname
    · exact absurd (List.mem_filter.mp hname).1 hin

variable (hu : mapOf keyType kind (p.given (.object (Document.mergeFields base layer))).node
  (Document.mergeFields base layer) = .ok u)
include hu

/-- What the upper object does not name is as in the lower one. -/
lemma valueUnder?_merged_of_unnamed (hv : mapOf keyType kind (p.given (.object base)).node base = .ok v)
    (h : ∀ name ∈ layer.map (·.1), keyType.enumeration.find? name ≠ some m) :
    u.valueUnder? (.member m) = v.valueUnder? (.member m) := by
  have fresh : keyType.enumeration.lastName?
      ((layer.map (·.1)).filter (· ∉ base.map (·.1))) m = none :=
    Enumeration.lastName?_eq_none_iff.mpr fun name hname => h name (List.mem_filter.mp hname).1
  rw [valueUnder?_of_mapOf hu, valueUnder?_of_mapOf hv, Document.keys_mergeFields hlayer,
    Enumeration.lastName?_append, fresh, Option.none_or]
  cases hlast : keyType.enumeration.lastName? (base.map (·.1)) m with
  | none => rfl
  | some name =>
    have hname : name ∉ layer.map (·.1) := fun hin =>
      h name hin (Enumeration.spells_of_lastName? hlast).2
    rw [Option.bind_some, Option.bind_some, child_merged_of_not_mem hkind hlayer hw hname]

lemma valueUnder?_merged_of_prevails (hlast : keyType.enumeration.lastName? (layer.map (·.1)) m = some name)
    (h : keyType.enumeration.Prevails (base.map (·.1)) (layer.map (·.1)) m name) :
    u.valueUnder? (.member m) = w.valueUnder? (.member m) := by
  rw [valueUnder?_of_mapOf hu, valueUnder?_of_mapOf hw, Document.keys_mergeFields hlayer,
    (Enumeration.lastName?_merged_iff hlast).mpr h, hlast, Option.bind_some, Option.bind_some,
    child_merged_of_mem hkind hlayer hw (Enumeration.spells_of_lastName? hlast).1]

/-- A key of the upper object that does not prevail leaves its member to another spelling. -/
lemma valueUnder?_merged_of_not_prevails
    (hlast : keyType.enumeration.lastName? (layer.map (·.1)) m = some name)
    (h : ¬ keyType.enumeration.Prevails (base.map (·.1)) (layer.map (·.1)) m name) :
    ∃ other d a, other ≠ name ∧ keyType.enumeration.find? other = some m
      ∧ (layer.lookup other).or (base.lookup other) = some d ∧ kind.coerce d.present? = .ok a
      ∧ u.valueUnder? (.member m) = some a := by
  obtain ⟨hname, hspells⟩ := Enumeration.spells_of_lastName? hlast
  have names := Document.keys_mergeFields hlayer base
  obtain ⟨other, hother⟩ : ∃ other, keyType.enumeration.lastName?
      ((Document.mergeFields base layer).map (·.1)) m = some other := by
    refine Option.ne_none_iff_exists'.mp fun hnone => ?_
    refine Enumeration.lastName?_eq_none_iff.mp hnone name ?_ hspells
    rw [names, List.mem_append, List.mem_filter, decide_eq_true_eq]
    tauto
  obtain ⟨hin, hother_spells⟩ := Enumeration.spells_of_lastName? hother
  obtain ⟨-, a, -, hcoerce⟩ := exists_entry_of_mapOf hu hin
  obtain ⟨d, hd⟩ := Option.isSome_iff_exists.mp (isSome_lookup_iff.mpr hin)
  refine ⟨other, d, a, ?_, hother_spells, ?_, ?_, ?_⟩
  · rintro rfl
    exact h ((Enumeration.lastName?_merged_iff hlast).mp (names ▸ hother))
  · rw [← lookup_mergeFields_of_mapOf hkind hlayer hw, hd]
  · simpa [given, Node.child, Document.get?, hd] using hcoerce
  · rw [valueUnder?_of_mapOf hu, hother, Option.bind_some, hcoerce]
    rfl

end layers

/-- A map is read from one object laid over another if it is read from each. What stands under the last
key that spells a member counts: what the lower object gives if the upper one does not name the member,
what the upper one gives if its last key for the member prevails, and otherwise what stands under another
spelling. -/
theorem genericMap_merge (p : Parameter) (keyType : EnumType) (valueType : MapValueType)
    (default : Value) {base layer : List (String × Document)} (hlayer : NamesDistinct layer)
    {s t : PassState} {v w : Value}
    (hv : (((p.given (.object base)).genericMap keyType valueType default).runFrom s).1 = .ok v)
    (hw : (((p.given (.object layer)).genericMap keyType valueType default).runFrom t).1 = .ok w) :
    let merged := Document.merge (.object base) (.object layer)
    let keys := keyType.enumeration
    ∃ kind u, valueType.kind? = some kind
      ∧ (((p.given merged).genericMap keyType valueType default).runFrom s).1 = .ok u
      ∧ ∀ m : Member,
        ((∀ name ∈ layer.map (·.1), keys.find? name ≠ some m)
          → u.valueUnder? (.member m) = v.valueUnder? (.member m))
        ∧ ∀ name, keys.lastName? (layer.map (·.1)) m = some name →
          (keys.Prevails (base.map (·.1)) (layer.map (·.1)) m name
            → u.valueUnder? (.member m) = w.valueUnder? (.member m))
          ∧ (¬ keys.Prevails (base.map (·.1)) (layer.map (·.1)) m name
            → ∃ other d a, other ≠ name ∧ keys.find? other = some m
              ∧ (layer.lookup other).or (base.lookup other) = some d
              ∧ kind.coerce d.present? = .ok a ∧ u.valueUnder? (.member m) = some a) := by
  intro merged keys
  have hmerged : merged = .object (Document.mergeFields base layer) := by
    simp only [merged, Document.merge, Document.layOver]
  rw [hmerged]
  obtain ⟨kind, hkind⟩ := kind_of_genericMap hv
  have hsummary := hasSummary_of_genericMap hv
  obtain ⟨calls, paths, reads⟩ := reads_genericMap (p := p) hsummary keyType default hkind
  obtain ⟨hbase, haccepted⟩ := (reads base).fst_eq_ok_iff.mp hv
  obtain ⟨hover, -⟩ := (reads layer).fst_eq_ok_iff.mp hw
  obtain ⟨u, hu⟩ := exists_mapOf_merged hkind hlayer hover hbase
  refine ⟨kind, u, hkind, (reads _).fst_eq_ok_iff.mpr ⟨hu, haccepted⟩, fun m => ⟨?_, ?_⟩⟩
  · exact valueUnder?_merged_of_unnamed hkind hlayer hover hu hbase
  · intro name hlast
    exact ⟨valueUnder?_merged_of_prevails hkind hlayer hover hu hlast,
      valueUnder?_merged_of_not_prevails hkind hlayer hover hu hlast⟩

/-- An enumeration of two modes. -/
def modeType : EnumType := ⟨"Mode", [.ofLabel "bus", .ofLabel "tram"]⟩

def busMode : Member := ⟨modeType, .ofLabel "bus"⟩

def tramMode : Member := ⟨modeType, .ofLabel "tram"⟩

/-- A map of numbers by modes, read from a document. -/
def readNumbers (d : Document) : Except Failure Value :=
  let p := (Node.root .null).parameter "reluctanceForMode" { summary := "Reluctance." }
  ((p.given d).genericMap modeType .integer .none).run.1

/-- The upper object names a mode in another spelling, which is new and so the last. -/
theorem genericMap_merge_new_spelling :
    let base := [("BUS", .int 1), ("tram", .int 4)]
    let layer := [("bus", .int 3)]
    let v : Value := .map [(.member busMode, .int 1), (.member tramMode, .int 4)]
    let w : Value := .map [(.member busMode, .int 3)]
    NamesDistinct layer ∧ readNumbers (.object base) = .ok v ∧ readNumbers (.object layer) = .ok w
      ∧ ∃ u, readNumbers (.merge (.object base) (.object layer)) = .ok u
        ∧ u.valueUnder? (.member busMode) = w.valueUnder? (.member busMode)
        ∧ u.valueUnder? (.member tramMode) = v.valueUnder? (.member tramMode) := by
  intro base layer v w
  have hdistinct : NamesDistinct layer := by simp [layer, NamesDistinct]
  have hv : readNumbers (.object base) = .ok v := by
    dsimp only [base, v]
    rfl
  have hw : readNumbers (.object layer) = .ok w := by
    dsimp only [layer, w]
    rfl
  obtain ⟨kind, u, -, hu, hentries⟩ := genericMap_merge _ _ _ _ hdistinct hv hw
  refine ⟨hdistinct, hv, hw, u, hu, ?_, ?_⟩
  · exact ((hentries busMode).2 "bus" (by decide +kernel)).1 (.inl (by decide))
  · exact (hentries tramMode).1 (by decide +kernel)

/-- The upper object names a mode, and yet the lower one gives its value: there the mode has a second
spelling, which comes later. -/
theorem lower_value_under_second_spelling :
    let base := Document.object [("BUS", .int 1), ("bus", .int 2)]
    let layer := Document.object [("BUS", .int 3)]
    modeType.enumeration.find? "BUS" = some busMode
      ∧ readNumbers base = .ok (.map [(.member busMode, .int 2)])
      ∧ readNumbers layer = .ok (.map [(.member busMode, .int 3)])
      ∧ readNumbers (base.merge layer) = .ok (.map [(.member busMode, .int 2)]) := by
  exact ⟨by decide +kernel, rfl, rfl, rfl⟩

end Parameter
end PlannerConfig
