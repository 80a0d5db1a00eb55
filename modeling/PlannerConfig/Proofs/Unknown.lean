import PlannerConfig.Proofs.Form.Coverage
import PlannerConfig.Unknown

/-!
Unknown values of a document against the catalog of the pass that read it.
-/
namespace PlannerConfig

/-- Whether neither a place is consumed nor one above it up to a document. `path` is that of the
document, `q` the way from there. -/
def isUnread (consumed : Path → Bool) (path q : Path) : Bool :=
  q.inits.all fun m => !consumed (path ++ m)

section unread

variable {consumed : Path → Bool} {path : Path}

lemma isUnread_eq_false_iff {q : Path} :
    isUnread consumed path q = false ↔ ∃ m, m <+: q ∧ consumed (path ++ m) = true := by
  simp [isUnread]

@[simp] lemma isUnread_nil : isUnread consumed path [] = !consumed path := by
  simp [isUnread]

lemma isUnread_cons {s : Step} {q : Path} :
    isUnread consumed path (s :: q) = (!consumed path && isUnread consumed (path ++ [s]) q) := by
  simp [isUnread, List.all_map, Function.comp_def]

/-- What is unread beneath a step, seen from above it. -/
lemma filter_isUnread_map (h : consumed path = false) (s : Step) (qs : List Path) :
    ((qs.map (s :: ·)).filter (isUnread consumed path)).map (path ++ ·)
      = (qs.filter (isUnread consumed (path ++ [s]))).map (path ++ [s] ++ ·) := by
  have same : isUnread consumed path ∘ (s :: ·) = isUnread consumed (path ++ [s]) := by
    funext q
    simp [isUnread_cons, h]
  rw [List.filter_map, same, List.map_map]
  simp [Function.comp_def]

lemma filter_isUnread_of_consumed (h : consumed path = true) (qs : List Path) :
    qs.filter (isUnread consumed path) = [] := by
  rw [List.filter_eq_nil_iff]
  intro q _
  rw [Bool.not_eq_true, isUnread_eq_false_iff]
  exact ⟨[], List.nil_prefix, by rwa [List.append_nil]⟩

lemma unread_scalar (h : path ≠ [] ∨ [] ∉ [([] : Path)]) :
    (if consumed path || path.isEmpty then [] else [path])
      = ([[]].filter (isUnread consumed path)).map (path ++ ·) := by
  have hne : path.isEmpty = false := by simpa using h
  cases hc : consumed path <;> simp [hc, hne, List.filter]

mutual

/-- The unread values are the scalars that lie in no consumed place. -/
theorem unread_eq (consumed : Path → Bool) (path : Path) : ∀ d : Document,
    path ≠ [] ∨ [] ∉ d.scalars →
    unread consumed path d = (d.scalars.filter (isUnread consumed path)).map (path ++ ·)
  | .null, _ => rfl
  | .array items, _ => by
    unfold unread Document.scalars
    split
    · rw [filter_isUnread_of_consumed ‹_›, List.map_nil]
    · rename_i h
      exact unreadItems_eq consumed path (by simpa using h) 0 items
  | .object fields, _ => by
    unfold unread Document.scalars
    split
    · rw [filter_isUnread_of_consumed ‹_›, List.map_nil]
    · rename_i h
      exact unreadFields_eq consumed path (by simpa using h) fields
  | .bool _, h => unread_scalar h
  | .int _, h => unread_scalar h
  | .float _, h => unread_scalar h
  | .text _, h => unread_scalar h
  | .date _, h => unread_scalar h
  | .time _, h => unread_scalar h
  | .moment _, h => unread_scalar h

lemma unreadItems_eq (consumed : Path → Bool) (path : Path) (h : consumed path = false) :
    ∀ (index : Nat) (items : List Document), unreadItems consumed path index items
      = ((Document.scalarsOfItems index items).filter (isUnread consumed path)).map (path ++ ·)
  | _, [] => rfl
  | index, item :: items => by
    rw [unreadItems, Document.scalarsOfItems, List.filter_append, List.map_append,
      filter_isUnread_map h, unread_eq consumed _ item (.inl (by simp)),
      unreadItems_eq consumed path h (index + 1) items]

lemma unreadFields_eq (consumed : Path → Bool) (path : Path) (h : consumed path = false) :
    ∀ fields : List (String × Document), unreadFields consumed path fields
      = ((Document.scalarsOfFields fields).filter (isUnread consumed path)).map (path ++ ·)
  | [] => rfl
  | (key, value) :: fields => by
    rw [unreadFields, Document.scalarsOfFields, List.filter_append, List.map_append,
      filter_isUnread_map h, unread_eq consumed _ value (.inl (by simp)),
      unreadFields_eq consumed path h fields]

end

end unread

namespace Catalog

/-- A value that a catalog passes over: it is not the document as a whole, and neither its path nor one
above it, up to that of the document, is consumed. -/
structure PassesOver (c : Catalog) (path p : Path) : Prop where
  named : p ≠ []
  unconsumed : ∀ m, m <+: p → path.length ≤ m.length → c.isConsumed m = false

instance (c : Catalog) (path p : Path) : Decidable (c.PassesOver path p) :=
  decidable_of_iff (p ≠ [] ∧ ∀ m ∈ p.inits, path.length ≤ m.length → c.isConsumed m = false)
    ⟨fun ⟨hp, h⟩ => ⟨hp, fun m hm => h m ((List.mem_inits m p).mpr hm)⟩,
      fun h => ⟨h.named, fun m hm => h.unconsumed m ((List.mem_inits m p).mp hm)⟩⟩

variable {c : Catalog} {path : Path}

lemma passesOver_append {q : Path} (h : path ≠ [] ∨ q ≠ []) :
    c.PassesOver path (path ++ q) ↔ isUnread c.isConsumed path q = true := by
  have named : path ++ q ≠ [] := by rcases h with h | h <;> simp [h]
  rw [← not_iff_not, Bool.not_eq_true, isUnread_eq_false_iff]
  constructor
  · intro hover
    by_contra hnone
    refine hover ⟨named, fun m hm hlength => ?_⟩
    -- such a place lies at the path or beneath it
    obtain ⟨r, rfl⟩ := List.prefix_of_prefix_length_le (List.prefix_append path q) hm hlength
    by_contra hc
    exact hnone ⟨r, (List.prefix_append_right_inj path).mp hm, by simpa using hc⟩
  · rintro ⟨r, hr, hc⟩ hover
    have unconsumed := hover.unconsumed (path ++ r) ((List.prefix_append_right_inj path).mpr hr)
      (by simp)
    rw [hc] at unconsumed
    cases unconsumed

lemma PassesOver.of_consumeAll {paths : List Path} {p : Path}
    (h : (c.consumeAll paths).PassesOver path p) : c.PassesOver path p where
  named := h.named
  unconsumed := fun m hm hlength => by
    by_contra hc
    have consumed : (c.consumeAll paths).isConsumed m = true :=
      isConsumed_consumeAll.mpr (.inr (by simpa using hc))
    rw [h.unconsumed m hm hlength] at consumed
    cases consumed

lemma unread_eq_filter (c : Catalog) (path : Path) (d : Document) :
    unread c.isConsumed path d
      = (d.scalars.map (path ++ ·)).filter fun p => c.PassesOver path p := by
  by_cases h : path ≠ [] ∨ [] ∉ d.scalars
  · rw [unread_eq _ _ _ h, List.filter_map]
    congr 1
    refine List.filter_congr fun q hq => ?_
    have named : path ≠ [] ∨ q ≠ [] := by
      rcases h with h | h
      · exact .inl h
      · exact .inr fun hnil => h (hnil ▸ hq)
    rw [Function.comp_apply, Bool.eq_iff_iff, decide_eq_true_iff, passesOver_append named]
  · -- the document is a scalar at the root, which has no path to be named by
    rw [not_or, not_not, not_not] at h
    obtain ⟨rfl, hnil⟩ := h
    have named : ¬ c.PassesOver [] [] := fun hp => hp.named rfl
    cases d with
    | null => rfl
    | array items =>
      obtain ⟨i, e, r, -, -, heq⟩ := Document.mem_scalarsOfItems.mp hnil
      cases heq
    | object fields =>
      obtain ⟨k, e, r, -, -, heq⟩ := Document.mem_scalarsOfFields.mp hnil
      cases heq
    | _ => simp [unread, Document.scalars, named]

/-- The unknown values at a node are the scalars there that the catalog passes over, in the order of the
document; once more places are consumed some of them are left, in the same order. -/
theorem unknown_eq_filter (c : Catalog) (n : Node) :
    c.unknown n
        = ((n.scalars.map (n.path ++ ·)).filter fun p => c.PassesOver n.path p).map Path.text
      ∧ ∀ paths, ((c.consumeAll paths).unknown n).Sublist (c.unknown n) := by
  have exact : ∀ c : Catalog, c.unknown n
      = ((n.scalars.map (n.path ++ ·)).filter fun p => c.PassesOver n.path p).map Path.text := by
    intro c
    unfold unknown Node.scalars
    cases n.value with
    | none => rfl
    | some d => exact congrArg (List.map Path.text) (unread_eq_filter c n.path d)
  refine ⟨exact c, fun paths => ?_⟩
  rw [exact, exact]
  apply List.Sublist.map
  apply List.monotone_filter_right
  intro p hp
  exact decide_eq_true (PassesOver.of_consumeAll (of_decide_eq_true hp))

/-- Whether there is a parameter at a path or above it. -/
def documents (c : Catalog) (p : Path) : Bool := c.leaves.any fun r => r.path.isPrefixOf p.keys

lemma documents_iff {c : Catalog} (h : c.Sound) {p : Path} :
    c.documents p = true ↔ ∃ l, c.contains l = true ∧ l <+: p.keys := by
  simp only [documents, List.any_eq_true, List.isPrefixOf_iff_prefix, contains_iff_exists_leaf h]
  constructor
  · rintro ⟨r, hr, hp⟩
    exact ⟨r.path, ⟨r, hr, rfl⟩, hp⟩
  · rintro ⟨_, ⟨r, hr, rfl⟩, hp⟩
    exact ⟨r, hr, hp⟩

end Catalog

namespace Form

variable {σ α : Type}

/-- Whether a form passes over a parameter at a path or above it. -/
def passesOver (f : Form σ α) (p : Path) : Bool :=
  f.retiredPaths.any fun l => l.isPrefixOf p.keys

lemma passesOver_iff {f : Form σ α} {p : Path} :
    f.passesOver p = true ↔ ∃ l ∈ f.retiredPaths, l <+: p.keys := by
  simp only [passesOver, List.any_eq_true, List.isPrefixOf_iff_prefix]

variable {f : Form σ α} {n m : Node} {c : Catalog}

lemma Fills.documents_iff (h : f.Fills n c) (hroot : n.path = []) {p : Path} :
    c.documents p = true ↔ ∃ l ∈ f.leafPaths n, l <+: Path.keys p := by
  have hdoc : n.docPath = [] := by simp [Node.docPath, hroot]
  rw [Catalog.documents_iff h.sound]
  simp [h.contains_iff, hdoc]

/-- After a form was read at a root, a scalar of a node is read exactly if the catalog documents it
or the form passes over it. The node is one that holds all that the form reads. -/
lemma Fills.isUnread_eq (h : f.Fills n c) (hroot : n.path = []) (ho : f.Opens n)
    (hd : n.KeysDistinct) (hn : (n.isMissing || n.isObject) = true) {path q : Path}
    (hq : path ++ q ∈ n.scalars) (hmarks : ∀ p ∈ f.marks n, path <+: p) :
    isUnread c.isConsumed path q
      = (!c.documents (path ++ q) && !f.passesOver (path ++ q)) := by
  rw [Bool.eq_iff_iff, ← not_iff_not, Bool.not_eq_true, isUnread_eq_false_iff]
  calc (∃ m, m <+: q ∧ c.isConsumed (path ++ m) = true)
    _ ↔ ∃ p ∈ f.marks n, p <+: path ++ q := by
      simp only [h.isConsumed_iff, hroot, List.nil_append, exists_eq_right']
      constructor
      · rintro ⟨m, hm, hmarked⟩
        exact ⟨_, hmarked, (List.prefix_append_right_inj path).mpr hm⟩
      · rintro ⟨p, hp, hpq⟩
        obtain ⟨m, rfl⟩ := hmarks p hp
        exact ⟨m, (List.prefix_append_right_inj path).mp hpq, hp⟩
    _ ↔ ∃ l, (l ∈ f.leafPaths n ∨ l ∈ f.retiredPaths) ∧ l <+: Path.keys (path ++ q) :=
      exists_mark_iff ho hd hn hq
    _ ↔ c.documents (path ++ q) = true ∨ f.passesOver (path ++ q) = true := by
      rw [h.documents_iff hroot, passesOver_iff]
      simp only [or_and_right, exists_or]
    _ ↔ _ := by
      rw [← Bool.not_or, Bool.not_eq_true, Bool.not_eq_false', Bool.or_eq_true]

/-- After a form was read at a root, the unknown values are the scalars that the catalog does not
document and that the form does not pass over. -/
theorem Fills.unknown_eq (h : f.Fills n c) (hroot : n.path = []) (ho : f.Opens n)
    (hd : n.KeysDistinct) (hn : (n.isMissing || n.isObject) = true)
    (hm : ∀ q ∈ m.scalars, m.path ++ q ∈ n.scalars) (hmarks : ∀ p ∈ f.marks n, m.path <+: p)
    (hpath : m.path ≠ [] ∨ [] ∉ m.scalars) :
    c.unknown m = ((m.scalars.map (m.path ++ ·)).filter fun p =>
      !c.documents p && !f.passesOver p).map Path.text := by
  have same : m.scalars.filter (isUnread c.isConsumed m.path) = m.scalars.filter fun q =>
      !c.documents (m.path ++ q) && !f.passesOver (m.path ++ q) :=
    List.filter_congr fun q hq => h.isUnread_eq hroot ho hd hn (hm q hq) hmarks
  unfold Catalog.unknown
  unfold Node.scalars at hpath same ⊢
  cases hv : m.value with
  | none => rfl
  | some e =>
    rw [hv] at hpath same
    simp only [Option.map_some, Option.getD_some] at hpath same ⊢
    rw [unread_eq _ _ _ hpath, same, List.filter_map]
    rfl

end Form
end PlannerConfig
