import PlannerConfig.Proofs.Form.Documented
import PlannerConfig.Proofs.Outcome
import PlannerConfig.Proofs.Routing.Slots

/-!
The default request of a router configuration is mapped slot by slot. Each parameter of the catalog
fills one slot of the request, from the value at its own path or else with the default that the catalog
documents; neither other parameters nor unknown keys nor the order of keys have any part in it.
-/
namespace PlannerConfig
namespace RouteRequest

variable {features : FeatureSet} {document : Document} {source : Option String}
  {request : RouteRequest}

/-- A document with objects, or nothing, where groups are read, and with values that fit, each by
itself. -/
structure Fits (document : Document) : Prop where
  objects : ∀ p ∈ groupings, ∀ d, document.valueAt p = some d → d.isObject = true
  values : ∀ s ∈ slots, ∀ d, document.valueAt s.path = some d → (s.coerce d).isSome = true

/-- A request and a catalog that come from a document slot by slot. -/
structure Filled (document : Document) (request : RouteRequest) (catalog : Catalog) : Prop where
  /-- The parameters of the catalog are the slots, each with its type and default. -/
  parameters : (catalog.leaves.map Record.documented).Perm (slots.map (Slot.documented {}))
  /-- The groups of the catalog are those that are read. -/
  groups : ∀ p, (∃ r, catalog.get? p = some r ∧ r.isGroup = true) ↔ p ∈ groupings
  dataOverlay : request.preferences.system.dataOverlay = none
  /-- Each slot holds the value at its own path, or its default if there is none. -/
  read : ∀ s ∈ slots, s.read {} document = some (s.get request)

section value

variable (h : features.isOn .dataOverlay = false)
include h

set_option maxRecDepth 4000 in
/-- The default request is the one whose slots hold what can be read for each of them. -/
lemma value_defaultForm_eq_ok :
    (defaultForm features routingDefaultsKey).value {} (.root document source) = .ok request
      ↔ (∀ p ∈ groupings, ∀ d, document.valueAt p = some d → d.isObject = true)
        ∧ request.preferences.system.dataOverlay = none
        ∧ ∀ s ∈ slots, s.read {} document = some (s.get request) := by
  rw [defaultForm_eq_plainForm h]
  have hroot : (Node.root document source).value = document.valueAt [] := rfl
  have hvalue := Form.value_eq_ok_iff slotted_plainForm id ({} : RouteRequest) [] hroot
    (a := request) (w := ())
  have hopens := Form.opens_iff slotted_plainForm hroot
  rw [groupPaths_plainForm] at hopens
  constructor
  · intro hok
    obtain ⟨ho, v, hv, hmade⟩ := hvalue.mp ⟨hok, rfl⟩
    obtain ⟨made, hmade', hoverlay, hcollect⟩ := exists_assemble v
    obtain rfl : made = request := (Prod.mk.inj (Option.some.inj (hmade'.symm.trans hmade))).1
    rw [← hcollect] at hv
    exact ⟨hopens.mp ho, hoverlay, Slot.readAll_eq_collect.mp hv⟩
  · rintro ⟨ho, hoverlay, hread⟩
    have hv := Slot.readAll_eq_collect.mpr hread
    exact (hvalue.mpr ⟨hopens.mpr ho, _, hv, assemble_collect hoverlay⟩).1

lemma exists_value_defaultForm_iff : (∃ request,
    (defaultForm features routingDefaultsKey).value {} (.root document source) = .ok request)
      ↔ Fits document := by
  constructor
  · rintro ⟨request, hok⟩
    obtain ⟨hobjects, -, hread⟩ := (value_defaultForm_eq_ok h).mp hok
    refine ⟨hobjects, fun s hs => (Slot.isSome_read s {}).mp ?_⟩
    rw [hread s hs]
    rfl
  · intro hfits
    have hread := fun s hs => (Slot.isSome_read s ({} : RouteRequest)).mpr (hfits.values s hs)
    obtain ⟨v, hv⟩ := (Slot.exists_readAll slots).mpr hread
    obtain ⟨request, ⟨hoverlay, rfl⟩, -⟩ := existsUnique_collect v
    exact ⟨request, (value_defaultForm_eq_ok h).mpr
      ⟨hfits.objects, hoverlay, Slot.readAll_eq_collect.mp hv⟩⟩

lemma filled_of_run {state : PassState}
    (hrun : (loadDefaults document features false source).run = (.ok request, state)) :
    Filled document request state.catalog := by
  rw [run_loadDefaults] at hrun
  obtain ⟨hok, habsorb⟩ := Form.value_of_thenCheck (declared_defaultForm features _) hrun
  obtain ⟨-, hoverlay, hread⟩ := (value_defaultForm_eq_ok h).mp hok
  rw [defaultForm_eq_plainForm h] at habsorb
  have hdeclared : plainForm.Declared := declared_defaultForm _ _
  have hseparate : plainForm.Separate := separate_defaultForm _
  have hslots : plainForm.slots id (Node.root document source).docPath [] = slots :=
    slots_plainForm
  refine ⟨?_, fun p => ?_, hoverlay, hread⟩
  · rw [← hslots]
    apply Form.perm_leaves hdeclared hseparate slotted_plainForm id {} ?_ habsorb
    rw [hslots]
    exact nodup_paths_slots
  · rw [Form.exists_group_iff hdeclared hseparate slotted_plainForm habsorb, groupPaths_plainForm]
    exact iff_of_eq (congrArg (p ∈ ·) (List.map_id groupings))

end value

/-- What is at the path of a slot decides what the slot holds. -/
lemma Filled.get_eq {other : Document} {otherRequest : RouteRequest} {c d : Catalog}
    (h : Filled document request c) (h' : Filled other otherRequest d) {s : Slot RouteRequest}
    (hs : s ∈ slots) (hsame : document.valueAt s.path = other.valueAt s.path) :
    s.get request = s.get otherRequest := by
  have hread : s.read ({} : RouteRequest) document = s.read {} other := by
    rw [Slot.read, Slot.read, hsame]
  rw [h.read s hs, h'.read s hs] at hread
  exact Option.some.inj hread

/-- The default request is mapped slot by slot. The slots are the request, the data overlay apart, and
no two have the same path. The mapping succeeds exactly if the document fits, and then each slot holds
what its own path gives. Whatever else differs in two documents, the order of the keys of a group
included, makes no difference to it. -/
theorem loadDefaults_reads_slots (hoff : features.isOn .dataOverlay = false) :
    (slots.map Slot.path).Nodup ∧
    (∀ v : Slot.Contents slots, ∃! request : RouteRequest,
      request.preferences.system.dataOverlay = none ∧ Slot.collect slots request = v) ∧
    ∀ (document : Document) (source : Option String),
      let outcome := (loadDefaults document features false source).run
      ((∃ request, outcome.1 = .ok request) ↔ Fits document) ∧
      ∀ request state, outcome = (.ok request, state) →
        Filled document request state.catalog ∧
        ∀ other otherSource otherRequest,
          (loadDefaults other features false otherSource).run.1 = .ok otherRequest →
          ∀ s ∈ slots,
            (document.valueAt s.path = other.valueAt s.path →
              s.get request = s.get otherRequest) ∧
            ∀ group rest fields reordered, s.path = group ++ rest → rest ≠ [] →
              document.valueAt group = some (.object fields) → NamesDistinct fields →
              other.valueAt group = some (.object reordered) → fields.Perm reordered →
              s.get request = s.get otherRequest := by
  refine ⟨nodup_paths_slots, existsUnique_collect, fun document source => ⟨?_, ?_⟩⟩
  · rw [outcome_loadDefaults]
    exact exists_value_defaultForm_iff hoff
  · intro request state hrun
    have hfilled := filled_of_run hoff hrun
    refine ⟨hfilled, fun other otherSource otherRequest hother s hs => ⟨?_, ?_⟩⟩
    all_goals have hotherFilled := filled_of_run hoff (Prod.ext hother rfl)
    · exact hfilled.get_eq hotherFilled hs
    · intro group rest fields reordered hpath hrest hfields hdistinct hreordered hperm
      apply hfilled.get_eq hotherFilled hs
      rw [hpath, Document.valueAt_append, Document.valueAt_append, hfields, hreordered]
      exact Document.valueAt_of_perm hdistinct hperm hrest

/-- Values at three paths, a null, a key that nobody reads, and a slot whose key stands in another group. -/
theorem loadDefaults_reads_slots_some :
    let document : Document := .object [
      (routingDefaultsKey, .object [
        ("walkBoardCost", .int 700),
        ("maxTransfers", .null),
        ("walkBoardCosts", .int 5),
        ("wheelchairAccessibility", .object [
          ("enabled", .bool true), ("trip", .object [("unknownCost", .int 8)])])])]
    ∃ request state, (loadDefaults document .empty false none).run = (.ok request, state)
      ∧ request.preferences.walk.boardCost = 700
      ∧ request.preferences.transfer.maxTransfers = 12
      ∧ request.wheelchair = true
      ∧ request.preferences.wheelchair.trip.unknownCost = 8
      ∧ request.preferences.wheelchair.stop.unknownCost = 600 := by
  intro document
  have hoff : FeatureSet.isOn .empty .dataOverlay = false := by decide
  obtain ⟨-, -, mapped⟩ := loadDefaults_reads_slots hoff
  have hvalue : ((defaultForm .empty routingDefaultsKey).value {} (.root document)).isOk = true := by
    decide +kernel
  obtain ⟨request, state, hrun, -⟩ := exists_run_loadDefaults hvalue
  have hread := ((mapped document none).2 request state hrun).1.read
  have filled : ∀ {α : Type} (path : List String) (kind : Kind α) (get : RouteRequest → α) {a : α},
      .ofKind path kind get ∈ slots → (Slot.ofKind path kind get).read {} document = some a →
      get request = a := by
    intro α path kind get a hs ha
    exact Option.some.inj ((hread _ hs).symm.trans ha)
  refine ⟨request, state, hrun, ?_, ?_, ?_, ?_, ?_⟩
  · exact filled [routingDefaultsKey, "walkBoardCost"] .integer (·.preferences.walk.boardCost)
      (List.mem_of_getElem? (i := 70) rfl) rfl
  · exact filled [routingDefaultsKey, "maxTransfers"] .integer (·.preferences.transfer.maxTransfers)
      (List.mem_of_getElem? (i := 66) rfl) rfl
  · exact filled [routingDefaultsKey, "wheelchairAccessibility", "enabled"] .boolean (·.wheelchair)
      (List.mem_of_getElem? (i := 10) rfl) rfl
  · exact filled [routingDefaultsKey, "wheelchairAccessibility", "trip", "unknownCost"] .integer
      (·.preferences.wheelchair.trip.unknownCost) (List.mem_of_getElem? (i := 75) rfl) rfl
  · exact filled [routingDefaultsKey, "wheelchairAccessibility", "stop", "unknownCost"] .integer
      (·.preferences.wheelchair.stop.unknownCost) (List.mem_of_getElem? (i := 78) rfl) rfl

end RouteRequest
end PlannerConfig
