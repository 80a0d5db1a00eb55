import Mathlib.Data.List.Induction
import PlannerConfig.Proofs.Catalog.Calls

/-!
Which record stays when several are registered for one path. The last one does, so a parameter is
lost to a group that is registered at its path later; nothing but a debug message tells of it.
-/
namespace PlannerConfig

namespace Catalog

variable {c c' : Catalog} {calls : List Call}

@[simp] lemma callAll_nil : c.callAll [] = .ok c' ↔ c = c' := by simp [callAll, pure, Except.pure]

lemma callAll_cons {call : Call} :
    c.callAll (call :: calls) = .ok c' ↔ ∃ d, c.call call = .ok d ∧ d.callAll calls = .ok c' := by
  unfold callAll
  rw [List.foldlM_cons]
  cases c.call call <;> simp [bind, Except.bind]

lemma callAll_append {more : List Call} :
    c.callAll (calls ++ more) = .ok c' ↔ ∃ d, c.callAll calls = .ok d ∧ d.callAll more = .ok c' := by
  induction calls generalizing c with
  | nil => simp
  | cons call calls ih => simp only [List.cons_append, callAll_cons, ih]; tauto

lemma Sound.callAll (h : c.Sound) (hv : ∀ call ∈ calls, call.Valid)
    (hc : c.callAll calls = .ok c') : c'.Sound := by
  induction calls generalizing c with
  | nil => exact callAll_nil.mp hc ▸ h
  | cons call calls ih =>
    obtain ⟨d, hd, hc⟩ := callAll_cons.mp hc
    exact ih (h.call (hv call (by simp)) hd) (fun d hd => hv d (by simp [hd])) hc

lemma call_eq_put {call : Call} (h : c.call call = .ok c') : c' = c.put call.record := by
  cases call with
  | parameter r =>
    simp only [Catalog.call, register] at h
    split at h
    · cases h
    · cases h
      rfl
  | group r =>
    cases h
    rfl

end Catalog

namespace Call

/-- The last of several calls at a path. -/
def lastAt? (p : List String) : List Call → Option Call
  | [] => none
  | call :: calls => (lastAt? p calls).or (if call.path = p then some call else none)

variable {p : List String} {calls : List Call}

lemma lastAt?_eq_none_iff : lastAt? p calls = none ↔ ∀ call ∈ calls, call.path ≠ p := by
  induction calls with
  | nil => simp [lastAt?]
  | cons call calls ih => simp [lastAt?, ih, and_comm]

/-- The last call at a path is the one after which there is none. -/
lemma lastAt?_eq_some_iff {d : Call} : lastAt? p calls = some d ↔ ∃ before after,
    calls = before ++ d :: after ∧ d.path = p ∧ ∀ e ∈ after, e.path ≠ p := by
  induction calls with
  | nil => simp [lastAt?]
  | cons call calls ih =>
    rw [lastAt?, Option.or_eq_some_iff, ih, lastAt?_eq_none_iff]
    constructor
    · rintro (⟨before, after, rfl, hd⟩ | ⟨hnone, hcall⟩)
      · exact ⟨call :: before, after, rfl, hd⟩
      · obtain ⟨hp, rfl⟩ : call.path = p ∧ call = d := by simpa using hcall
        exact ⟨[], calls, rfl, hp, hnone⟩
    · rintro ⟨before, after, heq, hp, hafter⟩
      cases before with
      | nil =>
        obtain ⟨rfl, rfl⟩ := List.cons.inj heq
        exact .inr ⟨hafter, if_pos hp⟩
      | cons e before =>
        obtain ⟨-, rfl⟩ := List.cons.inj heq
        exact .inl ⟨before, after, rfl, hp, hafter⟩

lemma mem_of_lastAt? {call : Call} (h : lastAt? p calls = some call) :
    call ∈ calls ∧ call.path = p := by
  obtain ⟨before, after, rfl, hp, -⟩ := lastAt?_eq_some_iff.mp h
  exact ⟨by simp, hp⟩

/-- The last call at a path is that of a parameter if there is one and each call of a group at the
path comes before one of a parameter. -/
lemma lastAt?_eq_parameter_iff :
    (∃ r, lastAt? p calls = some (.parameter r)) ↔
      (∃ r, .parameter r ∈ calls ∧ r.path = p) ∧
      ∀ before g after, calls = before ++ .group g :: after → g.path = p →
        ∃ s, .parameter s ∈ after ∧ s.path = p := by
  constructor
  · rintro ⟨r, hr⟩
    obtain ⟨before, after, rfl, hp, hafter⟩ := lastAt?_eq_some_iff.mp hr
    refine ⟨⟨r, by simp, hp⟩, fun front g rest heq hg => ?_⟩
    -- the group is not the last call at the path, so it comes before that
    obtain ⟨more, -, hmore⟩ | ⟨more, -, hmore⟩ := List.append_eq_append_iff.mp heq
    · cases more with
      | nil => cases hmore
      | cons d more =>
        obtain ⟨-, rfl⟩ := List.cons.inj hmore
        exact absurd hg (hafter (.group g) (by simp))
    · cases more with
      | nil => cases hmore
      | cons d more =>
        obtain ⟨-, rfl⟩ := List.cons.inj hmore
        exact ⟨r, by simp, hp⟩
  · rintro ⟨⟨r, hr, hp⟩, hgroups⟩
    cases hlast : lastAt? p calls with
    | none => exact absurd hp (lastAt?_eq_none_iff.mp hlast _ hr)
    | some last =>
      cases last with
      | parameter s => exact ⟨s, rfl⟩
      | group g =>
        obtain ⟨before, after, rfl, hg, hafter⟩ := lastAt?_eq_some_iff.mp hlast
        obtain ⟨s, hs, hsp⟩ := hgroups before g after rfl hg
        exact absurd hsp (hafter _ hs)

end Call

namespace Catalog

variable {c : Catalog} {calls : List Call}

/-- Of several records for one path the last one stays. -/
lemma get?_callAll {c' : Catalog} (h : c.callAll calls = .ok c') (p : List String) :
    c'.get? p = ((Call.lastAt? p calls).map Call.record).or (c.get? p) := by
  induction calls generalizing c with
  | nil => rw [callAll_nil.mp h]; rfl
  | cons call calls ih =>
    obtain ⟨d, hd, hc⟩ := callAll_cons.mp h
    rw [ih hc, call_eq_put hd, get?_put, Call.lastAt?]
    cases Call.lastAt? p calls with
    | some last => rfl
    | none => by_cases hp : call.path = p <;> simp_all [Call.path, eq_comm]

/-- A path holds a parameter in the end if the last call for it was that of a parameter. -/
lemma contains_callAll (hv : ∀ call ∈ calls, call.Proper)
    (h : ({} : Catalog).callAll calls = .ok c) {p : List String} :
    c.contains p = true ↔ ∃ r, Call.lastAt? p calls = some (.parameter r) := by
  have empty : ({} : Catalog).get? p = none := Entry.recordAt?_empty p
  rw [contains_iff, get?_callAll h, empty, Option.or_none]
  cases hl : Call.lastAt? p calls with
  | none => simp
  | some call =>
    have hproper := hv call (Call.mem_of_lastAt? hl).1
    cases call <;> simp_all [Call.record, Call.Proper]

lemma callAll_concat {c c' : Catalog} {call : Call} (h : c.callAll calls = .ok c') :
    c.callAll (calls ++ [call]) = c'.call call := by
  unfold callAll at h ⊢
  rw [List.foldlM_append, h]
  show (c'.call call >>= pure) = _
  rw [bind_pure]

/-- No call is refused if no parameter is to stand beneath another. -/
lemma exists_callAll (hv : ∀ call ∈ calls, call.Proper)
    (h : ∀ r s q, .parameter r ∈ calls → .parameter s ∈ calls → q ≠ [] → s.path ≠ r.path ++ q) :
    ∃ c, ({} : Catalog).callAll calls = .ok c := by
  induction calls using List.reverseRecOn with
  | nil => exact ⟨{}, rfl⟩
  | append_singleton calls call ih =>
    have hv' : ∀ call ∈ calls, call.Proper := fun d hd => hv d (by simp [hd])
    obtain ⟨c, hc⟩ := ih hv' fun r s q hr hs => h r s q (by simp [hr]) (by simp [hs])
    rw [callAll_concat hc]
    cases call with
    | group g => exact ⟨_, rfl⟩
    | parameter s =>
      have hsound : c.Sound := sound_empty.callAll (fun call hm => (hv' call hm).valid) hc
      have registered : ∀ {p}, c.contains p = true → ∃ r, .parameter r ∈ calls ∧ r.path = p := by
        intro p hp
        obtain ⟨r, hr⟩ := (contains_callAll hv' hc).mp hp
        exact ⟨r, Call.mem_of_lastAt? hr⟩
      refine ⟨_, (register_eq_ok_iff hsound).mpr ⟨⟨?_, ?_⟩, rfl⟩⟩
      · intro p q _ hq heq hp
        obtain ⟨r, hr, rfl⟩ := registered hp
        exact h r s q (by simp [hr]) (by simp) hq heq
      · intro q hq hp
        obtain ⟨r, hr, heq⟩ := registered hp
        exact h s r q (by simp) (by simp [hr]) hq heq

/-- A registered parameter is there in the end exactly if each group that is registered at its path
comes before another registration of the parameter. No group is ever refused, and a parameter is
refused exactly if a parameter is above it or beneath it. -/
theorem contains_callAll_iff (hv : ∀ call ∈ calls, call.Proper)
    (h : ({} : Catalog).callAll calls = .ok c) :
    (∀ r, .parameter r ∈ calls →
      (c.contains r.path = true ↔
        ∀ before g after, calls = before ++ .group g :: after → g.path = r.path →
          ∃ s, .parameter s ∈ after ∧ s.path = r.path)) ∧
    (∀ g, c.call (.group g) = .ok (c.put g)) ∧
    ∀ r, (∃ conflict, c.call (.parameter r) = .error conflict) ↔ ¬ c.IsFree r.path := by
  have hs : c.Sound := sound_empty.callAll (fun call hm => (hv call hm).valid) h
  refine ⟨fun r hr => ?_, fun g => rfl, fun r => ?_⟩
  · rw [contains_callAll hv h, Call.lastAt?_eq_parameter_iff]
    exact and_iff_right ⟨r, hr, rfl⟩
  · have ok_iff : (∃ d, c.call (.parameter r) = .ok d) ↔ c.IsFree r.path := by
      constructor
      · rintro ⟨d, hd⟩
        exact ((register_eq_ok_iff hs).mp hd).1
      · intro hf
        exact ⟨_, (register_eq_ok_iff hs).mpr ⟨hf, rfl⟩⟩
    rw [← ok_iff]
    cases c.call (.parameter r) <;> simp

/-- A parameter, a group that takes its place, and the parameter again. -/
theorem contains_callAll_iff_again :
    let r : Record := { path := ["a"], valueType := .double, summary := "Leaf." }
    let g : Record := { path := ["a"], valueType := .object, summary := "Group." }
    let calls : List Call := [.parameter r, .group g, .parameter r]
    let c := (({} : Catalog).put r).put g |>.put r
    (∀ call ∈ calls, call.Proper) ∧ ({} : Catalog).callAll calls = .ok c ∧
      c.contains ["a"] = true := by
  intro r g calls c
  have hv : ∀ call ∈ calls, call.Proper := by
    simp [calls, r, g, Call.Proper, Record.isGroup, ValueType.isGroup]
  have h : ({} : Catalog).callAll calls = .ok c := rfl
  refine ⟨hv, h, ((contains_callAll_iff hv h).1 r (by simp [calls])).mpr ?_⟩
  intro before d after heq hd
  rcases before with _ | ⟨x, _ | ⟨y, _ | ⟨z, before⟩⟩⟩ <;> simp [calls] at heq
  exact ⟨r, by simp [← heq.2.2], rfl⟩

/-- No call is refused, and yet the parameter is gone: the group was registered after it. -/
theorem parameter_lost_to_group :
    let r : Record := { path := ["a"], valueType := .double, summary := "Leaf." }
    let g : Record := { path := ["a"], valueType := .object, summary := "Group." }
    let c := (({} : Catalog).put r).put g
    (∀ call ∈ [Call.parameter r, .group g], call.Proper) ∧
      ({} : Catalog).callAll [.parameter r, .group g] = .ok c ∧ c.contains r.path = false := by
  refine ⟨?_, rfl, by decide⟩
  simp [Call.Proper, Record.isGroup, ValueType.isGroup]

end Catalog
end PlannerConfig
