import Mathlib.Data.List.Infix
import Mathlib.Tactic.Lemma
import PlannerConfig.Text.Search

/-!
First occurrences. Whether a text is found right after some characters depends on those alone, and a
character that the text does not have keeps its occurrences apart: none reaches across.
-/
namespace PlannerConfig.Text

variable {needle xs ys : List Char} {c : Char}

/-- Whether the first occurrence of a text that follows some characters is the one after them: none
starts among them. -/
def Clear (needle before : List Char) : Prop := ¬ needle <:+: before ++ needle.dropLast

/-- What ends with a character that the text may only end with has no part in an occurrence behind it. -/
lemma infix_append_iff_of_last {last : Char} (hlast : last ∉ needle.dropLast)
    (hx : xs.getLast? = some last) : needle <:+: xs ++ ys ↔ needle <:+: xs ∨ needle <:+: ys := by
  rw [List.infix_append_iff_ne_nil]
  refine or_congr_right (or_iff_left ?_)
  rintro ⟨u, v, hu, hv, rfl, hsuffix, -⟩
  apply hlast
  rw [List.dropLast_append_of_ne_nil hv]
  have hmem : last ∈ u := by
    obtain ⟨w, rfl⟩ := hsuffix
    rw [List.getLast?_append_of_ne_nil _ hu] at hx
    exact List.mem_of_getLast? hx
  exact List.mem_append_left _ hmem

/-- What starts with a character that the text may only start with has no part in an occurrence before
it. -/
lemma infix_append_iff_of_head {first : Char} (hfirst : first ∉ needle.tail)
    (hy : ys.head? = some first) : needle <:+: xs ++ ys ↔ needle <:+: xs ∨ needle <:+: ys := by
  rw [List.infix_append_iff_ne_nil]
  refine or_congr_right (or_iff_left ?_)
  rintro ⟨u, v, hu, hv, rfl, -, hprefix⟩
  apply hfirst
  rw [List.tail_append_of_ne_nil hu]
  have hmem : first ∈ v := by
    obtain ⟨w, rfl⟩ := hprefix
    rw [List.head?_append_of_ne_nil _ hv] at hy
    exact List.mem_of_head? hy
  exact List.mem_append_right _ hmem

lemma infix_append_cons_iff (hc : c ∉ needle) :
    needle <:+: xs ++ c :: ys ↔ needle <:+: xs ∨ needle <:+: ys := by
  rw [infix_append_iff_of_head (fun hmem => hc (List.mem_of_mem_tail hmem)) rfl, List.infix_cons_iff]
  refine or_congr_right (or_iff_right_of_imp fun hprefix => ?_)
  cases needle with
  | nil => exact List.nil_infix
  | cons d needle =>
    obtain ⟨rfl, -⟩ := List.cons_prefix_cons.mp hprefix
    exact absurd List.mem_cons_self hc

namespace Clear

lemma nil (h : needle ≠ []) : Clear needle [] := by
  intro hin
  have hlength := hin.length_le
  have hpos := List.length_pos_iff.mpr h
  rw [List.nil_append, List.length_dropLast] at hlength
  omega

lemma not_infix (h : Clear needle (xs ++ ys)) : ¬ needle <:+: xs := by
  intro hin
  apply h
  rw [List.append_assoc]
  exact hin.trans (List.prefix_append _ _).isInfix

lemma of_append (h : Clear needle (xs ++ ys)) : Clear needle ys := by
  intro hin
  apply h
  rw [List.append_assoc]
  exact hin.trans (List.suffix_append _ _).isInfix

end Clear

lemma clear_append_cons_iff (hc : c ∉ needle) :
    Clear needle (xs ++ c :: ys) ↔ ¬ needle <:+: xs ∧ Clear needle ys := by
  unfold Clear
  rw [List.append_assoc, List.cons_append, infix_append_cons_iff hc, not_or]

lemma clear_cons_iff {before : List Char} (rest : List Char) : Clear needle (c :: before)
    ↔ ¬ needle <+: c :: (before ++ needle ++ rest) ∧ Clear needle before := by
  unfold Clear
  rw [List.cons_append, List.infix_cons_iff, not_or]
  refine and_congr_left fun _ => not_congr ?_
  have short : c :: (before ++ needle.dropLast) <+: c :: (before ++ needle ++ rest) := by
    rw [List.cons_prefix_cons, List.append_assoc, List.prefix_append_right_inj]
    exact ⟨rfl, (List.dropLast_prefix needle).trans (List.prefix_append _ _)⟩
  constructor
  · exact fun hp => hp.trans short
  · intro hp
    apply List.prefix_of_prefix_length_le hp short
    rw [List.length_cons, List.length_append, List.length_dropLast]
    omega

/-- What is cut out is the first occurrence. -/
theorem cutAt_eq_some_iff (h : needle ≠ []) {cs before rest : List Char} :
    cutAt needle cs = some (before, rest) ↔ cs = before ++ needle ++ rest ∧ Clear needle before := by
  induction cs generalizing before with
  | nil => simp [cutAt, h]
  | cons d cs ih =>
    by_cases hp : needle <+: d :: cs
    · rw [cutAt, if_pos (List.isPrefixOf_iff_prefix.mpr hp), Option.some.injEq, Prod.mk.injEq]
      constructor
      · rintro ⟨rfl, rfl⟩
        exact ⟨(List.prefix_iff_eq_append.mp hp).symm, .nil h⟩
      · rintro ⟨heq, hclear⟩
        cases before with
        | nil => exact ⟨rfl, by simp [heq]⟩
        | cons e before =>
          rw [heq] at hp
          exact absurd hp ((clear_cons_iff rest).mp hclear).1
    · rw [cutAt, if_neg (by simpa using hp), Option.map_eq_some_iff]
      constructor
      · rintro ⟨⟨b, r⟩, hcut, heq⟩
        obtain ⟨rfl, rfl⟩ := Prod.mk.inj heq
        obtain ⟨rfl, hclear⟩ := ih.mp hcut
        exact ⟨rfl, (clear_cons_iff r).mpr ⟨hp, hclear⟩⟩
      · rintro ⟨heq, hclear⟩
        cases before with
        | nil => exact absurd ⟨rest, heq.symm⟩ hp
        | cons e before =>
          obtain ⟨rfl, rfl⟩ := List.cons.inj heq
          exact ⟨(before, rest), ih.mpr ⟨rfl, ((clear_cons_iff rest).mp hclear).2⟩, rfl⟩

/-- What follows some occurrence follows the first one. -/
lemma exists_cutAt (needle before rest : List Char) :
    ∃ p, cutAt needle (before ++ needle ++ rest) = some p ∧ rest <:+ p.2 := by
  induction before with
  | nil =>
    rw [List.nil_append]
    cases hcs : needle ++ rest with
    | nil =>
      obtain ⟨rfl, rfl⟩ := List.append_eq_nil_iff.mp hcs
      exact ⟨([], []), rfl, List.suffix_rfl⟩
    | cons c cs =>
      rw [cutAt, ← hcs, if_pos (List.isPrefixOf_iff_prefix.mpr (List.prefix_append _ _)),
        List.drop_left]
      exact ⟨([], rest), rfl, List.suffix_rfl⟩
  | cons c before ih =>
    rw [List.cons_append, List.cons_append, cutAt]
    split
    · refine ⟨_, rfl, ?_⟩
      rw [← List.cons_append, ← List.cons_append, List.drop_append_of_le_length (by simp; omega)]
      exact List.suffix_append _ _
    · obtain ⟨p, hp, hrest⟩ := ih
      exact ⟨(c :: p.1, p.2), by rw [hp]; rfl, hrest⟩

lemma cutAt_eq_none_iff (h : needle ≠ []) {cs : List Char} :
    cutAt needle cs = none ↔ ¬ needle <:+: cs := by
  constructor
  · rintro hnone ⟨before, rest, rfl⟩
    obtain ⟨p, hp, -⟩ := exists_cutAt needle before rest
    rw [hnone] at hp
    cases hp
  · intro hin
    rw [Option.eq_none_iff_forall_ne_some]
    rintro ⟨before, rest⟩ hcut
    obtain ⟨rfl, -⟩ := (cutAt_eq_some_iff h).mp hcut
    exact hin ⟨before, rest, rfl⟩

/-- The first occurrence stays the first when something comes after it. -/
lemma cutAt_append (h : needle ≠ []) {before rest : List Char}
    (hcut : cutAt needle xs = some (before, rest)) (ys : List Char) :
    cutAt needle (xs ++ ys) = some (before, rest ++ ys) := by
  obtain ⟨rfl, hclear⟩ := (cutAt_eq_some_iff h).mp hcut
  exact (cutAt_eq_some_iff h).mpr ⟨by simp only [List.append_assoc], hclear⟩

/-- The first occurrence behind a text that has none. -/
lemma cutAt_append_of_last {last : Char} (h : needle ≠ []) (hlast : last ∉ needle.dropLast)
    (hx : xs.getLast? = some last) (hnone : ¬ needle <:+: xs) (ys : List Char) :
    cutAt needle (xs ++ ys) = (cutAt needle ys).map fun p => (xs ++ p.1, p.2) := by
  cases hcut : cutAt needle ys with
  | none =>
    rw [Option.map_none, cutAt_eq_none_iff h, infix_append_iff_of_last hlast hx, not_or]
    exact ⟨hnone, (cutAt_eq_none_iff h).mp hcut⟩
  | some p =>
    obtain ⟨before, rest⟩ := p
    obtain ⟨rfl, hclear⟩ := (cutAt_eq_some_iff h).mp hcut
    refine (cutAt_eq_some_iff h).mpr ⟨by simp only [List.append_assoc], ?_⟩
    unfold Clear
    rw [List.append_assoc, infix_append_iff_of_last hlast hx, not_or]
    exact ⟨hnone, hclear⟩

end PlannerConfig.Text
