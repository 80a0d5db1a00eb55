import Mathlib.Tactic.Lemma
import PlannerConfig.Text.Case

/-!
What is in upper case stays as it is in upper case, and so it is with lower case: no character that a
mapping gives is one that it changes. The characters of a mapping are compared as sets of bits.
-/
namespace PlannerConfig.Text

/-- Numbers as the bits of one number. -/
def bitsOf (ns : List Nat) : Nat := ns.foldr (fun n bits => 1 <<< n ||| bits) 0

lemma testBit_bitsOf {ns : List Nat} {n : Nat} : (bitsOf ns).testBit n = true ↔ n ∈ ns := by
  induction ns with
  | nil => simp [bitsOf]
  | cons m ns ih =>
    have step : bitsOf (m :: ns) = 2 ^ m ||| bitsOf ns := by
      rw [← Nat.one_shiftLeft]
      rfl
    rw [step, Nat.testBit_or, Nat.testBit_two_pow, Bool.or_eq_true, ih, decide_eq_true_eq,
      List.mem_cons, eq_comm]

lemma not_mem_of_bitsOf {ms ns : List Nat} (h : bitsOf ms &&& bitsOf ns = 0) {n : Nat} (hn : n ∈ ns) :
    n ∉ ms := by
  intro hm
  have bit := Nat.testBit_and (bitsOf ms) (bitsOf ns) n
  rw [h, testBit_bitsOf.mpr hm, testBit_bitsOf.mpr hn, Nat.zero_testBit] at bit
  cases bit

section mapping

variable (expansions : List (Nat × List Nat)) (runs : List (Nat × Nat × Nat × Int))

/-- The code points of a run. -/
def runCodes : Nat × Nat × Nat × Int → List Nat
  | (first, last, step, _) => List.range' first ((last - first) / step + 1) step

/-- Where a run sends its code points. -/
def runTargets (run : Nat × Nat × Nat × Int) : List Nat :=
  (runCodes run).map fun n : Nat => (n + run.2.2.2).toNat

/-- The code points that a mapping changes. -/
def sources : List Nat := expansions.map Prod.fst ++ runs.flatMap runCodes

/-- The code points that a mapping changes them into. -/
def targets : List Nat := expansions.flatMap Prod.snd ++ runs.flatMap runTargets

variable {expansions runs}

lemma shiftBy_eq_or_mem (runs : List (Nat × Nat × Nat × Int)) (n : Nat) : shiftBy runs n = n
    ∨ n ∈ runs.flatMap runCodes ∧ shiftBy runs n ∈ runs.flatMap runTargets := by
  induction runs with
  | nil => exact .inl rfl
  | cons run runs ih =>
    obtain ⟨first, last, step, shift⟩ := run
    unfold shiftBy
    split
    · exact .inl rfl
    · rename_i hfirst
      split
      · rename_i hlast
        split
        · rename_i hstep
          have code : n ∈ runCodes (first, last, step, shift) := by
            refine List.mem_range'.mpr ⟨(n - first) / step, ?_, ?_⟩
            · have := Nat.div_le_div_right (c := step) (Nat.sub_le_sub_right hlast first)
              omega
            · have := Nat.mul_div_cancel' (Nat.dvd_of_mod_eq_zero hstep)
              omega
          refine .inr ⟨List.mem_append_left _ code, List.mem_append_left _ ?_⟩
          exact List.mem_map_of_mem code
        · exact .inl rfl
      · exact ih.imp id fun h => ⟨List.mem_append_right _ h.1, List.mem_append_right _ h.2⟩

lemma lookup_eq_none {n : Nat} (h : n ∉ sources expansions runs) : expansions.lookup n = none := by
  apply List.lookup_eq_none_iff.mpr
  rintro p hp
  rw [bne_iff_ne]
  rintro rfl
  exact h (List.mem_append_left _ (List.mem_map_of_mem hp))

lemma mapCase_of_not_mem {c : Char} (h : c.toNat ∉ sources expansions runs) :
    mapCase expansions runs c = [c] := by
  have same : shiftBy runs c.toNat = c.toNat :=
    (shiftBy_eq_or_mem runs c.toNat).resolve_right fun hmem => h (List.mem_append_right _ hmem.1)
  unfold mapCase
  rw [lookup_eq_none h, same, Char.ofNat_toNat]

/-- A mapping leaves a character as it is or gives those it changes some into. -/
lemma mem_mapCase {c d : Char} (h : d ∈ mapCase expansions runs c) :
    d = c ∧ mapCase expansions runs c = [c] ∨ ∃ n ∈ targets expansions runs, d = Char.ofNat n := by
  unfold mapCase at h ⊢
  split at h
  · rename_i cs hcs
    obtain ⟨n, hn, rfl⟩ := List.mem_map.mp h
    obtain ⟨l, r, rfl, -⟩ := List.lookup_eq_some_iff.mp hcs
    exact .inr ⟨n, List.mem_append_left _ (List.mem_flatMap.mpr ⟨(c.toNat, cs), by simp, hn⟩), rfl⟩
  · rename_i hnone
    rw [List.mem_singleton] at h
    rcases shiftBy_eq_or_mem runs c.toNat with hsame | ⟨-, hmem⟩
    · rw [hsame, Char.ofNat_toNat] at h
      exact .inl ⟨h, by rw [hsame, Char.ofNat_toNat]⟩
    · exact .inr ⟨_, List.mem_append_right _ hmem, h⟩

lemma toNat_ofNat (n : Nat) : (Char.ofNat n).toNat = n ∨ (Char.ofNat n).toNat = 0 := by
  by_cases h : n.isValidChar
  · left
    rw [Char.ofNat, dif_pos h]
    rfl
  · right
    rw [Char.ofNat, dif_neg h]
    rfl

/-- No character is mapped twice if none of those that a mapping gives is one that it changes. -/
lemma mapCase_of_mem_mapCase (hzero : 0 ∉ sources expansions runs)
    (hdisjoint : ∀ n ∈ targets expansions runs, n ∉ sources expansions runs) {c d : Char}
    (h : d ∈ mapCase expansions runs c) : mapCase expansions runs d = [d] := by
  obtain ⟨rfl, hsame⟩ | ⟨n, hn, rfl⟩ := mem_mapCase h
  · exact hsame
  · apply mapCase_of_not_mem
    rcases toNat_ofNat n with heq | heq
    · rw [heq]
      exact hdisjoint n hn
    · rwa [heq]

end mapping

lemma flatMap_eq_self {f : Char → List Char} {cs : List Char} (h : ∀ c ∈ cs, f c = [c]) :
    cs.flatMap f = cs := by
  induction cs with
  | nil => rfl
  | cons c cs ih =>
    rw [List.flatMap_cons, h c List.mem_cons_self, ih fun d hd => h d (List.mem_cons_of_mem c hd)]
    rfl

section upper

variable {c d : Char} {cs : List Char}

/-- Upper case has none of the characters that it changes, and comes to no separator of a locale. -/
lemma not_mem_of_mem_upperTargets : ∀ n ∈ targets upperExpansions upperRuns,
    n ∉ ['_', '-'].map Char.toNat ++ sources upperExpansions upperRuns := by
  intro n
  apply not_mem_of_bitsOf
  decide +kernel

lemma upperChar_of_mem_upperChar (h : d ∈ upperChar c) : upperChar d = [d] := by
  refine mapCase_of_mem_mapCase (by decide +kernel) (fun n hn hmem => ?_) h
  exact not_mem_of_mem_upperTargets n hn (List.mem_append_right _ hmem)

lemma upperChar_of_mem (h : d ∈ upperChars cs) : upperChar d = [d] := by
  obtain ⟨c, -, hc⟩ := List.mem_flatMap.mp h
  exact upperChar_of_mem_upperChar hc

@[simp] lemma upper_upper (s : String) : upper (upper s) = upper s := by
  have same : upperChars (upperChars s.toList) = upperChars s.toList :=
    flatMap_eq_self fun c hc => upperChar_of_mem hc
  rw [upper, upper, String.toList_ofList, same]

lemma mem_of_mem_upperChars (hd : d ∈ ['_', '-']) (h : d ∈ upperChars cs) : d ∈ cs := by
  obtain ⟨c, hc, hmem⟩ := List.mem_flatMap.mp h
  obtain ⟨rfl, -⟩ | ⟨n, hn, rfl⟩ := mem_mapCase hmem
  · exact hc
  · exfalso
    apply not_mem_of_mem_upperTargets n hn
    apply List.mem_append_left
    rcases toNat_ofNat n with heq | heq
    · rw [← heq]
      exact List.mem_map_of_mem hd
    · simp only [List.mem_cons, List.not_mem_nil, or_false] at hd
      rcases hd with hd | hd <;> exact absurd heq (by rw [hd]; decide)

lemma toLower_eq_self_or (c : Char) :
    c.toLower = c ∨ ∃ n ∈ List.range' 'A'.toNat 26, c = Char.ofNat n := by
  unfold Char.toLower
  split
  · rename_i h
    refine .inr ⟨c.toNat, ?_, (Char.ofNat_toNat c).symm⟩
    have first : 65 ≤ c.toNat := h.1
    have last : c.toNat ≤ 90 := h.2
    exact List.mem_range'_1.mpr ⟨first, show c.toNat < 65 + 26 by omega⟩
  · exact .inl rfl

/-- What holds of the ASCII capitals and their small letters holds of a character and its small letter. -/
lemma toLower_induction {P : Char → Char → Prop} (same : ∀ c, P c c)
    (capital : ∀ n ∈ List.range' 'A'.toNat 26, P (Char.ofNat n).toLower (Char.ofNat n)) (c : Char) :
    P c.toLower c := by
  rcases toLower_eq_self_or c with heq | ⟨n, hn, rfl⟩
  · rw [heq]
    exact same c
  · exact capital n hn

@[simp] lemma upperChar_toLower (c : Char) : upperChar c.toLower = upperChar c :=
  toLower_induction (P := fun d c => upperChar d = upperChar c) (fun _ => rfl) (by decide +kernel) c

end upper

section lower

variable {c d : Char} {before cs : List Char}

lemma lowerChar_of_mem_lowerChar (h : d ∈ lowerChar c) : lowerChar d = [d] := by
  refine mapCase_of_mem_mapCase (by decide +kernel) (fun n hn => ?_) h
  revert n
  exact fun n => not_mem_of_bitsOf (by decide +kernel)

/-- Neither small sigma is changed. -/
lemma lowerChar_of_mem (h : d ∈ lowerAfter before cs) : lowerChar d = [d] := by
  induction cs generalizing before with
  | nil => cases h
  | cons c cs ih =>
    unfold lowerAfter at h
    rcases List.mem_append.mp h with h | h
    · split at h
      · split at h
        · rw [List.mem_singleton.mp h]
          decide +kernel
        · rw [List.mem_singleton.mp h]
          decide +kernel
      · exact lowerChar_of_mem_lowerChar h
    · exact ih h

lemma lowerAfter_eq_self (h : ∀ c ∈ cs, lowerChar c = [c]) : lowerAfter before cs = cs := by
  induction cs generalizing before with
  | nil => rfl
  | cons c cs ih =>
    have here := h c List.mem_cons_self
    have noSigma : c ≠ 'Σ' := by
      rintro rfl
      revert here
      decide +kernel
    unfold lowerAfter
    rw [if_neg (by simpa using noSigma), here, ih fun d hd => h d (List.mem_cons_of_mem c hd)]
    rfl

@[simp] lemma lower_lower (s : String) : lower (lower s) = lower s := by
  have same : lowerChars (lowerChars s.toList) = lowerChars s.toList :=
    lowerAfter_eq_self fun c hc => lowerChar_of_mem hc
  rw [lower, lower, String.toList_ofList, same]

end lower

end PlannerConfig.Text
