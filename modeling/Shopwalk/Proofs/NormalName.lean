import Mathlib.Data.List.Forall2
import Mathlib.Data.List.TakeWhile
import Shopwalk.Proofs.Numeral
import Shopwalk.Shop.Name

/-!
What does not count in a name. Blanks at its ends do not, and neither does whether its parts are
joined by hyphens or by spaces: the normalised name is the same. Blanks and hyphens are gaps between
words, so that the lowercase form of a word does not depend on which of them stand around it.
-/

namespace Shopwalk

namespace Text

/-- No member of the one set of runs meets a member of the other. -/
def Ranges.Apart (a b : Ranges) : Prop := ∀ r ∈ a, ∀ q ∈ b, r.2 < q.1 ∨ q.2 < r.1

instance (a b : Ranges) : Decidable (a.Apart b) :=
  inferInstanceAs (Decidable (∀ r ∈ a, ∀ q ∈ b, r.2 < q.1 ∨ q.2 < r.1))

theorem Ranges.Apart.not_has {a b : Ranges} (apart : a.Apart b) {c : Char}
    (there : a.has c = true) : b.has c = false := by
  obtain ⟨r, member, bounds⟩ := List.any_eq_true.1 there
  rw [Ranges.has, List.any_eq_false]
  intro q other
  have between := apart r member q other
  simp only [Bool.and_eq_true, decide_eq_true_eq] at bounds ⊢
  omega

/-- The blanks and the hyphen. -/
def gapRanges : Ranges := (45, 45) :: blankRanges

/-- A character that stands between words. -/
def isGap (c : Char) : Bool := gapRanges.has c

theorem isGap_of_isBlank {c : Char} (blank : isBlank c = true) : isGap c = true := by
  rw [isGap, Ranges.has, gapRanges, List.any_cons, Bool.or_eq_true]
  exact .inr blank

set_option maxRecDepth 2000 in
theorem gapRanges_apart_cased : gapRanges.Apart casedRanges := by decide

set_option maxRecDepth 4000 in
theorem gapRanges_apart_skipped : gapRanges.Apart skippedRanges := by decide

set_option maxRecDepth 2000 in
theorem gapRanges_apart_lowercase :
    gapRanges.Apart (lowercaseRuns.map fun r => (r.first, r.last)) := by decide

theorem gapRanges_apart_letters : gapRanges.Apart [(65, 90), (97, 122)] := by decide

/-- A gap is no letter of ASCII. -/
theorem not_letter_of_isGap {c : Char} (gap : isGap c = true) :
    ¬ (65 ≤ c.toNat ∧ c.toNat ≤ 90) ∧ ¬ (97 ≤ c.toNat ∧ c.toNat ≤ 122) := by
  have outside := gapRanges_apart_letters.not_has gap
  simpa [Ranges.has] using outside

theorem not_isSkipped_of_isGap {c : Char} (gap : isGap c = true) : isSkipped c = false :=
  gapRanges_apart_skipped.not_has gap

theorem not_isCased_of_isGap {c : Char} (gap : isGap c = true) : isCased c = false := by
  unfold isCased
  split
  · have outside := not_letter_of_isGap gap
    change (decide (c.val ≥ 65 ∧ c.val ≤ 90) || decide (c.val ≥ 97) && decide (c.val ≤ 122)) = false
    simpa [UInt32.le_iff_toNat_le] using outside
  · exact gapRanges_apart_cased.not_has gap

theorem lowerCode_of_isGap {c : Char} (gap : isGap c = true) : lowerCode c.toNat = c.toNat := by
  unfold lowerCode
  split
  · rw [if_neg (not_letter_of_isGap gap).1]
  · have outside := gapRanges_apart_lowercase.not_has gap
    have unmapped : lowercaseRuns.findSome? (·.map? c.toNat) = none := by
      rw [List.findSome?_eq_none_iff]
      intro r member
      have beside := List.any_eq_false.1 outside _ (List.mem_map_of_mem member)
      simp only [Bool.and_eq_true, decide_eq_true_eq] at beside
      rw [CaseRun.map?, if_neg fun inside => beside ⟨inside.1, inside.2.1⟩]
    rw [unmapped, Option.getD_none]

/-- A character that is its own lowercase form. -/
def IsLower (c : Char) : Prop := lowerCode c.toNat = c.toNat

instance (c : Char) : Decidable (IsLower c) := inferInstanceAs (Decidable (_ = _))

/-- What is lowercase already stays as it is, whatever stands around it. -/
theorem lowerAt_of_isLower {c : Char} (lower : IsLower c) (before after : List Char) :
    lowerAt before c after = [c] := by
  have sigma : c ≠ 'Σ' := by
    rintro rfl
    exact absurd lower (by decide)
  have dotted : c ≠ 'İ' := by
    rintro rfl
    exact absurd lower (by decide)
  rw [lowerAt, if_neg sigma, if_neg dotted, lowerChar, lower, Char.ofNat_toNat]

/-- So do gaps, which have no capitals. -/
theorem lowerAt_of_isGap {c : Char} (gap : isGap c = true) (before after : List Char) :
    lowerAt before c after = [c] :=
  lowerAt_of_isLower (lowerCode_of_isGap gap) before after

/-- A gap ends the search for a neighbour that has case, as the end of the text does. -/
theorem nearestIsCased_append_gaps {cs gaps : List Char} (between : ∀ c ∈ gaps, isGap c = true) :
    nearestIsCased (cs ++ gaps) = nearestIsCased cs := by
  unfold nearestIsCased
  induction cs with
  | nil =>
    cases gaps with
    | nil => rfl
    | cons g gaps =>
      have gap := between g List.mem_cons_self
      rw [List.nil_append, List.dropWhile_cons_of_neg (by simp [not_isSkipped_of_isGap gap])]
      exact not_isCased_of_isGap gap
  | cons c cs ih =>
    rw [List.cons_append]
    cases skipped : isSkipped c with
    | true => rw [List.dropWhile_cons_of_pos skipped, List.dropWhile_cons_of_pos skipped, ih]
    | false => simp only [List.dropWhile_cons, skipped, Bool.false_eq_true, ↓reduceIte]

theorem lowerAt_append_gaps {cs ds gaps : List Char} (between : ∀ c ∈ gaps, isGap c = true)
    (c : Char) :
    lowerAt (cs ++ gaps) c ds = lowerAt cs c ds ∧ lowerAt cs c (ds ++ gaps) = lowerAt cs c ds := by
  simp only [lowerAt, nearestIsCased_append_gaps between, and_self]

theorem lowerFrom_of_isLower {cs : List Char} (lower : ∀ c ∈ cs, IsLower c) (before : List Char) :
    lowerFrom before cs = cs := by
  induction cs generalizing before with
  | nil => rfl
  | cons c cs ih =>
    rw [List.forall_mem_cons] at lower
    rw [lowerFrom, lowerAt_of_isLower lower.1, ih lower.2]
    rfl

theorem lowerFrom_append_gaps {gaps : List Char} (between : ∀ c ∈ gaps, isGap c = true)
    (before cs : List Char) : lowerFrom before (cs ++ gaps) = lowerFrom before cs ++ gaps := by
  induction cs generalizing before with
  | nil => exact lowerFrom_of_isLower (fun c there => lowerCode_of_isGap (between c there)) before
  | cons c cs ih =>
    rw [List.cons_append, lowerFrom, lowerFrom, ih, (lowerAt_append_gaps between c).2,
      List.append_assoc]

theorem lowerFrom_after_gaps {gaps : List Char} (between : ∀ c ∈ gaps, isGap c = true)
    (before cs : List Char) : lowerFrom (before ++ gaps) cs = lowerFrom before cs := by
  induction cs generalizing before with
  | nil => rfl
  | cons c cs ih =>
    rw [lowerFrom, lowerFrom, (lowerAt_append_gaps between c).1, ← List.cons_append, ih]

theorem lowered_cons_of_isGap {g : Char} (gap : isGap g = true) (cs : List Char) :
    lowered (g :: cs) = g :: lowered cs := by
  have context : lowerFrom [g] cs = lowerFrom [] cs :=
    lowerFrom_after_gaps (List.forall_mem_singleton.2 gap) [] cs
  rw [lowered, lowerFrom, lowerAt_of_isGap gap, List.singleton_append, context, lowered]

theorem trimmed_cons_of_isBlank {c : Char} (blank : isBlank c = true) (cs : List Char) :
    trimmed (c :: cs) = trimmed cs := by
  rw [trimmed, trimStart, List.dropWhile_cons_of_pos blank, trimmed, trimStart]

theorem trimmed_append_blanks {blanks : List Char} (all : ∀ c ∈ blanks, isBlank c = true)
    (cs : List Char) : trimmed (cs ++ blanks) = trimmed cs := by
  have nothing : blanks.dropWhile isBlank = [] := List.dropWhile_eq_nil_iff.2 all
  unfold trimmed trimStart
  rw [List.dropWhile_append]
  split
  · next empty => rw [nothing, List.isEmpty_iff.1 empty]
  · have reversed : ∀ c ∈ blanks.reverse, isBlank c = true := fun c there =>
      all c (List.mem_reverse.1 there)
    rw [trimEnd, trimEnd, List.reverse_append, List.dropWhile_append_of_pos reversed]

end Text

namespace Shop

open Text

/-- A character, or a space in the place of a hyphen. -/
def Loose (c d : Char) : Prop := d = c ∨ c = '-' ∧ d = ' '

instance (c d : Char) : Decidable (Loose c d) := inferInstanceAs (Decidable (_ ∨ _ ∧ _))

/-- A text with some of its hyphens turned into spaces. -/
def Loosened (s t : String) : Prop := List.Forall₂ Loose s.toList t.toList

theorem Loose.isGap {c d : Char} (loose : Loose c d) (other : d ≠ c) :
    isGap c = true ∧ isGap d = true := by
  obtain rfl | ⟨rfl, rfl⟩ := loose
  · exact absurd rfl other
  · decide

theorem Loose.unhyphened {cs ds : List Char} (loose : List.Forall₂ Loose cs ds) :
    unhyphened ds = unhyphened cs := by
  induction loose with
  | nil => rfl
  | @cons c d cs ds first _ ih =>
    have same : (if d = '-' then ' ' else d) = if c = '-' then ' ' else c := by
      obtain rfl | ⟨rfl, rfl⟩ := first
      · rfl
      · decide
    rw [Shop.unhyphened, List.map_cons, same, ← Shop.unhyphened, ih]
    rfl

theorem Loose.nearestIsCased {cs ds : List Char} (loose : List.Forall₂ Loose cs ds) :
    nearestIsCased ds = nearestIsCased cs := by
  induction loose with
  | nil => rfl
  | @cons c d cs ds first _ ih =>
    by_cases same : d = c
    · subst same
      simp only [Text.nearestIsCased, List.dropWhile_cons] at ih ⊢
      cases isSkipped d with
      | true => exact ih
      | false => rfl
    · obtain ⟨gap, gap'⟩ := first.isGap same
      simp [Text.nearestIsCased, not_isSkipped_of_isGap, not_isCased_of_isGap, gap, gap']

theorem Loose.lowerFrom {before before' cs ds : List Char}
    (context : List.Forall₂ Loose before before') (loose : List.Forall₂ Loose cs ds) :
    List.Forall₂ Loose (lowerFrom before cs) (lowerFrom before' ds) := by
  induction loose generalizing before before' with
  | nil => exact .nil
  | @cons c d cs ds first rest ih =>
    refine List.rel_append ?_ (ih (.cons first context))
    by_cases same : d = c
    · subst same
      have alike : lowerAt before' d ds = lowerAt before d cs := by
        simp only [lowerAt, nearestIsCased context, nearestIsCased rest]
      rw [alike]
      exact List.forall₂_same.2 fun _ _ => .inl rfl
    · obtain ⟨gap, gap'⟩ := first.isGap same
      rw [lowerAt_of_isGap gap, lowerAt_of_isGap gap']
      exact .cons first .nil

theorem Loose.normalized {cs ds : List Char} (loose : List.Forall₂ Loose cs ds) :
    normalized ds = normalized cs := by
  have lowered := Loose.lowerFrom .nil loose
  rw [Shop.normalized, Shop.normalized, Text.lowered, Text.lowered, Loose.unhyphened lowered]

/-- Hyphens and spaces are the same in a normalised name. -/
theorem normalizedName_of_loosened {s t : String} (loose : Loosened s t) :
    normalizedName t = normalizedName s := by
  rw [normalizedName, normalizedName, Loose.normalized loose]

theorem mem_of_mem_halved {cs : List Char} {c : Char} (there : c ∈ halved cs) : c ∈ cs := by
  fun_induction halved cs with
  | case1 cs ih =>
    rcases List.mem_cons.1 there with rfl | later
    · exact List.mem_cons_self
    · exact List.mem_cons_of_mem _ (List.mem_cons_of_mem _ (ih later))
  | case2 d cs _ ih =>
    rcases List.mem_cons.1 there with rfl | later
    · exact List.mem_cons_self
    · exact List.mem_cons_of_mem _ (ih later)
  | case3 => cases there

theorem halved_cons_of_unpaired {c : Char} {cs : List Char}
    (unpaired : ∀ rest, c = ' ' → cs ≠ ' ' :: rest) : halved (c :: cs) = c :: halved cs := by
  rw [halved]
  exact unpaired

/-- A blank in front is one still when pairs of spaces are halved. -/
theorem trimmed_halved_cons {c : Char} (blank : isBlank c = true) (cs : List Char) :
    trimmed (halved (c :: cs)) = trimmed (halved cs) := by
  induction cs with
  | nil => rw [halved_cons_of_unpaired (by simp), trimmed_cons_of_isBlank blank]
  | cons d cs ih =>
    by_cases pair : c = ' ' ∧ d = ' '
    · obtain ⟨rfl, rfl⟩ := pair
      rw [halved, trimmed_cons_of_isBlank blank, ih]
    · rw [halved_cons_of_unpaired, trimmed_cons_of_isBlank blank]
      rintro rest rfl both
      exact pair ⟨rfl, (List.cons.inj both).1⟩

/-- Blanks behind are blanks still when pairs of spaces are halved. The first of them may be lost to
a space in front of it. -/
theorem halved_append_blanks {blanks : List Char} (all : ∀ c ∈ blanks, isBlank c = true)
    (cs : List Char) :
    ∃ rest, (∀ c ∈ rest, isBlank c = true) ∧ halved (cs ++ blanks) = halved cs ++ rest := by
  have halves {part : List Char} (among : part ⊆ blanks) : ∀ c ∈ halved part, isBlank c = true :=
    fun c there => all c (among (mem_of_mem_halved there))
  fun_induction halved cs with
  | case1 cs ih =>
    obtain ⟨rest, blank, split⟩ := ih
    exact ⟨rest, blank, by rw [List.cons_append, List.cons_append, halved, split, List.cons_append]⟩
  | case2 d cs unpaired ih =>
    cases cs with
    | nil =>
      by_cases pair : ∃ rest, d = ' ' ∧ blanks = ' ' :: rest
      · obtain ⟨rest, rfl, rfl⟩ := pair
        exact ⟨halved rest, halves (List.subset_cons_self _ _), rfl⟩
      · refine ⟨halved blanks, halves (List.Subset.refl _), ?_⟩
        exact halved_cons_of_unpaired fun rest space both => pair ⟨rest, space, both⟩
    | cons e cs =>
      obtain ⟨rest, blank, split⟩ := ih
      refine ⟨rest, blank, ?_⟩
      rw [List.cons_append, halved_cons_of_unpaired, split, List.cons_append]
      rintro _ rfl both
      exact unpaired cs rfl (by rw [(List.cons.inj both).1])
  | case3 => exact ⟨halved blanks, halves (List.Subset.refl _), rfl⟩

theorem unhyphened_of_free {cs : List Char} (free : ∀ c ∈ cs, c ≠ '-') : unhyphened cs = cs :=
  (List.map_congr_left fun c there => if_neg (free c there)).trans (List.map_id' cs)

theorem unhyphened_of_blanks {blanks : List Char} (all : ∀ c ∈ blanks, isBlank c = true) :
    unhyphened blanks = blanks := by
  apply unhyphened_of_free
  rintro c there rfl
  exact absurd (all '-' there) (by decide)

theorem normalized_cons_of_isBlank {c : Char} (blank : isBlank c = true) (cs : List Char) :
    normalized (c :: cs) = normalized cs := by
  have kept : unhyphened [c] = [c] := unhyphened_of_blanks (List.forall_mem_singleton.2 blank)
  have split : unhyphened (c :: lowered cs) = unhyphened [c] ++ unhyphened (lowered cs) := rfl
  rw [normalized, lowered_cons_of_isGap (isGap_of_isBlank blank), split, kept,
    List.singleton_append, trimmed_halved_cons blank, normalized]

theorem normalized_append_blanks {blanks : List Char} (all : ∀ c ∈ blanks, isBlank c = true)
    (cs : List Char) : normalized (cs ++ blanks) = normalized cs := by
  have gaps : ∀ c ∈ blanks, isGap c = true := fun c there => isGap_of_isBlank (all c there)
  have split : unhyphened (lowered (cs ++ blanks)) = unhyphened (lowered cs) ++ blanks := by
    rw [lowered, lowerFrom_append_gaps gaps, unhyphened, List.map_append, ← unhyphened,
      ← unhyphened, unhyphened_of_blanks all, lowered]
  obtain ⟨rest, blank, halves⟩ := halved_append_blanks all (unhyphened (lowered cs))
  rw [normalized, split, halves, trimmed_append_blanks blank, normalized]

theorem normalized_blanks_append {blanks : List Char} (all : ∀ c ∈ blanks, isBlank c = true)
    (cs : List Char) : normalized (blanks ++ cs) = normalized cs := by
  induction blanks with
  | nil => rfl
  | cons c blanks ih =>
    rw [List.forall_mem_cons] at all
    rw [List.cons_append, normalized_cons_of_isBlank all.1, ih all.2]

/-- Blanks at its ends do not count in a name. -/
theorem normalizedName_strip (s : String) : normalizedName (strip s) = normalizedName s := by
  obtain ⟨front, behind, blank, blank', split⟩ := split_trimmed s.toList
  have whole :
      normalized (front ++ trimmed s.toList ++ behind) = normalized (trimmed s.toList) := by
    rw [normalized_append_blanks blank', normalized_blanks_append blank]
  rw [normalizedName, normalizedName, strip, String.toList_ofList, ← whole, split]

end Shop

end Shopwalk
