import Shopwalk.Proofs.NormalName

/-!
Lowercase forms are final: no lowercase form has another lowercase form, so that a text in lowercase
stays as it is. Words stay words, too: a gap comes of a gap only, and gaps in a row are found in the
lowercase form exactly where they stood.
-/

namespace Shopwalk.Text

/-- The run of the lowercase forms of a run of capitals. -/
def CaseRun.lowercase (r : CaseRun) : CaseRun :=
  ⟨Int.toNat (r.first + r.offset), Int.toNat (r.last + r.offset), r.step, 0⟩

/-- The runs lie apart, or the members of the one stand between those of the other. -/
def CaseRun.apart (r q : CaseRun) : Bool :=
  !(Nat.ble q.first r.last && Nat.ble r.first q.last) ||
    (q.step == 2 && (r.step == 2 || r.first == r.last) && (r.first + q.first) % 2 == 1)

theorem lowercase_apart_capitals :
    (lowercaseRuns.map CaseRun.lowercase).all (fun r => lowercaseRuns.all r.apart) = true := by
  decide +kernel

set_option maxRecDepth 1000 in
theorem lowercase_behind_capitals : ∀ r ∈ lowercaseRuns, 90 < r.lowercase.first := by decide

set_option maxRecDepth 2000 in
theorem gapRanges_apart_lowercased :
    gapRanges.Apart (lowercaseRuns.map fun r => (r.lowercase.first, r.lowercase.last)) := by decide

theorem CaseRun.map?_eq_some_iff {r : CaseRun} {n m : Nat} :
    r.map? n = some m ↔
      (r.first ≤ n ∧ n ≤ r.last ∧ (n - r.first) % r.step = 0) ∧ Int.toNat (n + r.offset) = m := by
  unfold map?
  split <;> simp_all

/-- A code point is its own lowercase form, or a capital of ASCII, or it stands in a run. -/
theorem lowerCode_eq_or (n : Nat) :
    lowerCode n = n ∨ (65 ≤ n ∧ n ≤ 90 ∧ lowerCode n = n + 32) ∨
      ∃ r ∈ lowercaseRuns, r.map? n = some (lowerCode n) := by
  unfold lowerCode
  split
  · split
    · next capital => exact .inr (.inl ⟨capital.1, capital.2, rfl⟩)
    · exact .inl rfl
  · cases mapped : lowercaseRuns.findSome? (·.map? n) with
    | none => exact .inl rfl
    | some m =>
      obtain ⟨r, member, there⟩ := List.exists_of_findSome?_eq_some mapped
      exact .inr (.inr ⟨r, member, there⟩)

/-- What comes of one run has no place in the other. -/
theorem CaseRun.map?_of_apart {r q : CaseRun} {n m : Nat} (behind : 90 < r.lowercase.first)
    (apart : r.lowercase.apart q = true) (mapped : r.map? n = some m) : q.map? m = none := by
  obtain ⟨⟨low, high, even⟩, rfl⟩ := map?_eq_some_iff.1 mapped
  rw [map?, if_neg]
  rintro ⟨low', high', even'⟩
  simp only [lowercase, CaseRun.apart, Bool.or_eq_true, Bool.not_eq_true', Bool.and_eq_true,
    beq_iff_eq, Nat.ble_eq, ← Bool.not_eq_true] at behind apart
  obtain beside | ⟨⟨two, same⟩, odd⟩ := apart
  · omega
  · rw [two] at even'
    obtain two' | single := same
    · rw [two'] at even
      omega
    · omega

/-- A lowercase form has no other lowercase form. -/
theorem lowerCode_lowerCode (n : Nat) : lowerCode (lowerCode n) = lowerCode n := by
  obtain same | ⟨low, high, letter⟩ | ⟨r, member, mapped⟩ := lowerCode_eq_or n
  · rw [same, same]
  · rw [letter, lowerCode, if_pos (by omega), if_neg (by omega)]
  · have behind := lowercase_behind_capitals r member
    have unmapped : lowercaseRuns.findSome? (·.map? (lowerCode n)) = none := by
      rw [List.findSome?_eq_none_iff]
      intro q other
      have row := List.all_eq_true.1 lowercase_apart_capitals _ (List.mem_map_of_mem member)
      exact CaseRun.map?_of_apart behind (List.all_eq_true.1 row q other) mapped
    have beyond : 90 < lowerCode n := by
      obtain ⟨⟨low, -, -⟩, image⟩ := CaseRun.map?_eq_some_iff.1 mapped
      simp only [CaseRun.lowercase] at behind
      omega
    generalize lowerCode n = m at unmapped beyond
    have small : ¬ (65 ≤ m ∧ m ≤ 90) := by omega
    rw [lowerCode, unmapped, Option.getD_none, if_neg small, ite_self]

theorem toNat_ofNat_cases (n : Nat) : (Char.ofNat n).toNat = n ∨ Char.ofNat n = '\x00' := by
  by_cases valid : n.isValidChar
  · exact .inl (by rw [show Char.ofNat n = Char.ofNatAux n valid from dif_pos valid]; rfl)
  · exact .inr (dif_neg valid)

theorem isLower_lowerChar (c : Char) : IsLower (lowerChar c) := by
  unfold IsLower lowerChar
  obtain same | none_such := toNat_ofNat_cases (lowerCode c.toNat)
  · rw [same, lowerCode_lowerCode]
  · rw [none_such]
    decide

theorem not_isGap_lowerChar {c : Char} (word : isGap c = false) : isGap (lowerChar c) = false := by
  rw [← Bool.not_eq_true] at word ⊢
  intro gap
  obtain code | none_such := toNat_ofNat_cases (lowerCode c.toNat)
  · change (lowerChar c).toNat = _ at code
    obtain same | ⟨low, high, letter⟩ | ⟨r, member, mapped⟩ := lowerCode_eq_or c.toNat
    · rw [lowerChar, same, Char.ofNat_toNat] at gap
      exact word gap
    · have outside := (not_letter_of_isGap gap).2
      omega
    · have outside := gapRanges_apart_lowercased.not_has gap
      have beside := List.any_eq_false.1 outside _ (List.mem_map_of_mem member)
      obtain ⟨⟨low, high, -⟩, image⟩ := CaseRun.map?_eq_some_iff.1 mapped
      simp only [Bool.and_eq_true, decide_eq_true_eq, CaseRun.lowercase, code] at beside
      omega
  · rw [lowerChar, none_such] at gap
    exact absurd gap (by decide)

/-- Characters in lowercase are lowercase, and gaps come of gaps only. -/
theorem of_mem_lowerAt {before after : List Char} {c d : Char}
    (there : d ∈ lowerAt before c after) : IsLower d ∧ (isGap c = false → isGap d = false) := by
  unfold lowerAt at there
  split at there
  · have final : IsLower 'ς' ∧ isGap 'ς' = false := by decide
    have plain : IsLower 'σ' ∧ isGap 'σ' = false := by decide
    split at there
    · rw [List.mem_singleton.1 there]
      exact ⟨final.1, fun _ => final.2⟩
    · rw [List.mem_singleton.1 there]
      exact ⟨plain.1, fun _ => plain.2⟩
  · split at there
    · have letter : IsLower 'i' ∧ isGap 'i' = false := by decide
      have dot : IsLower '\u0307' ∧ isGap '\u0307' = false := by decide
      obtain rfl | rfl : d = 'i' ∨ d = '\u0307' := by simpa using there
      · exact ⟨letter.1, fun _ => letter.2⟩
      · exact ⟨dot.1, fun _ => dot.2⟩
    · rw [List.mem_singleton.1 there]
      exact ⟨isLower_lowerChar c, not_isGap_lowerChar⟩

theorem lowerAt_ne_nil (before : List Char) (c : Char) (after : List Char) :
    lowerAt before c after ≠ [] := by
  unfold lowerAt
  split
  · split <;> exact List.cons_ne_nil _ _
  · split <;> exact List.cons_ne_nil _ _

theorem isLower_of_mem_lowerFrom {before cs : List Char} {d : Char}
    (there : d ∈ lowerFrom before cs) : IsLower d := by
  induction cs generalizing before with
  | nil => cases there
  | cons c cs ih =>
    obtain first | later := List.mem_append.1 there
    · exact (of_mem_lowerAt first).1
    · exact ih later

/-- Gaps at the start of a text are those at the start of its lowercase form. -/
theorem gaps_prefix_lowerFrom_iff {gaps : List Char} (between : ∀ c ∈ gaps, isGap c = true)
    (before cs : List Char) : gaps <+: lowerFrom before cs ↔ gaps <+: cs := by
  induction cs generalizing gaps before with
  | nil => rfl
  | cons c cs ih =>
    cases gaps with
    | nil => simp
    | cons g gaps =>
      rw [List.forall_mem_cons] at between
      rw [lowerFrom]
      cases gap : isGap c with
      | true =>
        rw [lowerAt_of_isGap gap, List.singleton_append, List.cons_prefix_cons,
          List.cons_prefix_cons, ih between.2]
      | false =>
        obtain ⟨d, ds, split⟩ := List.exists_cons_of_ne_nil (lowerAt_ne_nil before c cs)
        have word : isGap d = false :=
          (of_mem_lowerAt (split ▸ List.mem_cons_self : d ∈ lowerAt before c cs)).2 gap
        have other : g ≠ d := by
          rintro rfl
          exact Bool.false_ne_true (word.symm.trans between.1)
        have other' : g ≠ c := by
          rintro rfl
          exact Bool.false_ne_true (gap.symm.trans between.1)
        simp [split, List.cons_prefix_cons, other, other']

/-- Gaps in a row are not found where there is a word. -/
theorem gaps_infix_append_iff {gaps word : List Char} (some_gap : gaps ≠ [])
    (between : ∀ c ∈ gaps, isGap c = true) (free : ∀ c ∈ word, isGap c = false) (cs : List Char) :
    gaps <:+: word ++ cs ↔ gaps <:+: cs := by
  obtain ⟨g, rest, rfl⟩ := List.exists_cons_of_ne_nil some_gap
  induction word with
  | nil => rfl
  | cons c word ih =>
    rw [List.forall_mem_cons] at free
    have other : g ≠ c := by
      rintro rfl
      exact Bool.false_ne_true (free.1.symm.trans (between g List.mem_cons_self))
    rw [List.cons_append, List.infix_cons_iff, ih free.2]
    simp [List.cons_prefix_cons, other]

/-- Gaps in a row stand in a text where they stand in its lowercase form. -/
theorem gaps_infix_lowerFrom_iff {gaps : List Char} (some_gap : gaps ≠ [])
    (between : ∀ c ∈ gaps, isGap c = true) (before cs : List Char) :
    gaps <:+: lowerFrom before cs ↔ gaps <:+: cs := by
  induction cs generalizing before with
  | nil => rfl
  | cons c cs ih =>
    cases gap : isGap c with
    | true =>
      have start := gaps_prefix_lowerFrom_iff between before (c :: cs)
      rw [lowerFrom, lowerAt_of_isGap gap, List.singleton_append] at start ⊢
      rw [List.infix_cons_iff, List.infix_cons_iff, ih, start]
    | false =>
      have free : ∀ d ∈ lowerAt before c cs, isGap d = false := fun d there =>
        (of_mem_lowerAt there).2 gap
      have alone : ∀ d ∈ [c], isGap d = false := List.forall_mem_singleton.2 gap
      rw [lowerFrom, gaps_infix_append_iff some_gap between free, ih, ← List.singleton_append,
        gaps_infix_append_iff some_gap between alone]

theorem first_lowerFrom {cs : List Char} (word : ∀ c ∈ cs.head?, isGap c = false)
    (before : List Char) : ∀ d ∈ (lowerFrom before cs).head?, isGap d = false := by
  intro d start
  cases cs with
  | nil => cases start
  | cons c cs =>
    obtain ⟨x, xs, split⟩ := List.exists_cons_of_ne_nil (lowerAt_ne_nil before c cs)
    rw [lowerFrom, split] at start
    cases start
    exact (of_mem_lowerAt (split ▸ List.mem_cons_self : d ∈ lowerAt before c cs)).2 (word c rfl)

theorem last_lowerFrom {cs : List Char} (word : ∀ c ∈ cs.getLast?, isGap c = false)
    (before : List Char) : ∀ d ∈ (lowerFrom before cs).getLast?, isGap d = false := by
  induction cs generalizing before with
  | nil => exact nofun
  | cons c cs ih =>
    intro d ending
    rw [lowerFrom, List.getLast?_append] at ending
    cases rest : (lowerFrom (c :: before) cs).getLast? with
    | some x =>
      rw [rest] at ending
      cases ending
      refine ih (fun e last => word e ?_) _ _ rest
      rw [List.getLast?_cons, Option.mem_def.1 last, Option.getD_some]
      rfl
    | none =>
      -- Nothing comes of the rest, so that the first character was the last one.
      have alone : cs = [] := by
        cases cs with
        | nil => rfl
        | cons e cs =>
          rw [List.getLast?_eq_none_iff, lowerFrom, List.append_eq_nil_iff] at rest
          exact absurd rest.1 (lowerAt_ne_nil _ _ _)
      subst alone
      rw [rest] at ending
      exact (of_mem_lowerAt (List.mem_of_getLast? ending)).2 (word c rfl)

/-- The first and the last character, if there are any, are no gaps. -/
structure Edged (cs : List Char) : Prop where
  first : ∀ c ∈ cs.head?, isGap c = false
  last : ∀ c ∈ cs.getLast?, isGap c = false

theorem Edged.lowered {cs : List Char} (edged : Edged cs) : Edged (lowered cs) :=
  ⟨first_lowerFrom edged.first [], last_lowerFrom edged.last []⟩

/-- Nothing is trimmed from a text with words at its ends. -/
theorem Edged.trimmed {cs : List Char} (edged : Edged cs) : trimmed cs = cs := by
  have start : trimStart cs = cs := by
    cases cs with
    | nil => rfl
    | cons c cs =>
      have word : isBlank c = false := by
        rw [← Bool.not_eq_true]
        exact mt isGap_of_isBlank (by simp [edged.first c rfl])
      rw [trimStart, List.dropWhile_cons_of_neg (by simp [word])]
  rw [Text.trimmed, start, trimEnd, List.dropWhile_eq_self_iff.2, List.reverse_reverse]
  intro some_char
  have last := edged.last (cs.reverse[0]) (by simp [List.getLast?_eq_getElem?])
  exact fun blank => Bool.false_ne_true (last.symm.trans (isGap_of_isBlank blank))

end Shopwalk.Text
