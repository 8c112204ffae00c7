import Mathlib.Data.List.DropRight
import Mathlib.Data.List.SplitBy
import Shopwalk.Proofs.Lowercase

/-!
What becomes of the separators in a name. Spaces and hyphens in a row come out as half as many
spaces, rounded up: one or two of them as a single space, but three or more as several. That is the
one way in which normalising a name again can change it.
-/

namespace Shopwalk.Shop

open Text

/-- A character that stands for a space in a normalised name. -/
def isSeparator (c : Char) : Bool := c == ' ' || c == '-'

theorem isGap_of_isSeparator {c : Char} (separator : isSeparator c = true) : isGap c = true := by
  simp only [isSeparator, Bool.or_eq_true, beq_iff_eq] at separator
  obtain rfl | rfl := separator <;> decide

theorem unhyphened_append (cs ds : List Char) :
    unhyphened (cs ++ ds) = unhyphened cs ++ unhyphened ds :=
  List.map_append

/-- The separators are what becomes of a space. -/
theorem space_iff_isSeparator {c : Char} :
    (if c = '-' then ' ' else c) = ' ' ↔ isSeparator c = true := by
  by_cases hyphen : c = '-'
  · simp [isSeparator, hyphen]
  · simp [isSeparator, hyphen]

theorem unhyphened_of_separators {run : List Char} (all : ∀ c ∈ run, isSeparator c = true) :
    unhyphened run = List.replicate run.length ' ' :=
  List.map_eq_replicate_iff.2 fun c there => space_iff_isSeparator.2 (all c there)

/-! ### Pairs of spaces -/

theorem head?_halved (cs : List Char) : (halved cs).head? = cs.head? := by
  fun_cases halved cs <;> simp

theorem getLast?_halved (cs : List Char) : (halved cs).getLast? = cs.getLast? := by
  fun_induction halved cs with
  | case1 cs ih => simp [List.getLast?_cons, ih]
  | case2 c cs _ ih => simp [List.getLast?_cons, ih]
  | case3 => rfl

/-- Texts are halved apart when no pair of spaces is cut. -/
theorem halved_append {cs ds : List Char}
    (uncut : ∀ c ∈ cs.getLast?, ∀ d ∈ ds.head?, ¬ (c = ' ' ∧ d = ' ')) :
    halved (cs ++ ds) = halved cs ++ halved ds := by
  fun_induction halved cs with
  | case1 cs ih =>
    have rest := ih fun c last => uncut c (List.mem_getLast?_cons (List.mem_getLast?_cons last))
    rw [List.cons_append, List.cons_append, halved, rest, List.cons_append]
  | case2 c cs unpaired ih =>
    have rest := ih fun c last => uncut c (List.mem_getLast?_cons last)
    have alone : ∀ rest, c = ' ' → cs ++ ds ≠ ' ' :: rest := by
      intro rest space both
      cases cs with
      | nil => exact uncut c rfl ' ' (by rw [← List.nil_append ds, both]; rfl) ⟨space, rfl⟩
      | cons e cs => exact unpaired cs space (by rw [(List.cons.inj both).1])
    rw [List.cons_append, halved_cons_of_unpaired alone, rest, List.cons_append]
  | case3 => rfl

theorem halved_replicate (n : Nat) :
    halved (List.replicate n ' ') = List.replicate ((n + 1) / 2) ' ' := by
  induction n using Nat.twoStepInduction with
  | zero => rfl
  | one => rfl
  | more n ih _ =>
    have half : (n + 2 + 1) / 2 = (n + 1) / 2 + 1 := by omega
    rw [List.replicate_succ, List.replicate_succ, halved, ih, half, List.replicate_succ]

theorem halved_of_free {cs : List Char} (free : ∀ c ∈ cs, c ≠ ' ') : halved cs = cs := by
  induction cs with
  | nil => rfl
  | cons c cs ih =>
    rw [List.forall_mem_cons] at free
    rw [halved_cons_of_unpaired fun _ space => absurd space free.1, ih free.2]

/-! ### Stretches -/

/-- Two characters that are both separators, or both not. -/
def sameKind (c d : Char) : Bool := isSeparator c == isSeparator d

/-- The stretches of separators and the words between them, each as long as can be. -/
def stretches (cs : List Char) : List (List Char) := cs.splitBy sameKind

/-- A stretch as it stands in a normalised name: of separators half as many are left, rounded up. -/
def shrunk (stretch : List Char) : List Char :=
  if stretch.all isSeparator then List.replicate ((stretch.length + 1) / 2) ' ' else stretch

theorem halved_unhyphened_of_separators {run : List Char}
    (all : ∀ c ∈ run, isSeparator c = true) : halved (unhyphened run) = shrunk run := by
  rw [unhyphened_of_separators all, halved_replicate, shrunk, if_pos (List.all_eq_true.2 all)]

theorem halved_unhyphened_of_word {word : List Char} (filled : word ≠ [])
    (free : ∀ c ∈ word, isSeparator c = false) : halved (unhyphened word) = shrunk word := by
  have plain : ∀ c ∈ word, c ≠ ' ' ∧ c ≠ '-' := by simpa [isSeparator] using free
  obtain ⟨c, there⟩ := List.exists_mem_of_ne_nil word filled
  have other : ¬ word.all isSeparator = true := by
    intro all
    exact Bool.false_ne_true ((free c there).symm.trans (List.all_eq_true.1 all c there))
  rw [unhyphened_of_free fun c there => (plain c there).2,
    halved_of_free fun c there => (plain c there).1, shrunk, if_neg other]

/-- In a stretch all characters are separators, or none is. -/
theorem alike_of_isChain {stretch : List Char}
    (chain : stretch.IsChain fun c d => sameKind c d = true) :
    ∃ b, ∀ c ∈ stretch, isSeparator c = b := by
  induction stretch with
  | nil => exact ⟨true, nofun⟩
  | cons c rest ih =>
    rw [List.isChain_cons] at chain
    obtain ⟨b, same⟩ := ih chain.2
    refine ⟨isSeparator c, List.forall_mem_cons.2 ⟨rfl, fun d there => ?_⟩⟩
    obtain ⟨e, more, rfl⟩ := List.exists_cons_of_ne_nil (List.ne_nil_of_mem there)
    have next : isSeparator c = isSeparator e := beq_iff_eq.1 (chain.1 e rfl)
    rw [next, same d there, same e List.mem_cons_self]

theorem halved_unhyphened_of_stretch {stretch : List Char} (filled : stretch ≠ [])
    (chain : stretch.IsChain fun c d => sameKind c d = true) :
    halved (unhyphened stretch) = shrunk stretch := by
  obtain ⟨b, alike⟩ := alike_of_isChain chain
  cases b with
  | true => exact halved_unhyphened_of_separators alike
  | false => exact halved_unhyphened_of_word filled alike

/-- Where separators turn into a word, or a word into separators, no pair of spaces is cut. -/
theorem halved_unhyphened_append {cs ds : List Char}
    (turn : ∀ c ∈ cs.getLast?, ∀ d ∈ ds.head?, sameKind c d = false) :
    halved (unhyphened (cs ++ ds)) = halved (unhyphened cs) ++ halved (unhyphened ds) := by
  rw [unhyphened_append]
  apply halved_append
  rintro c last d first ⟨space, space'⟩
  rw [unhyphened, List.getLast?_map] at last
  rw [unhyphened, List.head?_map] at first
  obtain ⟨x, last', rfl⟩ := Option.map_eq_some_iff.1 last
  obtain ⟨y, first', rfl⟩ := Option.map_eq_some_iff.1 first
  have differ := turn x last' y first'
  rw [sameKind, space_iff_isSeparator.1 space, space_iff_isSeparator.1 space'] at differ
  exact absurd differ (by decide)

/-- Stretches that take turns are halved one by one. -/
theorem halved_unhyphened_flatten {parts : List (List Char)} (filled : [] ∉ parts)
    (chains : ∀ p ∈ parts, p.IsChain fun c d => sameKind c d = true)
    (turns : parts.IsChain fun p q => ∃ hp hq, sameKind (p.getLast hp) (q.head hq) = false) :
    halved (unhyphened parts.flatten) = parts.flatMap shrunk := by
  induction parts with
  | nil => rfl
  | cons p rest ih =>
    rw [List.mem_cons, not_or] at filled
    rw [List.forall_mem_cons] at chains
    rw [List.isChain_cons] at turns
    have turn : ∀ c ∈ p.getLast?, ∀ d ∈ rest.flatten.head?, sameKind c d = false := by
      intro c last d first
      cases rest with
      | nil => cases first
      | cons q more =>
        obtain ⟨hp, hq, differ⟩ := turns.1 q rfl
        obtain ⟨e, q, rfl⟩ := List.exists_cons_of_ne_nil hq
        cases first
        rwa [List.getLast_of_mem_getLast? last] at differ
    rw [List.flatten_cons, halved_unhyphened_append turn, ih filled.2 chains.2 turns.2,
      halved_unhyphened_of_stretch (Ne.symm filled.1) chains.1, List.flatMap_cons]

theorem halved_unhyphened (cs : List Char) :
    halved (unhyphened cs) = (stretches cs).flatMap shrunk := by
  have whole := halved_unhyphened_flatten (List.nil_notMem_splitBy sameKind cs)
    (fun _ => List.isChain_of_mem_splitBy) (List.isChain_getLast_head_splitBy sameKind cs)
  rwa [List.flatten_splitBy] at whole

theorem edged_halved_unhyphened {cs : List Char} (edged : Edged cs) :
    Edged (halved (unhyphened cs)) := by
  have kept : ∀ c, isGap c = false → (if c = '-' then ' ' else c) = c := by
    intro c word
    have hyphen : c ≠ '-' := by
      rintro rfl
      exact absurd word (by decide)
    rw [if_neg hyphen]
  constructor
  · intro c first
    rw [head?_halved, unhyphened, List.head?_map] at first
    obtain ⟨d, first', rfl⟩ := Option.map_eq_some_iff.1 first
    have word := edged.first d first'
    rwa [kept d word]
  · intro c last
    rw [getLast?_halved, unhyphened, List.getLast?_map] at last
    obtain ⟨d, last', rfl⟩ := Option.map_eq_some_iff.1 last
    have word := edged.last d last'
    rwa [kept d word]

/-- Nothing is trimmed from a name with words at its ends. -/
theorem normalized_of_edged {cs : List Char} (edged : Edged cs) :
    normalized cs = halved (unhyphened (lowered cs)) :=
  (edged_halved_unhyphened edged.lowered).trimmed

theorem isGap_eq_false_iff {c : Char} : isGap c = false ↔ isBlank c = false ∧ c ≠ '-' := by
  have hyphen : c.toNat = 45 ↔ c = '-' := Char.toNat_inj (d := '-')
  have split : isGap c = ((decide (45 ≤ c.toNat) && decide (c.toNat ≤ 45)) || isBlank c) := rfl
  rw [split, ne_eq, ← hyphen]
  simp only [Bool.or_eq_false_iff, Bool.and_eq_false_iff, decide_eq_false_iff_not]
  rw [and_comm]
  exact and_congr_right fun _ => by omega

/-- The normalised form of a name that begins and ends with a word is its lowercase form with every
stretch of spaces and hyphens, as long as it can be, turned into half as many spaces, rounded up;
the words between them are kept. -/
theorem stretches_shrunk_by_normalizing {s : String}
    (first : ∀ c, s.toList.head? = some c → isBlank c = false ∧ c ≠ '-')
    (last : ∀ c, s.toList.getLast? = some c → isBlank c = false ∧ c ≠ '-') :
    (normalizedName s).toList = (stretches (lower s).toList).flatMap shrunk := by
  have edged : Edged s.toList :=
    ⟨fun c there => isGap_eq_false_iff.2 (first c there),
      fun c there => isGap_eq_false_iff.2 (last c there)⟩
  rw [normalizedName, String.toList_ofList, normalized_of_edged edged, lower, String.toList_ofList,
    halved_unhyphened]

/-- Stretches of one to three separators; the tab among them is none. -/
theorem stretches_shrunk_by_normalizing_mixed :
    normalizedName "SPF--30 - ΑΣ -\t--50" = "spf 30  ας \t 50" := by
  have shrunk := stretches_shrunk_by_normalizing (s := "SPF--30 - ΑΣ -\t--50")
    (by rintro c ⟨⟩; decide) (by rintro c ⟨⟩; decide)
  have known : (stretches (lower "SPF--30 - ΑΣ -\t--50").toList).flatMap Shop.shrunk =
      "spf 30  ας \t 50".toList := by decide +kernel
  exact String.toList_inj.1 (shrunk.trans known)

/-! ### Normalising again -/

theorem length_halved_le (cs : List Char) : (halved cs).length ≤ cs.length := by
  fun_induction halved cs with
  | case1 cs ih =>
    simp only [List.length_cons]
    omega
  | case2 c cs _ ih =>
    simp only [List.length_cons]
    omega
  | case3 => exact Nat.le_refl _

/-- Only a text without a pair of spaces stays as it is. -/
theorem halved_eq_self_iff {cs : List Char} : halved cs = cs ↔ ¬ [' ', ' '] <:+: cs := by
  fun_induction halved cs with
  | case1 cs ih =>
    have shorter := length_halved_le cs
    constructor
    · intro same
      have length := congrArg List.length same
      simp only [List.length_cons] at length
      omega
    · intro free
      exact absurd ⟨[], cs, rfl⟩ free
  | case2 c cs unpaired ih =>
    have alone : ¬ [' ', ' '] <+: c :: cs := by
      rintro ⟨rest, same⟩
      obtain ⟨rfl, rfl⟩ := List.cons.inj same
      exact unpaired rest rfl rfl
    rw [List.cons.injEq, List.infix_cons_iff, ih]
    simp [alone]
  | case3 => simp

theorem space_prefix_halved_iff {cs : List Char} : [' '] <+: halved cs ↔ [' '] <+: cs := by
  have first := head?_halved cs
  cases cs with
  | nil => rfl
  | cons c cs =>
    obtain ⟨ds, split⟩ := List.head?_eq_some_iff.1 first
    rw [split, List.cons_prefix_cons, List.cons_prefix_cons]
    simp

/-- A pair of spaces is left where three of them stood. -/
theorem pair_infix_halved_iff {cs : List Char} :
    [' ', ' '] <:+: halved cs ↔ [' ', ' ', ' '] <:+: cs := by
  have shorter (ds : List Char) : [' ', ' '] <+: ds → [' '] <+: ds :=
    (List.prefix_append [' '] [' ']).trans
  fun_induction halved cs with
  | case1 cs ih =>
    have first := shorter cs
    simp only [List.infix_cons_iff, List.cons_prefix_cons, true_and, ih, space_prefix_halved_iff]
    tauto
  | case2 c cs unpaired ih =>
    have alone : ¬ (' ' = c ∧ [' '] <+: cs) := by
      rintro ⟨space, rest, same⟩
      exact unpaired rest space.symm same.symm
    have first := shorter cs
    simp only [List.infix_cons_iff, List.cons_prefix_cons, ih, space_prefix_halved_iff]
    tauto
  | case3 => simp

/-- What three separators in a row are turned into. -/
theorem unhyphened_eq_triple_iff {run : List Char} :
    [' ', ' ', ' '] = unhyphened run ↔ run.length = 3 ∧ ∀ c ∈ run, isSeparator c = true := by
  constructor
  · intro same
    have length := congrArg List.length same
    rw [unhyphened, List.length_map] at length
    refine ⟨length.symm, fun c there => ?_⟩
    have space : (if c = '-' then ' ' else c) ∈ [' ', ' ', ' '] := by
      rw [same]
      exact List.mem_map_of_mem there
    exact space_iff_isSeparator.1 (by simpa using space)
  · rintro ⟨length, all⟩
    rw [unhyphened_of_separators all, length]
    rfl

/-- Three separators in a row, with something on both sides of them that is neither a blank nor a
hyphen. -/
def WideGap (cs : List Char) : Prop :=
  ∃ front run back, front ++ run ++ back = cs ∧ run.length = 3 ∧
    (∀ c ∈ run, isSeparator c = true) ∧ (∃ c ∈ front, isBlank c = false ∧ c ≠ '-') ∧
    ∃ c ∈ back, isBlank c = false ∧ c ≠ '-'

/-- A text between the gaps at its two ends. -/
structure Core (cs front core back : List Char) : Prop where
  whole : front ++ core ++ back = cs
  before : ∀ c ∈ front, isGap c = true
  behind : ∀ c ∈ back, isGap c = true
  edged : Edged core

theorem exists_core (cs : List Char) : ∃ front core back, Core cs front core back := by
  let rest := cs.dropWhile isGap
  refine ⟨cs.takeWhile isGap, rest.rdropWhile isGap, rest.rtakeWhile isGap, ?_, ?_, ?_, ?_, ?_⟩
  · rw [List.append_assoc, List.rdropWhile_append_rtakeWhile, List.takeWhile_append_dropWhile]
  · exact List.all_eq_true.1 List.all_takeWhile
  · exact fun _ => List.mem_rtakeWhile_imp
  · intro c first
    obtain ⟨ds, split⟩ := List.head?_eq_some_iff.1 first
    have head : rest.head? = some c := by
      rw [← List.rdropWhile_append_rtakeWhile (p := isGap) (l := rest), split]
      rfl
    have word := List.head?_dropWhile_not isGap cs
    rwa [head] at word
  · intro c last
    have filled : rest.rdropWhile isGap ≠ [] := List.ne_nil_of_mem (List.mem_of_getLast? last)
    have word := List.rdropWhile_last_not isGap rest filled
    rwa [List.getLast_of_mem_getLast? last, Bool.not_eq_true] at word

theorem loose_unhyphened (cs : List Char) : List.Forall₂ Loose cs (unhyphened cs) := by
  apply List.forall₂_map_right_iff.2
  apply List.forall₂_same.2
  intro c _
  by_cases hyphen : c = '-'
  · exact .inr ⟨hyphen, if_pos hyphen⟩
  · exact .inl (if_neg hyphen)

theorem isBlank_of_mem_unhyphened {gaps : List Char} (all : ∀ c ∈ gaps, isGap c = true) :
    ∀ c ∈ unhyphened gaps, isBlank c = true := by
  intro c there
  obtain ⟨d, there', rfl⟩ := List.mem_map.1 there
  by_cases hyphen : d = '-'
  · rw [if_pos hyphen]
    decide
  · rw [if_neg hyphen, ← Bool.not_eq_false]
    intro word
    exact Bool.false_ne_true ((isGap_eq_false_iff.2 ⟨word, hyphen⟩).symm.trans (all d there'))

/-- Gaps at its ends do not count in a name, hyphens among them. -/
theorem Core.normalized {cs front core back : List Char} (split : Core cs front core back) :
    normalized cs = normalized core := by
  rw [← split.whole, ← Loose.normalized (loose_unhyphened (front ++ core ++ back)),
    unhyphened_append, unhyphened_append,
    normalized_append_blanks (isBlank_of_mem_unhyphened split.behind),
    normalized_blanks_append (isBlank_of_mem_unhyphened split.before),
    Loose.normalized (loose_unhyphened core)]

section
variable {cs front core back : List Char}

/-- The gaps at the ends of a text do not reach as far as a wide gap. -/
theorem Core.infix_of_wideGap (split : Core cs front core back) (wide : WideGap cs) :
    ∃ run, run <:+: core ∧ run.length = 3 ∧ ∀ c ∈ run, isSeparator c = true := by
  obtain ⟨before, run, behind, rfl, length, separators, some_word, some_word'⟩ := wide
  have outside {part gaps : List Char} (all : ∀ c ∈ gaps, isGap c = true)
      (some_word : ∃ c ∈ part, isBlank c = false ∧ c ≠ '-') : ¬ part ⊆ gaps := by
    obtain ⟨c, there, word⟩ := some_word
    intro among
    exact Bool.false_ne_true ((isGap_eq_false_iff.2 word).symm.trans (all c (among there)))
  have start : front <+: before ++ run ++ behind := ⟨core ++ back, by simp [← split.whole]⟩
  have ending : back <:+ before ++ run ++ behind := ⟨front ++ core, split.whole⟩
  obtain ⟨before, rfl⟩ : front <+: before := by
    obtain shorter | longer := List.prefix_or_prefix_of_prefix start
      (List.prefix_append_of_prefix (List.prefix_append before run))
    · exact shorter
    · exact absurd longer.subset (outside split.before some_word)
  obtain ⟨behind, rfl⟩ : back <:+ behind := by
    obtain shorter | longer := List.suffix_or_suffix_of_suffix ending (List.suffix_append _ behind)
    · exact shorter
    · exact absurd longer.subset (outside split.behind some_word')
  refine ⟨run, ⟨before, behind, ?_⟩, length, separators⟩
  have same := split.whole
  rw [← List.append_assoc _ behind back, List.append_cancel_right_eq] at same
  simpa using same.symm

/-- Separators inside the text have words on both sides, as the text begins and ends with one. -/
theorem Core.wideGap_of_infix (split : Core cs front core back) {run : List Char}
    (inside : run <:+: core) (length : run.length = 3)
    (separators : ∀ c ∈ run, isSeparator c = true) : WideGap cs := by
  obtain ⟨before, behind, rfl⟩ := inside
  have gap {c : Char} (there : c ∈ run) (word : isGap c = false) : False :=
    Bool.false_ne_true (word.symm.trans (isGap_of_isSeparator (separators c there)))
  have filled : run ≠ [] := by
    rintro rfl
    cases length
  refine ⟨front ++ before, run, behind ++ back, ?_, length, separators, ?_, ?_⟩
  · simp [← split.whole]
  · cases before with
    | nil =>
      obtain ⟨c, rest, rfl⟩ := List.exists_cons_of_ne_nil filled
      exact (gap List.mem_cons_self (split.edged.first c rfl)).elim
    | cons c before => exact ⟨c, by simp, isGap_eq_false_iff.1 (split.edged.first c rfl)⟩
  · obtain rfl | ⟨rest, c, rfl⟩ := List.eq_nil_or_concat behind
    · refine (gap (List.getLast_mem filled) (split.edged.last _ ?_)).elim
      simp [List.getLast?_append, List.getLast?_eq_some_getLast filled]
    · exact ⟨c, by simp, isGap_eq_false_iff.1 (split.edged.last c (by simp))⟩

theorem Core.wideGap_iff (split : Core cs front core back) :
    WideGap cs ↔ ∃ run, run <:+: core ∧ run.length = 3 ∧ ∀ c ∈ run, isSeparator c = true := by
  constructor
  · exact split.infix_of_wideGap
  · rintro ⟨run, inside, length, separators⟩
    exact split.wideGap_of_infix inside length separators

end

/-- A name comes out of being normalised in lowercase and without hyphens. -/
theorem of_mem_normalized {cs : List Char} {c : Char}
    (there : c ∈ halved (unhyphened (lowered cs))) : IsLower c ∧ c ≠ '-' := by
  obtain ⟨d, there', rfl⟩ := List.mem_map.1 (mem_of_mem_halved there)
  by_cases hyphen : d = '-'
  · rw [if_pos hyphen]
    decide
  · rw [if_neg hyphen]
    exact ⟨isLower_of_mem_lowerFrom there', hyphen⟩

theorem normalized_again_of_edged {cs : List Char} (edged : Edged cs) :
    normalized (normalized cs) = halved (normalized cs) := by
  have once := normalized_of_edged edged
  have edged' : Edged (normalized cs) := by
    rw [once]
    exact edged_halved_unhyphened edged.lowered
  have settled : ∀ c ∈ normalized cs, IsLower c ∧ c ≠ '-' := by
    rw [once]
    exact fun _ => of_mem_normalized
  rw [normalized_of_edged edged', lowered, lowerFrom_of_isLower fun c there => (settled c there).1,
    unhyphened_of_free fun c there => (settled c there).2]

/-- Three spaces stand in a row before pairs are halved where three separators stood. -/
theorem triple_infix_iff {cs : List Char} : [' ', ' ', ' '] <:+: unhyphened (lowered cs) ↔
    ∃ run, run <:+: cs ∧ run.length = 3 ∧ ∀ c ∈ run, isSeparator c = true := by
  rw [unhyphened, List.infix_map_iff]
  refine exists_congr fun run => ?_
  rw [← unhyphened, unhyphened_eq_triple_iff]
  refine and_congr_left fun triple => ?_
  have filled : run ≠ [] := by
    rintro rfl
    cases triple.1
  have gaps : ∀ c ∈ run, isGap c = true := fun c there => isGap_of_isSeparator (triple.2 c there)
  exact gaps_infix_lowerFrom_iff filled gaps [] cs

/-- Normalising a name twice is the same as doing it once, exactly when it has no wide gap. -/
theorem normalizing_again_changes_nothing_iff (s : String) :
    normalizedName (normalizedName s) = normalizedName s ↔ ¬ WideGap s.toList := by
  obtain ⟨front, core, back, split⟩ := exists_core s.toList
  have inner : normalizedName s = String.ofList (normalized core) := by
    rw [normalizedName, split.normalized]
  rw [split.wideGap_iff, ← triple_infix_iff, ← pair_infix_halved_iff,
    ← normalized_of_edged split.edged, ← halved_eq_self_iff,
    ← normalized_again_of_edged split.edged, inner, normalizedName, String.toList_ofList,
    String.ofList_inj]

/-- Three spaces become two, and two become one. -/
theorem normalizing_again_closes_gap :
    normalizedName "a   b" = "a  b" ∧ normalizedName "a  b" = "a b" := by
  decide

end Shopwalk.Shop
