import Shopwalk.Proofs.PatternAlternatives
import Shopwalk.Proofs.Unscripted

/-!
The check of a url. It looks for a pattern between two wildcards, and passes where the pattern is
found by itself, with one exception: a capital beyond two bytes that is one of several single
characters is not found by itself when case is ignored, but it is between wildcards.
-/

namespace Shopwalk

namespace Check

open Pattern

/-- Without rules the check of a url passes or fails as its pattern is found or not. -/
theorem url_of_compile {p : String} {caseSensitive : Bool} {re : Pattern}
    (compiled : compile (wrapped p) { ignoreCase := !caseSensitive } = .ok re) {w : World}
    (unscripted : w.rules = []) :
    (re.found w.site.url = true → ∃ after, url p caseSensitive w = .ok () after) ∧
      (re.found w.site.url = false → ∃ after, url p caseSensitive w =
        .error (.unmetPage .url (Browser.Expected.pattern re).shown w.site.url) after) := by
  have follows := Follows.url_of_compile (s := w.site) compiled
  constructor
  · intro found
    have granted : [Step.url w.site re].findSome? Step.fault = none := by
      simp [Step.url_fault_iff.2 found]
    obtain ⟨after, run, -⟩ := (follows.yields_of_granted granted).run rfl unscripted
    exact ⟨after, run⟩
  · intro missing
    have refused : [Step.url w.site re].findSome? Step.fault =
        some (.unmetPage .url (Browser.Expected.pattern re).shown w.site.url) := by
      have unequal : (Browser.Expected.pattern re).equals w.site.url = false := missing
      simp [Step.url, Site.hasField, unequal, faultOf, Browser.field]
    obtain ⟨after, run, -⟩ := (Makes.refused follows refused).run rfl unscripted
    exact ⟨after, run⟩

/-- An alternative of a pattern is found although it is lost among the others. -/
def FoundLost (p text : String) : Prop :=
  ∃ a ∈ lostAlternatives (alternativesOf p),
    (⟨p, { ignoreCase := true }, .ofList a⟩ : Pattern).found text = true

theorem foundLost_iff {p : String} {first : List Node} {others : List (List Node)}
    {s r : Pattern.Reader} (read : ReadAlone p first others s r)
    (ordinary : (Node.ofList (joined first others)).isPossessive = false)
    (unscoped : (Node.ofList (joined first others)).isScoped = false) {text : String} :
    FoundLost p text ↔ ∃ a ∈ lostAlternatives (first :: others),
      HasMatch (lettersOf text) { ignoreCase := true } (.ofList a) := by
  rw [FoundLost, read.alternativesOf]
  refine exists_congr fun a => and_congr_right fun lost => ?_
  have member := mem_of_mem_lostAlternatives lost
  exact found_iff
    (partwise_ordinary.ofList_iff.2 (partwise_ordinary.joined_iff.1 ordinary a member))
    (partwise_unscoped.ofList_iff.2 (partwise_unscoped.joined_iff.1 unscoped a member))

/-- A pattern is found between two wildcards where it is found by itself or an alternative of it is
that is lost. -/
theorem compile_wrapped {p : String} {q : Pattern} (alone : Pattern.parse p {} = .ok q)
    (unflagged : q.flags = {}) (unscoped : q.node.isScoped = false)
    (ordinary : q.node.isPossessive = false) (caseSensitive : Bool) :
    ∃ re outer, compile p { ignoreCase := !caseSensitive } = .ok re ∧
      compile (wrapped p) { ignoreCase := !caseSensitive } = .ok outer ∧
      ∀ text, outer.found text = true ↔ re.found text = true ∨
        caseSensitive = false ∧ wrapped p ≠ p ∧ FoundLost p text := by
  obtain ⟨first, others, s, r, read, rfl⟩ := readAlone_of_parse alone unflagged
  have itself := read.parse (!caseSensitive)
  have compiled : compile p { ignoreCase := !caseSensitive } =
      .ok ⟨p, { ignoreCase := !caseSensitive }, .ofList (joined first others)⟩ := by
    rw [compile, itself]
  by_cases same : wrapped p = p
  · refine ⟨_, _, compiled, same.symm ▸ compiled, fun text => ?_⟩
    simp [same]
  · have around : wrapped p = ".*" ++ p ++ ".*" := by
      unfold wrapped at same ⊢
      dsimp only at same ⊢
      split
      · next bare => exact absurd (if_pos bare) same
      · rfl
    obtain ⟨first', others', all⟩ := exists_appendLast [anything] (anything :: first) others
    have flawless := partwise_flawless.wrapped rfl all read.flawless
    have near := partwise_near.wrapped rfl all read.accepts.near
    have greedy := partwise_ordinary.wrapped rfl all ordinary
    have unscoped' := partwise_unscoped.wrapped rfl all unscoped
    have outer := read.parse_wrapped (!caseSensitive) all flawless near
    refine ⟨_, _, compiled, by rw [compile, around, outer], fun text => ?_⟩
    rw [found_iff greedy unscoped', found_iff ordinary unscoped, hasMatch_wrapped_iff rfl all,
      foundLost_iff read ordinary unscoped]
    cases caseSensitive <;> simp [same]

/-- The check of a url passes if its pattern is found by itself, or if case is ignored and one of
its alternatives is found that is lost there; otherwise the expectation of the url is not met. This
is said of the patterns in which no flags are written, neither for the whole nor for a part. -/
theorem url_passes_as_found {p : String} {q : Pattern} (alone : Pattern.parse p {} = .ok q)
    (unflagged : q.flags = {}) (unscoped : q.node.isScoped = false)
    (ordinary : q.node.isPossessive = false) (caseSensitive : Bool) {w : World}
    (unscripted : w.rules = []) :
    ∃ re, compile p { ignoreCase := !caseSensitive } = .ok re ∧
      ((∃ after, url p caseSensitive w = .ok () after) ↔ re.found w.site.url = true ∨
        caseSensitive = false ∧ wrapped p ≠ p ∧ FoundLost p w.site.url) ∧
      ((∃ after, url p caseSensitive w = .ok () after) ∨
        ∃ fault after, url p caseSensitive w = .error fault after ∧ fault.kind = .assertion) := by
  obtain ⟨re, outer, compiled, around, same⟩ :=
    compile_wrapped alone unflagged unscoped ordinary caseSensitive
  obtain ⟨passes, fails⟩ := url_of_compile around unscripted
  refine ⟨re, compiled, ?_, ?_⟩
  · rw [← same]
    refine ⟨fun ⟨after, run⟩ => ?_, passes⟩
    by_contra missing
    obtain ⟨last, failed⟩ := fails (Bool.eq_false_iff.2 missing)
    cases run.symm.trans failed
  · cases found : outer.found w.site.url with
    | true => exact .inl (passes found)
    | false =>
      obtain ⟨after, failed⟩ := fails found
      exact .inr ⟨_, after, failed, rfl⟩

theorem parse_of_toOption {p : String} {f : Flags} {q : Pattern}
    (read : (Pattern.parse p f).toOption = some q) : Pattern.parse p f = .ok q := by
  cases parsed : Pattern.parse p f with
  | ok _ => rw [parsed] at read; cases read; rfl
  | error _ => rw [parsed] at read; cases read

/-- What is read from `cart$|bag?`. -/
def cartOrBag (f : Flags) : Pattern :=
  ⟨"cart$|bag?", f, .alt
    (.ofList [.lit 99, .lit 97, .lit 114, .lit 116, .anchor .lineEnd])
    (.ofList [.lit 98, .lit 97, .rep .greedy 0 (some 1) (.lit 103)])⟩

/-- A page whose url has several lines. -/
def brokenUrl : World := { site := { url := Shop.baseUrl ++ "\nCart\n" } }

theorem url_passes_as_found_broken :
    Pattern.parse "cart$|bag?" {} = .ok (cartOrBag {}) ∧
      compile "cart$|bag?" { ignoreCase := true } = .ok (cartOrBag { ignoreCase := true }) ∧
      (cartOrBag { ignoreCase := true }).found brokenUrl.site.url = true ∧
      ∃ after, url "cart$|bag?" false brokenUrl = .ok () after := by
  have alone : Pattern.parse "cart$|bag?" {} = .ok (cartOrBag {}) := parse_of_toOption (by decide)
  have compiled : compile "cart$|bag?" { ignoreCase := true } =
      .ok (cartOrBag { ignoreCase := true }) := by
    rw [compile, parse_of_toOption (q := cartOrBag { ignoreCase := true }) (by decide)]
  have found : (cartOrBag { ignoreCase := true }).found brokenUrl.site.url = true := by decide
  obtain ⟨re, same, passes, -⟩ := url_passes_as_found alone rfl rfl rfl false (w := brokenUrl) rfl
  cases compiled.symm.trans same
  exact ⟨alone, compiled, found, passes.2 (.inl found)⟩

/-- What is read from `𐐀|b`. -/
def capitalOrB (f : Flags) : Pattern := ⟨"𐐀|b", f, .set true [.one 66560, .one 98]⟩

/-- A page whose url has a capital beyond two bytes. -/
def capitalUrl : World := { site := { url := Shop.baseUrl ++ "𐐀" } }

/-- The check of a url can pass although its pattern is not found by itself. -/
theorem capital_found_only_wrapped :
    Pattern.parse "𐐀|b" {} = .ok (capitalOrB {}) ∧
      compile "𐐀|b" { ignoreCase := true } = .ok (capitalOrB { ignoreCase := true }) ∧
      (capitalOrB { ignoreCase := true }).found capitalUrl.site.url = false ∧
      ∃ after, url "𐐀|b" false capitalUrl = .ok () after := by
  have alone : Pattern.parse "𐐀|b" {} = .ok (capitalOrB {}) := parse_of_toOption (by decide)
  have compiled : compile "𐐀|b" { ignoreCase := true } =
      .ok (capitalOrB { ignoreCase := true }) := by
    rw [compile, parse_of_toOption (q := capitalOrB { ignoreCase := true }) (by decide)]
  have passes : answer? (url "𐐀|b" false capitalUrl) = some () := by decide
  exact ⟨alone, compiled, by decide, answer?_eq_some_iff.1 passes⟩

end Check

end Shopwalk
