import Shopwalk.Proofs.Operations

/-!
Reading and verifying never acts on the site. Whatever an operation is handed that only reads the
page or verifies something of it, and whether it comes to an answer or fails, with evidence of the
failure included, the site is what it was and no call has been made that acts on it.
-/

namespace Shopwalk

section
variable {R : World → World → Prop} [Std.Refl R] [Trans R R R] [AdmitsLooks R]

namespace Stays

theorem visibleOf (target timeout : Value) : Stays R (Check.visibleOf target timeout) :=
  (settle _).bind fun _ => (settle _).bind fun _ => visible _ _

theorem enabledOf (selector : Value) : Stays R (Check.enabledOf selector) :=
  (textOf _).bind fun _ => enabled _

theorem textFor (target expected exact timeout : Value) :
    Stays R (Check.textFor target expected exact timeout) :=
  (settle _).bind fun _ => (settle _).bind fun _ => text _ _ _ _

theorem textMatching (target pattern timeout : Value) :
    Stays R (Check.textMatching target pattern timeout) :=
  (settle _).bind fun _ => textFor _ _ _ _

theorem exactCount (selector : String) (expected : Value) :
    Stays R (Check.exactCount selector expected) :=
  (count _).bind fun _ => (textOf _).bind fun _ => (note _ _).bind fun _ =>
    (expectCount _ _).bind fun _ => (note _ _).bind fun _ => pure _

/-- Whichever counts are given, elements are counted by looking; without any there is no look. -/
theorem countOf (selector expected least : Value) :
    Stays R (Check.countOf selector expected least) := by
  unfold Check.countOf
  split
  · split
    · exact (throw _).bind fun _ => leastCount _ _
    · exact leastCount _ _
  · split
    · exact (note _ _).bind fun _ => exactCount _ _
    · exact exactCount _ _

theorem framedOf (q : Fault.Quality) (frame selector timeout : Value) :
    Stays R (Check.framedOf q frame selector timeout) :=
  (textOf _).bind fun _ => (settle _).bind fun _ => framed _ _ _ _

end Stays

end

/-- The operations that read the page or verify something of it, with all they may be handed. -/
inductive Reader where
  | text (selector : Value)
  | shows (selector : Value)
  | temperature
  | products
  | cheapest (criterion criterionKind : Value)
  | items
  | verifyItems (expected : Value)
  | displayedTotal
  | verifyTotal
  | verifySuccess
  | url (p caseSensitive : Value)
  | heading (expected selector : Value)
  | navigation (p expected selector : Value)
  | visible (target timeout : Value)
  | enabled (selector : Value)
  | textContent (target expected exact timeout : Value)
  | count (selector expected least : Value)
  | title (expected exact : Value)
  | textMatching (target pattern timeout : Value)
  | cartNotEmpty (selector : Value)
  | framed (q : Fault.Quality) (frame selector timeout : Value)

namespace Reader

def Answer : Reader → Type
  | text _ => String
  | shows _ | verifyItems _ | verifySuccess => Bool
  | temperature | displayedTotal | verifyTotal => Nat
  | products => List Product
  | cheapest _ _ => Product
  | items => List CartItem
  | url _ _ | heading _ _ | navigation _ _ _ | title _ _ => Unit
  | visible _ _ | enabled _ | textContent _ _ _ _ | textMatching _ _ _ | cartNotEmpty _
  | framed _ _ _ _ => Locator
  | count _ _ _ => List Locator

def walk : (op : Reader) → Walk op.Answer
  | text selector => Page.text selector.display
  | shows selector => Page.shows selector.display
  | temperature => Home.temperature
  | products => Products.list
  | cheapest criterion criterionKind => Products.findCheapest criterion criterionKind
  | items => Cart.items
  | verifyItems expected => Cart.verifyItems expected
  | displayedTotal => Cart.displayedTotal
  | verifyTotal => Cart.verifyTotal
  | verifySuccess => Payment.verifySuccess
  | url p caseSensitive => Check.urlOf p caseSensitive
  | heading expected selector => Check.headingOf expected selector
  | navigation p expected selector => Check.navigationOf p expected selector
  | visible target timeout => Check.visibleOf target timeout
  | enabled selector => Check.enabledOf selector
  | textContent target expected exact timeout => Check.textFor target expected exact timeout
  | count selector expected least => Check.countOf selector expected least
  | title expected exact => Check.titleOf expected exact
  | textMatching target pattern timeout => Check.textMatching target pattern timeout
  | cartNotEmpty selector => Check.cartNotEmptyOf selector
  | framed q frame selector timeout => Check.framedOf q frame selector timeout

theorem looks (op : Reader) : Looks op.walk := by
  cases op with
  | text selector => exact Stays.textAt _
  | shows selector => exact Stays.isVisible _
  | temperature => exact Home.temperature_stays
  | products => exact Products.list_stays
  | cheapest criterion criterionKind => exact Products.findCheapest_stays _ _
  | items => exact Cart.items_stays
  | verifyItems expected => exact Cart.verifyItems_stays _
  | displayedTotal => exact Cart.displayedTotal_stays
  | verifyTotal => exact Cart.verifyTotal_stays
  | verifySuccess => exact Payment.readConfirmation_stays.recovering
  | url p caseSensitive => exact Stays.urlOf _ _
  | heading expected selector => exact Stays.heading _ _
  | navigation p expected selector => exact Stays.navigation _ _ _
  | visible target timeout => exact Stays.visibleOf _ _
  | enabled selector => exact Stays.enabledOf _
  | textContent target expected exact timeout => exact Stays.textFor _ _ _ _
  | count selector expected least => exact Stays.countOf _ _ _
  | title expected exact => exact Stays.pageTitle _ _
  | textMatching target pattern timeout => exact Stays.textMatching _ _ _
  | cartNotEmpty selector => exact Stays.cartNotEmpty _
  | framed q frame selector timeout => exact Stays.framedOf _ _ _ _

end Reader

/-- On every page and under every script, an operation that reads or verifies leaves the site as it
was, however it ends, and none of the calls that it has made acts on the site. -/
theorem reading_never_acts (op : Reader) (w : World) :
    (lastState (op.walk w)).site = w.site ∧
      ∃ events, (lastState (op.walk w)).trace = w.trace ++ events ∧
        ∀ e ∈ events, e.acts = false := by
  obtain ⟨site, -, events, trace, idle⟩ := op.looks w
  exact ⟨site, events, trace, fun e happened =>
    Bool.eq_false_iff.2 (List.filter_eq_nil_iff.1 idle e happened)⟩

end Shopwalk
