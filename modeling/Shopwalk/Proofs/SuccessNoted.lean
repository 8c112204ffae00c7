import Shopwalk.Proofs.PaymentForm
import Shopwalk.Proofs.Success

/-!
What a note of success is worth. In all operations but one, nothing can go wrong any more once a
success has been noted, so that the operation reports it, too. A payment is noted as submitted
before it is known that the press of submit has led to another page: when it has not, a success
stands in the log that the payment does not report.
-/

namespace Shopwalk

/-- The log tells of a success that it did not tell of before. -/
def SuccessNoted (before after : World) : Prop :=
  ∃ notes, after.journal = before.journal ++ notes ∧ ∃ note ∈ notes, note.level = .success

/-- The log has grown by notes other than of success. -/
def Unpraised (before after : World) : Prop :=
  Grown (·.level ≠ .success) before.journal after.journal

instance : Std.Refl Unpraised := ⟨fun _ => .refl _⟩

instance : Trans Unpraised Unpraised Unpraised := ⟨fun first second => first.trans second⟩

instance : AdmitsCalls Unpraised := ⟨Walked.journal⟩

instance : AdmitsRecords Unpraised where
  admits e _ w := by
    rw [lastState_perform]
    exact Grown.refl w.journal

instance : AdmitsEvidence Unpraised where
  admits := Stays.capture Stays.remark fun work w => by
    obtain ⟨disk, last⟩ := lastState_onDisk work w
    rw [last]
    exact Grown.refl w.journal

theorem Unpraised.not_successNoted {before after : World} (h : Unpraised before after) :
    ¬ SuccessNoted before after := by
  rintro ⟨notes, added, note, written, praise⟩
  obtain ⟨more, added', plain⟩ := h
  obtain rfl : notes = more := List.append_cancel_left (added.symm.trans added')
  exact plain note written praise

namespace SuccessNoted

variable {a b c : World}

/-- A note of success stays in the log. -/
theorem later (h : SuccessNoted a b) (rest : Unpraised b c) : SuccessNoted a c := by
  obtain ⟨notes, added, note, written, praise⟩ := h
  obtain ⟨more, added', -⟩ := rest
  refine ⟨notes ++ more, ?_, note, List.mem_append_left more written, praise⟩
  rw [added', added, List.append_assoc]

theorem earlier (first : Unpraised a b) (h : SuccessNoted b c) : SuccessNoted a c := by
  obtain ⟨notes, added, note, written, praise⟩ := h
  obtain ⟨more, added', -⟩ := first
  refine ⟨more ++ notes, ?_, note, List.mem_append_right more written, praise⟩
  rw [added, added', List.append_assoc]

theorem note {α : Type} {text : String} {next : Unit → Walk α} (rest : Stays Unpraised (next ())) :
    Stays SuccessNoted (Walk.note .success text >>= next) := by
  intro w
  have noted : SuccessNoted w { w with journal := w.journal ++ [⟨.success, text⟩] } :=
    ⟨_, rfl, _, List.mem_singleton_self _, rfl⟩
  exact noted.later (rest _)

end SuccessNoted

section
variable {α : Type} {walk : Walk α} {good : α → Bool}

/-- A run that comes to no good answer notes no success. -/
abbrev PraisedOn (good : α → Bool) (walk : Walk α) : Prop :=
  StaysWhen (fun answer => answer.any good = false) Unpraised walk

/-- What is noted last comes before an answer that reports it. -/
theorem saying_praised {answer : α} (told : good answer = true) (text : String) :
    PraisedOn good (saying text answer) :=
  .of_never fun _ untold => Bool.false_ne_true (untold.symm.trans told)

theorem PraisedOn.recovering {complaint name : String} {substitute : Fault → α}
    (h : PraisedOn good walk) :
    PraisedOn good (Evidence.recovering complaint name substitute walk) :=
  h.tryCatch (fun e => ((Stays.keep complaint name e).bind fun _ => .pure _).when) fun _ _ _ => rfl

end

theorem Home.goToProducts_praised (k : Shop.ProductKind) : PraisedOn id (Home.goToProducts k) :=
  .recovering (Home.followButton_when (saying_praised rfl) k)

/-- Outside the payment form, success is noted by operations that report it. -/
theorem Operation.praised (op : Operation) (other : op ≠ .fillDetails) :
    PraisedOn op.worked op.walk := by
  cases op with
  | load => exact .recovering (Home.arrive_when (saying_praised rfl))
  | temperature => exact Home.temperature_stays.when
  | goToProducts kind => exact Home.goToProductsNamed_when Home.goToProducts_praised kind
  | chooseProducts degrees =>
    exact .recovering (Home.goByTemperature_when Home.goToProducts_praised
      (fun k reached untold => (Home.any_chosen k reached).symm.trans untold) degrees)
  | products => exact Products.list_stays.when
  | findCheapest criterion criterionKind => exact (Products.findCheapest_stays _ _).when
  | addToCart button => exact .recovering (Products.pressAdd_when (saying_praised rfl) button)
  | goToCart => exact Products.goToCart_stays.when
  | items => exact Cart.items_stays.when
  | verifyItems expected =>
    exact .recovering (Cart.compareItems_when Cart.items_stays.when (saying_praised rfl)
      (fun _ => showing_stays.when) expected)
  | verifyTotal =>
    exact Cart.verifyTotal_when Cart.items_stays.when fun text _ => saying_praised rfl text
  | proceedToPayment => exact Cart.openPayment_stays.recovering.when
  | fillDetails => exact absurd rfl other
  | verifySuccess => exact .recovering (Payment.readConfirmation_when (saying_praised rfl))

namespace Payment

/-- Success is noted when all calls of a payment have been made without a fault. -/
theorem submitForm_noted {w : World} (done : (play w.rules (formSteps w.site)).fault = none) :
    SuccessNoted w (lastState (submitForm w)) := by
  obtain ⟨notes, -, run⟩ := toSubmit_makes w.site w rfl
  rw [done] at run
  rw [submitForm_eq, bind_of_ok run]
  refine .earlier (toSubmit_stays.of_ok run) (SuccessNoted.note ?_ _)
  refine Stays.site.bind fun s => ?_
  split
  · exact .throw _
  · exact .pure _

theorem submitForm_unpraised {w : World} {f : Fault}
    (failed : (play w.rules (formSteps w.site)).fault = some f) :
    Unpraised w (lastState (submitForm w)) := by
  obtain ⟨notes, -, run⟩ := toSubmit_makes w.site w rfl
  rw [failed] at run
  rw [submitForm_eq, bind_of_error run]
  exact toSubmit_stays.of_error run

/-- A payment is noted as submitted exactly when no rule fails one of its calls and the form is
there, wherever submit leads. -/
theorem fillDetails_noted_iff {w : World} :
    SuccessNoted w (lastState (fillDetails w)) ↔
      Rule.Spares w.rules formEvents ∧ FormReady w.site := by
  rw [← play_form_iff]
  have since : Unpraised (lastState (submitForm w)) (lastState (fillDetails w)) :=
    Stays.since_recovering _ _ _ _ w
  cases fault : (play w.rules (formSteps w.site)).fault with
  | some f =>
    have plain : Unpraised w (lastState (fillDetails w)) :=
      Trans.trans (submitForm_unpraised fault) since
    exact ⟨fun noted => absurd noted plain.not_successNoted, nofun⟩
  | none => exact ⟨fun _ => rfl, fun _ => (submitForm_noted fault).later since⟩

end Payment

/-- Whether an operation reports success. -/
def Operation.Succeeds (op : Operation) (w : World) : Prop :=
  (answer? (op.walk w)).any op.worked = true

theorem Payment.fillDetails_succeeds_iff {w : World} :
    Operation.fillDetails.Succeeds w ↔ GoesThrough w := by
  rw [← fillDetails_true_iff]
  change (answer? (fillDetails w)).any id = true ↔ _
  cases fillDetails w with
  | ok made after => simp [answer?]
  | error e after => simp [answer?]

/-- On every page, under every script and in every working directory: an operation during which a
success is noted reports success, but for a payment whose form is filled in and submitted without a
fault while the press of submit does not lead to another page. -/
theorem noted_success_reported_iff (op : Operation) (w : World) :
    (SuccessNoted w (lastState (op.walk w)) → op.Succeeds w) ↔
      ¬ (op = .fillDetails ∧ Rule.Spares w.rules Payment.formEvents ∧
        Payment.FormReady w.site ∧ ¬ Payment.Leads w.site) := by
  by_cases payment : op = .fillDetails
  · subst payment
    have noted := Payment.fillDetails_noted_iff (w := w)
    have made := Payment.fillDetails_succeeds_iff (w := w)
    constructor
    · rintro reported ⟨-, spared, ready, astray⟩
      exact astray (made.1 (reported (noted.2 ⟨spared, ready⟩))).leads
    · intro led submitted
      obtain ⟨spared, ready⟩ := noted.1 submitted
      have leads : Payment.Leads w.site := by
        apply Classical.byContradiction
        intro astray
        exact led ⟨rfl, spared, ready, astray⟩
      exact made.2 ⟨spared, ready, leads⟩
  · refine ⟨fun _ failing => payment failing.1, fun _ noted => ?_⟩
    apply eq_true_of_ne_false
    intro failed
    exact (op.praised payment w failed).not_successNoted noted

open Shop in
/-- A page with the whole payment form, whose submit does nothing when it is pressed. -/
def stillForm : Site where
  elements := [(Selector.paymentFrame, [.mk (some "") true true [] []])]
  frames := [(Selector.paymentFrame,
    [Selector.email, Selector.cardNumber, Selector.expiry, Selector.cvc, Selector.submit].map
      fun selector => (selector, [.mk (some "") true true [] []]))]

theorem formReady_stillForm : Payment.FormReady stillForm where
  frame := ⟨_, rfl, rfl⟩
  fields := by
    simp only [List.forall_mem_cons]
    exact ⟨⟨_, rfl, rfl, rfl⟩, ⟨_, rfl, rfl, rfl⟩, ⟨_, rfl, rfl, rfl⟩, ⟨_, rfl, rfl, rfl⟩,
      ⟨_, rfl, rfl, rfl⟩, nofun⟩

/-- The payment on that page is noted as submitted and reported as not made. -/
theorem still_form_noted_as_submitted :
    SuccessNoted { site := stillForm } (lastState (Payment.fillDetails { site := stillForm })) ∧
      answer? (Payment.fillDetails { site := stillForm }) = some false := by
  have astray : ¬ Payment.GoesThrough { site := stillForm } := by
    rintro ⟨-, -, e, url, found, pressed⟩
    obtain rfl : Element.mk (some "") true true [] [] = e := List.head_eq_of_cons_eq found
    cases pressed
  refine ⟨Payment.fillDetails_noted_iff.2 ⟨Rule.spares_nil _, formReady_stillForm⟩, ?_⟩
  obtain ⟨_, _, _, _, ⟨_, _, run⟩ | ⟨blocked, _⟩⟩ := Payment.fillDetails_of_not_goesThrough astray
  · rw [run]
    rfl
  · exact absurd ⟨_, rfl⟩ blocked

end Shopwalk
