import Shopwalk.Payment
import Shopwalk.Proofs.Checks
import Shopwalk.Proofs.Evidence
import Shopwalk.Proofs.Operations

/-!
The order of the payment form. The calls of a payment are the first ones of one fixed list, as far
as they go; submit is the last of them, so that nothing is submitted that has not been filled in.
-/

namespace Shopwalk.Payment

open Shop

/-- Where an element of the form stands. -/
def place (selector : String) : Locator := .framed Selector.paymentFrame selector

/-- What has to happen with one field: it is visible, it is enabled, it is filled. -/
def fieldEvents (selector : String) (timeout : Option String) (value : String) : List Event :=
  [.expectQuality .visible (place selector).selector timeout,
   .expectQuality .enabled (place selector).selector none,
   .fill (place selector).selector value]

/-- What happens before submit is pressed. -/
def fillingEvents : List Event :=
  [.waitForLoad "networkidle" none,
   .expectQuality .visible Selector.paymentFrame (some "10000")] ++
  fieldEvents Selector.email (some "5000") Card.email ++
  fieldEvents Selector.cardNumber none Card.number ++
  fieldEvents Selector.expiry none (Card.expiryMonth ++ Card.expiryYear) ++
  fieldEvents Selector.cvc none Card.cvc ++
  [.expectQuality .visible (place Selector.submit).selector none,
   .expectQuality .enabled (place Selector.submit).selector none,
   .expectNavigation (some "networkidle")]

/-- The press of submit. -/
def submission : Event := .click (place Selector.submit).selector

/-- Everything that happens in a payment, in order. -/
def formEvents : List Event := fillingEvents ++ [submission]

example : formEvents.length = 18 := rfl

/-- The form is there: its frame is visible, and each of its elements is visible and enabled. -/
structure FormReady (s : Site) : Prop where
  frame : ∃ e, s.resolve (.top Selector.paymentFrame) = [e] ∧ e.visible = true
  fields : ∀ selector ∈
      [Selector.email, Selector.cardNumber, Selector.expiry, Selector.cvc, Selector.submit],
    ∃ e, s.resolve (place selector) = [e] ∧ e.visible = true ∧ e.enabled = true

/-- Pressing submit leads to another page. -/
def Leads (s : Site) : Prop :=
  ∃ e url, s.resolve (place Selector.submit) = [e] ∧ .setUrl url ∈ e.onClick

/-- A payment goes through: no rule fails one of its calls, the form is there, and pressing submit
leads to another page. -/
structure GoesThrough (w : World) : Prop where
  spared : Rule.Spares w.rules formEvents
  ready : FormReady w.site
  leads : Leads w.site

/-- The calls for one field, on a site. -/
def fieldSteps (s : Site) (selector : String) (timeout : Option String) (value : String) :
    List Step :=
  [.quality s .visible (place selector) timeout, .quality s .enabled (place selector) none,
   .fill s (place selector) value]

def fillingSteps (s : Site) : List Step :=
  [⟨.waitForLoad "networkidle" none, none⟩,
   .quality s .visible (.top Selector.paymentFrame) (some "10000")] ++
  fieldSteps s Selector.email (some "5000") Card.email ++
  fieldSteps s Selector.cardNumber none Card.number ++
  fieldSteps s Selector.expiry none (Card.expiryMonth ++ Card.expiryYear) ++
  fieldSteps s Selector.cvc none Card.cvc ++
  [.quality s .visible (place Selector.submit) none,
   .quality s .enabled (place Selector.submit) none,
   ⟨.expectNavigation (some "networkidle"), none⟩]

/-- The calls of a payment, on a site. -/
def formSteps (s : Site) : List Step :=
  fillingSteps s ++ [⟨submission, faultOf (s.pressing (place Selector.submit))⟩]

theorem fillingSteps_events (s : Site) : (fillingSteps s).map Step.event = fillingEvents := rfl

theorem formSteps_events (s : Site) : (formSteps s).map Step.event = formEvents := rfl

theorem ready_follows (s : Site) (selector : String) (timeout : Option String) :
    Follows s (ready selector timeout)
      [.quality s .visible (place selector) timeout, .quality s .enabled (place selector) none]
      (.ok (place selector)) := by
  refine (Follows.framed .visible _ _ _).bind (b := [_]) ?_
  refine (Follows.framed .enabled _ _ _).bind (b := []) ?_
  exact Follows.pure _

theorem fillField_follows (s : Site) (selector : String) (timeout : Option String)
    (label value : String) :
    Follows s (fillField selector timeout label value) (fieldSteps s selector timeout value)
      (.ok ()) := by
  refine (ready_follows s selector timeout).bind (b := [_]) ?_
  refine (Follows.note _ _).bind (a := []) ?_
  exact Follows.fill (place selector) value

/-- Submit is pressed once all fields are filled; only that changes the site. -/
theorem toSubmit_makes (s : Site) :
    Makes s toSubmit (formSteps s) (s.pressed (place Selector.submit)) (.ok s.navigations) := by
  refine (Follows.waitForLoad _ _).bind (a := [_]) ?_
  refine (Follows.note _ _).bind (a := []) ?_
  refine (Follows.visible _ _ _).bind (a := [_]) ?_
  refine (Follows.note _ _).bind (a := []) ?_
  refine (fillField_follows s _ _ _ _).bind ?_
  refine (fillField_follows s _ _ _ _).bind ?_
  refine (fillField_follows s _ _ _ _).bind ?_
  refine (fillField_follows s _ _ _ _).bind ?_
  refine (Follows.note _ _).bind (a := []) ?_
  refine (ready_follows s _ _).bind (a := [_, _]) ?_
  refine (Follows.note _ _).bind (a := []) ?_
  refine (Follows.perform _).bind (a := [_]) ?_
  refine Follows.site.bind (a := []) ?_
  exact (Makes.click _).bind_silent (Follows.pure _)

/-- A payment fails when the press of submit has not led to another page. -/
theorem submitForm_makes (s : Site) :
    Makes s submitForm (formSteps s) (s.pressed (place Selector.submit))
      (if (s.pressed (place Selector.submit)).navigations = s.navigations then .error .timeout
        else .ok true) := by
  rw [submitForm_eq]
  refine (toSubmit_makes s).bind_silent ?_
  refine (Follows.note _ _).bind (a := []) ?_
  refine Follows.site.bind (a := []) ?_
  split
  · exact Follows.throw _
  · exact Follows.pure true

theorem fieldSteps_faultless_iff {s : Site} {selector : String} {timeout : Option String}
    {value : String} :
    (∀ step ∈ fieldSteps s selector timeout value, step.fault = none) ↔
      ∃ e, s.resolve (place selector) = [e] ∧ e.visible = true ∧ e.enabled = true := by
  simp only [fieldSteps, List.forall_mem_cons, List.not_mem_nil, false_implies, implies_true,
    and_true, Step.quality_fault_iff, Step.fill_fault_iff, Browser.has]
  rw [← and_assoc, Site.resolve_and_iff]
  constructor
  · exact fun h => h.1
  · rintro ⟨e, found, ready⟩
    exact ⟨⟨e, found, ready⟩, e, found⟩

/-- Nothing on the site is against filling in the form exactly when the form is there. -/
theorem fillingSteps_faultless_iff {s : Site} :
    (∀ step ∈ fillingSteps s, step.fault = none) ↔ FormReady s := by
  simp only [fillingSteps, List.forall_mem_append, fieldSteps_faultless_iff, List.forall_mem_cons,
    List.not_mem_nil, false_implies, implies_true, and_true, true_and, Step.quality_fault_iff,
    Browser.has, Site.resolve_and_iff]
  constructor
  · rintro ⟨⟨⟨⟨⟨frame, email⟩, number⟩, expiry⟩, cvc⟩, submit⟩
    refine ⟨frame, ?_⟩
    simp only [List.forall_mem_cons, List.not_mem_nil, false_implies, implies_true, and_true]
    exact ⟨email, number, expiry, cvc, submit⟩
  · rintro ⟨frame, fields⟩
    simp only [List.forall_mem_cons, List.not_mem_nil, false_implies, implies_true, and_true]
      at fields
    obtain ⟨email, number, expiry, cvc, submit⟩ := fields
    exact ⟨⟨⟨⟨⟨frame, email⟩, number⟩, expiry⟩, cvc⟩, submit⟩

/-- The button of a form that is there can be pressed. -/
theorem FormReady.pressing {s : Site} (ready : FormReady s) :
    ∃ e, s.resolve (place Selector.submit) = [e] ∧
      s.pressing (place Selector.submit) = .ok (s.actAll e.onClick) := by
  obtain ⟨e, found, visible, enabled⟩ := ready.fields Selector.submit (by simp)
  exact ⟨e, found, Site.pressing_eq_ok_iff.2 ⟨e, found, visible, enabled, rfl⟩⟩

theorem formSteps_faultless_iff {s : Site} :
    (∀ step ∈ formSteps s, step.fault = none) ↔ FormReady s := by
  simp only [formSteps, List.forall_mem_append, fillingSteps_faultless_iff, List.forall_mem_cons,
    List.not_mem_nil, false_implies, implies_true, and_true]
  constructor
  · exact fun h => h.1
  · intro ready
    obtain ⟨e, _, press⟩ := ready.pressing
    exact ⟨ready, by simp [press, faultOf]⟩

/-- Once the form is there, pressing submit leads to another page exactly when it navigates. -/
theorem FormReady.leads_iff {s : Site} (ready : FormReady s) :
    Leads s ↔ (s.pressed (place Selector.submit)).navigations ≠ s.navigations := by
  obtain ⟨e, found, press⟩ := ready.pressing
  simp only [Leads, found, Site.pressed, press, Site.actAll_navigates_iff, List.cons.injEq,
    and_true, exists_and_left, exists_eq_left']

/-- All calls are made without a fault exactly when no rule fails one and the form is there. -/
theorem play_form_iff {w : World} :
    (play w.rules (formSteps w.site)).fault = none ↔
      Rule.Spares w.rules formEvents ∧ FormReady w.site := by
  rw [play_fault_eq_none_iff, formSteps_events, formSteps_faultless_iff]

theorem submitForm_of_goesThrough {w : World} (through : GoesThrough w) :
    ∃ after, submitForm w = .ok true after ∧ after.trace = w.trace ++ formEvents := by
  have quiet := play_form_iff.2 ⟨through.spared, through.ready⟩
  obtain ⟨notes, _, run⟩ := submitForm_makes w.site w rfl
  rw [quiet, if_neg (through.ready.leads_iff.1 through.leads)] at run
  refine ⟨_, run, ?_⟩
  simp only [World.past, play_events_of_fault_eq_none quiet, formSteps_events]

/-- A payment that does not go through fails where its calls stop, and stays at its url. -/
theorem submitForm_of_not_goesThrough {w : World} (stopped : ¬ GoesThrough w) :
    ∃ f after, submitForm w = .error f after ∧
      after.trace = w.trace ++ (play w.rules (formSteps w.site)).events ∧
      after.disk = w.disk ∧ after.site.url = w.site.url := by
  obtain ⟨notes, _, run⟩ := submitForm_makes w.site w rfl
  cases fault : (play w.rules (formSteps w.site)).fault with
  | some f =>
    rw [fault] at run
    exact ⟨f, _, run, rfl, rfl, rfl⟩
  | none =>
    obtain ⟨spared, ready⟩ := play_form_iff.1 fault
    have same : (w.site.pressed (place Selector.submit)).navigations = w.site.navigations := by
      apply Decidable.byContradiction
      intro moved
      exact stopped ⟨spared, ready, ready.leads_iff.2 moved⟩
    rw [fault, if_pos same] at run
    refine ⟨.timeout, _, run, rfl, rfl, ?_⟩
    obtain ⟨e, _, press⟩ := ready.pressing
    simp only [Site.pressed, press] at same ⊢
    exact Site.url_actAll same

theorem fillDetails_of_goesThrough {w : World} (through : GoesThrough w) :
    ∃ after, fillDetails w = .ok true after ∧ after.trace = w.trace ++ formEvents := by
  obtain ⟨after, run, trace⟩ := submitForm_of_goesThrough through
  exact ⟨after, Evidence.recovering_of_ok run, trace⟩

/-- A payment that does not go through is never reported as made. If evidence of that can be kept it
is reported as not made; else the directory of evidence is the fault. -/
theorem fillDetails_of_not_goesThrough {w : World} (stopped : ¬ GoesThrough w) :
    ∃ kept after,
      after.trace = w.trace ++ (play w.rules (formSteps w.site)).events ++ kept ∧
      after.site.url = w.site.url ∧
      ((Evidence.Keepable w.disk ∧ Evidence.Traces "fill_payment_details_error" kept ∧
          fillDetails w = .ok false after) ∨
        (¬ Evidence.Keepable w.disk ∧ kept = [] ∧ ∃ f, fillDetails w = .error f after)) := by
  obtain ⟨e, left, run, trace, disk, url⟩ := submitForm_of_not_goesThrough stopped
  by_cases keepable : Evidence.Keepable w.disk
  · obtain ⟨after, kept, recovered, site, later, traces⟩ :=
      Evidence.recovering_of_keepable "Error during payment form filling"
        "fill_payment_details_error" (fun _ => false) run (disk ▸ keepable)
    refine ⟨kept, after, by rw [later, trace], by rw [site, url], ?_⟩
    exact .inl ⟨keepable, traces, recovered⟩
  · obtain ⟨f, notes, refused⟩ :=
      Evidence.recovering_of_not_keepable "Error during payment form filling"
        "fill_payment_details_error" (fun _ => false) run (disk ▸ keepable)
    refine ⟨[], { left with journal := left.journal ++ notes }, ?_, url, ?_⟩
    · rw [List.append_nil]
      exact trace
    · exact .inr ⟨keepable, rfl, f, refused⟩

/-- Whether a payment is reported as made says whether it went through. -/
theorem fillDetails_true_iff {w : World} :
    (∃ after, fillDetails w = .ok true after) ↔ GoesThrough w := by
  constructor
  · rintro ⟨after, run⟩
    apply Classical.byContradiction
    intro stopped
    obtain ⟨_, _, _, _, ⟨_, _, other⟩ | ⟨_, _, f, other⟩⟩ := fillDetails_of_not_goesThrough stopped
    · rw [run] at other; cases other
    · rw [run] at other; cases other
  · intro through
    obtain ⟨after, run, _⟩ := fillDetails_of_goesThrough through
    exact ⟨after, run⟩

theorem submission_not_mem_fillingEvents : submission ∉ fillingEvents := by decide

/-- Submit is pressed last, when everything else has happened. -/
theorem eq_formEvents_of_submission {happened : List Event} (first : happened <+: formEvents)
    (pressed : submission ∈ happened) : happened = formEvents := by
  rcases List.prefix_concat_iff.1 first with all | before
  · exact all
  · exact absurd (before.subset pressed) submission_not_mem_fillingEvents

theorem count_submission_le {happened : List Event} (first : happened <+: formEvents) :
    happened.count submission ≤ 1 := by
  have once : formEvents.count submission = 1 := by decide
  exact once ▸ first.sublist.count_le submission

theorem submission_not_mem_of_traces {name : String} {kept : List Event}
    (traces : Evidence.Traces name kept) : submission ∉ kept := by
  rcases traces with rfl | rfl <;> simp [submission]

/-- When submit has been pressed, everything before it went well. -/
theorem filled_of_submission {w : World}
    (pressed : submission ∈ (play w.rules (formSteps w.site)).events) :
    Rule.Spares w.rules fillingEvents ∧ FormReady w.site := by
  have first := formSteps_events w.site ▸ play_events_isPrefix w.rules (formSteps w.site)
  have all := eq_formEvents_of_submission first pressed
  have quiet : (play w.rules (fillingSteps w.site)).fault = none := by
    apply play_fault_of_length_lt
    change (fillingSteps w.site).length < (play w.rules (formSteps w.site)).events.length
    rw [all]
    exact Nat.lt_succ_self 17
  rw [play_fault_eq_none_iff, fillingSteps_events, fillingSteps_faultless_iff] at quiet
  exact quiet

/-- The calls of a payment are the first ones of `formEvents`. Behind them stands at most the
evidence of a payment that is not reported as made. Submit is pressed at most once, and only when
all else has gone well; the payment is reported as made exactly when it goes through. -/
theorem form_calls_in_order (w : World) :
    ∃ happened kept : List Event,
      (lastState (fillDetails w)).trace = w.trace ++ happened ++ kept ∧
      happened <+: formEvents ∧
      (kept = [] ∨ (∀ after, fillDetails w ≠ .ok true after) ∧
        Evidence.Traces "fill_payment_details_error" kept) ∧
      (happened ++ kept).count submission ≤ 1 ∧
      (submission ∈ happened ++ kept →
        happened = formEvents ∧ Rule.Spares w.rules fillingEvents ∧ FormReady w.site) ∧
      ((∃ after, fillDetails w = .ok true after) ↔ GoesThrough w) ∧
      (GoesThrough w → happened = formEvents) := by
  by_cases through : GoesThrough w
  · obtain ⟨after, run, trace⟩ := fillDetails_of_goesThrough through
    refine ⟨formEvents, [], ?_, List.prefix_rfl, .inl rfl, by decide, ?_, fillDetails_true_iff,
      fun _ => rfl⟩
    · rw [run, List.append_nil]
      exact trace
    · intro _
      have filled : (play w.rules (formSteps w.site)).fault = none :=
        play_form_iff.2 ⟨through.spared, through.ready⟩
      refine ⟨rfl, filled_of_submission ?_⟩
      rw [play_events_of_fault_eq_none filled, formSteps_events]
      decide
  · obtain ⟨kept, after, trace, _, outcome⟩ := fillDetails_of_not_goesThrough through
    have unreported : ∀ later, fillDetails w ≠ .ok true later :=
      fun later run => through (fillDetails_true_iff.1 ⟨later, run⟩)
    have first := formSteps_events w.site ▸ play_events_isPrefix w.rules (formSteps w.site)
    have last : lastState (fillDetails w) = after := by
      rcases outcome with ⟨_, _, run⟩ | ⟨_, _, f, run⟩ <;> rw [run] <;> rfl
    have evidence : kept = [] ∨ Evidence.Traces "fill_payment_details_error" kept := by
      rcases outcome with ⟨_, traces, _⟩ | ⟨_, none_kept, _⟩
      · exact .inr traces
      · exact .inl none_kept
    have unpressed : submission ∉ kept := by
      rcases evidence with rfl | traces
      · exact List.not_mem_nil
      · exact submission_not_mem_of_traces traces
    refine ⟨(play w.rules (formSteps w.site)).events, kept, last ▸ trace, first, ?_, ?_, ?_,
      fillDetails_true_iff, fun h => absurd h through⟩
    · exact evidence.imp id fun traces => ⟨unreported, traces⟩
    · rw [List.count_append, List.count_eq_zero.2 unpressed]
      exact count_submission_le first
    · intro pressed
      have pressed' := (List.mem_append.1 pressed).resolve_right unpressed
      exact ⟨eq_formEvents_of_submission first pressed', filled_of_submission pressed'⟩

end Shopwalk.Payment
