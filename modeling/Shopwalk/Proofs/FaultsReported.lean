import Shopwalk.Proofs.EvidencePlace
import Shopwalk.Proofs.FirstFault
import Shopwalk.Proofs.Temperature

/-!
Operations that report their faults. What they do before evidence is kept is told by a list of
calls: they fail with the fault of the first call that does, unless keeping evidence of it fails in
its turn, and then that is what is heard.
-/

namespace Shopwalk

namespace Home

open Shop

/-- The calls that read the temperature. The text has to be one that a number can be read from. -/
def temperatureSteps (s : Site) : List Step :=
  let l := Locator.top Selector.temperature
  [.quality s .visible l none, .quality s .visible l none,
   .contains s l (.pattern Check.digits) none,
   ⟨.textContent l.selector,
     faultOf ((s.one l).map Element.text >>= fun text => numberOrZeroOf (textValue text))⟩]

theorem readTemperature_stops (s : Site) : Stops s readTemperature (temperatureSteps s) :=
  .of_answer (a := [_, _, _]) (readTemperature_follows s)

end Home

namespace Products

open Shop

/-- The containers of a page, of which there has to be one. -/
def containersIn (s : Site) : Except Fault (List Locator) :=
  match s.resolve (.top Selector.containers) with
  | [] => .error (.tooFew "1" Selector.containers 0)
  | es => .ok (Browser.positions (.top Selector.containers) es.length)

/-- The calls that find the containers on the page. What is wrong with one of them fails no call
but leaves the container out. -/
def listSteps (s : Site) : List Step :=
  let l := Locator.top Selector.containers
  [⟨.count l.selector, faultOf (containersIn s)⟩,
   ⟨.waitForLoad "networkidle" (some "5000"), none⟩, ⟨.all l.selector, none⟩]

theorem readContainers_unfailing (k : Nat) (containers : List Locator) :
    Unfailing (readContainers k containers) := by
  induction containers generalizing k with
  | nil => exact .pure _
  | cons container rest ih =>
    refine (Unfailing.attempt _).bind fun read => ?_
    cases read with
    | ok p => exact (Unfailing.note _ _).bind fun _ => (ih (k + 1)).bind fun _ => .pure _
    | error e => exact (Unfailing.note _ _).bind fun _ => ih (k + 1)

theorem leastCount_follows (s : Site) :
    Follows s (Check.leastCount Selector.containers (.int 1))
      [⟨.count (Locator.top Selector.containers).selector, none⟩] (containersIn s) := by
  have short : 1 < Text.longNumber := (Text.length_toDigits_le_iff 1).1 (by decide)
  have worded : Walk.textOf (.int 1) = Walk.settle (.ok "1") :=
    congrArg Walk.settle (Value.text_int short)
  unfold Check.leastCount containersIn
  rw [worded]
  refine (Follows.count _).bind (a := [_]) (b := []) ?_
  refine (Follows.settle (.ok "1")).bind (a := []) (b := []) ?_
  refine (Follows.note _ _).bind (a := []) (b := []) ?_
  cases found : s.resolve (.top Selector.containers) with
  | nil => exact (Follows.settle (.ok true)).bind (a := []) (b := []) (Follows.throw _)
  | cons e rest =>
    have enough : Check.isBelow (e :: rest).length (.int 1) = .ok false := by
      simp only [Check.isBelow, Value.int?, List.length_cons, Except.ok.injEq,
        decide_eq_false_iff_not]
      omega
    rw [enough]
    refine (Follows.settle (.ok false)).bind (a := []) (b := []) ?_
    exact (Follows.note _ _).bind (a := []) (b := []) (Follows.pure _)

theorem readPage_stops (s : Site) : Stops s readPage (listSteps s) := by
  refine .bind Follows.site (a := []) ?_
  refine .bind (Follows.note _ _) (a := []) ?_
  refine .bind_answer (a := []) (leastCount_follows s) fun found _ => ?_
  refine .bind (Follows.note _ _) (a := []) ?_
  refine .bind (Follows.waitForLoad _ _) (a := [_]) ?_
  refine .bind (Follows.all _) (a := [_]) (b := []) (.of_unfailing ?_)
  exact (readContainers_unfailing _ _).bind fun _ => (Unfailing.note _ _).bind fun _ => .pure _

/-- The calls that lead to the cart. A press that leads nowhere has failed. -/
def cartSteps (s : Site) : List Step :=
  let l := Locator.top Selector.cartButton
  let t := s.pressed l
  [⟨.expectNavigation none, none⟩,
   ⟨.pageClick Selector.cartButton, faultOf (s.pressing l) <|>
     faultOf (if t.navigations = s.navigations then .error .timeout else .ok ())⟩,
   .url t cartUrl, .contains t (.top Selector.heading) (.text "Checkout") none]

theorem openCart_stops (s : Site) : Stops s openCart (cartSteps s) := by
  have pressed := Makes.expectNavigation none (Makes.pageClick (s := s) Selector.cartButton)
  refine .bind (Follows.note _ _) (a := []) ?_
  refine .bind_answer (a := [_]) pressed fun _ _ => ?_
  refine .bind (Follows.expectPage _ _) (a := [_]) ?_
  refine .bind (Follows.expectText _ _ _ _) (a := [_]) (b := []) (.of_unfailing fun w => ?_)
  exact ⟨_, _, rfl⟩

end Products

namespace Cart

open Shop

/-- The calls that find the rows of the table. A row that cannot be read fails no call but is left
out. -/
def itemsSteps (s : Site) : List Step :=
  [.quality s .visible (.top Selector.cartTable) none,
   ⟨.count (Locator.top Selector.cartRows).selector, none⟩]

theorem readRows_unfailing (i : Nat) (rows : List Locator) : Unfailing (readRows i rows) := by
  induction rows generalizing i with
  | nil => exact .pure _
  | cons row rest ih =>
    refine (Unfailing.attempt _).bind fun read => ?_
    cases read with
    | ok item => exact (Unfailing.note _ _).bind fun _ => (ih (i + 1)).bind fun _ => .pure _
    | error e => exact (Unfailing.note _ _).bind fun _ => ih (i + 1)

theorem readTable_stops (s : Site) : Stops s readTable (itemsSteps s) := by
  refine .bind (Follows.visible _ _ none) (a := [_]) ?_
  refine .bind (Follows.count _) (a := [_]) (b := []) (.of_unfailing ?_)
  split
  · exact (Unfailing.note _ _).bind fun _ => .pure _
  · exact (Unfailing.note _ _).bind fun _ => readRows_unfailing _ _

end Cart

namespace Evidence

/-- What keeps evidence from being kept: a file in the place of its directory. -/
def hindranceIn (d : Disk) : Option Fault :=
  match d.lookup directory with
  | some (.file _) => some hindrance
  | _ => none

theorem keep_fault (complaint name : String) (e : Fault) {w : World} (home : w.disk.AtHome) :
    fault? (keep complaint name e w) = hindranceIn w.disk := by
  unfold hindranceIn
  split
  · next content file =>
    obtain ⟨later, stopped⟩ := keep_of_file complaint name e file
    rw [stopped]
    rfl
  · next other =>
    obtain ⟨later, _, kept, -⟩ := (keep_run complaint name e w).1 ((keepable_iff home).2 other)
    rw [kept]
    rfl

theorem reporting_fault {α : Type} {walk : Walk α} {steps : List Step} (complaint name : String)
    {w : World} (home : w.disk.AtHome) (stops : Stops w.site walk steps) :
    fault? (reporting complaint name walk w) =
      (play w.rules steps).fault.map fun e => (hindranceIn w.disk).getD e := by
  refine stops.fault_rethrown rfl fun e after disk _ => ?_
  rw [keep_fault complaint name e (disk ▸ home), disk]

end Evidence

open Evidence

/-- The operations that report a fault as such. -/
inductive Reporting where
  | temperature
  | products
  | goToCart
  | items

namespace Reporting

def Answer : Reporting → Type
  | temperature => Nat
  | products => List Product
  | goToCart => Unit
  | items => List CartItem

def walk : (op : Reporting) → Walk op.Answer
  | temperature => Home.temperature
  | products => Products.list
  | goToCart => Products.goToCart
  | items => Cart.items

/-- The calls of an operation that can fail it, apart from those that keep evidence. -/
def steps (s : Site) : Reporting → List Step
  | temperature => Home.temperatureSteps s
  | products => Products.listSteps s
  | goToCart => Products.cartSteps s
  | items => Cart.itemsSteps s

/-- The fault of the first of these calls that fails. -/
def firstFault (op : Reporting) (w : World) : Option Fault := (play w.rules (op.steps w.site)).fault

/-- What goes wrong with the evidence of a fault. On the way to the cart it is a picture, which a
rule can fail that has come through the calls before. -/
def evidenceFault (op : Reporting) (w : World) : Option Fault :=
  match op with
  | goToCart =>
    (Rule.fire (Event.screenshot "cart_navigation_error.png").text
      (play w.rules (op.steps w.site)).rules).2
  | _ => hindranceIn w.disk

end Reporting

theorem Products.goToCart_fault (w : World) :
    fault? (goToCart w) =
      (Reporting.goToCart.firstFault w).map fun e =>
        (Reporting.goToCart.evidenceFault w).getD e := by
  have rethrown : goToCart = tryCatch openCart fun e =>
      (do
        Walk.note .error s!"Error navigating to cart page: {e.message}"
        Browser.screenshot "cart_navigation_error.png") >>= fun _ => throw e := by
    simp only [goToCart, bind_assoc]
  rw [rethrown]
  refine (openCart_stops w.site).fault_rethrown rfl fun e after _ rules => ?_
  change fault? (Walk.perform (.screenshot "cart_navigation_error.png") _) =
    (Rule.fire _ (play w.rules (cartSteps w.site)).rules).2
  rw [fault_perform, ← rules]

namespace Reporting

/-- An operation fails when one of its calls does, and with the fault of that call unless something
goes wrong with the evidence. -/
theorem fault_walk (op : Reporting) (w : World) (home : w.disk.AtHome) :
    fault? (op.walk w) = (op.firstFault w).map fun e => (op.evidenceFault w).getD e := by
  cases op with
  | temperature => exact reporting_fault _ _ home (Home.readTemperature_stops w.site)
  | products => exact reporting_fault _ _ home (Products.readPage_stops w.site)
  | goToCart => exact Products.goToCart_fault w
  | items => exact reporting_fault _ _ home (Cart.readTable_stops w.site)

/-- One fault is heard as the other: they are of the same kind and worded alike. -/
def Alike (f g : Fault) : Prop := f.kind = g.kind ∧ f.message = g.message

instance (f g : Fault) : Decidable (Alike f g) := inferInstanceAs (Decidable (_ ∧ _))

/-- An operation fails when one of its calls does, and with the fault of the evidence if there is
one. So the fault that is heard is always that of the first call that failed exactly when no other
fault can come of the evidence. -/
theorem first_fault_reported_iff (op : Reporting) (w : World)
    (home : w.disk.isDirectory "." = true) :
    (∀ f, (∃ after, op.walk w = .error f after) ↔
      ∃ e, op.firstFault w = some e ∧ f = (op.evidenceFault w).getD e) ∧
    ((∀ f after, op.walk w = .error f after → ∃ e, op.firstFault w = some e ∧ Alike f e) ↔
      ∀ e g, op.firstFault w = some e → op.evidenceFault w = some g → Alike g e) := by
  have heard (f : Fault) : (∃ after, op.walk w = .error f after) ↔
      ∃ e, op.firstFault w = some e ∧ f = (op.evidenceFault w).getD e := by
    rw [← fault?_eq_some_iff, op.fault_walk w home, Option.map_eq_some_iff]
    exact exists_congr fun e => and_congr_right fun _ => eq_comm
  refine ⟨heard, ?_, ?_⟩
  · intro reported e g first evidence
    obtain ⟨after, failed⟩ := (heard g).2 ⟨e, first, by rw [evidence]; rfl⟩
    obtain ⟨e', first', alike⟩ := reported g after failed
    obtain rfl : e = e' := Option.some.inj (first.symm.trans first')
    exact alike
  · intro harmless f after failed
    obtain ⟨e, first, rfl⟩ := (heard f).1 ⟨after, failed⟩
    refine ⟨e, first, ?_⟩
    cases evidence : op.evidenceFault w with
    | none => exact ⟨rfl, rfl⟩
    | some g => exact harmless e g first evidence

/-- A script in which no picture can be taken. -/
def unpictured : World := { rules := [⟨"screenshot", "No picture", .browser, 0, 0⟩] }

/-- Without its picture, a temperature that is not shown is reported as such. -/
theorem first_fault_reported_iff_unpictured :
    unpictured.disk.isDirectory "." = true ∧
      (∃ after, Home.temperature unpictured = .error (.unmetQuality .visible) after) ∧
      ∀ f after, Home.temperature unpictured = .error f after →
        ∃ e, temperature.firstFault unpictured = some e ∧ Alike f e := by
  have home : unpictured.disk.isDirectory "." = true := by decide
  obtain ⟨heard, reported⟩ := first_fault_reported_iff .temperature unpictured home
  exact ⟨home, (heard _).2 ⟨_, rfl, rfl⟩, reported.2 fun e g _ evidence => nomatch evidence⟩

/-- A cart that is not shown is reported as a file when one stands in the place of the directory of
evidence, and a cart button that is not there as a picture when none can be taken. -/
theorem evidence_hides_first_fault :
    (∃ e f after, items.firstFault { disk := .holding "errors" "x" } = some e ∧
      Cart.items { disk := .holding "errors" "x" } = .error f after ∧ ¬ Alike f e) ∧
    ∃ e f after, goToCart.firstFault unpictured = some e ∧
      Products.goToCart unpictured = .error f after ∧ ¬ Alike f e :=
  ⟨⟨.unmetQuality .visible, .refused .alreadyExists "./errors", _, rfl, rfl, by decide⟩,
    .timeout, .scripted .browser "No picture", _, rfl, rfl, by decide⟩

end Reporting

end Shopwalk
