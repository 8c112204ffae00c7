import Shopwalk.Proofs.CartTotal
import Shopwalk.Proofs.Operations

/-!
Success leaves no evidence of failure. When an operation of a page reports that it worked, no file
has been touched on the way and the page has not been recorded: wherever evidence is kept, also by
an operation within another one, what follows can only be a fault or an answer that tells of it.
-/

namespace Shopwalk

/-- The operations of the pages that can fail, with all that they may be handed. -/
inductive Operation where
  | load
  | temperature
  | goToProducts (kind : Value)
  | chooseProducts (degrees : Value)
  | products
  | findCheapest (criterion criterionKind : Value)
  | addToCart (button : Value)
  | goToCart
  | items
  | verifyItems (expected : Value)
  | verifyTotal
  | proceedToPayment
  | fillDetails
  | verifySuccess

namespace Operation

def Answer : Operation → Type
  | load | goToProducts _ | addToCart _ | verifyItems _ | fillDetails | verifySuccess => Bool
  | temperature | verifyTotal => Nat
  | chooseProducts _ => Shop.ProductKind × Bool
  | products => List Product
  | findCheapest _ _ => Product
  | goToCart => Unit
  | items => List CartItem
  | proceedToPayment => Bool × String

def walk : (op : Operation) → Walk op.Answer
  | load => Home.load
  | temperature => Home.temperature
  | goToProducts kind => Home.goToProductsNamed kind
  | chooseProducts degrees => Home.chooseProducts degrees
  | products => Products.list
  | findCheapest criterion criterionKind => Products.findCheapest criterion criterionKind
  | addToCart button => Products.addToCart button
  | goToCart => Products.goToCart
  | items => Cart.items
  | verifyItems expected => Cart.verifyItems expected
  | verifyTotal => Cart.verifyTotal
  | proceedToPayment => Cart.proceedToPayment
  | fillDetails => Payment.fillDetails
  | verifySuccess => Payment.verifySuccess

/-- Whether an answer reports success. One without a status does. -/
def worked : (op : Operation) → op.Answer → Bool
  | load | goToProducts _ | addToCart _ | verifyItems _ | fillDetails | verifySuccess => id
  | chooseProducts _ => Prod.snd
  | proceedToPayment => Prod.fst
  | temperature | products | findCheapest _ _ | goToCart | items | verifyTotal => fun _ => true

end Operation

section
variable {α β : Type} {walk : Walk α} {good : α → Bool}

/-- The walk never comes to a good answer. -/
def Unhelpful (good : α → Bool) (walk : Walk α) : Prop :=
  ∀ w, (answer? (walk w)).any good = false

namespace Unhelpful

theorem pure {a : α} (bad : good a = false) : Unhelpful good (Pure.pure a) := fun _ => bad

theorem throw (e : Fault) : Unhelpful good (throw e) := fun _ => rfl

theorem bind {next : α → Walk β} {good : β → Bool} (rest : ∀ a, Unhelpful good (next a)) :
    Unhelpful good (walk >>= next) := by
  intro w
  cases run : walk w with
  | ok a after =>
    rw [bind_of_ok run]
    exact rest a after
  | error e after =>
    rw [bind_of_error run]
    rfl

end Unhelpful

/-- No file has been touched, and the page has not been recorded. -/
structure Unrecorded (before after : World) : Prop where
  disk : after.disk = before.disk
  trace : Grown (·.records = false) before.trace after.trace

instance : Std.Refl Unrecorded := ⟨fun _ => ⟨rfl, .refl _⟩⟩

instance : Trans Unrecorded Unrecorded Unrecorded where
  trans first second := ⟨second.disk.trans first.disk, first.trace.trans second.trace⟩

instance : AdmitsCalls Unrecorded := ⟨fun walked => ⟨walked.disk, walked.trace⟩⟩

instance : AdmitsSuccess Unrecorded := ⟨fun _ _ => ⟨rfl, .refl _⟩⟩

/-- A run that comes to a good answer leaves no evidence. -/
abbrev CleanOn (good : α → Bool) (walk : Walk α) : Prop :=
  StaysWhen (fun answer => answer.any good = true) Unrecorded walk

namespace CleanOn

theorem of_unhelpful (h : Unhelpful good walk) : CleanOn good walk :=
  .of_never fun w told => Bool.false_ne_true ((h w).symm.trans told)

/-- A part of a run that leads to a good answer has an answer itself. -/
theorem answered {good : β → Bool} (first : CleanOn (fun _ => true) walk) :
    StaysWhen (fun o => o = none → (none : Option β).any good = true) Unrecorded walk := by
  intro w answered
  apply first w
  cases run : walk w with
  | ok a after => rfl
  | error e after =>
    rw [run] at answered
    exact absurd (answered rfl) Bool.false_ne_true

/-- A handler that never comes to a good answer may do what it likes. -/
theorem tryCatch {handler : Fault → Walk α} (h : CleanOn good walk)
    (handled : ∀ e, Unhelpful good (handler e)) : CleanOn good (tryCatch walk handler) :=
  StaysWhen.tryCatch h (fun e => of_unhelpful (handled e)) fun e w told =>
    absurd ((handled e w).symm.trans told) Bool.false_ne_true

theorem recovering {complaint name : String} {substitute : Fault → α} (h : CleanOn good walk)
    (bad : ∀ e, good (substitute e) = false) :
    CleanOn good (Evidence.recovering complaint name substitute walk) :=
  h.tryCatch fun e => .bind fun _ => .pure (bad e)

theorem reporting {complaint name : String} (h : CleanOn good walk) :
    CleanOn good (Evidence.reporting complaint name walk) :=
  h.tryCatch fun e => .bind fun _ => .throw e

end CleanOn

end

namespace Home

theorem goToProducts_clean (k : Shop.ProductKind) : CleanOn id (goToProducts k) :=
  .recovering (followButton_stays k).when fun _ => rfl

/-- To have chosen works when going there does. -/
theorem any_chosen (k : Shop.ProductKind) (reached : Option Bool) :
    (reached.map (Prod.mk k)).any Prod.snd = reached.any id := by
  cases reached <;> rfl

theorem chooseProducts_clean (temperature : Value) :
    CleanOn Prod.snd (chooseProducts temperature) :=
  .recovering (goByTemperature_when goToProducts_clean
    (fun k reached told => (any_chosen k reached).symm.trans told) temperature) fun _ => rfl

end Home

theorem Products.list_clean : CleanOn (fun _ => true) Products.list :=
  .reporting Products.readPage_stays.when

theorem Cart.items_clean : CleanOn (fun _ => true) Cart.items :=
  .reporting Cart.readTable_stays.when

/-- Evidence of items that are missing is kept before the answer tells of them. -/
theorem Cart.verifyItems_clean (expected : Value) : CleanOn id (Cart.verifyItems expected) := by
  have missed (name : String) : CleanOn id (showing name false) :=
    .of_unhelpful (.bind fun _ => .pure rfl)
  refine .recovering ?_ fun _ => rfl
  exact Cart.compareItems_when Cart.items_clean.answered (fun _ => saying_stays.when) missed _

theorem Operation.clean (op : Operation) : CleanOn op.worked op.walk := by
  cases op with
  | load => exact .recovering Home.arrive_stays.when fun _ => rfl
  | temperature => exact .reporting Home.readTemperature_stays.when
  | goToProducts kind => exact Home.goToProductsNamed_when Home.goToProducts_clean kind
  | chooseProducts degrees => exact Home.chooseProducts_clean degrees
  | products => exact Products.list_clean
  | findCheapest criterion criterionKind =>
    exact Products.findCheapest_when Products.list_clean.answered criterion criterionKind
  | addToCart button => exact .recovering (Products.pressAdd_stays button).when fun _ => rfl
  | goToCart =>
    exact .tryCatch Products.openCart_stays.when fun e => .bind fun _ => .bind fun _ => .throw e
  | items => exact Cart.items_clean
  | verifyItems expected => exact Cart.verifyItems_clean expected
  | verifyTotal =>
    exact Cart.verifyTotal_when Cart.items_clean.answered fun _ _ => saying_stays.when
  | proceedToPayment => exact .recovering Cart.openPayment_stays.when fun _ => rfl
  | fillDetails => exact .recovering Payment.submitForm_stays.when fun _ => rfl
  | verifySuccess => exact .recovering Payment.readConfirmation_stays.when fun _ => rfl

/-- On every page, under every script and in every working directory: an operation that reports
success has left all files and directories as they were, and the page has not been recorded. -/
theorem success_leaves_no_evidence (op : Operation) {w after : World} {answer : op.Answer}
    (run : op.walk w = .ok answer after) (worked : op.worked answer = true) :
    after.disk = w.disk ∧
      ∃ events, after.trace = w.trace ++ events ∧ ∀ e ∈ events, e.records = false := by
  have clean := op.clean w
  rw [run] at clean
  obtain ⟨disk, trace⟩ := clean worked
  exact ⟨disk, trace⟩

/-- A cart whose second row has no name that could be read has its total verified all the same. -/
theorem success_leaves_no_evidence_nameless :
    let op : Operation := .verifyTotal
    let w := Cart.namelessRowCart
    ∃ answer after, op.walk w = .ok answer after ∧ op.worked answer = true ∧
      after.disk = w.disk ∧
      ∃ events, after.trace = w.trace ++ events ∧ ∀ e ∈ events, e.records = false := by
  intro op w
  have passes : ∃ after, Cart.verifyTotal w = .ok 100 after := ⟨_, rfl⟩
  obtain ⟨after, run⟩ := passes
  exact ⟨_, after, run, rfl, success_leaves_no_evidence op run rfl⟩

end Shopwalk
