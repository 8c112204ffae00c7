import Shopwalk.Proofs.EvidencePlace
import Shopwalk.Proofs.Operations

/-!
Operations that tell by their answer whether they worked. Whatever goes wrong on the page, such an
operation comes to an answer; only a file in the place of the directory of evidence can keep it from
that, and is then the fault.
-/

namespace Shopwalk

open Evidence Shop

/-- The operations whose answer says whether they worked. -/
inductive Telling where
  | load
  | goToProducts (name : String)
  | buyMoisturizers
  | buySunscreens
  | chooseProducts (temperature : Value)
  | addToCart (button : Value)
  | verifyItems (expected : Value)
  | proceedToPayment
  | fillDetails
  | verifySuccess

namespace Telling

def Answer : Telling → Type
  | chooseProducts _ => ProductKind × Bool
  | proceedToPayment => Bool × String
  | _ => Bool

def walk : (op : Telling) → Walk op.Answer
  | load => Home.load
  | goToProducts name => Home.goToProductsNamed (.str name)
  | buyMoisturizers => Home.buyMoisturizers
  | buySunscreens => Home.buySunscreens
  | chooseProducts temperature => Home.chooseProducts temperature
  | addToCart button => Products.addToCart button
  | verifyItems expected => Cart.verifyItems expected
  | proceedToPayment => Cart.proceedToPayment
  | fillDetails => Payment.fillDetails
  | verifySuccess => Payment.verifySuccess

end Telling

theorem Home.goToProducts_tells (k : ProductKind) : TellsFailures (Home.goToProducts k) :=
  .recovering _ _ _ (Home.followButton_stays k)

theorem Home.goToProductsNamed_tells (name : String) :
    TellsFailures (Home.goToProductsNamed (.str name)) := by
  cases named : ProductKind.ofName? name with
  | some k =>
    have led : Home.goToProductsNamed (.str name) = Home.goToProducts k := by
      simp only [Home.goToProductsNamed, Check.unhashable?, named]
    rw [led]
    exact Home.goToProducts_tells k
  | none =>
    have refused : Home.goToProductsNamed (.str name) = (do
        Walk.note .error s!"Invalid product type: {name}"
        return false) := by
      simp only [Home.goToProductsNamed, Check.unhashable?, named]
    rw [refused]
    exact ⟨fun _ _ => ⟨_, _, rfl⟩, fun _ _ _ _ _ failed => nomatch failed⟩

theorem Telling.tells (op : Telling) : TellsFailures op.walk := by
  cases op with
  | load => exact .recovering _ _ _ Home.arrive_stays
  | goToProducts name => exact Home.goToProductsNamed_tells name
  | buyMoisturizers => exact Home.goToProducts_tells .moisturizer
  | buySunscreens => exact Home.goToProducts_tells .sunscreen
  | chooseProducts temperature => exact .recovering _ _ _ (Home.goByTemperature_stays temperature)
  | addToCart button => exact .recovering _ _ _ (Products.pressAdd_stays button)
  | verifyItems expected => exact .recovering _ _ _ (Cart.compareItems_stays expected)
  | proceedToPayment => exact .recovering _ _ _ Cart.openPayment_stays
  | fillDetails => exact .recovering _ _ _ Payment.submitForm_stays
  | verifySuccess => exact .recovering _ _ _ Payment.readConfirmation_stays

/-- On every page, under every script and in every working directory that is there: when nothing or
a directory stands where evidence is kept, each of these operations has an answer, and when a file
stands there, that is the only fault that can come of it. -/
theorem failures_told_by_answer (op : Telling) (w : World) (home : w.disk.isDirectory "." = true) :
    (w.disk.lookup "./errors" = none ∨ w.disk.lookup "./errors" = some .directory →
      ∃ answer after, op.walk w = .ok answer after) ∧
    ∀ content, w.disk.lookup "./errors" = some (.file content) →
      ∀ f after, op.walk w = .error f after → f = .refused .alreadyExists "./errors" := by
  constructor
  · intro free
    apply op.tells.answers
    rw [keepable_iff home]
    rcases free with nothing | there
    · simp [directory, nothing]
    · simp [directory, there]
  · intro content file
    exact op.tells.hindered w content file

/-- Without a page there is no cart to compare with, which is told by the answer; with a file in the
place of the directory, the comparison fails with that. -/
theorem failures_told_by_answer_cart :
    let expected : Telling := .verifyItems (.list [.str "Aloe"])
    (Disk.fresh.isDirectory "." = true ∧ Disk.fresh.lookup "./errors" = none ∧
      ∃ answer after, expected.walk {} = .ok answer after) ∧
    (Disk.holding "errors" "x").isDirectory "." = true ∧
      (Disk.holding "errors" "x").lookup "./errors" = some (.file "x") ∧
      ∃ f after, expected.walk { disk := .holding "errors" "x" } = .error f after ∧
        f = .refused .alreadyExists "./errors" := by
  intro expected
  have fresh : Disk.fresh.isDirectory "." = true ∧ Disk.fresh.lookup "./errors" = none := by decide
  have held : (Disk.holding "errors" "x").isDirectory "." = true ∧
      (Disk.holding "errors" "x").lookup "./errors" = some (.file "x") := by decide
  have told := failures_told_by_answer expected {} fresh.1
  have hindered := failures_told_by_answer expected { disk := .holding "errors" "x" } held.1
  exact ⟨⟨fresh.1, fresh.2, told.1 (.inl fresh.2)⟩, held.1, held.2, _, _, rfl,
    hindered.2 "x" held.2 _ _ rfl⟩

end Shopwalk
