import Shopwalk.Proofs.Additions
import Shopwalk.Proofs.FaultsReported

/-!
The list of products, container by container. A container is on the list when it is complete, with
its own button, and the log has one report for each container, under its number, whether it is on
the list or passed over. A page without containers is a failed expectation, unless its evidence
cannot be kept.
-/

namespace Shopwalk

namespace Products

open Shop

/-- A container with all its parts: its name, its price and its button are one visible element each,
the name and the price have these texts, and the first run of digits in the price can be read. -/
structure Complete (c : Element) (words figures : String) : Prop where
  name : ∃ e, Catalog.get c.children Selector.productName = [e] ∧ e.visible = true ∧
    e.text = some words
  price : ∃ e, Catalog.get c.children Selector.productPrice = [e] ∧ e.visible = true ∧
    e.text = some figures
  button : ∃ e, Catalog.get c.children Selector.addButton = [e] ∧ e.visible = true
  short : (Text.firstRun figures.toList).length ≤ Text.digitLimit

theorem shownIn?_eq_some_iff {c e : Element} {selector : String} :
    shownIn? c selector = some e ↔
      Catalog.get c.children selector = [e] ∧ e.visible = true := by
  unfold shownIn?
  split
  · next only =>
    split
    · next visible =>
      constructor
      · rintro ⟨⟩
        exact ⟨only, visible⟩
      · rintro ⟨same, -⟩
        cases only.symm.trans same
        rfl
    · next hidden =>
      constructor
      · rintro ⟨⟩
      · rintro ⟨same, visible⟩
        cases only.symm.trans same
        exact absurd visible hidden
  · next other =>
    constructor
    · rintro ⟨⟩
    · rintro ⟨only, -⟩
      exact absurd only (other e)

/-- A container offers what its texts say when it is complete, and nothing otherwise. -/
theorem offer?_eq_some_iff {c : Element} {o : Offer} :
    offer? c = some o ↔ ∃ words figures, Complete c words figures ∧
      o = ⟨Text.strip words, Text.decimalValue (Text.firstRun figures.toList)⟩ := by
  simp only [offer?, Option.bind_eq_bind, Option.bind_eq_some_iff, shownIn?_eq_some_iff]
  constructor
  · rintro ⟨name, ⟨named, seen⟩, price, ⟨priced, seen'⟩, button, buttoned, words, worded, figures,
      figured, n, number, made⟩
    obtain ⟨short, rfl⟩ := numberOrZero_eq_ok_iff.1 (toOption_eq_some_iff.1 number)
    exact ⟨words, figures, ⟨⟨name, named, seen, worded⟩, ⟨price, priced, seen', figured⟩,
      ⟨button, buttoned⟩, short⟩, (Option.some.inj made).symm⟩
  · rintro ⟨words, figures, complete, rfl⟩
    obtain ⟨name, named, seen, worded⟩ := complete.name
    obtain ⟨price, priced, seen', figured⟩ := complete.price
    obtain ⟨button, buttoned⟩ := complete.button
    have read := numberOrZero_eq_ok_iff.2 ⟨complete.short, rfl⟩
    exact ⟨name, ⟨named, seen⟩, price, ⟨priced, seen'⟩, button, buttoned, words, worded, figures,
      figured, _, toOption_eq_some_iff.2 read, rfl⟩

/-- The button of a product that is offered is the one in its container. -/
theorem resolve_addButton {s : Site} {i : Nat} {c : Element} {o : Offer}
    (there : (containersOf s)[i]? = some c) (offers : offer? c = some o) :
    ∃ button, Catalog.get c.children Selector.addButton = [button] ∧ button.visible = true ∧
      s.resolve (o.product i).addButton = [button] := by
  obtain ⟨words, figures, complete, -⟩ := offer?_eq_some_iff.1 offers
  obtain ⟨button, only, visible⟩ := complete.button
  refine ⟨button, only, visible, ?_⟩
  rw [← only]
  exact resolve_inside there Selector.addButton

/-- What the reports of containers open with. -/
def reportWords : List String := ["Product ", "Skipping incomplete product "]

theorem report_opens (i : Nat) (r : Except Fault Product) :
    LogEntry.opens reportWords (report i r) = true := by
  cases r with
  | ok p =>
    have listed : Opens reportWords "Product " := by decide
    exact ((((listed.append _).append _).append _).append _ |>.append _).told
  | error f =>
    have skipped : Opens reportWords "Skipping incomplete product " := by decide
    exact (((skipped.append _).append _).append _).told

theorem leastCount_unsaid (selector : String) (least : Value) :
    Stays (Unmentioned (LogEntry.opens reportWords)) (Check.leastCount selector least) := by
  have asked : Apart reportWords "Verifying element count: at least " := by decide
  have passed : Apart reportWords "Count verification passed: found " := by decide
  have found (n : Nat) (words : String) : Stays (Unmentioned (LogEntry.opens reportWords)) (do
      Walk.note .debug
        s!"Count verification passed: found {n} elements (minimum required: {words})"
      return Browser.positions (.top selector) n) :=
    (Unmentioned.note ((((passed.append _).append _).append _).append _).untold).bind
      fun _ => Stays.pure _
  refine (Stays.count _).bind fun n => (Stays.textOf _).bind fun words => ?_
  refine (Unmentioned.note (((asked.append _).append _).append _).untold).bind fun _ => ?_
  refine (Stays.settle _).bind fun below => ?_
  split
  · exact (Stays.throw _).bind fun _ => found n words
  · exact found n words

/-- The reports of all containers. -/
def reports (s : Site) : List LogEntry :=
  (List.range (containersOf s).length).map fun i => report i (reading s (containerAt i))

theorem containersIn_of_none {s : Site} (none_there : containersOf s = []) :
    containersIn s = .error (.tooFew "1" Selector.containers 0) := by
  have nothing : s.resolve (.top Selector.containers) = [] := none_there
  rw [containersIn, nothing]

theorem containersIn_of_some {s : Site} (some_there : containersOf s ≠ []) :
    ∃ containers, containersIn s = .ok containers := by
  unfold containersIn
  split
  · next none_there => exact absurd none_there some_there
  · exact ⟨_, rfl⟩

/-- The page is read container by container, when there is one, and each is reported. -/
theorem readPage_tells (s : Site) :
    Tells (LogEntry.opens reportWords) s readPage (reports s)
      ((containersIn s).map fun _ => offered s) := by
  have loading : Apart reportWords "Loading products from: " := by decide
  have verified : Apart reportWords "Verified " := by decide
  have extracted : Apart reportWords "Successfully extracted " := by decide
  have visible : ∀ place timeout, Stays (Unmentioned (LogEntry.opens reportWords))
      (Check.visible place timeout) :=
    Unmentioned.visible_of_apart (by decide) (by decide)
  refine .after Follows.site.yields Stays.site ?_
  refine .after (Follows.note _ _).yields (Unmentioned.note (loading.append _).untold) ?_
  have counted : Yields s (Check.leastCount Selector.containers (.int 1)) [] (containersIn s) :=
    (leastCount_follows s).yields
  by_cases none_there : containersOf s = []
  · -- The count fails before any container is looked at.
    have unreported : reports s = [] := by rw [reports, none_there]; rfl
    rw [containersIn_of_none none_there] at counted ⊢
    rw [unreported]
    exact (Tells.unmentioned counted (leastCount_unsaid _ _)).bind_error
  · obtain ⟨containers, found⟩ := containersIn_of_some none_there
    rw [found] at counted ⊢
    refine .after counted (leastCount_unsaid _ _) ?_
    refine .after (Follows.note _ _).yields
      (Unmentioned.note ((verified.append _).append _).untold) ?_
    refine .after (Follows.waitForLoad _ _).yields (Stays.waitForLoad _ _) ?_
    refine .after (Yields.all _) (Stays.all _) ?_
    -- All that is told comes from here.
    have read := readContainers_tells visible s 0 (containersOf s).length
    rw [← List.range_eq_range', readings_eq_offered] at read
    have all_told : (reports s).filter (LogEntry.opens reportWords) = reports s := by
      rw [List.filter_eq_self, reports, List.forall_mem_map]
      exact fun i _ => report_opens i _
    refine .before (all_told ▸ read) ?_
    exact .after (Follows.note _ _).yields
      (Unmentioned.note ((extracted.append _).append _).untold) (.pure _)

/-- The report of container `i`, given what would be wrong with it. -/
def account (faults : Nat → Fault) (i : Nat) (c : Element) : LogEntry :=
  report i (((offer? c).map (Offer.product i)).elim (.error (faults i)) .ok)

theorem report_eq_account {s : Site} {i : Nat} {c : Element}
    (there : (containersOf s)[i]? = some c) :
    report i (reading s (containerAt i)) =
      account (fun i => (faultOf (reading s (containerAt i))).getD .timeout) i c := by
  rw [account, ← reading_toOption there]
  cases reading s (containerAt i) <;> rfl

/-- Each container has its report, in page order. -/
theorem reports_eq_accounts (s : Site) :
    ∃ faults, reports s = (containersOf s).zipIdx.map fun (c, i) => account faults i c := by
  refine ⟨fun i => (faultOf (reading s (containerAt i))).getD .timeout, ?_⟩
  rw [reports, List.range_eq_range', ← List.zipIdx_map_snd 0 (containersOf s), List.map_map]
  apply List.map_congr_left
  rintro ⟨c, i⟩ there
  exact report_eq_account (List.mem_zipIdx_iff_getElem?.1 there)

theorem list_of_containers {w : World} (unscripted : w.rules = [])
    (some_there : containersOf w.site ≠ []) : ∃ after, list w = .ok (offered w.site) after := by
  obtain ⟨containers, found⟩ := containersIn_of_some some_there
  have tells := readPage_tells w.site
  rw [found] at tells
  obtain ⟨_, _, -, run⟩ := tells.reporting "Error loading products" "get_all_products_error" w rfl
    unscripted
  exact ⟨_, run⟩

/-- The log of a list tells of each container once. -/
theorem list_told {w : World} (unscripted : w.rules = []) :
    ∃ notes, (lastState (list w)).journal = w.journal ++ notes ∧
      notes.filter (LogEntry.opens reportWords) = reports w.site := by
  refine (readPage_tells w.site).reported (fun e => ?_) rfl unscripted
  exact Unmentioned.keep (by decide) (Unmentioned.capture (by decide) (by decide) (by decide) _) e

/-- A page without containers is reported as such, or as the file in the place of the evidence. -/
theorem list_of_no_container {w : World} (unscripted : w.rules = []) (home : w.disk.AtHome)
    (none_there : containersOf w.site = []) :
    ∃ after, list w =
      .error ((Evidence.hindranceIn w.disk).getD (.tooFew "1" Selector.containers 0)) after := by
  rw [← fault?_eq_some_iff]
  have heard := Reporting.products.fault_walk w home
  have first : Reporting.products.firstFault w = some (.tooFew "1" Selector.containers 0) := by
    rw [Reporting.firstFault, unscripted, (play_nil _).1]
    simp [Reporting.steps, listSteps, containersIn_of_none none_there, faultOf]
  rw [first] at heard
  exact heard

/-- What is heard is a failed expectation unless a file stands in the place of the evidence. -/
theorem kind_heard_iff (d : Disk) :
    ((Evidence.hindranceIn d).getD (.tooFew "1" Selector.containers 0)).kind = .assertion ↔
      ∀ content, d.lookup "./errors" ≠ some (.file content) := by
  change _ ↔ ∀ content, d.lookup Evidence.directory ≠ _
  unfold Evidence.hindranceIn
  split
  · next content file =>
    constructor
    · rintro ⟨⟩
    · intro other
      exact absurd file (other content)
  · next other =>
    constructor
    · exact fun _ => other
    · exact fun _ => rfl

/-- How a list of products accounts for the containers of a page. Where there is one, the list is
what the complete ones offer, in page order and each with the button of its own container, and no
container is reported twice or not at all. Where there is none, the list fails with an unmet
expectation exactly when no file stands in the place of the evidence. -/
theorem list_accounts_for_containers {w : World} (unscripted : w.rules = []) :
    (∀ c o, offer? c = some o ↔ ∃ words figures, Complete c words figures ∧
      o = ⟨Text.strip words, Text.decimalValue (Text.firstRun figures.toList)⟩) ∧
    (containersOf w.site ≠ [] → ∃ after, list w = .ok (offered w.site) after) ∧
    (∀ i c o, (containersOf w.site)[i]? = some c → offer? c = some o →
      ∃ button, Catalog.get c.children Selector.addButton = [button] ∧ button.visible = true ∧
        w.site.resolve (o.product i).addButton = [button]) ∧
    (∃ faults notes, (lastState (list w)).journal = w.journal ++ notes ∧
      notes.filter (LogEntry.opens ["Product ", "Skipping incomplete product "]) =
        (containersOf w.site).zipIdx.map fun (c, i) => account faults i c) ∧
    (containersOf w.site = [] → w.disk.isDirectory "." = true →
      ∃ f after, list w = .error f after ∧
        (f.kind = .assertion ↔ ∀ content, w.disk.lookup "./errors" ≠ some (.file content))) := by
  refine ⟨fun _ _ => offer?_eq_some_iff, list_of_containers unscripted,
    fun _ _ _ => resolve_addButton, ?_, ?_⟩
  · obtain ⟨notes, journal, told⟩ := list_told unscripted
    obtain ⟨faults, accounts⟩ := reports_eq_accounts w.site
    exact ⟨faults, notes, journal, told.trans accounts⟩
  · intro none_there home
    obtain ⟨after, failed⟩ := list_of_no_container unscripted home none_there
    exact ⟨_, after, failed, kind_heard_iff w.disk⟩

/-- The first of four containers has no price: it is passed over, and the others keep their
numbers. -/
theorem list_accounts_for_containers_turning :
    turningShop.rules = [] ∧
    (∃ after, list turningShop =
      .ok [⟨"Aloe Gel", 300, addButtonAt 1⟩, ⟨"PURE ALOE", 200, addButtonAt 2⟩,
        ⟨"Almond Cream", 150, addButtonAt 3⟩] after) ∧
    (∃ notes, (lastState (list turningShop)).journal = turningShop.journal ++ notes ∧
      (notes.filter (LogEntry.opens ["Product ", "Skipping incomplete product "])).length = 4) ∧
    ∃ f after, list {} = .error f after ∧ f.kind = .assertion := by
  obtain ⟨-, listed, -, ⟨faults, notes, journal, told⟩, -⟩ :=
    list_accounts_for_containers (w := turningShop) rfl
  obtain ⟨-, -, -, -, refused⟩ := list_accounts_for_containers (w := {}) rfl
  obtain ⟨f, after, failed, heard⟩ := refused rfl rfl
  have four : (containersOf turningShop.site).length = 4 := rfl
  have vacant : ({} : World).disk.lookup "./errors" = none := by decide
  refine ⟨rfl, listed (by decide), ⟨notes, journal, ?_⟩, f, after, failed, heard.2 ?_⟩
  · rw [told, List.length_map, List.length_zipIdx, four]
  · intro content
    rw [vacant]
    exact nofun

/-- An empty page, when a file stands in the place of the evidence. -/
def blockedPage : World := { disk := .holding "errors" "x" }

/-- That there is no container on it is not heard as a failed expectation. -/
theorem missing_containers_heard_as_file :
    blockedPage.rules = [] ∧ blockedPage.disk.isDirectory "." = true ∧
      containersOf blockedPage.site = [] ∧
      ∃ f after, list blockedPage = .error f after ∧ f.kind ≠ .assertion := by
  have home : blockedPage.disk.isDirectory "." = true := by decide
  obtain ⟨after, failed⟩ := list_of_no_container (w := blockedPage) rfl home rfl
  exact ⟨rfl, home, rfl, _, after, failed, by decide⟩

end Products

end Shopwalk
