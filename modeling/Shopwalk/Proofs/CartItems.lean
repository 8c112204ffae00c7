import Shopwalk.Proofs.CartTotal

/-!
The check that items are in the cart. An item is there when the normalised name of a row that can be
read has the normalised name of the item in it.
-/

namespace Shopwalk.Cart

open Shop

/-- A row that can be read, and its name. -/
def Named (row : Element) (name : String) : Prop :=
  (rowPrice? row).isSome = true ∧
    ∃ cell, Catalog.get row.children Selector.itemName = [cell] ∧ cell.text = some name

/-- A readable row has a name that this one stands in, both normalised. -/
def Listed (s : Site) (name : String) : Prop :=
  ∃ row ∈ rowsOf s, ∃ full, Named row full ∧
    Text.contains (normalizedName full) (normalizedName name) = true

/-- A row stands under the name of its item. -/
theorem named_of_rowItem? {row : Element} {item : CartItem} {name : String}
    (shows : rowItem? row = some item) (named : item.name = some name) : Named row name := by
  obtain ⟨cell, found, worded⟩ := (rowItem?_eq_some_iff.1 shows).name
  exact ⟨isSome_rowPrice?_iff.2 ⟨item, shows⟩, cell, found, worded.symm.trans named⟩

/-- Names can be normalised when they are all texts. -/
theorem mapM_normalizedNameOf_iff {names : List Value} {normal : List String} :
    names.mapM normalizedNameOf = .ok normal ↔
      ∃ texts : List String, names = texts.map .str ∧ normal = texts.map normalizedName := by
  constructor
  · intro run
    induction names generalizing normal with
    | nil =>
      cases run
      exact ⟨[], rfl, rfl⟩
    | cons v names ih =>
      rw [List.mapM_cons] at run
      cases v with
      | str x =>
        cases others : names.mapM normalizedNameOf with
        | error e =>
          rw [others] at run
          cases run
        | ok rest =>
          rw [others] at run
          cases run
          obtain ⟨texts, rfl, rfl⟩ := ih others
          exact ⟨x :: texts, rfl, rfl⟩
      | _ => cases run
  · rintro ⟨texts, rfl, rfl⟩
    induction texts with
    | nil => rfl
    | cons x texts ih =>
      rw [List.map_cons, List.mapM_cons, ih]
      rfl

/-- The texts that stand in none of the names. -/
def missingFrom (names texts : List String) : List String :=
  texts.filter fun x => !hasItem names (normalizedName x)

/-- What is noted of an expected text. -/
def matchNote (names : List String) (x : String) : LogEntry :=
  if hasItem names (normalizedName x) then ⟨.info, s!"✓ Found match for: {x}"⟩
  else ⟨.error, s!"❌ Failed to find match for: {x}"⟩

/-- Each text is looked up by itself, and the ones without a match are returned in order. -/
theorem unmatched_tells (kind : LogEntry → Bool) (s : Site) (names texts : List String) :
    Tells kind s (unmatched names (texts.map .str)) ((texts.map (matchNote names)).filter kind)
      (.ok ((missingFrom names texts).map .str)) := by
  induction texts with
  | nil => exact .pure _
  | cons x texts ih =>
    rw [List.map_cons, List.map_cons, matchNote]
    refine .after (Yields.settled rfl) (Stays.settle _) ?_
    refine .after (Yields.settled rfl) (Stays.settle _) ?_
    by_cases found : hasItem names (normalizedName x) = true
    · have others : missingFrom names (x :: texts) = missingFrom names texts :=
        List.filter_cons_of_neg (by simp [found])
      rw [if_pos found, if_pos found, others]
      exact .note_bind ih
    · have more : missingFrom names (x :: texts) = x :: missingFrom names texts :=
        List.filter_cons_of_pos (by simp [found])
      rw [if_neg found, if_neg found, more]
      exact .note_bind (.before ih (.pure _))

/-- The first part of the comparison: which of the expected items are not there. -/
def findMissing (expected : Value) (names : List Value) : Walk (List Value) := do
  Walk.note .info "Verifying cart items"
  let words ← Walk.textOf expected
  Walk.note .info s!"Expected items: {words}"
  let actual := (Value.list names).display
  Walk.note .info s!"Actual items in cart: {actual}"
  let normal ← Walk.settle (names.mapM normalizedNameOf)
  unmatched normal (← Walk.settle expected.items)

/-- The last part of the comparison. -/
def conclude (failed : List Value) : Walk Bool := do
  if failed.isEmpty then
    Walk.note .success "Successfully verified all items in cart"
    return true
  else
    let missing ← Walk.textOf (.list failed)
    Walk.note .error s!"Failed to verify the following items: {missing}"
    Evidence.capture "cart_verification_error"
    return false

theorem compareNames_eq (expected : Value) (names : List Value) :
    compareNames expected names = findMissing expected names >>= conclude := by
  simp only [compareNames, findMissing, bind_assoc]
  rfl

theorem printableAll_texts (texts : List String) :
    Value.printableAll (texts.map .str) = true := by
  induction texts with
  | nil => rfl
  | cons x texts ih => rw [List.map_cons, Value.printableAll, ih]; rfl

/-- A list of texts can be written. -/
theorem text_texts (texts : List String) :
    (Value.list (texts.map .str)).text = .ok (Value.list (texts.map .str)).display := by
  rw [Value.text, if_pos]
  exact printableAll_texts texts

/-- What is noted while expected texts are compared with names. -/
def comparisonNotes (names : List Value) (normal texts : List String) : List LogEntry :=
  ⟨.info, "Verifying cart items"⟩ ::
    ⟨.info, s!"Expected items: {(Value.list (texts.map .str)).display}"⟩ ::
    ⟨.info, s!"Actual items in cart: {(Value.list names).display}"⟩ ::
    texts.map (matchNote normal)

theorem findMissing_tells (kind : LogEntry → Bool) {s : Site} {names : List Value}
    {normal : List String} (normalised : names.mapM normalizedNameOf = .ok normal)
    (texts : List String) :
    Tells kind s (findMissing (.list (texts.map .str)) names)
      ((comparisonNotes names normal texts).filter kind)
      (.ok ((missingFrom normal texts).map .str)) := by
  refine .note_bind ?_
  refine .after (Yields.settled (text_texts texts)) (Stays.settle _) ?_
  refine .note_bind (.note_bind ?_)
  refine .after (Yields.settled normalised) (Stays.settle _) ?_
  refine .after (Yields.settled rfl) (Stays.settle _) ?_
  exact unmatched_tells kind s normal texts

/-- Nothing is unmatched when each item is a text that stands in one of the names. -/
theorem matched_of_unmatched {names : List String} {expected : List Value} {w after : World}
    (run : unmatched names expected w = .ok [] after) :
    ∃ texts : List String, expected = texts.map .str ∧
      ∀ x ∈ texts, hasItem names (normalizedName x) = true := by
  induction expected generalizing w with
  | nil => exact ⟨[], rfl, by simp⟩
  | cons item rest ih =>
    obtain ⟨normal, w₁, settled, run⟩ := bind_ok_iff.1 run
    obtain ⟨normalised, -⟩ := settle_ok_iff.1 settled
    obtain ⟨_, w₂, -, run⟩ := bind_ok_iff.1 run
    split at run
    · next found =>
      obtain ⟨_, _, noted, run⟩ := bind_ok_iff.1 run
      obtain ⟨texts, rfl, matched⟩ := ih run
      cases item with
      | str x =>
        obtain rfl : normalizedName x = normal := Except.ok.inj normalised
        exact ⟨x :: texts, rfl, List.forall_mem_cons.2 ⟨found, matched⟩⟩
      | _ => cases normalised
    · -- An item without a match would be among those returned.
      obtain ⟨_, _, noted, run⟩ := bind_ok_iff.1 run
      obtain ⟨_, _, -, returned⟩ := bind_ok_iff.1 run
      cases returned

/-- The items of the cart are those of its readable rows. -/
theorem listed_of_hasItem {s : Site} {names : List String} {name : String}
    (read : ((rowItems s (List.range (rowsOf s).length)).map fun item =>
      textValue item.name).mapM normalizedNameOf = .ok names)
    (found : hasItem names (normalizedName name) = true) : Listed s name := by
  obtain ⟨texts, worded, rfl⟩ := mapM_normalizedNameOf_iff.1 read
  obtain ⟨_, member, contains⟩ := List.any_eq_true.1 found
  obtain ⟨full, there, rfl⟩ := List.mem_map.1 member
  have listed := List.mem_map_of_mem (f := Value.str) there
  rw [← worded, rowItems_eq] at listed
  obtain ⟨item, shown, named⟩ := List.mem_map.1 listed
  obtain ⟨row, row_there, shows⟩ := List.mem_filterMap.1 shown
  have name : item.name = some full := textValue_eq_str_iff.1 named
  exact ⟨row, row_there, full, named_of_rowItem? shows name, contains⟩

/-- Names compare well when each expected item is a text that stands in one of them, all
normalised. -/
theorem compareNames_true {expected : Value} {names : List Value} {w after : World}
    (run : compareNames expected names w = .ok true after) :
    ∃ texts : List String, expected.items = .ok (texts.map .str) ∧
      ∃ normal, names.mapM normalizedNameOf = .ok normal ∧
        ∀ x ∈ texts, hasItem normal (normalizedName x) = true := by
  obtain ⟨_, w₁, -, rest⟩ := bind_ok_iff.1 run
  obtain ⟨_, w₂, -, rest⟩ := bind_ok_iff.1 rest
  obtain ⟨_, w₃, -, rest⟩ := bind_ok_iff.1 rest
  obtain ⟨_, w₄, -, rest⟩ := bind_ok_iff.1 rest
  obtain ⟨normal, w₅, normalised, rest⟩ := bind_ok_iff.1 rest
  obtain ⟨taken, w₆, took, rest⟩ := bind_ok_iff.1 rest
  obtain ⟨failed, w₇, compared, rest⟩ := bind_ok_iff.1 rest
  split at rest
  · next all =>
    rw [List.isEmpty_iff.1 all] at compared
    obtain ⟨texts, rfl, matched⟩ := matched_of_unmatched compared
    exact ⟨texts, (settle_ok_iff.1 took).1, normal, (settle_ok_iff.1 normalised).1, matched⟩
  · obtain ⟨_, _, -, rest⟩ := bind_ok_iff.1 rest
    obtain ⟨_, _, -, rest⟩ := bind_ok_iff.1 rest
    obtain ⟨_, _, -, returned⟩ := bind_ok_iff.1 rest
    cases returned

/-- When something is expected and all of it is found in the cart, it is texts, and each of them is
listed there. -/
theorem verifyItems_listed {w after : World} {expected : Value} (unscripted : w.rules = [])
    (some_expected : expected.truthy = true) (run : verifyItems expected w = .ok true after) :
    ∃ texts : List String, expected.items = .ok (texts.map .str) ∧
      ∀ x ∈ texts, Listed w.site x := by
  have compared : compareItems expected w = .ok true after :=
    (Evidence.recovering_ok_iff_of_ne fun _ => Bool.false_ne_true).1 run
  unfold compareItems at compared
  rw [some_expected] at compared
  obtain ⟨found, w₁, listed, rest⟩ := bind_ok_iff.1 compared
  obtain ⟨rfl, -⟩ := items_ok unscripted listed
  split at rest
  · obtain ⟨_, _, -, rest⟩ := bind_ok_iff.1 rest
    obtain ⟨_, _, -, returned⟩ := bind_ok_iff.1 rest
    cases returned
  · obtain ⟨texts, items, normal, normalised, matched⟩ := compareNames_true rest
    exact ⟨texts, items, fun x there => listed_of_hasItem normalised (matched x there)⟩

/-- When all expected items are found in the cart, each of them is listed there. -/
theorem verifyItems_true {w after : World} {expected : Value} {texts : List String}
    (unscripted : w.rules = []) (some_expected : expected.truthy = true)
    (items : expected.items = .ok (texts.map .str))
    (run : verifyItems expected w = .ok true after) : ∀ x ∈ texts, Listed w.site x := by
  obtain ⟨others, same, listed⟩ := verifyItems_listed unscripted some_expected run
  have equal : texts.map Value.str = others.map Value.str := Except.ok.inj (items.symm.trans same)
  rw [List.map_inj_right fun _ _ => Value.str.inj] at equal
  exact equal ▸ listed

end Shopwalk.Cart
