import Shopwalk.Proofs.FirstNumber
import Shopwalk.Proofs.Operations
import Shopwalk.Proofs.Told

/-!
The temperature is never made up. Before the number is taken from the text, the text has been found
to have a digit, so that the zero that stands for a missing number is never returned, under any
rules; and as there is always a number, the words for a text without one are never said.
-/

namespace Shopwalk

namespace Site

variable {s : Site} {l : Locator} {f : Fault}

theorem hasQuality_error {q : Fault.Quality} (refused : faultOf (s.hasQuality q l) = some f) :
    f = .unmetQuality q ∨ ∃ n, f = .ambiguous l.selector n := by
  unfold hasQuality at refused
  split at refused
  · cases refused; exact .inl rfl
  · split at refused <;> cases refused
    exact .inl rfl
  · cases refused; exact .inr ⟨_, rfl⟩

theorem hasText_pattern_error {p : Pattern}
    (refused : faultOf (s.hasText .contain l (.pattern p)) = some f) :
    (∃ text, f = .unmetText .contain (Browser.Expected.pattern p).shown text) ∨
      ∃ n, f = .ambiguous l.selector n := by
  unfold hasText at refused
  split at refused
  · cases refused; exact .inl ⟨_, rfl⟩
  · next e _ =>
    simp only [Browser.relates, Browser.Expected.occursIn] at refused
    cases found : p.found (e.text.getD "") <;> rw [found] at refused <;> cases refused
    exact .inl ⟨_, rfl⟩
  · cases refused; exact .inr ⟨_, rfl⟩

end Site

namespace Home

open Shop

/-- The calls that read the temperature. -/
def temperatureCalls (s : Site) : List Step :=
  let l := Locator.top Selector.temperature
  [.quality s .visible l none, .quality s .visible l none,
   .contains s l (.pattern Check.digits) none, ⟨.textContent l.selector, none⟩]

/-- What the page has to say about its temperature. -/
def temperatureRead (s : Site) : Except Fault Nat :=
  (s.one (.top Selector.temperature)).map Element.text >>= fun text =>
    numberOrZeroOf (textValue text)

theorem readTemperature_follows (s : Site) :
    Follows s readTemperature (temperatureCalls s) (temperatureRead s) := by
  have told (n : Nat) : Follows s
      (Walk.note .info s!"Current temperature: {n}°C" >>= fun _ => pure n) [] (.ok n) :=
    (Follows.note _ _).bind (Follows.pure n) (a := [])
  have read := ((Follows.textContent (s := s) (.top Selector.temperature)).andThen fun text =>
    Follows.settle (numberOrZeroOf (textValue text))).andThen told
  have same : (temperatureRead s >>= fun n => .ok n) = temperatureRead s := bind_pure _
  rw [readTemperature_eq, ← same]
  refine (Follows.visible _ _ none).bind (a := [_]) ?_
  exact (Follows.text _ _ rfl none).bind (a := [_, _]) read

/-- The page shows a number as its temperature, and it can be seen. -/
def TemperatureShown (s : Site) (n : Nat) : Prop :=
  ∃ e text, s.resolve (.top Selector.temperature) = [e] ∧ e.visible = true ∧ e.text = some text ∧
    Reading.of text = .number n

/-- The calls that look at the page are granted when it shows digits. -/
theorem temperatureCalls_granted_iff {s : Site} :
    (∀ step ∈ temperatureCalls s, step.fault = none) ↔
      ∃ e, s.resolve (.top Selector.temperature) = [e] ∧ e.visible = true ∧
        Check.digits.found (e.text.getD "") = true := by
  simp only [temperatureCalls, List.forall_mem_cons, List.not_mem_nil, false_implies,
    implies_true, and_true]
  rw [Step.quality_fault_iff, Step.contains_pattern_fault_iff, ← Site.resolve_and_iff]
  exact and_self_left

theorem temperatureRead_of_found {s : Site} {e : Element} {text : String}
    (found : s.resolve (.top Selector.temperature) = [e]) (worded : e.text = some text) :
    temperatureRead s = numberOrZero text := by
  rw [temperatureRead, Site.one_eq_ok_iff.2 found]
  change numberOrZeroOf (textValue e.text) = _
  rw [worded]
  rfl

/-- A temperature that shows digits is read as a price is. -/
theorem readTemperature_yields {s : Site} {e : Element} {text : String}
    (found : s.resolve (.top Selector.temperature) = [e]) (visible : e.visible = true)
    (worded : e.text = some text) (digit : Check.digits.found text = true) :
    Yields s readTemperature [] (numberOrZero text) := by
  have granted : ∀ step ∈ temperatureCalls s, step.fault = none :=
    temperatureCalls_granted_iff.2 ⟨e, found, visible, by rw [worded]; exact digit⟩
  rw [← temperatureRead_of_found found worded]
  exact (readTemperature_follows s).yields_of_granted (List.findSome?_eq_none_iff.2 granted)

/-- Whatever the rules do, a temperature that is returned is shown. -/
theorem temperature_ok {w after : World} {n : Nat} (run : temperature w = .ok n after) :
    TemperatureShown w.site n := by
  rw [temperature, Evidence.reporting_ok_iff] at run
  have reads := readTemperature_follows w.site
  have unfailed := (play_fault_eq_none_iff _ _).1 (Makes.unfailed reads rfl run)
  obtain ⟨e, found, visible, digit⟩ := temperatureCalls_granted_iff.1 unfailed.2
  have answer : temperatureRead w.site = .ok n := Makes.answer reads rfl run
  cases worded : e.text with
  | none =>
    rw [worded, Check.digits_found_iff] at digit
    obtain ⟨_, there, _⟩ := digit
    cases there
  | some text =>
    rw [worded] at digit
    -- With a digit in the text the number is not the zero that stands for a missing one.
    have same := (allRead_numberIn (Check.digits_found_iff_reading.1 digit)).optional
    rw [temperatureRead_of_found found worded] at answer
    exact ⟨e, text, found, visible, worded, numberIn_eq_ok_iff.1 (same.symm.trans answer)⟩

/-- Without rules, a temperature that is shown is returned. -/
theorem temperature_of_shown {w : World} {n : Nat} (unscripted : w.rules = [])
    (shown : TemperatureShown w.site n) : ∃ after, temperature w = .ok n after := by
  obtain ⟨e, text, found, visible, worded, reads⟩ := shown
  have present : Reading.of text ≠ .absent := by
    rw [reads]
    exact Reading.noConfusion
  have yields := readTemperature_yields found visible worded
    (Check.digits_found_iff_reading.2 present)
  have read : numberOrZero text = .ok n :=
    (allRead_numberIn present).optional.trans (numberIn_eq_ok_iff.2 reads)
  rw [read] at yields
  obtain ⟨after, run, -⟩ := Brings.run yields rfl unscripted
  exact ⟨after, Evidence.reporting_ok_iff.2 run⟩

theorem temperatureRead_ne_unread (s : Site) (text : String) :
    temperatureRead s ≠ .error (.temperatureUnread text) := by
  unfold temperatureRead Site.one
  split
  · exact nofun
  · next e _ =>
    change numberOrZeroOf (textValue e.text) ≠ _
    cases e.text with
    | none => exact nofun
    | some words =>
      change numberOrZero words ≠ _
      unfold numberOrZero
      split <;> exact nofun
  · exact nofun

theorem temperatureCalls_ne_unread {s : Site} {step : Step} (there : step ∈ temperatureCalls s)
    (text : String) : step.fault ≠ some (.temperatureUnread text) := by
  intro refused
  simp only [temperatureCalls, List.mem_cons, List.not_mem_nil, or_false] at there
  obtain rfl | rfl | rfl | rfl := there
  · obtain other | ⟨_, other⟩ := Site.hasQuality_error refused <;> cases other
  · obtain other | ⟨_, other⟩ := Site.hasQuality_error refused <;> cases other
  · obtain ⟨_, other⟩ | ⟨_, other⟩ := Site.hasText_pattern_error refused <;> cases other
  · cases refused

/-- Whatever the rules do, that no number could be read is never the fault. -/
theorem temperature_ne_unread {w after : World} {text : String} :
    temperature w ≠ .error (.temperatureUnread text) after := by
  intro run
  obtain ⟨u, failed⟩ | ⟨_, _, refused⟩ := Evidence.reporting_fault_cases run
  · obtain ended | answer := Makes.fault_cases (readTemperature_follows w.site) rfl failed
    · obtain ⟨_, _, scripted⟩ | ⟨step, there, fault⟩ := play_fault_cases ended
      · cases scripted
      · exact temperatureCalls_ne_unread there text fault
    · exact temperatureRead_ne_unread w.site text answer
  · cases refused

/-- The words for a text that no number could be read from. -/
def unreadWords : List String := ["Could not extract temperature"]

theorem temperature_unmentioned :
    Stays (Unmentioned (LogEntry.opens unreadWords)) temperature := by
  have read : Stays (Unmentioned (LogEntry.opens unreadWords)) readTemperature := by
    rw [readTemperature_eq]
    refine (Unmentioned.visible_of_apart (by decide) (by decide) _ _).bind fun _ => ?_
    refine (Unmentioned.text_of_apart (by decide) (by decide) (by decide) (by decide) _ _ _ _).bind
      fun _ => ?_
    refine ((Stays.textContent _).bind fun _ => Stays.settle _).bind fun n => ?_
    have apart : Apart unreadWords "Current temperature: " := by decide
    exact (Unmentioned.note ((apart.append _).append _).untold).bind fun _ => Stays.pure _
  refine read.tryCatch fun e => ?_
  have captured : Stays (Unmentioned (LogEntry.opens unreadWords))
      (Evidence.capture "get_temperature_error") :=
    Unmentioned.capture (by decide) (by decide) (by decide) _
  exact (Unmentioned.keep (by decide) captured e).bind fun _ => Stays.throw e

/-- Under any rules, the number that is returned stands in the one visible element as the first run
of digits of its text; without rules it is returned whenever it does. That no number could be read
is neither the fault nor in the log, ever. -/
theorem temperature_never_invented (w : World) :
    (∀ n after, temperature w = .ok n after →
      ∃ e text, w.site.resolve (.top Selector.temperature) = [e] ∧ e.visible = true ∧
        e.text = some text ∧ Writes text n) ∧
    (w.rules = [] → ∀ e text n, w.site.resolve (.top Selector.temperature) = [e] →
      e.visible = true → e.text = some text → Writes text n →
        ∃ after, temperature w = .ok n after) ∧
    (∀ text after, temperature w ≠ .error (.temperatureUnread text) after) ∧
    ∃ notes, (lastState (temperature w)).journal = w.journal ++ notes ∧
      ⟨.error, "Could not extract temperature value from text"⟩ ∉ notes := by
  refine ⟨?_, ?_, fun _ _ => temperature_ne_unread, ?_⟩
  · intro n after run
    obtain ⟨e, text, found, visible, worded, reads⟩ := temperature_ok run
    exact ⟨e, text, found, visible, worded, writes_iff.2 reads⟩
  · intro unscripted e text n found visible worded written
    exact temperature_of_shown unscripted ⟨e, text, found, visible, worded, writes_iff.1 written⟩
  · obtain ⟨notes, added, silent⟩ := (temperature_unmentioned w).silent
    refine ⟨notes, added, fun there => ?_⟩
    exact List.filter_eq_nil_iff.1 silent _ there (Opens.told (by decide))

/-- A page with a text for the temperature. -/
def worded (text : String) : World where
  site := { elements := [(Selector.temperature, [.mk (some text) true true [] []])] }

/-- Digits of two scripts are returned as the number that they write; for a text without any, no
number is returned. -/
theorem temperature_never_invented_mixed :
    (∃ after, temperature (worded "-٣7 ℃, not 90") = .ok 37 after) ∧
      ∀ n after, temperature (worded "mild") ≠ .ok n after := by
  constructor
  · obtain ⟨-, returned, -⟩ := temperature_never_invented (worded "-٣7 ℃, not 90")
    refine returned rfl _ _ 37 rfl rfl rfl ⟨['-'], ['٣', '7'], " ℃, not 90".toList, ?_, ?_, ?_⟩
    · exact ⟨by decide, Text.digitFree_of_any (by decide), List.all_eq_true.1 (by decide),
        by decide, by rintro c rest ⟨⟩; decide⟩
    · decide
    · decide
  · intro n after run
    obtain ⟨shown, -⟩ := temperature_never_invented (worded "mild")
    obtain ⟨e, text, found, -, said, written⟩ := shown n after run
    cases found
    cases said
    have absent : Reading.of "mild" = .absent := by decide
    rw [writes_iff, absent] at written
    cases written

end Home

end Shopwalk
