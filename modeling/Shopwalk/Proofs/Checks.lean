import Shopwalk.Check
import Shopwalk.Proofs.Calls

/-!
The checks as calls: a check that looks at a few things makes one call for each.
-/

namespace Shopwalk

namespace Check

/-- A plain word with anything around it, in capitals or not. -/
def wordPattern (word : String) : Pattern :=
  ⟨wrapped word, { ignoreCase := true }, .ofList
    (.rep .greedy 0 none .any :: word.toList.map (fun c => .lit c.toNat) ++
      [.rep .greedy 0 none .any])⟩

/-- The url has a plain word in it, in capitals or not. -/
def UrlHas (word : String) (s : Site) : Prop := (wordPattern word).found s.url = true

/-- A word is plain when it is read as it stands. -/
def Plain (word : String) : Prop :=
  (Pattern.parse (wrapped word) { ignoreCase := true }).toOption = some (wordPattern word)

instance (word : String) : Decidable (Plain word) :=
  inferInstanceAs (Decidable (_ = some (wordPattern word)))

theorem compile_of_plain {word : String} (plain : Plain word) :
    compile (wrapped word) { ignoreCase := true } = .ok (wordPattern word) := by
  unfold compile
  cases parsed : Pattern.parse (wrapped word) { ignoreCase := true } with
  | ok p => rw [Plain, parsed] at plain; cases plain; rfl
  | error d => rw [Plain, parsed] at plain; cases plain

end Check

namespace Step

/-- The call that expects a quality of the one element of a locator. -/
def quality (s : Site) (q : Fault.Quality) (l : Locator) (timeout : Option String) : Step :=
  ⟨.expectQuality q l.selector timeout, faultOf (s.hasQuality q l)⟩

/-- The call that fills the one element of a locator. -/
def fill (s : Site) (l : Locator) (value : String) : Step :=
  ⟨.fill l.selector value, faultOf (s.one l)⟩

/-- The call that expects a url. -/
def url (s : Site) (p : Pattern) : Step :=
  ⟨.expectPage .url (Browser.Expected.pattern p).shown, faultOf (s.hasField .url (.pattern p))⟩

/-- The call that expects something in the text of the one element of a locator. -/
def contains (s : Site) (l : Locator) (e : Browser.Expected) (timeout : Option String) : Step :=
  ⟨.expectText .contain l.selector e.shown timeout, faultOf (s.hasText .contain l e)⟩

theorem quality_fault_iff {s : Site} {q : Fault.Quality} {l : Locator} {timeout : Option String} :
    (quality s q l timeout).fault = none ↔ ∃ e, s.resolve l = [e] ∧ Browser.has e q = true :=
  Site.faultOf_hasQuality_iff

theorem fill_fault_iff {s : Site} {l : Locator} {value : String} :
    (fill s l value).fault = none ↔ ∃ e, s.resolve l = [e] :=
  Site.faultOf_one_iff

theorem url_fault_iff {s : Site} {p : Pattern} :
    (url s p).fault = none ↔ p.found s.url = true := by
  change _ ↔ (Browser.Expected.pattern p).equals (Browser.field s .url) = true
  unfold url Site.hasField
  cases (Browser.Expected.pattern p).equals (Browser.field s .url) <;> simp [faultOf]

theorem contains_text_fault_iff {s : Site} {l : Locator} {needle : String}
    {timeout : Option String} :
    (contains s l (.text needle) timeout).fault = none ↔
      ∃ e, s.resolve l = [e] ∧ Text.contains (e.text.getD "") needle = true := by
  simp only [contains, Site.hasText, Browser.relates, Browser.Expected.occursIn]
  rcases h : s.resolve l with _ | ⟨e, _ | ⟨e', es⟩⟩
  · simp [faultOf]
  · cases hc : Text.contains (e.text.getD "") needle <;> simp [faultOf, hc]
  · simp [faultOf]

theorem contains_pattern_fault_iff {s : Site} {l : Locator} {p : Pattern}
    {timeout : Option String} :
    (contains s l (.pattern p) timeout).fault = none ↔
      ∃ e, s.resolve l = [e] ∧ p.found (e.text.getD "") = true := by
  simp only [contains, Site.hasText, Browser.relates, Browser.Expected.occursIn]
  rcases h : s.resolve l with _ | ⟨e, _ | ⟨e', es⟩⟩
  · simp [faultOf]
  · cases hf : p.found (e.text.getD "") <;> simp [faultOf, hf]
  · simp [faultOf]

end Step

namespace Follows

variable {s : Site}

theorem visible (label : String) (l : Locator) (timeout : Option String) :
    Follows s (Check.visible ⟨label, .ok l⟩ timeout) [.quality s .visible l timeout] (.ok l) := by
  refine (note _ _).bind (a := []) ?_
  refine (settle (.ok l)).bind (a := []) ?_
  refine (expectQuality .visible l timeout).bind (b := []) ?_
  exact (note _ _).bind (pure l) (a := [])

theorem framed (q : Fault.Quality) (frame selector : String) (timeout : Option String) :
    Follows s (Check.framed q (.frame frame) selector timeout)
      [.quality s q (.framed frame selector) timeout] (.ok (.framed frame selector)) := by
  refine (note _ _).bind (a := []) ?_
  refine (settle (.ok (Locator.framed frame selector))).bind (a := []) ?_
  refine (expectQuality q (.framed frame selector) timeout).bind (b := []) ?_
  exact (note _ _).bind (pure _) (a := [])

theorem url_of_compile {p : String} {caseSensitive : Bool} {re : Pattern}
    (compiled : Check.compile (Check.wrapped p) { ignoreCase := !caseSensitive } = .ok re) :
    Follows s (Check.url p caseSensitive) [.url s re] (.ok ()) := by
  unfold Check.url
  rw [compiled]
  refine (settle (.ok re)).bind (a := []) ?_
  refine (note _ _).bind (a := []) ?_
  refine (expectPage .url (.pattern re)).bind (b := []) ?_
  exact site.bind (note _ _) (a := [])

theorem url {word : String} (plain : Check.Plain word) :
    Follows s (Check.url word false) [.url s (Check.wordPattern word)] (.ok ()) :=
  url_of_compile (Check.compile_of_plain plain)

theorem heading (h selector : String) :
    Follows s (Check.heading (.str h) selector)
      [.quality s .visible (.top selector) none, .contains s (.top selector) (.text h) none]
      (.ok ()) := by
  refine (settle (.ok h)).bind (a := []) ?_
  refine (note _ _).bind (a := []) ?_
  refine (expectQuality .visible (.top selector) none).bind (b := [_]) ?_
  refine (expectText .contain (.top selector) (.text h) none).bind (b := []) ?_
  exact note _ _

theorem navigation {word h : String} (plain : Check.Plain word)
    (headed : (Value.str h).truthy = true) (selector : String) :
    Follows s (Check.navigation (.str word) (.str h) selector)
      [.url s (Check.wordPattern word), .quality s .visible (.top selector) none,
       .contains s (.top selector) (.text h) none]
      (.ok ()) := by
  refine (url plain).bind (a := [_]) ?_
  rw [if_pos headed]
  exact heading _ _

theorem enabled (selector : String) :
    Follows s (Check.enabled selector)
      [.quality s .visible (.top selector) none, .quality s .enabled (.top selector) none]
      (.ok (.top selector)) := by
  refine (note _ _).bind (a := []) ?_
  refine (expectQuality .visible (.top selector) none).bind (b := [_]) ?_
  refine (expectQuality .enabled (.top selector) none).bind (b := []) ?_
  exact (note _ _).bind (pure _) (a := [])

theorem text (label : String) (l : Locator) {expected : Value} {words : String}
    (worded : Check.wording expected = .ok words) (timeout : Option String) :
    Follows s (Check.text ⟨label, .ok l⟩ expected false timeout)
      [.quality s .visible l timeout, .contains s l (.ofValue expected) timeout] (.ok l) := by
  unfold Check.text
  rw [worded]
  refine (settle (.ok words)).bind (a := []) ?_
  refine (note _ _).bind (a := []) ?_
  refine (visible _ l timeout).bind (b := [_]) ?_
  refine (expectText .contain l (.ofValue expected) timeout).bind (b := []) ?_
  exact (note _ _).bind (pure l) (a := [])

end Follows

end Shopwalk
