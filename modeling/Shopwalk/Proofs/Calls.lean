import Shopwalk.Proofs.Course

/-!
What each call of the browser that only looks has to do with the site, and what pressing an element
does to it.
-/

namespace Shopwalk

namespace Site

/-- The one element of a locator; see `Browser.single`. -/
def one (s : Site) (l : Locator) : Except Fault Element :=
  match s.resolve l with
  | [] => .error .timeout
  | [e] => .ok e
  | es => .error (.ambiguous l.selector es.length)

/-- Whether a locator finds one element and that has a quality. -/
def hasQuality (s : Site) (q : Fault.Quality) (l : Locator) : Except Fault Unit :=
  match s.resolve l with
  | [] => .error (.unmetQuality q)
  | [e] => if Browser.has e q then .ok () else .error (.unmetQuality q)
  | es => .error (.ambiguous l.selector es.length)

/-- Whether the url or the title is as expected. -/
def hasField (s : Site) (f : Fault.PageField) (e : Browser.Expected) : Except Fault Unit :=
  if e.equals (Browser.field s f) then .ok ()
  else .error (.unmetPage f e.shown (Browser.field s f))

/-- Whether a locator finds one element and its text stands in a relation to what is expected. -/
def hasText (s : Site) (r : Fault.Relation) (l : Locator) (e : Browser.Expected) :
    Except Fault Unit :=
  match s.resolve l with
  | [] => .error (.unmetText r e.shown none)
  | [element] =>
    match Browser.relates r e (element.text.getD "") with
    | .ok true => .ok ()
    | .ok false => .error (.unmetText r e.shown (some (element.text.getD "")))
    | .error f => .error f
  | es => .error (.ambiguous l.selector es.length)

theorem one_eq_ok_iff {s : Site} {l : Locator} {e : Element} :
    s.one l = .ok e ↔ s.resolve l = [e] := by
  unfold one
  split <;> simp_all

theorem faultOf_one_iff {s : Site} {l : Locator} :
    faultOf (s.one l) = none ↔ ∃ e, s.resolve l = [e] := by
  unfold one
  split <;> simp_all [faultOf]

/-- What is found once is found to be the same. -/
theorem resolve_and_iff {s : Site} {l : Locator} {p q : Element → Prop} :
    ((∃ e, s.resolve l = [e] ∧ p e) ∧ ∃ e, s.resolve l = [e] ∧ q e) ↔
      ∃ e, s.resolve l = [e] ∧ p e ∧ q e := by
  constructor
  · rintro ⟨⟨e, found, first⟩, e', found', second⟩
    obtain rfl : e = e' := by simpa [found] using found'
    exact ⟨e, found, first, second⟩
  · rintro ⟨e, found, first, second⟩
    exact ⟨⟨e, found, first⟩, e, found, second⟩

/-- Inside one of several elements its children are found. -/
theorem resolve_nth_inside {s : Site} {l : Locator} {i : Nat} {e : Element}
    (there : (s.resolve l)[i]? = some e) (selector : String) :
    s.resolve ((Locator.nth l (Int.ofNat i)).inside selector) =
      Catalog.get e.children selector := by
  simp only [resolve, Int.ofNat_eq_natCast, Int.natCast_nonneg, ↓reduceIte, Int.toNat_natCast,
    there, Option.toList_some, List.flatMap_cons, List.flatMap_nil, List.append_nil]

theorem faultOf_hasQuality_iff {s : Site} {q : Fault.Quality} {l : Locator} :
    faultOf (s.hasQuality q l) = none ↔ ∃ e, s.resolve l = [e] ∧ Browser.has e q = true := by
  unfold hasQuality
  split
  · simp_all [faultOf]
  · split <;> simp_all [faultOf]
  · simp_all [faultOf]

/-- The site after the one element of a locator is pressed, which must be visible and enabled. -/
def pressing (s : Site) (l : Locator) : Except Fault Site :=
  match s.one l with
  | .error f => .error f
  | .ok e => if e.visible && e.enabled then .ok (s.actAll e.onClick) else .error .timeout

/-- The site after a press, also when nothing could be pressed. -/
def pressed (s : Site) (l : Locator) : Site :=
  match s.pressing l with
  | .ok t => t
  | .error _ => s

theorem pressing_eq_ok_iff {s t : Site} {l : Locator} :
    s.pressing l = .ok t ↔
      ∃ e, s.resolve l = [e] ∧ e.visible = true ∧ e.enabled = true ∧ s.actAll e.onClick = t := by
  unfold pressing
  cases h : s.one l with
  | error f =>
    have none_such : ∀ e, s.resolve l ≠ [e] := by
      intro e he
      rw [one_eq_ok_iff.2 he] at h
      cases h
    simp [none_such]
  | ok e =>
    rw [one_eq_ok_iff] at h
    simp only [h, List.cons.injEq, and_true, exists_eq_left', Bool.and_eq_true]
    split <;> simp_all

theorem navigations_le_act (s : Site) (a : Action) : s.navigations ≤ (s.act a).navigations := by
  cases a <;> simp [act]

theorem navigations_le_actAll (s : Site) (actions : List Action) :
    s.navigations ≤ (s.actAll actions).navigations := by
  induction actions generalizing s with
  | nil => exact Nat.le_refl _
  | cons a rest ih => exact Nat.le_trans (navigations_le_act s a) (ih (s.act a))

/-- Actions bring about a navigation exactly when one of them sets the url. -/
theorem actAll_navigates_iff (s : Site) (actions : List Action) :
    (s.actAll actions).navigations ≠ s.navigations ↔ ∃ url, .setUrl url ∈ actions := by
  induction actions generalizing s with
  | nil => simp [actAll]
  | cons a rest ih =>
    have later := navigations_le_actAll (s.act a) rest
    simp only [actAll, List.foldl_cons] at later ih ⊢
    cases a with
    | setUrl url =>
      simp only [act] at later ⊢
      simp only [List.mem_cons, Action.setUrl.injEq]
      exact ⟨fun _ => ⟨url, .inl rfl⟩, fun _ => by omega⟩
    | setTitle | setText | bump | setElements | setFrame =>
      simpa [act] using ih _

/-- Without a navigation the url stays. -/
theorem url_actAll {s : Site} {actions : List Action}
    (h : (s.actAll actions).navigations = s.navigations) : (s.actAll actions).url = s.url := by
  induction actions generalizing s with
  | nil => rfl
  | cons a rest ih =>
    have later := navigations_le_actAll (s.act a) rest
    simp only [actAll, List.foldl_cons] at h later ih ⊢
    cases a with
    | setUrl url =>
      simp only [act] at h later
      omega
    | setTitle | setText | bump | setElements | setFrame =>
      rw [ih (by simpa [act] using h)]
      rfl

end Site

namespace Follows

open Browser

variable {s : Site}

theorem single (l : Locator) : Follows s (Browser.single l) [] (s.one l) := by
  refine bind site (b := []) ?_
  rcases h : s.resolve l with _ | ⟨e, _ | ⟨e', es⟩⟩ <;> simp only [Site.one, h]
  · exact throw _
  · exact pure _
  · exact throw _

theorem waitForLoad (state : String) (timeout : Option String) :
    Follows s (Browser.waitForLoad state timeout) [⟨.waitForLoad state timeout, none⟩] (.ok ()) :=
  perform _

theorem fill (l : Locator) (value : String) :
    Follows s (Browser.fill l value) [⟨.fill l.selector value, faultOf (s.one l)⟩] (.ok ()) := by
  have found : Follows s (Browser.single l >>= fun _ => Pure.pure ()) []
      ((s.one l).map fun _ => ()) := by
    cases h : s.one l with
    | ok e =>
      have got : Follows s (Browser.single l) [] (.ok e) := h ▸ single l
      exact got.bind (pure ())
    | error f => exact bind_error (h ▸ single l)
  have made := call (e := .fill l.selector value) found
  rwa [faultOf_map] at made

theorem textContent (l : Locator) :
    Follows s (Browser.textContent l) [⟨.textContent l.selector, none⟩]
      ((s.one l).map Element.text) := by
  refine bind (perform _) (b := []) ?_
  cases h : s.one l with
  | ok e =>
    have got : Follows s (Browser.single l) [] (.ok e) := h ▸ single l
    exact got.bind (pure e.text)
  | error f => exact bind_error (h ▸ single l)

theorem count (l : Locator) :
    Follows s (Browser.count l) [⟨.count l.selector, none⟩] (.ok (s.resolve l).length) := by
  refine bind (perform _) (b := []) ?_
  exact site.bind (pure _)

theorem all (l : Locator) :
    Follows s (Browser.all l) [⟨.all l.selector, none⟩]
      (.ok (Browser.positions l (s.resolve l).length)) := by
  refine bind (perform _) (b := []) ?_
  exact site.bind (pure _)

theorem expectQuality (q : Fault.Quality) (l : Locator) (timeout : Option String) :
    Follows s (Browser.expectQuality q l timeout)
      [⟨.expectQuality q l.selector timeout, faultOf (s.hasQuality q l)⟩] (.ok ()) := by
  apply call
  refine bind site (b := []) ?_
  rcases h : s.resolve l with _ | ⟨e, _ | ⟨e', es⟩⟩ <;> simp only [Site.hasQuality, h]
  · exact throw _
  · split
    · exact pure ()
    · exact throw _
  · exact throw _

theorem expectPage (f : Fault.PageField) (e : Expected) :
    Follows s (Browser.expectPage f e) [⟨.expectPage f e.shown, faultOf (s.hasField f e)⟩]
      (.ok ()) := by
  apply call
  refine bind site (b := []) ?_
  cases h : e.equals (field s f) <;> simp only [Site.hasField, h]
  · exact throw _
  · exact pure ()

theorem expectText (r : Fault.Relation) (l : Locator) (e : Expected) (timeout : Option String) :
    Follows s (Browser.expectText r l e timeout)
      [⟨.expectText r l.selector e.shown timeout, faultOf (s.hasText r l e)⟩] (.ok ()) := by
  apply call
  refine bind site (b := []) ?_
  rcases h : s.resolve l with _ | ⟨element, _ | ⟨e', es⟩⟩ <;> simp only [Site.hasText, h]
  · exact throw _
  · cases hr : relates r e (element.text.getD "") with
    | error f => exact bind_error (settle _)
    | ok b =>
      refine bind (settle (.ok b)) (b := []) ?_
      cases b
      · exact throw _
      · exact pure ()
  · exact throw _

end Follows

namespace Makes

variable {α : Type} {s t : Site} {walk : Walk α} {a : List Step}

theorem modifySite (f : Site → Site) : Makes s (Walk.modifySite f) [] (f s) (.ok ()) := by
  apply of_silent
  rintro w rfl
  refine ⟨[], rfl, ?_⟩
  simp only [List.append_nil]
  rfl

/-- A press after the event that announces it. -/
theorem press (e : Event) (l : Locator) :
    Makes s (Walk.perform e >>= fun _ => Browser.press l) [⟨e, faultOf (s.pressing l)⟩]
      (s.pressed l) (.ok ()) := by
  rw [← faultOf_map fun _ => ()]
  apply call
  · intro u hu
    unfold Site.pressed
    cases hp : s.pressing l with
    | error f => rw [hp] at hu; cases hu
    | ok t =>
      obtain ⟨e, found, visible, enabled, rfl⟩ := Site.pressing_eq_ok_iff.1 hp
      have got : Follows s (Browser.single l) [] (.ok e) :=
        Site.one_eq_ok_iff.2 found ▸ Follows.single l
      refine got.bind (b := []) ?_
      simp only [visible, enabled, Bool.and_self, ↓reduceIte]
      exact modifySite _
  · intro f hf
    unfold Site.pressing at hf ⊢
    cases h : s.one l with
    | error g =>
      have refused : Follows s (Browser.single l) [] (.error g) := h ▸ Follows.single l
      exact refused.bind_error
    | ok e =>
      have got : Follows s (Browser.single l) [] (.ok e) := h ▸ Follows.single l
      refine got.bind (b := []) ?_
      simp only [h] at hf ⊢
      split at hf
      · cases hf
      · next blocked =>
        simp only [blocked]
        exact Follows.throw _

theorem click (l : Locator) :
    Makes s (Browser.click l) [⟨.click l.selector, faultOf (s.pressing l)⟩] (s.pressed l)
      (.ok ()) :=
  press _ l

theorem pageClick (selector : String) :
    Makes s (Browser.pageClick selector)
      [⟨.pageClick selector, faultOf (s.pressing (.top selector))⟩] (s.pressed (.top selector))
      (.ok ()) :=
  press _ _

/-- What has to bring about a navigation fails behind its last call when it does not. -/
theorem expectNavigation {v : α} (waitUntil : Option String) (h : Makes s walk a t (.ok v)) :
    Makes s (Browser.expectNavigation waitUntil walk) (⟨.expectNavigation waitUntil, none⟩ :: a) t
      (if t.navigations = s.navigations then .error .timeout else .ok v) := by
  refine (Follows.perform _).bind (a := [_]) ?_
  refine Follows.site.bind (a := []) ?_
  refine h.bind_silent ?_
  refine Follows.site.bind (a := []) (b := []) ?_
  split
  · exact Follows.throw _
  · exact Follows.pure v

end Makes

end Shopwalk
