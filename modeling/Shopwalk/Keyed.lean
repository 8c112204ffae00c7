/-!
Lists of keys with values, in the order in which the keys came.
-/

namespace Shopwalk.Keyed

variable {κ α : Type} [DecidableEq κ]

/-- The value of a key, the first one if the key is there twice. -/
def find? : List (κ × α) → κ → Option α
  | [], _ => none
  | (k, v) :: rest, key => if k = key then some v else find? rest key

/-- Gives a key a new value, in its place if it is there already and at the end otherwise. -/
def insert : List (κ × α) → κ → α → List (κ × α)
  | [], key, v => [(key, v)]
  | (k, w) :: rest, key, v => if k = key then (k, v) :: rest else (k, w) :: insert rest key v

theorem find?_insert (m : List (κ × α)) (key k : κ) (v : α) :
    find? (insert m key v) k = if key = k then some v else find? m k := by
  induction m with
  | nil => simp [insert, find?]
  | cons p rest ih =>
    obtain ⟨a, w⟩ := p
    simp only [insert]
    by_cases hk : a = key
    · subst hk
      by_cases h : a = k <;> simp [find?, h]
    · simp only [hk, ↓reduceIte, find?, ih]
      by_cases h : a = k
      · subst h
        simp [Ne.symm hk]
      · simp [h]

end Shopwalk.Keyed
