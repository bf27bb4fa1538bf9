/-!
# Sorted lists without repetition

A set whose order is shown is kept as a sorted list. `Ordered.insert` leaves a list that has the
element as it is; otherwise it puts the element in front of the first one that it precedes.
-/

namespace ClassAtlas.Ordered

variable {α : Type}

/-- Puts an element in front of the first one that it precedes. -/
def place (before : α → α → Bool) (a : α) : List α → List α
  | [] => [a]
  | b :: rest => if before a b then a :: b :: rest else b :: place before a rest

/-- Adds an element unless it is there. -/
def insert [DecidableEq α] (before : α → α → Bool) (a : α) (l : List α) : List α :=
  if a ∈ l then l else place before a l

/-- Adds the elements of a list. -/
def insertAll [DecidableEq α] (before : α → α → Bool) (new l : List α) : List α :=
  new.foldl (fun l a => insert before a l) l

theorem mem_place {before : α → α → Bool} {a x : α} {l : List α} :
    x ∈ place before a l ↔ x = a ∨ x ∈ l := by
  induction l with
  | nil => simp [place]
  | cons b rest ih =>
    by_cases h : before a b = true
    · simp [place, h]
    · simp only [place, h, Bool.false_eq_true, ↓reduceIte, List.mem_cons, ih]
      exact or_left_comm

/-- Inserting adds the element and keeps all others. -/
theorem mem_insert [DecidableEq α] {before : α → α → Bool} {a x : α} {l : List α} :
    x ∈ insert before a l ↔ x = a ∨ x ∈ l := by
  by_cases h : a ∈ l
  · simp only [insert, h, ↓reduceIte]
    exact ⟨Or.inr, fun hx => hx.elim (fun e => e ▸ h) id⟩
  · simp only [insert, h, ↓reduceIte, mem_place]

theorem nodup_place {before : α → α → Bool} {a : α} {l : List α} (hl : l.Nodup) (ha : a ∉ l) :
    (place before a l).Nodup := by
  induction l with
  | nil => simp [place]
  | cons b rest ih =>
    rw [List.nodup_cons] at hl
    rw [List.mem_cons, not_or] at ha
    by_cases h : before a b = true
    · simp only [place, h, ↓reduceIte, List.nodup_cons, List.mem_cons, not_or]
      exact ⟨ha, hl⟩
    · simp only [place, h, Bool.false_eq_true, ↓reduceIte, List.nodup_cons, mem_place, not_or]
      exact ⟨⟨fun e => ha.1 e.symm, hl.1⟩, ih hl.2 ha.2⟩

/-- Inserting repeats nothing. -/
theorem nodup_insert [DecidableEq α] {before : α → α → Bool} {a : α} {l : List α} (hl : l.Nodup) :
    (insert before a l).Nodup := by
  by_cases h : a ∈ l
  · simpa only [insert, h, ↓reduceIte] using hl
  · simpa only [insert, h, ↓reduceIte] using nodup_place hl h

/-- Inserting the elements of a list adds these and keeps all others. -/
theorem mem_insertAll [DecidableEq α] {before : α → α → Bool} {x : α} {new l : List α} :
    x ∈ insertAll before new l ↔ x ∈ new ∨ x ∈ l := by
  induction new generalizing l with
  | nil => simp [insertAll]
  | cons a rest ih =>
    have hrest : x ∈ insertAll before rest (insert before a l) ↔ x ∈ rest ∨ x = a ∨ x ∈ l := by
      rw [ih, mem_insert]
    rw [List.mem_cons, or_assoc, or_left_comm]
    exact hrest

theorem nodup_insertAll [DecidableEq α] {before : α → α → Bool} {new l : List α} (hl : l.Nodup) :
    (insertAll before new l).Nodup := by
  induction new generalizing l with
  | nil => exact hl
  | cons a rest ih => exact ih (nodup_insert hl)

theorem filter_place {before : α → α → Bool} {p : α → Bool} {a : α} (ha : p a = false) (l : List α) :
    (place before a l).filter p = l.filter p := by
  induction l with
  | nil => simp [place, ha]
  | cons b rest ih =>
    by_cases h : before a b = true
    · simp [place, h, ha]
    · simp only [place, h, Bool.false_eq_true, ↓reduceIte, List.filter_cons, ih]

/-- Inserting does not show where the element is filtered out. -/
theorem filter_insert [DecidableEq α] {before : α → α → Bool} {p : α → Bool} {a : α} (ha : p a = false)
    (l : List α) : (insert before a l).filter p = l.filter p := by
  by_cases h : a ∈ l
  · simp only [insert, h, ↓reduceIte]
  · simp only [insert, h, ↓reduceIte, filter_place ha]

end ClassAtlas.Ordered

namespace ClassAtlas

/-- The order of names, by code points. -/
def nameBefore (a b : String) : Bool := decide (a < b)

/-- Adds a name to a sorted list of names. -/
def insertName (a : String) (l : List String) : List String :=
  Ordered.insert nameBefore a l

end ClassAtlas
