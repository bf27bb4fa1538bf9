import ClassAtlas.Config

/-!
# Settings that are lists of names

What a configuration answers when a dotted key leads to a list of texts. It holds the names in the list
and no others, asking never fails, and looking it up prints nothing.
-/

namespace ClassAtlas.Proofs

open ClassAtlas

theorem field?_eq_some_iff {d v : Document} {name : String} :
    d.field? name = some v ↔ ∃ entries, d = .table entries ∧ entries.lookup name = some v := by
  constructor
  · intro h
    cases d with
    | table entries => exact ⟨entries, rfl, h⟩
    | _ => exact absurd h (by simp [Document.field?])
  · rintro ⟨entries, rfl, h⟩
    exact h

theorem entry_eq_ok_iff {d v : Document} {name : String} :
    Config.entry d name = .ok v ↔ d.field? name = some v := by
  cases d with
  | table entries =>
    simp only [Config.entry, Document.field?]
    cases entries.lookup name <;> simp
  | _ => simp [Config.entry, Document.field?]

theorem entry_of_follow? {d v : Document} {outer inner : String} (h : d.follow? [outer, inner] = some v) :
    Config.entry ((d.follow? [outer]).getD Document.empty) inner = .ok v := by
  rw [entry_eq_ok_iff]
  simp only [Document.follow?] at h ⊢
  cases houter : d.field? outer with
  | none => rw [houter] at h; exact absurd h (by simp)
  | some e =>
    simp only [houter] at h
    cases hinner : e.field? inner with
    | none => rw [hinner] at h; exact absurd h (by simp)
    | some w =>
      rw [hinner] at h
      exact hinner.trans h

/-- An entry that is found stands under a key with two parts. -/
theorem follow?_of_entry {d v : Document} {outer inner : String}
    (h : Config.entry ((d.follow? [outer]).getD Document.empty) inner = .ok v) :
    d.follow? [outer, inner] = some v := by
  rw [entry_eq_ok_iff] at h
  simp only [Document.follow?] at h ⊢
  cases houter : d.field? outer with
  | none => rw [houter] at h; exact absurd h (by simp [Document.field?, Document.empty])
  | some e =>
    rw [houter] at h
    have hinner : e.field? inner = some v := h
    simp only [hinner]

/-- A key with two parts leads through the value of its first part. -/
theorem isSome_of_follow? {d v : Document} {outer inner : String} (h : d.follow? [outer, inner] = some v) :
    (d.follow? [outer]).isSome = true := by
  simp only [Document.follow?] at h ⊢
  cases houter : d.field? outer with
  | none => rw [houter] at h; exact absurd h (by simp)
  | some e => rfl

/-- Looking up what is there prints nothing. -/
theorem get_of_find? {config d : Document} {key : String} (h : config.find? key = some d)
    (printed : String) : Config.get config key printed = (.ok d, printed) := by
  unfold Config.get
  rw [h]
  rfl

/-- Looking up what is not there is reported and gives an empty table. -/
theorem get_of_find?_none {config : Document} {key : String} (h : config.find? key = none)
    (printed : String) :
    Config.get config key printed = (.ok Document.empty, printed ++ missingKeyNotice) := by
  unfold Config.get
  rw [h]
  rfl

/-- A list of texts holds the names in it. -/
theorem holds?_ofTexts (texts : List String) (name : String) :
    (Document.ofTexts texts).holds? name = some (decide (name ∈ texts)) := by
  have hany : (texts.map Document.text).any (Document.isText name) = decide (name ∈ texts) := by
    rw [List.any_map, Bool.eq_iff_iff, List.any_eq_true, decide_eq_true_iff]
    constructor
    · rintro ⟨text, htext, he⟩
      exact eq_of_beq he ▸ htext
    · intro hname
      exact ⟨name, hname, beq_self_eq_true name⟩
  rw [← hany]
  rfl

theorem holds_ofTexts (texts : List String) (name : String) :
    Config.holds (Document.ofTexts texts) name = .ok (decide (name ∈ texts)) := by
  rw [Config.holds, holds?_ofTexts]

theorem ok_bind {α β : Type} (a : α) (f : α → Except Fault β) : (Except.ok a >>= f) = f a := rfl

end ClassAtlas.Proofs
