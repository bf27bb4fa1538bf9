import ClassAtlas.Proofs.Settings

/-!
# Dotted keys

A dotted key is a way through tables, one name for each part, and an empty part is a name like any
other. Cutting a joined key gives the parts of both keys (`keyParts_join`), and a way along both
is a way along the first and then, from where it ends, along the second (`follow?_append`). So a joined
key finds what the second key finds in the value under the first (`find?_join`).

The way may lead into a value of any kind. Asking it for an entry then fails, with one of two causes:
the entry is not there, or the value has no entries. A look-up recovers from these two and from no other
cause, and since no step of the way fails otherwise (`demandAll_fault`), it never fails.
-/

namespace ClassAtlas

/-! ## Ways through a document -/

namespace Document

theorem keyParts_join (p q : String) : keyParts (p ++ "." ++ q) = keyParts p ++ keyParts q := by
  have hchars : (p ++ "." ++ q).toList = p.toList ++ '.' :: q.toList := by
    simp [String.toList_append]
  rw [keyParts, hchars, List.splitOn_append_cons_self, List.map_append, keyParts, keyParts]

theorem keyParts_of_not_mem {key : String} (h : '.' ∉ key.toList) : keyParts key = [key] := by
  rw [keyParts, List.splitOn_eq_singleton h, List.map_singleton, String.ofList_toList]

/-- A way along two lists of names goes on from where the first ends. -/
theorem follow?_append (d : Document) (front rest : List String) :
    d.follow? (front ++ rest) = (d.follow? front).bind (·.follow? rest) := by
  induction front generalizing d with
  | nil => rfl
  | cons name front ih =>
    rw [List.cons_append, follow?, follow?]
    cases d.field? name with
    | none => rfl
    | some inner => exact ih inner

/-- **A joined key finds what its second half finds under its first half.** -/
theorem find?_join (d : Document) (p q : String) :
    d.find? (p ++ "." ++ q) = (d.find? p).bind (·.find? q) := by
  simp only [find?, keyParts_join, follow?_append]

/-- A key without a dot is the name of an entry. -/
theorem find?_of_not_mem (d : Document) {key : String} (h : '.' ∉ key.toList) :
    d.find? key = d.field? key := by
  rw [find?, keyParts_of_not_mem h, follow?]
  cases d.field? key with
  | none => rfl
  | some inner => rfl

end Document

/-! ## Recovery -/

namespace Config

/-- The causes that a look-up recovers from: an entry is not there, or a value has no entries. -/
def recovers : Fault → Bool
  | .missingKey _ | .notATable _ => true
  | _ => false

/-- A walk that may fail, with a report and an empty table in place of the two causes. Any other fault
goes through. -/
def recovering (walk : Except Fault Document) : Action Document :=
  tryCatch (Action.ofExcept walk) fun fault =>
    if recovers fault then do
      Action.print missingKeyNotice
      return Document.empty
    else throw fault

theorem recovering_error (fault : Fault) : recovering (.error fault) =
    if recovers fault then (do Action.print missingKeyNotice; return Document.empty) else throw fault := rfl

/-- Whatever kind of value is asked, there are only two causes for having no entry. -/
theorem entry_fault {d : Document} {name : String} (h : d.field? name = none) :
    ∃ fault, entry d name = .error fault ∧ recovers fault = true := by
  cases d with
  | table entries =>
    have hlookup : entries.lookup name = none := h
    exact ⟨.missingKey name, by rw [entry, hlookup], rfl⟩
  | null => exact ⟨.notATable .null, rfl, rfl⟩
  | bool b => exact ⟨.notATable .bool, rfl, rfl⟩
  | integer n => exact ⟨.notATable .integer, rfl, rfl⟩
  | decimal mantissa places => exact ⟨.notATable .decimal, rfl, rfl⟩
  | text s => exact ⟨.notATable .text, rfl, rfl⟩
  | list items => exact ⟨.notATable .list, rfl, rfl⟩
  | other label => exact ⟨.notATable (.other label), rfl, rfl⟩

theorem demandAll_of_follow? {names : List String} {d v : Document} (h : d.follow? names = some v) :
    demandAll d names = .ok v := by
  induction names generalizing d with
  | nil => exact congrArg Except.ok (Option.some.inj h)
  | cons name rest ih =>
    rw [Document.follow?] at h
    cases hfield : d.field? name with
    | none => rw [hfield] at h; simp at h
    | some inner =>
      rw [hfield] at h
      rw [demandAll, Proofs.entry_eq_ok_iff.mpr hfield, Proofs.ok_bind]
      exact ih h

/-- A way that ends early ends in a cause to recover from. -/
theorem demandAll_fault {names : List String} {d : Document} (h : d.follow? names = none) :
    ∃ fault, demandAll d names = .error fault ∧ recovers fault = true := by
  induction names generalizing d with
  | nil => simp [Document.follow?] at h
  | cons name rest ih =>
    rw [Document.follow?] at h
    cases hfield : d.field? name with
    | none =>
      -- the first name that leads nowhere gives the cause
      obtain ⟨fault, hentry, hrecovers⟩ := entry_fault hfield
      exact ⟨fault, by rw [demandAll, hentry]; rfl, hrecovers⟩
    | some inner =>
      rw [hfield] at h
      obtain ⟨fault, hrest, hrecovers⟩ := ih h
      exact ⟨fault, by rw [demandAll, Proofs.entry_eq_ok_iff.mpr hfield, Proofs.ok_bind, hrest], hrecovers⟩

/-- **A look-up is the walk that demands each part, with its faults recovered from.** -/
theorem get_eq_recovering (config : Document) (key : String) :
    Config.get config key = recovering (demand config key) := by
  funext printed
  cases hfind : config.find? key with
  | some d =>
    have hdemand : demand config key = .ok d := demandAll_of_follow? hfind
    rw [Proofs.get_of_find? hfind, hdemand]
    rfl
  | none =>
    obtain ⟨fault, hdemand, hrecovers⟩ : ∃ fault, demand config key = .error fault ∧ recovers fault = true :=
      demandAll_fault hfind
    rw [Proofs.get_of_find?_none hfind, hdemand, recovering_error, if_pos hrecovers]
    rfl

/-! ## What a key finds -/

/-- Looking up the key gives the value and prints nothing. -/
def Finds (config : Document) (key : String) (v : Document) : Prop :=
  ∀ printed, Config.get config key printed = (.ok v, printed)

theorem finds_iff {config v : Document} {key : String} :
    Finds config key v ↔ config.find? key = some v := by
  constructor
  · intro h
    have hempty := h ""
    cases hfind : config.find? key with
    | some d =>
      rw [Proofs.get_of_find? hfind] at hempty
      exact congrArg some (Except.ok.inj (Prod.mk.inj hempty).1)
    | none =>
      rw [Proofs.get_of_find?_none hfind] at hempty
      exact absurd (Prod.mk.inj hempty).2 (by decide)
  · intro h printed
    exact Proofs.get_of_find? h printed

theorem find?_eq_none_of_not_finds {config : Document} {key : String} (h : ∀ v, ¬ Finds config key v) :
    config.find? key = none := by
  cases hfind : config.find? key with
  | none => rfl
  | some v => exact absurd (finds_iff.mpr hfind) (h v)

/-- **Looking up dotted keys composes and never fails.** A look-up is the walk from entry to entry with
two causes of failure recovered from, and it always gives a value. A key without a dot finds the entry of
its name; a joined key finds a value iff its first half finds a value in which its second half finds it.
Where nothing is found, this is reported, and there is an empty table. -/
theorem lookup_composes (config : Document) :
    (∀ key, Config.get config key = recovering (demand config key))
      ∧ (∀ key printed, ∃ v report, Config.get config key printed = (.ok v, printed ++ report))
      ∧ (∀ key v, '.' ∉ key.toList →
        (Finds config key v ↔ ∃ entries, config = .table entries ∧ entries.lookup key = some v))
      ∧ (∀ p q v, Finds config (p ++ "." ++ q) v ↔ ∃ u, Finds config p u ∧ Finds u q v)
      ∧ (∀ key, (∀ v, ¬ Finds config key v) →
        ∀ printed, Config.get config key printed = (.ok Document.empty, printed ++ missingKeyNotice)) := by
  refine ⟨get_eq_recovering config, ?_, ?_, ?_, ?_⟩
  · intro key printed
    cases hfind : config.find? key with
    | some d => exact ⟨d, "", by rw [Proofs.get_of_find? hfind, String.append_empty]⟩
    | none => exact ⟨Document.empty, missingKeyNotice, Proofs.get_of_find?_none hfind printed⟩
  · intro key v hdot
    rw [finds_iff, Document.find?_of_not_mem config hdot, Proofs.field?_eq_some_iff]
  · intro p q v
    simp only [finds_iff, Document.find?_join, Option.bind_eq_some_iff]
  · intro key hnot printed
    exact Proofs.get_of_find?_none (find?_eq_none_of_not_finds hnot) printed

/-- A table in a table, with an entry under the empty name. -/
def nestedTable : Document :=
  .table [("tool", .table [("", .integer 1), ("name", .text "atlas")])]

/-- A key that ends in a dot leads to the entry under the empty name, and no key leads into a text. -/
theorem lookup_in_nestedTable :
    ('.' ∉ "tool".toList ∧ ∃ u, Finds nestedTable "tool" u ∧ Finds u "" (.integer 1))
      ∧ Finds nestedTable ("tool" ++ "." ++ "") (.integer 1)
      ∧ (∀ v, ¬ Finds nestedTable "tool.name.x" v)
      ∧ Config.get nestedTable "tool.name.x" "" = (.ok Document.empty, missingKeyNotice) := by
  obtain ⟨-, -, hentry, hjoin, hreport⟩ := lookup_composes nestedTable
  have hdot : '.' ∉ "tool".toList := by simp
  have htool := (hentry "tool" _ hdot).mpr ⟨_, rfl, rfl⟩
  have hempty : Finds (.table [("", .integer 1), ("name", .text "atlas")]) "" (.integer 1) :=
    finds_iff.mpr rfl
  have hnot : ∀ v, ¬ Finds nestedTable "tool.name.x" v := by
    intro v hv
    have hnone : nestedTable.find? "tool.name.x" = none := rfl
    rw [finds_iff, hnone] at hv
    simp at hv
  exact ⟨⟨hdot, _, htool, hempty⟩, (hjoin "tool" "" _).mpr ⟨_, htool, hempty⟩, hnot, hreport _ hnot ""⟩

end Config

end ClassAtlas
