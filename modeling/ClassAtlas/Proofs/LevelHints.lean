import ClassAtlas.Diagram
import Mathlib.Logic.ExistsUnique
import Mathlib.Logic.Relation

/-!
# Hints for levels

The hints put every class that others inherit from on the first level, and every class that inherits on the
second one. A hint can be read in one way only (`levelLine_injective`), so `defines_levelHints_iff` says
which levels a class gets: both of them if it stands in the middle of a chain of three. The hints are
consistent exactly if there is no such chain (`levels_consistent_iff`).
-/

namespace ClassAtlas

/-- The one class inherits from the other. -/
def ClassGraph.Inherits (g : ClassGraph) (child parent : String) : Prop :=
  ⟨child, parent, .inheritance⟩ ∈ g.relations

theorem ClassGraph.inherits_of_mem {g : ClassGraph} {r : Relation} (hr : r ∈ g.relations)
    (hkind : r.kind = .inheritance) : g.Inherits r.source r.target := by
  unfold Inherits
  rw [← hkind]
  exact hr

/-- Inheritance has no cycles where every class has a greater rank than those that it inherits from. -/
theorem ClassGraph.acyclic_of_rank {g : ClassGraph} (rank : String → Nat)
    (h : ∀ child parent, g.Inherits child parent → rank parent < rank child) (name : String) :
    ¬ Relation.TransGen g.Inherits name name := by
  have hpath : ∀ child ancestor, Relation.TransGen g.Inherits child ancestor →
      rank ancestor < rank child := by
    intro child ancestor hpath
    induction hpath with
    | single hstep => exact h _ _ hstep
    | tail _ hstep ih => exact Nat.lt_trans (h _ _ hstep) ih
  intro hcycle
  exact Nat.lt_irrefl _ (hpath name name hcycle)

namespace Diagram

open ClassGraph

/-! ## Reading a hint -/

/-- The hint that puts a class on a level. -/
def levelLine (name : String) (level : Nat) : String :=
  "!define " ++ name ++ "_LEVEL " ++ toString level

theorem blank_not_mem_toString (n : Nat) : ' ' ∉ (toString n).toList := by
  intro hblank
  rw [Nat.toString_eq_ofList_toDigits, String.toList_ofList] at hblank
  exact absurd (Nat.isDigit_of_mem_toDigits (by decide) (by decide) hblank) (by decide)

/-- What stands behind the last occurrence of a character is determined by the whole. -/
theorem append_cons_inj {c : Char} {xs ys back other : List Char} (hback : c ∉ back) (hother : c ∉ other)
    (h : xs ++ c :: back = ys ++ c :: other) : xs = ys ∧ back = other := by
  have hsame : c :: back = c :: other := by
    rcases List.suffix_or_suffix_of_suffix ⟨xs, h⟩ ⟨ys, rfl⟩ with hsuffix | hsuffix
    · rcases List.suffix_cons_iff.mp hsuffix with he | hlater
      · exact he
      · exact absurd (hlater.subset List.mem_cons_self) hother
    · rcases List.suffix_cons_iff.mp hsuffix with he | hlater
      · exact he.symm
      · exact absurd (hlater.subset List.mem_cons_self) hback
  rw [hsame] at h
  exact ⟨List.append_cancel_right h, (List.cons.inj hsame).2⟩

/-- **A hint can be read in one way only**, whatever the class is called. -/
theorem levelLine_injective {a b : String} {i j : Nat} (h : levelLine a i = levelLine b j) :
    a = b ∧ i = j := by
  have hshape : ∀ (name : String) (level : Nat), (levelLine name level).toList
      = ("!define " ++ name ++ "_LEVEL").toList ++ ' ' :: (toString level).toList := by
    intro name level
    simp [levelLine]
  have hchars := congrArg String.toList h
  rw [hshape, hshape] at hchars
  -- the level is what stands behind the last blank
  obtain ⟨hfront, hlevel⟩ :=
    append_cons_inj (blank_not_mem_toString i) (blank_not_mem_toString j) hchars
  have hname := String.toList_inj.mp hfront
  refine ⟨(String.append_right_inj _).mp ((String.append_left_inj _).mp hname), ?_⟩
  have hvalue := congrArg (fun digits => Nat.ofDigitChars 10 digits 0) hlevel
  simpa [Nat.toString_eq_ofList_toDigits] using hvalue

/-! ## Levels -/

/-- The hints put the class on the level. -/
def Defines (hints : List String) (name : String) (level : Nat) : Prop :=
  levelLine name level ∈ hints

/-- The hints give levels to all classes that inherit or are inherited from. -/
structure Consistent (g : ClassGraph) (hints : List String) : Prop where
  /-- Each of them has one level. -/
  one_level : ∀ child parent, g.Inherits child parent →
    (∃! level, Defines hints child level) ∧ ∃! level, Defines hints parent level
  /-- A class stands on a greater level than those that it inherits from. -/
  below : ∀ child parent, g.Inherits child parent →
    ∀ upper lower, Defines hints parent upper → Defines hints child lower → upper < lower

theorem mem_levelHints_iff {g : ClassGraph} {hint : String} :
    hint ∈ levelHints g.relations
      ↔ ∃ child parent, g.Inherits child parent ∧ (hint = levelLine parent 1 ∨ hint = levelLine child 2) := by
  have hline : ∀ (level : Nat) (ending : String), "_LEVEL " ++ toString level = ending →
      ∀ name, "!define " ++ name ++ ending = levelLine name level := by
    intro level ending hending name
    rw [← hending, levelLine, String.append_assoc, String.append_assoc, String.append_assoc]
  have hone := hline 1 "_LEVEL 1" rfl
  have htwo := hline 2 "_LEVEL 2" rfl
  simp only [levelHints, Ordered.mem_insertAll, List.mem_append, List.mem_map, List.mem_filter,
    decide_eq_true_eq, List.not_mem_nil, or_false, hone, htwo]
  constructor
  · rintro (⟨r, ⟨hr, hkind⟩, rfl⟩ | ⟨r, ⟨hr, hkind⟩, rfl⟩)
    · exact ⟨r.source, r.target, inherits_of_mem hr hkind, Or.inl rfl⟩
    · exact ⟨r.source, r.target, inherits_of_mem hr hkind, Or.inr rfl⟩
  · rintro ⟨child, parent, hinherits, rfl | rfl⟩
    · exact Or.inl ⟨_, ⟨hinherits, rfl⟩, rfl⟩
    · exact Or.inr ⟨_, ⟨hinherits, rfl⟩, rfl⟩

/-- **Parents are on the first level, children on the second one.** -/
theorem defines_levelHints_iff {g : ClassGraph} {name : String} {level : Nat} :
    Defines (levelHints g.relations) name level
      ↔ (level = 1 ∧ ∃ child, g.Inherits child name) ∨ (level = 2 ∧ ∃ parent, g.Inherits name parent) := by
  rw [Defines, mem_levelHints_iff]
  constructor
  · rintro ⟨child, parent, hinherits, hline | hline⟩
    · obtain ⟨rfl, rfl⟩ := levelLine_injective hline
      exact Or.inl ⟨rfl, child, hinherits⟩
    · obtain ⟨rfl, rfl⟩ := levelLine_injective hline
      exact Or.inr ⟨rfl, parent, hinherits⟩
  · rintro (⟨rfl, child, hinherits⟩ | ⟨rfl, parent, hinherits⟩)
    · exact ⟨child, name, hinherits, Or.inl rfl⟩
    · exact ⟨name, parent, hinherits, Or.inr rfl⟩

/-- A class in the middle of a chain has both levels, so the hints are not consistent. -/
theorem not_consistent_of_chain {g : ClassGraph} {child middle parent : String}
    (hchild : g.Inherits child middle) (hparent : g.Inherits middle parent) :
    ¬ Consistent g (levelHints g.relations) := by
  intro hconsistent
  have hone : Defines (levelHints g.relations) middle 1 :=
    defines_levelHints_iff.mpr (Or.inl ⟨rfl, child, hchild⟩)
  have htwo : Defines (levelHints g.relations) middle 2 :=
    defines_levelHints_iff.mpr (Or.inr ⟨rfl, parent, hparent⟩)
  have hsame := (hconsistent.one_level child middle hchild).2.unique hone htwo
  exact absurd hsame (by decide)

section
variable {g : ClassGraph} {child parent : String} {level : Nat}

theorem defines_parent_iff (hchild : g.Inherits child parent) (htop : ∀ above, ¬ g.Inherits parent above) :
    Defines (levelHints g.relations) parent level ↔ level = 1 := by
  rw [defines_levelHints_iff]
  constructor
  · rintro (⟨hlevel, -⟩ | ⟨-, above, habove⟩)
    · exact hlevel
    · exact absurd habove (htop above)
  · intro hlevel
    exact Or.inl ⟨hlevel, child, hchild⟩

theorem defines_child_iff (hparent : g.Inherits child parent) (hbottom : ∀ below, ¬ g.Inherits below child) :
    Defines (levelHints g.relations) child level ↔ level = 2 := by
  rw [defines_levelHints_iff]
  constructor
  · rintro (⟨-, below, hbelow⟩ | ⟨hlevel, -⟩)
    · exact absurd hbelow (hbottom below)
    · exact hlevel
  · intro hlevel
    exact Or.inr ⟨hlevel, parent, hparent⟩

end

theorem consistent_levelHints {g : ClassGraph}
    (h : ∀ child middle parent, g.Inherits child middle → ¬ g.Inherits middle parent) :
    Consistent g (levelHints g.relations) := by
  have hlevels : ∀ child parent, g.Inherits child parent → ∀ level,
      (Defines (levelHints g.relations) child level ↔ level = 2)
        ∧ (Defines (levelHints g.relations) parent level ↔ level = 1) := by
    intro child parent hinherits level
    have htop : ∀ above, ¬ g.Inherits parent above := fun above => h child parent above hinherits
    have hbottom : ∀ below, ¬ g.Inherits below child := by
      intro below hbelow
      exact h below child parent hbelow hinherits
    exact ⟨defines_child_iff hinherits hbottom, defines_parent_iff hinherits htop⟩
  constructor
  · intro child parent hinherits
    have hlevel := hlevels child parent hinherits
    exact ⟨⟨2, (hlevel 2).1.mpr rfl, fun level => (hlevel level).1.mp⟩,
      ⟨1, (hlevel 1).2.mpr rfl, fun level => (hlevel level).2.mp⟩⟩
  · intro child parent hinherits upper lower hupper hlower
    have hlevel := hlevels child parent hinherits
    have hone : upper = 1 := (hlevel upper).2.mp hupper
    have htwo : lower = 2 := (hlevel lower).1.mp hlower
    omega

/--
**The hints are consistent iff no class stands in the middle of a chain of three.**

Every class that others inherit from is put on the first level, every class that inherits on the second
one, each by one hint, and there are no other hints. So each class has one level, and a greater one than
those that it inherits from, exactly if no class both inherits and is inherited from.
-/
theorem levels_consistent_iff (g : ClassGraph) :
    (levelHints g.relations).Nodup
      ∧ (∀ hint ∈ levelHints g.relations, ∃ name level, hint = levelLine name level)
      ∧ (∀ name level, Defines (levelHints g.relations) name level
        ↔ (level = 1 ∧ ∃ child, g.Inherits child name) ∨ (level = 2 ∧ ∃ parent, g.Inherits name parent))
      ∧ (Consistent g (levelHints g.relations)
        ↔ ∀ child middle parent, g.Inherits child middle → ¬ g.Inherits middle parent) := by
  refine ⟨Ordered.nodup_insertAll List.nodup_nil, ?_, fun name level => defines_levelHints_iff, ?_,
    consistent_levelHints⟩
  · intro hint hhint
    obtain ⟨child, parent, -, hline | hline⟩ := mem_levelHints_iff.mp hhint
    · exact ⟨parent, 1, hline⟩
    · exact ⟨child, 2, hline⟩
  · intro hconsistent child middle parent hchild hparent
    exact not_consistent_of_chain hchild hparent hconsistent

/-- A class with a child and a grandchild. -/
def threeGenerations : ClassGraph where
  nodes := [{ name := "Animal" }, { name := "Bird" }, { name := "Crow" }]
  relations := [⟨"Bird", "Animal", .inheritance⟩, ⟨"Crow", "Bird", .inheritance⟩]

/-- **The class in the middle gets two levels**, though there is no cycle. -/
theorem bird_on_two_levels :
    (∀ name, ¬ Relation.TransGen threeGenerations.Inherits name name)
      ∧ levelHints threeGenerations.relations
        = ["!define Animal_LEVEL 1", "!define Bird_LEVEL 1", "!define Bird_LEVEL 2", "!define Crow_LEVEL 2"]
      ∧ ¬ Consistent threeGenerations (levelHints threeGenerations.relations) := by
  have hbird : threeGenerations.Inherits "Bird" "Animal" := by simp [Inherits, threeGenerations]
  have hcrow : threeGenerations.Inherits "Crow" "Bird" := by simp [Inherits, threeGenerations]
  refine ⟨acyclic_of_rank (fun name => if name = "Animal" then 0 else if name = "Bird" then 1 else 2) ?_,
    by decide +kernel, not_consistent_of_chain hcrow hbird⟩
  intro child parent hinherits
  rcases List.mem_cons.mp hinherits with he | hmem
  · cases he
    decide
  · cases List.mem_singleton.mp hmem
    decide

end Diagram

end ClassAtlas
