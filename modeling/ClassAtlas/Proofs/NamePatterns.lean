import ClassAtlas.Visibility
import Mathlib.Computability.Language

/-!
# Names by their underscores

Three patterns give the visibility of a name. A protected name is an underscore in front of a plain
start: a character other than the underscore, then word characters. A private name has two underscores
there and does not end in two. A magic name is made of word characters between two underscores at either
end. The patterns are stated as languages, and the three tests decide them (`isProtected_iff`,
`isPrivate_iff`, `isMagic_iff`).

Two underscores in front tell private and magic names from protected ones, and the end of a name tells
private names from magic ones, so no name is of two visibilities. In a name of word characters only the
first three characters, the last two and the length matter.
-/

namespace ClassAtlas.Visibility

open ClassAtlas.Text
open scoped Computability

/-! ## Patterns -/

/-- One character that passes a test. -/
def single (test : Char → Bool) : Language Char :=
  {w | ∃ c, test c = true ∧ w = [c]}

/-- A character other than the underscore, then word characters. -/
def plainStart : Language Char :=
  single (· != '_') * (single isWord)∗

/-- An underscore in front of a plain start. -/
def protectedPattern : Language Char :=
  {['_']} * plainStart

/-- Two underscores in front of a plain start. -/
def privatePattern : Language Char :=
  {['_', '_']} * plainStart

/-- Word characters, at least one, between two underscores at either end. -/
def magicPattern : Language Char :=
  {['_', '_']} * (single isWord * (single isWord)∗) * {['_', '_']}

section
variable {cs : List Char}

theorem mem_kstar_single {test : Char → Bool} :
    cs ∈ (single test)∗ ↔ ∀ c ∈ cs, test c = true := by
  constructor
  · rintro ⟨parts, rfl, hparts⟩ c hc
    obtain ⟨part, hpart, hmem⟩ := List.mem_flatten.mp hc
    obtain ⟨d, hd, rfl⟩ := hparts part hpart
    rwa [List.mem_singleton.mp hmem]
  · intro hall
    have hflat : (cs.map fun c => [c]).flatten = cs := by
      rw [← List.flatMap_def, List.flatMap_singleton']
    rw [← hflat]
    -- each character is a part of its own
    apply Language.join_mem_kstar
    intro part hpart
    obtain ⟨c, hc, rfl⟩ := List.mem_map.mp hpart
    exact ⟨c, hall c hc, rfl⟩

/-- A pattern that starts with fixed characters. -/
theorem mem_singleton_mul {front : List Char} {l : Language Char} :
    cs ∈ ({front} * l : Language Char) ↔ ∃ rest ∈ l, cs = front ++ rest := by
  rw [Language.mem_mul]
  constructor
  · rintro ⟨a, rfl, rest, hrest, rfl⟩
    exact ⟨rest, hrest, rfl⟩
  · rintro ⟨rest, hrest, rfl⟩
    exact ⟨front, rfl, rest, hrest, rfl⟩

theorem mem_plainStart :
    cs ∈ plainStart ↔ ∃ c rest, cs = c :: rest ∧ c ≠ '_' ∧ ∀ d ∈ rest, isWord d = true := by
  rw [plainStart, Language.mem_mul]
  constructor
  · rintro ⟨a, ⟨c, hc, rfl⟩, rest, hrest, rfl⟩
    exact ⟨c, rest, rfl, bne_iff_ne.mp hc, mem_kstar_single.mp hrest⟩
  · rintro ⟨c, rest, rfl, hc, hrest⟩
    exact ⟨[c], ⟨c, bne_iff_ne.mpr hc, rfl⟩, rest, mem_kstar_single.mpr hrest, rfl⟩

/-- Fixed characters in front of a plain start. -/
theorem mem_singleton_mul_plainStart {front : List Char} : cs ∈ ({front} * plainStart : Language Char) ↔
    ∃ c rest, cs = front ++ c :: rest ∧ c ≠ '_' ∧ ∀ d ∈ rest, isWord d = true := by
  rw [mem_singleton_mul]
  constructor
  · rintro ⟨start, hstart, rfl⟩
    obtain ⟨c, rest, rfl, hc, hrest⟩ := mem_plainStart.mp hstart
    exact ⟨c, rest, rfl, hc, hrest⟩
  · rintro ⟨c, rest, rfl, hc, hrest⟩
    exact ⟨c :: rest, mem_plainStart.mpr ⟨c, rest, rfl, hc, hrest⟩, rfl⟩

/-- A magic name by its middle. -/
theorem mem_magicPattern : cs ∈ magicPattern ↔
    ∃ middle, middle ≠ [] ∧ (∀ c ∈ middle, isWord c = true) ∧ cs = '_' :: '_' :: middle ++ ['_', '_'] := by
  rw [magicPattern, mul_assoc, mem_singleton_mul]
  constructor
  · rintro ⟨rest, hrest, rfl⟩
    obtain ⟨middle, hmiddle, last, rfl, rfl⟩ := Language.mem_mul.mp hrest
    obtain ⟨first, ⟨c, hc, rfl⟩, more, hmore, rfl⟩ := Language.mem_mul.mp hmiddle
    refine ⟨c :: more, List.cons_ne_nil c more, ?_, rfl⟩
    exact List.forall_mem_cons.mpr ⟨hc, mem_kstar_single.mp hmore⟩
  · rintro ⟨middle, hne, hall, rfl⟩
    obtain ⟨c, more, rfl⟩ := List.exists_cons_of_ne_nil hne
    obtain ⟨hc, hmore⟩ := List.forall_mem_cons.mp hall
    have hfirst : [c] ∈ single isWord := ⟨c, hc, rfl⟩
    have hmiddle : [c] ++ more ∈ single isWord * (single isWord)∗ :=
      Language.append_mem_mul hfirst (mem_kstar_single.mpr hmore)
    exact ⟨c :: more ++ ['_', '_'], Language.append_mem_mul hmiddle rfl, rfl⟩

/-! ## The patterns by the ends of a name -/

/-- Five characters are enough to keep the two ends of a text apart. -/
theorem between_of_ends (hlength : 5 ≤ cs.length) (hfront : ['_', '_'] <+: cs) (hback : ['_', '_'] <:+ cs) :
    ∃ middle, middle ≠ [] ∧ cs = '_' :: '_' :: middle ++ ['_', '_'] := by
  obtain ⟨rest, rfl⟩ := hfront
  have hrest : 3 ≤ rest.length := by
    simp only [List.length_append, List.length_cons, List.length_nil] at hlength
    omega
  -- the two underscores at the end lie behind those in front
  have hsuffix : ['_', '_'] <:+ rest := by
    refine List.suffix_of_suffix_length_le hback (List.suffix_append _ rest) ?_
    simp only [List.length_cons, List.length_nil]
    omega
  obtain ⟨middle, rfl⟩ := hsuffix
  refine ⟨middle, ?_, rfl⟩
  rintro rfl
  simp at hrest

theorem mem_magicPattern_iff : cs ∈ magicPattern ↔
    5 ≤ cs.length ∧ ['_', '_'] <+: cs ∧ ['_', '_'] <:+ cs ∧ ∀ c ∈ cs, isWord c = true := by
  rw [mem_magicPattern]
  constructor
  · rintro ⟨middle, hne, hall, rfl⟩
    have hpos : 0 < middle.length := List.length_pos_iff.mpr hne
    refine ⟨?_, ⟨middle ++ ['_', '_'], rfl⟩, ⟨'_' :: '_' :: middle, rfl⟩, ?_⟩
    · simp only [List.cons_append, List.length_cons, List.length_append, List.length_nil]
      omega
    · have hunderscore : isWord '_' = true := rfl
      simpa [hunderscore, or_imp, forall_and] using hall
  · rintro ⟨hlength, hfront, hback, hall⟩
    obtain ⟨middle, hne, rfl⟩ := between_of_ends hlength hfront hback
    exact ⟨middle, hne, fun c hc => hall c (by simp [hc]), rfl⟩

/-- In a text of word characters only the character behind the front decides. -/
theorem mem_singleton_mul_plainStart_iff {front : List Char} (hword : ∀ c ∈ cs, isWord c = true) :
    cs ∈ ({front} * plainStart : Language Char) ↔
      front <+: cs ∧ ∃ c, cs[front.length]? = some c ∧ c ≠ '_' := by
  rw [mem_singleton_mul_plainStart]
  constructor
  · rintro ⟨c, rest, rfl, hc, -⟩
    exact ⟨List.prefix_append front (c :: rest), c, by simp, hc⟩
  · rintro ⟨⟨back, rfl⟩, c, hat, hc⟩
    rw [List.getElem?_append_right (Nat.le_refl _), Nat.sub_self] at hat
    cases back with
    | nil => simp at hat
    | cons d rest =>
      obtain rfl : d = c := by simpa using hat
      exact ⟨d, rest, rfl, hc, fun e he => hword e (by simp [he])⟩

theorem not_prefix_of_mem_protectedPattern (h : cs ∈ protectedPattern) : ¬ ['_', '_'] <+: cs := by
  obtain ⟨c, rest, rfl, hc, -⟩ := mem_singleton_mul_plainStart.mp h
  rintro ⟨back, heq⟩
  exact hc (List.cons.inj (List.cons.inj heq).2).1.symm

theorem prefix_of_mem_privatePattern (h : cs ∈ privatePattern) : ['_', '_'] <+: cs := by
  obtain ⟨c, rest, rfl, -⟩ := mem_singleton_mul_plainStart.mp h
  exact List.prefix_append ['_', '_'] (c :: rest)

/-! ## The tests decide the patterns -/

theorem endsInTwo_iff : endsInTwo cs = true ↔ ['_', '_'] <:+ cs :=
  List.isSuffixOf_iff_suffix

theorem isProtectedChars_iff : isProtectedChars cs = true ↔ cs ∈ protectedPattern := by
  rw [protectedPattern, mem_singleton_mul_plainStart]
  constructor
  · intro h
    unfold isProtectedChars at h
    split at h
    · rename_i c rest
      obtain ⟨hc, hrest⟩ := Bool.and_eq_true_iff.mp h
      exact ⟨c, rest, rfl, bne_iff_ne.mp hc, List.all_eq_true.mp hrest⟩
    · exact absurd h Bool.false_ne_true
  · rintro ⟨c, rest, rfl, hc, hrest⟩
    exact Bool.and_eq_true_iff.mpr ⟨bne_iff_ne.mpr hc, List.all_eq_true.mpr hrest⟩

/-- Behind two underscores a plain start ends in two underscores iff the whole name does. -/
theorem suffix_behind_two_iff {c : Char} {rest : List Char} (hc : c ≠ '_') :
    ['_', '_'] <:+ '_' :: '_' :: c :: rest ↔ ['_', '_'] <:+ c :: rest := by
  constructor
  · intro h
    rcases List.suffix_cons_iff.mp h with heq | h
    · simp at heq
    · rcases List.suffix_cons_iff.mp h with heq | h
      · exact absurd (by simpa using heq : '_' = c ∧ rest = []).1.symm hc
      · exact h
  · intro h
    exact h.trans (List.suffix_append ['_', '_'] (c :: rest))

theorem isPrivateChars_iff :
    isPrivateChars cs = true ↔ cs ∈ privatePattern ∧ ¬ ['_', '_'] <:+ cs := by
  rw [privatePattern, mem_singleton_mul_plainStart]
  constructor
  · intro h
    unfold isPrivateChars at h
    split at h
    · rename_i c rest
      simp only [Bool.and_eq_true, Bool.not_eq_true', bne_iff_ne, List.all_eq_true,
        Bool.eq_false_iff, ne_eq, endsInTwo_iff] at h
      obtain ⟨⟨hc, hrest⟩, hend⟩ := h
      exact ⟨⟨c, rest, rfl, hc, hrest⟩, mt (suffix_behind_two_iff hc).mp hend⟩
    · exact absurd h Bool.false_ne_true
  · rintro ⟨⟨c, rest, rfl, hc, hrest⟩, hend⟩
    have hplain : ¬ endsInTwo (c :: rest) = true := by
      rw [endsInTwo_iff]
      exact mt (suffix_behind_two_iff hc).mpr hend
    simp only [isPrivateChars, List.cons_append, List.nil_append, Bool.and_eq_true, bne_iff_ne,
      List.all_eq_true, Bool.not_eq_true', Bool.eq_false_iff]
    exact ⟨⟨hc, hrest⟩, hplain⟩

theorem isMagicChars_iff : isMagicChars cs = true ↔ cs ∈ magicPattern := by
  rw [mem_magicPattern_iff]
  simp only [isMagicChars, Bool.and_eq_true, decide_eq_true_eq, List.isPrefixOf_iff_prefix,
    endsInTwo_iff, List.all_eq_true, and_assoc]

end

section
variable (name : String)

theorem isProtected_iff : isProtected name = true ↔ name.toList ∈ protectedPattern :=
  isProtectedChars_iff

theorem isPrivate_iff :
    isPrivate name = true ↔ name.toList ∈ privatePattern ∧ ¬ ['_', '_'] <:+ name.toList :=
  isPrivateChars_iff

theorem isMagic_iff : isMagic name = true ↔ name.toList ∈ magicPattern :=
  isMagicChars_iff

/-! ## No name falls under two patterns -/

variable {name}

theorem not_isPrivate_of_isProtected (h : isProtected name = true) : isPrivate name = false := by
  rw [isProtected_iff] at h
  rw [Bool.eq_false_iff, Ne, isPrivate_iff]
  rintro ⟨hprivate, -⟩
  exact not_prefix_of_mem_protectedPattern h (prefix_of_mem_privatePattern hprivate)

theorem not_isMagic_of_isProtected (h : isProtected name = true) : isMagic name = false := by
  rw [isProtected_iff] at h
  rw [Bool.eq_false_iff, Ne, isMagic_iff, mem_magicPattern_iff]
  rintro ⟨-, hfront, -⟩
  exact not_prefix_of_mem_protectedPattern h hfront

theorem not_isMagic_of_isPrivate (h : isPrivate name = true) : isMagic name = false := by
  obtain ⟨-, hend⟩ := (isPrivate_iff name).mp h
  rw [Bool.eq_false_iff, Ne, isMagic_iff, mem_magicPattern_iff]
  rintro ⟨-, -, hback, -⟩
  exact hend hback

variable (name)

theorem count_visibilities_le_one : [isProtected name, isPrivate name, isMagic name].count true ≤ 1 := by
  cases hprotected : isProtected name with
  | true =>
    rw [not_isPrivate_of_isProtected hprotected, not_isMagic_of_isProtected hprotected]
    decide
  | false =>
    cases hprivate : isPrivate name with
    | true =>
      rw [not_isMagic_of_isPrivate hprivate]
      decide
    | false => cases isMagic name <;> decide

/-! ## Signs -/

theorem symbol_eq_iff (c : Char) : symbol name = String.singleton c ++ name ↔ sign name = c := by
  rw [← String.toList_inj, symbol, String.toList_ofList, String.toList_append, String.toList_singleton,
    List.singleton_append, List.cons.injEq, and_iff_left rfl]

theorem sign_eq_minus_iff : sign name = '-' ↔ isPrivate name = true := by
  unfold sign
  split
  · rename_i hprivate
    exact iff_of_true rfl hprivate
  · rename_i hprivate
    refine iff_of_false ?_ hprivate
    split <;> decide

/-- A protected name is not private, so the order of the two tests does not matter. -/
theorem sign_eq_hash_iff : sign name = '#' ↔ isProtected name = true := by
  unfold sign
  split
  · rename_i hprivate
    refine iff_of_false (by decide) ?_
    intro hprotected
    exact absurd hprivate (by simp [not_isPrivate_of_isProtected hprotected])
  · split
    · rename_i hprotected
      exact iff_of_true rfl hprotected
    · rename_i hprotected
      exact iff_of_false (by decide) hprotected

theorem sign_eq_plus_iff : sign name = '+' ↔ isPrivate name = false ∧ isProtected name = false := by
  unfold sign
  cases isPrivate name <;> cases isProtected name <;> decide

/-! ## Names of word characters -/

variable {name} (hword : ∀ c ∈ name.toList, isWord c = true)
include hword

theorem isMagic_iff_of_word : isMagic name = true ↔
    5 ≤ name.length ∧ ['_', '_'] <+: name.toList ∧ ['_', '_'] <:+ name.toList := by
  rw [isMagic_iff, mem_magicPattern_iff, String.length_toList]
  constructor
  · rintro ⟨hlength, hfront, hback, -⟩
    exact ⟨hlength, hfront, hback⟩
  · rintro ⟨hlength, hfront, hback⟩
    exact ⟨hlength, hfront, hback, hword⟩

theorem isPrivate_iff_of_word : isPrivate name = true ↔ ['_', '_'] <+: name.toList
    ∧ (∃ c, name.toList[2]? = some c ∧ c ≠ '_') ∧ ¬ ['_', '_'] <:+ name.toList := by
  rw [isPrivate_iff, privatePattern, mem_singleton_mul_plainStart_iff hword, and_assoc]
  rfl

theorem isProtected_iff_of_word : isProtected name = true ↔
    ['_'] <+: name.toList ∧ ∃ c, name.toList[1]? = some c ∧ c ≠ '_' := by
  rw [isProtected_iff, protectedPattern, mem_singleton_mul_plainStart_iff hword]
  rfl

end

/-- **The underscores at the ends of a name decide who may use it.** No name is of two visibilities, and
each visibility is one pattern. A name of word characters is magic iff it has two underscores at either
end and something between, private iff something else follows its first two and not two end it, and
protected iff something else follows its first one. The sign in front tells private and protected names
from all others, so a magic name is shown as a public one. -/
theorem visibility_disjoint_and_exact (name : String) :
    [isProtected name, isPrivate name, isMagic name].count true ≤ 1
      ∧ ((isProtected name ↔ name.toList ∈ protectedPattern)
        ∧ (isPrivate name ↔ name.toList ∈ privatePattern ∧ ¬ ['_', '_'] <:+ name.toList)
        ∧ (isMagic name ↔ name.toList ∈ magicPattern))
      ∧ ((∀ c ∈ name.toList, isWord c) →
        (isMagic name ↔ 5 ≤ name.length ∧ ['_', '_'] <+: name.toList ∧ ['_', '_'] <:+ name.toList)
        ∧ (isPrivate name ↔ ['_', '_'] <+: name.toList ∧ (∃ c, name.toList[2]? = some c ∧ c ≠ '_')
          ∧ ¬ ['_', '_'] <:+ name.toList)
        ∧ (isProtected name ↔ ['_'] <+: name.toList ∧ ∃ c, name.toList[1]? = some c ∧ c ≠ '_'))
      ∧ (symbol name = "-" ++ name ↔ isPrivate name)
      ∧ (symbol name = "#" ++ name ↔ isProtected name)
      ∧ (symbol name = "+" ++ name ↔ isPrivate name = false ∧ isProtected name = false)
      ∧ (isMagic name → symbol name = "+" ++ name) := by
  have hminus := (symbol_eq_iff name '-').trans (sign_eq_minus_iff name)
  have hhash := (symbol_eq_iff name '#').trans (sign_eq_hash_iff name)
  have hplus := (symbol_eq_iff name '+').trans (sign_eq_plus_iff name)
  refine ⟨count_visibilities_le_one name, ⟨isProtected_iff name, isPrivate_iff name, isMagic_iff name⟩,
    ?_, hminus, hhash, hplus, ?_⟩
  · intro hword
    exact ⟨isMagic_iff_of_word hword, isPrivate_iff_of_word hword, isProtected_iff_of_word hword⟩
  · intro hmagic
    have hprivate : isPrivate name ≠ true := by
      intro h
      exact Bool.false_ne_true ((not_isMagic_of_isPrivate h).symm.trans hmagic)
    have hprotected : isProtected name ≠ true := by
      intro h
      exact Bool.false_ne_true ((not_isMagic_of_isProtected h).symm.trans hmagic)
    exact hplus.mpr ⟨Bool.eq_false_iff.mpr hprivate, Bool.eq_false_iff.mpr hprotected⟩

/-- Five underscores are a magic name, and one underscore at the end leaves a name private. -/
theorem visibility_of_underscores :
    ((∀ c ∈ "_____".toList, isWord c) ∧ isMagic "_____" ∧ symbol "_____" = "+_____")
      ∧ ((∀ c ∈ "__x_".toList, isWord c) ∧ isPrivate "__x_" ∧ symbol "__x_" = "-__x_") := by
  have hfive : ∀ c ∈ "_____".toList, isWord c := by simp [isWord]
  have hone : ∀ c ∈ "__x_".toList, isWord c := by
    have hx : isAlphanumeric 'x' = true := rfl
    simp [isWord, hx]
  obtain ⟨-, -, hends, -, -, -, hshown⟩ := visibility_disjoint_and_exact "_____"
  have hmagic : isMagic "_____" :=
    (hends hfive).1.mpr ⟨by decide, ⟨['_', '_', '_'], rfl⟩, ⟨['_', '_', '_'], rfl⟩⟩
  obtain ⟨-, -, hends, hminus, -⟩ := visibility_disjoint_and_exact "__x_"
  have hprivate : isPrivate "__x_" :=
    (hends hone).2.1.mpr ⟨⟨['x', '_'], rfl⟩, ⟨'x', rfl, by decide⟩, by decide⟩
  exact ⟨⟨hfive, hmagic, hshown hmagic⟩, hone, hprivate, hminus.mpr hprivate⟩

end ClassAtlas.Visibility
