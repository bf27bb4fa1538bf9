import ClassAtlas.Project
import ClassAtlas.Proofs.Trimming

/-!
# Normal names

Which lists of names can a path have? Those of names between slashes where no dot begins the first name and
none ends the last one; dots anywhere else stay. The names of every path are of this form
(`normalNames_names`), and a list of this form is what its names, joined by slashes, have
(`names_joinNames_of_normal`). So reading the names of a path a second time changes nothing.
-/

namespace ClassAtlas.Path

/-- The names that a path can have. -/
structure NormalNames (ns : List String) : Prop where
  /-- Each of them can stand between two slashes. -/
  isName : ∀ name ∈ ns, IsName name
  /-- No dot begins the first one. -/
  first : ∀ name ∈ ns.head?, name.toList.head? ≠ some '.'
  /-- No dot ends the last one. -/
  last : ∀ name ∈ ns.getLast?, name.toList.getLast? ≠ some '.'

/-! ## The ends of the names -/

section
variable {cs first last : List Char}

theorem ne_nil_of_mem_nameChars {piece : List Char} (h : piece ∈ nameChars cs) : piece ≠ [] := by
  simpa using (List.mem_filter.mp h).2

/-- What is left of a text that has names is not empty. -/
theorem trim_ne_nil {piece : List Char} (h : piece ∈ nameChars cs) : trim cs ≠ [] := by
  intro hempty
  rw [nameChars, hempty] at h
  exact absurd h (by simp [List.splitOn_nil])

theorem ne_slash_of_isDotOrSlash_eq_false {c : Char} (h : isDotOrSlash c = false) : (c != '/') = true := by
  rw [bne_iff_ne]
  rintro rfl
  exact absurd h (by decide)

/-- The first name begins as the trimmed text does. -/
theorem head?_first_name (h : first ∈ (nameChars cs).head?) : first.head? = (trim cs).head? := by
  have hmem := List.mem_of_mem_head? h
  obtain ⟨more, hmore⟩ := List.head?_eq_some_iff.mp h
  obtain ⟨c, rest, htrim⟩ := List.exists_cons_of_ne_nil (trim_ne_nil hmem)
  have hc : isDotOrSlash c = false := (trimmed_trim cs).1 c (by rw [htrim]; rfl)
  -- both begin the text without its slashes
  have hflat := congrArg List.head? (flatten_nameChars cs)
  rw [hmore, List.flatten_cons, List.head?_append_of_ne_nil _ (ne_nil_of_mem_nameChars hmem), htrim,
    List.filter_cons_of_pos (p := (· != '/')) (ne_slash_of_isDotOrSlash_eq_false hc)] at hflat
  rw [hflat, htrim]
  rfl

/-- The last name ends as the trimmed text does. -/
theorem getLast?_last_name (h : last ∈ (nameChars cs).getLast?) : last.getLast? = (trim cs).getLast? := by
  have hmem := List.mem_of_getLast? h
  obtain ⟨more, hmore⟩ := List.getLast?_eq_some_iff.mp h
  obtain ⟨rest, c, htrim⟩ := (List.eq_nil_or_concat' (trim cs)).resolve_left (trim_ne_nil hmem)
  have hc : isDotOrSlash c = false := (trimmed_trim cs).2 c (by rw [htrim]; simp)
  have hflat := congrArg List.getLast? (flatten_nameChars cs)
  rw [hmore, List.flatten_append, List.flatten_singleton,
    List.getLast?_append_of_ne_nil _ (ne_nil_of_mem_nameChars hmem), htrim, List.filter_append,
    List.filter_cons_of_pos (p := (· != '/')) (ne_slash_of_isDotOrSlash_eq_false hc), List.filter_nil,
    List.getLast?_concat] at hflat
  rw [hflat, htrim, List.getLast?_concat]

end

/-- **The names of a path are normal.** -/
theorem normalNames_names (path : String) : NormalNames (names path) := by
  obtain ⟨hhead, hlast⟩ := trimmed_trim path.toList
  refine ⟨fun name => isName_of_mem_names, fun name hname hdot => ?_, fun name hname hdot => ?_⟩
  · rw [names, List.head?_map, Option.mem_def, Option.map_eq_some_iff] at hname
    obtain ⟨cs, hcs, rfl⟩ := hname
    rw [String.toList_ofList, head?_first_name hcs] at hdot
    exact absurd (hhead '.' hdot) (by decide)
  · rw [names, List.getLast?_map, Option.mem_def, Option.map_eq_some_iff] at hname
    obtain ⟨cs, hcs, rfl⟩ := hname
    rw [String.toList_ofList, getLast?_last_name hcs] at hdot
    exact absurd (hlast '.' hdot) (by decide)

/-! ## Names that are joined and read again -/

/-- Joined names have a dot at an end only if the name at that end has. -/
theorem undotted_joinNames {ns : List String} (h : NormalNames ns) : Undotted (joinNames ns) := by
  constructor
  · intro hdot
    cases ns with
    | nil => exact absurd hdot (by simp [toList_joinNames])
    | cons first rest =>
      rw [head?_joinNames (h.isName first List.mem_cons_self).ne_empty] at hdot
      exact h.first first rfl hdot
  · intro hdot
    rcases List.eq_nil_or_concat' ns with rfl | ⟨front, final, rfl⟩
    · exact absurd hdot (by simp [toList_joinNames])
    · rw [getLast?_joinNames (h.isName final (by simp)).ne_empty] at hdot
      exact h.last final (by simp) hdot

/-- **Normal names are found again when they are joined.** -/
theorem names_joinNames_of_normal {ns : List String} (h : NormalNames ns) : names (joinNames ns) = ns := by
  cases ns with
  | nil => decide
  | cons first rest => exact (names_joinNames_eq_iff h.isName (by simp)).mpr (undotted_joinNames h)

/--
**The names of a path are a normal form.**

They are not empty and have no slashes in them, the first one does not begin with a dot, and the last one
does not end with one. Joined by slashes they are found again. A path has no names, and so no last name and
no tree of packages, exactly if it is made of dots and slashes; otherwise its last name is the last of its
names.
-/
theorem names_are_normal_form (path : String) :
    (∀ name ∈ names path, name ≠ "" ∧ '/' ∉ name.toList)
      ∧ (∀ name ∈ (names path).head?, name.toList.head? ≠ some '.')
      ∧ (∀ name ∈ (names path).getLast?, name.toList.getLast? ≠ some '.')
      ∧ names (joinNames (names path)) = names path
      ∧ (names path = [] ↔ ∀ c ∈ path.toList, c = '.' ∨ c = '/')
      ∧ (lastName? path = none ↔ names path = [])
      ∧ (∀ w, Project.tree w path = .error .namelessPath ↔ names path = [])
      ∧ ∀ h : names path ≠ [], lastName? path = some ((names path).getLast h) := by
  have hnormal := normalNames_names path
  have hlast : lastName? path = none ↔ names path = [] := List.getLast?_eq_none_iff
  refine ⟨fun name hname => ⟨(hnormal.isName name hname).ne_empty, (hnormal.isName name hname).no_slash⟩,
    hnormal.first, hnormal.last, names_joinNames_of_normal hnormal, ?_, hlast, fun w => ?_,
    fun h => List.getLast?_eq_some_getLast h⟩
  · rw [names_eq_nil_iff]
    simp [isDotOrSlash]
  · rw [← hlast, Project.tree]
    cases lastName? path <;> simp

/-- Dots and slashes go at the ends only; a name of a dot stays in between. -/
example : names "..//.a/./b..c//d.e./" = ["a", ".", "b..c", "d.e"] := by decide

end ClassAtlas.Path
