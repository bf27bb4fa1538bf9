import ClassAtlas.Proofs.PathNames
import Mathlib.Data.List.DropRight

/-!
# Names that survive trimming

The names of a path are read off its text after all dots and slashes at both ends are gone. So names that
were joined by slashes are found again iff the joined text has no dot at either end
(`names_joinNames_eq_iff`). Whatever trimming does to names of files, what is left are names of files
(`isFileName_of_mem_names_joinNames`). The last name of a path is found if it has no dot at either end,
whatever dots and slashes follow it (`lastName?_of_last_move`).
-/

namespace ClassAtlas.Path

/-- A name that something in a directory can have. -/
structure IsFileName (name : String) : Prop extends IsName name where
  ne_dot : name ≠ "."
  ne_dots : name ≠ ".."

/-- No dot stands at either end of the text. -/
structure Undotted (text : String) : Prop where
  head : text.toList.head? ≠ some '.'
  last : text.toList.getLast? ≠ some '.'

/-! ## Cutting -/

section
variable {sep : Char} {cs : List Char}

/-- Cutting takes out the separators and nothing else. -/
theorem flatten_splitOn (sep : Char) (cs : List Char) :
    (cs.splitOn sep).flatten = cs.filter (· != sep) := by
  induction cs with
  | nil => rfl
  | cons c rest ih =>
    rw [List.splitOn_cons_eq_if_modifyHead, List.filter_cons]
    by_cases hc : c = sep
    · simp [hc, ih]
    · obtain ⟨first, more, hcut⟩ := List.exists_cons_of_ne_nil (List.splitOn_ne_nil sep rest)
      rw [if_neg (by simpa using hc), if_pos (by simpa using hc), ← ih, hcut]
      rfl

theorem intercalate_cons_eq (first : List Char) (rest : List (List Char)) :
    [sep].intercalate (first :: rest) = first ++ rest.flatMap (sep :: ·) := by
  induction rest generalizing first with
  | nil => simp
  | cons next rest ih =>
    rw [List.intercalate_cons_cons, ih]
    simp

theorem intercalate_append_cons (before after : List (List Char)) (piece : List Char) :
    [sep].intercalate (before ++ piece :: after)
      = before.flatMap (· ++ [sep]) ++ piece ++ after.flatMap (sep :: ·) := by
  induction before with
  | nil => exact intercalate_cons_eq piece after
  | cons first rest ih =>
    obtain ⟨next, more, hmore⟩ := List.exists_cons_of_ne_nil (show rest ++ piece :: after ≠ [] by simp)
    rw [List.cons_append, hmore, List.intercalate_cons_cons, ← hmore, ih]
    simp

/-- A piece has a separator, or an end of the text, on either side. -/
theorem eq_of_splitOn {before after : List (List Char)} {piece : List Char}
    (h : cs.splitOn sep = before ++ piece :: after) :
    cs = before.flatMap (· ++ [sep]) ++ piece ++ after.flatMap (sep :: ·) := by
  rw [← intercalate_append_cons, ← h, List.intercalate_splitOn]

end

/-! ## Trimming -/

theorem trim_eq (cs : List Char) :
    trim cs = (cs.dropWhile isDotOrSlash).rdropWhile isDotOrSlash := rfl

/-- What trimming takes away is dots and slashes. -/
theorem exists_trim (cs : List Char) : ∃ front back, cs = front ++ trim cs ++ back
    ∧ (∀ c ∈ front, isDotOrSlash c = true) ∧ ∀ c ∈ back, isDotOrSlash c = true := by
  refine ⟨cs.takeWhile isDotOrSlash, (cs.dropWhile isDotOrSlash).rtakeWhile isDotOrSlash, ?_,
    fun c hc => List.mem_takeWhile_imp hc, fun c hc => List.mem_rtakeWhile_imp hc⟩
  rw [trim_eq, List.append_assoc, List.rdropWhile_append_rtakeWhile, List.takeWhile_append_dropWhile]

/-- Is a dot or slash at neither end of the text? -/
def Trimmed (cs : List Char) : Prop :=
  (∀ c ∈ cs.head?, isDotOrSlash c = false) ∧ ∀ c ∈ cs.getLast?, isDotOrSlash c = false

/-- Trimming takes away all dots and slashes around a text. -/
theorem trim_of_split {front core back : List Char} (hfront : ∀ c ∈ front, isDotOrSlash c = true)
    (hcore : Trimmed core) (hback : ∀ c ∈ back, isDotOrSlash c = true) :
    trim (front ++ core ++ back) = core := by
  rw [trim_eq, List.append_assoc, List.dropWhile_append_of_pos hfront]
  cases core with
  | nil =>
    rw [List.nil_append, List.dropWhile_eq_nil_iff.mpr hback]
    rfl
  | cons c rest =>
    have hfirst : isDotOrSlash c = false := hcore.1 c rfl
    have hlast : isDotOrSlash ((c :: rest).getLast (List.cons_ne_nil c rest)) = false :=
      hcore.2 _ (List.getLast?_eq_some_getLast (List.cons_ne_nil c rest))
    rw [List.cons_append, List.dropWhile_cons_of_neg (by simp [hfirst]), ← List.cons_append,
      List.rdropWhile, List.reverse_append,
      List.dropWhile_append_of_pos fun d hd => hback d (List.mem_reverse.mp hd), ← List.rdropWhile]
    exact List.rdropWhile_eq_self_iff.mpr fun _ => by simp [hlast]

theorem trimmed_trim (cs : List Char) : Trimmed (trim cs) := by
  constructor
  · intro c hc
    obtain ⟨back, hback⟩ : trim cs <+: cs.dropWhile isDotOrSlash := List.rdropWhile_prefix _ _
    obtain ⟨rest, hrest⟩ := List.head?_eq_some_iff.mp hc
    have hnot := List.head?_dropWhile_not isDotOrSlash cs
    rw [← hback, hrest] at hnot
    simpa using hnot
  · intro c hc
    have hne : trim cs ≠ [] := by
      intro hempty
      rw [hempty] at hc
      exact absurd hc (by simp)
    have hnot : ¬ isDotOrSlash ((trim cs).getLast hne) = true := List.rdropWhile_last_not _ _ hne
    rw [Option.mem_def, List.getLast?_eq_some_getLast hne, Option.some.injEq] at hc
    rw [hc] at hnot
    simpa using hnot

/-! ## Names -/

/-- The names without the slashes are what is left of the text without its slashes. -/
theorem flatten_nameChars (cs : List Char) : (nameChars cs).flatten = (trim cs).filter (· != '/') := by
  rw [nameChars, List.flatten_filter_not_isEmpty, flatten_splitOn]

/-- A name of nothing but dots has a slash on either side. -/
theorem mem_splitOn_of_dots {cs piece : List Char} (h : piece ∈ nameChars cs) (hdots : ∀ c ∈ piece, c = '.') :
    piece ∈ cs.splitOn '/' := by
  obtain ⟨hpiece, hfull⟩ := List.mem_filter.mp h
  have hne : piece ≠ [] := by simpa using hfull
  obtain ⟨before, after, hcut⟩ := List.append_of_mem hpiece
  have htext := eq_of_splitOn hcut
  obtain ⟨hhead, hlast⟩ := trimmed_trim cs
  obtain ⟨front, back, hcs, -, -⟩ := exists_trim cs
  -- at an end of the text it would have been taken away
  have hbefore : before ≠ [] := by
    rintro rfl
    have hfirst := hdots _ (List.head_mem hne)
    have hdot := hhead (piece.head hne) (by rw [htext]; simp [List.head?_append, List.head?_eq_some_head hne])
    rw [hfirst] at hdot
    exact absurd hdot (by decide)
  have hafter : after ≠ [] := by
    rintro rfl
    have hfinal := hdots _ (List.getLast_mem hne)
    have hdot := hlast (piece.getLast hne)
      (by rw [htext]; simp [List.getLast?_append, List.getLast?_eq_some_getLast hne])
    rw [hfinal] at hdot
    exact absurd hdot (by decide)
  obtain ⟨before, final, rfl⟩ := (List.eq_nil_or_concat' before).resolve_left hbefore
  obtain ⟨next, after, rfl⟩ := List.exists_cons_of_ne_nil hafter
  have hsplit : cs = (front ++ before.flatMap (· ++ ['/']) ++ final) ++ '/' ::
      (piece ++ '/' :: (next ++ after.flatMap ('/' :: ·) ++ back)) := by
    rw [hcs, htext]
    simp
  rw [hsplit, List.splitOn_append_cons_self, List.splitOn_append_cons_self,
    List.splitOn_eq_singleton (sep_not_mem_of_mem_splitOn hpiece)]
  simp

/-- **A path has no names iff it is made of dots and slashes.** -/
theorem names_eq_nil_iff (path : String) :
    names path = [] ↔ ∀ c ∈ path.toList, isDotOrSlash c = true := by
  rw [names, List.map_eq_nil_iff]
  constructor
  · intro hnone
    obtain ⟨front, back, htext, hfront, hback⟩ := exists_trim path.toList
    -- what is left are slashes, but a slash in front would have been trimmed
    have hslashes : (trim path.toList).filter (· != '/') = [] := by
      rw [← flatten_nameChars, hnone]
      rfl
    have hempty : trim path.toList = [] := by
      cases hcs : trim path.toList with
      | nil => rfl
      | cons c rest =>
        rw [hcs] at hslashes
        have hslash : c = '/' := by simpa using List.filter_eq_nil_iff.mp hslashes c List.mem_cons_self
        have hbody := (trimmed_trim path.toList).1 c (by rw [hcs]; rfl)
        rw [hslash] at hbody
        exact absurd hbody (by decide)
    intro c hc
    rw [htext, hempty, List.append_nil] at hc
    rcases List.mem_append.mp hc with hmem | hmem
    · exact hfront c hmem
    · exact hback c hmem
  · intro hall
    have htrim : trim (path.toList ++ [] ++ []) = [] := trim_of_split hall ⟨by simp, by simp⟩ (by simp)
    rw [List.append_nil, List.append_nil] at htrim
    rw [nameChars, htrim]
    rfl

theorem toList_joinNames (ns : List String) :
    (joinNames ns).toList = ['/'].intercalate (ns.map String.toList) :=
  String.toList_intercalate

section
variable {ns : List String}

/-- Joined names are cut apart again. -/
theorem splitOn_joinNames (h : ∀ name ∈ ns, IsName name) (hne : ns ≠ []) :
    (joinNames ns).toList.splitOn '/' = ns.map String.toList := by
  rw [toList_joinNames]
  refine List.splitOn_intercalate '/' ?_ (mt List.map_eq_nil_iff.mp hne)
  intro cs hcs
  obtain ⟨name, hname, rfl⟩ := List.mem_map.mp hcs
  exact (h name hname).no_slash

theorem pieces_joinNames (h : ∀ name ∈ ns, IsName name) (hne : ns ≠ []) : pieces (joinNames ns) = ns := by
  rw [pieces, splitOn_joinNames h hne]
  simp

/-- Joined names begin as the first of them does. -/
theorem head?_joinNames {first : String} (h : first ≠ "") (rest : List String) :
    (joinNames (first :: rest)).toList.head? = first.toList.head? := by
  rw [toList_joinNames, List.map_cons, intercalate_cons_eq,
    List.head?_append_of_ne_nil _ (mt String.toList_eq_nil_iff.mp h)]

/-- Joined names end as the last of them does. -/
theorem getLast?_joinNames {final : String} (h : final ≠ "") (front : List String) :
    (joinNames (front ++ [final])).toList.getLast? = final.toList.getLast? := by
  rw [toList_joinNames, List.map_append, List.map_singleton, intercalate_append_cons, List.flatMap_nil,
    List.append_nil, List.getLast?_append_of_ne_nil _ (mt String.toList_eq_nil_iff.mp h)]

theorem head?_joinNames_ne (h : ∀ name ∈ ns, IsName name) : (joinNames ns).toList.head? ≠ some '/' := by
  intro hslash
  cases ns with
  | nil => exact absurd hslash (by simp [toList_joinNames])
  | cons first rest =>
    have hname := h first List.mem_cons_self
    rw [head?_joinNames hname.ne_empty] at hslash
    exact hname.no_slash (List.mem_of_mem_head? hslash)

theorem getLast?_joinNames_ne (h : ∀ name ∈ ns, IsName name) :
    (joinNames ns).toList.getLast? ≠ some '/' := by
  intro hslash
  rcases List.eq_nil_or_concat' ns with rfl | ⟨front, final, rfl⟩
  · exact absurd hslash (by simp [toList_joinNames])
  · have hname := h final (by simp)
    rw [getLast?_joinNames hname.ne_empty] at hslash
    exact hname.no_slash (List.mem_of_getLast? hslash)

/-- Only dots can be trimmed from joined names. -/
theorem trimmed_joinNames_iff (h : ∀ name ∈ ns, IsName name) :
    Trimmed (joinNames ns).toList ↔ Undotted (joinNames ns) := by
  have hbody : ∀ c : Char, isDotOrSlash c = false ↔ c ≠ '.' ∧ c ≠ '/' := by
    intro c
    rw [isDotOrSlash, Bool.or_eq_false_iff, beq_eq_false_iff_ne, beq_eq_false_iff_ne]
  constructor
  · rintro ⟨hhead, hlast⟩
    exact ⟨fun hdot => ((hbody '.').mp (hhead '.' hdot)).1 rfl,
      fun hdot => ((hbody '.').mp (hlast '.' hdot)).1 rfl⟩
  · rintro ⟨hhead, hlast⟩
    refine ⟨fun c hc => (hbody c).mpr ⟨?_, ?_⟩, fun c hc => (hbody c).mpr ⟨?_, ?_⟩⟩
    · exact fun hdot => hhead (hdot ▸ hc)
    · exact fun hslash => head?_joinNames_ne h (hslash ▸ hc)
    · exact fun hdot => hlast (hdot ▸ hc)
    · exact fun hslash => getLast?_joinNames_ne h (hslash ▸ hc)

theorem map_toList_map_ofList (l : List (List Char)) : (l.map String.ofList).map String.toList = l := by
  have hid : String.toList ∘ String.ofList = id := funext fun cs => String.toList_ofList
  rw [List.map_map, hid, List.map_id]

theorem nameChars_of_names {path : String} (hsame : names path = ns) :
    nameChars path.toList = ns.map String.toList := by
  rw [← hsame, names, map_toList_map_ofList]

/-- **Joined names are found again iff no dot is at either end.** -/
theorem names_joinNames_eq_iff (h : ∀ name ∈ ns, IsName name) (hne : ns ≠ []) :
    names (joinNames ns) = ns ↔ Undotted (joinNames ns) := by
  rw [← trimmed_joinNames_iff h]
  constructor
  · intro hsame
    obtain ⟨front, back, htext, -, -⟩ := exists_trim (joinNames ns).toList
    -- all characters but the slashes are still there, so only slashes can have been taken away
    have hkept : (trim (joinNames ns).toList).filter (· != '/')
        = (joinNames ns).toList.filter (· != '/') := by
      rw [← flatten_nameChars, nameChars_of_names hsame, ← splitOn_joinNames h hne, flatten_splitOn]
    have hlength := congrArg List.length hkept
    conv at hlength => rhs; rw [htext]
    simp only [List.filter_append, List.length_append] at hlength
    have hfront : front = [] := by
      have hslashes := List.filter_eq_nil_iff.mp (List.length_eq_zero_iff.mp (by omega :
        (front.filter (· != '/')).length = 0))
      cases front with
      | nil => rfl
      | cons c rest =>
        have hc : c = '/' := by simpa using hslashes c List.mem_cons_self
        exact absurd (by rw [htext, hc]; rfl) (head?_joinNames_ne h)
    have hback : back = [] := by
      have hslashes := List.filter_eq_nil_iff.mp (List.length_eq_zero_iff.mp (by omega :
        (back.filter (· != '/')).length = 0))
      rcases List.eq_nil_or_concat' back with rfl | ⟨rest, c, rfl⟩
      · rfl
      · have hc : c = '/' := by simpa using hslashes c (by simp)
        exact absurd (by rw [htext, hc, ← List.append_assoc]; simp) (getLast?_joinNames_ne h)
    rw [hfront, hback, List.nil_append, List.append_nil] at htext
    rw [htext]
    exact trimmed_trim _
  · intro htrimmed
    have htrim : trim ([] ++ (joinNames ns).toList ++ []) = (joinNames ns).toList :=
      trim_of_split (by simp) htrimmed (by simp)
    rw [List.nil_append, List.append_nil] at htrim
    have hfull : ∀ cs ∈ ns.map String.toList, (!cs.isEmpty) = true := by
      intro cs hcs
      obtain ⟨name, hname, rfl⟩ := List.mem_map.mp hcs
      simpa using (h name hname).ne_empty
    rw [names, nameChars, htrim, splitOn_joinNames h hne, List.filter_eq_self.mpr hfull]
    simp

/-- **What trimming leaves of names of files are names of files.** -/
theorem isFileName_of_mem_names_joinNames (h : ∀ name ∈ ns, IsFileName name) {name : String}
    (hmem : name ∈ names (joinNames ns)) : IsFileName name := by
  have hne : ns ≠ [] := by
    rintro rfl
    have hnone : names (joinNames []) = [] := by decide
    rw [hnone] at hmem
    exact absurd hmem List.not_mem_nil
  -- a name of nothing but dots was there before
  have hdots : (∀ c ∈ name.toList, c = '.') → name ∈ ns := by
    intro hdots
    obtain ⟨cs, hcs, rfl⟩ := List.mem_map.mp hmem
    rw [String.toList_ofList] at hdots
    have hpiece := mem_splitOn_of_dots hcs hdots
    rw [splitOn_joinNames (fun n hn => (h n hn).toIsName) hne] at hpiece
    obtain ⟨n, hn, rfl⟩ := List.mem_map.mp hpiece
    rwa [String.ofList_toList]
  refine ⟨isName_of_mem_names hmem, ?_, ?_⟩
  · rintro rfl
    exact (h _ (hdots (by simp))).ne_dot rfl
  · rintro rfl
    exact (h _ (hdots (by simp))).ne_dots rfl

end

/-! ## The last name -/

/-- The pieces of a path that lead away from where they are read. -/
def moves (path : String) : List String :=
  (pieces path).filter fun name => name != "" && name != "."

theorem split_at_last_move {path name : String} (h : (moves path).getLast? = some name) :
    ∃ before after, pieces path = before ++ name :: after ∧ ∀ piece ∈ after, piece = "" ∨ piece = "." := by
  obtain ⟨front, hfront⟩ := List.getLast?_eq_some_iff.mp h
  obtain ⟨start, rest, hpieces, -, hrest⟩ := List.filter_eq_append_iff.mp hfront
  obtain ⟨idle, after, rfl, -, -, hafter⟩ := List.filter_eq_cons_iff.mp hrest
  refine ⟨start ++ idle, after, by rw [hpieces, List.append_assoc], fun piece hpiece => ?_⟩
  have hidle := List.filter_eq_nil_iff.mp hafter piece hpiece
  by_cases hempty : piece = ""
  · exact Or.inl hempty
  · exact Or.inr (by simpa [hempty] using hidle)

/-- A slash, or nothing at all, stands in front of a piece that is cut off a trimmed text. -/
theorem dropWhile_front (before : List (List Char)) :
    (before.flatMap (· ++ ['/'])).dropWhile isDotOrSlash = []
      ∨ ∃ front, (before.flatMap (· ++ ['/'])).dropWhile isDotOrSlash = front ++ ['/'] := by
  rcases List.eq_nil_or_concat' before with rfl | ⟨rest, final, rfl⟩
  · exact Or.inl rfl
  · have hshape : (rest ++ [final]).flatMap (· ++ ['/']) = rest.flatMap (· ++ ['/']) ++ final ++ ['/'] := by
      simp
    rw [hshape, List.dropWhile_append]
    split
    · exact Or.inl rfl
    · exact Or.inr ⟨_, rfl⟩

/-- **The last name of a path is found if it has no dots at its ends, whatever dots and slashes follow.** -/
theorem lastName?_of_last_move {path name : String} (h : (moves path).getLast? = some name)
    (hname : Undotted name) : lastName? path = some name := by
  obtain ⟨before, after, hpieces, hafter⟩ := split_at_last_move h
  have hcut : path.toList.splitOn '/'
      = before.map String.toList ++ name.toList :: after.map String.toList := by
    have hchars := congrArg (List.map String.toList) hpieces
    rwa [pieces, map_toList_map_ofList, List.map_append, List.map_cons] at hchars
  have hslash : '/' ∉ name.toList := sep_not_mem_of_mem_splitOn (by rw [hcut]; simp)
  have hfull : name.toList ≠ [] := by
    have hmove := (List.mem_filter.mp (List.mem_of_getLast? h)).2
    rw [Bool.and_eq_true, bne_iff_ne] at hmove
    exact mt String.toList_eq_nil_iff.mp hmove.1
  have hbody : ∀ c ∈ name.toList, c ≠ '.' → isDotOrSlash c = false := by
    intro c hc hdot
    rw [isDotOrSlash, Bool.or_eq_false_iff, beq_eq_false_iff_ne, beq_eq_false_iff_ne]
    exact ⟨hdot, fun he => hslash (he ▸ hc)⟩
  have htail : ∀ c ∈ (after.map String.toList).flatMap ('/' :: ·), isDotOrSlash c = true := by
    intro c hc
    obtain ⟨cs, hcs, hmem⟩ := List.mem_flatMap.mp hc
    obtain ⟨piece, hpiece, rfl⟩ := List.mem_map.mp hcs
    rcases List.mem_cons.mp hmem with rfl | hmem
    · rfl
    · rcases hafter piece hpiece with rfl | rfl
      · exact absurd hmem (by simp)
      · rw [List.mem_singleton.mp hmem]
        rfl
  -- what stands in front of the name is cut off in part, but never beyond a slash
  obtain ⟨front, hfront⟩ : ∃ front, front
      = ((before.map String.toList).flatMap (· ++ ['/'])).dropWhile isDotOrSlash := ⟨_, rfl⟩
  have hcore : Trimmed (front ++ name.toList) := by
    constructor
    · intro c hc
      cases hempty : front with
      | nil =>
        rw [hempty, List.nil_append] at hc
        exact hbody c (List.mem_of_mem_head? hc) fun hdot => hname.head (hdot ▸ hc)
      | cons d rest =>
        have hnot := List.head?_dropWhile_not isDotOrSlash
          ((before.map String.toList).flatMap (· ++ ['/']))
        rw [← hfront, hempty] at hnot
        rw [hempty] at hc
        cases hc
        simpa using hnot
    · intro c hc
      rw [List.getLast?_append_of_ne_nil _ hfull] at hc
      exact hbody c (List.mem_of_getLast? hc) fun hdot => hname.last (hdot ▸ hc)
  have htrim : trim path.toList = front ++ name.toList := by
    rw [eq_of_splitOn hcut, ← List.takeWhile_append_dropWhile (p := isDotOrSlash)
      (l := (before.map String.toList).flatMap (· ++ ['/'])), ← hfront, List.append_assoc (List.takeWhile _ _)]
    exact trim_of_split (fun c hc => List.mem_takeWhile_imp hc) hcore htail
  have hlast : ∃ more, nameChars path.toList = more ++ [name.toList] := by
    rw [nameChars, htrim]
    rcases dropWhile_front (before.map String.toList) with hnone | ⟨start, hstart⟩
    · rw [hfront, hnone, List.nil_append, List.splitOn_eq_singleton hslash]
      exact ⟨[], by simp [hfull]⟩
    · rw [hfront, hstart, List.append_assoc, List.singleton_append, List.splitOn_append_cons_self,
        List.splitOn_eq_singleton hslash, List.filter_append]
      exact ⟨_, congrArg _ (by simp [hfull])⟩
  obtain ⟨more, hmore⟩ := hlast
  rw [lastName?, names, hmore, List.map_append, List.map_singleton, String.ofList_toList,
    List.getLast?_concat]

end ClassAtlas.Path
