import ClassAtlas.Path

/-!
# The names along a path

A path is taken apart into names, which are not empty and have no slash in them (`isName_of_mem_names`).
Going from a path along names puts one slash in front of each, but for the first if the path ends with
one already (`joinAll_cons`). So different names lead to different paths (`joinAll_injective`).
-/

namespace ClassAtlas.Path

/-- A text that can stand between two slashes. -/
structure IsName (name : String) : Prop where
  ne_empty : name ≠ ""
  no_slash : '/' ∉ name.toList

/-- A separator is in no piece. -/
theorem sep_not_mem_of_mem_splitOn {sep : Char} {cs piece : List Char} (h : piece ∈ cs.splitOn sep) :
    sep ∉ piece := by
  induction cs generalizing piece with
  | nil =>
    rw [List.splitOn_nil, List.mem_singleton] at h
    simp [h]
  | cons c rest ih =>
    rw [List.splitOn_cons_eq_if_modifyHead] at h
    by_cases hc : c = sep
    · rw [if_pos (beq_iff_eq.mpr hc)] at h
      rcases List.mem_cons.mp h with rfl | hrest
      · simp
      · exact ih hrest
    · rw [if_neg (mt beq_iff_eq.mp hc)] at h
      -- the character belongs to the first piece of the rest
      obtain ⟨first, more, hcut⟩ := List.exists_cons_of_ne_nil (List.splitOn_ne_nil sep rest)
      rw [hcut, List.modifyHead_cons] at h
      rw [hcut] at ih
      rcases List.mem_cons.mp h with rfl | hmore
      · intro hmem
        rcases List.mem_cons.mp hmem with he | hfirst
        · exact hc he.symm
        · exact ih List.mem_cons_self hfirst
      · exact ih (List.mem_cons_of_mem first hmore)

theorem isName_of_mem_names {path name : String} (h : name ∈ names path) : IsName name := by
  obtain ⟨cs, hcs, rfl⟩ := List.mem_map.mp h
  obtain ⟨hpiece, hfull⟩ := List.mem_filter.mp hcs
  refine ⟨?_, ?_⟩
  · intro hempty
    rw [String.ofList_eq_empty_iff.mp hempty] at hfull
    exact absurd hfull (by decide)
  · rw [String.toList_ofList]
    exact sep_not_mem_of_mem_splitOn hpiece

/-! ## Slashes at the ends -/

theorem isAbsolute_eq (path : String) : isAbsolute path = decide (['/'] <+: path.toList) := by
  rw [Bool.eq_iff_iff, decide_eq_true_iff]
  exact String.startsWith_string_iff

theorem endsWith_eq (path ending : String) : path.endsWith ending = decide (ending.toList <:+ path.toList) := by
  rw [Bool.eq_iff_iff, decide_eq_true_iff, String.endsWith_eq_endsWith_toSlice,
    String.Slice.endsWith_string_iff, String.copy_toSlice]

theorem endsWith_slash_eq (path : String) : path.endsWith "/" = decide (['/'] <:+ path.toList) :=
  endsWith_eq path "/"

theorem isAbsolute_eq_false {name : String} (h : IsName name) : isAbsolute name = false := by
  rw [isAbsolute_eq, decide_eq_false_iff_not]
  intro hslash
  exact h.no_slash (hslash.subset List.mem_cons_self)

/-! ## Going along names -/

/-- What has to stand between a path and a name that follows it. -/
def separator (base : String) : String :=
  if base == "" || base.endsWith "/" then "" else "/"

theorem join_of_relative (base : String) {path : String} (h : isAbsolute path = false) :
    join base path = base ++ separator base ++ path := by
  unfold join separator
  rw [h]
  split
  · exact absurd ‹_› (by simp)
  · split
    · rw [String.append_empty]
    · rfl

theorem join_eq (base : String) {name : String} (h : IsName name) :
    join base name = base ++ separator base ++ name :=
  join_of_relative base (isAbsolute_eq_false h)

/-- Behind a name there has to be a slash. -/
theorem separator_append (front : String) {name : String} (h : IsName name) :
    separator (front ++ name) = "/" := by
  unfold separator
  have hfull : front ++ name ≠ "" := by
    intro hempty
    exact h.ne_empty (String.append_eq_empty_iff.mp hempty).2
  have hend : (front ++ name).endsWith "/" = false := by
    rw [endsWith_slash_eq, decide_eq_false_iff_not, String.toList_append]
    intro hsuffix
    have hlast : ['/'] <:+ name.toList := by
      refine List.suffix_of_suffix_length_le hsuffix (List.suffix_append _ _) ?_
      exact List.length_pos_iff.mpr (mt String.toList_eq_nil_iff.mp h.ne_empty)
    exact h.no_slash (hlast.subset List.mem_cons_self)
  rw [hend, Bool.or_false, if_neg (by simpa using hfull)]

theorem joinAll_append_name (front : String) {name : String} {rest : List String}
    (h : ∀ n ∈ name :: rest, IsName n) :
    joinAll (front ++ name) rest = front ++ joinNames (name :: rest) := by
  induction rest generalizing front name with
  | nil => rw [joinNames, String.intercalate_singleton]; rfl
  | cons next rest ih =>
    have hname := h name List.mem_cons_self
    have hnext := h next (List.mem_cons_of_mem name List.mem_cons_self)
    calc joinAll (front ++ name) (next :: rest)
        = joinAll (join (front ++ name) next) rest := rfl
      _ = joinAll (front ++ name ++ "/" ++ next) rest := by
          rw [join_eq _ hnext, separator_append front hname]
      _ = front ++ name ++ "/" ++ joinNames (next :: rest) :=
          ih (front ++ name ++ "/") fun n hn => h n (List.mem_cons_of_mem name hn)
      _ = front ++ joinNames (name :: next :: rest) := by
          rw [joinNames, joinNames, String.intercalate_cons_cons, String.append_assoc, String.append_assoc,
            String.append_assoc]

/-- **Going along names puts slashes between them.** -/
theorem joinAll_cons (base : String) {first : String} {rest : List String}
    (h : ∀ name ∈ first :: rest, IsName name) :
    joinAll base (first :: rest) = base ++ separator base ++ joinNames (first :: rest) := by
  rw [← joinAll_append_name _ h, ← join_eq base (h first List.mem_cons_self)]
  rfl

/-- Texts with a character between them that none of them holds can be told apart. -/
theorem intercalate_injective {sep : String} {c : Char} (hsep : sep.toList = [c]) {xs ys : List String}
    (hxs : ∀ x ∈ xs, c ∉ x.toList) (hys : ∀ y ∈ ys, c ∉ y.toList) (hx : xs ≠ []) (hy : ys ≠ [])
    (h : sep.intercalate xs = sep.intercalate ys) : xs = ys := by
  have hsplit : ∀ {zs : List String}, (∀ z ∈ zs, c ∉ z.toList) → zs ≠ [] →
      (sep.intercalate zs).toList.splitOn c = zs.map String.toList := by
    intro zs hzs hz
    rw [String.toList_intercalate, hsep]
    refine List.splitOn_intercalate c ?_ (mt List.map_eq_nil_iff.mp hz)
    intro cs hcs
    obtain ⟨z, hmem, rfl⟩ := List.mem_map.mp hcs
    exact hzs z hmem
  have hlists : xs.map String.toList = ys.map String.toList := by
    rw [← hsplit hxs hx, ← hsplit hys hy, h]
  exact (List.map_inj_right fun _ _ => String.toList_inj.mp).mp hlists

/-- Names with slashes between them can be told apart. -/
theorem joinNames_injective {xs ys : List String} (hxs : ∀ name ∈ xs, IsName name)
    (hys : ∀ name ∈ ys, IsName name) (hx : xs ≠ []) (hy : ys ≠ []) (h : joinNames xs = joinNames ys) :
    xs = ys :=
  intercalate_injective rfl (fun name hname => (hxs name hname).no_slash)
    (fun name hname => (hys name hname).no_slash) hx hy h

/-- **Different names lead to different paths.** -/
theorem joinAll_injective {base : String} {xs ys : List String} (hxs : ∀ name ∈ xs, IsName name)
    (hys : ∀ name ∈ ys, IsName name) (hx : xs ≠ []) (hy : ys ≠ [])
    (h : joinAll base xs = joinAll base ys) : xs = ys := by
  obtain ⟨x, xs, rfl⟩ := List.exists_cons_of_ne_nil hx
  obtain ⟨y, ys, rfl⟩ := List.exists_cons_of_ne_nil hy
  rw [joinAll_cons base hxs, joinAll_cons base hys] at h
  exact joinNames_injective hxs hys hx hy ((String.append_right_inj _).mp h)

/-! ## Absolute paths -/

theorem absolute_of_isAbsolute (cwd : String) {path : String} (h : isAbsolute path = true) :
    absolute cwd path = normal path := by
  rw [absolute, if_pos h]

theorem leadingSlashes_ne_zero {path : String} (h : isAbsolute path = true) : leadingSlashes path ≠ 0 := by
  rw [isAbsolute_eq, decide_eq_true_iff] at h
  obtain ⟨rest, hrest⟩ := h
  unfold leadingSlashes
  split
  · exact Nat.one_ne_zero
  · exact Nat.succ_ne_zero 1
  · exact Nat.one_ne_zero
  · rename_i hnone
    exact absurd hrest.symm (hnone rest)

/-- The normal form of an absolute path is absolute. -/
theorem isAbsolute_normal {path : String} (h : isAbsolute path = true) : isAbsolute (normal path) = true := by
  obtain ⟨k, hk⟩ := Nat.exists_eq_succ_of_ne_zero (leadingSlashes_ne_zero h)
  rw [isAbsolute_eq, decide_eq_true_iff, normal, hk]
  split
  · rename_i hempty
    simp [List.replicate_succ] at hempty
  · simp [List.replicate_succ]

/-- The path that leads from one absolute path to another. -/
def between (start path : String) : String :=
  let (above, below) := dropCommon (steps start) (steps path)
  match above.map (fun _ => "..") ++ below with
  | [] => "."
  | names => joinNames names

theorem relative_eq_between (cwd path start : String) :
    relative cwd path start = between (absolute cwd start) (absolute cwd path) := by
  unfold relative between
  rcases dropCommon (steps (absolute cwd start)) (steps (absolute cwd path)) with ⟨above, below⟩
  rfl

end ClassAtlas.Path
