import ClassAtlas.CommandLine
import ClassAtlas.Proofs.Places

/-!
# The files that diagrams are saved to

A diagram goes to the file that was asked for, or else to one that is named after the project and the moment. An
ending is put behind the name unless it has one. `destination_diagramFile` says this of the path that a run saves
to; since a made name comes with its ending, no path gets two.
-/

namespace ClassAtlas

open ClassAtlas.Path Workspace

/-! ## Endings -/

/-- The path has one of the endings for diagrams. -/
def HasEnding (path : String) : Prop :=
  ".puml".toList <:+ path.toList ∨ ".plantuml".toList <:+ path.toList

/-- The file that a diagram is saved to: the one asked for, with an ending, or else one in `outputs` that is
named after the project and the moment. -/
inductive Destination (cwd project : String) (now : Moment) : Option String → String → Prop where
  | given {output : String} : output ≠ "" → HasEnding output → Destination cwd project now (some output) output
  | completed {output : String} : output ≠ "" → ¬ HasEnding output →
      Destination cwd project now (some output) (output ++ ".puml")
  | named {output : Option String} : output = none ∨ output = some "" →
      Destination cwd project now output
        (tidy (joinAll cwd ["outputs", project ++ "_" ++ now.stamp ++ ".puml"]))

theorem diagramFile_of_hasEnding {path : String} (h : HasEnding path) : Scan.diagramFile path = path := by
  unfold Scan.diagramFile
  rw [endsWith_eq, endsWith_eq, if_pos]
  rw [Bool.or_eq_true, decide_eq_true_iff, decide_eq_true_iff]
  exact h

theorem diagramFile_of_not_hasEnding {path : String} (h : ¬ HasEnding path) :
    Scan.diagramFile path = path ++ ".puml" := by
  unfold Scan.diagramFile
  rw [endsWith_eq, endsWith_eq, if_neg]
  rw [Bool.or_eq_true, decide_eq_true_iff, decide_eq_true_iff]
  exact h

theorem hasEnding_append (front : String) : HasEnding (front ++ ".puml") := by
  refine Or.inl ?_
  rw [String.toList_append]
  exact List.suffix_append front.toList ".puml".toList

theorem hasEnding_diagramFile (path : String) : HasEnding (Scan.diagramFile path) := by
  by_cases h : HasEnding path
  · rw [diagramFile_of_hasEnding h]
    exact h
  · rw [diagramFile_of_not_hasEnding h]
    exact hasEnding_append path

/-- The last piece of a text is empty only behind a slash. -/
theorem getLast?_pieces_ne {path : String} {c : Char} (hlast : path.toList.getLast? = some c) (hc : c ≠ '/') :
    (pieces path).getLast? ≠ some "" := by
  intro hempty
  obtain ⟨front, hfront⟩ := List.getLast?_eq_some_iff.mp hempty
  obtain ⟨before, rest, hcut, -, hrest⟩ := List.map_eq_append_iff.mp hfront
  obtain ⟨piece, more, rfl, hpiece, hmore⟩ := List.map_eq_cons_iff.mp hrest
  have hnil : piece = [] := String.ofList_eq_empty_iff.mp hpiece
  have hend : more = [] := List.map_eq_nil_iff.mp hmore
  subst hnil hend
  have htext := eq_of_splitOn hcut
  rw [List.append_nil, List.flatMap_nil, List.append_nil] at htext
  -- in front of an empty last piece there is nothing, or a slash
  rcases List.eq_nil_or_concat' before with hbefore | ⟨others, last, hbefore⟩
  · rw [htext, hbefore] at hlast
    exact absurd hlast (by simp)
  · rw [htext, hbefore, List.flatMap_append, List.flatMap_singleton, ← List.append_assoc,
      List.getLast?_concat, Option.some.injEq] at hlast
    exact hc hlast.symm

theorem getLast?_pieces_of_hasEnding {path : String} (h : HasEnding path) :
    (pieces path).getLast? ≠ some "" := by
  have hlast : path.toList.getLast? = some 'l' := by
    rcases h with ⟨front, hfront⟩ | ⟨front, hfront⟩
    · rw [← hfront, List.getLast?_append_of_ne_nil _ (by simp)]
      rfl
    · rw [← hfront, List.getLast?_append_of_ne_nil _ (by simp)]
      rfl
  exact getLast?_pieces_ne hlast (by simp)

/-! ## The name of a project and a moment -/

theorem no_slash_toString (n : Nat) : '/' ∉ (toString n).toList := by
  intro hmem
  have hdigit : '/' ∈ Nat.toDigits 10 n := by simpa using hmem
  exact absurd (Nat.isDigit_of_mem_toDigits (by omega) (by omega) hdigit) (by simp)

theorem no_slash_twoDigits (n : Nat) : '/' ∉ (twoDigits n).toList := by
  unfold twoDigits
  split
  · rw [String.toList_append, List.mem_append, not_or]
    exact ⟨by simp, no_slash_toString n⟩
  · exact no_slash_toString n

theorem no_slash_stamp (now : Moment) : '/' ∉ now.stamp.toList := by
  simp only [Moment.stamp, String.toList_append, List.mem_append, not_or]
  exact ⟨⟨⟨⟨⟨⟨no_slash_toString _, no_slash_twoDigits _⟩, no_slash_twoDigits _⟩, by simp⟩,
    no_slash_twoDigits _⟩, no_slash_twoDigits _⟩, no_slash_twoDigits _⟩

theorem no_slash_baseName (path : String) : '/' ∉ (baseName path).toList := by
  unfold baseName
  rw [List.getLast?_eq_some_getLast (pieces_ne_nil path)]
  exact no_slash_of_mem_pieces (List.getLast_mem (pieces_ne_nil path))

/-- The name of a file for a diagram is a name. -/
theorem isFileName_fileName (w : Workspace) (scan : Scan) (now : Moment) :
    IsFileName (scan.fileName w now) := by
  have hslash : '/' ∉ (scan.fileName w now).toList := by
    simp only [Scan.fileName, Scan.projectName, String.toList_append, List.mem_append, not_or]
    exact ⟨⟨⟨no_slash_baseName _, by simp⟩, no_slash_stamp now⟩, by simp⟩
  -- its ending alone makes it longer than any path that leads nowhere else
  have hlength : 5 ≤ (scan.fileName w now).toList.length := by
    simp only [Scan.fileName, String.toList_append, List.length_append]
    have hending : ".puml".toList.length = 5 := rfl
    omega
  have hlong : ∀ short : String, short.toList.length < 5 → scan.fileName w now ≠ short := by
    intro short hshort hname
    rw [hname] at hlength
    omega
  exact ⟨⟨hlong "" (by simp), hslash⟩, hlong "." (by simp), hlong ".." (by simp)⟩

/-- The pieces of a path along names end with them. -/
theorem exists_pieces_joinAll (base : String) {first : String} {rest : List String}
    (h : ∀ name ∈ first :: rest, IsName name) :
    ∃ front, pieces (joinAll base (first :: rest)) = front ++ first :: rest := by
  rw [joinAll_cons base h]
  by_cases hbase : base = ""
  · subst hbase
    exact ⟨[], pieces_joinNames h (List.cons_ne_nil first rest)⟩
  · obtain ⟨front, hpieces, -⟩ := pieces_behind hbase (joinNames (first :: rest))
    rw [pieces_joinNames h (List.cons_ne_nil first rest)] at hpieces
    exact ⟨front, hpieces⟩

/-- A tidy path ends with the last name along it. -/
theorem exists_tidy_eq {path last : String} {front : List String} (hpieces : pieces path = front ++ [last])
    (hlast : IsFileName last) : ∃ start, tidy path = start ++ last := by
  have hkept : ((pieces path).filter fun name => name != "" && name != ".")
      = (front.filter fun name => name != "" && name != ".") ++ [last] := by
    rw [hpieces, List.filter_append]
    simp [hlast.ne_empty, hlast.ne_dot]
  have hjoin : ∃ start, joinNames ((pieces path).filter fun name => name != "" && name != ".")
      = start ++ last := by
    rw [hkept]
    generalize front.filter _ = kept
    refine ⟨String.ofList ((kept.map String.toList).flatMap (· ++ ['/'])), ?_⟩
    rw [← String.toList_inj, toList_joinNames, List.map_append, List.map_singleton, intercalate_append_cons,
      String.toList_append, String.toList_ofList, List.flatMap_nil, List.append_nil]
  obtain ⟨start, hstart⟩ := hjoin
  refine ⟨String.ofList (List.replicate (leadingSlashes path) '/') ++ start, ?_⟩
  unfold tidy
  simp only [hstart]
  rw [if_neg, String.append_assoc]
  intro hempty
  rw [beq_iff_eq, ← String.append_assoc] at hempty
  exact hlast.ne_empty (String.append_eq_empty_iff.mp hempty).2

/-- **The path that a run saves to has exactly one ending.** -/
theorem destination_diagramFile (w : Workspace) (scan : Scan) (now : Moment) (output : Option String) :
    Destination w.cwd (scan.projectName w) now output
      (Scan.diagramFile (CommandLine.outputPath w scan now output)) := by
  have hnamed : Scan.diagramFile (tidy (joinAll w.cwd [CommandLine.outputDirectory, scan.fileName w now]))
      = tidy (joinAll w.cwd ["outputs", scan.projectName w ++ "_" ++ now.stamp ++ ".puml"]) := by
    have hname := isFileName_fileName w scan now
    have hnames : ∀ name ∈ [CommandLine.outputDirectory, scan.fileName w now], IsName name := by
      intro name hmem
      rcases List.mem_cons.mp hmem with hdir | hfile
      · subst hdir
        exact ⟨by simp [CommandLine.outputDirectory], by simp [CommandLine.outputDirectory]⟩
      · rw [List.mem_singleton.mp hfile]
        exact hname.toIsName
    obtain ⟨front, hpieces⟩ := exists_pieces_joinAll w.cwd hnames
    rw [List.append_cons] at hpieces
    obtain ⟨start, hstart⟩ := exists_tidy_eq hpieces hname
    refine diagramFile_of_hasEnding ?_
    rw [hstart, Scan.fileName, ← String.append_assoc]
    exact hasEnding_append _
  unfold CommandLine.outputPath
  split
  · rw [hnamed]
    exact .named (Or.inl rfl)
  · rw [hnamed]
    exact .named (Or.inr rfl)
  · rename_i given hgiven
    have hfull : given ≠ "" := fun hempty => hgiven (by rw [hempty])
    by_cases hending : HasEnding given
    · rw [diagramFile_of_hasEnding hending]
      exact .given hfull hending
    · rw [diagramFile_of_not_hasEnding hending]
      exact .completed hfull hending

end ClassAtlas
