import ClassAtlas.Proofs.Settings
import ClassAtlas.Proofs.Visible
import ClassAtlas.Scan
import Mathlib.Data.List.Forall2

/-!
# A scan is two passes

`Scan.analyze` visits each module as soon as it is read, numbers its calls from where the module before
ended, and in the end visits everything again. When all modules can be read this is `twoPasses` over
them, in every respect: the graph, the remembered calls, what was printed, and the fault. And an analysis that
no fault ends has printed nothing (`analyze_printed`).
-/

namespace ClassAtlas

namespace Scan

/-- A scan before it has begun. -/
def start (base : String) (config : Document) : Scan := { path := base, config := config }

/-- Visiting modules changes neither the path nor the configuration. -/
theorem visitModules_fixed (w : Workspace) (paths : List String) (s : Scan) (visited : List Outline) :
    (visitModules w paths s visited).1.path = s.path
      ∧ (visitModules w paths s visited).1.config = s.config := by
  induction paths generalizing s visited with
  | nil => exact ⟨rfl, rfl⟩
  | cons path rest ih =>
    rw [visitModules]
    cases Project.readModule w path with
    | error fault => exact ⟨rfl, rfl⟩
    | ok statements =>
      rcases hvisit : s.analysis.visitAll s.config (Outline.ofStmts s.calls statements).1 with ⟨after, _ | fault⟩
      · simp only [hvisit]
        exact ih _ _
      · simp only [hvisit, and_self]

theorem analyze_fixed (w : Workspace) (s : Scan) :
    (analyze w s).1.path = s.path ∧ (analyze w s).1.config = s.config := by
  unfold analyze
  rcases excludes s.config s.analysis.printed with ⟨found, printed⟩
  simp only
  split
  · exact ⟨rfl, rfl⟩
  · rename_i paths hpaths
    have hfixed := visitModules_fixed w paths { s with analysis := { s.analysis with printed := printed } } []
    revert hfixed
    rcases visitModules w paths { s with analysis := { s.analysis with printed := printed } } []
      with ⟨after, outlines, _ | fault⟩
    · exact id
    · exact id

end Scan

namespace Proofs

open Analysis Outline Source

/-- Outlines in two parts are visited one part after the other. -/
theorem visitAll_append (config : Document) (outlines more : List Outline) (st : Analysis) :
    visitAll config (outlines ++ more) st
      = match visitAll config outlines st with
        | (st, some fault) => (st, some fault)
        | (st, none) => visitAll config more st := by
  induction outlines generalizing st with
  | nil => rfl
  | cons o rest ih =>
    rw [List.cons_append, visitAll, visitAll]
    rcases visit config o st with ⟨after, _ | fault⟩
    · exact ih after
    · rfl

/-- Two passes are one pass over everything twice. -/
theorem visitTwice_eq_visitAll (config : Document) (outlines : List Outline) (st : Analysis) :
    visitTwice config outlines st = visitAll config (outlines ++ outlines) st := by
  rw [visitAll_append]
  rfl

/-- **Visiting modules as they are read is visiting all their statements.** -/
theorem visitModules_eq_visitAll {w : Workspace} {paths : List String} {modules : List (List Stmt)}
    (hread : List.Forall₂ (fun path m => Project.readModule w path = .ok m) paths modules) (s : Scan)
    (visited : List Outline) :
    let outlines := (ofStmts s.calls modules.flatten).1
    let result := s.visitModules w paths visited
    (result.1.analysis, result.2.2) = visitAll s.config outlines s.analysis
      ∧ result.1.config = s.config ∧ (result.2.2 = none → result.2.1 = visited ++ outlines) := by
  induction hread generalizing s visited with
  | nil => exact ⟨rfl, rfl, fun _ => (List.append_nil visited).symm⟩
  | @cons path m paths modules hpath _ ih =>
    simp only [List.flatten_cons, ofStmts_append]
    rw [Scan.visitModules, hpath]
    simp only [visitAll_append]
    rcases hfirst : visitAll s.config (ofStmts s.calls m).1 s.analysis with ⟨after, _ | fault⟩
    · -- the next module goes on from the state, the numbers and the list that this one left
      have hrest := ih { s with analysis := after, calls := (ofStmts s.calls m).2 }
        (visited ++ (ofStmts s.calls m).1)
      simp only [List.append_assoc] at hrest
      exact hrest
    · exact ⟨rfl, rfl, fun h => absurd h (by simp)⟩

/-! ## What goes through prints nothing

The only thing that an analysis prints is the report on a key that leads nowhere, and the entry that is asked
for next is then missing and ends it. -/

/-- The action prints nothing if it gives a result. -/
structure Quiet {α : Type} (a : Action α) : Prop where
  keeps : ∀ {printed v more}, a printed = (.ok v, more) → more = printed

theorem quiet_ofExcept {α : Type} (r : Except Fault α) : Quiet (Action.ofExcept r) :=
  ⟨fun h => (congrArg Prod.snd h).symm⟩

theorem quiet_bind {α β : Type} {a : Action α} {f : α → Action β} (ha : Quiet a) (hf : ∀ v, Quiet (f v)) :
    Quiet (a >>= f) := by
  refine ⟨fun {printed v more} h => ?_⟩
  rcases hrun : a printed with ⟨fault | u, middle⟩
  · rw [bind_of_error hrun] at h
    injection h with hresult
    exact absurd hresult (by simp)
  · rw [bind_of_ok hrun] at h
    exact ((hf u).keeps h).trans (ha.keeps hrun)

/-- Looking up an entry prints nothing if it is found. -/
theorem quiet_entry (config : Document) (key name : String) :
    Quiet (Config.get config key >>= fun d => Action.ofExcept (Config.entry d name)) := by
  refine ⟨fun {printed v more} h => ?_⟩
  cases hfind : config.find? key with
  | some d =>
    rw [bind_of_ok (get_of_find? hfind printed)] at h
    exact (quiet_ofExcept _).keeps h
  | none =>
    rw [bind_of_ok (get_of_find?_none hfind printed)] at h
    injection h with hresult
    exact absurd hresult (by simp [Config.entry, Document.empty])

/-- Looking up the packages to leave out prints nothing if they are found. -/
theorem excludes_printed {config : Document} {printed : String} {found : Document}
    (h : (Scan.excludes config printed).1 = .ok found) : (Scan.excludes config printed).2 = printed :=
  (quiet_entry config "exclude" "directories").keeps (Prod.ext h rfl)

theorem quiet_openClass (config : Document) (name : String) (decorators : List (Option String))
    (bases : List String) : Quiet (openClass config name decorators bases) := by
  have hrules : Quiet (classRules config) := by
    unfold classRules
    rw [← bind_assoc]
    refine quiet_bind (quiet_entry config "exception" "name") fun pattern => ?_
    rw [← bind_assoc]
    refine quiet_bind (quiet_entry config "exclude" "types") fun types => ?_
    exact quiet_bind (quiet_ofExcept _) fun skips => quiet_ofExcept (.ok _)
  refine quiet_bind hrules fun rules => quiet_bind (quiet_ofExcept _) fun skipped => ?_
  cases skipped with
  | true => exact quiet_ofExcept (.ok none)
  | false => exact quiet_bind (quiet_ofExcept _) fun node => quiet_ofExcept (.ok (some node))

theorem replay_printed (steps : List Step) (st : Analysis) : (replay steps st).printed = st.printed :=
  (congrArg Analysis.printed (situated_replay steps st)).symm

mutual

/-- **A visit that goes through prints nothing.** -/
theorem visit_printed {config : Document} : ∀ (o : Outline) {st : Analysis}, (visit config o st).2 = none →
    (visit config o st).1.printed = st.printed
  | .classDef name decorators bases calls body, st, h => by
      rw [visit] at h ⊢
      rcases hopen : openClass config name decorators bases st.printed with ⟨_ | _ | node, printed⟩
      · rw [hopen] at h
        exact absurd h (by simp)
      · exact (quiet_openClass config name decorators bases).keeps hopen
      · rw [hopen] at h
        have hprinted := (quiet_openClass config name decorators bases).keeps hopen
        have hbody := @visitAll_printed config body (enterClass { st with printed := printed } node bases)
        rcases hrun : visitAll config body (enterClass { st with printed := printed } node bases)
          with ⟨after, _ | fault⟩
        · rw [hrun, enterClass_eq_replay] at hbody
          simp only [hrun]
          exact (hbody rfl).trans hprinted
        · simp only [hrun] at h
          exact absurd h (by simp)
  | .function name types calls body, st, _ => by
      rw [visit, visitFunction_eq_replay]
      exact replay_printed _ st
  | .assign targets value calls, st, _ => by
      rw [visit, assignInClass_eq_replay]
      exact replay_printed _ st
  | .annAssign target types calls, st, _ => by
      rw [visit, annotateInClass_eq_replay]
      exact replay_printed _ st
  | .other calls body, st, h => by
      rw [visit] at h ⊢
      exact visitAll_printed body h

theorem visitAll_printed {config : Document} : ∀ (outlines : List Outline) {st : Analysis},
    (visitAll config outlines st).2 = none → (visitAll config outlines st).1.printed = st.printed
  | [], _, _ => rfl
  | o :: rest, st, h => by
      rw [visitAll] at h ⊢
      have hfirst := @visit_printed config o st
      rcases hrun : visit config o st with ⟨after, _ | fault⟩
      · rw [hrun] at h hfirst
        exact (visitAll_printed rest h).trans (hfirst rfl)
      · rw [hrun] at h
        exact absurd h (by simp)

end

theorem visitModules_printed {w : Workspace} {paths : List String} {s : Scan} {visited : List Outline}
    (h : (s.visitModules w paths visited).2.2 = none) :
    (s.visitModules w paths visited).1.analysis.printed = s.analysis.printed := by
  induction paths generalizing s visited with
  | nil => rfl
  | cons path rest ih =>
    rw [Scan.visitModules] at h ⊢
    cases hread : Project.readModule w path with
    | error fault => simp [hread] at h
    | ok statements =>
      rw [hread] at h
      have hvisit := @visitAll_printed s.config (ofStmts s.calls statements).1 s.analysis
      rcases hrun : visitAll s.config (ofStmts s.calls statements).1 s.analysis with ⟨after, _ | fault⟩
      · rw [hrun] at hvisit
        simp only [hrun] at h ⊢
        exact (ih h).trans (hvisit rfl)
      · exact absurd h (by simp [hrun])

/-- **An analysis that goes through prints nothing.** -/
theorem analyze_printed {w : Workspace} {s : Scan} (h : (s.analyze w).2 = none) :
    (s.analyze w).1.analysis.printed = s.analysis.printed := by
  unfold Scan.analyze at h ⊢
  rcases hfound : Scan.excludes s.config s.analysis.printed with ⟨excludes, printed⟩
  simp only [hfound] at h ⊢
  cases hpaths : excludes.bind (Scan.modulePaths w s.path) with
  | error fault =>
    rw [hpaths] at h
    exact absurd h (by simp)
  | ok paths =>
    -- the list of packages to leave out was found, or there would be no paths
    have hprinted : printed = s.analysis.printed := by
      cases excludes with
      | error fault => exact absurd hpaths (by simp [Except.bind])
      | ok found => exact (quiet_entry s.config "exclude" "directories").keeps hfound
    rw [hpaths] at h
    simp only [hprinted] at h ⊢
    have hmodules := @visitModules_printed w paths s []
    rcases hrun : s.visitModules w paths [] with ⟨after, outlines, _ | fault⟩
    · rw [hrun] at h hmodules
      exact (visitAll_printed outlines h).trans (hmodules rfl)
    · rw [hrun] at h
      exact absurd h (by simp)

/-! ## A scan in two passes -/

/-- **A scan of modules that can all be read is two passes over them.** -/
theorem analyze_eq_twoPasses {w : Workspace} {path : String} {config : Document} {paths : List String}
    {modules : List (List Stmt)}
    (hpaths : (Scan.excludes config "").1.bind (Scan.modulePaths w path) = .ok paths)
    (hread : List.Forall₂ (fun path m => Project.readModule w path = .ok m) paths modules) :
    ((Scan.analyze w { path := path, config := config }).1.analysis,
        (Scan.analyze w { path := path, config := config }).2) = twoPasses config modules := by
  cases hfound : (Scan.excludes config "").1 with
  | error fault => rw [hfound] at hpaths; exact absurd hpaths (by simp [Except.bind])
  | ok found =>
    have hexcludes : Scan.excludes config "" = (.ok found, "") :=
      Prod.ext hfound (excludes_printed hfound)
    rw [hfound] at hpaths
    obtain ⟨hfirst, hconfig, hvisited⟩ :=
      visitModules_eq_visitAll hread { path := path, config := config } []
    unfold Scan.analyze twoPasses visitTwice
    simp only [hexcludes, hpaths]
    rcases hrun : Scan.visitModules w paths { path := path, config := config } [] with
      ⟨s, outlines, _ | fault⟩
    · rw [hrun] at hfirst hconfig hvisited
      have houtlines : outlines = (ofStmts 0 modules.flatten).1 := hvisited rfl
      have hsame : s.config = config := hconfig
      simp only [← hfirst, houtlines, hsame]
    · rw [hrun] at hfirst
      simp only [← hfirst]

theorem graph_analyze_eq {w : Workspace} {path : String} {config : Document} {paths : List String}
    {modules : List (List Stmt)}
    (hpaths : (Scan.excludes config "").1.bind (Scan.modulePaths w path) = .ok paths)
    (hread : List.Forall₂ (fun path m => Project.readModule w path = .ok m) paths modules) :
    (Scan.analyze w (Scan.start path config)).1.graph = (twoPasses config modules).1.graph
      ∧ (Scan.analyze w (Scan.start path config)).2 = (twoPasses config modules).2 := by
  have hpasses := analyze_eq_twoPasses hpaths hread
  exact ⟨congrArg (·.1.graph) hpasses, congrArg Prod.snd hpasses⟩

end Proofs

end ClassAtlas
