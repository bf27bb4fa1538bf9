import ClassAtlas.Proofs.Inside
import ClassAtlas.Proofs.Relations
import ClassAtlas.Proofs.Scanning
import Mathlib.Order.Monotone.Basic

/-!
# Code outside of classes

Between two statements of a module no class is the current one, and a statement without classes then does
nothing. So such statements can be deleted from modules, and the class graph stays what it was.

Deleting a statement moves the numbers of all calls behind it. `exists_renumber` therefore says only that
the steps of a pass are those of the pass without the deleted statements, up to an injective change of
numbers, and `replay_renumber` that this makes no difference.
-/

namespace ClassAtlas.Source

/-- The statement is no plain function. -/
def Stmt.IsEntered : Stmt → Prop
  | .functionDef isAsync .. => isAsync = true
  | _ => True

/-- The statement defines a class. -/
def Stmt.IsClass : Stmt → Prop
  | .classDef .. => True
  | _ => False

/-- No class definition stands in the statement, except inside of plain functions. -/
def Stmt.IsClassless (s : Stmt) : Prop :=
  ∀ t, Stmt.Within Stmt.IsEntered s t → ¬ t.IsClass

theorem Stmt.isClassless_iff (s : Stmt) :
    s.IsClassless ↔ ¬ s.IsClass ∧ (s.IsEntered → ∀ t ∈ s.inner, t.IsClassless) := by
  constructor
  · intro h
    exact ⟨h s (.self s), fun hentered t ht u hwithin => h u (.inside hentered ht hwithin)⟩
  · intro h t hwithin
    rcases Stmt.within_iff.mp hwithin with rfl | ⟨hentered, u, hu, hwithin⟩
    · exact h.1
    · exact h.2 hentered u hu t hwithin

end ClassAtlas.Source

namespace ClassAtlas.Proofs

open ClassAtlas Analysis Outline Source

/-! ## Statements without classes -/

/-- Each of the definitions stands in one of the statements, and not inside of a plain function. -/
def StandIn (ds : List ClassDefinition) (ss : List Stmt) : Prop :=
  ∀ d ∈ ds, ∃ s ∈ ss, Stmt.Within Stmt.IsEntered s d.stmt

theorem standIn_nil (ss : List Stmt) : StandIn [] ss :=
  fun _ hd => absurd hd List.not_mem_nil

theorem StandIn.append {ds es : List ClassDefinition} {ss ts : List Stmt} (h : StandIn ds ss)
    (h' : StandIn es ts) : StandIn (ds ++ es) (ss ++ ts) := by
  intro d hd
  rcases List.mem_append.mp hd with hd | hd
  · obtain ⟨s, hs, hwithin⟩ := h d hd
    exact ⟨s, List.mem_append_left ts hs, hwithin⟩
  · obtain ⟨t, ht, hwithin⟩ := h' d hd
    exact ⟨t, List.mem_append_right ss ht, hwithin⟩

theorem StandIn.block {ds : List ClassDefinition} {s : Stmt} (h : StandIn ds s.inner)
    (hentered : s.IsEntered) : StandIn ds [s] := by
  intro d hd
  obtain ⟨t, ht, hwithin⟩ := h d hd
  exact ⟨s, List.mem_singleton_self s, .inside hentered ht hwithin⟩

section

variable (leftOut : String → Bool)

mutual

/-- **Visible definitions stand in the statement, and not inside of plain functions.** -/
theorem standIn_visible : ∀ s : Stmt, StandIn (visible leftOut s) [s]
  | .classDef name bases keywords body decorators => by
      intro d hd
      rw [visible] at hd
      split at hd
      · exact absurd hd List.not_mem_nil
      · rcases List.mem_cons.mp hd with rfl | hd
        · exact ⟨_, List.mem_singleton_self _, .self _⟩
        · have hbody : StandIn (visibleAll leftOut body)
              (Stmt.classDef name bases keywords body decorators).inner := standIn_visibleAll body
          exact hbody.block trivial d hd
  | .functionDef true name parameters body decorators returns => (standIn_visibleAll body).block rfl
  | .functionDef false name parameters body decorators returns => standIn_nil _
  | .forLoop _ target source body orElse =>
    ((standIn_visibleAll body).append (standIn_visibleAll orElse)).block trivial
  | .whileLoop test body orElse =>
    ((standIn_visibleAll body).append (standIn_visibleAll orElse)).block trivial
  | .conditional test body orElse =>
    ((standIn_visibleAll body).append (standIn_visibleAll orElse)).block trivial
  | .withBlock _ items body => (standIn_visibleAll body).block trivial
  | .matchBlock subject cases => (standIn_visibleInCases cases).block trivial
  | .tryBlock _ body handlers orElse final =>
    ((((standIn_visibleAll body).append (standIn_visibleInHandlers handlers)).append
      (standIn_visibleAll orElse)).append (standIn_visibleAll final)).block trivial
  | .returnValue _ | .delete _ | .assign _ _ | .augAssign _ _ _ | .annAssign _ _ _ | .raise _ _
  | .assert _ _ | .importModules | .importFrom | .globalNames | .nonlocalNames | .expr _ | .pass
  | .breakLoop | .continueLoop => standIn_nil _

theorem standIn_visibleAll : ∀ ss : List Stmt, StandIn (visibleAll leftOut ss) ss
  | [] => standIn_nil _
  | s :: rest => (standIn_visible s).append (standIn_visibleAll rest)

theorem standIn_visibleInCases : ∀ cs : List MatchCase,
    StandIn (visibleInCases leftOut cs) (cs.flatMap MatchCase.body)
  | [] => standIn_nil _
  | .mk _ _ body :: rest => (standIn_visibleAll body).append (standIn_visibleInCases rest)

theorem standIn_visibleInHandlers : ∀ hs : List Handler,
    StandIn (visibleInHandlers leftOut hs) (hs.flatMap Handler.body)
  | [] => standIn_nil _
  | .mk _ body :: rest => (standIn_visibleAll body).append (standIn_visibleInHandlers rest)

end

theorem visible_of_isClassless {s : Stmt} (h : s.IsClassless) : visible leftOut s = [] := by
  refine List.eq_nil_iff_forall_not_mem.mpr fun d hd => ?_
  obtain ⟨t, ht, hwithin⟩ := standIn_visible leftOut s d hd
  rw [List.mem_singleton.mp ht] at hwithin
  exact h d.stmt hwithin trivial

end

mutual

/-- Outside of any class, an outline without classes does nothing. -/
theorem trace_of_classless (config : Document) : ∀ o : Outline, visibleOutline (fun _ => false) o = [] →
    trace config o none = ⟨[], none, none⟩
  | .classDef .., h => absurd h (by simp [visibleOutline])
  | .function .., _ => rfl
  | .assign .., _ => rfl
  | .annAssign .., _ => rfl
  | .other calls body, h => traceAll_of_classless config body h

theorem traceAll_of_classless (config : Document) : ∀ outlines : List Outline,
    visibleOutlines (fun _ => false) outlines = [] → traceAll config outlines none = ⟨[], none, none⟩
  | [], _ => rfl
  | o :: rest, h => by
      rw [visibleOutlines, List.append_eq_nil_iff] at h
      rw [traceAll, trace_of_classless config o h.1]
      exact traceAll_of_classless config rest h.2

end

/-- **Outside of any class, a statement without classes does nothing**, whatever numbers its calls have. -/
theorem trace_of_isClassless (config : Document) {s : Stmt} (h : s.IsClassless) (n : Nat) :
    trace config (ofStmt s n).1 none = ⟨[], none, none⟩ := by
  have hof := visibleOutline_of (fun _ => false) s n
  rw [visible_of_isClassless _ h, List.forall₂_nil_right_iff] at hof
  exact trace_of_classless config _ hof

/-! ## Other numbers for calls -/

/-- The analysis with other numbers for the calls that it remembers. -/
def renumbered (f : Nat → Nat) (st : Analysis) : Analysis :=
  { st with composed := st.composed.map f }

theorem contains_map {f : Nat → Nat} (hf : Function.Injective f) (calls : List Nat) (call : Nat) :
    (calls.map f).contains (f call) = calls.contains call := by
  rw [Bool.eq_iff_iff, List.contains_iff_mem, List.contains_iff_mem, List.mem_map_of_injective hf]

theorem apply_renumber {f : Nat → Nat} (hf : Function.Injective f) (s : Step) (st : Analysis) :
    (s.renumber f).apply (renumbered f st) = renumbered f (s.apply st) := by
  cases s with
  | compose call r =>
    simp only [Step.renumber, Step.apply, renumbered, contains_map hf]
    split
    · rfl
    · rfl
  | depend call r =>
    simp only [Step.renumber, Step.apply, renumbered, contains_map hf]
    split
    · rfl
    · rfl
  | addClass node => rfl
  | addAttribute name member => rfl
  | addFunction name function => rfl
  | relate r => rfl

/-- **Steps with other numbers do the same, up to the numbers.** -/
theorem replay_renumber {f : Nat → Nat} (hf : Function.Injective f) (steps : List Step) (st : Analysis) :
    replay (steps.map (Step.renumber f)) (renumbered f st) = renumbered f (replay steps st) := by
  induction steps generalizing st with
  | nil => rfl
  | cons s steps ih => rw [List.map_cons, replay_cons, apply_renumber hf, ih, replay_cons]

theorem renumber_congr {f g : Nat → Nat} {s : Step} (h : ∀ call, s.call? = some call → f call = g call) :
    s.renumber f = s.renumber g := by
  cases s with
  | compose call r => rw [Step.renumber, Step.renumber, h call rfl]
  | depend call r => rw [Step.renumber, Step.renumber, h call rfl]
  | _ => rfl

/-! ## Deleting statements -/

/-- `Pruned p all kept`: the second list is the first one without some of the elements for which `p`
holds. -/
inductive Pruned {α : Type} (p : α → Prop) : List α → List α → Prop
  | nil : Pruned p [] []
  | keep (a : α) {all kept : List α} : Pruned p all kept → Pruned p (a :: all) (a :: kept)
  | drop {a : α} {all kept : List α} : p a → Pruned p all kept → Pruned p (a :: all) kept

theorem Pruned.subset {α : Type} {p : α → Prop} {all kept : List α} (h : Pruned p all kept) :
    ∀ a ∈ kept, a ∈ all := by
  induction h with
  | nil => exact fun a ha => ha
  | keep b _ ih =>
    intro a ha
    rcases List.mem_cons.mp ha with rfl | ha
    · exact List.mem_cons_self
    · exact List.mem_cons_of_mem b (ih a ha)
  | drop _ _ ih => exact fun a ha => List.mem_cons_of_mem _ (ih a ha)

theorem Pruned.mono {α : Type} {p q : α → Prop} {all kept : List α} (h : Pruned p all kept)
    (hpq : ∀ a, p a → q a) : Pruned q all kept := by
  induction h with
  | nil => exact .nil
  | keep a _ ih => exact .keep a ih
  | drop ha _ ih => exact .drop (hpq _ ha) ih

theorem Pruned.append {α : Type} {p : α → Prop} {all kept all' kept' : List α} (h : Pruned p all kept)
    (h' : Pruned p all' kept') : Pruned p (all ++ all') (kept ++ kept') := by
  induction h with
  | nil => exact h'
  | keep a _ ih => exact .keep a ih
  | drop ha _ ih => exact .drop ha ih

theorem Pruned.flatten {α : Type} {p : α → Prop} {all kept : List (List α)}
    (h : List.Forall₂ (Pruned p) all kept) : Pruned p all.flatten kept.flatten := by
  induction h with
  | nil => exact .nil
  | cons hfirst _ ih => exact hfirst.append ih

/-- The steps of statements whose calls are numbered from somewhere on. -/
def stepsFrom (config : Document) (n : Nat) (statements : List Stmt) : List Step :=
  (numbered n statements).flatMap (movedSteps config)

theorem le_call_of_mem_stepsFrom {config : Document} {n : Nat} {statements : List Stmt} {step : Step}
    {call : Nat} (hstep : step ∈ stepsFrom config n statements) (hcall : step.call? = some call) :
    n ≤ call := by
  obtain ⟨p, hp, hstep⟩ := List.mem_flatMap.mp hstep
  obtain ⟨s, -, rfl⟩ := List.mem_map.mp hstep
  rw [call?_renumber, Option.map_eq_some_iff] at hcall
  obtain ⟨c, -, rfl⟩ := hcall
  have hle := le_of_mem_numbered hp
  omega

/-- The steps of a statement come from other numbers by any map that moves its own numbers. -/
theorem movedSteps_renumber {config : Document} {s : Stmt} {n m : Nat} {f : Nat → Nat}
    (hf : ∀ call < callCount s, f (n + call) = m + call) :
    movedSteps config (m, s) = (movedSteps config (n, s)).map (Step.renumber f) := by
  unfold movedSteps
  rw [List.map_map]
  refine List.map_congr_left fun step hstep => ?_
  have hcomp : (Step.renumber f ∘ Step.renumber (n + ·)) step = step.renumber (fun call => f (n + call)) := by
    cases step <;> rfl
  rw [hcomp]
  refine renumber_congr fun call hcall => ?_
  exact (hf call (call_lt_callCount hstep hcall)).symm

/-- A map that moves the first `count` numbers from `n` on to `m`, and the others as `g` does. -/
def spliced (n m count : Nat) (g : Nat → Nat) (call : Nat) : Nat :=
  if call < n + count then call + (m - n) else g call

theorem strictMono_spliced {n m count : Nat} {g : Nat → Nat} (hle : n ≤ m) (hg : StrictMono g)
    (hstart : m + count ≤ g (n + count)) : StrictMono (spliced n m count g) := by
  intro i j hij
  unfold spliced
  by_cases hj : j < n + count
  · rw [if_pos (by omega), if_pos hj]
    omega
  · have hafter : g (n + count) ≤ g j := hg.monotone (by omega)
    by_cases hi : i < n + count
    · rw [if_pos hi, if_neg hj]
      omega
    · rw [if_neg hi, if_neg hj]
      exact hg hij

/-- **Statements that do nothing can be left out, up to the numbers of calls.** -/
theorem exists_renumber (config : Document) {all kept : List Stmt}
    (h : Pruned (fun s => stmtSteps config s = []) all kept) {n m : Nat} (hle : n ≤ m) :
    ∃ f, StrictMono f ∧ m ≤ f n
      ∧ stepsFrom config m all = (stepsFrom config n kept).map (Step.renumber f) := by
  induction h generalizing n m with
  | nil =>
    refine ⟨(· + (m - n)), fun i j hij => Nat.add_lt_add_right hij _, ?_, rfl⟩
    show m ≤ n + (m - n)
    omega
  | @keep s all kept _ ih =>
    -- the calls of `s` move from `n` to `m`, those behind it as the rest asks for
    obtain ⟨g, hg, hstart, hrest⟩ := ih (Nat.add_le_add_right hle (callCount s))
    refine ⟨spliced n m (callCount s) g, strictMono_spliced hle hg hstart, ?_, ?_⟩
    · unfold spliced
      by_cases hcount : n < n + callCount s
      · rw [if_pos hcount]
        omega
      · rw [if_neg hcount]
        have hzero : callCount s = 0 := by omega
        rw [hzero] at hstart
        exact hstart
    · have hfirst : movedSteps config (m, s)
          = (movedSteps config (n, s)).map (Step.renumber (spliced n m (callCount s) g)) := by
        refine movedSteps_renumber fun call hcall => ?_
        rw [spliced, if_pos (by omega)]
        omega
      have hlater : (stepsFrom config (n + callCount s) kept).map (Step.renumber g)
          = (stepsFrom config (n + callCount s) kept).map
              (Step.renumber (spliced n m (callCount s) g)) := by
        refine List.map_congr_left fun step hstep => renumber_congr fun call hcall => ?_
        have hge := le_call_of_mem_stepsFrom hstep hcall
        rw [spliced, if_neg (by omega)]
      show movedSteps config (m, s) ++ stepsFrom config (m + callCount s) all = _
      rw [hfirst, hrest, hlater, ← List.map_append]
      rfl
  | @drop s all kept hs _ ih =>
    obtain ⟨f, hf, hstart, hrest⟩ := ih (Nat.le_trans hle (Nat.le_add_right m (callCount s)))
    refine ⟨f, hf, by omega, ?_⟩
    show movedSteps config (m, s) ++ stepsFrom config (m + callCount s) all = _
    rw [hrest, movedSteps, hs]
    rfl

/-- Two passes give the same graph without statements that do nothing. -/
theorem replay_pruned {config : Document} {all kept : List Stmt}
    (h : Pruned (fun s => stmtSteps config s = []) all kept) :
    (replay (numberedSteps config all) (replay (numberedSteps config all) {})).graph
      = (replay (numberedSteps config kept) (replay (numberedSteps config kept) {})).graph := by
  obtain ⟨f, hf, -, hsteps⟩ := exists_renumber config h (Nat.le_refl 0)
  have hnumbered : numberedSteps config all = (numberedSteps config kept).map (Step.renumber f) := hsteps
  have hempty : ({} : Analysis) = renumbered f {} := rfl
  rw [hnumbered, hempty, replay_renumber hf.injective, replay_renumber hf.injective]
  rfl

/-! ## Two passes -/

/--
**Code outside of classes leaves no trace.**

Let no visit end in a fault. Deleting from the modules any of their statements that hold no class
definition outside of plain functions ends in no fault either, and gives the same class graph. After every
single visit of the two passes no class is the current one, and visiting such a statement there, with its
calls numbered in any way, changes nothing in the graph.
-/
theorem classless_statements_invisible (config : Document) (modules kept : List (List Stmt))
    (hran : (twoPasses config modules).2 = none)
    (hkept : List.Forall₂ (Pruned Stmt.IsClassless) modules kept) :
    let outlines := (ofStmts 0 modules.flatten).1
    (twoPasses config kept).2 = none
      ∧ (twoPasses config kept).1.graph = (twoPasses config modules).1.graph
      ∧ twoPasses config modules = visitAll config (outlines ++ outlines) {}
      ∧ ∀ before after, outlines ++ outlines = before ++ after →
        (visitAll config before {}).1.current = none
          ∧ ∀ s n, s.IsClassless → (visit config (ofStmt s n).1 (visitAll config before {}).1).1.graph
            = (visitAll config before {}).1.graph := by
  intro outlines
  have hpruned := Pruned.flatten hkept
  have hsound := (twoPasses_sound_iff config modules).mp hran
  have hsound' : ∀ s ∈ kept.flatten, Sound config s := fun s hs => hsound s (hpruned.subset s hs)
  have hsilent : Pruned (fun s => stmtSteps config s = []) modules.flatten kept.flatten := by
    refine hpruned.mono fun s hs => ?_
    rw [stmtSteps, topSteps, outlineOf, trace_of_isClassless config hs 0]
  refine ⟨(twoPasses_sound_iff config kept).mpr hsound', ?_, visitTwice_eq_visitAll config outlines {}, ?_⟩
  · rw [twoPasses_graph hsound, twoPasses_graph hsound', replay_pruned hsilent]
  · intro before after hsplit
    -- each part of the two passes is a pass of its own
    have hbefore : (traceAll config before none).fault = none := by
      refine (traceAll_fault_iff config before).mpr fun o ho => ?_
      have hall := (traceAll_fault_iff config outlines).mp ((ofStmts_sound_iff config _).mpr hsound)
      have hmem : o ∈ outlines ++ outlines := hsplit ▸ List.mem_append_left after ho
      exact (List.mem_append.mp hmem).elim (hall o) (hall o)
    obtain ⟨printed, hpass⟩ := visitAll_pass hbefore {} rfl
    have hcurrent : (visitAll config before {}).1.current = none := by
      rw [hpass]
      rfl
    refine ⟨hcurrent, fun s n hs => ?_⟩
    obtain ⟨more, hvisit⟩ := visit_eq_replay config (ofStmt s n).1 (visitAll config before {}).1
    rw [hcurrent, trace_of_isClassless config hs n] at hvisit
    rw [hvisit]
    rfl

/-- Calls a class and assigns the value. -/
def openShop : Stmt :=
  .assign [.member (.name "self") "shop"] (.call (.name "Shop") [] [])

/-- A plain function with a class inside. -/
def sellAll : Stmt :=
  .functionDef false "sell_all" (.mk [] [.mk "shop" (some (.name "Shop")) none] none [] none)
    [.classDef "Receipt" [.name "Shop"] [] [openShop] []] [] none

/-- Both of them inside of an asynchronous function, which is inside of a conditional. -/
def onMarketDay : Stmt :=
  .conditional (.call (.name "Market") [] [])
    [.functionDef true "trade" (.mk [] [] none [] none) [openShop, sellAll] [] none] []

/-- A class that composes another one by a call. -/
def market : Stmt :=
  .classDef "Market" [] []
    [.functionDef false "__init__" (.mk [] [.mk "self" none none] none [] none) [openShop] [] none] []

theorem isClassless_onMarketDay : onMarketDay.IsClassless := by
  have hshop : openShop.IsClassless :=
    openShop.isClassless_iff.mpr ⟨id, fun _ t ht => absurd ht List.not_mem_nil⟩
  have hsell : sellAll.IsClassless :=
    sellAll.isClassless_iff.mpr ⟨id, fun hentered => absurd hentered Bool.false_ne_true⟩
  refine onMarketDay.isClassless_iff.mpr ⟨id, fun _ t ht => ?_⟩
  rw [List.mem_singleton.mp ht]
  refine (Stmt.isClassless_iff _).mpr ⟨id, fun _ u hu => ?_⟩
  rcases List.mem_cons.mp hu with rfl | hu
  · exact hshop
  · rw [List.mem_singleton.mp hu]
    exact hsell

theorem onMarketDay_invisible :
    (twoPasses errorsLeftOut [[.classDef "Shop" [] [] [.pass] [], onMarketDay], [onMarketDay, market]]).2
        = none
      ∧ (twoPasses errorsLeftOut [[.classDef "Shop" [] [] [.pass] []], [onMarketDay, market]]).1.graph
        = (twoPasses errorsLeftOut
            [[.classDef "Shop" [] [] [.pass] [], onMarketDay], [onMarketDay, market]]).1.graph
      ∧ (twoPasses errorsLeftOut
          [[.classDef "Shop" [] [] [.pass] []], [onMarketDay, market]]).1.graph.relations
        = [⟨"Market", "Shop", .composition⟩] := by
  have hran : (twoPasses errorsLeftOut
      [[.classDef "Shop" [] [] [.pass] [], onMarketDay], [onMarketDay, market]]).2 = none := by rfl
  refine ⟨hran, (classless_statements_invisible errorsLeftOut _ _ hran ?_).2.1, by rfl⟩
  -- the first of the two is deleted, the second one stays
  exact .cons (.keep _ (.drop isClassless_onMarketDay .nil)) (.cons (.keep _ (.keep _ .nil)) .nil)

end ClassAtlas.Proofs
