import ClassAtlas.Proofs.Attempts
import ClassAtlas.Proofs.Inside
import ClassAtlas.Proofs.LastDefinition
import Mathlib.Data.List.Nodup

/-!
# The members of a class

A class gets its attributes, functions and relations from its *members*: the plain functions and the
assignments that are reached from its body through statements that are neither plain functions nor
classes. `Reaches` says that outlining keeps the members of a body, one for one.

A body without visible classes does what its members do, one after the other (`traceAll_members`), and a
statement whose visible classes are not nested does what these classes do (`flat_trace`). Since all calls
have different numbers, what a statement attempts is what the members of its classes attempt.
-/

namespace ClassAtlas.Source

/-- A class looks for its members inside of the statement. -/
def Stmt.IsOpen : Stmt → Prop
  | .functionDef isAsync .. => isAsync = true
  | .classDef .. => False
  | _ => True

/-- The statement is a plain function or an assignment. -/
def Stmt.IsMember : Stmt → Prop
  | .functionDef isAsync .. => isAsync = false
  | .assign .. => True
  | .annAssign .. => True
  | _ => False

end ClassAtlas.Source

namespace ClassAtlas.Proofs

open ClassAtlas Analysis Outline Source

mutual

/-- The members that an outline has for a class around it, in order. -/
def membersOf : Outline → List Outline
  | .classDef .. => []
  | .function name types calls body => [.function name types calls body]
  | .assign targets value calls => [.assign targets value calls]
  | .annAssign target types calls => [.annAssign target types calls]
  | .other _ body => membersOfAll body

/-- The members in several outlines. -/
def membersOfAll : List Outline → List Outline
  | [] => []
  | o :: rest => membersOf o ++ membersOfAll rest

end

/-- What a class does with a member. -/
def memberSteps (owner : String) : Outline → List Step
  | .function name types calls body => functionSteps owner name types calls body
  | .assign targets value _ => assignSteps owner targets value
  | .annAssign target types _ => annotateSteps owner types target
  | .classDef .. | .other .. => []

theorem membersOfAll_append (os more : List Outline) :
    membersOfAll (os ++ more) = membersOfAll os ++ membersOfAll more := by
  induction os with
  | nil => rfl
  | cons o os ih => rw [List.cons_append, membersOfAll, membersOfAll, ih, List.append_assoc]

/-! ## Members of statements -/

/-- These are the outlines of the members that are reached from the statements, whatever numbers the calls
have. -/
structure Reaches (members : Nat → List Outline) (ss : List Stmt) : Prop where
  sound : ∀ n, ∀ o ∈ members n, ∃ s ∈ ss, ∃ t k,
    Stmt.Within Stmt.IsOpen s t ∧ t.IsMember ∧ o = (ofStmt t k).1
  complete : ∀ n, ∀ s ∈ ss, ∀ t, Stmt.Within Stmt.IsOpen s t → t.IsMember →
    ∃ k, (ofStmt t k).1 ∈ members n

theorem reaches_nil (f : Nat → List Outline) (hf : ∀ n, f n = []) : Reaches f [] where
  sound := fun n o ho => absurd ho (by simp [hf n])
  complete := fun n s hs => absurd hs (by simp)

theorem Reaches.append {f g k : Nat → List Outline} {ss ts : List Stmt} (hf : Reaches f ss)
    (hg : Reaches g ts) (hk : ∀ n, ∃ i j, k n = f i ++ g j) : Reaches k (ss ++ ts) where
  sound := by
    intro n o ho
    obtain ⟨i, j, he⟩ := hk n
    rw [he, List.mem_append] at ho
    rcases ho with ho | ho
    · obtain ⟨s, hs, hreach⟩ := hf.sound i o ho
      exact ⟨s, List.mem_append_left _ hs, hreach⟩
    · obtain ⟨s, hs, hreach⟩ := hg.sound j o ho
      exact ⟨s, List.mem_append_right _ hs, hreach⟩
  complete := by
    intro n s hs t hwithin hmember
    obtain ⟨i, j, he⟩ := hk n
    rw [he]
    rcases List.mem_append.mp hs with hs | hs
    · obtain ⟨k, hmem⟩ := hf.complete i s hs t hwithin hmember
      exact ⟨k, List.mem_append_left _ hmem⟩
    · obtain ⟨k, hmem⟩ := hg.complete j s hs t hwithin hmember
      exact ⟨k, List.mem_append_right _ hmem⟩

theorem Reaches.join {m k : Numbering (List Outline)} {ss ts : List Stmt}
    (hm : Reaches (fun n => membersOfAll (m n).1) ss) (hk : Reaches (fun n => membersOfAll (k n).1) ts) :
    Reaches (fun n => membersOfAll ((do let a ← m; return a ++ (← k) : Numbering _) n).1) (ss ++ ts) :=
  hm.append hk fun n => ⟨n, (m n).2, membersOfAll_append _ _⟩

/-- An open statement has the members of the statements inside of it. -/
theorem Reaches.block {s : Stmt} {f k : Nat → List Outline} (hf : Reaches f s.inner) (hopen : s.IsOpen)
    (hmember : ¬ s.IsMember) (hk : ∀ n, ∃ i, k n = f i) : Reaches k [s] where
  sound := by
    intro n o ho
    obtain ⟨i, he⟩ := hk n
    rw [he] at ho
    obtain ⟨u, hu, t, k, hwithin, ht⟩ := hf.sound i o ho
    exact ⟨s, List.mem_singleton_self s, t, k, .inside hopen hu hwithin, ht⟩
  complete := by
    intro n s' hs' t hwithin ht
    rw [List.mem_singleton.mp hs'] at hwithin
    obtain ⟨i, he⟩ := hk n
    rw [he]
    rcases Stmt.within_iff.mp hwithin with rfl | ⟨-, u, hu, hwithin⟩
    · exact absurd ht hmember
    · exact hf.complete i u hu t hwithin ht

/-- A member is its only member. -/
theorem reaches_member {s : Stmt} {k : Nat → List Outline} (hmember : s.IsMember)
    (hclosed : s.IsOpen → s.inner = []) (hk : ∀ n, k n = [(ofStmt s n).1]) : Reaches k [s] where
  sound := by
    intro n o ho
    rw [hk, List.mem_singleton] at ho
    exact ⟨s, List.mem_singleton_self s, s, n, .self s, hmember, ho⟩
  complete := by
    intro n s' hs' t hwithin _
    rw [List.mem_singleton.mp hs'] at hwithin
    rw [hk]
    rcases Stmt.within_iff.mp hwithin with rfl | ⟨hopen, u, hu, -⟩
    · exact ⟨n, List.mem_singleton_self _⟩
    · rw [hclosed hopen] at hu
      exact absurd hu (by simp)

mutual

/-- **Outlining keeps the members of a statement.** -/
theorem reaches_ofStmt : ∀ s : Stmt, Reaches (fun n => membersOf (ofStmt s n).1) [s]
  | .functionDef true name parameters body decorators returns =>
    (reaches_ofStmtList body).block rfl nofun fun n => ⟨_, rfl⟩
  | .functionDef false name parameters body decorators returns =>
    reaches_member rfl nofun fun n => rfl
  | .classDef name bases keywords body decorators => by
      refine ⟨fun n o ho => absurd ho List.not_mem_nil, fun n s hs t hwithin ht => ?_⟩
      rw [List.mem_singleton.mp hs] at hwithin
      rcases Stmt.within_iff.mp hwithin with rfl | ⟨hopen, -⟩
      · exact ht.elim
      · exact hopen.elim
  | .assign targets value => reaches_member trivial (fun _ => rfl) fun n => rfl
  | .annAssign target annotation value => reaches_member trivial (fun _ => rfl) fun n => rfl
  | .forLoop _ target source body orElse =>
    ((reaches_ofStmtList body).join (reaches_ofStmtList orElse)).block trivial id fun n => ⟨_, rfl⟩
  | .whileLoop test body orElse =>
    ((reaches_ofStmtList body).join (reaches_ofStmtList orElse)).block trivial id fun n => ⟨_, rfl⟩
  | .conditional test body orElse =>
    ((reaches_ofStmtList body).join (reaches_ofStmtList orElse)).block trivial id fun n => ⟨_, rfl⟩
  | .withBlock _ items body => (reaches_ofStmtList body).block trivial id fun n => ⟨_, rfl⟩
  | .matchBlock subject cases => (reaches_ofCases cases).block trivial id fun n => ⟨_, rfl⟩
  | .tryBlock _ body handlers orElse final =>
    ((((reaches_ofStmtList body).join (reaches_ofHandlers handlers)).join
      (reaches_ofStmtList orElse)).join (reaches_ofStmtList final)).block trivial id fun n => ⟨_, rfl⟩
  | .returnValue _ | .delete _ | .augAssign _ _ _ | .raise _ _ | .assert _ _ | .importModules
  | .importFrom | .globalNames | .nonlocalNames | .expr _ | .pass | .breakLoop | .continueLoop =>
    (reaches_nil (fun _ => []) fun _ => rfl).block trivial id fun n => ⟨n, rfl⟩

theorem reaches_ofStmtList : ∀ ss : List Stmt, Reaches (fun n => membersOfAll (ofStmtList ss n).1) ss
  | [] => reaches_nil _ fun _ => rfl
  | s :: rest => (reaches_ofStmt s).append (reaches_ofStmtList rest) fun n => ⟨n, _, rfl⟩

theorem reaches_ofCases : ∀ cs : List MatchCase,
    Reaches (fun n => membersOfAll (ofCases cs n).1) (cs.flatMap MatchCase.body)
  | [] => reaches_nil _ fun _ => rfl
  | .mk _ _ body :: rest =>
    (reaches_ofStmtList body).append (reaches_ofCases rest) fun _ => ⟨_, _, rfl⟩

theorem reaches_ofHandlers : ∀ hs : List Handler,
    Reaches (fun n => membersOfAll (ofHandlers hs n).1) (hs.flatMap Handler.body)
  | [] => reaches_nil _ fun _ => rfl
  | .mk _ body :: rest =>
    (reaches_ofStmtList body).append (reaches_ofHandlers rest) fun _ => ⟨_, _, rfl⟩

end

/-! ## What a body without classes does -/

mutual

/-- A statement without visible classes does what its members do, and the class goes on. -/
theorem trace_members {config : Document} {owner : String} : ∀ o : Outline,
    visibleOutline (leavesOut config) o = [] → (trace config o (some owner)).fault = none →
      trace config o (some owner) = ⟨(membersOf o).flatMap (memberSteps owner), some owner, none⟩
  | .classDef name decorators bases calls body, hvisible, hfault => by
      rw [visibleOutline] at hvisible
      rw [trace] at hfault ⊢
      match hopen : opening config name decorators bases with
      | .error fault => rw [hopen] at hfault; exact absurd hfault (by simp [classTrace])
      | .ok none => rfl
      | .ok (some node) =>
        rw [leavesOut_of_opening hopen] at hvisible
        exact absurd hvisible (by simp)
  | .function name types calls body, _, _ => by
      rw [membersOf, List.flatMap_singleton]
      rfl
  | .assign targets value calls, _, _ => by
      rw [membersOf, List.flatMap_singleton]
      rfl
  | .annAssign target types calls, _, _ => by
      rw [membersOf, List.flatMap_singleton]
      rfl
  | .other calls body, hvisible, hfault => traceAll_members body hvisible hfault

theorem traceAll_members {config : Document} {owner : String} : ∀ outlines : List Outline,
    visibleOutlines (leavesOut config) outlines = [] →
    (traceAll config outlines (some owner)).fault = none →
      traceAll config outlines (some owner)
        = ⟨(membersOfAll outlines).flatMap (memberSteps owner), some owner, none⟩
  | [], _, _ => rfl
  | o :: rest, hvisible, hfault => by
      rw [visibleOutlines, List.append_eq_nil_iff] at hvisible
      have hfirst := sound_of_traceAll_cons hfault
      have ho := trace_members o hvisible.1 hfirst
      rw [traceAll, Trace.andThen_of_done hfirst, ho] at hfault ⊢
      rw [traceAll_members rest hvisible.2 hfault, membersOfAll, List.flatMap_append]

end

mutual

/-- The calls of members are calls of the outline. -/
theorem sublist_membersOf : ∀ o : Outline, ((membersOf o).flatMap outlineCalls).Sublist (outlineCalls o)
  | .classDef .. => List.nil_sublist _
  | .function .. => by rw [membersOf, List.flatMap_singleton]
  | .assign .. => by rw [membersOf, List.flatMap_singleton]
  | .annAssign .. => by rw [membersOf, List.flatMap_singleton]
  | .other calls body => (sublist_membersOfAll body).trans (List.sublist_append_right _ _)

theorem sublist_membersOfAll : ∀ outlines : List Outline,
    ((membersOfAll outlines).flatMap outlineCalls).Sublist (outlinesCalls outlines)
  | [] => List.Sublist.refl _
  | o :: rest => by
      rw [membersOfAll, List.flatMap_append]
      exact (sublist_membersOf o).append (sublist_membersOfAll rest)

end

theorem proper_ofStmt (s : Stmt) (n : Nat) : properOutline (ofStmt s n).1 :=
  (consecutive_ofStmt s).proper n

/-- A step for a member asks for one of its calls. -/
theorem by_memberSteps {owner : String} {o : Outline} (hproper : properOutline o) {s : Step}
    (hs : s ∈ memberSteps owner o) : s.By owner ((outlineCalls o).map (·.id)) := by
  cases o with
  | function name types calls body => exact by_functionSteps hproper id_mem_ids hs
  | assign targets value calls =>
    exact by_assignSteps (fun call hcall => List.mem_map_of_mem (hproper call hcall)) hs
  | annAssign target types calls => exact by_annotateSteps hs
  | classDef name decorators bases calls body => exact absurd hs (by simp [memberSteps])
  | other calls body => exact absurd hs (by simp [memberSteps])

/-- The numbers in a computation are all different. -/
theorem Consecutive.nodup {α : Type} [HoldsCalls α] {m : Numbering α} (h : Consecutive m) (n : Nat) :
    ((HoldsCalls.calls (m n).1).map (·.id)).Nodup := by
  have hmove : (·.id) ∘ renumberCall (n + ·) = (n + ·) ∘ CallSite.id := rfl
  rw [h.result n, HoldsCalls.calls_renumber, List.map_map, hmove, ← List.map_map, h.ids]
  exact List.Nodup.map (fun i j hij => Nat.add_left_cancel hij) List.nodup_range

/-- **What a body without classes attempts is what its members attempt.** -/
theorem attempts_members {owner : String} {n : Nat} {body : List Stmt} {r : Relation} :
    Attempts ((membersOfAll (ofStmts n body).1).flatMap (memberSteps owner)) r ↔
      ∃ o ∈ membersOfAll (ofStmts n body).1, Attempts (memberSteps owner o) r := by
  have hnodup := ((sublist_membersOfAll (ofStmts n body).1).map (·.id)).nodup
    ((consecutive_ofStmtList body).nodup n)
  rw [List.map_flatMap] at hnodup
  refine attempts_flatMap (fun o ho s hs call hcall => ?_) hnodup
  obtain ⟨t, -, u, k, -, -, rfl⟩ := (reaches_ofStmtList body).sound n o ho
  exact (by_memberSteps (proper_ofStmt u k) hs).call_mem hcall

/-! ## Classes that are not nested -/

/-- No visible class stands inside of one of these. -/
def Flat (leftOut : String → Bool) (cs : List ClassOutline) : Prop :=
  ∀ c ∈ cs, visibleOutlines leftOut c.body = []

theorem Flat.append {leftOut : String → Bool} {cs ds : List ClassOutline} (h : Flat leftOut (cs ++ ds)) :
    Flat leftOut cs ∧ Flat leftOut ds :=
  ⟨fun c hc => h c (List.mem_append_left _ hc), fun c hc => h c (List.mem_append_right _ hc)⟩

mutual

/-- Outside of any class, a statement does what its visible classes do, if these are not nested. -/
theorem flat_trace {config : Document} : ∀ o : Outline,
    Flat (leavesOut config) (visibleOutline (leavesOut config) o) → (trace config o none).fault = none →
      (trace config o none).steps
          = (visibleOutline (leavesOut config) o).flatMap (fun c => (classTraceOf config c).steps)
        ∧ ∀ c ∈ visibleOutline (leavesOut config) o, (classTraceOf config c).fault = none
  | .classDef name decorators bases calls body, hflat, hfault => by
      rw [trace_classDef config ⟨name, decorators, bases, body⟩ calls] at hfault ⊢
      rw [visibleOutline] at hflat ⊢
      split
      · rename_i hleft
        -- a class that is left out is opened as nothing
        unfold classTraceOf at hfault ⊢
        match hopen : opening config name decorators bases with
        | .error fault => simp only [hopen] at hfault; exact absurd hfault (by simp [classTrace])
        | .ok none => exact ⟨rfl, by simp⟩
        | .ok (some node) =>
          rw [leavesOut_of_opening hopen] at hleft
          exact absurd hleft (by simp)
      · rename_i hleft
        rw [if_neg hleft] at hflat
        have hbody : visibleOutlines (leavesOut config) body = [] := hflat _ List.mem_cons_self
        rw [hbody, List.flatMap_singleton]
        exact ⟨rfl, fun c hc => List.mem_singleton.mp hc ▸ hfault⟩
  | .function .., _, _ => ⟨rfl, by simp [visibleOutline]⟩
  | .assign .., _, _ => ⟨rfl, by simp [visibleOutline]⟩
  | .annAssign .., _, _ => ⟨rfl, by simp [visibleOutline]⟩
  | .other calls body, hflat, hfault => flat_traceAll body hflat hfault

theorem flat_traceAll {config : Document} : ∀ outlines : List Outline,
    Flat (leavesOut config) (visibleOutlines (leavesOut config) outlines) →
    (traceAll config outlines none).fault = none →
      (traceAll config outlines none).steps
          = (visibleOutlines (leavesOut config) outlines).flatMap (fun c => (classTraceOf config c).steps)
        ∧ ∀ c ∈ visibleOutlines (leavesOut config) outlines, (classTraceOf config c).fault = none
  | [], _, _ => ⟨rfl, by simp [visibleOutlines]⟩
  | o :: rest, hflat, hfault => by
      rw [visibleOutlines] at hflat ⊢
      have hfirst := sound_of_traceAll_cons hfault
      rw [traceAll, Trace.andThen_of_done hfirst, trace_current_none hfirst] at hfault ⊢
      obtain ⟨hsteps, hsound⟩ := flat_trace o hflat.append.1 hfirst
      obtain ⟨hmore, hrest⟩ := flat_traceAll rest hflat.append.2 hfault
      refine ⟨?_, fun c hc => (List.mem_append.mp hc).elim (hsound c) (hrest c)⟩
      rw [List.flatMap_append, hsteps, hmore]

end

mutual

/-- Visible classes that are not nested share no calls. -/
theorem sublist_visibleOutline {leftOut : String → Bool} : ∀ o : Outline,
    Flat leftOut (visibleOutline leftOut o) →
      ((visibleOutline leftOut o).flatMap fun c => outlinesCalls c.body).Sublist (outlineCalls o)
  | .classDef name decorators bases calls body, hflat => by
      rw [visibleOutline] at hflat ⊢
      split
      · exact List.nil_sublist _
      · rename_i hleft
        rw [if_neg hleft] at hflat
        have hbody : visibleOutlines leftOut body = [] := hflat _ List.mem_cons_self
        rw [hbody, List.flatMap_singleton]
        exact List.sublist_append_right _ _
  | .function .., _ => List.nil_sublist _
  | .assign .., _ => List.nil_sublist _
  | .annAssign .., _ => List.nil_sublist _
  | .other calls body, hflat => (sublist_visibleOutlines body hflat).trans (List.sublist_append_right _ _)

theorem sublist_visibleOutlines {leftOut : String → Bool} : ∀ outlines : List Outline,
    Flat leftOut (visibleOutlines leftOut outlines) →
      ((visibleOutlines leftOut outlines).flatMap fun c => outlinesCalls c.body).Sublist
        (outlinesCalls outlines)
  | [], _ => List.Sublist.refl _
  | o :: rest, hflat => by
      rw [visibleOutlines] at hflat ⊢
      rw [List.flatMap_append]
      exact (sublist_visibleOutline o hflat.append.1).append (sublist_visibleOutlines rest hflat.append.2)

end

/-- A class with no class inside of it is entered, and then its members are looked at. -/
theorem classTraceOf_steps {config : Document} {c : ClassOutline} (hname : leavesOut config c.name = false)
    (hbody : visibleOutlines (leavesOut config) c.body = []) (hfault : (classTraceOf config c).fault = none) :
    ∃ node, (classTraceOf config c).steps
      = enterSteps node c.bases ++ (membersOfAll c.body).flatMap (memberSteps c.name) := by
  unfold classTraceOf at hfault ⊢
  match hopen : opening config c.name c.decorators c.bases with
  | .error fault => rw [hopen] at hfault; exact absurd hfault (by simp [classTrace])
  | .ok none =>
    rw [leavesOut_of_opening hopen] at hname
    exact absurd hname (by simp)
  | .ok (some node) =>
    rw [hopen] at hfault
    have hinner := traceAll_members c.body hbody hfault
    refine ⟨node, ?_⟩
    show enterSteps node c.bases ++ (traceAll config c.body (some node.name)).steps = _
    rw [hinner, opening_name hopen]

/-- Entering a class attempts inheritances only. -/
theorem attempts_enterSteps_append {node : ClassNode} {bases : List String} {steps : List Step}
    {r : Relation} (hkind : r.kind ≠ .inheritance) :
    Attempts (enterSteps node bases ++ steps) r ↔ Attempts steps r := by
  have henter : ∀ s ∈ enterSteps node bases, s.call? = none ∧ s ≠ .relate r := by
    intro s hs
    rcases List.mem_append.mp hs with hs | hs
    · obtain ⟨base, -, rfl⟩ := List.mem_map.mp hs
      refine ⟨rfl, fun he => ?_⟩
      injection he with he
      exact hkind (he ▸ rfl)
    · rw [List.mem_singleton.mp hs]
      exact ⟨rfl, by simp⟩
  rw [attempts_quiet_append fun s hs => (henter s hs).1]
  exact or_iff_right fun h => (henter _ h).2 rfl

/-- Classes of an outline that outline definitions without visible classes are not nested. -/
theorem flat_of_forall₂ {leftOut : String → Bool} {cs : List ClassOutline} {ds : List ClassDefinition}
    (hof : List.Forall₂ ClassOutline.Of cs ds) (h : ∀ d ∈ ds, visibleAll leftOut d.body = []) :
    Flat leftOut cs := by
  intro c hc
  obtain ⟨d, hd, n, rfl⟩ := exists_of_mem_forall₂ hof hc
  have hbody := depicts_ofStmtList leftOut d.body n
  rw [h d hd, List.forall₂_nil_right_iff] at hbody
  exact hbody

/-- A step of a class asks for a call of its body. -/
theorem call_mem_classTraceOf {config : Document} {c : ClassOutline} {d : ClassDefinition} (hof : c.Of d)
    {step : Step} {call : Nat} (hstep : step ∈ (classTraceOf config c).steps)
    (hcall : step.call? = some call) : call ∈ (outlinesCalls c.body).map (·.id) := by
  obtain ⟨n, rfl⟩ := hof
  have hproper : properOutlines (ofStmts n d.body).1 := (consecutive_ofStmtList d.body).proper n
  rw [← trace_classDef config _ []] at hstep
  exact (placed_trace config (.classDef _ _ _ [] _) none hproper id_mem_ids step hstep).call_mem hcall

section

variable {config : Document} {r : Relation} (hkind : r.kind ≠ .inheritance) {P : String → Stmt → Prop}
  (hP : ∀ owner t k, t.IsMember → (Attempts (memberSteps owner (ofStmt t k).1) r ↔ P owner t))

include hkind hP

/-- A class with no class inside of it attempts a relation by one of its members. -/
theorem attempts_classTraceOf_iff {c : ClassOutline} {d : ClassDefinition} (hof : c.Of d)
    (hname : leavesOut config c.name = false) (hbody : visibleOutlines (leavesOut config) c.body = [])
    (hfault : (classTraceOf config c).fault = none) :
    Attempts (classTraceOf config c).steps r ↔
      ∃ u ∈ d.body, ∃ t, Stmt.Within Stmt.IsOpen u t ∧ t.IsMember ∧ P d.name t := by
  obtain ⟨node, hsteps⟩ := classTraceOf_steps hname hbody hfault
  obtain ⟨n, rfl⟩ := hof
  rw [hsteps, attempts_enterSteps_append hkind, attempts_members]
  constructor
  · rintro ⟨o, ho, hattempts⟩
    obtain ⟨u, hu, t, k, hwithin, hmember, rfl⟩ := (reaches_ofStmtList d.body).sound n o ho
    exact ⟨u, hu, t, hwithin, hmember, (hP d.name t k hmember).mp hattempts⟩
  · rintro ⟨u, hu, t, hwithin, hmember, hp⟩
    obtain ⟨k, hmem⟩ := (reaches_ofStmtList d.body).complete n u hu t hwithin hmember
    exact ⟨_, hmem, (hP d.name t k hmember).mpr hp⟩

/--
**What a statement attempts, its classes attempt by their members.**

For a statement whose visible classes are not nested: `P` says when a class of some name attempts the
relation by a member, in whatever way its calls are numbered. Inheritances are left out.
-/
theorem attempts_stmtSteps_iff {s : Stmt} (hsound : Sound config s)
    (hflat : ∀ d ∈ visible (leavesOut config) s, visibleAll (leavesOut config) d.body = []) :
    Attempts (stmtSteps config s) r ↔ ∃ d ∈ visible (leavesOut config) s,
      ∃ u ∈ d.body, ∃ t, Stmt.Within Stmt.IsOpen u t ∧ t.IsMember ∧ P d.name t := by
  have hof := visibleOutline_of (leavesOut config) s 0
  have hclasses : Flat (leavesOut config) (visibleOutline (leavesOut config) (outlineOf s)) :=
    flat_of_forall₂ hof hflat
  obtain ⟨hsteps, hfaults⟩ := flat_trace (outlineOf s) hclasses hsound
  -- different classes have different calls, so each may be looked at by itself
  have hnodup := ((sublist_visibleOutline (outlineOf s) hclasses).map (·.id)).nodup
    ((consecutive_ofStmt s).nodup 0)
  rw [List.map_flatMap] at hnodup
  have hids : ∀ c ∈ visibleOutline (leavesOut config) (outlineOf s), ∀ step ∈ (classTraceOf config c).steps,
      ∀ call, step.call? = some call → call ∈ (outlinesCalls c.body).map (·.id) := by
    intro c hc step hstep call hcall
    obtain ⟨d, -, hd⟩ := exists_of_mem_forall₂ hof hc
    exact call_mem_classTraceOf hd hstep hcall
  rw [stmtSteps, topSteps, hsteps, attempts_flatMap hids hnodup]
  constructor
  · rintro ⟨c, hc, hattempts⟩
    obtain ⟨d, hd, hcd⟩ := exists_of_mem_forall₂ hof hc
    exact ⟨d, hd, (attempts_classTraceOf_iff hkind hP hcd (not_leftOut_visibleOutline _ hc)
      (hclasses c hc) (hfaults c hc)).mp hattempts⟩
  · rintro ⟨d, hd, hreached⟩
    obtain ⟨c, hc, hcd⟩ := exists_of_mem_forall₂ hof.flip hd
    exact ⟨c, hc, (attempts_classTraceOf_iff hkind hP hcd (not_leftOut_visibleOutline _ hc)
      (hclasses c hc) (hfaults c hc)).mpr hreached⟩

end

end ClassAtlas.Proofs
