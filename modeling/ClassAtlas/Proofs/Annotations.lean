import ClassAtlas.Proofs.Dependencies

/-!
# Annotated attributes

A class is composed of what its attributes are annotated with. In the body of a class the attribute is a
plain name or an attribute of `self`; in a function of the class it is an attribute of `self`, at whatever
depth the annotation stands there. `relate_mem_memberSteps` says that the members of a class state exactly
these compositions. What is stated is tried in both passes, so it is found wherever the other class stands.
-/

namespace ClassAtlas.Source

/-- The statement annotates an attribute of `self`, and the annotation names the type. -/
inductive Stmt.AnnotatesSelf (type : String) : Stmt → Prop
  | mk {member : String} {typed : Expr} {value : Option Expr} : type ∈ typed.typeNames →
      AnnotatesSelf type (.annAssign (.member (.name "self") member) typed value)

/-- A class with this member has an attribute whose annotation names the type. -/
inductive Stmt.Declares (type : String) : Stmt → Prop
  /-- A plain name is annotated. -/
  | plain {id : String} {typed : Expr} {value : Option Expr} : type ∈ typed.typeNames →
      Declares type (.annAssign (.name id) typed value)
  /-- An attribute of `self` is annotated. -/
  | ofSelf {t : Stmt} : t.AnnotatesSelf type → Declares type t
  /-- An attribute of `self` is annotated somewhere in a plain function. -/
  | inFunction {function : String} {parameters : Parameters} {body : List Stmt} {decorators : List Expr}
      {returns : Option Expr} {t : Stmt} :
      Stmt.Within (fun _ => True) (.functionDef false function parameters body decorators returns) t →
      t.AnnotatesSelf type → Declares type (.functionDef false function parameters body decorators returns)

end ClassAtlas.Source

namespace ClassAtlas.Proofs

open ClassAtlas Analysis Outline Source

/-! ## Annotations in functions -/

mutual

/-- What attributes of `self` are annotated with in an outline, at any depth. -/
def selfTypes : Outline → List String
  | .classDef _ _ _ _ body => selfTypesAll body
  | .function _ _ _ body => selfTypesAll body
  | .assign .. => []
  | .annAssign target types _ => if isSelf target then types else []
  | .other _ body => selfTypesAll body

/-- What attributes of `self` are annotated with in several outlines. -/
def selfTypesAll : List Outline → List String
  | [] => []
  | o :: rest => selfTypes o ++ selfTypesAll rest

end

theorem selfTypesAll_append (os more : List Outline) :
    selfTypesAll (os ++ more) = selfTypesAll os ++ selfTypesAll more := by
  induction os with
  | nil => rfl
  | cons o os ih => rw [List.cons_append, selfTypesAll, selfTypesAll, ih, List.append_assoc]

/-- The types are those that the statements annotate attributes of `self` with, at any depth and whatever
numbers the calls have. -/
def Gathers (types : Nat → List String) (ss : List Stmt) : Prop :=
  ∀ n type, type ∈ types n ↔ ∃ s ∈ ss, ∃ t, Stmt.Within (fun _ => True) s t ∧ t.AnnotatesSelf type

theorem gathers_nil : Gathers (fun _ => []) [] := by
  intro n type
  simp

theorem Gathers.append {f g k : Nat → List String} {ss ts : List Stmt} (hf : Gathers f ss)
    (hg : Gathers g ts) (hk : ∀ n, ∃ i j, k n = f i ++ g j) : Gathers k (ss ++ ts) := by
  intro n type
  obtain ⟨i, j, he⟩ := hk n
  simp only [he, List.mem_append, hf i type, hg j type, or_and_right, exists_or]

theorem Gathers.join {m k : Numbering (List Outline)} {ss ts : List Stmt}
    (hm : Gathers (fun n => selfTypesAll (m n).1) ss) (hk : Gathers (fun n => selfTypesAll (k n).1) ts) :
    Gathers (fun n => selfTypesAll ((do let a ← m; return a ++ (← k) : Numbering _) n).1) (ss ++ ts) :=
  hm.append hk fun n => ⟨n, (m n).2, selfTypesAll_append _ _⟩

/-- A statement that annotates nothing itself has what the statements inside of it annotate. -/
theorem Gathers.block {s : Stmt} {f k : Nat → List String} (hf : Gathers f s.inner)
    (hs : ∀ type, ¬ s.AnnotatesSelf type) (hk : ∀ n, ∃ i, k n = f i) : Gathers k [s] := by
  intro n type
  obtain ⟨i, he⟩ := hk n
  rw [he, hf i type]
  simp only [List.mem_singleton, exists_eq_left]
  constructor
  · intro h
    obtain ⟨u, hu, t, hwithin, ht⟩ := h
    exact ⟨t, .inside trivial hu hwithin, ht⟩
  · intro h
    obtain ⟨t, hwithin, ht⟩ := h
    rcases Stmt.within_iff.mp hwithin with rfl | ⟨-, u, hu, hwithin⟩
    · exact absurd ht (hs type)
    · exact ⟨u, hu, t, hwithin, ht⟩

theorem annotatesSelf_annAssign {type : String} {target typed : Expr} {value : Option Expr} :
    (Stmt.annAssign target typed value).AnnotatesSelf type ↔
      target.isSelfAttribute = true ∧ type ∈ typed.typeNames := by
  constructor
  · intro h
    cases h with
    | mk htype => exact ⟨rfl, htype⟩
  · intro h
    obtain ⟨hself, htype⟩ := h
    unfold Expr.isSelfAttribute at hself
    split at hself
    · exact .mk htype
    · exact absurd hself (by simp)

theorem gathers_annAssign (target typed : Expr) (value : Option Expr) :
    Gathers (fun n => selfTypes (ofStmt (.annAssign target typed value) n).1)
      [.annAssign target typed value] := by
  intro n type
  show type ∈ (if isSelf (targetOf target) then typed.typeNames else []) ↔ _
  have hown : (∃ t, Stmt.Within (fun _ => True) (.annAssign target typed value) t
      ∧ t.AnnotatesSelf type) ↔ (Stmt.annAssign target typed value).AnnotatesSelf type := by
    constructor
    · intro h
      obtain ⟨t, hwithin, ht⟩ := h
      rcases Stmt.within_iff.mp hwithin with rfl | ⟨-, u, hu, -⟩
      · exact ht
      · exact absurd hu List.not_mem_nil
    · intro h
      exact ⟨_, .self _, h⟩
  rw [isSelf_targetOf]
  simp only [List.mem_singleton, exists_eq_left]
  rw [hown, annotatesSelf_annAssign]
  split <;> simp_all

mutual

/-- **An outline gathers the annotations that stand in the statement.** -/
theorem gathers_ofStmt : ∀ s : Stmt, Gathers (fun n => selfTypes (ofStmt s n).1) [s]
  | .functionDef true _ _ body _ _ =>
    (gathers_ofStmtList body).block nofun fun _ => ⟨_, rfl⟩
  | .functionDef false _ _ body _ _ =>
    (gathers_ofStmtList body).block nofun fun _ => ⟨_, rfl⟩
  | .classDef _ _ _ body _ =>
    (gathers_ofStmtList body).block nofun fun _ => ⟨_, rfl⟩
  | .annAssign target typed value => gathers_annAssign target typed value
  | .forLoop _ _ _ body orElse =>
    ((gathers_ofStmtList body).join (gathers_ofStmtList orElse)).block nofun fun _ => ⟨_, rfl⟩
  | .whileLoop _ body orElse =>
    ((gathers_ofStmtList body).join (gathers_ofStmtList orElse)).block nofun fun _ => ⟨_, rfl⟩
  | .conditional _ body orElse =>
    ((gathers_ofStmtList body).join (gathers_ofStmtList orElse)).block nofun fun _ => ⟨_, rfl⟩
  | .withBlock _ _ body => (gathers_ofStmtList body).block nofun fun _ => ⟨_, rfl⟩
  | .matchBlock _ cases => (gathers_ofCases cases).block nofun fun _ => ⟨_, rfl⟩
  | .tryBlock _ body handlers orElse final =>
    ((((gathers_ofStmtList body).join (gathers_ofHandlers handlers)).join
      (gathers_ofStmtList orElse)).join (gathers_ofStmtList final)).block nofun fun _ => ⟨_, rfl⟩
  | .returnValue _ | .delete _ | .assign _ _ | .augAssign _ _ _ | .raise _ _ | .assert _ _
  | .importModules | .importFrom | .globalNames | .nonlocalNames | .expr _ | .pass | .breakLoop
  | .continueLoop => gathers_nil.block nofun fun n => ⟨n, rfl⟩

theorem gathers_ofStmtList : ∀ ss : List Stmt, Gathers (fun n => selfTypesAll (ofStmtList ss n).1) ss
  | [] => gathers_nil
  | s :: rest => (gathers_ofStmt s).append (gathers_ofStmtList rest) fun n => ⟨n, _, rfl⟩

theorem gathers_ofCases : ∀ cs : List MatchCase,
    Gathers (fun n => selfTypesAll (ofCases cs n).1) (cs.flatMap MatchCase.body)
  | [] => gathers_nil
  | .mk _ _ body :: rest =>
    (gathers_ofStmtList body).append (gathers_ofCases rest) fun _ => ⟨_, _, rfl⟩

theorem gathers_ofHandlers : ∀ hs : List Handler,
    Gathers (fun n => selfTypesAll (ofHandlers hs n).1) (hs.flatMap Handler.body)
  | [] => gathers_nil
  | .mk _ body :: rest =>
    (gathers_ofStmtList body).append (gathers_ofHandlers rest) fun _ => ⟨_, _, rfl⟩

end

/-! ## What the members of a class state -/

/-- The relation is a composition of the owner with one of the types that is no basic one. -/
def Composes (owner : String) (types : List String) (r : Relation) : Prop :=
  ∃ type ∈ types, type ∉ basicTypes ∧ r = ⟨owner, type, .composition⟩

theorem composes_append {owner : String} {types more : List String} {r : Relation} :
    Composes owner (types ++ more) r ↔ Composes owner types r ∨ Composes owner more r := by
  unfold Composes
  simp only [List.mem_append, or_and_right, exists_or]

theorem not_composes_nil {owner : String} {r : Relation} : ¬ Composes owner [] r := by
  intro h
  obtain ⟨type, htype, -⟩ := h
  exact absurd htype List.not_mem_nil

theorem relate_mem_typeSteps {owner : String} {types : List String} {r : Relation} :
    .relate r ∈ typeSteps owner types ↔ Composes owner types r := by
  unfold typeSteps Composes
  rw [List.mem_flatMap]
  refine exists_congr fun type => and_congr_right fun _ => ?_
  by_cases hbasic : type ∈ basicTypes
  · rw [if_pos (List.contains_iff_mem.mpr hbasic)]
    simp [hbasic]
  · rw [if_neg (mt List.contains_iff_mem.mp hbasic)]
    simp [hbasic]

theorem relate_mem_annotateSelfSteps {owner : String} {types : List String} {r : Relation}
    (target : Target) : .relate r ∈ annotateSelfSteps owner types target ↔
      Composes owner (if isSelf target then types else []) r := by
  cases target with
  | selfAttribute member => simp [annotateSelfSteps, isSelf, relate_mem_typeSteps]
  | name id => simp [annotateSelfSteps, isSelf, not_composes_nil]
  | other => simp [annotateSelfSteps, isSelf, not_composes_nil]

theorem relate_not_mem_callSteps {owner : String} {calls : List CallSite} {r : Relation} :
    .relate r ∉ callSteps owner calls := by
  intro hs
  have hinside : (Step.relate r).Inside owner [] fun _ => True := inside_callSteps (fun _ _ => trivial) hs
  exact absurd hinside.kind_mem List.not_mem_nil

mutual

/-- A walk states the compositions of annotated attributes. -/
theorem relate_mem_walkSteps {owner : String} {r : Relation} : ∀ o : Outline,
    .relate r ∈ walkSteps owner o ↔ Composes owner (selfTypes o) r
  | .classDef _ _ _ calls body => by
      rw [walkSteps, List.mem_append, selfTypes, relate_mem_walkAllSteps body]
      exact or_iff_right relate_not_mem_callSteps
  | .function _ _ calls body => by
      rw [walkSteps, List.mem_append, selfTypes, relate_mem_walkAllSteps body]
      exact or_iff_right relate_not_mem_callSteps
  | .assign targets value calls => by
      refine iff_of_false (fun hs => ?_) not_composes_nil
      rcases List.mem_append.mp hs with hs | hs
      · obtain ⟨target, -, hs⟩ := List.mem_flatMap.mp hs
        have hinside : (Step.relate r).Inside owner [] fun _ => True :=
          inside_assignSelfSteps (fun _ _ => trivial) target hs
        exact absurd hinside.kind_mem List.not_mem_nil
      · exact relate_not_mem_callSteps hs
  | .annAssign target types calls => by
      rw [walkSteps, List.mem_append, selfTypes, relate_mem_annotateSelfSteps]
      exact or_iff_left relate_not_mem_callSteps
  | .other calls body => by
      rw [walkSteps, List.mem_append, selfTypes, relate_mem_walkAllSteps body]
      exact or_iff_right relate_not_mem_callSteps

theorem relate_mem_walkAllSteps {owner : String} {r : Relation} : ∀ body : List Outline,
    .relate r ∈ walkAllSteps owner body ↔ Composes owner (selfTypesAll body) r
  | [] => iff_of_false List.not_mem_nil not_composes_nil
  | o :: rest => by
      rw [walkAllSteps, List.mem_append, selfTypesAll, composes_append, relate_mem_walkSteps o,
        relate_mem_walkAllSteps rest]

end

/-- A function states compositions by what it walks over. -/
theorem relate_mem_functionSteps {owner function : String} {types : List String} {calls : List CallSite}
    {body : List Outline} {r : Relation} (hkind : r.kind = .composition) :
    .relate r ∈ functionSteps owner function types calls body ↔
      .relate r ∈ walkSteps owner (.function function types calls body) := by
  rw [functionSteps, List.append_assoc, List.mem_append]
  refine or_iff_right fun hs => ?_
  rcases List.mem_cons.mp hs with he | hs
  · exact absurd he (by simp)
  · split at hs
    · obtain ⟨type, -, he⟩ := List.mem_map.mp hs
      injection he with he
      rw [← he] at hkind
      exact absurd hkind (by simp)
    · exact absurd hs List.not_mem_nil

theorem declares_functionDef {function : String} {parameters : Parameters} {body : List Stmt}
    {decorators : List Expr} {returns : Option Expr} {type : String} :
    (Stmt.functionDef false function parameters body decorators returns).Declares type ↔
      ∃ t, Stmt.Within (fun _ => True) (.functionDef false function parameters body decorators returns) t
        ∧ t.AnnotatesSelf type := by
  constructor
  · intro h
    cases h with
    | ofSelf h => exact nomatch h
    | inFunction hwithin ht => exact ⟨_, hwithin, ht⟩
  · intro h
    obtain ⟨t, hwithin, ht⟩ := h
    exact .inFunction hwithin ht

theorem declares_annAssign {type : String} {target typed : Expr} {value : Option Expr} :
    (Stmt.annAssign target typed value).Declares type ↔
      targetOf target ≠ .other ∧ type ∈ typed.typeNames := by
  constructor
  · intro h
    cases h with
    | plain htype => exact ⟨nofun, htype⟩
    | ofSelf h =>
      cases h with
      | mk htype => exact ⟨nofun, htype⟩
  · intro h
    obtain ⟨htarget, htype⟩ := h
    unfold targetOf at htarget
    split at htarget
    · exact .plain htype
    · exact .ofSelf (.mk htype)
    · exact absurd rfl htarget

theorem relate_mem_annotateSteps {owner : String} {types : List String} {target : Target} {r : Relation} :
    .relate r ∈ annotateSteps owner types target ↔ target ≠ .other ∧ Composes owner types r := by
  cases target with
  | selfAttribute member => simp [annotateSteps, annotateSelfSteps, relate_mem_typeSteps]
  | name id => simp [annotateSteps, relate_mem_typeSteps]
  | other => simp [annotateSteps, annotateSelfSteps]

/-- **The members of a class state the compositions that they declare.** -/
theorem relate_mem_memberSteps {owner child target : String} (t : Stmt) (k : Nat) (hmember : t.IsMember) :
    .relate ⟨child, target, .composition⟩ ∈ memberSteps owner (ofStmt t k).1 ↔
      owner = child ∧ target ∉ basicTypes ∧ t.Declares target := by
  have hcomposes : ∀ types : List String, Composes owner types ⟨child, target, .composition⟩ ↔
      owner = child ∧ target ∉ basicTypes ∧ target ∈ types := by
    intro types
    constructor
    · intro h
      obtain ⟨type, htype, hbasic, he⟩ := h
      injection he with howner htarget _
      subst howner htarget
      exact ⟨rfl, hbasic, htype⟩
    · intro h
      obtain ⟨rfl, hbasic, htype⟩ := h
      exact ⟨target, htype, hbasic, rfl⟩
  cases t with
  | functionDef isAsync function parameters body decorators returns =>
    have hsync : isAsync = false := hmember
    subst hsync
    have hgathers := gathers_ofStmt (.functionDef false function parameters body decorators returns) k target
    simp only [List.mem_singleton, exists_eq_left] at hgathers
    rw [declares_functionDef, ← hgathers, ← hcomposes, ← relate_mem_walkSteps]
    exact relate_mem_functionSteps rfl
  | assign targets value =>
    refine iff_of_false (fun hs => ?_) fun h => nomatch h.2.2
    have hinside : Step.Inside owner [] (fun _ => True) _ := inside_assignSteps (fun _ _ => trivial) hs
    exact absurd hinside.kind_mem List.not_mem_nil
  | annAssign annotated typed value =>
    show Step.relate _ ∈ annotateSteps owner typed.typeNames (targetOf annotated) ↔ _
    rw [relate_mem_annotateSteps, hcomposes, declares_annAssign]
    exact ⟨fun h => ⟨h.2.1, h.2.2.1, h.1, h.2.2.2⟩, fun h => ⟨h.2.2.1, h.1, h.2.1, h.2.2.2⟩⟩
  | _ => exact hmember.elim

theorem isMember_of_declares {type : String} {t : Stmt} (h : t.Declares type) : t.IsMember := by
  cases h with
  | plain => trivial
  | ofSelf h =>
    cases h with
    | mk => trivial
  | inFunction => rfl

/-! ## Two passes -/

/-- Steps that ask for no dependency of this kind attempt what they state. -/
theorem attempts_iff_relate {steps : List Step} {r : Relation} (h : ∀ call, .depend call r ∉ steps) :
    Attempts steps r ↔ .relate r ∈ steps := by
  refine or_iff_left fun hasked => ?_
  obtain ⟨call, hasked, -⟩ := hasked
  exact h call hasked

/-- A statement states a composition iff one of its classes declares it. -/
theorem relate_mem_stmtSteps {config : Document} {s : Stmt} (hsound : Sound config s)
    (hflat : ∀ d ∈ visible (leavesOut config) s, visibleAll (leavesOut config) d.body = [])
    {child target : String} :
    .relate ⟨child, target, .composition⟩ ∈ stmtSteps config s ↔
      ∃ d ∈ visible (leavesOut config) s, ∃ u ∈ d.body, ∃ t, Stmt.Within Stmt.IsOpen u t
        ∧ t.IsMember ∧ d.name = child ∧ target ∉ basicTypes ∧ t.Declares target := by
  have hstmt : ∀ call, .depend call ⟨child, target, .composition⟩ ∉ stmtSteps config s := by
    intro call hs
    obtain ⟨_, _, hby, -⟩ := by_stmtSteps hs (by simp)
    exact absurd hby.2.1 (by simp)
  have hmember : ∀ owner t k, t.IsMember →
      (Attempts (memberSteps owner (ofStmt t k).1) ⟨child, target, .composition⟩ ↔
        owner = child ∧ target ∉ basicTypes ∧ t.Declares target) := by
    intro owner t k hmember
    rw [attempts_iff_relate fun call hs => ?_]
    · exact relate_mem_memberSteps t k hmember
    · exact absurd (by_memberSteps (proper_ofStmt t k) hs).2.1 (by simp)
  rw [← attempts_iff_relate hstmt]
  exact attempts_stmtSteps_iff (by simp) hmember hsound hflat

/-- A visible definition of the class has an attribute that is annotated with the type, and the type is no
basic one. -/
def Annotated (config : Document) (modules : List (List Stmt)) (child target : String) : Prop :=
  target ∉ basicTypes ∧ ∃ d ∈ visibleAll (leavesOut config) modules.flatten, d.name = child
    ∧ ∃ s ∈ d.body, ∃ t, Stmt.Within Stmt.IsOpen s t ∧ t.Declares target

/--
**Annotated attributes always give their compositions.**

Let no visit end in a fault, and let no visible class stand inside of another. Then, after two passes, a
class is composed of every class that its attributes are annotated with, wherever the other class stands;
and it is composed of nothing else, except by calls whose values it assigns.
-/
theorem annotated_attributes_composed (config : Document) (modules : List (List Stmt))
    (hran : (twoPasses config modules).2 = none)
    (hflat : ∀ d ∈ visibleAll (leavesOut config) modules.flatten,
      visibleAll (leavesOut config) d.body = []) (child target : String) :
    (Annotated config modules child target → target ∈ (twoPasses config modules).1.graph.names →
        ⟨child, target, .composition⟩ ∈ (twoPasses config modules).1.graph.relations)
      ∧ (⟨child, target, .composition⟩ ∈ (twoPasses config modules).1.graph.relations →
        Annotated config modules child target
          ∨ ∃ s ∈ modules.flatten, ⟨child, target, .composition⟩ ∈ assignedCompositions config s) := by
  have hsound := (twoPasses_sound_iff config modules).mp hran
  have hstated : ∀ s ∈ modules.flatten,
      (.relate ⟨child, target, .composition⟩ ∈ stmtSteps config s ↔
        ∃ d ∈ visible (leavesOut config) s, ∃ u ∈ d.body, ∃ t, Stmt.Within Stmt.IsOpen u t
          ∧ t.IsMember ∧ d.name = child ∧ target ∉ basicTypes ∧ t.Declares target) := fun s hs =>
    relate_mem_stmtSteps (hsound s hs) fun d hd => hflat d (mem_visibleAll.mpr ⟨s, hs, hd⟩)
  constructor
  · intro hannotated htarget
    obtain ⟨hbasic, d, hd, hname, u, hu, t, hwithin, hdeclares⟩ := hannotated
    obtain ⟨s, hs, hd⟩ := mem_visibleAll.mp hd
    have hstep := (hstated s hs).mpr
      ⟨d, hd, u, hu, t, hwithin, isMember_of_declares hdeclares, hname, hbasic, hdeclares⟩
    have htry : (Step.relate ⟨child, target, .composition⟩).tries? []
        = some ⟨child, target, .composition⟩ := rfl
    have hsource : child ∈ broughtBy config modules.flatten :=
      mem_broughtBy.mpr ⟨s, hs, source_mem_arrivals hstep htry⟩
    have hjoins : Joins (broughtBy config modules.flatten) ⟨child, target, .composition⟩ :=
      ⟨hsource, (mem_names_twoPasses hsound).mp htarget⟩
    -- the second pass tries it again, when all classes are there
    obtain ⟨before, after, hmodules⟩ := List.append_of_mem hs
    exact (mem_relations_twoPasses hsound).mpr
      ⟨before, s, after, hmodules, formedIn_of_stated hstep hjoins⟩
  · intro hrelation
    obtain ⟨before, s, after, hmodules, done, step, rest, hsplit, htry, -⟩ :=
      (mem_relations_twoPasses hsound).mp hrelation
    have hs : s ∈ modules.flatten := by
      rw [hmodules]
      exact List.mem_append_right _ List.mem_cons_self
    have hstep : step ∈ stmtSteps config s := by
      rw [hsplit]
      exact List.mem_append_right _ List.mem_cons_self
    rcases tries?_cases htry with rfl | ⟨call, rfl⟩ | ⟨call, rfl⟩
    · obtain ⟨d, hd, u, hu, t, hwithin, -, hname, hbasic, hdeclares⟩ := (hstated s hs).mp hstep
      exact Or.inl ⟨hbasic, d, mem_visibleAll.mpr ⟨s, hs, hd⟩, hname, u, hu, t, hwithin, hdeclares⟩
    · exact Or.inr ⟨s, hs, mem_assignedCompositions.mpr ⟨call, hstep⟩⟩
    · obtain ⟨_, _, hby, -⟩ := by_stmtSteps hstep (by simp)
      exact absurd hby.2.1 (by simp)

/-- `self.member: Optional[module.type]` -/
def hinted (member type : String) : Stmt :=
  .annAssign (.member (.name "self") member)
    (.subscript (.name "Optional") (.member (.name "module") type)) none

/-- A function with an annotation inside of a function and of a loop. -/
def furnish : Stmt :=
  .functionDef false "furnish" (.mk [] [] none [] none)
    [.functionDef true "later" (.mk [] [] none [] none)
      [.whileLoop (.name "empty") [hinted "lamp" "Lamp"] []] [] none] [] none

/-- A class with annotations in a function, and in the body inside of a conditional. -/
def room : ClassDefinition :=
  ⟨"Room", [], [],
    [furnish, .conditional (.name "large") [.annAssign (.name "sofa") (.name "Sofa") none] []], []⟩

/-- The classes of the annotations, one before and one behind. -/
def house : List (List Stmt) :=
  [[.classDef "Lamp" [] [] [.pass] []], [room.stmt, .classDef "Sofa" [] [] [.pass] []]]

theorem house_compositions :
    (twoPasses errorsLeftOut house).2 = none
      ∧ (∀ d ∈ visibleAll (leavesOut errorsLeftOut) house.flatten,
        visibleAll (leavesOut errorsLeftOut) d.body = [])
      ∧ ⟨"Room", "Lamp", .composition⟩ ∈ (twoPasses errorsLeftOut house).1.graph.relations
      ∧ ⟨"Room", "Sofa", .composition⟩ ∈ (twoPasses errorsLeftOut house).1.graph.relations := by
  have hran : (twoPasses errorsLeftOut house).2 = none := Option.isNone_iff_eq_none.mp (by decide +kernel)
  have hvisible : visibleAll (leavesOut errorsLeftOut) house.flatten
      = [⟨"Lamp", [], [], [.pass], []⟩, room, ⟨"Sofa", [], [], [.pass], []⟩] := by rfl
  have hflat : ∀ d ∈ visibleAll (leavesOut errorsLeftOut) house.flatten,
      visibleAll (leavesOut errorsLeftOut) d.body = [] := by
    rw [hvisible]
    simp only [List.forall_mem_cons]
    exact ⟨rfl, rfl, rfl, by simp⟩
  have hnames : (twoPasses errorsLeftOut house).1.graph.names = ["Lamp", "Room", "Sofa"] := by
    decide +kernel
  have hroom : room ∈ visibleAll (leavesOut errorsLeftOut) house.flatten := by
    rw [hvisible]
    simp
  have hlamp : furnish.Declares "Lamp" :=
    .inFunction (.inside trivial List.mem_cons_self (.inside trivial List.mem_cons_self
      (.inside trivial List.mem_cons_self (.self (hinted "lamp" "Lamp"))))) (.mk (by decide))
  have hcomposed := annotated_attributes_composed errorsLeftOut house hran hflat "Room"
  rw [hnames] at hcomposed
  refine ⟨hran, hflat, (hcomposed "Lamp").1 ⟨by decide, room, hroom, rfl, ?_⟩ (by simp),
    (hcomposed "Sofa").1 ⟨by decide, room, hroom, rfl, ?_⟩ (by simp)⟩
  · exact ⟨furnish, List.mem_cons_self, furnish, .self _, hlamp⟩
  · exact ⟨_, List.mem_cons_of_mem _ List.mem_cons_self, _, .inside trivial List.mem_cons_self (.self _),
      .plain (by decide)⟩

end ClassAtlas.Proofs
