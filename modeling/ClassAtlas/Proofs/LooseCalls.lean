import ClassAtlas.Proofs.Members

/-!
# Loose calls

In the functions of a class all calls count, wherever they stand, but for those whose value is assigned to
an attribute of `self`: such a call is a composition. A call that counts is *loose*.

In a walk over a function, whether a call counts is a matter of numbers: it does unless its number is
remembered. Since all calls have numbers of their own, the two are the same. A class that walks over a
statement leaves a call of a name loose iff the statement calls the name loosely (`frees_ofStmt`).
-/

namespace ClassAtlas.Source

/-- `self.name` -/
def Expr.isSelfAttribute : Expr → Bool
  | .member (.name "self") _ => true
  | _ => false

/-- The expressions of a statement that are searched for loose calls. The value that is assigned to an
attribute of `self` is none of them, but its parts are. -/
def Stmt.looseExpressions : Stmt → List Expr
  | .assign targets value =>
    targets ++ if targets.any Expr.isSelfAttribute then value.parts else [value]
  | s => s.expressions

/-- A loose call of the plain name stands somewhere in the statement, at any depth. -/
def Stmt.CallsLoosely (s : Stmt) (name : String) : Prop :=
  ∃ t, Stmt.Within (fun _ => True) s t ∧ ∃ e ∈ t.looseExpressions, e.Calls name

theorem Stmt.callsLoosely_iff (s : Stmt) (name : String) :
    s.CallsLoosely name ↔ (∃ e ∈ s.looseExpressions, e.Calls name)
      ∨ ∃ t ∈ s.inner, t.CallsLoosely name := by
  constructor
  · rintro ⟨t, hwithin, hcalls⟩
    rcases Stmt.within_iff.mp hwithin with rfl | ⟨-, u, hu, hwithin⟩
    · exact Or.inl hcalls
    · exact Or.inr ⟨u, hu, t, hwithin, hcalls⟩
  · rintro (hcalls | ⟨u, hu, t, hwithin, hcalls⟩)
    · exact ⟨s, .self s, hcalls⟩
    · exact ⟨t, .inside trivial hu hwithin, hcalls⟩

end ClassAtlas.Source

namespace ClassAtlas.Proofs

open ClassAtlas Analysis Outline Source

/-! ## Loose calls of outlines -/

/-- The call is one of these, and the steps do not remember it. -/
def Loose (calls : List CallSite) (steps : List Step) (call : CallSite) : Prop :=
  call ∈ calls ∧ call.id ∉ remembered steps

/-- **Calls with different numbers are loose by themselves.** -/
theorem loose_append {calls more : List CallSite} {steps later : List Step} {call : CallSite}
    (hids : ((calls ++ more).map (·.id)).Nodup)
    (hsteps : ∀ id ∈ remembered steps, id ∈ calls.map (·.id))
    (hlater : ∀ id ∈ remembered later, id ∈ more.map (·.id)) :
    Loose (calls ++ more) (steps ++ later) call ↔ Loose calls steps call ∨ Loose more later call := by
  have hapart := (nodup_ids_append hids).2.2
  unfold Loose
  rw [remembered_append, List.mem_append, List.mem_append, not_or]
  constructor
  · rintro ⟨hcall | hcall, hnew, hnew'⟩
    · exact Or.inl ⟨hcall, hnew⟩
    · exact Or.inr ⟨hcall, hnew'⟩
  · rintro (⟨hcall, hnew⟩ | ⟨hcall, hnew⟩)
    · exact ⟨Or.inl hcall, hnew, fun h => hapart _ (List.mem_map_of_mem hcall) (hlater _ h)⟩
    · exact ⟨Or.inr hcall, fun h => hapart _ (hsteps _ h) (List.mem_map_of_mem hcall), hnew⟩

theorem remembered_of_forgetful {steps : List Step} (h : ∀ s ∈ steps, s.remembered? = none) :
    remembered steps = [] :=
  List.filterMap_eq_nil_iff.mpr h

theorem remembered_callSteps (owner : String) (calls : List CallSite) :
    remembered (callSteps owner calls) = [] :=
  remembered_of_forgetful forgetful_callSteps

theorem loose_callSteps {owner : String} {calls : List CallSite} {call : CallSite} :
    Loose calls (callSteps owner calls) call ↔ call ∈ calls := by
  unfold Loose
  rw [remembered_callSteps]
  exact and_iff_left (by simp)

/-- A walk remembers calls of what it walks over. -/
theorem remembered_walkAllSteps {owner : String} {body : List Outline} (hproper : properOutlines body)
    {id : Nat} (h : id ∈ remembered (walkAllSteps owner body)) : id ∈ (outlinesCalls body).map (·.id) := by
  obtain ⟨s, hs, hcall⟩ := call?_of_mem_remembered h
  exact (by_walkAllSteps body hproper id_mem_ids s hs).call_mem hcall

theorem remembered_walkSteps {owner : String} {o : Outline} (hproper : properOutline o) {id : Nat}
    (h : id ∈ remembered (walkSteps owner o)) : id ∈ (outlineCalls o).map (·.id) := by
  obtain ⟨s, hs, hcall⟩ := call?_of_mem_remembered h
  exact (by_walkSteps o hproper id_mem_ids s hs).call_mem hcall

theorem walkAllSteps_append (owner : String) (os more : List Outline) :
    walkAllSteps owner (os ++ more) = walkAllSteps owner os ++ walkAllSteps owner more := by
  induction os with
  | nil => rfl
  | cons o os ih => rw [List.cons_append, walkAllSteps, walkAllSteps, ih, List.append_assoc]

/-- Calls in front of a body are loose, and those that are loose in the body. -/
theorem loose_block {owner : String} {calls : List CallSite} {body : List Outline} {call : CallSite}
    (hproper : properOutlines body) (hids : ((calls ++ outlinesCalls body).map (·.id)).Nodup) :
    Loose (calls ++ outlinesCalls body) (callSteps owner calls ++ walkAllSteps owner body) call
      ↔ call ∈ calls ∨ Loose (outlinesCalls body) (walkAllSteps owner body) call := by
  rw [loose_append hids (by simp [remembered_callSteps]) fun _ => remembered_walkAllSteps hproper,
    loose_callSteps]

/-- The call is loose in the outline, for a class that walks over it. -/
def LooseIn (owner : String) (o : Outline) (call : CallSite) : Prop :=
  Loose (outlineCalls o) (walkSteps owner o) call

/-- The call is loose in the outlines. -/
def LooseInAll (owner : String) (os : List Outline) (call : CallSite) : Prop :=
  Loose (outlinesCalls os) (walkAllSteps owner os) call

/-! ## Loose calls of statements -/

/-- There is a loose call of the name iff one stands in the expressions, or a loose one in the statements,
whatever numbers the calls have. -/
def Frees (name : String) (loose : Nat → CallSite → Prop) (es : List Expr) (ss : List Stmt) : Prop :=
  ∀ n, (∃ call, loose n call ∧ call.callee = .name name)
    ↔ (∃ e ∈ es, e.Calls name) ∨ ∃ s ∈ ss, s.CallsLoosely name

section

variable {owner name : String}

theorem Finds.frees {m : Numbering (List CallSite)} {es : List Expr} (h : Finds name m es) :
    Frees name (fun n call => call ∈ (m n).1) es [] := by
  intro n
  rw [h n]
  simp

theorem frees_nil {loose : Nat → CallSite → Prop} (h : ∀ n call, ¬ loose n call) :
    Frees name loose [] [] := by
  intro n
  refine iff_of_false ?_ (by simp)
  rintro ⟨call, hcall, -⟩
  exact h n call hcall

theorem Frees.or {f g k : Nat → CallSite → Prop} {es ds : List Expr} {ss ts : List Stmt}
    (hf : Frees name f es ss) (hg : Frees name g ds ts)
    (hk : ∀ n, ∃ i j, ∀ call, call.callee = .name name → (k n call ↔ f i call ∨ g j call)) :
    Frees name k (es ++ ds) (ss ++ ts) := by
  intro n
  obtain ⟨i, j, hloose⟩ := hk n
  have hboth : (∃ call, k n call ∧ call.callee = .name name) ↔
      (∃ call, f i call ∧ call.callee = .name name) ∨ ∃ call, g j call ∧ call.callee = .name name := by
    rw [← exists_or]
    refine exists_congr fun call => ?_
    rw [← or_and_right]
    exact and_congr_left fun hname => hloose call hname
  simp only [hboth, hf i, hg j, List.mem_append, or_and_right, exists_or]
  exact or_or_or_comm

/-- What is loose in the own expressions and in the inner statements of a statement is loose in it. -/
theorem Frees.stmt {s : Stmt} {loose : Nat → CallSite → Prop} {es : List Expr}
    (h : Frees name loose es s.inner) (hs : s.looseExpressions = es) : Frees name loose [] [s] := by
  intro n
  rw [h n, ← hs]
  simp only [List.not_mem_nil, false_and, exists_false, false_or, List.mem_singleton, exists_eq_left]
  exact (s.callsLoosely_iff name).symm

theorem Frees.join {m k : Numbering (List Outline)} {es ds : List Expr} {ss ts : List Stmt}
    (hm : Consecutive m) (hk : Consecutive k) (h : Frees name (fun n => LooseInAll owner (m n).1) es ss)
    (h' : Frees name (fun n => LooseInAll owner (k n).1) ds ts) :
    Frees name (fun n => LooseInAll owner ((do let a ← m; return a ++ (← k) : Numbering _) n).1)
      (es ++ ds) (ss ++ ts) := by
  refine h.or h' fun n => ⟨n, (m n).2, fun call _ => ?_⟩
  show Loose (outlinesCalls ((m n).1 ++ _)) (walkAllSteps owner ((m n).1 ++ _)) call ↔ _
  rw [outlinesCalls_append, walkAllSteps_append]
  exact loose_append ((hm.pair hk).nodup n) (fun _ => remembered_walkAllSteps (hm.proper n))
    (fun _ => remembered_walkAllSteps (hk.proper _))

theorem Frees.cons {m : Numbering Outline} {k : Numbering (List Outline)} {es ds : List Expr}
    {ss ts : List Stmt} (hm : Consecutive m) (hk : Consecutive k)
    (h : Frees name (fun n => LooseIn owner (m n).1) es ss)
    (h' : Frees name (fun n => LooseInAll owner (k n).1) ds ts) :
    Frees name (fun n => LooseInAll owner ((do let a ← m; return a :: (← k) : Numbering _) n).1)
      (es ++ ds) (ss ++ ts) :=
  h.or h' fun n => ⟨n, (m n).2, fun _ _ => loose_append ((hm.pair hk).nodup n)
    (fun _ => remembered_walkSteps (hm.proper n)) (fun _ => remembered_walkAllSteps (hk.proper _))⟩

/-- Calls in front of a body, in whatever kind of outline. -/
theorem Frees.block {m : Numbering (List CallSite)} {k : Numbering (List Outline)} {o : Nat → Outline}
    {es ds : List Expr} {ss : List Stmt} (hm : Consecutive m) (hk : Consecutive k)
    (h : Finds name m es) (h' : Frees name (fun n => LooseInAll owner (k n).1) ds ss)
    (ho : ∀ n, outlineCalls (o n) = (m n).1 ++ outlinesCalls (k (m n).2).1
      ∧ walkSteps owner (o n) = callSteps owner (m n).1 ++ walkAllSteps owner (k (m n).2).1) :
    Frees name (fun n => LooseIn owner (o n)) (es ++ ds) ss := by
  refine h.frees.or h' fun n => ⟨n, (m n).2, fun call _ => ?_⟩
  unfold LooseIn
  rw [(ho n).1, (ho n).2]
  exact loose_block (hk.proper _) ((hm.pair hk).nodup n)

/-- A statement of no special kind, with statements inside. -/
theorem Frees.other {m : Numbering (List CallSite)} {k : Numbering (List Outline)} {es : List Expr}
    {ss : List Stmt} (hm : Consecutive m) (hk : Consecutive k) (h : Finds name m es)
    (h' : Frees name (fun n => LooseInAll owner (k n).1) [] ss) :
    Frees name (fun n => LooseIn owner ((do let a ← m; return Outline.other a (← k) : Numbering _) n).1)
      es ss := by
  rw [← List.append_nil es]
  exact Frees.block hm hk h h' fun _ => ⟨rfl, rfl⟩

/-- Calls with no body behind them. -/
theorem Frees.plain {m : Numbering (List CallSite)} {o : Nat → Outline} {es : List Expr}
    (h : Finds name m es)
    (ho : ∀ n, outlineCalls (o n) = (m n).1 ∧ remembered (walkSteps owner (o n)) = []) :
    Frees name (fun n => LooseIn owner (o n)) es [] := by
  have hloose : (fun n => LooseIn owner (o n)) = fun n call => call ∈ (m n).1 := by
    funext n call
    unfold LooseIn Loose
    rw [(ho n).1, (ho n).2]
    simp
  rw [hloose]
  exact h.frees

/-- A statement of no special kind, with no statements inside. -/
theorem frees_leaf {m : Numbering (List CallSite)} {es : List Expr} (h : Finds name m es) :
    Frees name (fun n => LooseIn owner (.other (m n).1 [])) es [] := by
  refine Frees.plain h fun n => ⟨List.append_nil _, ?_⟩
  rw [walkSteps, remembered_append, remembered_callSteps]
  rfl

/-! ## Assignments -/

theorem isSelf_targetOf (e : Expr) : isSelf (targetOf e) = e.isSelfAttribute := by
  unfold targetOf Expr.isSelfAttribute
  split <;> simp_all [isSelf]

theorem mem_remembered_composeSteps {value : Option CallSite} {id : Nat} :
    id ∈ remembered (composeSteps owner value) ↔
      ∃ call ∈ value, call.id = id ∧ calledClass? call.callee ≠ none := by
  cases value with
  | none => simp [composeSteps, remembered]
  | some call =>
    simp only [composeSteps]
    cases hclass : calledClass? call.callee with
    | none => simp [remembered, hclass]
    | some target => simp [remembered, Step.remembered?, hclass, eq_comm]

/-- An assignment in a function remembers its value if that calls something and a target is an attribute
of `self`. -/
theorem mem_remembered_assign {targets : List Target} {value : Option CallSite} {id : Nat} :
    id ∈ remembered (targets.flatMap (assignSelfSteps owner value)) ↔
      targets.any isSelf = true ∧ ∃ call ∈ value, call.id = id ∧ calledClass? call.callee ≠ none := by
  have htarget : ∀ t, id ∈ remembered (assignSelfSteps owner value t) ↔
      isSelf t = true ∧ ∃ call ∈ value, call.id = id ∧ calledClass? call.callee ≠ none := by
    intro t
    cases t with
    | selfAttribute member =>
      rw [← @mem_remembered_composeSteps owner, assignSelfSteps, remembered_cons]
      simp [Step.remembered?, isSelf]
    | name id => simp [assignSelfSteps, remembered, isSelf]
    | other => simp [assignSelfSteps, remembered, isSelf]
  unfold remembered at htarget ⊢
  rw [List.filterMap_flatMap, List.mem_flatMap, List.any_eq_true]
  simp only [htarget]
  constructor
  · rintro ⟨t, ht, hself, hcall⟩
    exact ⟨⟨t, ht, hself⟩, hcall⟩
  · rintro ⟨⟨t, ht, hself⟩, hcall⟩
    exact ⟨t, ht, hself, hcall⟩

/-- A value that is no call is searched by searching its parts. -/
theorem finds_parts {value : Expr} (hcall : isCall value = false) :
    Finds name (callsIn value) value.parts := by
  intro n
  rw [finds_callsIn name value n]
  simp only [List.mem_singleton, exists_eq_left]
  rw [value.calls_iff name]
  refine or_iff_right ?_
  rintro ⟨arguments, keywords, rfl⟩
  exact absurd hcall (by simp [isCall])

/-- An assignment that remembers nothing leaves all its calls loose. -/
theorem frees_assign_of_forgetful {targets : List Expr} {value : Expr} {es : List Expr}
    (hvalue : Finds name (callsIn value) es)
    (hforgets : targets.any Expr.isSelfAttribute = false ∨ isCall value = false) :
    Frees name (fun n => LooseIn owner (ofStmt (.assign targets value) n).1) (targets ++ es) [] := by
  refine Frees.plain ((finds_callsInAll name targets).append hvalue) fun n => ⟨rfl, ?_⟩
  show remembered ((targets.map targetOf).flatMap (assignSelfSteps owner (if isCall value then _ else none))
    ++ callSteps owner _) = []
  rw [remembered_append, remembered_callSteps, List.append_nil, List.eq_nil_iff_forall_not_mem]
  intro id hid
  obtain ⟨hself, call, hcall, -⟩ := mem_remembered_assign.mp hid
  rcases hforgets with hforgets | hforgets
  · rw [List.any_map, Function.comp_def] at hself
    simp only [isSelf_targetOf, hforgets] at hself
    exact absurd hself (by simp)
  · rw [hforgets] at hcall
    exact absurd hcall (by simp)

/-- A call that is assigned to an attribute of `self` is not loose, but all other calls are. -/
theorem looseIn_assign {targets : List Target} {calls rest : List CallSite} {head call : CallSite}
    (hids : ((calls ++ head :: rest).map (·.id)).Nodup) (hself : targets.any isSelf = true)
    (hclass : calledClass? call.callee ≠ none) :
    LooseIn owner (.assign targets (some head) (calls ++ head :: rest)) call
      ↔ call ∈ calls ∨ call ∈ rest := by
  obtain ⟨-, hvalue, hapart⟩ := nodup_ids_append hids
  rw [List.map_cons, List.nodup_cons] at hvalue
  have hremembered : ∀ id, id ∈ remembered (walkSteps owner (.assign targets (some head)
      (calls ++ head :: rest))) → id = head.id := by
    intro id hid
    rw [walkSteps, remembered_append, remembered_callSteps, List.append_nil] at hid
    obtain ⟨-, c, hc, hid, -⟩ := mem_remembered_assign.mp hid
    rw [← hid, Option.some.inj hc]
  constructor
  · rintro ⟨hcall, hnew⟩
    rcases List.mem_append.mp hcall with hcall | hcall
    · exact Or.inl hcall
    · rcases List.mem_cons.mp hcall with rfl | hcall
      · refine absurd ?_ hnew
        rw [walkSteps, remembered_append]
        exact List.mem_append_left _ (mem_remembered_assign.mpr ⟨hself, call, rfl, rfl, hclass⟩)
      · exact Or.inr hcall
  · rintro (hcall | hcall)
    · refine ⟨List.mem_append_left _ hcall, fun hid => ?_⟩
      refine hapart call.id (List.mem_map_of_mem hcall) ?_
      rw [hremembered _ hid]
      exact List.mem_map_of_mem List.mem_cons_self
    · refine ⟨List.mem_append_right _ (List.mem_cons_of_mem _ hcall), fun hid => ?_⟩
      refine hvalue.1 ?_
      rw [← hremembered _ hid]
      exact List.mem_map_of_mem hcall

theorem frees_assign_call {targets : List Expr} {callee : Expr} {arguments : List Expr}
    {keywords : List Keyword} (hself : targets.any Expr.isSelfAttribute = true) :
    Frees name
      (fun n => LooseIn owner (ofStmt (.assign targets (.call callee arguments keywords)) n).1)
      (targets ++ (Expr.call callee arguments keywords).parts) [] := by
  have hparts := ((finds_callsIn name callee).append (finds_callsInAll name arguments)).append
    (finds_callsInKeywords name keywords)
  refine (finds_callsInAll name targets).frees.or hparts.frees fun n =>
    ⟨n, (callsInAll targets n).2 + 1, fun call hname => ?_⟩
  have hids := ((consecutive_callsInAll targets).append
    (consecutive_callsIn (.call callee arguments keywords))).nodup n
  have htargets : (targets.map targetOf).any isSelf = true := by
    rw [List.any_map, Function.comp_def]
    simp only [isSelf_targetOf]
    exact hself
  exact looseIn_assign hids htargets (by rw [hname]; simp [calledClass?])

theorem frees_assign (targets : List Expr) (value : Expr) :
    Frees name (fun n => LooseIn owner (ofStmt (.assign targets value) n).1)
      (Stmt.assign targets value).looseExpressions [] := by
  show Frees name _ (targets ++ if targets.any Expr.isSelfAttribute then value.parts else [value]) []
  by_cases hself : targets.any Expr.isSelfAttribute = true
  · rw [if_pos hself]
    by_cases hcall : isCall value = true
    · cases value with
      | call callee arguments keywords => exact frees_assign_call hself
      | _ => exact absurd hcall (by simp [isCall])
    · rw [Bool.not_eq_true] at hcall
      exact frees_assign_of_forgetful (finds_parts hcall) (Or.inr hcall)
  · rw [if_neg hself]
    rw [Bool.not_eq_true] at hself
    exact frees_assign_of_forgetful (finds_callsIn name value) (Or.inl hself)

/-- An annotated assignment remembers nothing. -/
theorem frees_annAssign (target annotation : Expr) (value : Option Expr) :
    Frees name (fun n => LooseIn owner (ofStmt (.annAssign target annotation value) n).1)
      (Stmt.annAssign target annotation value).looseExpressions [] := by
  refine Frees.plain (((finds_callsIn name target).append (finds_callsIn name annotation)).append
    (finds_callsInOption name value)) fun n => ⟨rfl, remembered_of_forgetful fun s hs => ?_⟩
  rcases List.mem_append.mp hs with hs | hs
  · exact (by_annotateSelfSteps (targetOf target) hs).forgetful
  · exact forgetful_callSteps s hs

end

/-! ## All statements -/

section

variable (owner name : String)

mutual

/-- **A walk over a statement leaves loose what is called loosely in it.** -/
theorem frees_ofStmt : ∀ s : Stmt, Frees name (fun n => LooseIn owner (ofStmt s n).1) [] [s]
  | .functionDef isAsync _ parameters body decorators returns => by
      refine (Frees.block (((consecutive_callsInParameters parameters).append
        (consecutive_callsInAll decorators)).append (consecutive_callsInOption returns))
        (consecutive_ofStmtList body) (((finds_callsInParameters name parameters).append
        (finds_callsInAll name decorators)).append (finds_callsInOption name returns))
        (frees_ofStmtList body) fun n => ?_).stmt (List.append_nil _).symm
      cases isAsync with
      | true => exact ⟨rfl, rfl⟩
      | false => exact ⟨rfl, rfl⟩
  | .classDef _ bases keywords body decorators =>
    (Frees.block (((consecutive_callsInAll bases).append (consecutive_callsInKeywords keywords)).append
      (consecutive_callsInAll decorators)) (consecutive_ofStmtList body)
      (((finds_callsInAll name bases).append (finds_callsInKeywords name keywords)).append
      (finds_callsInAll name decorators)) (frees_ofStmtList body) fun _ => ⟨rfl, rfl⟩).stmt
      (List.append_nil _).symm
  | .returnValue value => (frees_leaf (finds_callsInOption name value)).stmt rfl
  | .delete targets => (frees_leaf (finds_callsInAll name targets)).stmt rfl
  | .assign targets value => (frees_assign targets value).stmt rfl
  | .augAssign target _ value =>
    (frees_leaf ((finds_callsIn name target).append (finds_callsIn name value))).stmt rfl
  | .annAssign target annotation value => (frees_annAssign target annotation value).stmt rfl
  | .forLoop _ target source body orElse =>
    (Frees.other ((consecutive_callsIn target).append (consecutive_callsIn source))
      ((consecutive_ofStmtList body).join (consecutive_ofStmtList orElse))
      ((finds_callsIn name target).append (finds_callsIn name source))
      (Frees.join (consecutive_ofStmtList body) (consecutive_ofStmtList orElse) (frees_ofStmtList body)
        (frees_ofStmtList orElse))).stmt rfl
  | .whileLoop test body orElse =>
    (Frees.other (consecutive_callsIn test)
      ((consecutive_ofStmtList body).join (consecutive_ofStmtList orElse)) (finds_callsIn name test)
      (Frees.join (consecutive_ofStmtList body) (consecutive_ofStmtList orElse) (frees_ofStmtList body)
        (frees_ofStmtList orElse))).stmt rfl
  | .conditional test body orElse =>
    (Frees.other (consecutive_callsIn test)
      ((consecutive_ofStmtList body).join (consecutive_ofStmtList orElse)) (finds_callsIn name test)
      (Frees.join (consecutive_ofStmtList body) (consecutive_ofStmtList orElse) (frees_ofStmtList body)
        (frees_ofStmtList orElse))).stmt rfl
  | .withBlock _ items body =>
    (Frees.other (consecutive_callsInWithItems items) (consecutive_ofStmtList body)
      (finds_callsInWithItems name items) (frees_ofStmtList body)).stmt rfl
  | .matchBlock subject cases =>
    (Frees.block (consecutive_callsIn subject) (consecutive_ofCases cases) (finds_callsIn name subject)
      (frees_ofCases cases) fun _ => ⟨rfl, rfl⟩).stmt rfl
  | .raise error cause =>
    (frees_leaf ((finds_callsInOption name error).append (finds_callsInOption name cause))).stmt rfl
  | .tryBlock _ body handlers orElse final => by
      have hbody := consecutive_ofStmtList body
      have hhandlers := consecutive_ofHandlers handlers
      have horElse := consecutive_ofStmtList orElse
      have hfinal := consecutive_ofStmtList final
      have hinner := Frees.join ((hbody.join hhandlers).join horElse) hfinal
        (Frees.join (hbody.join hhandlers) horElse
          (Frees.join hbody hhandlers (frees_ofStmtList body) (frees_ofHandlers handlers))
          (frees_ofStmtList orElse)) (frees_ofStmtList final)
      refine (Frees.block consecutive_none (((hbody.join hhandlers).join horElse).join hfinal) finds_none
        hinner fun _ => ⟨rfl, rfl⟩).stmt ?_
      simp [Stmt.looseExpressions, Stmt.expressions]
  | .assert test message =>
    (frees_leaf ((finds_callsIn name test).append (finds_callsInOption name message))).stmt rfl
  | .expr value => (frees_leaf (finds_callsIn name value)).stmt rfl
  | .importModules | .importFrom | .globalNames | .nonlocalNames | .pass | .breakLoop
  | .continueLoop => (frees_leaf finds_none).stmt rfl

theorem frees_ofStmtList : ∀ ss : List Stmt,
    Frees name (fun n => LooseInAll owner (ofStmtList ss n).1) [] ss
  | [] => frees_nil fun _ _ h => List.not_mem_nil h.1
  | s :: rest => Frees.cons (consecutive_ofStmt s) (consecutive_ofStmtList rest) (frees_ofStmt s)
      (frees_ofStmtList rest)

theorem frees_ofCases : ∀ cs : List MatchCase,
    Frees name (fun n => LooseInAll owner (ofCases cs n).1) (cs.flatMap MatchCase.expressions)
      (cs.flatMap MatchCase.body)
  | [] => frees_nil fun _ _ h => List.not_mem_nil h.1
  | .mk pattern guard body :: rest => by
      have hcalls := (consecutive_callsInPattern pattern).append (consecutive_callsInOption guard)
      have hfirst := Frees.other hcalls (consecutive_ofStmtList body)
        ((finds_callsInPattern name pattern).append (finds_callsInOption name guard)) (frees_ofStmtList body)
      exact Frees.cons (hcalls.block (consecutive_ofStmtList body)) (consecutive_ofCases rest) hfirst
        (frees_ofCases rest)

theorem frees_ofHandlers : ∀ hs : List Handler,
    Frees name (fun n => LooseInAll owner (ofHandlers hs n).1) (hs.flatMap Handler.expressions)
      (hs.flatMap Handler.body)
  | [] => frees_nil fun _ _ h => List.not_mem_nil h.1
  | .mk error body :: rest => by
      have hcalls := consecutive_callsInOption error
      have hfirst := Frees.other hcalls (consecutive_ofStmtList body) (finds_callsInOption name error)
        (frees_ofStmtList body)
      exact Frees.cons (hcalls.block (consecutive_ofStmtList body)) (consecutive_ofHandlers rest) hfirst
        (frees_ofHandlers rest)

end

end

end ClassAtlas.Proofs
