import ClassAtlas.Proofs.Steps
import ClassAtlas.Scan

/-!
# What jobs do

A job may end in a fault at every line that it prints, since the console may refuse the line, and what it did
until then stays done. `Ensures` says what holds of the workspace that a job leaves behind, whether it gives a
result or ends in a fault; `Does` says that it gives a result. Either has one rule for each elementary job and
for recovering from errors, and whatever is said about longer jobs follows from these rules.
-/

namespace ClassAtlas

/-! ## Consoles -/

namespace Console

/-- The console takes the line, whatever was printed before. -/
def Takes (console : Console) (line : String) : Prop :=
  ∀ printed, console.refusal printed line = none

/-- The console refuses the line, at least behind some text. -/
def Refuses (console : Console) (line : String) : Prop :=
  ∃ printed fault, console.refusal printed line = some fault

end Console

namespace Job

variable {α β : Type} {console : Console} {onFault : Workspace → Prop} {w after : Workspace}

section
variable {a : Job α} {f : α → Job β} {s s' : Session}

theorem bind_of_ok {v : α} (h : a console s = (.ok v, s')) : (a >>= f) console s = f v console s' :=
  Proofs.bind_of_ok h

theorem bind_of_error {fault : Fault} (h : a console s = (.error fault, s')) :
    (a >>= f) console s = (.error fault, s') :=
  Proofs.bind_of_error h

end

/-! ## Whatever happens -/

/-- Started in the workspace, the job gives a result for which the condition holds with the workspace that it
leaves behind, or it ends in a fault and leaves a workspace for which `onFault` holds. -/
structure Ensures (console : Console) (onFault : Workspace → Prop) (j : Job α) (w : Workspace)
    (condition : α → Workspace → Prop) : Prop where
  ends : ∀ printed, match j console { workspace := w, printed := printed } with
    | (.ok v, s) => condition v s.workspace
    | (.error _, s) => onFault s.workspace

section
variable {condition : α → Workspace → Prop}

theorem Ensures.mono {j : Job α} {stronger : α → Workspace → Prop} {onStrongerFault : Workspace → Prop}
    (h : Ensures console onStrongerFault j w stronger) (himp : ∀ v after, stronger v after → condition v after)
    (hfault : ∀ after, onStrongerFault after → onFault after) : Ensures console onFault j w condition := by
  refine ⟨fun printed => ?_⟩
  have hj := h.ends printed
  rcases hrun : j console { workspace := w, printed := printed } with ⟨_ | v, s⟩
  · rw [hrun] at hj
    exact hfault s.workspace hj
  · rw [hrun] at hj
    exact himp v s.workspace hj

end

/-! ## Without an obstacle -/

/-- Started in the one workspace, the job gives the result and leaves the other workspace. -/
structure Does (console : Console) (j : Job α) (w : Workspace) (v : α) (after : Workspace) : Prop where
  ends : ∀ printed, ∃ more,
    j console { workspace := w, printed := printed } = (.ok v, { workspace := after, printed := more })

theorem does_pure (v : α) (w : Workspace) : Does console (pure v) w v w :=
  ⟨fun printed => ⟨printed, rfl⟩⟩

theorem does_bind {a : Job α} {f : α → Job β} {v : α} {u : β} {middle : Workspace}
    (ha : Does console a w v middle) (hf : Does console (f v) middle u after) :
    Does console (a >>= f) w u after := by
  refine ⟨fun printed => ?_⟩
  obtain ⟨more, hmore⟩ := ha.ends printed
  rw [bind_of_ok hmore]
  exact hf.ends more

theorem does_workspace (w : Workspace) : Does console workspace w w w :=
  ⟨fun printed => ⟨printed, rfl⟩⟩

theorem does_ofExcept {r : Except Fault α} {v : α} (h : r = .ok v) (w : Workspace) :
    Does console (ofExcept r) w v w := by
  subst h
  exact ⟨fun printed => ⟨printed, rfl⟩⟩

theorem does_write {file text : String} (h : w.write file text = .ok after) :
    Does console (write file text) w () after := by
  refine ⟨fun printed => ⟨printed, ?_⟩⟩
  simp only [write, h]

theorem does_printLine {line : String} (h : console.Takes line) (w : Workspace) :
    Does console (printLine line) w () w := by
  refine ⟨fun printed => ⟨printed ++ line ++ "\n", ?_⟩⟩
  unfold printLine
  rw [h printed]

theorem does_printLines {lines : List String} (h : ∀ line ∈ lines, console.Takes line) (w : Workspace) :
    Does console (printLines lines) w () w := by
  induction lines with
  | nil => exact does_pure () w
  | cons line rest ih =>
    obtain ⟨hline, hrest⟩ := List.forall_mem_cons.mp h
    exact does_bind (does_printLine hline w) (ih hrest)

/-- Where there is no fault there is nothing to recover from. -/
theorem recover_of_ok {body : Job α} {handler : Fault → Job α} {v : α} {s s' : Session}
    (h : body console s = (.ok v, s')) : recover body handler console s = (.ok v, s') := by
  unfold recover
  rw [h]

theorem tell_of_takes {notice : Diagram.Notice} (h : console.Takes notice.line) (s : Session) :
    tell notice console s = (.ok (), { s with printed := s.printed ++ (notice.line ++ "\n") }) := by
  have hline : printLine notice.line console s
      = (.ok (), { s with printed := s.printed ++ (notice.line ++ "\n") }) := by
    unfold printLine
    rw [h s.printed, ← String.append_assoc]
  cases notice with
  | plain line => exact hline
  | drawn r => exact recover_of_ok hline

/-- **Notices that are taken are printed one after the other.** -/
theorem tellAll_of_takes {notices : List Diagram.Notice} (h : ∀ notice ∈ notices, console.Takes notice.line)
    (s : Session) : tellAll notices console s
      = (.ok (), { s with printed := s.printed ++ String.join (notices.map (·.line ++ "\n")) }) := by
  induction notices generalizing s with
  | nil => exact congrArg (Prod.mk _) (congrArg (Session.mk s.workspace) String.append_empty.symm)
  | cons notice rest ih =>
    obtain ⟨hnotice, hrest⟩ := List.forall_mem_cons.mp h
    rw [tellAll, bind_of_ok (tell_of_takes hnotice s), ih hrest, List.map_cons, String.join_cons,
      String.append_assoc]

theorem does_tellAll {notices : List Diagram.Notice} (h : ∀ notice ∈ notices, console.Takes notice.line)
    (w : Workspace) : Does console (tellAll notices) w () w :=
  ⟨fun _ => ⟨_, tellAll_of_takes h _⟩⟩

/-! ## Errors and what becomes of them -/

/-- Started in the one workspace, the job ends in the fault and leaves the other workspace. -/
structure Fails (console : Console) (j : Job α) (w : Workspace) (fault : Fault) (after : Workspace) : Prop where
  ends : ∀ printed, ∃ more,
    j console { workspace := w, printed := printed } = (.error fault, { workspace := after, printed := more })

theorem fails_printLine {line : String} {fault : Fault}
    (h : ∀ printed, console.refusal printed line = some fault) (w : Workspace) :
    Fails console (printLine line) w fault w := by
  refine ⟨fun printed => ⟨printed, ?_⟩⟩
  unfold printLine
  rw [h printed]

theorem fails_bind {a : Job α} {f : α → Job β} {fault : Fault} (h : Fails console a w fault after) :
    Fails console (a >>= f) w fault after := by
  refine ⟨fun printed => ?_⟩
  obtain ⟨more, hmore⟩ := h.ends printed
  exact ⟨more, bind_of_error hmore⟩

theorem Does.fails_bind {a : Job α} {f : α → Job β} {v : α} {fault : Fault} {middle : Workspace}
    (ha : Does console a w v middle) (hf : Fails console (f v) middle fault after) :
    Fails console (a >>= f) w fault after := by
  refine ⟨fun printed => ?_⟩
  obtain ⟨more, hmore⟩ := ha.ends printed
  rw [bind_of_ok hmore]
  exact hf.ends more

/-- An error is recovered from in the workspace that it has left. -/
theorem Fails.recover {body : Job α} {handler : Fault → Job α} {fault : Fault} {v : α} {middle : Workspace}
    (hbody : Fails console body w fault middle) (herror : fault.isError = true)
    (hhandler : Does console (handler fault) middle v after) :
    Does console (recover body handler) w v after := by
  refine ⟨fun printed => ?_⟩
  obtain ⟨more, hmore⟩ := hbody.ends printed
  unfold Job.recover
  rw [hmore]
  simp only [herror, if_true]
  exact hhandler.ends more

end Job

end ClassAtlas
