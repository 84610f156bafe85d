import Chip8.Proofs.Histories

/-!
# What a run publishes

The picture of a machine changes only when an instruction draws, and it then waits to be taken.
Each look of a run takes it and publishes it, so at the end of a run the panel shows the picture
of the machine if anything was drawn, or waited already, and what it showed before if not
(`published_polls`). The timers are published at every look.
-/
namespace Chip8

namespace Instruction

/-- Some of the executed instructions draw upon the screen. -/
def Drawn (executed : List Instruction) : Prop := ∃ ins ∈ executed, ins.Draws

/-- Nothing is drawn by executing nothing. -/
theorem not_drawn_nil : ¬Drawn [] := fun ⟨_, member, _⟩ => absurd member List.not_mem_nil

/-- Something is drawn by executing one instruction exactly when it draws. -/
theorem drawn_singleton (ins : Instruction) : Drawn [ins] ↔ ins.Draws := by
  simp only [Drawn, List.mem_singleton, exists_eq_left]

/-- Something is drawn in two parts exactly when it is drawn in one of them. -/
theorem drawn_append (earlier later : List Instruction) :
    Drawn (earlier ++ later) ↔ Drawn earlier ∨ Drawn later := by
  simp only [Drawn, List.mem_append, or_and_right, exists_or]

end Instruction

open Instruction (Drawn not_drawn_nil drawn_singleton drawn_append)

namespace Screen

/-- The later picture is the earlier one unless something was drawn, and it waits to be taken if
something was drawn or the earlier one did. -/
structure Redrawn (before after : Screen) (drawn : Prop) : Prop where
  /-- A picture upon which nothing was drawn is the same. -/
  pixels : ¬drawn → after.pixels = before.pixels
  /-- A picture waits if it did before or something was drawn. -/
  dirty : after.dirty = true ↔ before.dirty = true ∨ drawn

/-- The same screen is not drawn upon. -/
theorem Redrawn.refl {before after : Screen} {drawn : Prop} (same : after = before)
    (still : ¬drawn) : Redrawn before after drawn := by
  subst same
  exact ⟨fun _ => rfl, ⟨.inl, fun waits => waits.resolve_right still⟩⟩

/-- A screen upon which nothing is drawn is the same. -/
theorem Redrawn.eq_of_still {before after : Screen} {drawn : Prop}
    (redrawn : Redrawn before after drawn) (still : ¬drawn) : after = before := by
  have pixels := redrawn.pixels still
  have dirty := redrawn.dirty
  rw [or_iff_left still, ← Bool.eq_iff_iff] at dirty
  obtain ⟨beforePixels, beforeDirty⟩ := before
  obtain ⟨afterPixels, afterDirty⟩ := after
  dsimp only at pixels dirty
  rw [pixels, dirty]

/-- What is drawn may be said in other words. -/
theorem Redrawn.congr {before after : Screen} {drawn other : Prop}
    (redrawn : Redrawn before after drawn) (same : other ↔ drawn) : Redrawn before after other :=
  ⟨fun still => redrawn.pixels (mt same.2 still), by rw [redrawn.dirty, same]⟩

/-- Drawing in two parts is drawing in one of them. -/
theorem Redrawn.trans {before between after : Screen} {first second : Prop}
    (earlier : Redrawn before between first) (later : Redrawn between after second) :
    Redrawn before after (first ∨ second) := by
  constructor
  · intro still
    obtain ⟨noFirst, noSecond⟩ := not_or.1 still
    rw [later.pixels noSecond, earlier.pixels noFirst]
  · rw [later.dirty, earlier.dirty, or_assoc]

end Screen

open Screen (Redrawn)

namespace Machine

variable {machine : Machine}

/-- An instruction that draws marks the picture, and any other leaves the screen. -/
theorem redrawn_effect (machine : Machine) (ins : Instruction) :
    Redrawn machine.screen (machine.effect ins).screen ins.Draws := by
  by_cases draws : ins.Draws
  · exact ⟨fun still => absurd draws still, iff_of_true (dirty_effect draws) (.inr draws)⟩
  · exact .refl (screen_effect draws) draws

/-- An operation draws what it executes, if it keeps the program and does not take the picture. -/
theorem redrawn_perform {operation : Operation} (machine : Machine)
    (keeps : operation.KeepsProgram) (leaves : operation ≠ .takeFrame) :
    Redrawn machine.screen (machine.perform operation).2.screen
      (Drawn (machine.perform operation).1.executed?.toList) := by
  cases done : (machine.perform operation).1.executed? with
  | some ins =>
    rw [perform_of_executed done]
    exact (machine.redrawn_effect ins).congr (drawn_singleton ins)
  | none =>
    cases operation with
    | step | execute =>
      rw [perform_of_idle done trivial]
      exact .refl rfl not_drawn_nil
    | load | reset => exact keeps.elim
    | takeFrame => exact absurd rfl leaves
    | _ => exact .refl rfl not_drawn_nil

/-- A history draws what its instructions draw, if it keeps the program and the picture is not
taken. -/
theorem redrawn_performAll {history : List Operation}
    (kept : ∀ operation ∈ history, operation.KeepsProgram ∧ operation ≠ .takeFrame) :
    Redrawn machine.screen (machine.performAll history).screen
      (Drawn (machine.executed history)) := by
  induction history generalizing machine with
  | nil => exact .refl rfl not_drawn_nil
  | cons operation later inductionHypothesis =>
    obtain ⟨⟨keeps, leaves⟩, others⟩ := List.forall_mem_cons.1 kept
    have first := machine.redrawn_perform keeps leaves
    have rest : Redrawn (machine.perform operation).2.screen
        ((machine.perform operation).2.performAll later).screen
        (Drawn ((machine.perform operation).2.executed later)) := inductionHypothesis others
    rw [performAll_cons, Machine.executed, drawn_append]
    exact first.trans rest

end Machine

namespace Panel

/-- Bringing a panel up to date publishes a picture that waits. -/
theorem frame_sync (panel : Panel) (machine : Machine) :
    (panel.sync machine).1.frame =
      if machine.screen.dirty then ⟨machine.screen.pixels, true⟩ else panel.frame := by
  obtain ⟨pc, index, registers, stack, timers, status, keys, shift, random, memory,
    ⟨pixels, dirty⟩⟩ := machine
  cases dirty with
  | false => rfl
  | true => rfl

end Panel

namespace Run

/-- The panel shows the machine's picture if something was drawn, and what it showed before if
not; unless the host takes pictures, it waits for the host if it did before or something was
drawn. -/
structure Published (before after : Run) (drawn untaken : Prop) : Prop where
  /-- A picture that was drawn upon is shown. -/
  shown : drawn → after.panel.frame.pixels = after.machine.screen.pixels
  /-- Otherwise the panel shows what it showed before. -/
  kept : ¬drawn → after.panel.frame.pixels = before.panel.frame.pixels ∧
    after.machine.screen.pixels = before.machine.screen.pixels
  /-- A picture on the panel waits for a host that does not take it. -/
  marked : untaken →
    (after.panel.frame.dirty = true ↔ before.panel.frame.dirty = true ∨ drawn)

/-- Less may be known of the host. -/
theorem Published.weaken {before after : Run} {drawn untaken less : Prop}
    (published : Published before after drawn untaken) (implies : less → untaken) :
    Published before after drawn less :=
  ⟨published.shown, published.kept, fun known => published.marked (implies known)⟩

/-- Publishing in two parts. -/
theorem Published.trans {before between after : Run} {first second noFirst noSecond : Prop}
    (earlier : Published before between first noFirst)
    (later : Published between after second noSecond) :
    Published before after (first ∨ second) (noFirst ∧ noSecond) := by
  constructor
  · intro drawn
    by_cases more : second
    · exact later.shown more
    · obtain ⟨frame, picture⟩ := later.kept more
      rw [frame, picture]
      exact earlier.shown (drawn.resolve_right more)
  · intro still
    obtain ⟨stillFirst, stillSecond⟩ := not_or.1 still
    obtain ⟨frame, picture⟩ := later.kept stillSecond
    obtain ⟨earlierFrame, earlierPicture⟩ := earlier.kept stillFirst
    exact ⟨frame.trans earlierFrame, picture.trans earlierPicture⟩
  · rintro ⟨untakenFirst, untakenSecond⟩
    rw [later.marked untakenSecond, earlier.marked untakenFirst, or_assoc]

/-- A look takes and publishes a picture that waits or was drawn upon. -/
theorem published_poll (run : Run) (look : Look) :
    Published run (run.poll look).1
      (run.machine.screen.dirty = true ∨ Drawn (run.machine.executed (run.lookOperations look)))
      (look.takes = false) := by
  have redrawn : Redrawn run.machine.screen (run.worked look).screen
      (Drawn (run.machine.executed (run.workOperations look))) := by
    refine Machine.redrawn_performAll fun operation member => ?_
    obtain ⟨paced, leaves⟩ := mem_workOperations member
    exact ⟨paced.keepsProgram, leaves⟩
  have trace : run.machine.executed (run.lookOperations look) =
      run.machine.executed (run.workOperations look) := by
    rw [lookOperations, Machine.executed_append]
    exact List.append_nil _
  have picture : (run.poll look).1.machine.screen.pixels = (run.worked look).screen.pixels := by
    rw [machine_poll, lookOperations, Machine.performAll_append]
    rfl
  have frame : (run.poll look).1.panel.frame =
      if (run.worked look).screen.dirty then ⟨(run.worked look).screen.pixels, true⟩
      else (look.used run.panel).frame := by
    rw [panel_poll, Panel.frame_sync]
  have used : (look.used run.panel).frame.pixels = run.panel.frame.pixels := by
    unfold Look.used
    cases look.takes <;> rfl
  rw [trace, ← redrawn.dirty]
  constructor
  · intro drawn
    rw [frame, if_pos drawn, picture]
  · intro still
    have undrawn : ¬Drawn (run.machine.executed (run.workOperations look)) :=
      fun drawn => still (redrawn.dirty.2 (.inr drawn))
    rw [frame, if_neg still, picture]
    exact ⟨used, redrawn.pixels undrawn⟩
  · intro untaken
    have unused : (look.used run.panel).frame = run.panel.frame := by
      unfold Look.used
      rw [untaken]
      rfl
    rw [frame, unused]
    by_cases drawn : (run.worked look).screen.dirty = true
    · rw [if_pos drawn]
      exact ⟨fun _ => .inr drawn, fun _ => rfl⟩
    · rw [if_neg drawn]
      exact ⟨.inl, fun waits => waits.resolve_right drawn⟩

/-- After a look nobody waits for the machine's picture any more. -/
theorem dirty_poll (run : Run) (look : Look) :
    (run.poll look).1.machine.screen.dirty = false := by
  rw [machine_poll, lookOperations, Machine.performAll_append]
  rfl

/-- After a look the panel shows the machine's timers. -/
theorem timers_poll (run : Run) (look : Look) :
    (run.poll look).1.panel.timers = (run.poll look).1.machine.timers := by
  rw [panel_poll, machine_poll, lookOperations, Machine.performAll_append]
  rfl

/-- A run that looks at the clock at all ends with a look. -/
theorem polls_eq_poll (run : Run) {looks : List Look} (nonempty : looks ≠ []) :
    ∃ before last, (run.polls looks).1 = (Run.poll before last).1 := by
  induction looks generalizing run with
  | nil => exact absurd rfl nonempty
  | cons look later inductionHypothesis =>
    cases met : (run.poll look).2 with
    | some fault =>
      rw [polls_cons_of_fault met]
      exact ⟨run, look, rfl⟩
    | none =>
      rw [polls_cons_of_fine met]
      cases later with
      | nil => exact ⟨run, look, rfl⟩
      | cons next others => exact inductionHypothesis _ (List.cons_ne_nil next others)

/-- **What a run publishes.** A run that looks at the clock at all leaves the machine's picture
on the panel if it waited at the beginning or the run drew upon it, and otherwise leaves both
pictures as they were. -/
theorem published_polls (run : Run) {looks : List Look} (nonempty : looks ≠ []) :
    Published run (run.polls looks).1
      (run.machine.screen.dirty = true ∨ Drawn (run.machine.executed (run.operations looks)))
      (∀ look ∈ looks, look.takes = false) := by
  induction looks generalizing run with
  | nil => exact absurd rfl nonempty
  | cons look later inductionHypothesis =>
    have first := run.published_poll look
    cases met : (run.poll look).2 with
    | some fault =>
      rw [polls_cons_of_fault met, operations_cons_of_fault met]
      exact first.weaken fun untaken => untaken look List.mem_cons_self
    | none =>
      rw [polls_cons_of_fine met, operations_cons_of_fine met, Machine.executed_append,
        drawn_append, ← or_assoc, ← machine_poll]
      cases later with
      | nil =>
        have nothing : ¬Drawn ((run.poll look).1.machine.executed
            ((run.poll look).1.operations [])) := not_drawn_nil
        rw [or_iff_left nothing]
        exact first.weaken fun untaken => untaken look List.mem_cons_self
      | cons next others =>
        have rest := inductionHypothesis (run.poll look).1 (List.cons_ne_nil next others)
        rw [dirty_poll, Bool.false_eq_true, false_or] at rest
        rw [List.forall_mem_cons]
        exact first.trans rest

end Run

end Chip8
