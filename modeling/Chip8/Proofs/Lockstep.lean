import Chip8.Operation
import Mathlib.Data.List.Forall2

/-!
# Histories side by side

Two systems that understand the same operations are compared by performing one history on both.
If related states answer every operation that is allowed alike, and stay related, then a history
of allowed operations is answered alike from beginning to end and leaves related states
(`lockstep`). What is allowed may depend on the state of the left system, for instance on the
instruction that the operation executes there (`along_of_executed`).
-/
namespace Chip8.Operation

variable {State Left Right : Type}

/-- What a host learns from a history, operation by operation. -/
def replies (perform : State → Operation → Reply × State) : State → List Operation → List Reply
  | _, [] => []
  | state, operation :: later =>
    (perform state operation).1 :: replies perform (perform state operation).2 later

/-- The state that a history leads to. -/
def reached (perform : State → Operation → Reply × State) (state : State)
    (history : List Operation) : State :=
  history.foldl (fun state operation => (perform state operation).2) state

/-- Every operation of a history is allowed in the state in which it is performed. -/
def Along (perform : State → Operation → Reply × State) (Allowed : State → Operation → Prop) :
    State → List Operation → Prop
  | _, [] => True
  | state, operation :: later =>
    Allowed state operation ∧ Along perform Allowed (perform state operation).2 later

/-- What can be decided of one operation can be decided along a history. -/
instance decidableAlong {perform : State → Operation → Reply × State}
    {Allowed : State → Operation → Prop}
    [∀ state operation, Decidable (Allowed state operation)] :
    ∀ (state : State) (history : List Operation), Decidable (Along perform Allowed state history)
  | _, [] => .isTrue trivial
  | state, operation :: later =>
    have : Decidable (Along perform Allowed (perform state operation).2 later) :=
      decidableAlong _ later
    inferInstanceAs (Decidable (Allowed state operation ∧ _))

/-- What is allowed of an operation in every state is allowed along every history of such
operations. -/
theorem along_of_forall {perform : State → Operation → Reply × State} {Allowed : Operation → Prop}
    {history : List Operation} (allowed : ∀ operation ∈ history, Allowed operation)
    (state : State) : Along perform (fun _ operation => Allowed operation) state history := by
  induction history generalizing state with
  | nil => trivial
  | cons operation later inductionHypothesis =>
    have first := allowed operation List.mem_cons_self
    have rest := fun other member => allowed other (List.mem_cons_of_mem operation member)
    exact ⟨first, inductionHypothesis rest _⟩

/-- What allows more is allowed along every history along which what allows less is. -/
theorem Along.imp {perform : State → Operation → Reply × State}
    {Allowed Other : State → Operation → Prop} {state : State} {history : List Operation}
    (along : Along perform Allowed state history)
    (weaker : ∀ state operation, Allowed state operation → Other state operation) :
    Along perform Other state history := by
  induction history generalizing state with
  | nil => trivial
  | cons operation later inductionHypothesis =>
    exact ⟨weaker _ _ along.1, inductionHypothesis along.2⟩

/-- What is allowed along a history is allowed along each of its beginnings. -/
theorem Along.take {perform : State → Operation → Reply × State}
    {Allowed : State → Operation → Prop} {state : State} {history : List Operation}
    (along : Along perform Allowed state history) (moment : Nat) :
    Along perform Allowed state (history.take moment) := by
  induction moment generalizing state history with
  | zero => trivial
  | succ moment inductionHypothesis =>
    cases history with
    | nil => trivial
    | cons operation later => exact ⟨along.1, inductionHypothesis along.2⟩

/-- What holds of every operation and of every instruction that a machine executes is allowed
along the history. -/
theorem along_of_executed {Allowed : Operation → Prop} {Plain : Instruction → Prop}
    {machine : Machine} {history : List Operation}
    (allowed : ∀ operation ∈ history, Allowed operation)
    (plain : ∀ ins ∈ machine.executed history, Plain ins) :
    Along Machine.perform
      (fun machine operation => Allowed operation ∧
        ∀ ins, (machine.perform operation).1.executed? = some ins → Plain ins)
      machine history := by
  induction history generalizing machine with
  | nil => trivial
  | cons operation later inductionHypothesis =>
    rw [Machine.executed] at plain
    have first : ∀ ins, (machine.perform operation).1.executed? = some ins → Plain ins := by
      intro ins done
      exact plain ins (List.mem_append_left _ (Option.mem_toList.2 done))
    have later : ∀ ins ∈ (machine.perform operation).2.executed later, Plain ins :=
      fun ins member => plain ins (List.mem_append_right _ member)
    have rest := fun other member => allowed other (List.mem_cons_of_mem operation member)
    exact ⟨⟨allowed operation List.mem_cons_self, first⟩, inductionHypothesis rest later⟩

/-- **Histories side by side.** If every allowed operation is answered alike in related states and
keeps them related, so does every history of allowed operations. -/
theorem lockstep {left : Left → Operation → Reply × Left} {right : Right → Operation → Reply × Right}
    {Related : Left → Right → Prop} {Alike : Reply → Reply → Prop}
    {Allowed : Left → Operation → Prop}
    (square : ∀ (l : Left) (r : Right) (operation : Operation), Related l r →
      Allowed l operation →
        Alike (left l operation).1 (right r operation).1 ∧
          Related (left l operation).2 (right r operation).2)
    {l : Left} {r : Right} {history : List Operation} (related : Related l r)
    (allowed : Along left Allowed l history) :
    List.Forall₂ Alike (replies left l history) (replies right r history) ∧
      Related (reached left l history) (reached right r history) := by
  induction history generalizing l r with
  | nil => exact ⟨.nil, related⟩
  | cons operation later inductionHypothesis =>
    obtain ⟨first, rest⟩ := allowed
    obtain ⟨answered, kept⟩ := square l r operation related first
    obtain ⟨others, final⟩ := inductionHypothesis kept rest
    exact ⟨.cons answered others, final⟩

end Chip8.Operation
