import Chip8.Proofs.Calls
import Chip8.Proofs.Moments

/-!
# The ring is a window onto an unbounded stack

Pushes and pops match as brackets do: a pop takes back the last push that no pop in between took. On a
stack without bounds the pop would return the address of that push. The ring has sixteen slots, its
pointer is the number of outstanding addresses modulo sixteen, counted from where it began
(`pointer_reached`), and a slot holds the address that was pushed into it last (`latest_slot`). So a
pop returns the address of its push as long as at no time in between more than fifteen further
addresses were outstanding above it, since only the sixteenth comes round to its slot (`windowed`).
-/
namespace Chip8.Stack

/-- A push of an address, or a pop. -/
inductive Move where
  /-- An address is pushed. -/
  | push (address : UInt16)
  /-- An address is popped. -/
  | pop
deriving DecidableEq, Repr

namespace Move

/-- Whether a move is a push. -/
def isPush : Move → Bool
  | .push _ => true
  | .pop => false

/-- Whether a move is a pop. -/
def isPop : Move → Bool
  | .push _ => false
  | .pop => true

/-- By how much a move changes the number of outstanding addresses. -/
def rise : Move → Int
  | .push _ => 1
  | .pop => -1

end Move

/-- The stack after a move. -/
def after (stack : Stack) : Move → Stack
  | .push address => stack.push address
  | .pop => stack.pop

/-- The stack when so many of the moves were made. -/
def reached (stack : Stack) (moves : List Move) (moment : Nat) : Stack :=
  (moves.take moment).foldl after stack

/-- The pushes so far. -/
def pushes (moves : List Move) (now : Nat) : Nat := (moves.take now).countP Move.isPush

/-- The pops so far. -/
def pops (moves : List Move) (now : Nat) : Nat := (moves.take now).countP Move.isPop

/-- The pushes so far less the pops so far. -/
def height (moves : List Move) (now : Nat) : Int := pushes moves now - pops moves now

/-- The addresses that are outstanding above the one that was pushed at a moment. -/
def above (moves : List Move) (opening now : Nat) : Int :=
  height moves now - height moves (opening + 1)

/-- A push and a later pop match as brackets do. -/
structure Matched (moves : List Move) (opening closing : Nat) (address : UInt16) : Prop where
  /-- The address is pushed. -/
  pushed : moves[opening]? = some (.push address)
  /-- Something is popped. -/
  popped : moves[closing]? = some .pop
  /-- The push comes first. -/
  order : opening < closing
  /-- In between no pop takes the address. -/
  kept : ∀ now, opening < now → now ≤ closing → 0 ≤ above moves opening now
  /-- In the end nothing is left above it. -/
  level : above moves opening closing = 0

/-- An address is pushed into a slot at a moment. -/
def Fills (stack : Stack) (moves : List Move) (slot : Fin 16) (moment : Nat) (address : UInt16) :
    Prop :=
  moves[moment]? = some (.push address) ∧ (stack.reached moves moment).pointer = slot

variable {stack : Stack} {moves : List Move} {move : Move} {now opening closing : Nat}
  {address : UInt16}

/-- The next moment is the present and the move that is made. -/
theorem reached_succ (made : moves[now]? = some move) :
    stack.reached moves (now + 1) = (stack.reached moves now).after move :=
  foldl_take_succ made stack

/-- A move changes the number of outstanding addresses by its rise. -/
theorem height_succ (made : moves[now]? = some move) :
    height moves (now + 1) = height moves now + move.rise := by
  have pushed : pushes moves (now + 1) = pushes moves now + if move.isPush then 1 else 0 :=
    countP_take_succ made Move.isPush
  have popped : pops moves (now + 1) = pops moves now + if move.isPop then 1 else 0 :=
    countP_take_succ made Move.isPop
  rw [height, height, pushed, popped]
  cases move with
  | push address =>
    simp only [Move.isPush, Move.isPop, Move.rise, if_true, Bool.false_eq_true, if_false]
    omega
  | pop =>
    simp only [Move.isPush, Move.isPop, Move.rise, if_true, Bool.false_eq_true, if_false]
    omega

/-- A move changes the number of addresses outstanding above a push by its rise. -/
theorem above_succ (made : moves[now]? = some move) :
    above moves opening (now + 1) = above moves opening now + move.rise := by
  rw [above, above, height_succ made]
  omega

/-- Nothing is outstanding above an address that was just pushed. -/
theorem above_opening : above moves opening (opening + 1) = 0 := Int.sub_self _

/-- A move moves the pointer by its rise, around the ring. -/
theorem pointer_after (stack : Stack) (move : Move) :
    ((stack.after move).pointer.val : Int) = (stack.pointer.val + move.rise) % 16 := by
  cases move with
  | push address =>
    have up := stack.pointer_push address
    simp only [after, Move.rise]
    omega
  | pop =>
    have down := stack.pointer_pop
    simp only [after, Move.rise]
    omega

/-- **The pointer counts the outstanding addresses** modulo sixteen, from where it began. -/
theorem pointer_reached (stack : Stack) (within : now ≤ moves.length) :
    ((stack.reached moves now).pointer.val : Int) = (stack.pointer.val + height moves now) % 16 := by
  refine holds_at_moments (fun now => ((stack.reached moves now).pointer.val : Int) =
    (stack.pointer.val + height moves now) % 16) ?_ ?_ within
  · have below := stack.pointer.isLt
    have none : height moves 0 = 0 := rfl
    show (stack.pointer.val : Int) = _
    omega
  · intro now move made pointer
    rw [reached_succ made, pointer_after, height_succ made]
    omega

/-- **A slot holds what was pushed into it last.** -/
theorem latest_slot (stack : Stack) (within : now ≤ moves.length) (slot : Fin 16) :
    Latest (stack.Fills moves slot) (stack.slots.get slot) now
      ((stack.reached moves now).slots.get slot) := by
  refine holds_at_moments (fun now => Latest (stack.Fills moves slot) (stack.slots.get slot) now
    ((stack.reached moves now).slots.get slot)) latest_zero ?_ within
  intro now move made latest
  rw [reached_succ made]
  cases move with
  | push address =>
    rw [after, slots_push]
    by_cases here : (stack.reached moves now).pointer = slot
    · rw [if_pos here]
      exact latest_of_given ⟨made, here⟩
    · rw [if_neg here]
      exact latest.succ fun other fills => here fills.2
  | pop =>
    refine latest.succ fun other fills => ?_
    rw [Fills, made] at fills
    cases fills.1

/-- From a push on, the pointer is back at its slot whenever the addresses outstanding from it on, itself
included, fill the ring. -/
theorem same_slot_iff {later : Nat} (pushed : moves[opening]? = some (.push address))
    (within : later ≤ moves.length) :
    (stack.reached moves later).pointer = (stack.reached moves opening).pointer ↔
      (above moves opening later + 1) % 16 = 0 := by
  have inside : opening < moves.length := (List.getElem?_eq_some_iff.1 pushed).1
  have first := stack.pointer_reached (Nat.le_of_lt inside)
  have second := stack.pointer_reached within
  have rises := height_succ pushed
  simp only [Move.rise] at rises
  simp only [above, Fin.ext_iff]
  omega

/-- The pop that matches a push looks into its slot. -/
theorem Matched.top_eq (matched : Matched moves opening closing address) :
    (stack.reached moves closing).top =
      (stack.reached moves closing).slots.get (stack.reached moves opening).pointer := by
  have inside : closing < moves.length := (List.getElem?_eq_some_iff.1 matched.popped).1
  have first := stack.pointer_reached (Nat.le_of_lt (Nat.lt_trans matched.order inside))
  have last := stack.pointer_reached (Nat.le_of_lt inside)
  have rises := height_succ matched.pushed
  have level := matched.level
  have before : (stack.reached moves closing).pointer - 1 = (stack.reached moves opening).pointer := by
    apply Fin.ext
    have down := (stack.reached moves closing).pointer_pop
    rw [pop] at down
    simp only [Move.rise] at rises
    simp only [above] at level
    dsimp only at down
    omega
  rw [← before]
  rfl

/-- If the slot of a push is not filled again before the matching pop, then no more than fifteen further
addresses were outstanding in between: the push that leaves the sixteenth would be one into the slot. -/
theorem Matched.shallow_of_last (matched : Matched moves opening closing address)
    (alone : LastBefore (fun moment => ∃ other,
      stack.Fills moves (stack.reached moves opening).pointer moment other) closing opening)
    (later : opening < now) (within : now ≤ closing) : above moves opening now ≤ 15 := by
  have inside : closing < moves.length := (List.getElem?_eq_some_iff.1 matched.popped).1
  induction now with
  | zero => exact absurd later (Nat.not_lt_zero opening)
  | succ now inductionHypothesis =>
    rcases Nat.lt_succ_iff_lt_or_eq.1 later with ahead | rfl
    · have few := inductionHypothesis ahead (Nat.le_of_lt within)
      have made : moves[now]? = some moves[now] :=
        List.getElem?_eq_getElem (Nat.lt_trans within inside)
      rw [above_succ made]
      cases move : moves[now] with
      | pop =>
        simp only [Move.rise]
        omega
      | push other =>
        rw [move] at made
        have unfilled : above moves opening now ≠ 15 := by
          intro full
          have slot : (stack.reached moves now).pointer = (stack.reached moves opening).pointer :=
            (same_slot_iff matched.pushed (Nat.le_of_lt (Nat.lt_trans within inside))).2 (by omega)
          have last := alone.latest now within ⟨other, made, slot⟩
          omega
        simp only [Move.rise]
        omega
    · rw [above_opening]
      omega

/-- If no more than fifteen further addresses were outstanding between a push and the matching pop, then
no push in between fills the slot again: it would leave a sixteenth. -/
theorem Matched.last_of_shallow (matched : Matched moves opening closing address) (stack : Stack)
    (shallow : ∀ now, opening < now → now ≤ closing → above moves opening now ≤ 15) :
    LastBefore (fun moment => ∃ other,
      stack.Fills moves (stack.reached moves opening).pointer moment other) closing opening := by
  have inside : closing < moves.length := (List.getElem?_eq_some_iff.1 matched.popped).1
  refine ⟨matched.order, ⟨address, matched.pushed, rfl⟩, ?_⟩
  rintro later past ⟨other, pushed, slot⟩
  by_contra beyond
  have ahead : opening < later := Nat.lt_of_not_le beyond
  have round := (same_slot_iff matched.pushed (Nat.le_of_lt (Nat.lt_trans past inside))).1 slot
  have kept := matched.kept later ahead (Nat.le_of_lt past)
  have few := shallow (later + 1) (Nat.lt_succ_of_lt ahead) past
  rw [above_succ pushed, Move.rise] at few
  omega

/-- **The window is sixteen addresses deep.** The slot of a push is not filled again before the matching
pop exactly if at no time in between more than fifteen further addresses were outstanding. -/
theorem Matched.lastBefore_iff (matched : Matched moves opening closing address) (stack : Stack) :
    LastBefore (fun moment => ∃ other,
        stack.Fills moves (stack.reached moves opening).pointer moment other) closing opening ↔
      ∀ now, opening < now → now ≤ closing → above moves opening now ≤ 15 := by
  constructor
  · intro alone now later within
    exact matched.shallow_of_last alone later within
  · exact matched.last_of_shallow stack

/-- **A window onto an unbounded stack.** Whatever the ring holds and wherever its pointer stands at the
beginning: after any pushes and pops the pointer is where it began, plus the pushes, less the pops,
modulo sixteen; a pop returns the address of the push that it matches, if at no time in between more
than fifteen further addresses were outstanding above it; and if more were, it returns the address of
some push in between. -/
theorem windowed (stack : Stack) (moves : List Move) :
    (∀ now ≤ moves.length, ((stack.reached moves now).pointer.val : Int) =
      (stack.pointer.val + pushes moves now - pops moves now) % 16) ∧
    ∀ opening closing address, Matched moves opening closing address →
      ((∀ now, opening < now → now ≤ closing → above moves opening now ≤ 15) →
        (stack.reached moves closing).top = address) ∧
      (¬(∀ now, opening < now → now ≤ closing → above moves opening now ≤ 15) →
        ∃ later other, opening < later ∧ later < closing ∧ moves[later]? = some (.push other) ∧
          (stack.reached moves closing).top = other) := by
  constructor
  · intro now within
    rw [stack.pointer_reached within, height]
    omega
  · intro opening closing address matched
    have inside : closing < moves.length := (List.getElem?_eq_some_iff.1 matched.popped).1
    have own : stack.Fills moves (stack.reached moves opening).pointer opening address :=
      ⟨matched.pushed, rfl⟩
    have latest := stack.latest_slot (Nat.le_of_lt inside) (stack.reached moves opening).pointer
    rw [← matched.top_eq] at latest
    obtain ⟨last, recent, gives, reaches⟩ := latest.exists_last own matched.order
    rw [← matched.lastBefore_iff stack]
    constructor
    · intro alone
      obtain rfl : last = opening := recent.unique alone
      have same := matched.pushed.symm.trans gives.1
      exact (Move.push.inj (Option.some.inj same)).symm
    · intro again
      have other : opening ≠ last := by
        rintro rfl
        exact again recent
      exact ⟨last, _, Nat.lt_of_le_of_ne reaches other, recent.past, gives.1, rfl⟩

/-- Seventeen addresses are pushed and popped again, with a short excursion above the second. -/
def rounds : List Move :=
  [.push 0x200, .push 0x202, .push 0x204, .pop] ++
    (List.range 15).map (fun number => .push (UInt16.ofNat (0x300 + number))) ++
    List.replicate 17 .pop

/-- A ring whose pointer stands at the last slot. -/
def seam : Stack := ⟨Vector.replicate 16 0, Fin.last 15⟩

/-- Above the second push fifteen addresses are outstanding at most, and its pop returns it. -/
theorem windowed_rounds :
    36 ≤ rounds.length ∧ ((seam.reached rounds 36).pointer.val : Int) = (15 + 18 - 18) % 16 ∧
      Matched rounds 1 34 0x202 ∧ (∀ now, 1 < now → now ≤ 34 → above rounds 1 now ≤ 15) ∧
      (seam.reached rounds 34).top = 0x202 := by
  have within : 36 ≤ rounds.length := by decide
  have bounds : ∀ now < 35, 1 < now → 0 ≤ above rounds 1 now ∧ above rounds 1 now ≤ 15 := by
    decide +kernel
  have matched : Matched rounds 1 34 0x202 :=
    ⟨by decide, by decide, by decide,
      fun now later within => (bounds now (Nat.lt_succ_of_le within) later).1, by decide +kernel⟩
  have shallow : ∀ now, 1 < now → now ≤ 34 → above rounds 1 now ≤ 15 :=
    fun now later within => (bounds now (Nat.lt_succ_of_le within) later).2
  exact ⟨within, (windowed seam rounds).1 36 within, matched, shallow,
    ((windowed seam rounds).2 1 34 0x202 matched).1 shallow⟩

/-- Above the first push there were sixteen, and its pop returns the last of them. -/
example : (seam.reached rounds 35).top = 0x30E := by decide +kernel

end Chip8.Stack
