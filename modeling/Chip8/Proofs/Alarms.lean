import Chip8.Proofs.Bracketing

/-!
# When the stack reports too early, too late or for nothing

A stack of sixteen slots that is used as one holds between no and sixteen live addresses. A push onto
sixteen overwrites one of them, and a pop of none takes what is no return address. Those are the two
occasions on which a report is due (`Exact`). But a report is made when the pointer passes the seam of the
ring, and the pointer tells the number of live addresses only modulo sixteen, and not even that once
addresses were overwritten or pops found none (`pointer_eq`). So a push is reported one too early, and
the one that overwrites passes in silence; a pop of a full stack is reported as if the stack were empty;
and after one pop too many the next is not reported at all. These are all the occasions on which a
report is wrong (`exact_iff_not_misreported`).
-/
namespace Chip8.Stack

/-- What a move reports. -/
def notes (stack : Stack) : Move → List Diagnostic
  | .push _ => stack.pushNotes
  | .pop => stack.popNotes

/-- What became of the addresses that were pushed onto a stack of sixteen. -/
structure Ledger where
  /-- The addresses that can still be popped. -/
  live : Nat
  /-- The addresses that were overwritten while they were live. -/
  overwritten : Nat
  /-- The pops that found no live address. -/
  missed : Nat

namespace Ledger

/-- Nothing was pushed yet. -/
def blank : Ledger := ⟨0, 0, 0⟩

/-- A push adds a live address, at the expense of another if there are sixteen. A pop takes one, if
there is one. -/
def after (ledger : Ledger) : Move → Ledger
  | .push _ =>
    { ledger with
      live := min (ledger.live + 1) 16
      overwritten := if ledger.live = 16 then ledger.overwritten + 1 else ledger.overwritten }
  | .pop =>
    { ledger with
      live := ledger.live - 1
      missed := if ledger.live = 0 then ledger.missed + 1 else ledger.missed }

/-- How far the pointer has run ahead of the live addresses, around the ring. -/
def drift (ledger : Ledger) : Int := (ledger.overwritten - ledger.missed) % 16

/-- The drift is a distance within the ring. -/
theorem drift_bounds (ledger : Ledger) : 0 ≤ ledger.drift ∧ ledger.drift < 16 := by
  simp only [drift]
  omega

end Ledger

/-- The ledger of a new stack when so many of the moves were made. -/
def ledger (moves : List Move) (moment : Nat) : Ledger :=
  (moves.take moment).foldl Ledger.after Ledger.blank

/-- A report is made at a moment by the move that is made on a stack that was new at the beginning. -/
def Reports (moves : List Move) (now : Nat) (note : Diagnostic) : Prop :=
  ∃ move, moves[now]? = some move ∧ note ∈ (empty.reached moves now).notes move

/-- The reports are those that are due: a push is reported if it overwrites a live address, and a pop if
there is none. -/
structure Exact (moves : List Move) (now : Nat) : Prop where
  /-- A push is reported exactly if sixteen addresses are live. -/
  push : ∀ address, moves[now]? = some (.push address) →
    (Reports moves now .stackFull ↔ (ledger moves now).live = 16)
  /-- A pop is reported exactly if no address is live. -/
  pop : moves[now]? = some .pop →
    (Reports moves now .stackUnderflow ↔ (ledger moves now).live = 0)

/-- The occasions on which a report is wrong. -/
inductive Misreported (moves : List Move) (now : Nat) : Prop
  /-- A push into a free slot, the last before the seam, is reported as onto a full stack. -/
  | early {address : UInt16} (made : moves[now]? = some (.push address))
    (seam : (ledger moves now).live + (ledger moves now).drift = 15)
  /-- A push that overwrites a live address away from the seam is not reported. -/
  | overlooked {address : UInt16} (made : moves[now]? = some (.push address))
    (full : (ledger moves now).live = 16) (away : (ledger moves now).drift ≠ 15)
  /-- A pop of a live address, the first behind the seam, is reported as of an empty stack. -/
  | unfounded (made : moves[now]? = some .pop)
    (seam : (ledger moves now).live + (ledger moves now).drift = 16)
  /-- A pop that finds no live address away from the seam is not reported. -/
  | unnoticed (made : moves[now]? = some .pop) (none : (ledger moves now).live = 0)
    (away : (ledger moves now).drift ≠ 0)

variable {moves : List Move} {move : Move} {now : Nat} {address : UInt16} {note : Diagnostic}

/-- The ledger a moment later is that of the present and the move that is made. -/
theorem ledger_succ (made : moves[now]? = some move) :
    ledger moves (now + 1) = (ledger moves now).after move :=
  foldl_take_succ made Ledger.blank

/-- No more than sixteen addresses are live, and the live addresses together with those overwritten, less
the pops that found none, are the pushes less the pops. -/
theorem ledger_balanced (within : now ≤ moves.length) :
    (ledger moves now).live ≤ 16 ∧
      (ledger moves now).live + ((ledger moves now).overwritten - (ledger moves now).missed : Int) =
        height moves now := by
  refine holds_at_moments (fun now => (ledger moves now).live ≤ 16 ∧
    (ledger moves now).live + ((ledger moves now).overwritten - (ledger moves now).missed : Int) =
      height moves now) ⟨Nat.zero_le 16, rfl⟩ ?_ within
  rintro now move made ⟨few, balance⟩
  rw [ledger_succ made, height_succ made]
  generalize ledger moves now = ledger at few balance
  cases move with
  | push address =>
    simp only [Ledger.after, Move.rise]
    split <;> omega
  | pop =>
    simp only [Ledger.after, Move.rise]
    split <;> omega

/-- **The pointer tells the live addresses** modulo sixteen, and only up to the drift. -/
theorem pointer_eq (within : now ≤ moves.length) :
    ((empty.reached moves now).pointer.val : Int) =
      ((ledger moves now).live + (ledger moves now).drift) % 16 := by
  have pointer := empty.pointer_reached within
  have balance := (ledger_balanced within).2
  have begun : (empty.pointer.val : Int) = 0 := rfl
  rw [pointer, begun, Ledger.drift]
  omega

/-- What is reported is reported by the move that is made. -/
theorem reports_iff (made : moves[now]? = some move) :
    Reports moves now note ↔ note ∈ (empty.reached moves now).notes move := by
  simp only [Reports, made, Option.some.injEq, exists_eq_left']

/-- A push is reported when the pointer stands before the seam. -/
theorem reports_full_iff (made : moves[now]? = some (.push address)) :
    Reports moves now .stackFull ↔
      ((ledger moves now).live + (ledger moves now).drift) % 16 = 15 := by
  have inside : now < moves.length := (List.getElem?_eq_some_iff.1 made).1
  have before : (empty.reached moves now).pointer = 15 ↔
      (empty.reached moves now).pointer.val = 15 := Fin.ext_iff
  rw [reports_iff made, notes, pushNotes, ← pointer_eq (Nat.le_of_lt inside)]
  simp only [List.mem_ite_nil_right, List.mem_singleton, and_true, before]
  omega

/-- A pop is reported when the pointer stands behind the seam. -/
theorem reports_underflow_iff (made : moves[now]? = some .pop) :
    Reports moves now .stackUnderflow ↔
      ((ledger moves now).live + (ledger moves now).drift) % 16 = 0 := by
  have inside : now < moves.length := (List.getElem?_eq_some_iff.1 made).1
  have behind : (empty.reached moves now).pointer = 0 ↔
      (empty.reached moves now).pointer.val = 0 := Fin.ext_iff
  rw [reports_iff made, notes, popNotes, ← pointer_eq (Nat.le_of_lt inside)]
  simp only [List.mem_ite_nil_right, List.mem_singleton, and_true, behind]
  omega

/-- **Every wrong report.** After any pushes and pops on a new stack, the move that comes next is reported
exactly when it should be, unless it is one of four: the push into the free slot before the seam, which
is reported; the push that overwrites a live address elsewhere, which is not; the pop of the live
address behind the seam, which is reported; and the pop that finds no live address elsewhere, which is
not. -/
theorem exact_iff_not_misreported (moves : List Move) (now : Nat) :
    Exact moves now ↔ ¬Misreported moves now := by
  have drift := (ledger moves now).drift_bounds
  constructor
  · rintro ⟨push, pop⟩ misreported
    cases misreported with
    | early made seam =>
      have full := (push _ made).1 ((reports_full_iff made).2 (by omega))
      omega
    | overlooked made full away =>
      have seam := (reports_full_iff made).1 ((push _ made).2 full)
      omega
    | unfounded made seam =>
      have none := (pop made).1 ((reports_underflow_iff made).2 (by omega))
      omega
    | unnoticed made none away =>
      have seam := (reports_underflow_iff made).1 ((pop made).2 none)
      omega
  · intro right
    refine ⟨fun address made => ?_, fun made => ?_⟩
    · have inside : now < moves.length := (List.getElem?_eq_some_iff.1 made).1
      have few := (ledger_balanced (Nat.le_of_lt inside)).1
      have notEarly : (ledger moves now).live + (ledger moves now).drift ≠ 15 :=
        fun seam => right (.early made seam)
      have notOverlooked : (ledger moves now).live = 16 → (ledger moves now).drift = 15 :=
        fun full => by_contra fun away => right (.overlooked made full away)
      rw [reports_full_iff made]
      omega
    · have inside : now < moves.length := (List.getElem?_eq_some_iff.1 made).1
      have few := (ledger_balanced (Nat.le_of_lt inside)).1
      have notUnfounded : (ledger moves now).live + (ledger moves now).drift ≠ 16 :=
        fun seam => right (.unfounded made seam)
      have notUnnoticed : (ledger moves now).live = 0 → (ledger moves now).drift = 0 :=
        fun none => by_contra fun away => right (.unnoticed made none away)
      rw [reports_underflow_iff made]
      omega

/-- Sixteen addresses are pushed, one is popped, and two are pushed again. -/
def brimming : List Move :=
  List.replicate 16 (.push 0x200) ++ [.pop, .push 0x202, .push 0x204]

/-- The sixteenth push is reported although it overwrites nothing, the pop of the sixteenth address as
if there were none, and the push that overwrites an address not at all; nor is the second of two pops
of a new stack. -/
theorem not_always_exact :
    ¬Exact brimming 15 ∧ ¬Exact brimming 16 ∧ ¬Exact brimming 18 ∧ ¬Exact [.pop, .pop] 1 := by
  refine ⟨fun exact => ?_, fun exact => ?_, fun exact => ?_, fun exact => ?_⟩
  · have full : (ledger brimming 15).live = 16 :=
      (exact.push 0x200 rfl).1 ((reports_iff rfl).2 (by decide))
    exact absurd full (by decide)
  · have none : (ledger brimming 16).live = 0 :=
      (exact.pop rfl).1 ((reports_iff rfl).2 (by decide))
    exact absurd none (by decide)
  · have reported : Reports brimming 18 .stackFull := (exact.push 0x204 rfl).2 (by decide)
    exact absurd ((reports_iff rfl).1 reported) (by decide)
  · have reported : Reports [.pop, .pop] 1 .stackUnderflow := (exact.pop rfl).2 (by decide)
    exact absurd ((reports_iff rfl).1 reported) (by decide)

end Chip8.Stack
