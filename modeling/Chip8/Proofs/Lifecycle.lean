import Chip8.Proofs.Mirroring

/-!
# What a session keeps from one program to the next

Loading a program begins a session anew, whatever was loaded, run, refused or cancelled before:
there is a new machine or none, a blank picture that waits, timers at zero and no request to cancel,
while the keys and the controls of the host stay (`Renewed`). Only a file that cannot be read leaves
everything as it was. A run needs a machine, and one that is cancelled before it starts changes
nothing, because the machine reads shifts as the settings say from its loading on (`Fitted`).
-/
namespace Chip8

namespace Request

/-- A request that brings a program to the session, refused or not. -/
inductive Loads (program : List UInt8) (random : Generator) : Request → Prop
  /-- The program is given as bytes. -/
  | bytes : Loads program random (.load program random)
  /-- The program is given as a file that can be read. -/
  | file (path : String) : Loads program random (.loadFile path (.ok program) random)

/-- A request that withdraws an earlier one to cancel. -/
def Clears : Request → Prop
  | .load _ _ | .loadFile _ (.ok _) _ | .uncancel => True
  | _ => False

end Request

namespace Run

/-- A run leaves a machine that reads shifts as its settings say. -/
theorem shift_attended (settings : Settings) (moment : Int) (looks : List Look)
    (machine : Machine) (panel : Panel) :
    (attended settings moment looks machine panel).machine.shift = settings.shift :=
  attended_keeps (fun after => after.shift = settings.shift) rfl
    (fun after kept _ paced => (after.shift_perform paced).trans kept) moment looks panel

end Run

namespace Machine

/-- Loading refuses the programs that do not fit in memory, and those alone. -/
theorem refusal_load (machine : Machine) (program : List UInt8) :
    (machine.load program).refusal = Memory.refusal? program := by
  show (machine.reset.insert program).refusal = Memory.refusal? program
  unfold insert
  cases Memory.refusal? program with
  | none => rfl
  | some failure => rfl

/-- A program that is not refused is placed in a machine that was reset. -/
theorem load_of_accepted {program : List UInt8} (machine : Machine)
    (accepted : Memory.refusal? program = none) :
    (machine.load program).machine = machine.reset.place program := by
  show (machine.reset.insert program).machine = machine.reset.place program
  rw [insert, accepted]

end Machine

namespace Session

variable {settings : Settings} {session : Session}

/-- A session keeps the settings that it began with, and its machine reads shifts as they say. -/
structure Fitted (settings : Settings) (session : Session) : Prop where
  /-- The settings are those that the session began with. -/
  kept : session.settings = settings
  /-- The machine reads shifts as they say. -/
  shift : ∀ machine, session.machine = some machine → machine.shift = settings.shift

/-- A session after a program was loaded or refused. -/
structure Renewed (settings : Settings) (program : List UInt8) (random : Generator)
    (before after : Session) : Prop where
  /-- The settings stay. -/
  kept : after.settings = settings
  /-- Nobody asks runs to end. -/
  cancelled : after.cancelled = false
  /-- A blank picture waits for the host. -/
  frame : after.panel.frame = ⟨Screen.blankPixels, true⟩
  /-- Both timers are shown at zero. -/
  timers : after.panel.timers = Timers.zero
  /-- The keys stay. -/
  keys : after.panel.keys = before.panel.keys
  /-- The controls stay. -/
  controls : after.panel.controls = before.panel.controls
  /-- There is a machine exactly when the program has a byte and fits. -/
  loaded : after.machine.isSome = true ↔ 1 ≤ program.length ∧ program.length ≤ 3584
  /-- The machine is a fresh one that loaded the program and reads shifts as the settings say. -/
  machine : ∀ machine, after.machine = some machine →
    machine =
      { ((Machine.fresh .vx random).load program).machine with shift := settings.shift }

/-- A session refuses the programs that do not fit in memory, and those alone. -/
theorem failure_load (session : Session) (program : List UInt8) :
    (session.load program).failure = Memory.refusal? program := by
  rw [← Machine.initial.refusal_load program]
  simp only [load]
  cases (Machine.initial.load program).refusal with
  | none => rfl
  | some failure => rfl

/-- What becomes of a session to which a program is brought. -/
def renewal (session : Session) (program : List UInt8) (random : Generator) : Session :=
  { session with
    panel := session.panel.reset
    cancelled := false
    machine :=
      if (Memory.refusal? program).isNone then
        some { ((Machine.fresh .vx random).load program).machine with
          shift := session.settings.shift }
      else none }

/-- Bringing a program to a session answers why it was refused, if it was, and renews the
session. -/
theorem perform_of_loads {program : List UInt8} {random : Generator} {request : Request}
    (loads : request.Loads program random) (session : Session) :
    session.perform request = (Memory.refusal? program, session.renewal program random) := by
  have answered : session.perform request =
      ((session.load program).failure, (session.load program).session.seeded random) := by
    cases loads with
    | bytes => rfl
    | file path => rfl
  rw [answered, failure_load, session_load, Machine.initial.refusal_load program, renewal, seeded]
  cases refused : Memory.refusal? program with
  | some failure => rfl
  | none =>
    rw [Machine.load_of_accepted _ refused, Machine.load_of_accepted _ refused]
    rfl

/-- A session to which a program was brought is renewed. -/
theorem renewed_renewal (fitted : session.settings = settings) (program : List UInt8)
    (random : Generator) :
    Renewed settings program random session (session.renewal program random) := by
  refine ⟨fitted, rfl, rfl, rfl, rfl, rfl, ?_, ?_⟩
  · rw [← Memory.refusal?_eq_none_iff, renewal]
    cases Memory.refusal? program with
    | none => exact ⟨fun _ => rfl, fun _ => rfl⟩
    | some failure => exact ⟨nofun, nofun⟩
  · intro machine loaded
    obtain ⟨_, made⟩ := Option.ite_none_right_eq_some.1 loaded
    rw [← Option.some.inj made, fitted]

/-- Without a machine nothing runs. -/
theorem attend_of_unloaded (unloaded : session.machine = none) (moment : Int) (looks : List Look) :
    session.attend moment looks = (some .noProgram, session) := by
  obtain ⟨settings, panel, cancelled, machine⟩ := session
  subst unloaded
  rfl

/-- With a machine a run ends with a fault or without any failure. -/
theorem attend_of_loaded {machine : Machine} (loaded : session.machine = some machine)
    (moment : Int) (looks : List Look) :
    let ending := Run.attended session.settings moment (if session.cancelled then [] else looks)
      machine session.panel
    session.attend moment looks =
      (ending.fault.map .unimplemented,
        { session with
          panel := ending.panel
          cancelled := session.cancelled || ending.fault.isNone
          machine := some ending.machine }) := by
  obtain ⟨settings, panel, cancelled, present⟩ := session
  subst loaded
  rfl

/-- A run fails for want of a program exactly when there is no machine. -/
theorem attend_eq_noProgram_iff (session : Session) (moment : Int) (looks : List Look) :
    (session.attend moment looks).1 = some .noProgram ↔ session.machine = none := by
  cases machine : session.machine with
  | none =>
    rw [attend_of_unloaded machine]
    exact ⟨fun _ => rfl, fun _ => rfl⟩
  | some present =>
    rw [attend_of_loaded machine]
    refine ⟨fun failed => ?_, nofun⟩
    obtain ⟨fault, _, same⟩ := Option.map_eq_some_iff.1 failed
    cases same

/-- A run that is cancelled before it starts changes nothing. -/
theorem attend_of_cancelled (fitted : Fitted settings session) (cancelled : session.cancelled = true)
    (loaded : session.machine ≠ none) (moment : Int) (looks : List Look) :
    session.attend moment looks = (none, session) := by
  obtain ⟨machine, present⟩ := Option.ne_none_iff_exists'.1 loaded
  have shift : machine.withShift session.settings.shift = machine := by
    rw [fitted.kept, ← fitted.shift machine present]
    rfl
  rw [attend_of_loaded present, cancelled, if_pos rfl]
  -- Without a look the run only applies the choice of shift operand, which the machine has already.
  show (none, { session with
    cancelled := true
    machine := some (machine.withShift session.settings.shift) }) = (none, session)
  rw [shift, ← present, ← cancelled]

/-- A new session is fitted. -/
theorem fitted_initial (settings : Settings) : Fitted settings (initial settings) := ⟨rfl, nofun⟩

/-- A session to which a program was brought is fitted. -/
theorem Renewed.fitted {program : List UInt8} {random : Generator} {before : Session}
    (renewed : Renewed settings program random before session) : Fitted settings session := by
  refine ⟨renewed.kept, fun machine loaded => ?_⟩
  rw [renewed.machine machine loaded]

/-- A run leaves a fitted session. -/
theorem Fitted.attend (fitted : Fitted settings session) (moment : Int) (looks : List Look) :
    Fitted settings (session.attend moment looks).2 := by
  cases present : session.machine with
  | none =>
    rw [attend_of_unloaded present]
    exact fitted
  | some machine =>
    rw [attend_of_loaded present]
    refine ⟨fitted.kept, fun after loaded => ?_⟩
    rw [← Option.some.inj loaded, Run.shift_attended, fitted.kept]

/-- Every request leaves a fitted session if it was fitted before. -/
theorem Fitted.perform (fitted : Fitted settings session) (request : Request) :
    Fitted settings (session.perform request).2 := by
  by_cases loads : ∃ program random, request.Loads program random
  · obtain ⟨program, random, loads⟩ := loads
    rw [perform_of_loads loads]
    exact (renewed_renewal fitted.kept program random).fitted
  · cases request with
    | load program random => exact absurd ⟨program, random, .bytes⟩ loads
    | loadFile path contents random =>
      cases contents with
      | ok program => exact absurd ⟨program, random, .file path⟩ loads
      | error cause => exact fitted
    | run moment looks => exact fitted.attend moment looks
    | updateButtons | setKeys | takeFrame | cancel | uncancel => exact ⟨fitted.kept, fitted.shift⟩

/-- A list of requests leaves a fitted session if it was fitted before. -/
theorem Fitted.performAll (fitted : Fitted settings session) (requests : List Request) :
    Fitted settings (session.performAll requests) :=
  performAll_keeps (Fitted settings) fitted fun _ kept request _ => kept.perform request

/-- A request to cancel stands until it is withdrawn. -/
theorem cancelled_perform (cancelled : session.cancelled = true) {request : Request}
    (stands : ¬request.Clears) : (session.perform request).2.cancelled = true := by
  cases request with
  | load | uncancel => exact absurd trivial stands
  | loadFile path contents random =>
    cases contents with
    | ok program => exact absurd trivial stands
    | error cause => exact cancelled
  | run moment looks =>
    show (session.attend moment looks).2.cancelled = true
    cases present : session.machine with
    | none => rw [attend_of_unloaded present, cancelled]
    | some machine =>
      rw [attend_of_loaded present, cancelled]
      rfl
  | cancel => rfl
  | updateButtons | setKeys | takeFrame => exact cancelled

/-- A request to cancel stands through a list of requests none of which withdraws it. -/
theorem cancelled_performAll (cancelled : session.cancelled = true) {requests : List Request}
    (stands : ∀ request ∈ requests, ¬request.Clears) :
    (session.performAll requests).cancelled = true :=
  performAll_keeps (fun session => session.cancelled = true) cancelled
    fun _ kept request member => cancelled_perform kept (stands request member)

/-- A session in which a request to cancel stands is cancelled. -/
theorem cancelled_of_standing (session : Session) (earlier : List Request) {later : List Request}
    (stands : ∀ request ∈ later, ¬request.Clears) :
    (session.performAll (earlier ++ .cancel :: later)).cancelled = true := by
  have asked : (session.performAll earlier).cancel.cancelled = true := rfl
  have whole : session.performAll (earlier ++ .cancel :: later) =
      (session.performAll earlier).cancel.performAll later := List.foldl_append
  rw [whole]
  exact cancelled_performAll asked stands

/-- **The life of a session.** Whatever a host has asked of a session so far: a file that cannot be
read changes nothing; every program that is brought, refused or not, renews the session; a run
fails for want of a program exactly when there is no machine, and then changes nothing; and while
the session is cancelled a run of a machine, stopped by a fault or not, succeeds and changes
nothing. The session is cancelled after a request to cancel that neither a program nor the host
has withdrawn. -/
theorem lifecycle (settings : Settings) (requests : List Request) :
    let session := (initial settings).performAll requests
    (∀ path cause random, session.perform (.loadFile path (.error cause) random) =
      (some (.unreadable path cause), session)) ∧
    (∀ program random request, request.Loads program random →
      (session.perform request).1 = Memory.refusal? program ∧
        Renewed settings program random session (session.perform request).2) ∧
    (∀ moment looks,
      ((session.perform (.run moment looks)).1 = some .noProgram ↔ session.machine = none) ∧
        (session.machine = none → (session.perform (.run moment looks)).2 = session)) ∧
    (session.cancelled = true → session.machine ≠ none →
      ∀ moment looks, session.perform (.run moment looks) = (none, session)) ∧
    ∀ earlier later, requests = earlier ++ .cancel :: later →
      (∀ request ∈ later, ¬request.Clears) → session.cancelled = true := by
  intro session
  have fitted : Fitted settings session := (fitted_initial settings).performAll requests
  refine ⟨fun _ _ _ => rfl, ?_, ?_, ?_, ?_⟩
  · intro program random request loads
    rw [perform_of_loads loads]
    exact ⟨rfl, renewed_renewal fitted.kept program random⟩
  · intro moment looks
    refine ⟨session.attend_eq_noProgram_iff moment looks, fun unloaded => ?_⟩
    show (session.attend moment looks).2 = session
    rw [attend_of_unloaded unloaded]
  · intro cancelled loaded moment looks
    exact attend_of_cancelled fitted cancelled loaded moment looks
  · rintro earlier later rfl stands
    exact (initial settings).cancelled_of_standing earlier stands

/-- The keys of a host that holds key 2 alone. -/
def keyTwo : Keypad := Keypad.released.set 2 true

/-- The host presses the button of key 2, a program that meets a fault is loaded and run, the host
asks runs to end, and then another file cannot be read. -/
def eventful : List Request :=
  [.updateButtons [⟨"Two", 3, true, 1⟩], .load [0xFF, 0xFF] Generator.zero,
    .run 0 [Look.quiet keyTwo 4000000], .cancel,
    .loadFile "absent" (.error "not found") Generator.zero]

/-- After that the machine is stopped by its fault, but a run succeeds and changes nothing, until
another program renews the session. The key stays held, and the new machine reads shifts from VY as
the settings say. -/
theorem lifecycle_eventful :
    let settings : Settings := { Settings.default with shift := .vy }
    let session := (initial settings).performAll eventful
    let renewed := (session.perform (.loadFile "present" (.ok [0x00, 0xE0]) Generator.zero)).2
    session.machine.map (fun machine => machine.status) = some (.faulted ⟨0xFFFF, 0x200⟩) ∧
      session.perform (.run 0 [Look.quiet keyTwo 4000000]) = (none, session) ∧
      Renewed settings [0x00, 0xE0] Generator.zero session renewed ∧
      renewed.panel.keys = keyTwo ∧
      renewed.machine.map (fun machine => machine.shift) = some .vy := by
  intro settings session renewed
  have stopped : session.machine.map (fun machine => machine.status) =
      some (.faulted ⟨0xFFFF, 0x200⟩) := by
    decide +kernel
  have loaded : session.machine ≠ none := by
    intro unloaded
    rw [unloaded] at stopped
    cases stopped
  obtain ⟨-, renews, -, succeeds, stands⟩ := lifecycle settings eventful
  have standing : ∀ request ∈ [Request.loadFile "absent" (.error "not found") Generator.zero],
      ¬request.Clears := by
    intro request member
    rw [List.mem_singleton.1 member]
    exact id
  have cancelled := stands (eventful.take 3) _ rfl standing
  have fresh : Renewed settings [0x00, 0xE0] Generator.zero session renewed :=
    (renews _ _ _ (.file "present")).2
  have held : session.panel.keys = keyTwo := by decide +kernel
  exact ⟨stopped, succeeds cancelled loaded 0 _, fresh, fresh.keys.trans held, by decide +kernel⟩

end Session

end Chip8
