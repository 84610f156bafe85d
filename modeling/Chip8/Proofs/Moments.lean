import Mathlib.Data.Nat.Find

/-!
# Moments of a history

The moments of a history are numbered. At each of them one item of the history happens (`Happens`,
`happens_inj`), the state is a fold over the items before it (`foldl_take_succ`), and what each item
keeps holds throughout (`holds_at_moments`). What occurs at a moment, such as an item of some kind,
is a predicate on numbers. Laws about the past ask when something occurred last (`LastBefore`), which
value was given last (`Latest`) and whether one thing happened and another did not since (`Since`),
which is what a mark remembers that the first sets and the second clears (`since_succ`). Two marks in
series, where clearing the first sets the second, still tell about the past without the marks
(`since_relayed`).
-/
namespace Chip8

variable {Occurs Sets Clears : Nat → Prop} {now last moment : Nat}

section

variable {Item : Type} {items : List Item} {item : Item}

/-- An item of a history happens at a moment. -/
def Happens (items : List Item) (item : Item) (moment : Nat) : Prop := items[moment]? = some item

/-- One item happens at a moment. -/
theorem happens_inj {other : Item} (happens : Happens items item now) :
    Happens items other now ↔ item = other := by
  rw [Happens] at happens
  rw [Happens, happens, Option.some.injEq]

/-- A fold over one item more ends with that item. -/
theorem foldl_take_succ {State : Type} {step : State → Item → State}
    (happens : Happens items item now) (state : State) :
    (items.take (now + 1)).foldl step state = step ((items.take now).foldl step state) item := by
  rw [Happens] at happens
  rw [List.take_add_one, happens, List.foldl_append]
  rfl

/-- A count over one item more counts that item if it is to be counted. -/
theorem countP_take_succ (happens : Happens items item now) (counts : Item → Bool) :
    (items.take (now + 1)).countP counts =
      (items.take now).countP counts + if counts item then 1 else 0 := by
  rw [Happens] at happens
  rw [List.take_add_one, happens, List.countP_append]
  exact congrArg _ List.countP_singleton

/-- What holds at the beginning of a history and is kept by each of its items holds at every
moment. -/
theorem holds_at_moments (Holds : Nat → Prop) (begun : Holds 0)
    (each : ∀ {now : Nat} {item : Item}, Happens items item now → Holds now → Holds (now + 1))
    (within : now ≤ items.length) : Holds now := by
  induction now with
  | zero => exact begun
  | succ now inductionHypothesis =>
    exact each (List.getElem?_eq_getElem within) (inductionHypothesis (Nat.le_of_lt within))

end

/-- What does not happen now happened before now, if it happened by now. -/
theorem before_of_still (still : ¬Occurs now) (within : moment < now + 1)
    (happened : Occurs moment) : moment < now := by
  have other : moment ≠ now := fun same => still (same ▸ happened)
  omega

/-- The last moment before another at which something happened. -/
structure LastBefore (Occurs : Nat → Prop) (now last : Nat) : Prop where
  /-- It is in the past. -/
  past : last < now
  /-- It happened then. -/
  happened : Occurs last
  /-- It did not happen again. -/
  latest : ∀ moment < now, Occurs moment → moment ≤ last

/-- What happened at all happened a last time, at that moment or later. -/
theorem exists_lastBefore (happened : Occurs moment) (past : moment < now) :
    ∃ last, LastBefore Occurs now last ∧ moment ≤ last := by
  induction now with
  | zero => exact absurd past (Nat.not_lt_zero moment)
  | succ now inductionHypothesis =>
    by_cases again : Occurs now
    · have within : moment ≤ now := Nat.le_of_lt_succ past
      exact ⟨now, ⟨Nat.lt_succ_self now, again, fun _ before _ => Nat.le_of_lt_succ before⟩, within⟩
    · have before : moment < now := before_of_still again past happened
      obtain ⟨last, recent, reached⟩ := inductionHypothesis before
      refine ⟨last, ⟨Nat.lt_succ_of_lt recent.past, recent.happened, ?_⟩, reached⟩
      intro next within happens
      exact recent.latest next (before_of_still again within happens) happens

/-- A moment later the last time is the present if it happens now, and the same as before if
not. -/
theorem lastBefore_succ :
    LastBefore Occurs (now + 1) last ↔
      Occurs now ∧ last = now ∨ ¬Occurs now ∧ LastBefore Occurs now last := by
  constructor
  · rintro ⟨past, happened, latest⟩
    by_cases again : Occurs now
    · have reaches : now ≤ last := latest now (Nat.lt_succ_self now) again
      exact .inl ⟨again, Nat.le_antisymm (Nat.le_of_lt_succ past) reaches⟩
    · have before : last < now := before_of_still again past happened
      exact .inr ⟨again, before, happened,
        fun moment within => latest moment (Nat.lt_succ_of_lt within)⟩
  · rintro (⟨happens, rfl⟩ | ⟨still, past, happened, latest⟩)
    · exact ⟨Nat.lt_succ_self last, happens, fun _ within _ => Nat.le_of_lt_succ within⟩
    · refine ⟨Nat.lt_succ_of_lt past, happened, ?_⟩
      intro moment within happens
      exact latest moment (before_of_still still within happens) happens

/-- There is one last time. -/
theorem LastBefore.unique {other : Nat} (recent : LastBefore Occurs now last)
    (again : LastBefore Occurs now other) : last = other :=
  Nat.le_antisymm (again.latest last recent.past recent.happened)
    (recent.latest other again.past again.happened)

/-- A value is the one given last, or the one at the beginning if none was given. -/
inductive Latest {Value : Type} (Gives : Nat → Value → Prop) (first : Value) (now : Nat) :
    Value → Prop
  /-- The value was given at the last moment at which one was. -/
  | given {last : Nat} {value : Value}
    (recent : LastBefore (fun moment => ∃ other, Gives moment other) now last)
    (gives : Gives last value) : Latest Gives first now value
  /-- No value was given. -/
  | never (none : ∀ moment < now, ∀ other, ¬Gives moment other) : Latest Gives first now first

section

variable {Value : Type} {Gives : Nat → Value → Prop} {first value : Value}

/-- At the beginning no value was given. -/
theorem latest_zero : Latest Gives first 0 first :=
  .never fun moment past => absurd past (Nat.not_lt_zero moment)

/-- A value given now is the latest a moment later. -/
theorem latest_of_given (gives : Gives now value) : Latest Gives first (now + 1) value :=
  .given (lastBefore_succ.2 (.inl ⟨⟨value, gives⟩, rfl⟩)) gives

/-- The latest value stays the latest while none is given. -/
theorem Latest.succ (latest : Latest Gives first now value) (still : ∀ other, ¬Gives now other) :
    Latest Gives first (now + 1) value := by
  have nothing : ¬∃ other, Gives now other := not_exists.2 still
  cases latest with
  | given recent gives => exact .given (lastBefore_succ.2 (.inr ⟨nothing, recent⟩)) gives
  | never none =>
    refine .never fun moment within other gives => ?_
    have apart : moment ≠ now := by
      rintro rfl
      exact still other gives
    exact none moment (by omega) other gives

/-- If a value was given at all, the latest was given at the last moment at which one was. -/
theorem Latest.exists_last {other : Value} (latest : Latest Gives first now value)
    (gives : Gives moment other) (past : moment < now) :
    ∃ last, LastBefore (fun moment => ∃ other, Gives moment other) now last ∧ Gives last value ∧
      moment ≤ last := by
  cases latest with
  | given recent given => exact ⟨_, recent, given, recent.latest moment past ⟨other, gives⟩⟩
  | never none => exact absurd gives (none moment past other)

end

/-- One thing happened, and another did not happen since. -/
def Since (Sets Clears : Nat → Prop) (now : Nat) : Prop :=
  ∃ set < now, Sets set ∧ ∀ cleared < now, Clears cleared → cleared < set

/-- Nothing happened before the beginning. -/
theorem not_since_zero : ¬Since Sets Clears 0 := fun ⟨set, past, _⟩ => Nat.not_lt_zero set past

/-- What a mark remembers a moment later: it is not cleared now, and is set now or was before. -/
theorem since_succ :
    Since Sets Clears (now + 1) ↔ ¬Clears now ∧ (Sets now ∨ Since Sets Clears now) := by
  constructor
  · rintro ⟨set, past, happened, uncleared⟩
    have still : ¬Clears now := by
      intro clears
      have before : now < set := uncleared now (Nat.lt_succ_self now) clears
      omega
    refine ⟨still, ?_⟩
    rcases Nat.lt_succ_iff_lt_or_eq.1 past with before | rfl
    · exact .inr ⟨set, before, happened,
        fun cleared within => uncleared cleared (Nat.lt_succ_of_lt within)⟩
    · exact .inl happened
  · rintro ⟨still, sets | ⟨set, past, happened, uncleared⟩⟩
    · exact ⟨now, Nat.lt_succ_self now, sets, fun _ within => before_of_still still within⟩
    · refine ⟨set, Nat.lt_succ_of_lt past, happened, ?_⟩
      intro cleared within clears
      exact uncleared cleared (before_of_still still within clears) clears

/-- **Two marks in series.** Something enters, is passed on if it waits, and leaves. What was
passed on waits to leave exactly when something entered before the last time of passing on, and
after the last time of passing on that preceded the last time of leaving. -/
theorem since_relayed {Enters Passes Leaves : Nat → Prop}
    (enters : ∀ moment, Enters moment → ¬Passes moment)
    (passes : ∀ moment, Passes moment → ¬Leaves moment) :
    Since (fun moment => Passes moment ∧ Since Enters Passes moment) Leaves now ↔
      ∃ entered passed, Enters entered ∧ entered < passed ∧ LastBefore Passes now passed ∧
        ∀ left seen, LastBefore Leaves now left → LastBefore Passes left seen →
          seen < entered := by
  constructor
  · rintro ⟨relay, past, ⟨relayed, entered, before, happened, first⟩, waiting⟩
    obtain ⟨passed, recent, later⟩ := exists_lastBefore relayed past
    refine ⟨entered, passed, happened, Nat.lt_of_lt_of_le before later, recent, ?_⟩
    intro left seen leaving passing
    have earlier : left < relay := waiting left leaving.past leaving.happened
    exact first seen (Nat.lt_trans passing.past earlier) passing.happened
  · rintro ⟨entered, passed, happened, before, recent, unseen⟩
    -- What entered was passed on at the first occasion, and if it had left since, the last
    -- leaving would have seen that occasion.
    classical
    have occasion : ∃ relay, entered < relay ∧ Passes relay := ⟨passed, before, recent.happened⟩
    have least := fun {moment : Nat} => @Nat.find_min _ _ occasion moment
    have reached : Nat.find occasion ≤ passed :=
      Nat.find_min' occasion ⟨before, recent.happened⟩
    obtain ⟨after, relayed⟩ := Nat.find_spec occasion
    generalize Nat.find occasion = relay at least reached after relayed
    have first : ∀ moment < relay, Passes moment → moment < entered := by
      intro moment within passing
      have unreached : ¬entered < moment := fun late => least within ⟨late, passing⟩
      have other : moment ≠ entered := fun same => enters entered happened (same ▸ passing)
      omega
    have past : relay < now := Nat.lt_of_le_of_lt reached recent.past
    refine ⟨relay, past, ⟨relayed, entered, after, happened, first⟩, ?_⟩
    intro moment within leaving
    by_contra late
    have other : relay ≠ moment := fun same => passes moment (same ▸ relayed) leaving
    obtain ⟨left, lastLeft, following⟩ := exists_lastBefore leaving within
    have between : relay < left := by omega
    obtain ⟨seen, lastSeen, saw⟩ := exists_lastBefore relayed between
    have tooEarly : seen < entered := unseen left seen lastLeft lastSeen
    omega

end Chip8
