import OxiTls.Ticket.AntiReplay

/-!
# The replay window under every interleaving

A fresh decision leaves its fingerprint in the table until some critical section prunes it, and
pruning needs a clock value more than the window after the recorded one.  Recorded times need not
grow in the order of the lock; the invariant compares each of them with the clock instead.
-/

namespace OxiTls

namespace AntiReplay

variable (crates : Crates)

/-- The clock when the later critical section runs is more than the window after the value that the
earlier one of the same ticket had read, if both answered with a plaintext. -/
def Spaced (windowSecs : Nat) (earlier later : Decision) : Prop :=
  earlier.ticket = later.ticket → earlier.answer.isSome → later.answer.isSome →
    earlier.readAt + windowSecs < later.lockedAt

/-- Every replayed decision comes after a fresh one with the same fingerprint. -/
def Justified (log : List Decision) : Prop :=
  ∀ before decision after, log = before ++ decision :: after → decision.verdict = .replayed →
    ∃ first ∈ before, first.verdict = .fresh ∧
      crates.sha256 first.ticket = crates.sha256 decision.ticket

/-- What every schedule preserves. -/
structure Sound (windowSecs : Nat) (state : State) : Prop where
  window : state.guard.windowSecs = windowSecs
  clocked : ∀ call ticket plaintext now,
    state.calls call = some (.clocked ticket plaintext now) → now ≤ state.clock
  covered : ∀ decision ∈ state.log, decision.verdict = .fresh →
    state.guard.seen.Covers windowSecs state.clock (crates.sha256 decision.ticket) decision.readAt
  recorded : ∀ key recordedAt, state.guard.seen key = some recordedAt →
    ∃ decision ∈ state.log, decision.verdict = .fresh ∧ crates.sha256 decision.ticket = key
  answered : ∀ call plaintext, state.calls call = some (.returned (some plaintext)) →
    ∃ decision ∈ state.log, decision.call = call ∧ decision.answer = some plaintext
  spaced : state.log.Pairwise (Spaced windowSecs)
  justified : Justified crates state.log

variable {crates}

theorem sound_initial (windowSecs clock : Nat) :
    Sound crates windowSecs (initial windowSecs clock) where
  window := rfl
  clocked := by simp [initial]
  covered := by simp [initial]
  recorded := by simp [initial, ReplayGuard.new]
  answered := by simp [initial]
  spaced := .nil
  justified := by simp [Justified, initial]

/-- Justification of a log extended by one decision. -/
theorem Justified.snoc {log : List Decision} {decision : Decision}
    (justified : Justified crates log)
    (last : decision.verdict = .replayed → ∃ first ∈ log, first.verdict = .fresh ∧
      crates.sha256 first.ticket = crates.sha256 decision.ticket) :
    Justified crates (log ++ [decision]) := by
  intro before replayed after split verdict
  rcases List.eq_nil_or_concat after with rfl | ⟨middle, final, rfl⟩
  · obtain ⟨rfl, rfl⟩ := List.append_inj' split rfl |>.imp id fun tail => List.cons.inj tail |>.1
    exact last verdict
  · have parts : log ++ [decision] = (before ++ replayed :: middle) ++ [final] := by
      simpa using split
    exact justified before replayed middle (List.append_inj' parts rfl).1 verdict

theorem Sound.tick {windowSecs : Nat} {state : State} (sound : Sound crates windowSecs state)
    (elapsed : Nat) :
    Sound crates windowSecs { state with clock := state.clock + elapsed } where
  window := sound.window
  clocked call ticket plaintext now held :=
    Nat.le_trans (sound.clocked call ticket plaintext now held) (Nat.le_add_right _ _)
  covered decision member fresh :=
    (sound.covered decision member fresh).elapse (Nat.le_add_right _ _)
  recorded := sound.recorded
  answered := sound.answered
  spaced := sound.spaced
  justified := sound.justified

/-- Moving one call keeps the invariant, provided the new phase respects the clock and a returned
plaintext has its decision in the log. -/
theorem Sound.setPhase {windowSecs : Nat} {state : State} {call : Nat} {phase : Phase}
    (sound : Sound crates windowSecs state)
    (current : ∀ ticket plaintext now, phase = .clocked ticket plaintext now → now ≤ state.clock)
    (decided : ∀ plaintext, phase = .returned (some plaintext) →
      ∃ decision ∈ state.log, decision.call = call ∧ decision.answer = some plaintext) :
    Sound crates windowSecs (state.setPhase call phase) where
  window := sound.window
  clocked other ticket plaintext now held := by
    by_cases same : other = call
    · subst same
      exact current ticket plaintext now (by simpa [State.setPhase] using held)
    · exact sound.clocked other ticket plaintext now (by simpa [State.setPhase, same] using held)
  covered := sound.covered
  recorded := sound.recorded
  answered other plaintext returned := by
    by_cases same : other = call
    · subst same
      exact decided plaintext (by simpa [State.setPhase] using returned)
    · exact sound.answered other plaintext (by simpa [State.setPhase, same] using returned)
  spaced := sound.spaced
  justified := sound.justified

/-- A critical section that finds the fingerprint records nothing. -/
theorem Sound.replayed {windowSecs now : Nat} {state : State} {call : Nat}
    {ticket plaintext : Bytes} (sound : Sound crates windowSecs state)
    (current : now ≤ state.clock) {recordedAt : Nat}
    (found : state.guard.seen.retain windowSecs now (crates.sha256 ticket) = some recordedAt) :
    Sound crates windowSecs
      { state with
        guard := ⟨state.guard.seen.retain windowSecs now, windowSecs⟩
        log := state.log ++ [⟨call, ticket, plaintext, now, state.clock, .replayed⟩] } where
  window := rfl
  clocked := sound.clocked
  covered decision member fresh := by
    rcases List.mem_append.mp member with earlier | last
    · exact (sound.covered decision earlier fresh).retain current
    · obtain rfl := List.mem_singleton.mp last
      contradiction
  recorded key at' kept := by
    obtain ⟨decision, member, fresh, same⟩ :=
      sound.recorded key at' (ExpiringTable.retain_eq_some_iff.mp kept).1
    exact ⟨decision, List.mem_append_left _ member, fresh, same⟩
  answered other answer returned := by
    obtain ⟨decision, member, made⟩ := sound.answered other answer returned
    exact ⟨decision, List.mem_append_left _ member, made⟩
  spaced := by
    refine List.pairwise_append.mpr ⟨sound.spaced, List.pairwise_singleton _ _, ?_⟩
    simp [Spaced]
  justified := sound.justified.snoc fun _ =>
    sound.recorded _ recordedAt (ExpiringTable.retain_eq_some_iff.mp found).1

/-- A critical section that does not find the fingerprint records it; every earlier fresh decision
on the ticket is then past its window. -/
theorem Sound.fresh {windowSecs now : Nat} {state : State} {call : Nat}
    {ticket plaintext : Bytes} (sound : Sound crates windowSecs state)
    (current : now ≤ state.clock)
    (absent : state.guard.seen.retain windowSecs now (crates.sha256 ticket) = none) :
    Sound crates windowSecs
      { state with
        guard := ⟨(state.guard.seen.retain windowSecs now).insert (crates.sha256 ticket) now,
          windowSecs⟩
        log := state.log ++ [⟨call, ticket, plaintext, now, state.clock, .fresh⟩] } where
  window := rfl
  clocked := sound.clocked
  covered decision member fresh := by
    rcases List.mem_append.mp member with earlier | last
    · exact ((sound.covered decision earlier fresh).retain current).insert absent now
    · obtain rfl := List.mem_singleton.mp last
      exact .inl (ExpiringTable.insert_self _ _ _)
  recorded key at' kept := by
    by_cases same : key = crates.sha256 ticket
    · exact ⟨_, List.mem_append_right _ (List.mem_singleton_self _), rfl, same.symm⟩
    · dsimp only at kept
      rw [ExpiringTable.insert_of_ne _ _ same] at kept
      obtain ⟨decision, member, fresh, matched⟩ :=
        sound.recorded key at' (ExpiringTable.retain_eq_some_iff.mp kept).1
      exact ⟨decision, List.mem_append_left _ member, fresh, matched⟩
  answered other answer returned := by
    obtain ⟨decision, member, made⟩ := sound.answered other answer returned
    exact ⟨decision, List.mem_append_left _ member, made⟩
  spaced := by
    refine List.pairwise_append.mpr ⟨sound.spaced, List.pairwise_singleton _ _, ?_⟩
    intro earlier member later last
    obtain rfl := List.mem_singleton.mp last
    intro same answered _
    have fresh := earlier.isSome_answer_iff.mp answered
    refine ((sound.covered earlier member fresh).retain current).expired ?_
    rw [show earlier.ticket = ticket from same]
    exact absent
  justified := sound.justified.snoc fun replayed => by simp at replayed

/-- The critical section keeps the invariant. -/
theorem Sound.decide {windowSecs now : Nat} {state : State} {call : Nat}
    {ticket plaintext : Bytes} (sound : Sound crates windowSecs state)
    (current : now ≤ state.clock) :
    Sound crates windowSecs (state.decide crates call ticket plaintext now) := by
  have window := sound.window
  unfold State.decide
  rcases state.guard.checkAndRecord_eq crates now ticket with
    ⟨recordedAt, found, made⟩ | ⟨absent, made⟩
  · rw [made]
    rw [window] at found ⊢
    exact (sound.replayed current found).setPhase (by simp) (by simp [Decision.answer])
  · rw [made]
    rw [window] at absent ⊢
    refine (sound.fresh current absent).setPhase (by simp) fun answer returned => ?_
    exact ⟨_, List.mem_append_right _ (List.mem_singleton_self _), rfl,
      by simpa [Decision.answer] using returned⟩

theorem Sound.step {windowSecs : Nat} {state next : State} {event : Event}
    (sound : Sound crates windowSecs state)
    (stepped : AntiReplay.step crates state event = some next) :
    Sound crates windowSecs next := by
  rcases step_eq_some crates stepped with
    ⟨elapsed, _, rfl⟩ | ⟨call, phase, rfl, current, unanswered⟩ |
      ⟨call, ticket, plaintext, now, _, held, rfl⟩
  · exact sound.tick elapsed
  · exact sound.setPhase
      (fun ticket plaintext now clocked => Nat.le_of_eq (current ticket plaintext now clocked))
      (fun plaintext returned => (unanswered plaintext returned).elim)
  · exact sound.decide (sound.clocked call ticket plaintext now held)

/-- Every schedule ends in a sound state. -/
theorem sound_of_run {windowSecs clock : Nat} {events : List Event} {state : State}
    (executed : Execution.run (step crates) (initial windowSecs clock) events = some state) :
    Sound crates windowSecs state :=
  Execution.invariant_of_run (fun _ _ _ sound stepped => sound.step stepped)
    (sound_initial windowSecs clock) executed

/-- Only the critical section of a call that holds a plaintext touches the guard. -/
theorem guard_eq_or_critical {state next : State} {event : Event}
    (stepped : step crates state event = some next) :
    next.guard = state.guard ∨
      ∃ call ticket plaintext now, event = .critical call ∧
        state.calls call = some (.clocked ticket plaintext now) := by
  rcases step_eq_some crates stepped with
    ⟨_, _, rfl⟩ | ⟨_, _, rfl, _⟩ | ⟨call, ticket, plaintext, now, rfl, held, rfl⟩
  · exact .inl rfl
  · exact .inl rfl
  · exact .inr ⟨call, ticket, plaintext, now, rfl, held⟩

/-- A replayed critical section keeps the time of every entry that survives it. -/
theorem seen_of_replayed {state next : State} {call : Nat} {decision : Decision}
    (stepped : step crates state (.critical call) = some next)
    (last : next.log = state.log ++ [decision]) (replayed : decision.verdict = .replayed)
    {key : Digest} {recordedAt : Nat} (kept : next.guard.seen key = some recordedAt) :
    state.guard.seen key = some recordedAt := by
  rcases step_eq_some crates stepped with
    ⟨_, unequal, _⟩ | ⟨_, _, rfl, _⟩ | ⟨call', ticket, plaintext, now, _, _, rfl⟩
  · contradiction
  · simp [State.setPhase] at last
  · unfold State.decide at last kept
    rcases state.guard.checkAndRecord_eq crates now ticket with ⟨_, _, made⟩ | ⟨_, made⟩
    · rw [made] at kept
      exact (ExpiringTable.retain_eq_some_iff.mp kept).1
    · rw [made] at last
      have fresh := List.append_cancel_left last
      simp only [List.cons.injEq, and_true] at fresh
      rw [← fresh] at replayed
      contradiction

/-- In every interleaving: a call that returned a plaintext has a fresh decision; two fresh
decisions on one ticket are more than the window apart; a call whose inner decryption fails returns
nothing and leaves the guard alone, which only critical sections change; a replayed critical section
keeps the surviving times; and every replayed decision follows a fresh one with its fingerprint. -/
theorem replayWindow_of_run {windowSecs clock : Nat} {events : List Event} {state : State}
    (executed : Execution.run (step crates) (initial windowSecs clock) events = some state) :
    (∀ call plaintext, state.calls call = some (.returned (some plaintext)) →
        ∃ decision ∈ state.log, decision.call = call ∧ decision.answer = some plaintext) ∧
      state.log.Pairwise (fun earlier later =>
        earlier.ticket = later.ticket → earlier.answer.isSome → later.answer.isSome →
          earlier.readAt + windowSecs < later.lockedAt) ∧
      (∀ call next, step crates state (.innerDecrypt call none) = some next →
        next.guard = state.guard ∧ next.calls call = some (.returned none)) ∧
      (∀ event next, step crates state event = some next → next.guard = state.guard ∨
        ∃ call ticket plaintext now, event = .critical call ∧
          state.calls call = some (.clocked ticket plaintext now)) ∧
      (∀ call next decision, step crates state (.critical call) = some next →
        next.log = state.log ++ [decision] → decision.verdict = .replayed →
        ∀ key recordedAt, next.guard.seen key = some recordedAt →
          state.guard.seen key = some recordedAt) ∧
      ∀ before decision after, state.log = before ++ decision :: after →
        decision.verdict = .replayed →
        ∃ first ∈ before, first.verdict = .fresh ∧
          crates.sha256 first.ticket = crates.sha256 decision.ticket := by
  have sound := sound_of_run executed
  refine ⟨sound.answered, sound.spaced, ?_, fun _ _ => guard_eq_or_critical, ?_, sound.justified⟩
  · intro call next stepped
    simp only [step] at stepped
    split at stepped
    · obtain rfl := Option.some.inj stepped
      exact ⟨rfl, by simp [State.setPhase]⟩
    · contradiction
  · intro call next decision stepped last replayed key recordedAt kept
    exact seen_of_replayed stepped last replayed kept

/-- Two calls race with one ticket, and a third uses it after the window of ten seconds. -/
def race : List Event :=
  [.invoke 0 [1], .invoke 1 [1], .innerDecrypt 0 (some [7]), .innerDecrypt 1 (some [7]),
    .readClock 1, .tick 4, .readClock 0, .critical 0, .critical 1, .tick 11, .invoke 2 [1],
    .innerDecrypt 2 (some [7]), .readClock 2, .critical 2]

theorem replayWindow_of_run_race :
    ∃ state, Execution.run (step .inert) (initial 10 0) race = some state ∧
      state.log.map Decision.answer = [some [7], none, some [7]] ∧
      state.log.Pairwise fun earlier later =>
        earlier.ticket = later.ticket → earlier.answer.isSome → later.answer.isSome →
          earlier.readAt + 10 < later.lockedAt := by
  have executed : Execution.run (step .inert) (initial 10 0) race = some _ := rfl
  exact ⟨_, executed, rfl, (replayWindow_of_run executed).2.1⟩

end AntiReplay

end OxiTls
