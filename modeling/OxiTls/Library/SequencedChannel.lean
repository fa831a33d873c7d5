import Mathlib.Data.List.Basic
import OxiTls.Library.Execution

/-!
# Channels that number their messages

A writer protects each message under its position in the stream, a network delivers whatever it
likes, and a reader removes the protection under the position it expects.  The reader goes on after
a record it refuses.  When what a cipher opens was sealed by the writer, and the input of the cipher
determines the position and the message, the messages read are a prefix of the messages written.
-/

namespace SequencedChannel

/-- Protection of messages under their positions.  The reader sees a view of a message. -/
structure Protection (μ ν ρ : Type*) where
  protect : μ → (position : Nat) → Option ρ
  unprotect : ρ → (position : Nat) → Option ν
  view : μ → ν
  /-- No message is written at this position or a later one. -/
  limit : Nat

/-- Both ends of a channel: the messages written, with their records, and the messages read. -/
structure State (μ ν ρ : Type*) where
  sent : List (μ × ρ)
  read : List ν

/-- A message is written, or the network delivers a record. -/
inductive Event (μ ρ : Type*)
  | write (message : μ)
  | deliver (record : ρ)

variable {μ ν ρ ι : Type*}

/-- Nothing has been written. -/
def initial : State μ ν ρ := ⟨[], []⟩

/-- The messages written. -/
def State.written (state : State μ ν ρ) : List μ := state.sent.map Prod.fst

namespace Protection

variable (protection : Protection μ ν ρ)

/-- One event of a channel.  A message that cannot be protected is not written. -/
def step (state : State μ ν ρ) : Event μ ρ → Option (State μ ν ρ)
  | .write message =>
      if state.sent.length < protection.limit then
        (protection.protect message state.sent.length).map fun record =>
          { state with sent := state.sent ++ [(message, record)] }
      else none
  | .deliver record =>
      match protection.unprotect record state.read.length with
      | some message => some { state with read := state.read ++ [message] }
      | none => some state

/-- How a protection uses its cipher: the input that sealing a message takes, and the input that
opening a record recovers. -/
structure CipherUse (ι : Type*) where
  sealing : μ → (position : Nat) → ι
  opened : ρ → (position : Nat) → Option ι
  /-- A message is read from what the cipher has opened. -/
  opens : ∀ {record position message}, protection.unprotect record position = some message →
    ∃ input, opened record position = some input
  /-- The input of the cipher determines the position and what the reader sees. -/
  binds : ∀ {sent index genuine record position message}, index < protection.limit →
    position ≤ protection.limit → protection.protect sent index = some genuine →
    opened record position = some (sealing sent index) →
    protection.unprotect record position = some message →
      index = position ∧ message = protection.view sent

/-- The inputs that the writer has sealed. -/
def CipherUse.sealed {protection : Protection μ ν ρ} (use : protection.CipherUse ι)
    (state : State μ ν ρ) : List ι :=
  state.written.mapIdx fun position message => use.sealing message position

/-- The cipher opens nothing that the writer has not sealed. -/
def CipherUse.Unforged {protection : Protection μ ν ρ} (use : protection.CipherUse ι)
    (state : State μ ν ρ) : Event μ ρ → Prop
  | .write _ => True
  | .deliver record =>
      ∀ input, use.opened record state.read.length = some input → input ∈ use.sealed state

/-- The records are those of the messages written, and the messages read are the first of them. -/
structure Consistent (state : State μ ν ρ) : Prop where
  bounded : state.sent.length ≤ protection.limit
  recorded : ∀ {position message record}, state.sent[position]? = some (message, record) →
    protection.protect message position = some record
  delivered : state.read <+: state.written.map protection.view

variable {protection} {state next : State μ ν ρ} {use : protection.CipherUse ι}

theorem consistent_initial : protection.Consistent initial where
  bounded := Nat.zero_le _
  recorded found := by simp [initial] at found
  delivered := List.prefix_refl []

theorem step_write_eq_some_iff {message : μ} :
    protection.step state (.write message) = some next ↔
      state.sent.length < protection.limit ∧
        ∃ record, protection.protect message state.sent.length = some record ∧
          { state with sent := state.sent ++ [(message, record)] } = next := by
  unfold step
  split_ifs with below
  · simp only [Option.map_eq_some_iff, below, true_and]
  · simp only [below, false_and]

/-- A delivered record is read, or changes nothing. -/
theorem step_deliver_eq_some {record : ρ}
    (stepped : protection.step state (.deliver record) = some next) :
    next = state ∨ ∃ message, protection.unprotect record state.read.length = some message ∧
      next = { state with read := state.read ++ [message] } := by
  cases unprotected : protection.unprotect record state.read.length with
  | none =>
      simp only [step, unprotected, Option.some.injEq] at stepped
      exact .inl stepped.symm
  | some message =>
      simp only [step, unprotected, Option.some.injEq] at stepped
      exact .inr ⟨message, rfl, stepped.symm⟩

/-- The next message in the view of the reader extends what has been read. -/
theorem delivered_append (consistent : protection.Consistent state) {message : μ}
    (found : state.written[state.read.length]? = some message) :
    state.read ++ [protection.view message] <+: state.written.map protection.view := by
  obtain ⟨later, split⟩ := consistent.delivered
  have head : later[0]? = some (protection.view message) := by
    have shifted : (state.read ++ later)[state.read.length]? =
        later[state.read.length - state.read.length]? :=
      List.getElem?_append_right (Nat.le_refl _)
    rw [split, Nat.sub_self, List.getElem?_map, found, Option.map_some] at shifted
    exact shifted.symm
  cases later with
  | nil => cases head
  | cons first later =>
      obtain rfl := Option.some.inj head
      exact ⟨later, by rw [List.append_assoc, List.singleton_append, split]⟩

theorem length_written_le (consistent : protection.Consistent state) :
    state.written.length ≤ protection.limit := by
  rw [State.written, List.length_map]
  exact consistent.bounded

/-- Every message written has been protected under its position. -/
theorem exists_record (consistent : protection.Consistent state) {index : Nat}
    (inRange : index < state.written.length) :
    ∃ record, protection.protect state.written[index] index = some record := by
  have below : index < state.sent.length := by simpa [State.written] using inRange
  refine ⟨state.sent[index].2, consistent.recorded ?_⟩
  rw [List.getElem?_eq_getElem below]
  simp [State.written]

/-- What the writer has sealed is opened at its own position only. -/
theorem view_of_sealed (consistent : protection.Consistent state) {record : ρ} {input : ι}
    {message : ν} (opened : use.opened record state.read.length = some input)
    (sealed : input ∈ use.sealed state)
    (unprotected : protection.unprotect record state.read.length = some message) :
    ∃ sent, state.written[state.read.length]? = some sent ∧ message = protection.view sent := by
  obtain ⟨index, inRange, rfl⟩ := List.mem_mapIdx.mp sealed
  obtain ⟨genuine, isProtected⟩ := exists_record consistent inRange
  have bounded := length_written_le consistent
  have position : state.read.length ≤ protection.limit := by
    have shorter := consistent.delivered.length_le
    rw [List.length_map] at shorter
    exact Nat.le_trans shorter bounded
  obtain ⟨rfl, seen⟩ := use.binds (Nat.lt_of_lt_of_le inRange bounded) position isProtected opened
    unprotected
  exact ⟨_, List.getElem?_eq_getElem inRange, seen⟩

theorem consistent_step (consistent : protection.Consistent state) {event : Event μ ρ}
    (unforged : use.Unforged state event) (stepped : protection.step state event = some next) :
    protection.Consistent next := by
  cases event with
  | write message =>
      obtain ⟨below, record, isProtected, rfl⟩ := step_write_eq_some_iff.mp stepped
      refine ⟨?_, fun {position sent found} entry => ?_, ?_⟩
      · rw [List.length_append, List.length_singleton]
        exact below
      · rcases Nat.lt_or_ge position state.sent.length with former | latter
        · rw [List.getElem?_append_left former] at entry
          exact consistent.recorded entry
        · rw [List.getElem?_append_right latter] at entry
          obtain ⟨last, same⟩ := List.getElem?_eq_some_iff.mp entry
          have here : position = state.sent.length := by
            rw [List.length_singleton] at last
            omega
          subst here
          simp only [Nat.sub_self, List.getElem_cons_zero, Prod.mk.injEq] at same
          obtain ⟨rfl, rfl⟩ := same
          exact isProtected
      · rw [State.written, List.map_append, List.map_append]
        exact consistent.delivered.trans (List.prefix_append _ _)
  | deliver record =>
      obtain rfl | ⟨message, unprotected, rfl⟩ := step_deliver_eq_some stepped
      · exact consistent
      · obtain ⟨input, opened⟩ := use.opens unprotected
        obtain ⟨sent, found, rfl⟩ :=
          view_of_sealed consistent opened (unforged input opened) unprotected
        exact ⟨consistent.bounded, consistent.recorded, delivered_append consistent found⟩

/-- In every run in which the cipher opens only what was sealed, the messages read are the first of
the messages written. -/
theorem consistent_of_run {events : List (Event μ ρ)}
    (unforged : Execution.Meets protection.step use.Unforged initial events)
    (ran : Execution.run protection.step initial events = some state) :
    protection.Consistent state :=
  Execution.invariant_of_meets
    (fun _ _ _ consistent unforged stepped => consistent_step consistent unforged stepped)
    consistent_initial unforged ran

/-- What holds of the input of every protected message holds of everything sealed. -/
theorem forall_mem_sealed (consistent : protection.Consistent state) {property : ι → Prop}
    (holds : ∀ {message position record}, protection.protect message position = some record →
      property (use.sealing message position)) :
    ∀ input ∈ use.sealed state, property input := by
  intro input sealed
  obtain ⟨index, inRange, rfl⟩ := List.mem_mapIdx.mp sealed
  obtain ⟨record, isProtected⟩ := exists_record consistent inRange
  exact holds isProtected

/-- A part of the input that tells the position is never sealed twice. -/
theorem nodup_sealed (consistent : protection.Consistent state) {κ : Type*} (part : ι → κ)
    (tells : ∀ {left right index position}, index < protection.limit →
      position < protection.limit →
      part (use.sealing left index) = part (use.sealing right position) → index = position) :
    ((use.sealed state).map part).Nodup := by
  have bounded := length_written_le consistent
  rw [List.Nodup, List.pairwise_iff_getElem]
  intro index position first second before same
  simp only [List.length_map, CipherUse.sealed, List.length_mapIdx] at first second
  simp only [List.getElem_map, CipherUse.sealed, List.getElem_mapIdx] at same
  have here := tells (Nat.lt_of_lt_of_le first bounded) (Nat.lt_of_lt_of_le second bounded) same
  omega

/-- When unprotecting inverts protecting, the reader reads the next genuine record. -/
theorem step_deliver_next (consistent : protection.Consistent state)
    (inverts : ∀ {message position record}, protection.protect message position = some record →
      protection.unprotect record position = some (protection.view message))
    {message : μ} {record : ρ} (found : state.sent[state.read.length]? = some (message, record)) :
    protection.step state (.deliver record) =
      some { state with read := state.read ++ [protection.view message] } := by
  simp only [step, inverts (consistent.recorded found)]

end Protection

end SequencedChannel
