import Mathlib.Data.List.Induction
import OxiTls.Library.Fallible

/-!
# Calls that each set one field

A builder takes calls, and each call reads and writes one field; some can fail.  What a field holds
after a sequence of calls is then decided by the calls of that field, in their order, and two
sequences that agree on the calls of every field both fail or leave the same state.
-/

namespace Setters

section Independence

variable {ε φ : Type*} {σ : Type} {κ : Type*} {β : φ → Type*}

/-- Every call reads and writes its own field only, and the fields make up the state. -/
structure Independent (apply : σ → κ → Except ε σ) (field : κ → φ)
    (view : (f : φ) → σ → β f) : Prop where
  other : ∀ {state call next}, apply state call = .ok next →
    ∀ f, field call ≠ f → view f next = view f state
  own : ∀ {state call next}, apply state call = .ok next →
    ∀ state', view (field call) state = view (field call) state' →
      ∃ next', apply state' call = .ok next' ∧ view (field call) next = view (field call) next'
  ext : ∀ {state state'}, (∀ f, view f state = view f state') → state = state'

namespace Independent

variable {apply : σ → κ → Except ε σ} {field : κ → φ} {view : (f : φ) → σ → β f} [DecidableEq φ]

/-- A field is decided by its own calls, which succeed when all calls do. -/
theorem view_foldlM (independent : Independent apply field view) (f : φ) {calls : List κ}
    {state state' final : σ} (ran : calls.foldlM apply state = .ok final)
    (same : view f state = view f state') :
    ∃ final', (calls.filter (field · = f)).foldlM apply state' = .ok final' ∧
      view f final = view f final' := by
  induction calls generalizing state state' with
  | nil => exact ⟨state', rfl, (Except.pure_eq_ok_iff.mp ran) ▸ same⟩
  | cons call calls induction =>
      rw [List.foldlM_cons, Except.bind_eq_ok_iff] at ran
      obtain ⟨next, applied, ran⟩ := ran
      by_cases own : field call = f
      · subst own
        obtain ⟨next', applied', same⟩ := independent.own applied state' same
        obtain ⟨final', ran', viewed⟩ := induction ran same
        refine ⟨final', ?_, viewed⟩
        rw [List.filter_cons_of_pos (by simp), List.foldlM_cons, applied', Except.ok_bind, ran']
      · rw [List.filter_cons_of_neg (by simpa using own)]
        exact induction ran ((independent.other applied f own).trans same)

/-- The calls succeed when those of every field do. -/
theorem exists_foldlM (independent : Independent apply field view) {calls : List κ} {state : σ}
    (separately : ∀ f, ∃ state' final', view f state' = view f state ∧
      (calls.filter (field · = f)).foldlM apply state' = .ok final') :
    ∃ final, calls.foldlM apply state = .ok final := by
  induction calls generalizing state with
  | nil => exact ⟨state, rfl⟩
  | cons call calls induction =>
      obtain ⟨start, final', same, ran⟩ := separately (field call)
      rw [List.filter_cons_of_pos (by simp), List.foldlM_cons, Except.bind_eq_ok_iff] at ran
      obtain ⟨next', applied', ran⟩ := ran
      obtain ⟨next, applied, viewed⟩ := independent.own applied' state same
      have later : ∀ f, ∃ state' final', view f state' = view f next ∧
          (calls.filter (field · = f)).foldlM apply state' = .ok final' := by
        intro f
        by_cases own : field call = f
        · subst own
          exact ⟨next', final', viewed, ran⟩
        · obtain ⟨start, final', same, ran⟩ := separately f
          rw [List.filter_cons_of_neg (by simpa using own)] at ran
          exact ⟨start, final', same.trans (independent.other applied f own).symm, ran⟩
      obtain ⟨final, continued⟩ := induction later
      exact ⟨final, by rw [List.foldlM_cons, applied, Except.ok_bind, continued]⟩

/-- Sequences that agree on the calls of every field both fail or leave the same state. -/
theorem foldlM_eq_ok_iff (independent : Independent apply field view) {calls calls' : List κ}
    (agree : ∀ f, calls.filter (field · = f) = calls'.filter (field · = f)) {state final : σ} :
    calls.foldlM apply state = .ok final ↔ calls'.foldlM apply state = .ok final := by
  suffices ∀ {calls calls' : List κ},
      (∀ f, calls.filter (field · = f) = calls'.filter (field · = f)) →
      calls.foldlM apply state = .ok final → calls'.foldlM apply state = .ok final from
    ⟨this agree, this fun f => (agree f).symm⟩
  intro calls calls' agree ran
  have separately : ∀ f, ∃ state' final', view f state' = view f state ∧
      (calls'.filter (field · = f)).foldlM apply state' = .ok final' := by
    intro f
    obtain ⟨own, ran, -⟩ := independent.view_foldlM f ran rfl
    exact ⟨state, own, rfl, agree f ▸ ran⟩
  obtain ⟨final', ran'⟩ := independent.exists_foldlM separately
  have same : final' = final := by
    apply independent.ext
    intro f
    obtain ⟨own, separately, viewed⟩ := independent.view_foldlM f ran rfl
    obtain ⟨own', separately', viewed'⟩ := independent.view_foldlM f ran' rfl
    rw [agree f, separately'] at separately
    rw [viewed', viewed, Except.ok.inj separately]
  exact same ▸ ran'

end Independent

end Independence

variable {σ κ : Type*} {apply : σ → κ → σ}

/-- What the last call picks that picks anything. -/
def last {α : Type*} (picks : κ → Option α) (calls : List κ) : Option α :=
  calls.reverse.findSome? picks

theorem last_eq_none_iff {α : Type*} {picks : κ → Option α} {calls : List κ} :
    last picks calls = none ↔ ∀ call ∈ calls, picks call = none := by
  simp only [last, List.findSome?_eq_none_iff, List.mem_reverse]

theorem last_concat {α : Type*} (picks : κ → Option α) (calls : List κ) (call : κ) :
    last picks (calls ++ [call]) = (picks call).or (last picks calls) := by
  rw [last, List.reverse_append, List.reverse_singleton, List.findSome?_append,
    List.findSome?_singleton]
  rfl

/-- A field that every picking call overwrites holds what was picked last. -/
theorem foldl_overwrite {α : Type*} (get : σ → Option α) (picks : κ → Option α)
    (overwrites : ∀ state call, get (apply state call) = (picks call).or (get state))
    (calls : List κ) (state : σ) :
    get (calls.foldl apply state) = (last picks calls).or (get state) := by
  induction calls generalizing state with
  | nil => rfl
  | cons call calls induction =>
      rw [List.foldl_cons, induction, overwrites, last, last, List.reverse_cons,
        List.findSome?_append, Option.or_assoc, List.findSome?_singleton]

/-- The same for calls that can fail. -/
theorem foldlM_overwrite {ε α : Type*} {σ κ : Type} {apply : σ → κ → Except ε σ}
    (get : σ → Option α) (picks : κ → Option α)
    (overwrites : ∀ state call next, apply state call = .ok next →
      get next = (picks call).or (get state))
    {calls : List κ} {state final : σ} (ran : calls.foldlM apply state = .ok final) :
    get final = (last picks calls).or (get state) := by
  rw [Except.eq_foldl_of_foldlM_eq_ok get (fun held call => (picks call).or held) overwrites ran]
  exact foldl_overwrite id picks (fun _ _ => rfl) calls (get state)

/-- Calls that follow a closed form succeed one by one, and leave what the form says. -/
theorem foldlM_closed {ε : Type*} {σ κ : Type} {apply : σ → κ → Except ε σ}
    (closed : List κ → σ) (succeeds : κ → Prop)
    (follows : ∀ calls call next, apply (closed calls) call = .ok next ↔
      succeeds call ∧ next = closed (calls ++ [call]))
    {calls : List κ} {final : σ} :
    calls.foldlM apply (closed []) = .ok final ↔
      (∀ call ∈ calls, succeeds call) ∧ final = closed calls := by
  induction calls using List.reverseRecOn generalizing final with
  | nil => simp [Except.pure_eq_ok_iff, eq_comm (a := final)]
  | append_singleton calls call induction =>
      rw [List.foldlM_append, Except.bind_eq_ok_iff]
      simp only [induction, List.foldlM_cons, List.foldlM_nil, bind_pure, List.forall_mem_append,
        List.forall_mem_singleton]
      constructor
      · rintro ⟨_, ⟨earlier, rfl⟩, applied⟩
        obtain ⟨succeeded, final_eq⟩ := (follows calls call final).mp applied
        exact ⟨⟨earlier, succeeded⟩, final_eq⟩
      · rintro ⟨⟨earlier, succeeded⟩, final_eq⟩
        exact ⟨closed calls, ⟨earlier, rfl⟩, (follows calls call final).mpr ⟨succeeded, final_eq⟩⟩

/-- A field that every call extends holds what was added, in the order of the calls. -/
theorem foldl_extend {α : Type*} (get : σ → List α) (adds : κ → List α) {calls : List κ}
    (extended : ∀ call ∈ calls, ∀ state, get (apply state call) = get state ++ adds call)
    (state : σ) : get (calls.foldl apply state) = get state ++ calls.flatMap adds := by
  induction calls generalizing state with
  | nil => rw [List.foldl_nil, List.flatMap_nil, List.append_nil]
  | cons call calls induction =>
      obtain ⟨first, later⟩ := List.forall_mem_cons.mp extended
      rw [List.foldl_cons, induction later, first, List.flatMap_cons, List.append_assoc]

/-- A field that some calls replace and the others extend holds what was added, as long as no call
replaces it. -/
theorem foldl_extend_unreplaced {α : Type*} (get : σ → List α) (adds : κ → List α)
    (replaces : κ → Option (List α))
    (effect : ∀ state call, get (apply state call) = (replaces call).getD (get state ++ adds call))
    {calls : List κ} (kept : ∀ call ∈ calls, replaces call = none) (state : σ) :
    get (calls.foldl apply state) = get state ++ calls.flatMap adds := by
  refine foldl_extend get adds (fun call mem state => ?_) state
  rw [effect, kept call mem, Option.getD_none]

/-- Once a call replaces the field, it holds the last replacement, with what was added after it. -/
theorem foldl_replace {α : Type*} (get : σ → List α) (adds : κ → List α)
    (replaces : κ → Option (List α))
    (effect : ∀ state call, get (apply state call) = (replaces call).getD (get state ++ adds call))
    {call : κ} {values : List α} (replaced : replaces call = some values) {calls : List κ}
    (kept : ∀ later ∈ calls, replaces later = none) (earlier : List κ) (state : σ) :
    get ((earlier ++ call :: calls).foldl apply state) = values ++ calls.flatMap adds := by
  rw [List.foldl_append, List.foldl_cons, foldl_extend_unreplaced get adds replaces effect kept,
    effect, replaced, Option.getD_some]

end Setters
