import Mathlib.Logic.Relation
import Mathlib.Tactic.Common

/-! # Programs over a transactional store

`Txn` is the part of a program that runs inside a transaction its caller owns: it reads and writes
a store, a clock and a source of identifiers, and an exception keeps the writes made so far.
`Tx` is a whole call on one connection. Outside a transaction the connection reads `view`, which
may differ from the store that its next transaction finds, because other connections commit in
between. `durable` is what remains of the store when the connection is closed or rolled back.

A store is an `Archive`: it says which later stores still hold what was recorded. Both kinds of
program carry the proof that they only extend the store, so every call inherits it.
-/

/-- The stores that a program never takes anything away from. -/
class Archive (σ : Type) where
  Extends : σ → σ → Prop
  refl : ∀ s, Extends s s
  trans : ∀ {s t u}, Extends s t → Extends t u → Extends s u

export Archive (Extends)

/-- The state a transaction works on. -/
structure Work (σ : Type) where
  store : σ
  tick : Nat
  draws : Nat

/-- One connection: `saved` is the store before the open transaction, if there is one. -/
structure Session (σ : Type) where
  work : Work σ
  view : σ
  saved : Option σ

namespace Session

variable {σ : Type}

def inTransaction (s : Session σ) : Bool := s.saved.isSome

/-- What an uncommitted connection leaves behind. -/
def durable (s : Session σ) : σ := s.saved.getD s.work.store

/-- The state that the next connection starts from. -/
def settle (s : Session σ) : Work σ := { s.work with store := s.durable }

/-- What a query reads. -/
def visible (s : Session σ) : σ :=
  match s.saved with
  | some _ => s.work.store
  | none => s.view

/-- A fresh connection whose reads outside a transaction see `view`. -/
def connect (work : Work σ) (view : σ) : Session σ := ⟨work, view, none⟩

/-- The open transaction has only extended the store that it started from. -/
def Fits [Archive σ] (s : Session σ) : Prop := Extends s.durable s.work.store

end Session

/-- The state a run ends in, whichever way it ends. -/
def EStateM.Result.final {ε σ α : Type} : EStateM.Result ε σ α → σ
  | .ok _ s => s
  | .error _ s => s

@[simp] theorem EStateM.Result.final_ok {ε σ α : Type} (a : α) (s : σ) :
    (EStateM.Result.ok a s : EStateM.Result ε σ α).final = s := rfl

@[simp] theorem EStateM.Result.final_error {ε σ α : Type} (e : ε) (s : σ) :
    (EStateM.Result.error e s : EStateM.Result ε σ α).final = s := rfl

/-- A program inside a transaction. -/
structure Txn (ε σ : Type) [Archive σ] (α : Type) where
  run : Work σ → EStateM.Result ε (Work σ) α
  grows : ∀ w, Extends w.store (run w).final.store
  advances : ∀ w, w.tick ≤ (run w).final.tick

/-- A call on a connection. -/
structure Tx (ε σ : Type) [Archive σ] (α : Type) where
  run : Session σ → EStateM.Result ε (Session σ) α
  grows : ∀ s : Session σ, s.Fits → (run s).final.Fits ∧ Extends s.durable (run s).final.durable
  advances : ∀ s : Session σ, s.work.tick ≤ (run s).final.work.tick

/-- `if wrong: raise error`. -/
def raiseIf {ε : Type} {m : Type → Type} [Monad m] [MonadExceptOf ε m] (wrong : Prop)
    [Decidable wrong] (error : ε) : m Unit :=
  if wrong then throw error else pure ()

/-- Run a computation that raises another exception type, translating its exceptions. -/
def orRaise {ε ε' α : Type} {m : Type → Type} [Monad m] [MonadExceptOf ε m]
    (translate : ε' → ε) : Except ε' α → m α
  | .ok value => pure value
  | .error error => throw (translate error)

section Except

variable {ε ε' α β : Type}

theorem Except.bind_ok {x : Except ε α} {f : α → Except ε β} {b : β} :
    (x >>= f) = .ok b ↔ ∃ a, x = .ok a ∧ f a = .ok b := by
  cases x <;> simp [bind, Except.bind]

theorem Except.bind_error {x : Except ε α} {f : α → Except ε β} {e : ε} :
    (x >>= f) = .error e ↔ x = .error e ∨ ∃ a, x = .ok a ∧ f a = .error e := by
  cases x <;> simp [bind, Except.bind]

@[simp] theorem raiseIf_except_ok {wrong : Prop} [Decidable wrong] {error : ε} {u : Unit} :
    (raiseIf wrong error : Except ε Unit) = .ok u ↔ ¬ wrong := by
  unfold raiseIf
  split <;> simp_all [pure, Except.pure, throw, throwThe, MonadExceptOf.throw]

@[simp] theorem orRaise_except_ok {translate : ε' → ε} {x : Except ε' α} {a : α} :
    (orRaise translate x : Except ε α) = .ok a ↔ x = .ok a := by
  cases x <;> simp [orRaise, pure, Except.pure, throw, throwThe, MonadExceptOf.throw]

/-- A loop of checks passes if each of them does. -/
theorem forM_iff {check : α → Except ε PUnit} : ∀ {xs : List α},
    xs.forM check = .ok () ↔ ∀ x ∈ xs, check x = .ok ()
  | [] => ⟨fun _ => List.forall_mem_nil _, fun _ => rfl⟩
  | x :: rest => by
    rw [List.forall_mem_cons, ← forM_iff]
    refine Except.bind_ok.trans ⟨?_, fun ⟨own, later⟩ => ⟨(), own, later⟩⟩
    rintro ⟨_, own, later⟩
    exact ⟨own, later⟩

end Except

variable {ε σ α β : Type} [Archive σ]

namespace Txn

instance : Monad (Txn ε σ) where
  pure a := ⟨fun w => .ok a w, fun w => Archive.refl w.store, fun _ => Nat.le_refl _⟩
  bind x f := {
    run := fun w => match x.run w with
      | .ok a middle => (f a).run middle
      | .error e middle => .error e middle
    grows := by
      intro w
      have first := x.grows w
      cases outcome : x.run w with
      | ok a middle =>
        rw [outcome] at first
        exact Archive.trans first ((f a).grows middle)
      | error e middle =>
        rw [outcome] at first
        exact first
    advances := by
      intro w
      have first := x.advances w
      cases outcome : x.run w with
      | ok a middle =>
        rw [outcome] at first
        exact Nat.le_trans first ((f a).advances middle)
      | error e middle =>
        rw [outcome] at first
        exact first }

instance : MonadExceptOf ε (Txn ε σ) where
  throw e := ⟨fun w => .error e w, fun w => Archive.refl w.store, fun _ => Nat.le_refl _⟩
  tryCatch x handle := {
    run := fun w => match x.run w with
      | .ok a after => .ok a after
      | .error e after => (handle e).run after
    grows := by
      intro w
      have first := x.grows w
      cases outcome : x.run w with
      | ok a after =>
        rw [outcome] at first
        exact first
      | error e after =>
        rw [outcome] at first
        exact Archive.trans first ((handle e).grows after)
    advances := by
      intro w
      have first := x.advances w
      cases outcome : x.run w with
      | ok a after =>
        rw [outcome] at first
        exact first
      | error e after =>
        rw [outcome] at first
        exact Nat.le_trans first ((handle e).advances after) }

def read (f : σ → α) : Txn ε σ α :=
  ⟨fun w => .ok (f w.store) w, fun w => Archive.refl w.store, fun _ => Nat.le_refl _⟩

/-- Replace the store when the statement satisfies the constraints of its tables. -/
def write (constraint : ε) (f : σ → Option σ) (extending : ∀ s t, f s = some t → Extends s t) :
    Txn ε σ Unit where
  run w :=
    match f w.store with
    | some next => .ok () { w with store := next }
    | none => .error constraint w
  grows := by
    intro w
    cases outcome : f w.store with
    | none => exact Archive.refl w.store
    | some next => exact extending _ _ outcome
  advances := by
    intro w
    cases f w.store <;> exact Nat.le_refl _

def clock (time : Nat → α) : Txn ε σ α :=
  ⟨fun w => .ok (time w.tick) { w with tick := w.tick + 1 }, fun w => Archive.refl w.store,
    fun w => Nat.le_succ w.tick⟩

def draw (source : Nat → α) : Txn ε σ α :=
  ⟨fun w => .ok (source w.draws) { w with draws := w.draws + 1 }, fun w => Archive.refl w.store,
    fun _ => Nat.le_refl _⟩

section Runs

variable {w w' : Work σ}

theorem bind_run (x : Txn ε σ α) (f : α → Txn ε σ β) : (x >>= f).run w =
    match x.run w with
    | .ok a middle => (f a).run middle
    | .error e middle => .error e middle := rfl

theorem bind_ok {x : Txn ε σ α} {f : α → Txn ε σ β} {b : β} :
    (x >>= f).run w = .ok b w' ↔
      ∃ a middle, x.run w = .ok a middle ∧ (f a).run middle = .ok b w' := by
  rw [bind_run]
  cases x.run w <;> simp

theorem bind_error {x : Txn ε σ α} {f : α → Txn ε σ β} {e : ε} :
    (x >>= f).run w = .error e w' ↔ x.run w = .error e w' ∨
      ∃ a middle, x.run w = .ok a middle ∧ (f a).run middle = .error e w' := by
  rw [bind_run]
  cases x.run w <;> simp

@[simp] theorem pure_run (a : α) : (pure a : Txn ε σ α).run w = .ok a w := rfl

@[simp] theorem throw_run (e : ε) : (throw e : Txn ε σ α).run w = .error e w := rfl

theorem map_run (x : Txn ε σ α) (f : α → β) : (f <$> x).run w =
    match x.run w with
    | .ok a after => .ok (f a) after
    | .error e after => .error e after := rfl

theorem map_ok {x : Txn ε σ α} {f : α → β} {b : β} :
    (f <$> x).run w = .ok b w' ↔ ∃ a, x.run w = .ok a w' ∧ f a = b := by
  rw [map_run]
  cases x.run w <;> simp [and_comm]

theorem tryCatch_run (x : Txn ε σ α) (handle : ε → Txn ε σ α) :
    (tryCatch x handle : Txn ε σ α).run w = match x.run w with
      | .ok a after => .ok a after
      | .error e after => (handle e).run after := rfl

@[simp] theorem read_run (f : σ → α) : (read f : Txn ε σ α).run w = .ok (f w.store) w := rfl

@[simp] theorem clock_run (time : Nat → α) :
    (clock time : Txn ε σ α).run w = .ok (time w.tick) { w with tick := w.tick + 1 } := rfl

@[simp] theorem draw_run (source : Nat → α) :
    (draw source : Txn ε σ α).run w = .ok (source w.draws) { w with draws := w.draws + 1 } := rfl

theorem write_run {constraint : ε} {f : σ → Option σ} {extending} :
    (write constraint f extending).run w = match f w.store with
      | some next => .ok () { w with store := next }
      | none => .error constraint w := rfl

theorem write_ok {constraint : ε} {f : σ → Option σ} {extending} {u : Unit} :
    (write constraint f extending).run w = .ok u w' ↔ f w.store = some w'.store ∧
      w'.tick = w.tick ∧ w'.draws = w.draws := by
  obtain ⟨store, tick, draws⟩ := w
  obtain ⟨store', tick', draws'⟩ := w'
  rw [write_run]
  cases f store with
  | none => simp
  | some next => simp [eq_comm]

@[simp] theorem raiseIf_ok {wrong : Prop} [Decidable wrong] {error : ε} {u : Unit} :
    (raiseIf wrong error : Txn ε σ Unit).run w = .ok u w' ↔ ¬ wrong ∧ w = w' := by
  unfold raiseIf
  split <;> simp_all

@[simp] theorem raiseIf_error {wrong : Prop} [Decidable wrong] {error e : ε} :
    (raiseIf wrong error : Txn ε σ Unit).run w = .error e w' ↔ wrong ∧ e = error ∧ w = w' := by
  unfold raiseIf
  split <;> simp_all [eq_comm]

@[simp] theorem orRaise_ok {ε' : Type} {translate : ε' → ε} {x : Except ε' α} {a : α} :
    (orRaise translate x : Txn ε σ α).run w = .ok a w' ↔ x = .ok a ∧ w = w' := by
  cases x <;> simp [orRaise]

@[simp] theorem orRaise_error {ε' : Type} {translate : ε' → ε} {x : Except ε' α} {e : ε} :
    (orRaise translate x : Txn ε σ α).run w = .error e w' ↔
      ∃ inner, x = .error inner ∧ e = translate inner ∧ w = w' := by
  cases x <;> simp [orRaise, eq_comm]

end Runs

/-- A program that leaves one part of the store alone, however it ends. -/
def Keeps {τ : Type} (part : σ → τ) (x : Txn ε σ α) : Prop :=
  ∀ w, part (x.run w).final.store = part w.store

section Keeps

variable {τ : Type} {part : σ → τ}

theorem Keeps.of_ok {x : Txn ε σ α} (keeps : Keeps part x) {w w' : Work σ} {a : α}
    (ran : x.run w = .ok a w') : part w'.store = part w.store := by
  have same := keeps w
  rw [ran] at same
  exact same

theorem Keeps.of_error {x : Txn ε σ α} (keeps : Keeps part x) {w w' : Work σ} {e : ε}
    (ran : x.run w = .error e w') : part w'.store = part w.store := by
  have same := keeps w
  rw [ran] at same
  exact same

theorem keeps_bind {x : Txn ε σ α} {f : α → Txn ε σ β} (first : Keeps part x)
    (next : ∀ a, Keeps part (f a)) : Keeps part (x >>= f) := by
  intro w
  have before := first w
  rw [bind_run]
  cases outcome : x.run w with
  | ok a middle =>
    rw [outcome] at before
    exact (next a middle).trans before
  | error e middle =>
    rw [outcome] at before
    exact before

theorem keeps_map {x : Txn ε σ α} {f : α → β} (first : Keeps part x) : Keeps part (f <$> x) := by
  intro w
  have before := first w
  rw [map_run]
  cases outcome : x.run w <;> rw [outcome] at before <;> exact before

theorem keeps_tryCatch {x : Txn ε σ α} {handle : ε → Txn ε σ α} (first : Keeps part x)
    (next : ∀ e, Keeps part (handle e)) : Keeps part (tryCatch x handle) := by
  intro w
  have before := first w
  rw [tryCatch_run]
  cases outcome : x.run w with
  | ok a after =>
    rw [outcome] at before
    exact before
  | error e after =>
    rw [outcome] at before
    exact (next e after).trans before

theorem keeps_pure (a : α) : Keeps part (pure a : Txn ε σ α) := fun _ => rfl

theorem keeps_throw (e : ε) : Keeps part (throw e : Txn ε σ α) := fun _ => rfl

theorem keeps_read (f : σ → α) : Keeps part (read f : Txn ε σ α) := fun _ => rfl

theorem keeps_clock (time : Nat → α) : Keeps part (clock time : Txn ε σ α) := fun _ => rfl

theorem keeps_draw (source : Nat → α) : Keeps part (draw source : Txn ε σ α) := fun _ => rfl

theorem keeps_raiseIf (wrong : Prop) [Decidable wrong] (error : ε) :
    Keeps part (raiseIf wrong error : Txn ε σ Unit) := by
  unfold raiseIf
  split
  · exact keeps_throw error
  · exact keeps_pure ()

theorem keeps_orRaise {ε' : Type} (translate : ε' → ε) (x : Except ε' α) :
    Keeps part (orRaise translate x : Txn ε σ α) := by
  cases x with
  | ok value => exact keeps_pure value
  | error error => exact keeps_throw (translate error)

theorem keeps_write {constraint : ε} {f : σ → Option σ} {extending}
    (same : ∀ s t, f s = some t → part t = part s) :
    Keeps part (write constraint f extending) := by
  intro w
  rw [write_run]
  cases outcome : f w.store with
  | none => rfl
  | some next => exact same _ _ outcome

end Keeps

end Txn

namespace Tx

instance : Monad (Tx ε σ) where
  pure a := ⟨fun s => .ok a s, fun s fits => ⟨fits, Archive.refl s.durable⟩, fun _ => Nat.le_refl _⟩
  bind x f := {
    run := fun s => match x.run s with
      | .ok a middle => (f a).run middle
      | .error e middle => .error e middle
    grows := by
      intro s fits
      have first := x.grows s fits
      cases outcome : x.run s with
      | ok a middle =>
        rw [outcome] at first
        have second := (f a).grows middle first.1
        exact ⟨second.1, Archive.trans first.2 second.2⟩
      | error e middle =>
        rw [outcome] at first
        exact first
    advances := by
      intro s
      have first := x.advances s
      cases outcome : x.run s with
      | ok a middle =>
        rw [outcome] at first
        exact Nat.le_trans first ((f a).advances middle)
      | error e middle =>
        rw [outcome] at first
        exact first }

instance : MonadExceptOf ε (Tx ε σ) where
  throw e :=
    ⟨fun s => .error e s, fun s fits => ⟨fits, Archive.refl s.durable⟩, fun _ => Nat.le_refl _⟩
  tryCatch x handle := {
    run := fun s => match x.run s with
      | .ok a after => .ok a after
      | .error e after => (handle e).run after
    grows := by
      intro s fits
      have first := x.grows s fits
      cases outcome : x.run s with
      | ok a after =>
        rw [outcome] at first
        exact first
      | error e after =>
        rw [outcome] at first
        have second := (handle e).grows after first.1
        exact ⟨second.1, Archive.trans first.2 second.2⟩
    advances := by
      intro s
      have first := x.advances s
      cases outcome : x.run s with
      | ok a after =>
        rw [outcome] at first
        exact first
      | error e after =>
        rw [outcome] at first
        exact Nat.le_trans first ((handle e).advances after) }

def query (f : σ → α) : Tx ε σ α :=
  ⟨fun s => .ok (f s.visible) s, fun s fits => ⟨fits, Archive.refl s.durable⟩,
    fun _ => Nat.le_refl _⟩

def clock (time : Nat → α) : Tx ε σ α where
  run s := .ok (time s.work.tick) { s with work := { s.work with tick := s.work.tick + 1 } }
  grows s fits := ⟨fits, Archive.refl s.durable⟩
  advances s := Nat.le_succ s.work.tick

/-- `BEGIN IMMEDIATE`. -/
def begin (nested : ε) : Tx ε σ Unit where
  run s :=
    match s.saved with
    | some _ => .error nested s
    | none => .ok () { s with saved := some s.work.store }
  grows := by
    rintro ⟨work, view, _ | store⟩ fits
    · exact ⟨Archive.refl work.store, Archive.refl work.store⟩
    · exact ⟨fits, Archive.refl store⟩
  advances := by
    rintro ⟨work, view, _ | store⟩ <;> exact Nat.le_refl _

def commit : Tx ε σ Unit where
  run s := .ok () { s with view := s.work.store, saved := none }
  grows s fits := ⟨Archive.refl s.work.store, fits⟩
  advances _ := Nat.le_refl _

def rollback : Tx ε σ Unit where
  run s :=
    match s.saved with
    | some store => .ok () { s with work := { s.work with store }, view := store, saved := none }
    | none => .ok () s
  grows := by
    rintro ⟨work, view, _ | store⟩ fits
    · exact ⟨fits, Archive.refl work.store⟩
    · exact ⟨Archive.refl store, Archive.refl store⟩
  advances := by
    rintro ⟨work, view, _ | store⟩ <;> exact Nat.le_refl _

/-- Run statements of a transaction; the first one opens it where none is open yet. -/
def within (body : Txn ε σ α) : Tx ε σ α where
  run s :=
    match body.run s.work with
    | .ok a w => .ok a { s with work := w, saved := some s.durable }
    | .error e w => .error e { s with work := w, saved := some s.durable }
  grows := by
    intro s fits
    have extended := body.grows s.work
    cases outcome : body.run s.work with
    | ok a w =>
      rw [outcome] at extended
      exact ⟨Archive.trans fits extended, Archive.refl s.durable⟩
    | error e w =>
      rw [outcome] at extended
      exact ⟨Archive.trans fits extended, Archive.refl s.durable⟩
  advances := by
    intro s
    have later := body.advances s.work
    cases outcome : body.run s.work <;> rw [outcome] at later <;> exact later

/-- `with conn:`, which commits or rolls back what the block has opened. -/
def withConnection (block : Tx ε σ α) : Tx ε σ α :=
  tryCatch (do
    let a ← block
    commit
    return a) fun e => do
      rollback
      throw e

/-- `BEGIN IMMEDIATE`, the body, `COMMIT`; any exception rolls back and goes on. -/
def atomically (nested : ε) (body : Txn ε σ α) : Tx ε σ α := do
  begin nested
  withConnection (within body)

/-- `SAVEPOINT`, the body, `RELEASE`, which commits where no transaction was open; any exception
takes back what the body did and goes on. -/
def savepoint (body : Txn ε σ α) : Tx ε σ α where
  run s :=
    match body.run s.work with
    | .ok a w => .ok a { s with work := w, view := s.saved.elim w.store fun _ => s.view }
    | .error e w => .error e { s with work := { w with store := s.work.store } }
  grows := by
    rintro ⟨work, view, saved⟩ fits
    have extended := body.grows work
    cases outcome : body.run work with
    | error e w =>
      exact ⟨fits, Archive.refl _⟩
    | ok a w =>
      rw [outcome] at extended
      cases saved with
      | none => exact ⟨Archive.refl w.store, extended⟩
      | some store => exact ⟨Archive.trans fits extended, Archive.refl store⟩
  advances := by
    intro s
    have later := body.advances s.work
    cases outcome : body.run s.work <;> rw [outcome] at later <;> exact later

section Runs

variable {s s' : Session σ}

theorem bind_run (x : Tx ε σ α) (f : α → Tx ε σ β) : (x >>= f).run s =
    match x.run s with
    | .ok a middle => (f a).run middle
    | .error e middle => .error e middle := rfl

theorem bind_ok {x : Tx ε σ α} {f : α → Tx ε σ β} {b : β} :
    (x >>= f).run s = .ok b s' ↔
      ∃ a middle, x.run s = .ok a middle ∧ (f a).run middle = .ok b s' := by
  rw [bind_run]
  cases x.run s <;> simp

@[simp] theorem pure_run (a : α) : (pure a : Tx ε σ α).run s = .ok a s := rfl

@[simp] theorem throw_run (e : ε) : (throw e : Tx ε σ α).run s = .error e s := rfl

theorem map_run (x : Tx ε σ α) (f : α → β) : (f <$> x).run s =
    match x.run s with
    | .ok a after => .ok (f a) after
    | .error e after => .error e after := rfl

theorem tryCatch_run (x : Tx ε σ α) (handle : ε → Tx ε σ α) :
    (tryCatch x handle : Tx ε σ α).run s = match x.run s with
      | .ok a after => .ok a after
      | .error e after => (handle e).run after := rfl

@[simp] theorem query_run (f : σ → α) : (query f : Tx ε σ α).run s = .ok (f s.visible) s := rfl

@[simp] theorem clock_run (time : Nat → α) : (clock time : Tx ε σ α).run s =
    .ok (time s.work.tick) { s with work := { s.work with tick := s.work.tick + 1 } } := rfl

@[simp] theorem commit_run :
    (commit : Tx ε σ Unit).run s = .ok () { s with view := s.work.store, saved := none } := rfl

theorem begin_run {nested : ε} (closed : s.saved = none) :
    (begin nested).run s = .ok () { s with saved := some s.work.store } := by
  simp only [begin, closed]

theorem begin_run_nested {nested : ε} {store : σ} (opened : s.saved = some store) :
    (begin nested : Tx ε σ Unit).run s = .error nested s := by
  simp only [begin, opened]

theorem rollback_run {store : σ} (opened : s.saved = some store) :
    (rollback : Tx ε σ Unit).run s =
      .ok () { s with work := { s.work with store }, view := store, saved := none } := by
  simp only [rollback, opened]

theorem rollback_run_closed (closed : s.saved = none) :
    (rollback : Tx ε σ Unit).run s = .ok () s := by
  simp only [rollback, closed]

@[simp] theorem raiseIf_ok {wrong : Prop} [Decidable wrong] {error : ε} {u : Unit} :
    (raiseIf wrong error : Tx ε σ Unit).run s = .ok u s' ↔ ¬ wrong ∧ s = s' := by
  unfold raiseIf
  split <;> simp_all

@[simp] theorem orRaise_ok {ε' : Type} {translate : ε' → ε} {x : Except ε' α} {a : α} :
    (orRaise translate x : Tx ε σ α).run s = .ok a s' ↔ x = .ok a ∧ s = s' := by
  cases x <;> simp [orRaise]

theorem within_run (body : Txn ε σ α) : (within body).run s =
    match body.run s.work with
    | .ok a w => .ok a { s with work := w, saved := some s.durable }
    | .error e w => .error e { s with work := w, saved := some s.durable } := rfl

theorem within_ok {body : Txn ε σ α} {a : α} :
    (within body).run s = .ok a s' ↔
      ∃ w, body.run s.work = .ok a w ∧ s' = { s with work := w, saved := some s.durable } := by
  rw [within_run]
  cases body.run s.work <;> simp [eq_comm]

theorem savepoint_run (body : Txn ε σ α) : (savepoint body).run s =
    match body.run s.work with
    | .ok a w => .ok a { s with work := w, view := s.saved.elim w.store fun _ => s.view }
    | .error e w => .error e { s with work := { w with store := s.work.store } } := rfl

/-- A transaction that raises leaves the store as it was, and a transaction that returns has
committed the store of its body. -/
theorem atomically_cases {nested : ε} {body : Txn ε σ α} (closed : s.saved = none) :
    (∃ a w, body.run s.work = .ok a w ∧
      (atomically nested body).run s = .ok a ⟨w, w.store, none⟩) ∨
    (∃ e w, body.run s.work = .error e w ∧ (atomically nested body).run s =
      .error e ⟨{ w with store := s.work.store }, s.work.store, none⟩) := by
  unfold atomically withConnection
  rw [bind_run, begin_run closed]
  simp only [tryCatch_run, bind_run]
  cases outcome : body.run s.work with
  | ok a w =>
    left
    refine ⟨a, w, rfl, ?_⟩
    simp [within, outcome]
  | error e w =>
    right
    refine ⟨e, w, rfl, ?_⟩
    simp [within, outcome, rollback, Session.durable]

end Runs

/-- A call that only reads. -/
def Reads (x : Tx ε σ α) : Prop :=
  ∀ s, (x.run s).final.work.store = s.work.store ∧ (x.run s).final.view = s.view ∧
    (x.run s).final.saved = s.saved

section Reads

theorem reads_bind {x : Tx ε σ α} {f : α → Tx ε σ β} (first : Reads x)
    (next : ∀ a, Reads (f a)) : Reads (x >>= f) := by
  intro s
  have before := first s
  rw [bind_run]
  cases outcome : x.run s with
  | ok a middle =>
    rw [outcome] at before
    have after := next a middle
    exact ⟨after.1.trans before.1, after.2.1.trans before.2.1, after.2.2.trans before.2.2⟩
  | error e middle =>
    rw [outcome] at before
    exact before

theorem reads_pure (a : α) : Reads (pure a : Tx ε σ α) := fun _ => ⟨rfl, rfl, rfl⟩

theorem reads_throw (e : ε) : Reads (throw e : Tx ε σ α) := fun _ => ⟨rfl, rfl, rfl⟩

theorem reads_query (f : σ → α) : Reads (query f : Tx ε σ α) := fun _ => ⟨rfl, rfl, rfl⟩

theorem reads_clock (time : Nat → α) : Reads (clock time : Tx ε σ α) := fun _ => ⟨rfl, rfl, rfl⟩

theorem reads_raiseIf (wrong : Prop) [Decidable wrong] (error : ε) :
    Reads (raiseIf wrong error : Tx ε σ Unit) := by
  unfold raiseIf
  split
  · exact reads_throw error
  · exact reads_pure ()

theorem reads_orRaise {ε' : Type} (translate : ε' → ε) (x : Except ε' α) :
    Reads (orRaise translate x : Tx ε σ α) := by
  cases x with
  | ok value => exact reads_pure value
  | error error => exact reads_throw (translate error)

theorem Reads.visible {x : Tx ε σ α} (reads : Reads x) {s s' : Session σ} {a : α}
    (ran : x.run s = .ok a s') : s'.visible = s.visible := by
  have same := reads s
  rw [ran] at same
  obtain ⟨store, view, saved⟩ := same
  simp only [Session.visible, EStateM.Result.final_ok] at store view saved ⊢
  rw [store, view, saved]

/-- A call that reads, writes under a savepoint and commits: it returns what its writes did, or it
raises and leaves the store as it was. -/
theorem checked_savepoint {check : Tx ε σ α} (reads : Reads check) (write : α → Txn ε σ β)
    {γ : Type} (result : α → β → γ) (work : Work σ) (view : σ) :
    let call : Tx ε σ γ := do
      let a ← check
      let b ← savepoint (write a)
      commit
      return result a b
    (∃ a s b w, check.run (Session.connect work view) = .ok a s ∧ s.work.store = work.store ∧
      (write a).run s.work = .ok b w ∧
      call.run (Session.connect work view) = .ok (result a b) ⟨w, w.store, none⟩) ∨
    ∃ e s, call.run (Session.connect work view) = .error e s ∧ s.settle.store = work.store := by
  intro call
  have same := reads (Session.connect work view)
  simp only [call, bind_run]
  cases outcome : check.run (Session.connect work view) with
  | error e s =>
    rw [outcome] at same
    refine .inr ⟨e, s, rfl, ?_⟩
    rw [Session.settle, Session.durable, show s.saved = none from same.2.2]
    exact same.1
  | ok a s =>
    rw [outcome] at same
    have closed : s.saved = none := same.2.2
    simp only [savepoint_run, commit_run, pure_run]
    cases written : (write a).run s.work with
    | ok b w => exact .inl ⟨a, s, b, w, rfl, same.1, written, by rw [closed]⟩
    | error e w =>
      refine .inr ⟨e, _, rfl, ?_⟩
      rw [Session.settle, Session.durable, closed]
      exact same.1

end Reads

/-- What holds of a connection between the statements of a call: `P` of the store that would remain
of it, and `seen` of what an idle connection reads and of the store that its next transaction
finds. A call alone on the store has `seen` equality. The clock has reached `since`. -/
structure Settled (since : Nat) (seen : σ → σ → Prop) (P : σ → Prop) (s : Session σ) : Prop where
  late : since ≤ s.work.tick
  durable : P s.durable
  current : s.saved = none → seen s.view s.work.store

/-- The Hoare triples of calls. The pre- and postcondition speak of the store that the call works
on; `P` holds of the durable store all the time, exceptions included. -/
def Triple (since : Nat) (seen : σ → σ → Prop) (P pre : σ → Prop) (x : Tx ε σ α)
    (post : α → σ → Prop) : Prop :=
  ∀ s, Settled since seen P s → pre s.work.store → match x.run s with
    | .ok a s' => Settled since seen P s' ∧ post a s'.work.store
    | .error _ s' => Settled since seen P s'

/-- A call keeps `P`, whichever way it ends. -/
def Maintains (since : Nat) (seen : σ → σ → Prop) (P : σ → Prop) (x : Tx ε σ α) : Prop :=
  Triple since seen P P x fun _ => P

section Triples

variable {since : Nat} {seen : σ → σ → Prop} {P pre pre' : σ → Prop} {mid : α → σ → Prop}

omit [Archive σ] in
theorem Settled.visible {s : Session σ} (settled : Settled since seen P s) (refl : ∀ t, seen t t) :
    seen s.visible s.work.store := by
  have current := settled.current
  unfold Session.visible
  cases saved : s.saved with
  | none => exact current saved
  | some store => exact refl _

theorem triple_bind {x : Tx ε σ α} {f : α → Tx ε σ β} {post : β → σ → Prop}
    (first : Triple since seen P pre x mid) (next : ∀ a, Triple since seen P (mid a) (f a) post) :
    Triple since seen P pre (x >>= f) post := by
  intro s settled holds
  have before := first s settled holds
  rw [bind_run]
  cases outcome : x.run s with
  | ok a middle =>
    rw [outcome] at before
    exact next a middle before.1 before.2
  | error e middle =>
    rw [outcome] at before
    exact before

/-- The rule of consequence. -/
theorem Triple.mono {x : Tx ε σ α} {post : α → σ → Prop} (triple : Triple since seen P pre x mid)
    (weaker : ∀ t, pre' t → pre t) (stronger : ∀ a t, mid a t → post a t) :
    Triple since seen P pre' x post := by
  intro s settled holds
  have after := triple s settled (weaker _ holds)
  cases outcome : x.run s with
  | ok a s' =>
    rw [outcome] at after
    exact ⟨after.1, stronger _ _ after.2⟩
  | error e s' =>
    rw [outcome] at after
    exact after

theorem triple_pure {post : α → σ → Prop} {a : α} (holds : ∀ t, pre t → post a t) :
    Triple since seen P pre (pure a : Tx ε σ α) post :=
  fun _ settled before => ⟨settled, holds _ before⟩

theorem triple_throw {post : α → σ → Prop} (e : ε) :
    Triple since seen P pre (throw e : Tx ε σ α) post :=
  fun _ settled _ => settled

/-- A fact about no store that the precondition contains. -/
theorem Triple.given {fact : Prop} {x : Tx ε σ α} {post : α → σ → Prop}
    (triple : fact → Triple since seen P pre x post) :
    Triple since seen P (fun t => pre t ∧ fact) x post :=
  fun s settled before => triple before.2 s settled before.1

theorem triple_query (refl : ∀ t, seen t t) (f : σ → α) :
    Triple since seen P pre (query f : Tx ε σ α) fun a t => pre t ∧ ∃ v, seen v t ∧ f v = a :=
  fun s settled before => ⟨settled, before, s.visible, settled.visible refl, rfl⟩

/-- A query of a call that is alone on the store. -/
theorem triple_query_current (f : σ → α) :
    Triple since Eq P pre (query f : Tx ε σ α) fun a t => pre t ∧ f t = a :=
  (triple_query (fun _ => rfl) f).mono (fun _ holds => holds) fun _ _ ⟨before, _, same, read⟩ =>
    ⟨before, same ▸ read⟩

theorem triple_clock (time : Nat → α) :
    Triple since seen P pre (clock time : Tx ε σ α) fun _ => pre :=
  fun _ settled before =>
    ⟨⟨Nat.le_succ_of_le settled.late, settled.durable, settled.current⟩, before⟩

theorem triple_raiseIf (wrong : Prop) [Decidable wrong] (error : ε) :
    Triple since seen P pre (raiseIf wrong error : Tx ε σ Unit) fun _ t => pre t ∧ ¬ wrong := by
  unfold raiseIf
  split
  · exact triple_throw error
  · rename_i right
    exact triple_pure fun _ before => ⟨before, right⟩

theorem triple_orRaise {ε' : Type} (translate : ε' → ε) (x : Except ε' α) :
    Triple since seen P pre (orRaise translate x : Tx ε σ α) fun a t => pre t ∧ x = .ok a := by
  cases x with
  | ok value => exact triple_pure fun _ before => ⟨before, rfl⟩
  | error error => exact triple_throw (translate error)

theorem triple_begin (nested : ε) :
    Triple since seen P pre (begin nested : Tx ε σ Unit) fun _ => pre := by
  intro s settled before
  cases saved : s.saved with
  | none =>
    rw [begin_run saved]
    have durable := settled.durable
    rw [Session.durable, saved] at durable
    exact ⟨⟨settled.late, durable, nofun⟩, before⟩
  | some store =>
    rw [begin_run_nested saved]
    exact settled

/-- What is committed satisfies the invariant. -/
theorem triple_commit (refl : ∀ t, seen t t) (holds : ∀ t, pre t → P t) :
    Triple since seen P pre (commit : Tx ε σ Unit) fun _ => pre :=
  fun _ settled before => ⟨⟨settled.late, holds _ before, fun _ => refl _⟩, before⟩

/-- A rollback returns to the durable store, whatever the transaction has done. -/
theorem triple_rollback (refl : ∀ t, seen t t) :
    Triple since seen P pre (rollback : Tx ε σ Unit) fun _ => P := by
  intro s settled _
  have durable := settled.durable
  unfold Session.durable at durable
  cases saved : s.saved with
  | none =>
    rw [saved] at durable
    rw [rollback_run_closed saved]
    exact ⟨settled, durable⟩
  | some store =>
    rw [saved] at durable
    rw [rollback_run saved]
    exact ⟨⟨settled.late, durable, fun _ => refl _⟩, durable⟩

/-- The statements of a transaction, which say what they do to the store whenever they return. -/
theorem triple_within {body : Txn ε σ α} {post : α → σ → Prop}
    (does : ∀ w a w', since ≤ w.tick → body.run w = .ok a w' → pre w.store → post a w'.store) :
    Triple since seen P pre (within body) post := by
  intro s settled before
  have later := body.advances s.work
  rw [within_run]
  cases outcome : body.run s.work with
  | ok a w =>
    rw [outcome] at later
    exact ⟨⟨Nat.le_trans settled.late later, settled.durable, nofun⟩,
      does _ _ _ settled.late outcome before⟩
  | error e w =>
    rw [outcome] at later
    exact ⟨Nat.le_trans settled.late later, settled.durable, nofun⟩

/-- A handler may rely on nothing but the durable store. -/
theorem triple_tryCatch {x : Tx ε σ α} {handle : ε → Tx ε σ α} {post : α → σ → Prop}
    (first : Triple since seen P pre x post)
    (next : ∀ e, Triple since seen P (fun _ => True) (handle e) post) :
    Triple since seen P pre (tryCatch x handle) post := by
  intro s settled before
  have tried := first s settled before
  rw [tryCatch_run]
  cases outcome : x.run s with
  | ok a after =>
    rw [outcome] at tried
    exact tried
  | error e after =>
    rw [outcome] at tried
    exact next e after tried trivial

theorem triple_rollback_throw {post : α → σ → Prop} (refl : ∀ t, seen t t) (e : ε) :
    Triple since seen P pre (do rollback; throw e : Tx ε σ α) post :=
  triple_bind (triple_rollback refl) fun _ => triple_throw e

theorem triple_withConnection {block : Tx ε σ α} {post : α → σ → Prop} (refl : ∀ t, seen t t)
    (block_does : Triple since seen P pre block post) (holds : ∀ a t, post a t → P t) :
    Triple since seen P pre (withConnection block) post :=
  triple_tryCatch
    (triple_bind block_does fun a => triple_bind (triple_commit refl (holds a)) fun _ =>
      triple_pure fun _ after => after)
    (triple_rollback_throw refl)

theorem maintains_bind {x : Tx ε σ α} {f : α → Tx ε σ β} (first : Maintains since seen P x)
    (next : ∀ a, Maintains since seen P (f a)) : Maintains since seen P (x >>= f) :=
  triple_bind first next

/-- Sequencing after a call that returns with the invariant. -/
theorem maintains_bind_of {x : Tx ε σ α} {f : α → Tx ε σ β} {post : β → σ → Prop}
    (first : Triple since seen P pre x fun _ => P) (next : ∀ a, Triple since seen P P (f a) post) :
    Triple since seen P pre (x >>= f) post :=
  triple_bind first next

theorem maintains_pure (a : α) : Maintains since seen P (pure a : Tx ε σ α) :=
  triple_pure fun _ holds => holds

theorem maintains_map {x : Tx ε σ α} {f : α → β} (first : Maintains since seen P x) :
    Maintains since seen P (f <$> x) :=
  maintains_bind first fun _ => maintains_pure _

theorem maintains_throw (e : ε) : Maintains since seen P (throw e : Tx ε σ α) := triple_throw e

theorem maintains_query (f : σ → α) : Maintains since seen P (query f : Tx ε σ α) :=
  fun _ settled holds => ⟨settled, holds⟩

theorem maintains_clock (time : Nat → α) : Maintains since seen P (clock time : Tx ε σ α) :=
  triple_clock time

theorem maintains_raiseIf (wrong : Prop) [Decidable wrong] (error : ε) :
    Maintains since seen P (raiseIf wrong error : Tx ε σ Unit) :=
  (triple_raiseIf wrong error).mono (fun _ holds => holds) fun _ _ after => after.1

/-- What follows a check may rely on its success. -/
theorem maintains_checked {wrong : Prop} [Decidable wrong] {error : ε} {next : Unit → Tx ε σ α}
    (passes : ¬ wrong → Maintains since seen P (next ())) :
    Maintains since seen P (raiseIf wrong error >>= next) := by
  refine triple_bind ((triple_raiseIf wrong error).mono (fun _ holds => holds) fun _ _ after => after)
    fun _ session settled before => passes before.2 session settled before.1

theorem maintains_orRaise {ε' : Type} (translate : ε' → ε) (x : Except ε' α) :
    Maintains since seen P (orRaise translate x : Tx ε σ α) :=
  (triple_orRaise translate x).mono (fun _ holds => holds) fun _ _ after => after.1

theorem maintains_commit (refl : ∀ t, seen t t) : Maintains since seen P (commit : Tx ε σ Unit) :=
  triple_commit refl fun _ holds => holds

theorem maintains_within {body : Txn ε σ α}
    (keeps : ∀ w a w', since ≤ w.tick → body.run w = .ok a w' → P w.store → P w'.store) :
    Maintains since seen P (within body) :=
  triple_within keeps

/-- The rule of a transaction: its body keeps `P` whenever it returns. -/
theorem maintains_atomically {nested : ε} {body : Txn ε σ α} (refl : ∀ t, seen t t)
    (keeps : ∀ w a w', since ≤ w.tick → body.run w = .ok a w' → P w.store → P w'.store) :
    Maintains since seen P (atomically nested body) :=
  triple_bind (triple_begin nested) fun _ =>
    triple_withConnection refl (triple_within keeps) fun _ _ holds => holds

/-- What a call leaves to the next one. -/
theorem Triple.settle {x : Tx ε σ α} {post : α → σ → Prop} (triple : Triple since seen P pre x post)
    {work : Work σ} {view : σ} (late : since ≤ work.tick) (visible : seen view work.store)
    (holds : P work.store) (before : pre work.store) :
    P (x.run (Session.connect work view)).final.settle.store := by
  have after := triple (Session.connect work view) ⟨late, holds, fun _ => visible⟩ before
  cases outcome : x.run (Session.connect work view) with
  | ok a s =>
    rw [outcome] at after
    exact after.1.durable
  | error e s =>
    rw [outcome] at after
    exact after.durable

theorem Maintains.settle {x : Tx ε σ α} (maintains : Maintains since seen P x) {work : Work σ}
    {view : σ} (late : since ≤ work.tick) (visible : seen view work.store) (holds : P work.store) :
    P (x.run (Session.connect work view)).final.settle.store :=
  Triple.settle maintains late visible holds holds

end Triples

/-- Whatever a call does, the store that it leaves behind extends the one that it found. -/
theorem settle_extends (call : Tx ε σ α) (work : Work σ) (view : σ) :
    Extends work.store (call.run (Session.connect work view)).final.settle.store :=
  (call.grows (Session.connect work view) (Archive.refl work.store)).2

/-- The clock never runs backwards. -/
theorem settle_advances (call : Tx ε σ α) (work : Work σ) (view : σ) :
    work.tick ≤ (call.run (Session.connect work view)).final.settle.tick :=
  call.advances (Session.connect work view)

end Tx
