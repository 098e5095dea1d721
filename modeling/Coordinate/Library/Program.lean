import Coordinate.Library.Machine
import Coordinate.Library.Revisions
import Coordinate.Library.Transaction

/-! # Programs that interleave one statement at a time

A `Program` performs statements on a state that it shares with others; what it does next may depend
on the state that it finds. A statement carries a tag, so that a condition on runs can speak of it.
`Pool` is any number of calls in progress, and a run of `pool` takes one statement of one of them at a
time, starts a further call, or lets the environment act.

`Program.Sound` is the rely-guarantee rule: `Inv` holds of every state, `Evolves` relates a state to
all later ones, and what the program promises of a statement may rely on both and on `careful`.
`Program.Ends` is about one call and what it has performed from its start to its end, however it ends.
-/

/-- A program with tags `τ` over the states `σ`. -/
inductive Program (τ σ ε α : Type) where
  | done (a : α)
  | raised (e : ε)
  | perform (tag : τ) (write : σ → σ) (next : σ → Program τ σ ε α)

namespace Except

variable {ε α β : Type} {P : ε → Prop}

/-- Every exception of the computation satisfies `P`. -/
def Raises (P : ε → Prop) (x : Except ε α) : Prop :=
  ∀ e, x = .error e → P e

theorem raises_pure (a : α) : (pure a : Except ε α).Raises P :=
  fun _ raised => nomatch raised

theorem raises_throw {e : ε} (allowed : P e) : (throw e : Except ε α).Raises P := by
  intro e' raised
  cases raised
  exact allowed

theorem raises_bind {x : Except ε α} {f : α → Except ε β} (first : x.Raises P)
    (next : ∀ a, (f a).Raises P) : (x >>= f).Raises P := by
  intro e raised
  obtain raised | ⟨a, -, raised⟩ := bind_error.mp raised
  · exact first e raised
  · exact next a e raised

theorem raises_raiseIf (wrong : Prop) [Decidable wrong] {error : ε} (allowed : P error) :
    (raiseIf wrong error : Except ε Unit).Raises P := by
  unfold raiseIf
  split
  · exact raises_throw allowed
  · exact raises_pure ()

theorem raises_orRaise {ε' : Type} {translate : ε' → ε} {x : Except ε' α}
    (allowed : x.Raises fun e => P (translate e)) :
    (orRaise translate x : Except ε α).Raises P := by
  cases x with
  | ok a => exact raises_pure a
  | error e => exact raises_throw (allowed e rfl)

end Except

namespace Program

variable {τ σ ε α β : Type}

def bind : Program τ σ ε α → (α → Program τ σ ε β) → Program τ σ ε β
  | done a, f => f a
  | raised e, _ => raised e
  | perform tag write next, f => perform tag write fun s => (next s).bind f

def handle : Program τ σ ε α → (ε → Program τ σ ε α) → Program τ σ ε α
  | done a, _ => done a
  | raised e, f => f e
  | perform tag write next, f => perform tag write fun s => (next s).handle f

instance : Monad (Program τ σ ε) where
  pure := done
  bind := bind

instance : MonadExceptOf ε (Program τ σ ε) where
  throw := raised
  tryCatch := handle

/-- One statement: its outcome and the state after it. -/
def statement (tag : τ) (body : σ → Except ε α × σ) : Program τ σ ε α :=
  perform tag (fun s => (body s).2) fun s =>
    match (body s).1 with
    | .ok a => done a
    | .error e => raised e

/-- The program alone on the state, from its start to its end. -/
def run : Program τ σ ε α → σ → Except ε α × σ
  | done a, s => (.ok a, s)
  | raised e, s => (.error e, s)
  | perform _ write next, s => (next s).run (write s)

section Runs

variable {s : σ}

@[simp] theorem run_pure (a : α) : (pure a : Program τ σ ε α).run s = (.ok a, s) := rfl

@[simp] theorem run_throw (e : ε) : (throw e : Program τ σ ε α).run s = (.error e, s) := rfl

@[simp] theorem run_statement (tag : τ) (body : σ → Except ε α × σ) :
    (statement tag body).run s = body s := by
  simp only [statement, run]
  cases outcome : (body s).1 with
  | ok a => simp only [run, ← outcome]
  | error e => simp only [run, ← outcome]

theorem run_bind (x : Program τ σ ε α) (f : α → Program τ σ ε β) : (x >>= f).run s =
    match x.run s with
    | (.ok a, t) => (f a).run t
    | (.error e, t) => (.error e, t) := by
  change (x.bind f).run s = _
  induction x generalizing s with
  | done a => rfl
  | raised e => rfl
  | perform tag write next ih => exact ih s

theorem run_map (x : Program τ σ ε α) (f : α → β) :
    (f <$> x).run s = ((x.run s).1.map f, (x.run s).2) := by
  change (x >>= fun a => pure (f a)).run s = _
  rw [run_bind]
  rcases x.run s with ⟨_ | _, _⟩ <;> rfl

end Runs

section Raises

variable {P : ε → Prop}

/-- Every exception that the program raises when it runs alone satisfies `P`. -/
def Raises (P : ε → Prop) (x : Program τ σ ε α) : Prop :=
  ∀ s e, (x.run s).1 = .error e → P e

theorem raises_pure (a : α) : Raises P (pure a : Program τ σ ε α) :=
  fun _ _ raised => nomatch raised

theorem raises_throw {e : ε} (allowed : P e) : Raises P (throw e : Program τ σ ε α) := by
  intro s e' raised
  cases raised
  exact allowed

theorem raises_bind {x : Program τ σ ε α} {f : α → Program τ σ ε β} (first : Raises P x)
    (next : ∀ a, Raises P (f a)) : Raises P (x >>= f) := by
  intro s e raised
  rw [run_bind] at raised
  have own := first s
  match outcome : x.run s with
  | (.ok a, t) =>
    rw [outcome] at raised
    exact next a t e raised
  | (.error e', t) =>
    rw [outcome] at raised own
    cases raised
    exact own _ rfl

theorem raises_statement {tag : τ} {body : σ → Except ε α × σ}
    (allowed : ∀ s, (body s).1.Raises P) : Raises P (statement tag body) := by
  intro s e raised
  rw [run_statement] at raised
  exact allowed s e raised

theorem raises_raiseIf (wrong : Prop) [Decidable wrong] {error : ε} (allowed : P error) :
    Raises P (raiseIf wrong error : Program τ σ ε Unit) := by
  unfold raiseIf
  split
  · exact raises_throw allowed
  · exact raises_pure ()

theorem raises_orRaise {ε' : Type} {translate : ε' → ε} {x : Except ε' α}
    (allowed : x.Raises fun e => P (translate e)) :
    Raises P (orRaise translate x : Program τ σ ε α) := by
  cases x with
  | ok a => exact raises_pure a
  | error e => exact raises_throw (allowed e rfl)

end Raises

section Soundness

variable (Inv : σ → Prop) (Evolves : σ → σ → Prop) (careful : σ → τ → Prop)

/-- From `s` on, whatever others do in between: every careful statement keeps the invariant and
evolves the state, and a result satisfies `post` from then on. -/
def Sound (post : α → σ → Prop) : Program τ σ ε α → σ → Prop
  | done a, s => ∀ t, Inv t → Evolves s t → post a t
  | raised _, _ => True
  | perform tag write next, s => ∀ t, Inv t → Evolves s t → careful t tag →
    Inv (write t) ∧ Evolves t (write t) ∧ Sound post (next t) (write t)

variable {Inv} {Evolves} {careful} {post : α → σ → Prop} {s t : σ}

/-- What others do takes nothing away. -/
theorem Sound.later (trans : ∀ s t u, Evolves s t → Evolves t u → Evolves s u)
    {x : Program τ σ ε α} (sound : Sound Inv Evolves careful post x s) (evolves : Evolves s t) :
    Sound Inv Evolves careful post x t := by
  cases x with
  | done a => exact fun u inv after => sound u inv (trans _ _ _ evolves after)
  | raised e => trivial
  | perform tag write next => exact fun u inv after => sound u inv (trans _ _ _ evolves after)

/-- Soundness is only about the states in which the program can go on. -/
theorem sound_of_later (refl : ∀ s, Evolves s s) {x : Program τ σ ε α}
    (later : ∀ t, Inv t → Evolves s t → Sound Inv Evolves careful post x t) :
    Sound Inv Evolves careful post x s := by
  cases x with
  | done a => exact fun t inv evolves => later t inv evolves t inv (refl t)
  | raised e => trivial
  | perform tag write next => exact fun t inv evolves => later t inv evolves t inv (refl t)

theorem sound_bind (refl : ∀ s, Evolves s s) {x : Program τ σ ε α} {f : α → Program τ σ ε β}
    {post : β → σ → Prop}
    (first : Sound Inv Evolves careful (fun a => Sound Inv Evolves careful post (f a)) x s) :
    Sound Inv Evolves careful post (x >>= f) s := by
  change Sound Inv Evolves careful post (x.bind f) s
  induction x generalizing s with
  | done a => exact sound_of_later refl first
  | raised e => trivial
  | perform tag write next ih =>
    intro t inv evolves meets
    obtain ⟨kept, evolved, rest⟩ := first t inv evolves meets
    exact ⟨kept, evolved, ih t rest⟩

theorem sound_pure {a : α} (holds : ∀ t, Inv t → Evolves s t → post a t) :
    Sound Inv Evolves careful post (pure a : Program τ σ ε α) s := holds

theorem sound_throw (e : ε) : Sound Inv Evolves careful post (throw e : Program τ σ ε α) s := trivial

/-- A statement: what follows it starts from the state that it leaves. -/
theorem sound_statement {tag : τ} {body : σ → Except ε α × σ} {f : α → Program τ σ ε β}
    {post : β → σ → Prop}
    (keeps : ∀ t, Inv t → Evolves s t → careful t tag → Inv (body t).2 ∧ Evolves t (body t).2 ∧
      ∀ a, (body t).1 = .ok a → Sound Inv Evolves careful post (f a) (body t).2) :
    Sound Inv Evolves careful post (statement tag body >>= f) s := by
  intro t inv evolves meets
  obtain ⟨kept, evolved, rest⟩ := keeps t inv evolves meets
  refine ⟨kept, evolved, ?_⟩
  dsimp only
  cases outcome : (body t).1 with
  | ok a => exact rest a outcome
  | error e => exact trivial

theorem sound_raiseIf {wrong : Prop} [Decidable wrong] {error : ε} {f : Unit → Program τ σ ε α}
    (rest : ¬ wrong → Sound Inv Evolves careful post (f ()) s) :
    Sound Inv Evolves careful post (raiseIf wrong error >>= f) s := by
  unfold raiseIf
  split
  · exact sound_throw error
  · rename_i right
    exact rest right

theorem sound_orRaise {ε' : Type} {translate : ε' → ε} {x : Except ε' α} {f : α → Program τ σ ε β}
    {post : β → σ → Prop} (rest : ∀ a, x = .ok a → Sound Inv Evolves careful post (f a) s) :
    Sound Inv Evolves careful post (orRaise translate x >>= f) s := by
  cases x with
  | ok a => exact rest a rfl
  | error e => exact sound_throw _

theorem sound_last {ε' : Type} {translate : ε' → ε} {x : Except ε' α}
    (holds : ∀ a, x = .ok a → ∀ t, Inv t → Evolves s t → post a t) :
    Sound Inv Evolves careful post (orRaise translate x : Program τ σ ε α) s := by
  cases x with
  | ok a => exact holds a rfl
  | error e => exact sound_throw _

/-- Translating the result translates what is promised of it. -/
theorem sound_map {x : Program τ σ ε α} {f : α → β} {post : β → σ → Prop}
    (sound : Sound Inv Evolves careful (fun a => post (f a)) x s) :
    Sound Inv Evolves careful post (f <$> x) s := by
  change Sound Inv Evolves careful post (x.bind fun a => done (f a)) s
  induction x generalizing s with
  | done a => exact sound
  | raised e => trivial
  | perform tag write next ih =>
    intro t inv evolves meets
    obtain ⟨kept, evolved, rest⟩ := sound t inv evolves meets
    exact ⟨kept, evolved, ih t rest⟩

section Harmless

variable (Inv Evolves careful)

/-- A program that is sound for whatever its continuation needs: nothing is asked of its result. -/
def Harmless (x : Program τ σ ε α) : Prop :=
  ∀ s (post : α → σ → Prop), (∀ a t, Inv t → Evolves s t → post a t) →
    Sound Inv Evolves careful post x s

variable {Inv Evolves careful}

theorem harmless_pure (a : α) : Harmless Inv Evolves careful (pure a : Program τ σ ε α) :=
  fun _ _ holds => holds a

theorem harmless_throw (e : ε) : Harmless Inv Evolves careful (throw e : Program τ σ ε α) :=
  fun _ _ _ => trivial

theorem harmless_orRaise {ε' : Type} (translate : ε' → ε) (x : Except ε' α) :
    Harmless Inv Evolves careful (orRaise translate x : Program τ σ ε α) := by
  cases x with
  | ok a => exact harmless_pure a
  | error e => exact harmless_throw _

theorem harmless_raiseIf (wrong : Prop) [Decidable wrong] (error : ε) :
    Harmless Inv Evolves careful (raiseIf wrong error : Program τ σ ε Unit) := by
  unfold raiseIf
  split
  · exact harmless_throw error
  · exact harmless_pure ()

theorem harmless_statement (trans : ∀ s t u, Evolves s t → Evolves t u → Evolves s u) {tag : τ}
    {body : σ → Except ε α × σ}
    (keeps : ∀ t, Inv t → careful t tag → Inv (body t).2 ∧ Evolves t (body t).2) :
    Harmless Inv Evolves careful (statement tag body) := by
  intro s post holds t inv evolves meets
  obtain ⟨kept, evolved⟩ := keeps t inv meets
  refine ⟨kept, evolved, ?_⟩
  dsimp only
  cases (body t).1 with
  | ok a => exact fun u inv after => holds a u inv (trans _ _ _ (trans _ _ _ evolves evolved) after)
  | error e => trivial

theorem sound_harmless (refl : ∀ s, Evolves s s) {x : Program τ σ ε α} {f : α → Program τ σ ε β}
    {post : β → σ → Prop} (harmless : Harmless Inv Evolves careful x)
    (rest : ∀ a t, Inv t → Evolves s t → Sound Inv Evolves careful post (f a) t) :
    Sound Inv Evolves careful post (x >>= f) s :=
  sound_bind refl (harmless s _ rest)

theorem harmless_bind (refl : ∀ s, Evolves s s)
    (trans : ∀ s t u, Evolves s t → Evolves t u → Evolves s u) {x : Program τ σ ε α}
    {f : α → Program τ σ ε β} (first : Harmless Inv Evolves careful x)
    (next : ∀ a, Harmless Inv Evolves careful (f a)) : Harmless Inv Evolves careful (x >>= f) :=
  fun _ post holds => sound_harmless refl first fun a t _ evolves =>
    next a t post fun b u inv after => holds b u inv (trans _ _ _ evolves after)

end Harmless

end Soundness

section Histories

/-- A statement that has been performed. -/
structure Performed (τ σ : Type) where
  tag : τ
  before : σ
  after : σ

variable (Inv : σ → Prop) (careful : List (Performed τ σ) → σ → τ → Prop)
  (effect : List (Performed τ σ) → Performed τ σ → Prop)

/-- Every statement has the effect, each after what was performed before it. -/
inductive Each : List (Performed τ σ) → Prop
  | nil : Each []
  | snoc {past : List (Performed τ σ)} {entry : Performed τ σ} (before : Each past)
    (own : effect past entry) : Each (past ++ [entry])

variable {effect} in
theorem Each.split {earlier later : List (Performed τ σ)} {entry : Performed τ σ}
    (each : Each effect (earlier ++ entry :: later)) : effect earlier entry := by
  generalize all : earlier ++ entry :: later = past at each
  induction each generalizing later with
  | nil => simp at all
  | snoc before own ih =>
    rcases List.eq_nil_or_concat later with rfl | ⟨rest, last, rfl⟩
    · obtain ⟨rfl, same⟩ := List.append_inj' all rfl
      rwa [List.singleton_inj.mp same]
    · rw [List.concat_eq_append, ← List.cons_append, ← List.append_assoc] at all
      exact ih (List.append_inj' all rfl).1

/-- As long as the statements of the program are careful, the program keeps the invariant, each statement
has the effect, and what it has performed when it ends satisfies `ends`. Each of them may depend on what
the program has performed before. -/
def Ends (ends : List (Performed τ σ) → Except ε α → Prop) :
    List (Performed τ σ) → Program τ σ ε α → Prop
  | past, done a => ends past (.ok a)
  | past, raised e => ends past (.error e)
  | past, perform tag write next => ∀ s, Inv s → careful past s tag →
    Inv (write s) ∧ effect past ⟨tag, s, write s⟩ ∧ Ends ends (past ++ [⟨tag, s, write s⟩]) (next s)

variable {Inv careful effect} {ends : List (Performed τ σ) → Except ε α → Prop}
  {past : List (Performed τ σ)}

theorem ends_pure {a : α} (holds : ends past (.ok a)) :
    Ends Inv careful effect ends past (pure a : Program τ σ ε α) := holds

theorem ends_throw {e : ε} (holds : ends past (.error e)) :
    Ends Inv careful effect ends past (throw e : Program τ σ ε α) := holds

theorem ends_bind {x : Program τ σ ε α} {f : α → Program τ σ ε β}
    {ends : List (Performed τ σ) → Except ε β → Prop}
    (first : Ends Inv careful effect (fun past outcome => match outcome with
      | .ok a => Ends Inv careful effect ends past (f a)
      | .error e => ends past (.error e)) past x) : Ends Inv careful effect ends past (x >>= f) := by
  change Ends Inv careful effect ends past (x.bind f)
  induction x generalizing past with
  | done a => exact first
  | raised e => exact first
  | perform tag write next ih =>
    intro s inv meets
    obtain ⟨kept, effect, rest⟩ := first s inv meets
    exact ⟨kept, effect, ih s rest⟩

theorem ends_map {x : Program τ σ ε α} {f : α → β} {ends : List (Performed τ σ) → Except ε β → Prop}
    (holds : Ends Inv careful effect (fun past outcome => ends past (outcome.map f)) past x) :
    Ends Inv careful effect ends past (f <$> x) := by
  change Ends Inv careful effect ends past (x.bind fun a => done (f a))
  induction x generalizing past with
  | done a => exact holds
  | raised e => exact holds
  | perform tag write next ih =>
    intro s inv meets
    obtain ⟨kept, effect, rest⟩ := holds s inv meets
    exact ⟨kept, effect, ih s rest⟩

theorem ends_statement {tag : τ} {body : σ → Except ε α × σ} {f : α → Program τ σ ε β}
    {ends : List (Performed τ σ) → Except ε β → Prop}
    (keeps : ∀ s, Inv s → careful past s tag → Inv (body s).2 ∧ effect past ⟨tag, s, (body s).2⟩ ∧
      match (body s).1 with
      | .ok a => Ends Inv careful effect ends (past ++ [⟨tag, s, (body s).2⟩]) (f a)
      | .error e => ends (past ++ [⟨tag, s, (body s).2⟩]) (.error e)) :
    Ends Inv careful effect ends past (statement tag body >>= f) := by
  intro s inv meets
  obtain ⟨kept, effect, rest⟩ := keeps s inv meets
  refine ⟨kept, effect, ?_⟩
  dsimp only
  cases outcome : (body s).1 with
  | ok a =>
    rw [outcome] at rest
    exact rest
  | error e =>
    rw [outcome] at rest
    exact rest

/-- A last statement, for the rules about a statement and what follows it. -/
theorem ends_last {x : Program τ σ ε α} (holds : Ends Inv careful effect ends past (x >>= pure)) :
    Ends Inv careful effect ends past x := by
  have same : x.bind done = x := by
    clear holds
    induction x with
    | done a => rfl
    | raised e => rfl
    | perform tag write next ih => exact congrArg (perform tag write) (funext fun s => ih s)
  exact same ▸ holds

theorem ends_raiseIf {wrong : Prop} [Decidable wrong] {error : ε} {f : Unit → Program τ σ ε α}
    (raises : wrong → ends past (.error error))
    (rest : ¬ wrong → Ends Inv careful effect ends past (f ())) :
    Ends Inv careful effect ends past (raiseIf wrong error >>= f) := by
  unfold raiseIf
  split
  · rename_i wrong
    exact raises wrong
  · rename_i right
    exact rest right

theorem ends_orRaise {ε' : Type} {translate : ε' → ε} {x : Except ε' α} {f : α → Program τ σ ε β}
    {ends : List (Performed τ σ) → Except ε β → Prop}
    (raises : ∀ e, x = .error e → ends past (.error (translate e)))
    (rest : ∀ a, x = .ok a → Ends Inv careful effect ends past (f a)) :
    Ends Inv careful effect ends past (orRaise translate x >>= f) := by
  cases x with
  | ok a => exact rest a rfl
  | error e => exact raises e rfl

end Histories

end Program

/-- Calls in progress on one state: each with the call that it is and the rest of its program. -/
structure Pool (κ τ σ ε α : Type) where
  shared : σ
  parties : List (κ × Program τ σ ε α)

namespace Pool

variable {κ τ σ η ε α : Type}

/-- What can happen next: a call starts, the party at an index performs its next statement, or the
environment acts. -/
inductive Move (κ η : Type) where
  | start (call : κ)
  | perform (index : Nat)
  | environment (change : η)
deriving DecidableEq, Repr

/-- The machine of all interleavings of calls. -/
def machine (body : κ → Program τ σ ε α) (environment : η → σ → Option σ) :
    Machine (Pool κ τ σ ε α) (Move κ η) where
  step pool
    | .start call => some { pool with parties := pool.parties ++ [(call, body call)] }
    | .perform index =>
      match pool.parties[index]? with
      | some (call, .perform _ write next) =>
        some ⟨write pool.shared, pool.parties.set index (call, next pool.shared)⟩
      | _ => none
    | .environment change =>
      (environment change pool.shared).map fun shared => { pool with shared }

/-- No call has started. -/
def initial (shared : σ) : Pool κ τ σ ε α := ⟨shared, []⟩

/-- The condition that the statement of a move meets, if the move performs one. -/
def Meets (careful : κ → σ → τ → Prop) (pool : Pool κ τ σ ε α) : Move κ η → Prop
  | .perform index => ∀ call tag write next,
    pool.parties[index]? = some (call, .perform tag write next) → careful call pool.shared tag
  | _ => True

/-- The same condition as a test. -/
def passes (test : κ → σ → τ → Bool) (pool : Pool κ τ σ ε α) : Move κ η → Bool
  | .perform index =>
    match pool.parties[index]? with
    | some (call, .perform tag _ _) => test call pool.shared tag
    | _ => true
  | _ => true

theorem meets_of_passes {test : κ → σ → τ → Bool} {careful : κ → σ → τ → Prop}
    (implies : ∀ call s tag, test call s tag = true → careful call s tag) (pool : Pool κ τ σ ε α)
    (move : Move κ η) (passed : pool.passes test move = true) : pool.Meets careful move := by
  cases move with
  | perform index =>
    intro call tag write next found
    simp only [passes, found] at passed
    exact implies call _ tag passed
  | _ => trivial

section Rule

variable {body : κ → Program τ σ ε α} {environment : η → σ → Option σ} {Inv : σ → Prop}
  {Evolves : σ → σ → Prop} {careful : κ → σ → τ → Prop} {post : κ → α → σ → Prop}

/-- The invariant of the state, and the soundness of what is left of every call. -/
structure Steady (Inv : σ → Prop) (Evolves : σ → σ → Prop) (careful : κ → σ → τ → Prop)
    (post : κ → α → σ → Prop) (pool : Pool κ τ σ ε α) : Prop where
  inv : Inv pool.shared
  sound : ∀ party ∈ pool.parties,
    party.2.Sound Inv Evolves (careful party.1) (post party.1) pool.shared

/-- The step lemma of interleavings. -/
theorem Steady.step (refl : ∀ s, Evolves s s)
    (trans : ∀ s t u, Evolves s t → Evolves t u → Evolves s u)
    (starts : ∀ call s, Inv s → (body call).Sound Inv Evolves (careful call) (post call) s)
    (changes : ∀ change s t, Inv s → environment change s = some t → Inv t ∧ Evolves s t)
    {pool next : Pool κ τ σ ε α} {move : Move κ η} (steady : Steady Inv Evolves careful post pool)
    (meets : pool.Meets careful move)
    (stepped : (machine body environment).step pool move = some next) :
    Steady Inv Evolves careful post next := by
  cases move with
  | start call =>
    cases stepped
    refine ⟨steady.inv, fun party member => ?_⟩
    rcases List.mem_append.mp member with old | new
    · exact steady.sound party old
    · rw [List.mem_singleton.mp new]
      exact starts call _ steady.inv
  | perform index =>
    simp only [machine] at stepped
    split at stepped
    swap
    · cases stepped
    rename_i call tag write rest found
    cases stepped
    have own := steady.sound _ (List.mem_of_getElem? found)
    obtain ⟨kept, evolved, after⟩ :=
      own pool.shared steady.inv (refl _) (meets call tag write rest found)
    refine ⟨kept, fun party member => ?_⟩
    rcases List.mem_or_eq_of_mem_set member with old | rfl
    · exact (steady.sound party old).later trans evolved
    · exact after
  | environment change =>
    simp only [machine, Option.map_eq_some_iff] at stepped
    obtain ⟨shared, changed, rfl⟩ := stepped
    obtain ⟨kept, evolved⟩ := changes change _ _ steady.inv changed
    exact ⟨kept, fun party member => (steady.sound party member).later trans evolved⟩

/-- The run lemma of interleavings: the invariant holds in every state reached, and the result of
every call that has returned satisfies its postcondition. -/
theorem Steady.reaches (refl : ∀ s, Evolves s s)
    (trans : ∀ s t u, Evolves s t → Evolves t u → Evolves s u)
    (starts : ∀ call s, Inv s → (body call).Sound Inv Evolves (careful call) (post call) s)
    (changes : ∀ change s t, Inv s → environment change s = some t → Inv t ∧ Evolves s t)
    {shared : σ} (inv : Inv shared) {pool : Pool κ τ σ ε α}
    (run : (machine body environment).Reaches (Meets careful) (initial shared) pool) :
    Inv pool.shared ∧ ∀ call a, (call, .done a) ∈ pool.parties → post call a pool.shared := by
  have steady : Steady Inv Evolves careful post pool :=
    run.invariant (fun _ _ _ steady meets stepped => steady.step refl trans starts changes meets stepped)
      ⟨inv, fun _ member => nomatch member⟩
  exact ⟨steady.inv, fun call a member =>
    steady.sound _ member pool.shared steady.inv (refl _)⟩

end Rule

section Record

variable {body : κ → Program τ σ ε α} {environment : η → σ → Option σ} {Inv : σ → Prop}
  {careful : κ → List (Program.Performed τ σ) → σ → τ → Prop}
  {effect : κ → List (Program.Performed τ σ) → Program.Performed τ σ → Prop}
  {ends : κ → List (Program.Performed τ σ) → Except ε α → Prop}

/-- The statement that a move performs, with the index of its party. -/
def noted (pool : Pool κ τ σ ε α) : Move κ η → Option (Nat × Program.Performed τ σ)
  | .perform index =>
    match pool.parties[index]? with
    | some (_, .perform tag write _) => some (index, ⟨tag, pool.shared, write pool.shared⟩)
    | _ => none
  | _ => none

/-- The interleavings with a record of all statements. -/
def recorded (body : κ → Program τ σ ε α) (environment : η → σ → Option σ) :
    Machine (Pool κ τ σ ε α × List (Nat × Program.Performed τ σ)) (Move κ η) :=
  (machine body environment).recording noted

/-- What one party has performed. -/
def performedBy (index : Nat) (record : List (Nat × Program.Performed τ σ)) :
    List (Program.Performed τ σ) :=
  (record.filter fun entry => entry.1 = index).map (·.2)

/-- The condition that the statement of a move meets after what its party has performed, if the move
performs one. -/
def Heeds (careful : κ → List (Program.Performed τ σ) → σ → τ → Prop)
    (s : Pool κ τ σ ε α × List (Nat × Program.Performed τ σ)) : Move κ η → Prop
  | .perform index => ∀ call tag write next,
    s.1.parties[index]? = some (call, .perform tag write next) →
      careful call (performedBy index s.2) s.1.shared tag
  | _ => True

/-- The same condition as a test. -/
def heeding (test : κ → List (Program.Performed τ σ) → σ → τ → Bool)
    (s : Pool κ τ σ ε α × List (Nat × Program.Performed τ σ)) : Move κ η → Bool
  | .perform index =>
    match s.1.parties[index]? with
    | some (call, .perform tag _ _) => test call (performedBy index s.2) s.1.shared tag
    | _ => true
  | _ => true

theorem heeds_of_heeding {test : κ → List (Program.Performed τ σ) → σ → τ → Bool}
    (implies : ∀ call past s tag, test call past s tag = true → careful call past s tag)
    (s : Pool κ τ σ ε α × List (Nat × Program.Performed τ σ)) (move : Move κ η)
    (passed : heeding test s move = true) : Heeds careful s move := by
  cases move with
  | perform index =>
    intro call tag write next found
    simp only [heeding, found] at passed
    exact implies call _ _ tag passed
  | _ => trivial

/-- The record is of statements with their effect, of parties that are there, and what is left of every
party ends as its program does. -/
structure Recorded (Inv : σ → Prop) (careful : κ → List (Program.Performed τ σ) → σ → τ → Prop)
    (effect : κ → List (Program.Performed τ σ) → Program.Performed τ σ → Prop)
    (ends : κ → List (Program.Performed τ σ) → Except ε α → Prop)
    (s : Pool κ τ σ ε α × List (Nat × Program.Performed τ σ)) : Prop where
  inv : Inv s.1.shared
  parties : ∀ entry ∈ s.2, entry.1 < s.1.parties.length
  ends : ∀ index call rest, s.1.parties[index]? = some (call, rest) →
    Program.Ends Inv (careful call) (effect call) (ends call) (performedBy index s.2) rest ∧
      Program.Each (effect call) (performedBy index s.2)

theorem performedBy_append_own (index : Nat) (record : List (Nat × Program.Performed τ σ))
    (entry : Program.Performed τ σ) :
    performedBy index (record ++ [(index, entry)]) = performedBy index record ++ [entry] := by
  simp [performedBy]

theorem performedBy_append_other {index other : Nat} (apart : other ≠ index)
    (record : List (Nat × Program.Performed τ σ)) (entry : Program.Performed τ σ) :
    performedBy index (record ++ [(other, entry)]) = performedBy index record := by
  simp [performedBy, apart]

/-- The step lemma of recorded interleavings. -/
theorem Recorded.step
    (starts : ∀ call, Program.Ends Inv (careful call) (effect call) (ends call) [] (body call))
    (changes : ∀ change s t, Inv s → environment change s = some t → Inv t)
    {pool next : Pool κ τ σ ε α} {record record' : List (Nat × Program.Performed τ σ)} {move : Move κ η}
    (before : Recorded Inv careful effect ends (pool, record)) (heeds : Heeds careful (pool, record) move)
    (stepped : (recorded body environment).step (pool, record) move = some (next, record')) :
    Recorded Inv careful effect ends (next, record') := by
  obtain ⟨inner, rfl⟩ := Machine.recording_step.mp stepped
  cases move with
  | start call =>
    cases inner
    refine ⟨before.inv, fun entry member => ?_, fun index other rest found => ?_⟩
    · have bound := before.parties entry (by simpa [noted] using member)
      simp only [List.length_append, List.length_cons, List.length_nil] at *
      omega
    · simp only [noted, Option.toList_none, List.append_nil]
      rw [List.getElem?_append] at found
      split at found
      · exact before.ends index other rest found
      · rename_i beyond
        have fresh : performedBy index record = [] := by
          rw [performedBy, List.map_eq_nil_iff, List.filter_eq_nil_iff]
          intro entry member same
          have bound := before.parties entry member
          have same : entry.1 = index := by simpa using same
          dsimp only at bound
          omega
        rw [List.getElem?_singleton] at found
        split at found
        · cases found
          rw [fresh]
          exact ⟨starts call, .nil⟩
        · cases found
  | perform index =>
    simp only [machine] at inner
    split at inner
    swap
    · cases inner
    rename_i call tag write rest found
    cases inner
    have entry : noted (η := η) pool (.perform index) = some (index, ⟨tag, pool.shared, write pool.shared⟩) := by
      simp only [noted, found]
    obtain ⟨party, effects⟩ := before.ends index call _ found
    obtain ⟨kept, effect, after⟩ := party pool.shared before.inv (heeds call tag write rest found)
    have inside : index < pool.parties.length := (List.getElem?_eq_some_iff.mp found).1
    rw [entry, Option.toList_some]
    refine ⟨kept, fun other member => ?_, fun other call' rest' found' => ?_⟩
    · rw [List.length_set]
      rcases List.mem_append.mp member with old | new
      · exact before.parties other old
      · cases List.mem_singleton.mp new
        exact inside
    · rw [List.getElem?_set] at found'
      split at found'
      · rename_i same
        subst same
        cases found'
        rw [performedBy_append_own]
        exact ⟨after, .snoc effects effect⟩
      · rename_i apart
        rw [performedBy_append_other apart]
        exact before.ends other call' rest' found'
  | environment change =>
    simp only [machine, Option.map_eq_some_iff] at inner
    obtain ⟨shared, changed, rfl⟩ := inner
    simp only [noted, Option.toList_none, List.append_nil]
    exact ⟨changes change _ _ before.inv changed, before.parties, before.ends⟩

theorem mem_performedBy {index : Nat} {record : List (Nat × Program.Performed τ σ)}
    {entry : Program.Performed τ σ} : entry ∈ performedBy index record ↔ (index, entry) ∈ record := by
  simp [performedBy]

/-- An entry of the record is of a party, and has its effect after what the party performed earlier. -/
theorem Recorded.effect_of_mem {pool : Pool κ τ σ ε α} {record : List (Nat × Program.Performed τ σ)}
    (recorded : Recorded Inv careful effect ends (pool, record)) {index : Nat}
    {entry : Program.Performed τ σ} (member : (index, entry) ∈ record) :
    ∃ call rest earlier, pool.parties[index]? = some (call, rest) ∧
      (∀ before ∈ earlier, (index, before) ∈ record) ∧ effect call earlier entry := by
  have found := List.getElem?_eq_getElem (recorded.parties _ member)
  obtain ⟨earlier, later, split⟩ := List.append_of_mem (mem_performedBy.mpr member)
  refine ⟨_, _, earlier, found, fun before old => ?_, ?_⟩
  · refine mem_performedBy.mp ?_
    rw [split]
    exact List.mem_append_left _ old
  · have each := (recorded.ends index _ _ found).2
    dsimp only at each
    rw [split] at each
    exact each.split

/-- **What every call has performed.** In every run whose statements are careful, the invariant holds, each
statement has had its effect, and every call that has ended has performed what its program says. -/
theorem ended
    (starts : ∀ call, Program.Ends Inv (careful call) (effect call) (ends call) [] (body call))
    (changes : ∀ change s t, Inv s → environment change s = some t → Inv t) {shared : σ}
    (inv : Inv shared) {pool : Pool κ τ σ ε α} {record : List (Nat × Program.Performed τ σ)}
    (run : (recorded body environment).Reaches (Heeds careful) (initial shared, []) (pool, record)) :
    Inv pool.shared ∧
    (∀ index entry, (index, entry) ∈ record → ∃ call rest earlier,
      pool.parties[index]? = some (call, rest) ∧ (∀ before ∈ earlier, (index, before) ∈ record) ∧
        effect call earlier entry) ∧
    (∀ index call a, pool.parties[index]? = some (call, .done a) →
      ends call (performedBy index record) (.ok a)) ∧
    ∀ index call e, pool.parties[index]? = some (call, .raised e) →
      ends call (performedBy index record) (.error e) := by
  have recorded : Recorded Inv careful effect ends (pool, record) :=
    run.invariant (fun _ _ _ before heeds stepped => before.step starts changes heeds stepped)
      ⟨inv, List.forall_mem_nil _, fun _ _ _ found => (by cases found)⟩
  exact ⟨recorded.inv, fun index entry member => recorded.effect_of_mem member,
    fun index call a found => (recorded.ends index call _ found).1,
    fun index call e found => (recorded.ends index call _ found).1⟩

/-- What no statement and no change of the environment takes away lasts: from the start, or from the
statement that has left it behind. -/
theorem lasting {P : σ → Prop} (changes : ∀ change s t, environment change s = some t → P s → P t)
    {shared : σ} {s : Pool κ τ σ ε α × List (Nat × Program.Performed τ σ)}
    {C : Pool κ τ σ ε α × List (Nat × Program.Performed τ σ) → Move κ η → Prop}
    (run : (recorded body environment).Reaches C (initial shared, []) s)
    (keeps : ∀ entry ∈ s.2, P entry.2.before → P entry.2.after)
    (left : P shared ∨ ∃ entry ∈ s.2, P entry.2.after) : P s.1.shared := by
  refine run.invariant (P := fun s => (∀ entry ∈ s.2, P entry.2.before → P entry.2.after) →
    (P shared ∨ ∃ entry ∈ s.2, P entry.2.after) → P s.1.shared) ?_ ?_ keeps left
  · rintro ⟨pool, record⟩ move ⟨next, record'⟩ ih _ stepped keeps left
    obtain ⟨inner, rfl⟩ := Machine.recording_step.mp stepped
    have keptBefore : ∀ entry ∈ record, P entry.2.before → P entry.2.after :=
      fun entry member => keeps entry (List.mem_append_left _ member)
    cases move with
    | start call =>
      cases inner
      simp only [noted, Option.toList_none, List.append_nil] at left
      exact ih keptBefore left
    | perform index =>
      simp only [machine] at inner
      split at inner
      swap
      · cases inner
      rename_i call tag write rest found
      cases inner
      have noted : noted (η := η) pool (.perform index) =
          some (index, ⟨tag, pool.shared, write pool.shared⟩) := by
        simp only [noted, found]
      simp only [noted, Option.toList_some, List.mem_append, List.mem_singleton] at keeps left
      rcases left with start | ⟨entry, member | rfl, holds⟩
      · exact keeps _ (.inr rfl) (ih keptBefore (.inl start))
      · exact keeps _ (.inr rfl) (ih keptBefore (.inr ⟨entry, member, holds⟩))
      · exact holds
    | environment change =>
      simp only [machine, Option.map_eq_some_iff] at inner
      obtain ⟨shared, changed, rfl⟩ := inner
      simp only [noted, Option.toList_none, List.append_nil] at left
      exact changes change _ _ changed (ih keptBefore left)
  · rintro _ (start | ⟨entry, member, -⟩)
    · exact start
    · cases member

/-- The part of the record that a run adds is a chain on whatever the environment leaves alone: each
statement starts from what the one before it has left. -/
theorem chained {δ : Type} (view : σ → δ)
    (changes : ∀ change s t, environment change s = some t → view t = view s)
    {s t : Pool κ τ σ ε α × List (Nat × Program.Performed τ σ)}
    {C : Pool κ τ σ ε α × List (Nat × Program.Performed τ σ) → Move κ η → Prop}
    (run : (recorded body environment).Reaches C s t) : ∃ more, t.2 = s.2 ++ more ∧
      Revision.Chain (view s.1.shared)
        (more.map fun entry => ⟨view entry.2.before, view entry.2.after⟩) (view t.1.shared) := by
  induction run with
  | refl => exact ⟨[], (List.append_nil _).symm, .nil⟩
  | @tail t u before move meets stepped ih =>
    obtain ⟨pool, record⟩ := t
    obtain ⟨next, record'⟩ := u
    obtain ⟨more, rfl, chain⟩ := ih
    obtain ⟨inner, rfl⟩ := Machine.recording_step.mp stepped
    cases move with
    | start call =>
      cases inner
      exact ⟨more, List.append_nil _, chain⟩
    | perform index =>
      simp only [machine] at inner
      split at inner
      swap
      · cases inner
      rename_i call tag write rest found
      cases inner
      have entry : noted (η := η) pool (.perform index) =
          some (index, ⟨tag, pool.shared, write pool.shared⟩) := by
        simp only [noted, found]
      rw [entry, Option.toList_some]
      refine ⟨more ++ [(index, ⟨tag, pool.shared, write pool.shared⟩)], List.append_assoc _ _ _, ?_⟩
      rw [List.map_append]
      exact .snoc ⟨view pool.shared, view (write pool.shared)⟩ chain
    | environment change =>
      simp only [machine, Option.map_eq_some_iff] at inner
      obtain ⟨shared, changed, rfl⟩ := inner
      refine ⟨more, List.append_nil _, ?_⟩
      dsimp only
      rw [changes change _ _ changed]
      exact chain

/-- A statement of some party has brought `P` about. -/
def Caused (P : σ → Prop) (s : Pool κ τ σ ε α × List (Nat × Program.Performed τ σ)) : Prop :=
  ∃ entry ∈ s.2, ¬ P entry.2.before ∧ P entry.2.after

theorem Caused.later {P : σ → Prop} {pool next : Pool κ τ σ ε α}
    {record more : List (Nat × Program.Performed τ σ)} (caused : Caused P (pool, record)) :
    Caused P (next, record ++ more) := by
  obtain ⟨entry, member, changes⟩ := caused
  exact ⟨entry, List.mem_append_left _ member, changes⟩

/-- What was not so at the start, and the environment does not bring about, a statement has. -/
theorem caused {P : σ → Prop} (changes : ∀ change s t, environment change s = some t → P t → P s)
    {shared : σ} {s : Pool κ τ σ ε α × List (Nat × Program.Performed τ σ)}
    {C : Pool κ τ σ ε α × List (Nat × Program.Performed τ σ) → Move κ η → Prop} (before : ¬ P shared)
    (run : (recorded body environment).Reaches C (initial shared, []) s) :
    P s.1.shared → Caused P s := by
  refine run.invariant (P := fun s => P s.1.shared → Caused P s) ?_ fun holds => absurd holds before
  rintro ⟨pool, record⟩ move ⟨next, record'⟩ ih _ stepped holds
  obtain ⟨inner, rfl⟩ := Machine.recording_step.mp stepped
  cases move with
  | start call =>
    cases inner
    exact (ih holds).later
  | perform index =>
    simp only [machine] at inner
    split at inner
    swap
    · cases inner
    rename_i call tag write rest found
    cases inner
    by_cases already : P pool.shared
    · exact (ih already).later
    · have entry : noted (η := η) pool (.perform index) =
          some (index, ⟨tag, pool.shared, write pool.shared⟩) := by
        simp only [noted, found]
      rw [entry, Option.toList_some]
      exact ⟨_, List.mem_append_right _ (List.mem_singleton_self _), already, holds⟩
  | environment change =>
    simp only [machine, Option.map_eq_some_iff] at inner
    obtain ⟨shared, changed, rfl⟩ := inner
    exact (ih (changes change _ _ changed holds)).later

end Record

end Pool
