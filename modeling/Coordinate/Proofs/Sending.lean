import Coordinate.Model.Sending

/-! # One delivery among the calls

What the calls do to one delivery, on its row, its posts and the place of each call. A step of the
calls that meets the two conditions on markings and on recovery is a step of this smaller machine, or
leaves it alone; the invariant of the smaller machine is then an invariant of every such run.
-/

namespace Coordinate.Sending

/-- Where a call stands with one delivery. -/
inductive Stage where
  | outside
  /-- the row has passed the tests and is not yet marked -/
  | ready (maxAttempts : Int)
  | counted (maxAttempts : Int)
  | posting (maxAttempts : Int) (attemptCount : Nat)
  | failing (maxAttempts : Int) (attemptCount : Nat)
  | confirmed
deriving DecidableEq, Repr

namespace Stage

/-- Between the marking and the post. -/
def unposted : Stage → Bool
  | counted _ => true
  | posting .. => true
  | _ => false

/-- Between the marking and the record of the outcome. -/
def inFlight : Stage → Bool
  | outside => false
  | ready _ => false
  | _ => true

/-- The attempt count that the call has read back. -/
def ownCount : Stage → Option Nat
  | posting _ attemptCount => some attemptCount
  | failing _ attemptCount => some attemptCount
  | _ => none

def limit : Stage → Option Int
  | ready maxAttempts => some maxAttempts
  | counted maxAttempts => some maxAttempts
  | posting maxAttempts _ => some maxAttempts
  | failing maxAttempts _ => some maxAttempts
  | _ => none

theorem unposted_inFlight {stage : Stage} (unposted : stage.unposted = true) :
    stage.inFlight = true := by
  cases stage <;> first | rfl | cases unposted

end Stage

/-- The columns of a row that decide its sends. -/
structure Entry where
  status : String
  attemptCount : Nat
  parses : Bool
deriving DecidableEq, Repr

/-- One delivery, and every call by where it stands with it. -/
@[ext]
structure Single where
  entry : Option Entry
  posts : List Bool
  lost : Nat
  stage : Nat → Stage
  alive : Nat → Bool

namespace Single

def moveTo (a : Single) (call : Nat) (stage : Stage) : Single :=
  { a with stage := Function.update a.stage call stage }

def attempts (a : Single) : Nat := (a.entry.map Entry.attemptCount).getD 0

/-- A live call is between its marking and its record. -/
def InFlight (a : Single) (call : Nat) : Prop :=
  a.alive call = true ∧ (a.stage call).inFlight = true

def Unposted (a : Single) (call : Nat) : Prop :=
  a.alive call = true ∧ (a.stage call).unposted = true

/-- What the calls do to the delivery. With a limit, no call may try more often and none recovers. -/
inductive Step (limit : Option Int) (a : Single) : Single → Prop
  | create (absent : a.entry = none) (parses : Bool) :
    Step limit a { a with entry := some ⟨"pending", 0, parses⟩ }
  | check (call : Nat) (maxAttempts : Int) (within : ∀ m ∈ limit, maxAttempts ≤ m) (entry : Entry)
    (live : a.alive call = true) (outside : a.stage call = .outside) (found : a.entry = some entry)
    (parses : entry.parses = true) : Step limit a (a.moveTo call (.ready maxAttempts))
  | leave (call : Nat) (maxAttempts : Int) (live : a.alive call = true)
    (ready : a.stage call = .ready maxAttempts) : Step limit a (a.moveTo call .outside)
  | mark (call : Nat) (maxAttempts : Int) (entry : Entry) (live : a.alive call = true)
    (ready : a.stage call = .ready maxAttempts) (found : a.entry = some entry)
    (sendable : entry.status = "pending" ∨ entry.status = "failed") :
    Step limit a { a.moveTo call (.counted maxAttempts) with
      entry := some { entry with status := "sending", attemptCount := entry.attemptCount + 1 } }
  | reread (call : Nat) (maxAttempts : Int) (entry : Entry) (live : a.alive call = true)
    (counted : a.stage call = .counted maxAttempts) (found : a.entry = some entry) :
    Step limit a (a.moveTo call (.posting maxAttempts entry.attemptCount))
  | confirm (call : Nat) (maxAttempts : Int) (attemptCount : Nat) (live : a.alive call = true)
    (posting : a.stage call = .posting maxAttempts attemptCount) :
    Step limit a { a.moveTo call .confirmed with posts := a.posts ++ [true] }
  | reject (call : Nat) (maxAttempts : Int) (attemptCount : Nat) (live : a.alive call = true)
    (posting : a.stage call = .posting maxAttempts attemptCount) :
    Step limit a { a.moveTo call (.failing maxAttempts attemptCount) with
      posts := a.posts ++ [false] }
  | recordFailed (call : Nat) (maxAttempts : Int) (attemptCount : Nat) (entry : Entry)
    (live : a.alive call = true) (failing : a.stage call = .failing maxAttempts attemptCount)
    (found : a.entry = some entry) :
    Step limit a { a.moveTo call .outside with
      entry := some { entry with
        status := if maxAttempts ≤ attemptCount then "dead" else "failed" } }
  | recordSent (call : Nat) (entry : Entry) (live : a.alive call = true)
    (confirmed : a.stage call = .confirmed) (found : a.entry = some entry) :
    Step limit a { a.moveTo call .outside with entry := some { entry with status := "sent" } }
  | reset (unlimited : limit = none) (entry : Entry) (found : a.entry = some entry)
    (sending : entry.status = "sending") (free : ∀ call, ¬ a.InFlight call)
    (unconfirmed : true ∉ a.posts) :
    Step limit a { a with entry := some { entry with status := "pending" } }
  | stop (call : Nat) (live : a.alive call = true) :
    Step limit a { a with
      alive := Function.update a.alive call false
      lost := if (a.stage call).unposted then a.lost + 1 else a.lost }

/-- The invariant of one delivery. -/
structure Kept (a : Single) : Prop where
  sending : ∀ call, a.InFlight call →
    ∃ entry, a.entry = some entry ∧ entry.status = "sending" ∧ entry.parses = true
  alone : ∀ p q, a.InFlight p → a.InFlight q → p = q
  parses : ∀ call maxAttempts, a.stage call = .ready maxAttempts →
    ∃ entry, a.entry = some entry ∧ entry.parses = true
  own : ∀ call, a.InFlight call → ∀ count ∈ (a.stage call).ownCount, a.attempts = count
  counted : (∀ call, ¬ a.Unposted call) → a.posts.length + a.lost = a.attempts
  counting : ∀ call, a.Unposted call → a.posts.length + a.lost + 1 = a.attempts
  confirmed : true ∈ a.posts →
    (∃ entry, a.entry = some entry ∧ (entry.status = "sending" ∨ entry.status = "sent")) ∧
      ∀ call, a.InFlight call → a.stage call = .confirmed

variable {limit : Option Int} {a b : Single}

@[simp] theorem moveTo_stage_self (call : Nat) (stage : Stage) :
    (a.moveTo call stage).stage call = stage := Function.update_self ..

@[simp] theorem moveTo_stage_ne {call other : Nat} (differ : other ≠ call) (stage : Stage) :
    (a.moveTo call stage).stage other = a.stage other := Function.update_of_ne differ ..

theorem moveTo_self {call : Nat} {stage : Stage} (same : a.stage call = stage) :
    a.moveTo call stage = a := by
  subst same
  exact Single.ext rfl rfl rfl (Function.update_eq_self call a.stage) rfl

theorem Unposted.inFlight {call : Nat} (unposted : a.Unposted call) : a.InFlight call :=
  ⟨unposted.1, Stage.unposted_inFlight unposted.2⟩

/-- A call that is not in flight and stays so takes nothing from the invariant. -/
theorem Kept.move (kept : a.Kept) {call : Nat} {stage : Stage}
    (before : (a.stage call).inFlight = false) (after : stage.inFlight = false)
    (parses : ∀ maxAttempts, stage = .ready maxAttempts →
      ∃ entry, a.entry = some entry ∧ entry.parses = true) : (a.moveTo call stage).Kept := by
  have flying : ∀ c, (a.moveTo call stage).InFlight c → a.InFlight c ∧ c ≠ call := by
    rintro c ⟨live, flies⟩
    by_cases same : c = call
    · subst same
      rw [moveTo_stage_self, after] at flies
      cases flies
    · rw [moveTo_stage_ne same] at flies
      exact ⟨⟨live, flies⟩, same⟩
  have unposted : ∀ c, (a.moveTo call stage).Unposted c ↔ a.Unposted c := by
    intro c
    by_cases same : c = call
    · subst same
      constructor
      · intro waiting
        exact absurd rfl (flying c waiting.inFlight).2
      · intro waiting
        rw [waiting.inFlight.2] at before
        cases before
    · simp only [Unposted, moveTo_stage_ne same]
      rfl
  constructor
  · intro c flies
    exact kept.sending c (flying c flies).1
  · intro p q first second
    exact kept.alone p q (flying p first).1 (flying q second).1
  · intro c maxAttempts ready
    by_cases same : c = call
    · subst same
      rw [moveTo_stage_self] at ready
      exact parses maxAttempts ready
    · rw [moveTo_stage_ne same] at ready
      exact kept.parses c maxAttempts ready
  · intro c flies count own
    rw [moveTo_stage_ne (flying c flies).2] at own
    exact kept.own c (flying c flies).1 count own
  · intro free
    exact kept.counted fun c waiting => free c ((unposted c).mpr waiting)
  · intro c waiting
    exact kept.counting c ((unposted c).mp waiting)
  · intro confirmed
    obtain ⟨entry, all⟩ := kept.confirmed confirmed
    refine ⟨entry, fun c flies => ?_⟩
    rw [moveTo_stage_ne (flying c flies).2]
    exact all c (flying c flies).1

/-- The one call in flight goes on; a post of it replaces its open attempt. -/
theorem Kept.fly (kept : a.Kept) {call : Nat} {stage : Stage} {posts : List Bool}
    (flies : a.InFlight call) (after : stage.inFlight = true)
    (balance : posts.length + (if stage.unposted then 1 else 0) =
      a.posts.length + (if (a.stage call).unposted then 1 else 0))
    (own : ∀ count ∈ stage.ownCount, a.attempts = count)
    (confirmed : true ∈ posts → stage = .confirmed) :
    Kept { a.moveTo call stage with posts } := by
  have only : ∀ c, (a.moveTo call stage).InFlight c → c = call := by
    rintro c ⟨live, flying⟩
    by_contra differ
    rw [moveTo_stage_ne differ] at flying
    exact differ (kept.alone c call ⟨live, flying⟩ flies)
  have total : a.posts.length + a.lost + (if (a.stage call).unposted then 1 else 0) =
      a.attempts := by
    split
    · rename_i waiting
      exact kept.counting call ⟨flies.1, waiting⟩
    · rename_i posted
      refine kept.counted fun c waiting => ?_
      rw [kept.alone c call waiting.inFlight flies] at waiting
      exact posted waiting.2
  constructor
  · intro c flying
    obtain rfl := only c flying
    exact kept.sending c flies
  · intro p q first second
    rw [only p first, only q second]
  · intro c maxAttempts ready
    by_cases same : c = call
    · subst same
      rw [show (a.moveTo c stage).stage c = stage from moveTo_stage_self ..] at ready
      rw [ready] at after
      cases after
    · rw [show (a.moveTo call stage).stage c = _ from moveTo_stage_ne same _] at ready
      exact kept.parses c maxAttempts ready
  · intro c flying count mem
    obtain rfl := only c flying
    rw [show (a.moveTo c stage).stage c = stage from moveTo_stage_self ..] at mem
    exact own count mem
  · intro free
    have posted : stage.unposted = false := by
      by_contra waiting
      exact free call ⟨flies.1, by simpa using waiting⟩
    change posts.length + a.lost = a.attempts
    rw [posted, if_neg Bool.false_ne_true] at balance
    omega
  · intro c waiting
    obtain rfl := only c ⟨waiting.1, Stage.unposted_inFlight waiting.2⟩
    have unposted : stage.unposted = true := by simpa using waiting.2
    change posts.length + a.lost + 1 = a.attempts
    rw [unposted, if_pos rfl] at balance
    omega
  · intro mem
    obtain ⟨entry, found, sending, _⟩ := kept.sending call flies
    refine ⟨⟨entry, found, .inl sending⟩, fun c flying => ?_⟩
    obtain rfl := only c flying
    rw [← confirmed mem]
    exact moveTo_stage_self ..

/-- The one call in flight records its outcome. -/
theorem Kept.land (kept : a.Kept) {call : Nat} {entry : Entry} {status : String}
    (flies : a.InFlight call) (posted : (a.stage call).unposted = false)
    (found : a.entry = some entry) (confirmed : true ∈ a.posts → status = "sent") :
    Kept { a.moveTo call .outside with entry := some { entry with status } } := by
  have free : ∀ c, ¬ (a.moveTo call .outside).InFlight c := by
    rintro c ⟨live, flying⟩
    by_cases same : c = call
    · subst same
      rw [moveTo_stage_self] at flying
      cases flying
    · rw [moveTo_stage_ne same] at flying
      exact same (kept.alone c call ⟨live, flying⟩ flies)
  have attempts : a.attempts = entry.attemptCount := by simp only [attempts, found]; rfl
  constructor
  · intro c flying
    exact absurd flying (free c)
  · intro p q first
    exact absurd first (free p)
  · intro c maxAttempts ready
    by_cases same : c = call
    · subst same
      rw [show (a.moveTo c .outside).stage c = _ from moveTo_stage_self ..] at ready
      cases ready
    · rw [show (a.moveTo call .outside).stage c = _ from moveTo_stage_ne same _] at ready
      obtain ⟨own, ownFound, parses⟩ := kept.parses c maxAttempts ready
      rw [found] at ownFound
      cases ownFound
      exact ⟨_, rfl, parses⟩
  · intro c flying
    exact absurd flying (free c)
  · intro _
    change a.posts.length + a.lost = entry.attemptCount
    rw [← attempts]
    refine kept.counted fun c waiting => ?_
    rw [kept.alone c call waiting.inFlight flies] at waiting
    rw [waiting.2] at posted
    cases posted
  · intro c waiting
    exact absurd ⟨waiting.1, Stage.unposted_inFlight waiting.2⟩ (free c)
  · intro mem
    exact ⟨⟨_, rfl, .inr (confirmed mem)⟩, fun c flying => absurd flying (free c)⟩

/-- A call that marks the row while no call is in flight. -/
theorem Kept.mark (kept : a.Kept) {call : Nat} {maxAttempts : Int} {entry : Entry}
    (live : a.alive call = true) (ready : a.stage call = .ready maxAttempts) (found : a.entry = some entry)
    (sendable : entry.status = "pending" ∨ entry.status = "failed") :
    Kept { a.moveTo call (.counted maxAttempts) with
      entry := some { entry with status := "sending", attemptCount := entry.attemptCount + 1 } } := by
  have unsent : entry.status ≠ "sending" ∧ entry.status ≠ "sent" := by
    rcases sendable with same | same <;> rw [same] <;> decide
  have free : ∀ c, ¬ a.InFlight c := by
    intro c flies
    obtain ⟨own, ownFound, sending, _⟩ := kept.sending c flies
    rw [found] at ownFound
    cases ownFound
    exact unsent.1 sending
  have only : ∀ c, (a.moveTo call (.counted maxAttempts)).InFlight c → c = call := by
    rintro c ⟨live, flying⟩
    by_contra differ
    rw [moveTo_stage_ne differ] at flying
    exact free c ⟨live, flying⟩
  obtain ⟨own, ownFound, parses⟩ := kept.parses call maxAttempts ready
  rw [found] at ownFound
  cases ownFound
  have settled : a.posts.length + a.lost = entry.attemptCount := by
    have counted := kept.counted fun c waiting => free c waiting.inFlight
    simpa only [attempts, found, Option.map_some, Option.getD_some] using counted
  constructor
  · intro c _
    exact ⟨_, rfl, rfl, parses⟩
  · intro p q first second
    rw [only p first, only q second]
  · intro c otherMax otherReady
    by_cases same : c = call
    · subst same
      rw [show (a.moveTo c (.counted maxAttempts)).stage c = _ from moveTo_stage_self ..]
        at otherReady
      cases otherReady
    · exact ⟨_, rfl, parses⟩
  · intro c flying count mem
    obtain rfl := only c flying
    rw [show (a.moveTo c (.counted maxAttempts)).stage c = _ from moveTo_stage_self ..] at mem
    cases mem
  · intro waiting
    refine absurd ⟨live, ?_⟩ (waiting call)
    rw [show (a.moveTo call (.counted maxAttempts)).stage call = _ from moveTo_stage_self ..]
    rfl
  · intro c waiting
    change a.posts.length + a.lost + 1 = entry.attemptCount + 1
    omega
  · intro mem
    obtain ⟨⟨own, ownFound, status⟩, _⟩ := kept.confirmed mem
    rw [found] at ownFound
    cases ownFound
    rcases status with sending | sent
    · exact absurd sending unsent.1
    · exact absurd sent unsent.2

/-- Recovery of a row that no live call is sending. -/
theorem Kept.reset (kept : a.Kept) {entry : Entry} (found : a.entry = some entry)
    (free : ∀ call, ¬ a.InFlight call) (unconfirmed : true ∉ a.posts) :
    Kept { a with entry := some { entry with status := "pending" } } := by
  have attempts : a.attempts = entry.attemptCount := by simp only [attempts, found]; rfl
  constructor
  · intro call flies
    exact absurd flies (free call)
  · intro p q first
    exact absurd first (free p)
  · intro call maxAttempts ready
    obtain ⟨own, ownFound, parses⟩ := kept.parses call maxAttempts ready
    rw [found] at ownFound
    cases ownFound
    exact ⟨_, rfl, parses⟩
  · intro call flies
    exact absurd flies (free call)
  · intro waiting
    change a.posts.length + a.lost = entry.attemptCount
    rw [← attempts]
    exact kept.counted waiting
  · intro call waiting
    exact absurd (Unposted.inFlight (a := a) waiting) (free call)
  · intro mem
    exact absurd mem unconfirmed

theorem Kept.create (kept : a.Kept) (absent : a.entry = none) (parses : Bool) :
    Kept { a with entry := some ⟨"pending", 0, parses⟩ } := by
  have free : ∀ call, ¬ a.InFlight call := by
    intro call flies
    obtain ⟨entry, found, -⟩ := kept.sending call flies
    rw [absent] at found
    cases found
  have untouched : a.posts.length + a.lost = 0 := by
    have counted := kept.counted fun call waiting => free call waiting.inFlight
    simp only [attempts, absent] at counted
    exact counted
  constructor
  · intro call flies
    exact absurd flies (free call)
  · intro p q first
    exact absurd first (free p)
  · intro call maxAttempts ready
    obtain ⟨entry, found, -⟩ := kept.parses call maxAttempts ready
    rw [absent] at found
    cases found
  · intro call flies
    exact absurd flies (free call)
  · intro _
    exact untouched
  · intro call waiting
    exact absurd (Unposted.inFlight (a := a) waiting) (free call)
  · intro mem
    have posted := List.length_pos_of_mem (l := a.posts) mem
    omega

/-- A call that stops leaves the row to the others, and its open attempt is lost. -/
theorem Kept.stop (kept : a.Kept) {call : Nat} (live : a.alive call = true) :
    Kept { a with
      alive := Function.update a.alive call false
      lost := if (a.stage call).unposted then a.lost + 1 else a.lost } := by
  have others : ∀ c, Function.update a.alive call false c = true → c ≠ call ∧ a.alive c = true := by
    intro c alive
    by_cases same : c = call
    · subst same
      rw [Function.update_self] at alive
      cases alive
    · rw [Function.update_of_ne same] at alive
      exact ⟨same, alive⟩
  constructor
  · intro c flies
    exact kept.sending c ⟨(others c flies.1).2, flies.2⟩
  · intro p q first second
    exact kept.alone p q ⟨(others p first.1).2, first.2⟩ ⟨(others q second.1).2, second.2⟩
  · exact kept.parses
  · intro c flies
    exact kept.own c ⟨(others c flies.1).2, flies.2⟩
  · intro free
    change a.posts.length + (if (a.stage call).unposted then a.lost + 1 else a.lost) = a.attempts
    split
    · rename_i waiting
      have open_ := kept.counting call ⟨live, waiting⟩
      omega
    · rename_i posted
      refine kept.counted fun c waiting => ?_
      by_cases same : c = call
      · subst same
        exact posted waiting.2
      · refine free c ⟨?_, waiting.2⟩
        change Function.update a.alive call false c = true
        rw [Function.update_of_ne same]
        exact waiting.1
  · intro c waiting
    obtain ⟨differ, alive⟩ := others c waiting.1
    have flies : a.Unposted c := ⟨alive, waiting.2⟩
    have posted : ¬ (a.stage call).unposted = true := fun stopped =>
      differ (kept.alone c call flies.inFlight (Unposted.inFlight ⟨live, stopped⟩))
    change a.posts.length + (if (a.stage call).unposted then a.lost + 1 else a.lost) + 1 = a.attempts
    rw [if_neg posted]
    exact kept.counting c flies
  · intro mem
    obtain ⟨entry, all⟩ := kept.confirmed mem
    exact ⟨entry, fun c flies => all c ⟨(others c flies.1).2, flies.2⟩⟩

/-- The step lemma. -/
theorem Kept.step (kept : a.Kept) (step : Step limit a b) : b.Kept := by
  cases step with
  | create absent parses => exact kept.create absent parses
  | check call maxAttempts within entry live outside found parses =>
    exact kept.move (by rw [outside]; rfl) rfl fun _ _ => ⟨entry, found, parses⟩
  | leave call maxAttempts live ready => exact kept.move (by rw [ready]; rfl) rfl nofun
  | mark call maxAttempts entry live ready found sendable =>
    exact kept.mark live ready found sendable
  | reread call maxAttempts entry live counted found =>
    refine kept.fly ⟨live, by rw [counted]; rfl⟩ rfl (by rw [counted]; rfl) ?_ fun mem => ?_
    · intro count own
      cases own
      simp only [attempts, found]
      rfl
    · have confirmed := (kept.confirmed mem).2 call ⟨live, by rw [counted]; rfl⟩
      rw [counted] at confirmed
      cases confirmed
  | confirm call maxAttempts attemptCount live posting =>
    refine kept.fly ⟨live, by rw [posting]; rfl⟩ rfl ?_ nofun fun _ => rfl
    rw [posting, List.length_append]
    rfl
  | reject call maxAttempts attemptCount live posting =>
    have flies : a.InFlight call := ⟨live, by rw [posting]; rfl⟩
    refine kept.fly flies rfl ?_ ?_ fun mem => ?_
    · rw [posting, List.length_append]
      rfl
    · intro count own
      cases own
      exact kept.own call flies attemptCount (by rw [posting]; rfl)
    · have earlier : true ∈ a.posts := by simpa using mem
      have confirmed := (kept.confirmed earlier).2 call flies
      rw [posting] at confirmed
      cases confirmed
  | recordFailed call maxAttempts attemptCount entry live failing found =>
    have flies : a.InFlight call := ⟨live, by rw [failing]; rfl⟩
    refine kept.land flies (by rw [failing]; rfl) found fun mem => ?_
    have confirmed := (kept.confirmed mem).2 call flies
    rw [failing] at confirmed
    cases confirmed
  | recordSent call entry live confirmed found =>
    exact kept.land ⟨live, by rw [confirmed]; rfl⟩ (by rw [confirmed]; rfl) found fun _ => rfl
  | reset _ entry found _ free unconfirmed => exact kept.reset found free unconfirmed
  | stop call live => exact kept.stop live

/-- A row that is sent or dead stays so and is not posted again. -/
theorem Kept.settled (kept : a.Kept) (step : Step limit a b) {entry : Entry}
    (found : a.entry = some entry) (final : entry.status = "sent" ∨ entry.status = "dead") :
    b.entry = some entry ∧ b.posts = a.posts := by
  have unsent : entry.status ≠ "pending" ∧ entry.status ≠ "failed" ∧ entry.status ≠ "sending" := by
    rcases final with same | same <;> rw [same] <;> decide
  have free : ∀ call, ¬ a.InFlight call := by
    intro call flies
    obtain ⟨own, ownFound, sending, _⟩ := kept.sending call flies
    rw [found] at ownFound
    cases ownFound
    exact unsent.2.2 sending
  have same : ∀ {other : Entry}, a.entry = some other → other = entry := by
    intro other otherFound
    rw [found] at otherFound
    exact (Option.some.inj otherFound).symm
  cases step with
  | create absent parses =>
    rw [absent] at found
    cases found
  | check | leave | reread | stop => exact ⟨found, rfl⟩
  | mark call maxAttempts own live ready ownFound sendable =>
    obtain rfl := same ownFound
    rcases sendable with pending | failed
    · exact absurd pending unsent.1
    · exact absurd failed unsent.2.1
  | confirm call maxAttempts attemptCount live posting =>
    exact absurd ⟨live, by rw [posting]; rfl⟩ (free call)
  | reject call maxAttempts attemptCount live posting =>
    exact absurd ⟨live, by rw [posting]; rfl⟩ (free call)
  | recordFailed call maxAttempts attemptCount own live failing ownFound =>
    exact absurd ⟨live, by rw [failing]; rfl⟩ (free call)
  | recordSent call own live confirmed ownFound =>
    exact absurd ⟨live, by rw [confirmed]; rfl⟩ (free call)
  | reset unlimited own ownFound sending _ _ =>
    obtain rfl := same ownFound
    exact absurd sending unsent.2.2

/-- No call tries the delivery more often than the limit allows. -/
structure Bounded (m : Int) (a : Single) : Prop where
  attempts : (a.attempts : Int) ≤ m
  again : ∀ entry, a.entry = some entry → entry.status = "pending" ∨ entry.status = "failed" →
    (a.attempts : Int) < m
  limits : ∀ call, ∀ maxAttempts ∈ (a.stage call).limit, maxAttempts ≤ m

theorem Bounded.move {m : Int} (bounded : a.Bounded m) {call : Nat} {stage : Stage}
    (limits : ∀ maxAttempts ∈ stage.limit, maxAttempts ≤ m) : (a.moveTo call stage).Bounded m where
  attempts := bounded.attempts
  again := bounded.again
  limits c := by
    by_cases same : c = call
    · subst same
      rw [moveTo_stage_self]
      exact limits
    · rw [moveTo_stage_ne same]
      exact bounded.limits c

theorem Bounded.step {m : Int} (positive : 1 ≤ m) (kept : a.Kept) (bounded : a.Bounded m)
    (step : Step (some m) a b) : b.Bounded m := by
  have limitOf : ∀ {call : Nat} {stage : Stage} {maxAttempts : Int}, a.stage call = stage →
      stage.limit = some maxAttempts → maxAttempts ≤ m := fun {call _ _} same own =>
    bounded.limits call _ (same ▸ own)
  cases step with
  | create absent parses =>
    refine ⟨?_, fun _ _ _ => ?_, bounded.limits⟩
    · change ((0 : Nat) : Int) ≤ m
      omega
    · change ((0 : Nat) : Int) < m
      omega
  | check call maxAttempts within entry live outside found parses =>
    refine bounded.move fun _ mem => ?_
    cases mem
    exact within m rfl
  | leave call maxAttempts live ready => exact bounded.move nofun
  | mark call maxAttempts entry live ready found sendable =>
    have attempts : a.attempts = entry.attemptCount := by simp only [Single.attempts, found]; rfl
    have more := bounded.again entry found sendable
    have moved : (a.moveTo call (.counted maxAttempts)).Bounded m :=
      bounded.move fun _ own => limitOf ready own
    refine ⟨?_, ?_, moved.limits⟩
    · change ((entry.attemptCount + 1 : Nat) : Int) ≤ m
      omega
    · rintro _ ⟨⟩ again
      rcases again with pending | failed
      · exact absurd pending (by decide : "sending" ≠ "pending")
      · exact absurd failed (by decide : "sending" ≠ "failed")
  | reread call maxAttempts entry live counted found => exact bounded.move fun _ own => limitOf counted own
  | confirm call maxAttempts attemptCount live posting =>
    have moved : (a.moveTo call .confirmed).Bounded m := bounded.move nofun
    exact ⟨moved.attempts, moved.again, moved.limits⟩
  | reject call maxAttempts attemptCount live posting =>
    have moved : (a.moveTo call (.failing maxAttempts attemptCount)).Bounded m :=
      bounded.move fun _ own => limitOf posting own
    exact ⟨moved.attempts, moved.again, moved.limits⟩
  | recordFailed call maxAttempts attemptCount entry live failing found =>
    have attempts : a.attempts = entry.attemptCount := by simp only [Single.attempts, found]; rfl
    have own : a.attempts = attemptCount :=
      kept.own call ⟨live, by rw [failing]; rfl⟩ attemptCount (by rw [failing]; rfl)
    have most : maxAttempts ≤ m := limitOf failing rfl
    have total := bounded.attempts
    have moved : (a.moveTo call .outside).Bounded m := bounded.move nofun
    refine ⟨?_, ?_, moved.limits⟩
    · change (entry.attemptCount : Int) ≤ m
      omega
    · rintro _ ⟨⟩ again
      change (entry.attemptCount : Int) < m
      by_cases dead : maxAttempts ≤ attemptCount
      · rw [if_pos dead] at again
        rcases again with pending | failed
        · exact absurd pending (by decide : "dead" ≠ "pending")
        · exact absurd failed (by decide : "dead" ≠ "failed")
      · omega
  | recordSent call entry live confirmed found =>
    have attempts : a.attempts = entry.attemptCount := by simp only [Single.attempts, found]; rfl
    have total := bounded.attempts
    have moved : (a.moveTo call .outside).Bounded m := bounded.move nofun
    refine ⟨?_, ?_, moved.limits⟩
    · change (entry.attemptCount : Int) ≤ m
      omega
    · rintro _ ⟨⟩ again
      rcases again with pending | failed
      · exact absurd pending (by decide : "sent" ≠ "pending")
      · exact absurd failed (by decide : "sent" ≠ "failed")
  | reset unlimited => cases unlimited
  | stop call live => exact ⟨bounded.attempts, bounded.again, bounded.limits⟩

end Single

section Simulation

variable {s u : State} {d : String} {limit : Option Int}

def Point.stage (send : Send) : Point → Stage
  | .checking => .outside
  | .choosing => .ready send.maxAttempts
  | .counting => .ready send.maxAttempts
  | .marking _ => .ready send.maxAttempts
  | .rereading => .counted send.maxAttempts
  | .posting row _ => .posting send.maxAttempts row.attemptCount
  | .recordingFailed row _ => .failing send.maxAttempts row.attemptCount
  | .recordingSent _ => .confirmed
  | .reporting _ => .outside

def Phase.stage (d : String) : Phase → Stage
  | .sending send point => if send.deliveryId = d then point.stage send else .outside
  | _ => .outside

def entryOf (row : DeliveryRow) : Entry :=
  ⟨row.status, row.attemptCount, row.payloadJson.loads.isOk⟩

def State.found (s : State) (d : String) : Option DeliveryRow := s.deliveries.find? (·.id = d)

/-- The calls, as far as they concern the delivery. -/
def State.single (d : String) (s : State) : Single where
  entry := (s.found d).map entryOf
  posts := (s.posts.filter (·.deliveryId = d)).map (·.confirmed.isSome)
  lost := s.lost.count d
  stage call := (s.phase call).stage d
  alive := s.alive

/-- A marking finds the row that the call has tested and read, and a recovery resets only rows that
no live call is sending and of which no post was confirmed. -/
def Careful (d : String) (s : State) : Label → Prop
  | .proceed call =>
    match s.phase call with
    | .sending send (.marking attemptCount) => send.deliveryId = d → ∃ row, s.found d = some row ∧
        (row.status = "pending" ∨ row.status = "failed") ∧ row.attemptCount = attemptCount
    | .resetting _ deliveryIds => d ∈ deliveryIds →
        (∀ row, s.found d = some row → row.status = "sending") ∧
        (∀ other, ¬ (s.single d).InFlight other) ∧ true ∉ (s.single d).posts
    | _ => True
  | _ => True

/-- No call may try more than `m` times, and none recovers the delivery. -/
def Within (m : Int) (d : String) (s : State) : Label → Prop
  | .start _ (.send request) => request.maxAttempts ≤ m
  | .start _ (.pump _) => 3 ≤ m
  | .proceed call =>
    match s.phase call with
    | .resetting _ deliveryIds => d ∉ deliveryIds
    | _ => True
  | _ => True

theorem found_id {row : DeliveryRow} (found : s.found d = some row) : row.id = d := by
  simpa using (Table.find?_some found).2

theorem found_setDeliveries {deliveries : Table deliverySchema} {p : DeliveryRow → Bool}
    {status : String} {attemptCount : DeliveryRow → Nat}
    {platformMessageId : DeliveryRow → Option String} {lastError : Option String} :
    (setDeliveries deliveries p status attemptCount platformMessageId lastError).find? (·.id = d) =
      (deliveries.find? (·.id = d)).map fun row => if p row then
        { row with status, attemptCount := attemptCount row,
                   platformMessageId := platformMessageId row, lastError } else row :=
  Table.find?_modify fun _ => rfl

theorem single_move (call : Nat) (phase : Phase) (deliveries : Table deliverySchema) :
    State.single d { s.moveTo call phase with deliveries } =
      { (s.single d).moveTo call (phase.stage d) with
        entry := (deliveries.find? (·.id = d)).map entryOf } := by
  refine Single.ext rfl rfl rfl (funext fun other => ?_) rfl
  change (Function.update s.phase call phase other).stage d =
    Function.update (fun c => (s.phase c).stage d) call (phase.stage d) other
  by_cases same : other = call
  · subst same
    rw [Function.update_self, Function.update_self]
  · rw [Function.update_of_ne same, Function.update_of_ne same]

/-- A step that changes neither the row nor the place of the call leaves the delivery alone. -/
theorem single_same {call : Nat} {phase : Phase} {deliveries : Table deliverySchema}
    (entry : (deliveries.find? (·.id = d)).map entryOf = (s.found d).map entryOf)
    (stage : phase.stage d = (s.phase call).stage d) :
    State.single d { s.moveTo call phase with deliveries } = s.single d := by
  rw [single_move, entry, stage,
    show (s.single d).moveTo call ((s.phase call).stage d) = s.single d from Single.moveTo_self rfl]
  rfl

theorem stage_next (loop : Loop) : (Loop.next loop).stage d = .outside := by
  unfold Loop.next
  split
  · rfl
  · simp only [Phase.stage, Point.stage, ite_self]

theorem stage_finish (send : Send) (result : SendDeliveryResult) :
    (send.finish result).stage d = .outside := by
  unfold Send.finish
  split
  · rfl
  · exact stage_next _

/-- Where a call goes on with the delivery, unless it ends in an exception. -/
theorem stage_resume {next : Except Exn Phase} {stage : Stage}
    (goes : ∀ phase, next = .ok phase → phase.stage d = stage) :
    (resume next).stage d = stage ∨ (resume next).stage d = .outside ∧ ∃ e, next = .error e := by
  cases next with
  | ok phase => exact .inl (goes phase rfl)
  | error e => exact .inr ⟨rfl, e, rfl⟩

theorem checkSendable_ok {row : DeliveryRow} {u : Unit} (checked : checkSendable row = .ok u) :
    row.payloadJson.loads.isOk = true := by
  unfold checkSendable isChannelDelivery decodeColumn orRaise at checked
  cases loads : row.payloadJson.loads with
  | ok payload => rfl
  | error e =>
    rw [loads] at checked
    cases checked

/-- An update of other rows. -/
theorem found_unset {deliveries : Table deliverySchema} {p : DeliveryRow → Bool} {status : String}
    {attemptCount : DeliveryRow → Nat} {platformMessageId : DeliveryRow → Option String}
    {lastError : Option String} (other : ∀ row : DeliveryRow, row.id = d → p row = false) :
    (setDeliveries deliveries p status attemptCount platformMessageId lastError).find? (·.id = d) =
      deliveries.find? (·.id = d) := by
  rw [found_setDeliveries]
  cases found : deliveries.find? (·.id = d) with
  | none => rfl
  | some row =>
    have id : row.id = d := by simpa using (Table.find?_some found).2
    simp only [Option.map_some, other row id, Bool.false_eq_true, if_false]

/-- A send of another delivery. -/
theorem sendStep_other {deliveries next : Table deliverySchema} {send : Send} {point : Point}
    {phase : Phase} (differ : send.deliveryId ≠ d)
    (stepped : sendStep deliveries send point = some (next, phase)) :
    next.find? (·.id = d) = deliveries.find? (·.id = d) ∧ phase.stage d = .outside := by
  have outside : ∀ point, (Phase.sending send point).stage d = .outside := fun _ => if_neg differ
  have unset : ∀ row : DeliveryRow, row.id = d → decide (row.id = send.deliveryId) = false := by
    rintro row rfl
    exact decide_eq_false (Ne.symm differ)
  have resumed : ∀ {next : Except Exn Phase}, (∀ phase, next = .ok phase → phase.stage d = .outside) →
      (resume next).stage d = .outside := fun goes => (stage_resume goes).elim id And.left
  cases point with
  | checking =>
    cases stepped
    refine ⟨rfl, resumed fun phase went => ?_⟩
    obtain ⟨row, -, went⟩ := Except.bind_ok.mp went
    obtain ⟨_, -, went⟩ := Except.bind_ok.mp went
    cases went
    exact outside _
  | choosing =>
    cases stepped
    exact ⟨rfl, outside _⟩
  | counting =>
    cases stepped
    refine ⟨rfl, resumed fun phase went => ?_⟩
    obtain ⟨row, -, went⟩ := Except.bind_ok.mp went
    cases went
    exact outside _
  | marking attemptCount =>
    cases stepped
    exact ⟨found_unset unset, outside _⟩
  | rereading =>
    cases stepped
    refine ⟨rfl, resumed fun phase went => ?_⟩
    obtain ⟨row, -, went⟩ := Except.bind_ok.mp went
    cases went
    unfold Send.prepare
    split <;> exact outside _
  | posting row payload => cases stepped
  | recordingFailed row error =>
    cases stepped
    exact ⟨found_unset unset, outside _⟩
  | recordingSent platformMessageId =>
    cases stepped
    exact ⟨found_unset unset, outside _⟩
  | reporting sent =>
    cases stepped
    refine ⟨rfl, resumed fun phase went => ?_⟩
    obtain ⟨row, -, went⟩ := Except.bind_ok.mp went
    obtain ⟨delivery, -, went⟩ := Except.bind_ok.mp went
    cases went
    exact stage_finish _ _

/-- What a call does to the delivery, when it is not sending it. -/
theorem callStep_other {deliveries next : Table deliverySchema} {phase after : Phase}
    (outside : phase.stage d = .outside) (idle : ∀ send point, phase ≠ .sending send point)
    (unset : ∀ request deliveryIds, phase = .resetting request deliveryIds → d ∉ deliveryIds)
    (stepped : callStep deliveries phase = some (next, after)) :
    next.find? (·.id = d) = deliveries.find? (·.id = d) ∧ after.stage d = .outside := by
  have resumed : ∀ {next : Except Exn Phase}, (∀ phase, next = .ok phase → phase.stage d = .outside) →
      (resume next).stage d = .outside := fun goes => (stage_resume goes).elim id And.left
  cases phase with
  | idle => cases stepped
  | recovering request =>
    cases stepped
    refine ⟨rfl, resumed fun phase went => ?_⟩
    obtain ⟨rows, -, went⟩ := Except.bind_ok.mp went
    cases went
    rfl
  | resetting request deliveryIds =>
    cases stepped
    refine ⟨found_unset ?_, rfl⟩
    rintro row rfl
    simpa using unset request deliveryIds rfl
  | listingPending request =>
    cases stepped
    exact ⟨rfl, rfl⟩
  | listingFailed request pending =>
    cases stepped
    refine ⟨rfl, resumed fun phase went => ?_⟩
    obtain ⟨rows, -, went⟩ := Except.bind_ok.mp went
    cases went
    exact stage_next _
  | sending send point => exact absurd rfl (idle send point)
  | returned outcome => cases stepped

theorem getDelivery_ok {deliveries : Table deliverySchema} {row : DeliveryRow} :
    getDelivery deliveries d = .ok row ↔ deliveries.find? (·.id = d) = some row := by
  unfold getDelivery
  cases found : deliveries.find? (·.id = d) with
  | none => exact iff_of_false nofun nofun
  | some other =>
    constructor
    · rintro ⟨⟩
      rfl
    · rintro ⟨⟩
      rfl

theorem entry_of_found {row : DeliveryRow} (found : s.found d = some row) :
    (s.single d).entry = some (entryOf row) := by
  simp only [State.single, found, Option.map_some]

theorem found_of_entry {entry : Entry} (has : (s.single d).entry = some entry) :
    ∃ row, s.found d = some row ∧ entryOf row = entry := by
  simpa [State.single] using has

/-- An update of the row of the delivery. -/
theorem single_set {call : Nat} {phase : Phase} {row : DeliveryRow} {status : String}
    {attemptCount : DeliveryRow → Nat} {platformMessageId : DeliveryRow → Option String}
    {lastError : Option String} (found : s.found d = some row) :
    State.single d { s.moveTo call phase with
        deliveries := setDeliveries s.deliveries (·.id = d) status attemptCount platformMessageId
          lastError } =
      { (s.single d).moveTo call (phase.stage d) with
        entry := some { entryOf row with status, attemptCount := attemptCount row } } := by
  rw [single_move, found_setDeliveries, show s.deliveries.find? (·.id = d) = some row from found,
    Option.map_some, Option.map_some, if_pos (by simpa using found_id found)]
  rfl

/-- A step of a call that is sending the delivery. -/
theorem sendStep_own {deliveries : Table deliverySchema} {send : Send} {point : Point} {call : Nat}
    {phase : Phase} (kept : (s.single d).Kept) (live : s.alive call = true)
    (place : s.phase call = .sending send point) (own : send.deliveryId = d)
    (careful : Careful d s (.proceed call)) (within : ∀ m ∈ limit, send.maxAttempts ≤ m)
    (stepped : sendStep s.deliveries send point = some (deliveries, phase)) :
    State.single d { s.moveTo call phase with deliveries } = s.single d ∨
      Single.Step limit (s.single d) (State.single d { s.moveTo call phase with deliveries }) := by
  subst own
  have stage : (s.single send.deliveryId).stage call = point.stage send := by
    change (s.phase call).stage send.deliveryId = _
    rw [place]
    exact if_pos rfl
  have staged : ∀ point, (Phase.sending send point).stage send.deliveryId = point.stage send :=
    fun _ => if_pos rfl
  have same : ∀ {phase : Phase}, phase.stage send.deliveryId = point.stage send →
      State.single send.deliveryId { s.moveTo call phase with deliveries := s.deliveries } =
        s.single send.deliveryId := fun {phase} arrives =>
    single_same rfl (arrives.trans stage.symm)
  have moves : ∀ phase, State.single send.deliveryId
      { s.moveTo call phase with deliveries := s.deliveries } =
        (s.single send.deliveryId).moveTo call (phase.stage send.deliveryId) :=
    fun phase => single_move call phase s.deliveries
  have flying : (point.stage send).inFlight = true →
      (s.single send.deliveryId).InFlight call := fun flies => ⟨live, stage ▸ flies⟩
  cases point with
  | checking =>
    cases outcome : (do
        let row ← getDelivery s.deliveries send.deliveryId
        checkSendable row
        return Phase.sending send .choosing : Except Exn Phase) with
    | error e =>
      simp only [sendStep, outcome, Option.some.injEq, Prod.mk.injEq] at stepped
      obtain ⟨rfl, rfl⟩ := stepped
      exact .inl (same rfl)
    | ok next =>
      simp only [sendStep, outcome, Option.some.injEq, Prod.mk.injEq] at stepped
      obtain ⟨rfl, rfl⟩ := stepped
      obtain ⟨row, read, outcome⟩ := Except.bind_ok.mp outcome
      obtain ⟨_, checked, outcome⟩ := Except.bind_ok.mp outcome
      cases outcome
      rw [moves, show (resume (.ok (.sending send .choosing))) = .sending send .choosing from rfl,
        staged]
      exact .inr (.check call send.maxAttempts within _ live stage
        (entry_of_found (getDelivery_ok.mp read)) (checkSendable_ok checked))
  | choosing =>
    cases stepped
    exact .inl (same (staged _))
  | counting =>
    cases outcome : (do
        let row ← getDelivery s.deliveries send.deliveryId
        return Phase.sending send (.marking row.attemptCount) : Except Exn Phase) with
    | error e =>
      simp only [sendStep, outcome, Option.some.injEq, Prod.mk.injEq] at stepped
      obtain ⟨rfl, rfl⟩ := stepped
      rw [moves]
      exact .inr (.leave call send.maxAttempts live stage)
    | ok next =>
      simp only [sendStep, outcome, Option.some.injEq, Prod.mk.injEq] at stepped
      obtain ⟨rfl, rfl⟩ := stepped
      obtain ⟨row, -, outcome⟩ := Except.bind_ok.mp outcome
      cases outcome
      exact .inl (same (staged _))
  | marking attemptCount =>
    cases stepped
    simp only [Careful, place] at careful
    obtain ⟨row, found, sendable, rfl⟩ := careful trivial
    rw [single_set found, staged]
    exact .inr (.mark call send.maxAttempts _ live stage (entry_of_found found) sendable)
  | rereading =>
    obtain ⟨entry, has, -, parses⟩ := kept.sending call (flying rfl)
    obtain ⟨row, found, rfl⟩ := found_of_entry has
    cases loads : row.payloadJson.loads with
    | error e =>
      simp only [entryOf, loads] at parses
      cases parses
    | ok payload =>
      have outcome : (do
          let row ← getDelivery s.deliveries send.deliveryId
          return send.prepare row : Except Exn Phase) = .ok (.sending send (.posting row payload)) := by
        refine Except.bind_ok.mpr ⟨row, getDelivery_ok.mpr found, ?_⟩
        rw [Send.prepare, loads]
        rfl
      simp only [sendStep, outcome, Option.some.injEq, Prod.mk.injEq] at stepped
      obtain ⟨rfl, rfl⟩ := stepped
      rw [moves, show resume (.ok (.sending send (.posting row payload))) =
        .sending send (.posting row payload) from rfl, staged]
      exact .inr (.reread call send.maxAttempts _ live stage has)
  | posting row payload => cases stepped
  | recordingFailed row error =>
    cases stepped
    obtain ⟨entry, has, -, -⟩ := kept.sending call (flying rfl)
    obtain ⟨current, found, rfl⟩ := found_of_entry has
    rw [single_set found, staged]
    simp only [isDead, decide_eq_true_eq]
    exact .inr (.recordFailed call send.maxAttempts row.attemptCount _ live stage has)
  | recordingSent platformMessageId =>
    cases stepped
    obtain ⟨entry, has, -, -⟩ := kept.sending call (flying rfl)
    obtain ⟨current, found, rfl⟩ := found_of_entry has
    rw [single_set found, staged]
    exact .inr (.recordSent call _ live stage has)
  | reporting sent =>
    cases stepped
    refine .inl (same ?_)
    refine (@stage_resume send.deliveryId _ .outside fun phase went => ?_).elim id And.left
    obtain ⟨row, -, went⟩ := Except.bind_ok.mp went
    obtain ⟨delivery, -, went⟩ := Except.bind_ok.mp went
    cases went
    exact stage_finish _ _

/-- The sends of a call are within the limit. -/
def Phase.Within (m : Int) : Phase → Prop
  | .sending send _ => send.maxAttempts ≤ m ∧ (send.loop ≠ none → 3 ≤ m)
  | .idle => True
  | .returned _ => True
  | _ => 3 ≤ m

theorem count_unposted {phase : Phase} {lost : Nat} : lost + phase.unposted.toList.count d =
    if (phase.stage d).unposted then lost + 1 else lost := by
  cases phase with
  | sending send point =>
    by_cases own : send.deliveryId = d
    · cases point <;> simp [Phase.unposted, Phase.stage, Point.stage, Stage.unposted, own]
    · cases point <;> simp [Phase.unposted, Phase.stage, Stage.unposted, own]
  | _ => rfl

/-- A step of the calls is a step of the delivery, or leaves it alone. -/
theorem single_step {label : Label} (kept : (s.single d).Kept) (careful : Careful d s label)
    (within : ∀ m ∈ limit, (∀ call, (s.phase call).Within m) ∧ Within m d s label)
    (stepped : step s label = some u) :
    u.single d = s.single d ∨ Single.Step limit (s.single d) (u.single d) := by
  cases label with
  | create row =>
    simp only [step, Option.ite_none_right_eq_some, Option.map_eq_some_iff] at stepped
    obtain ⟨⟨pending, uncounted⟩, deliveries, inserted, rfl⟩ := stepped
    have found : deliveries.find? (·.id = d) =
        (s.found d).or (if row.id = d then some row else none) := by
      rw [Table.find?, Table.insert?_rows inserted, List.find?_append]
      by_cases same : row.id = d <;> simp [same, State.found, Table.find?]
    have single : State.single d { s with deliveries } =
        { s.single d with entry := (deliveries.find? (·.id = d)).map entryOf } := rfl
    rw [single, found]
    cases absent : s.found d with
    | some old =>
      refine .inl ?_
      rw [Option.some_or, ← absent]
      rfl
    | none =>
      by_cases same : row.id = d
      · rw [if_pos same, Option.none_or, Option.map_some]
        refine .inr ?_
        have entry : entryOf row = ⟨"pending", 0, row.payloadJson.loads.isOk⟩ := by
          rw [entryOf, pending, uncounted]
        rw [entry]
        exact .create (by simp only [State.single, absent, Option.map_none]) _
      · rw [if_neg same, Option.none_or, ← absent]
        exact .inl rfl
  | start call request =>
    simp only [step, Option.ite_none_right_eq_some, Option.some.injEq] at stepped
    obtain ⟨idle, rfl⟩ := stepped
    refine .inl (single_same rfl ?_)
    rw [idle]
    cases request with
    | send request => exact ite_self _
    | pump request =>
      simp only [Request.begin]
      split <;> rfl
  | proceed call =>
    simp only [step, Option.ite_none_right_eq_some, Option.map_eq_some_iff, Prod.exists] at stepped
    obtain ⟨live, deliveries, phase, stepped, rfl⟩ := stepped
    -- the place of the call decides what it may do to the row
    by_cases place : ∃ send point, s.phase call = .sending send point
    · obtain ⟨send, point, place⟩ := place
      rw [place] at stepped
      by_cases own : send.deliveryId = d
      · refine sendStep_own kept live place own careful (fun m limited => ?_) stepped
        have sends := (within m limited).1 call
        rw [place] at sends
        exact sends.1
      · obtain ⟨row, outside⟩ := sendStep_other own stepped
        refine .inl (single_same (congrArg _ row) ?_)
        rw [outside, place]
        exact (if_neg own).symm
    · have outside : (s.phase call).stage d = .outside := by
        unfold Phase.stage
        split
        · rename_i send point place'
          exact absurd ⟨send, point, place'⟩ place
        · rfl
      by_cases resets : ∃ request deliveryIds, s.phase call = .resetting request deliveryIds ∧
          d ∈ deliveryIds
      · obtain ⟨request, deliveryIds, resetting, mem⟩ := resets
        rw [resetting] at stepped
        cases stepped
        simp only [Careful, resetting] at careful
        obtain ⟨sending, free, unconfirmed⟩ := careful mem
        have unlimited : limit = none := by
          cases limit with
          | none => rfl
          | some m =>
            have kept := (within m rfl).2
            simp only [Within, resetting] at kept
            exact absurd mem kept
        rw [single_move, show (Phase.listingPending request).stage d = .outside from rfl,
          Single.moveTo_self outside, found_setDeliveries]
        cases found : s.found d with
        | none =>
          refine .inl ?_
          rw [show s.deliveries.find? (·.id = d) = none from found]
          simp only [State.single, found, Option.map_none]
        | some row =>
          have chosen : deliveryIds.contains row.id = true := by
            rw [found_id found]
            simpa using mem
          rw [show s.deliveries.find? (·.id = d) = some row from found, Option.map_some, Option.map_some,
            if_pos chosen]
          exact .inr (.reset unlimited _ (entry_of_found found) (sending row found) free unconfirmed)
      · obtain ⟨row, arrives⟩ := callStep_other outside (fun send point same => place ⟨send, point, same⟩)
          (fun request deliveryIds same mem => resets ⟨request, deliveryIds, same, mem⟩) stepped
        exact .inl (single_same (congrArg _ row) (arrives.trans outside.symm))
  | refuse call error =>
    simp only [step] at stepped
    split at stepped
    swap
    · cases stepped
    rename_i send place
    simp only [Option.ite_none_right_eq_some, Option.some.injEq] at stepped
    obtain ⟨live, rfl⟩ := stepped
    by_cases own : send.deliveryId = d
    · refine .inr ?_
      rw [show State.single d (s.moveTo call (.returned (.raised error))) = _ from
        single_move call (.returned (.raised error)) s.deliveries]
      refine .leave call send.maxAttempts live ?_
      change (s.phase call).stage d = _
      rw [place]
      exact if_pos own
    · refine .inl (single_same rfl ?_)
      rw [place]
      exact (if_neg own).symm
  | answer call outcome =>
    simp only [step] at stepped
    split at stepped
    swap
    · cases stepped
    rename_i send row payload place
    simp only [Option.ite_none_right_eq_some] at stepped
    obtain ⟨live, stepped⟩ := stepped
    have stage : (s.single d).stage call = if send.deliveryId = d then
        .posting send.maxAttempts row.attemptCount else .outside := by
      change (s.phase call).stage d = _
      rw [place]
      rfl
    have posted : ∀ (point : Point) (confirmed : Option String), State.single d
        { s.moveTo call (.sending send point) with
          posts := s.posts ++ [send.post row payload confirmed] } =
        { (s.single d).moveTo call ((Phase.sending send point).stage d) with
          posts := (s.single d).posts ++
            if send.deliveryId = d then [confirmed.isSome] else [] } := by
      intro point confirmed
      have moved := single_move (d := d) (s := s) call (.sending send point) s.deliveries
      have stage := congrArg Single.stage moved
      refine Single.ext rfl ?_ rfl stage rfl
      simp only [State.single, Send.post, List.filter_append, List.map_append]
      by_cases own : send.deliveryId = d <;> simp [own]
    cases outcome with
    | ok platformMessageId =>
      cases stepped
      rw [posted]
      by_cases own : send.deliveryId = d
      · rw [if_pos own, show (Phase.sending send (.recordingSent platformMessageId)).stage d =
          .confirmed from if_pos own]
        rw [if_pos own] at stage
        exact .inr (.confirm call _ _ live stage)
      · rw [if_neg own, List.append_nil, show (Phase.sending send
          (.recordingSent platformMessageId)).stage d = .outside from if_neg own]
        rw [if_neg own] at stage
        exact .inl (Single.moveTo_self stage)
    | error error =>
      cases stepped
      rw [posted]
      by_cases own : send.deliveryId = d
      · rw [if_pos own, show (Phase.sending send (.recordingFailed row error)).stage d =
          .failing send.maxAttempts row.attemptCount from if_pos own]
        rw [if_pos own] at stage
        exact .inr (.reject call _ _ live stage)
      · rw [if_neg own, List.append_nil, show (Phase.sending send
          (.recordingFailed row error)).stage d = .outside from if_neg own]
        rw [if_neg own] at stage
        exact .inl (Single.moveTo_self stage)
  | stop call =>
    simp only [step, Option.ite_none_right_eq_some, Option.some.injEq] at stepped
    obtain ⟨live, rfl⟩ := stepped
    refine .inr ?_
    have lost : (s.lost ++ (s.phase call).unposted.toList).count d =
        if ((s.single d).stage call).unposted then (s.single d).lost + 1 else (s.single d).lost := by
      rw [List.count_append]
      exact count_unposted
    have single : State.single d { s with
        alive := Function.update s.alive call false
        lost := s.lost ++ (s.phase call).unposted.toList } =
      { s.single d with
        alive := Function.update s.alive call false
        lost := (s.lost ++ (s.phase call).unposted.toList).count d } := rfl
    rw [single, lost]
    exact .stop call live

theorem within_next {m : Int} (three : 3 ≤ m) (loop : Loop) : (Loop.next loop).Within m := by
  unfold Loop.next
  split
  · trivial
  · exact ⟨three, fun _ => three⟩

theorem within_resume {m : Int} {next : Except Exn Phase}
    (goes : ∀ phase, next = .ok phase → phase.Within m) : (resume next).Within m := by
  cases next with
  | ok phase => exact goes phase rfl
  | error e => trivial

theorem sendStep_within {m : Int} {deliveries next : Table deliverySchema} {send : Send}
    {point : Point} {phase : Phase} (holds : (Phase.sending send point).Within m)
    (stepped : sendStep deliveries send point = some (next, phase)) : phase.Within m := by
  cases point with
  | checking =>
    cases stepped
    refine within_resume fun phase went => ?_
    obtain ⟨row, -, went⟩ := Except.bind_ok.mp went
    obtain ⟨_, -, went⟩ := Except.bind_ok.mp went
    cases went
    exact holds
  | counting =>
    cases stepped
    refine within_resume fun phase went => ?_
    obtain ⟨row, -, went⟩ := Except.bind_ok.mp went
    cases went
    exact holds
  | rereading =>
    cases stepped
    refine within_resume fun phase went => ?_
    obtain ⟨row, -, went⟩ := Except.bind_ok.mp went
    cases went
    unfold Send.prepare
    split <;> exact holds
  | reporting sent =>
    cases stepped
    refine within_resume fun phase went => ?_
    obtain ⟨row, -, went⟩ := Except.bind_ok.mp went
    obtain ⟨delivery, -, went⟩ := Except.bind_ok.mp went
    cases went
    unfold Send.finish
    split
    · trivial
    · rename_i loop looping
      exact within_next (holds.2 (by rw [looping]; nofun)) _
  | posting row payload => cases stepped
  | choosing | marking | recordingFailed | recordingSent =>
    cases stepped
    exact holds

theorem callStep_within {m : Int} {deliveries next : Table deliverySchema} {phase after : Phase}
    (holds : phase.Within m) (stepped : callStep deliveries phase = some (next, after)) :
    after.Within m := by
  cases phase with
  | idle => cases stepped
  | recovering request =>
    cases stepped
    refine within_resume fun phase went => ?_
    obtain ⟨rows, -, went⟩ := Except.bind_ok.mp went
    cases went
    exact holds
  | resetting request deliveryIds =>
    cases stepped
    exact holds
  | listingPending request =>
    cases stepped
    exact holds
  | listingFailed request pending =>
    cases stepped
    refine within_resume fun phase went => ?_
    obtain ⟨rows, -, went⟩ := Except.bind_ok.mp went
    cases went
    exact within_next holds _
  | sending send point => exact sendStep_within holds stepped
  | returned outcome => cases stepped

/-- Calls that start within the limit stay within it. -/
theorem within_step {m : Int} {label : Label} (holds : ∀ call, (s.phase call).Within m)
    (within : Within m d s label) (stepped : step s label = some u) :
    ∀ call, (u.phase call).Within m := by
  have moved : ∀ {call : Nat} {phase : Phase}, phase.Within m →
      ∀ other, (Function.update s.phase call phase other).Within m := by
    intro call phase arrives other
    by_cases same : other = call
    · rw [same, Function.update_self]
      exact arrives
    · rw [Function.update_of_ne same]
      exact holds other
  cases label with
  | create row =>
    simp only [step, Option.ite_none_right_eq_some, Option.map_eq_some_iff] at stepped
    obtain ⟨_, deliveries, _, rfl⟩ := stepped
    exact holds
  | start call request =>
    simp only [step, Option.ite_none_right_eq_some, Option.some.injEq] at stepped
    obtain ⟨_, rfl⟩ := stepped
    cases request with
    | send request => exact moved ⟨within, nofun⟩
    | pump request =>
      refine moved ?_
      simp only [Request.begin]
      split <;> exact within
  | proceed call =>
    simp only [step, Option.ite_none_right_eq_some, Option.map_eq_some_iff, Prod.exists] at stepped
    obtain ⟨_, deliveries, phase, stepped, rfl⟩ := stepped
    exact moved (callStep_within (holds call) stepped)
  | refuse call error =>
    simp only [step] at stepped
    split at stepped
    · simp only [Option.ite_none_right_eq_some, Option.some.injEq] at stepped
      obtain ⟨_, rfl⟩ := stepped
      exact moved trivial
    · cases stepped
  | answer call outcome =>
    simp only [step] at stepped
    split at stepped
    · rename_i send row payload place
      have sends := holds call
      rw [place] at sends
      simp only [Option.ite_none_right_eq_some] at stepped
      obtain ⟨_, stepped⟩ := stepped
      cases outcome with
      | ok platformMessageId =>
        cases stepped
        exact moved sends
      | error error =>
        cases stepped
        exact moved sends
    · cases stepped
  | stop call =>
    simp only [step, Option.ite_none_right_eq_some, Option.some.injEq] at stepped
    obtain ⟨_, rfl⟩ := stepped
    exact holds

end Simulation

end Coordinate.Sending
