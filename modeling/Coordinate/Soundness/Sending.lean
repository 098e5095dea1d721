import Coordinate.Proofs.Sending

/-! # The law of a generic delivery

In every run whose markings still find the row that was tested, and whose recoveries meet no call that
is sending, one call at a time sends a delivery, its posts are its counted attempts, its final
statuses are final, a confirmed post is never recorded as failed, and without recovery no delivery is
posted more often than `max_attempts`. Two calls that have both tested a pending row break the law.
-/

namespace Coordinate.Sending

variable {s t u : State} {d : String}

/-- How often the delivery was posted. -/
def State.postsOf (s : State) (d : String) : Nat := s.posts.countP (·.deliveryId = d)

def State.attemptsOf (s : State) (d : String) : Nat :=
  ((s.found d).map (·.attemptCount)).getD 0

/-- A live call has marked the row and not yet recorded its outcome. -/
def InFlight (s : State) (d : String) (call : Nat) : Prop :=
  s.alive call = true ∧ ((s.phase call).stage d).inFlight = true

/-- A live call has counted its attempt and not yet posted. -/
def Unposted (s : State) (d : String) (call : Nat) : Prop :=
  s.alive call = true ∧ ((s.phase call).stage d).unposted = true

/-- The law of one delivery in one state. Attempts of calls that stopped before their post stay
counted. -/
structure Lawful (s : State) (d : String) : Prop where
  alone : ∀ p q, InFlight s d p → InFlight s d q → p = q
  counted : (∀ call, ¬ Unposted s d call) → s.postsOf d + s.lost.count d = s.attemptsOf d
  counting : ∀ call, Unposted s d call → s.postsOf d + s.lost.count d + 1 = s.attemptsOf d
  confirmed : ∀ post ∈ s.posts, post.deliveryId = d → post.confirmed ≠ none →
    ∀ row, s.found d = some row → row.status ≠ "failed" ∧ row.status ≠ "dead"

/-- A row that is sent or dead keeps its status and is not posted again. -/
def Settled (s u : State) (d : String) : Prop :=
  ∀ row, s.found d = some row → row.status = "sent" ∨ row.status = "dead" →
    (∃ later, u.found d = some later ∧ later.status = row.status) ∧ u.postsOf d = s.postsOf d

theorem length_posts (s : State) (d : String) : (s.single d).posts.length = s.postsOf d := by
  rw [State.postsOf, List.countP_eq_length_filter, State.single, List.length_map]

theorem single_attempts (s : State) (d : String) : (s.single d).attempts = s.attemptsOf d := by
  rw [State.attemptsOf, Single.attempts, State.single, Option.map_map]
  rfl

theorem Single.Kept.lawful (kept : (s.single d).Kept) : Lawful s d where
  alone := kept.alone
  counted free := by
    rw [← length_posts, ← single_attempts]
    exact kept.counted free
  counting call waiting := by
    rw [← length_posts, ← single_attempts]
    exact kept.counting call waiting
  confirmed post posted same returned row found := by
    have mem : true ∈ (s.single d).posts := by
      refine List.mem_map.mpr ⟨post, List.mem_filter.mpr ⟨posted, by simpa using same⟩, ?_⟩
      exact Option.isSome_iff_ne_none.mpr returned
    obtain ⟨⟨entry, has, status⟩, -⟩ := kept.confirmed mem
    rw [entry_of_found found] at has
    cases has
    change row.status = "sending" ∨ row.status = "sent" at status
    rcases status with sending | sent
    · rw [sending]
      decide
    · rw [sent]
      decide

theorem start_kept (d : String) : (start.single d).Kept where
  sending _ flies := absurd flies.2 Bool.false_ne_true
  alone _ _ first := absurd first.2 Bool.false_ne_true
  parses _ _ ready := by cases ready
  own _ flies := absurd flies.2 Bool.false_ne_true
  counted _ := rfl
  counting _ waiting := absurd waiting.2 Bool.false_ne_true
  confirmed mem := absurd mem List.not_mem_nil

/-- The run lemma. -/
theorem kept_of_run (run : calls.Reaches (Careful d) start s) : (s.single d).Kept := by
  refine run.invariant (P := fun t => (t.single d).Kept)
    (fun t label u kept careful stepped => ?_) (start_kept d)
  obtain same | step := @single_step _ _ _ none _ kept careful nofun stepped
  · rwa [same]
  · exact kept.step step

/-- The run lemma of the runs without recovery. -/
theorem bounded_of_run {m : Int} (positive : 1 ≤ m)
    (run : calls.Reaches (fun s label => Careful d s label ∧ Within m d s label) start s) :
    (s.single d).Kept ∧ (s.single d).Bounded m ∧ ∀ call, (s.phase call).Within m := by
  refine run.invariant
    (P := fun t => (t.single d).Kept ∧ (t.single d).Bounded m ∧ ∀ call, (t.phase call).Within m)
    (fun t label u holds meets stepped => ?_)
    ⟨start_kept d, ⟨show (0 : Int) ≤ m by omega, nofun, fun _ => nofun⟩, fun _ => trivial⟩
  obtain ⟨kept, bounded, within⟩ := holds
  have next := within_step within meets.2 stepped
  have limited : ∀ own ∈ some m, (∀ call, (t.phase call).Within own) ∧ Within own d t label := by
    rintro _ ⟨⟩
    exact ⟨within, meets.2⟩
  obtain same | step := single_step kept meets.1 limited stepped
  · rw [same]
    exact ⟨kept, bounded, next⟩
  · exact ⟨kept.step step, bounded.step positive kept step, next⟩

/-- **A generic delivery.** In every careful run the law holds of the delivery in every state that is
reached, no careful step changes a final status or posts a final row, and if no call may try more
than `m` times and none recovers the delivery, it is posted at most `m` times. -/
theorem delivery_lawful (run : calls.Reaches (Careful d) start s) :
    Lawful s d ∧
    (∀ label u, calls.step s label = some u → Careful d s label → Settled s u d) ∧
    ∀ m : Int, 1 ≤ m →
      calls.Reaches (fun t label => Careful d t label ∧ Within m d t label) start s →
      (s.postsOf d : Int) ≤ m := by
  have kept := kept_of_run run
  refine ⟨kept.lawful, fun label u stepped careful row found final => ?_, fun m positive limited => ?_⟩
  · have has := entry_of_found found
    obtain same | step := @single_step _ _ _ none _ kept careful nofun stepped
    · rw [← same] at has
      obtain ⟨later, laterFound, entry⟩ := found_of_entry has
      refine ⟨⟨later, laterFound, congrArg Entry.status entry⟩, ?_⟩
      rw [← length_posts, ← length_posts, same]
    · obtain ⟨entry, posts⟩ := kept.settled step has final
      obtain ⟨later, laterFound, same⟩ := found_of_entry entry
      refine ⟨⟨later, laterFound, congrArg Entry.status same⟩, ?_⟩
      rw [← length_posts, ← length_posts, posts]
  · obtain ⟨kept, bounded, -⟩ := bounded_of_run positive limited
    have total := bounded.attempts
    have posted : s.postsOf d ≤ (s.single d).attempts := by
      rw [← length_posts]
      by_cases waiting : ∃ call, (s.single d).Unposted call
      · obtain ⟨call, waiting⟩ := waiting
        have := kept.counting call waiting
        omega
      · have := kept.counted fun call open_ => waiting ⟨call, open_⟩
        omega
    omega

namespace Sample

def row : DeliveryRow where
  id := "d"
  eventId := none
  platform := "stdout"
  destination := "local"
  messageKey := "m"
  status := "pending"
  payloadJson := .value (.obj [("text", .str "hello")])
  createdAt := 0

/-- The markings that find the row as it was read, and no recovery. -/
def passes (s : State) : Label → Bool
  | .proceed call =>
    match s.phase call with
    | .sending _ (.marking attemptCount) => (s.found "d").any fun row =>
        (row.status = "pending" || row.status = "failed") && row.attemptCount = attemptCount
    | .resetting .. => false
    | _ => true
  | .start _ (.send request) => request.maxAttempts ≤ 3
  | _ => true

theorem passes_careful (s : State) (label : Label) (passed : passes s label = true) :
    Careful "d" s label ∧ Within 3 "d" s label := by
  cases label with
  | proceed call =>
    simp only [passes] at passed
    simp only [Careful, Within]
    cases place : s.phase call with
    | sending send point =>
      rw [place] at passed
      cases point with
      | marking attemptCount =>
        refine ⟨fun _ => ?_, trivial⟩
        simpa [Option.any_eq_true] using passed
      | _ => exact ⟨trivial, trivial⟩
    | resetting request deliveryIds =>
      rw [place] at passed
      cases passed
    | _ => exact ⟨trivial, trivial⟩
  | start call request =>
    cases request with
    | send request => exact ⟨trivial, of_decide_eq_true (p := request.maxAttempts ≤ 3) passed⟩
    | pump request => exact ⟨trivial, Int.le_refl 3⟩
  | _ => exact ⟨trivial, trivial⟩

/-- A send that fails, and a pump that sends the row again. -/
def retry : List Label :=
  [.create row, .start 0 (.send ⟨"d", 3⟩)] ++ List.replicate 5 (.proceed 0) ++
    [.answer 0 (.error "offline"), .proceed 0, .proceed 0, .start 1 (.pump {})] ++
    List.replicate 7 (.proceed 1) ++ [.answer 1 (.ok "1"), .proceed 1, .proceed 1]

theorem retry_lawful : ∃ s, s.attemptsOf "d" = 2 ∧ Lawful s "d" ∧ (s.postsOf "d" : Int) ≤ 3 := by
  obtain ⟨s, limited, attempts⟩ : ∃ s,
      calls.Reaches (fun t label => Careful "d" t label ∧ Within 3 "d" t label) start s ∧
      decide (s.attemptsOf "d" = 2) = true :=
    @Machine.exists_reaches _ _ _ _ _ passes _ passes_careful retry (by decide +kernel)
  have careful : calls.Reaches (Careful "d") start s := limited.mono fun _ _ meets => meets.1
  obtain ⟨lawful, -, bounded⟩ := delivery_lawful careful
  exact ⟨s, of_decide_eq_true attempts, lawful, bounded 3 (by decide) limited⟩

/-- Two calls that have both tested the pending row. -/
def race : List Label :=
  [.create row, .start 0 (.send ⟨"d", 3⟩), .start 1 (.send ⟨"d", 3⟩), .proceed 0, .proceed 1,
    .proceed 0, .proceed 1, .proceed 0, .proceed 1, .proceed 0, .proceed 1]

/-- Both post; the second answer fails a row that is sent. -/
def collide : List Label :=
  [.proceed 0, .proceed 1, .answer 0 (.ok "1"), .proceed 0, .answer 1 (.error "offline"), .proceed 1]

/-- Two calls are in flight at once, then a sent row of two posts and one attempt is failed. -/
theorem race_not_lawful : ∃ s t, calls.Reaches Machine.anyStep start s ∧
    InFlight s "d" 0 ∧ InFlight s "d" 1 ∧ calls.Reaches Machine.anyStep s t ∧
    t.postsOf "d" = 2 ∧ t.attemptsOf "d" = 1 ∧ (t.found "d").map (·.status) = some "failed" ∧
    t.posts.any (·.confirmed.isSome) = true := by
  have raced : ∃ s t, calls.run start race = some s ∧ InFlight s "d" 0 ∧ InFlight s "d" 1 ∧
      calls.run s collide = some t ∧ t.postsOf "d" = 2 ∧ t.attemptsOf "d" = 1 ∧
      (t.found "d").map (·.status) = some "failed" ∧
      t.posts.any (·.confirmed.isSome) = true :=
    ⟨_, _, rfl, ⟨rfl, rfl⟩, ⟨rfl, rfl⟩, rfl, rfl, rfl, rfl, rfl⟩
  obtain ⟨s, t, ran, first, second, after, rest⟩ := raced
  exact ⟨s, t, Machine.reaches_of_run ran, first, second, Machine.reaches_of_run after, rest⟩

end Sample

end Coordinate.Sending
