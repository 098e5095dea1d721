import Coordinate.Model.Installation
import Coordinate.Proofs.ChannelPages

/-! # Cursors leave no gap

A chain of successful reads and waits, each with the cursor that the last one has returned, shows the
messages of the channel between its first cursor and the last message, in order and each of them once,
whatever is added to the channel meanwhile. A wait says that its time is over only after a complete read
of an empty page.
-/

namespace Coordinate

/-- The cursor text names a message id. -/
def CursorText.Names (cursor : CursorText) (id : Nat) : Prop :=
  ∃ value, cursor = .encoded value ∧ value.get "last_message_id" = .str (toString id)

namespace ChannelMessages

open Calling DiscordHistory

theorem names_unique {cursor : CursorText} {a b : Nat} (first : cursor.Names a)
    (second : cursor.Names b) : a = b := by
  obtain ⟨value, rfl, named⟩ := first
  obtain ⟨_, ⟨⟩, other⟩ := second
  exact toString_injective (named.symm.trans other)

theorem encodeCursor_names {input : Input} {last id : Nat}
    (named : (encodeCursor input last).Names id) : id = last := by
  obtain ⟨value, encoded, named⟩ := named
  unfold encodeCursor at encoded
  dsimp only at encoded
  split at encoded
  · cases encoded
  · cases encoded
    exact (toString_injective named).symm

theorem decodeCursor_names {cursor : CursorText} {input : Input} {id : Nat}
    (decoded : decodeCursor cursor input = .ok id) : cursor.Names id := by
  cases cursor with
  | unreadable => cases decoded
  | encoded value =>
    unfold decodeCursor at decoded
    simp only [Except.bind_ok, orRaise_except_ok] at decoded
    obtain ⟨_, read, _, _, last, scanned, _, _, _, _, same⟩ := decoded
    cases read
    cases same
    exact ⟨value, rfl, snowflake_ok scanned⟩

/-- The message id after which a call reads. -/
structure Starts (input : Input) (after : Option Nat) : Prop where
  fresh : input.afterCursor = none → after = none
  named : ∀ cursor, input.afterCursor = some cursor → ∃ id, cursor.Names id ∧ after = some id

theorem checkInput_ok {input : Input} {operation : Operation} {request : Request}
    (checked : checkInput input operation = .ok request) :
    request.toInput = input ∧ Starts input request.afterMessageId := by
  unfold checkInput at checked
  simp only [Except.bind_ok] at checked
  obtain ⟨_, _, _, _, _, _, _, _, after, decoded, _, _, _, _, same⟩ := checked
  cases same
  refine ⟨rfl, ⟨fun none => ?_, fun cursor given => ?_⟩⟩
  · rw [none] at decoded
    cases decoded
    rfl
  · rw [given] at decoded
    obtain ⟨id, read, same⟩ := Except.bind_ok.mp decoded
    cases same
    exact ⟨id, decodeCursor_names read, rfl⟩

section Calls

variable [Platform] [ChannelHost] {request : Request} {principal : Option ChannelPrincipal}
  {deadline : Rat} {n m : Nat} {data : Data}

theorem forward_authorize (operation : Operation) :
    Forward (authorize request principal operation) :=
  forward_bind (forward_lift _) fun _ => forward_bind (forward_reading _) fun _ =>
    forward_bind (forward_lift _) fun _ => forward_lift _

omit [Platform] in
theorem forward_waitFor {α : Type} {body : Rat → Calling α} (forward : ∀ budget, Forward (body budget)) :
    Forward (waitFor deadline body) :=
  forward_bind (forward_reading _) fun _ => forward_bind (forward_lift _) fun _ =>
    forward_bind (forward_reading _) fun _ => forward_bind (forward_lift _) fun _ => forward _

theorem forward_waitAuthorize : Forward (waitAuthorize request principal deadline) :=
  forward_bind (forward_waitFor fun _ => forward_authorize _) fun _ =>
    forward_bind (forward_reading _) fun _ => forward_lift _

omit [Platform] in
theorem forward_pageOf (timeout : Rat) : Forward (pageOf request timeout) :=
  forward_readPage _ _ _ _

omit [Platform] in
theorem waitFor_ok {α : Type} {body : Rat → Calling α} {a : α}
    (ran : waitFor deadline body n = .ok a m) :
    ∃ budget, ∃ k ≥ n, body budget k = .ok a m := by
  unfold waitFor clock at ran
  simp only [bind_ok, reading_ok, lift_ok] at ran
  obtain ⟨_, _, ⟨_, rfl⟩, _, _, ⟨_, rfl⟩, _, _, ⟨_, rfl⟩, _, _, ⟨_, rfl⟩, ran⟩ := ran
  exact ⟨_, _, by omega, ran⟩

/-- The call has read a page to the end between two readings. -/
def CompleteRead (request : Request) (n m : Nat) (page : Page) : Prop :=
  ∃ timeout k j, n ≤ k ∧ j ≤ m ∧ pageOf request timeout k = .ok page j

omit [Platform] in
theorem CompleteRead.mono {page : Page} {n' m' : Nat} (read : CompleteRead request n m page)
    (start : n' ≤ n) (stop : m ≤ m') : CompleteRead request n' m' page := by
  obtain ⟨timeout, k, j, after, before, ran⟩ := read
  exact ⟨timeout, k, j, by omega, by omega, ran⟩

theorem forward_authorizeRound (first : Bool) :
    Forward (authorizeRound request principal deadline first) := by
  cases first
  · exact forward_waitAuthorize
  · exact forward_pure ()

theorem forward_waitPage (first : Bool) : Forward (waitPage request principal deadline first) :=
  forward_bind (forward_authorizeRound first) fun _ =>
    forward_bind (forward_waitFor forward_pageOf) fun _ =>
      forward_bind forward_waitAuthorize fun _ => forward_pure _

theorem waitPage_ok {first : Bool} {page : Page}
    (ran : waitPage request principal deadline first n = .ok page m) :
    CompleteRead request n m page := by
  unfold waitPage at ran
  obtain ⟨_, k₁, started, ran⟩ := bind_ok.mp ran
  obtain ⟨_, k₂, read, ran⟩ := bind_ok.mp ran
  obtain ⟨_, k₃, authorized, ran⟩ := bind_ok.mp ran
  obtain ⟨rfl, rfl⟩ := pure_ok.mp ran
  obtain ⟨budget, k, later, read⟩ := waitFor_ok read
  have after := forward_waitAuthorize.ok authorized
  have before := (forward_authorizeRound first).ok started
  exact ⟨budget, k, k₂, by omega, by omega, read⟩

/-- The response of a wait that has read pages since the reading `n`. -/
def Answers (request : Request) (n m : Nat) (data : Data) : Prop :=
  ∃ page status, CompleteRead request n m page ∧ data = (resultOf request page).ended status ∧
    (status = .timeout → page.messages = [])

/-- The result that a wait keeps is that of a complete empty read. -/
def Empty (request : Request) (n m : Nat) (data : Data) : Prop :=
  ∃ page, CompleteRead request n m page ∧ page.messages = [] ∧ data = resultOf request page

omit [Platform] in
theorem Empty.answers {k : Nat} (empty : Empty request n m data) (later : m ≤ k) :
    Answers request n k (data.ended .timeout) := by
  obtain ⟨page, read, none, rfl⟩ := empty
  exact ⟨page, .timeout, read.mono (Nat.le_refl n) later, rfl, fun _ => none⟩

omit [Platform] in
theorem timedOut_ok {result : Option Data} {k : Nat} (kept : ∀ data ∈ result, Empty request n m data)
    (later : m ≤ k) {j : Nat} (ran : timedOut result k = .ok data j) : Answers request n j data := by
  cases result with
  | none => cases ran
  | some result =>
    obtain ⟨rfl, rfl⟩ := pure_ok.mp ran
    exact (kept result rfl).answers later

/-- The induction is on the rounds; its invariant is that only the result of an empty read is kept. -/
theorem waitLoop_ok {start : Nat} {rounds : Nat} {result : Option Data} {n m : Nat} (begun : start ≤ n)
    (kept : ∀ data ∈ result, Empty request start n data)
    (ran : waitLoop request principal deadline rounds result n = .ok data m) :
    Answers request start m data := by
  induction rounds generalizing result n with
  | zero => cases ran
  | succ rounds ih =>
    unfold waitLoop at ran
    obtain ⟨now, _, first, ran⟩ := bind_ok.mp ran
    obtain ⟨_, rfl⟩ := reading_ok.mp first
    split at ran
    · exact timedOut_ok kept (by omega) ran
    · obtain ⟨page, k, tried, ran⟩ := bind_ok.mp ran
      have forward : n + 1 ≤ k := (forward_tryCatch (forward_map (forward_waitPage _)) fun e => by
        split
        · exact forward_pure _
        · exact forward_throw e).ok tried
      cases page with
      | none => exact timedOut_ok kept (by omega) ran
      | some page =>
        have read : CompleteRead request start k page := by
          rcases tryCatch_ok.mp tried with read | ⟨e, _, _, handled⟩
          · obtain ⟨_, read, ⟨⟩⟩ := map_ok.mp read
            exact (waitPage_ok read).mono (by omega) (Nat.le_refl k)
          · split at handled
            · cases (pure_ok.mp handled).1
            · cases handled
        dsimp only at ran
        split at ran
        · rename_i shown
          obtain ⟨rfl, rfl⟩ := pure_ok.mp ran
          exact ⟨page, .messages, read, rfl, nofun⟩
        · rename_i none
          rw [not_not] at none
          obtain ⟨later, _, first, ran⟩ := bind_ok.mp ran
          obtain ⟨_, rfl⟩ := reading_ok.mp first
          have empty : Empty request start k (resultOf request page) := ⟨page, read, none, rfl⟩
          split at ran
          · obtain ⟨rfl, rfl⟩ := pure_ok.mp ran
            exact empty.answers (by omega)
          · refine ih (by omega) ?_ ran
            rintro _ ⟨⟩
            obtain ⟨page, read, none, same⟩ := empty
            exact ⟨page, read.mono (Nat.le_refl _) (by omega), none, same⟩

omit [Platform] [ChannelHost] in
theorem envelope_ok {body : Calling Data} (ran : envelope body n = .ok (.ok data) m) :
    body n = .ok data m := by
  rcases tryCatch_ok.mp ran with done | ⟨e, k, _, handled⟩
  · obtain ⟨_, done, ⟨⟩⟩ := map_ok.mp done
    exact done
  · split at handled
    · cases (pure_ok.mp handled).1
    · cases (pure_ok.mp handled).1
    · cases handled

/-- A successful call has read one page to the end, and answers with it. -/
structure Succeeded (call : Call) (n m : Nat) (data : Data) (request : Request) (page : Page) :
    Prop where
  input : request.toInput = call.input
  starts : Starts call.input request.afterMessageId
  read : CompleteRead request n m page
  messages : data.messages = page.messages
  hasMore : data.hasMore = page.hasMore
  nextCursor : data.nextCursor = (resultOf request page).nextCursor
  timeout : data.status = some .timeout → page.messages = []

theorem read_succeeded {input : Input} (ran : read input principal n = .ok (.ok data) m) :
    ∃ request page, Succeeded (.read input principal) n m data request page := by
  have ran := envelope_ok ran
  obtain ⟨request, _, first, ran⟩ := bind_ok.mp ran
  obtain ⟨checked, rfl⟩ := lift_ok.mp first
  obtain ⟨_, k₁, authorized, ran⟩ := bind_ok.mp ran
  obtain ⟨client, _, first, ran⟩ := bind_ok.mp ran
  obtain ⟨_, rfl⟩ := lift_ok.mp first
  obtain ⟨_, _, first, ran⟩ := bind_ok.mp ran
  obtain ⟨_, rfl⟩ := reading_ok.mp first
  obtain ⟨page, k₂, paged, ran⟩ := bind_ok.mp ran
  obtain ⟨_, k₃, again, ran⟩ := bind_ok.mp ran
  obtain ⟨rfl, rfl⟩ := pure_ok.mp ran
  have begun := (forward_authorize _).ok authorized
  have ended := (forward_authorize _).ok again
  obtain ⟨same, starts⟩ := checkInput_ok checked
  exact ⟨request, page, same, starts, ⟨30, _, _, by omega, ended, paged⟩, rfl, rfl, rfl, nofun⟩

theorem wait_succeeded {rounds : Nat} {input : Input}
    (ran : wait rounds input principal n = .ok (.ok data) m) :
    ∃ request page, Succeeded (.wait rounds input principal) n m data request page := by
  obtain ⟨started, _, first, ran⟩ := bind_ok.mp ran
  obtain ⟨_, rfl⟩ := reading_ok.mp first
  have ran := envelope_ok ran
  obtain ⟨request, _, first, ran⟩ := bind_ok.mp ran
  obtain ⟨checked, rfl⟩ := lift_ok.mp first
  obtain ⟨client, _, first, ran⟩ := bind_ok.mp ran
  obtain ⟨_, rfl⟩ := lift_ok.mp first
  obtain ⟨⟨total, own⟩, _, first, ran⟩ := bind_ok.mp ran
  obtain ⟨_, rfl⟩ := reading_ok.mp first
  obtain ⟨_, _, first, ran⟩ := bind_ok.mp ran
  obtain ⟨_, rfl⟩ := lift_ok.mp first
  obtain ⟨_, k₁, authorized, ran⟩ := bind_ok.mp ran
  obtain ⟨_, k₂, resolved, ran⟩ := bind_ok.mp ran
  have begun := forward_waitAuthorize.ok authorized
  have opened := (forward_waitFor fun _ => forward_reading _).ok resolved
  obtain ⟨page, status, complete, rfl, timeout⟩ := waitLoop_ok (Nat.le_refl k₂) (by rintro _ ⟨⟩) ran
  obtain ⟨same, starts⟩ := checkInput_ok checked
  exact ⟨request, page, same, starts, complete.mono (by omega) (Nat.le_refl m), rfl, rfl, rfl,
    fun ended => timeout (Option.some.inj ended)⟩

theorem run_succeeded {call : Call} (ran : call.run n = .ok (.ok data) m) :
    ∃ request page, Succeeded call n m data request page := by
  cases call with
  | read input principal => exact read_succeeded ran
  | wait rounds input principal => exact wait_succeeded ran

theorem forward_run {call : Call} (ran : call.run n = .ok (.ok data) m) : n ≤ m := by
  obtain ⟨request, page, succeeded⟩ := run_succeeded ran
  obtain ⟨timeout, k, j, after, before, read⟩ := succeeded.read
  have := (forward_pageOf timeout).ok read
  omega

end Calls

section Chains

variable [Platform] [ChannelHost] {channelId : String} {feeds : Nat → Feed Nat} {n m : Nat}
  {cursor : Option CursorText} {calls : List (Call × Data)}

def idsOf (data : Data) : List Nat := data.messages.map (·.messageId)

/-- All that a chain of calls has shown. -/
def shownBy (calls : List (Call × Data)) : List Nat := calls.flatMap fun entry => idsOf entry.2

/-- What one call of a chain between two readings says about the channel. -/
structure Exact (channelId : String) (feeds : Nat → Feed Nat) (n m : Nat) (call : Call) (data : Data)
    (after : Option Nat) : Prop where
  starts : Starts call.input after
  bounded : data.messages.length ≤ call.input.limit
  looked : ∃ k j, n ≤ k ∧ k ≤ j ∧ j ≤ m ∧
    Looked feeds k j after call.input.limit (idsOf data) data.hasMore
  /-- the cursor goes to the last message of the page and no further -/
  moved : ∀ id, data.nextCursor.Names id → id = reached after (idsOf data)
  /-- the time of a wait is over after a complete read of an empty page only -/
  timeout : data.status = some .timeout → data.messages = [] ∧
    ∃ page timeout k j, n ≤ k ∧ j ≤ m ∧ page.messages = [] ∧
      readPage channelId after call.input.limit timeout k = .ok page j

omit [Platform] in
theorem Succeeded.shown {call : Call} {data : Data} {request : Request} {page : Page}
    (serves : Serves channelId feeds) (channel : call.input.channelId = channelId)
    (succeeded : Succeeded call n m data request page) :
    Shown feeds n m request.afterMessageId call.input.limit page := by
  obtain ⟨timeout, k, j, after, before, read⟩ := succeeded.read
  rw [pageOf, succeeded.input, channel] at read
  obtain ⟨bounded, k', j', first, second, third, looked⟩ := readPage_shown serves read
  exact ⟨bounded, k', j', by omega, second, by omega, looked⟩

omit [Platform] in
theorem Succeeded.exact {call : Call} {data : Data} {request : Request} {page : Page}
    (serves : Serves channelId feeds) (channel : call.input.channelId = channelId)
    (succeeded : Succeeded call n m data request page) :
    Exact channelId feeds n m call data request.afterMessageId := by
  have shown := succeeded.shown serves channel
  have ids : idsOf data = page.messages.map (·.messageId) := by rw [idsOf, succeeded.messages]
  refine ⟨succeeded.starts, ?_, ?_, fun id named => ?_, fun ended => ?_⟩
  · obtain ⟨k, _, _, _, _, looked⟩ := shown.looked
    have length := congrArg List.length looked.page
    rw [List.length_map] at length
    rw [succeeded.messages, length]
    have positive := shown.bounded.1
    unfold pageIds
    split
    · rw [List.length_take]
      omega
    · rw [Feed.newest, List.length_drop]
      omega
  · rw [ids, succeeded.hasMore]
    exact shown.looked
  · rw [ids, reached, List.getLast?_map]
    rw [succeeded.nextCursor, resultOf] at named
    cases last : page.messages.getLast? with
    | some message =>
      rw [last] at named
      exact encodeCursor_names named
    | none =>
      rw [last] at named
      cases given : call.input.afterCursor with
      | none =>
        rw [show request.afterCursor = none by rw [succeeded.input, given]] at named
        rw [succeeded.starts.fresh given]
        exact encodeCursor_names named
      | some cursor =>
        rw [show request.afterCursor = some cursor by rw [succeeded.input, given]] at named
        obtain ⟨start, names, same⟩ := succeeded.starts.named cursor given
        rw [same]
        exact names_unique named names
  · obtain ⟨timeout, k, j, after, before, read⟩ := succeeded.read
    rw [pageOf, succeeded.input, channel] at read
    have empty := succeeded.timeout ended
    exact ⟨succeeded.messages.trans empty, page, timeout, k, j, after, before, empty, read⟩

/-- Messages are only added, with ids above all earlier ones. -/
def Growing (feeds : Nat → Feed Nat) : Prop := ∀ n, (feeds n).Grows (feeds (n + 1))

omit [Platform] [ChannelHost] in
theorem Growing.mono (growing : Growing feeds) (later : n ≤ m) : (feeds n).Grows (feeds m) := by
  induction later with
  | refl => exact Feed.Grows.refl _
  | step _ ih => exact ih.trans (growing _)

theorem Chain.le (chain : Chain channelId n cursor calls m) : n ≤ m := by
  induction chain with
  | nil => exact Nat.le_refl _
  | later before _ ih => exact Nat.le_trans before ih
  | call _ _ returned _ ih => exact Nat.le_trans (forward_run returned) ih

/-- A chain that goes on from a cursor can read it. -/
theorem Chain.readable (chain : Chain channelId n cursor calls m) {text : CursorText}
    (given : cursor = some text) : calls = [] ∨ ∃ id, text.Names id := by
  induction chain with
  | nil => exact .inl rfl
  | later _ _ ih => exact ih given
  | call _ follows returned _ _ =>
    obtain ⟨request, page, succeeded⟩ := run_succeeded returned
    obtain ⟨id, named, -⟩ := succeeded.starts.named text (follows.trans given)
    exact .inr ⟨id, named⟩

omit [Platform] in
/-- What a page after a cursor has shown. -/
theorem Succeeded.covers {call : Call} {data : Data} {request : Request} {page : Page} {a : Nat}
    (growing : Growing feeds) (serves : Serves channelId feeds)
    (channel : call.input.channelId = channelId)
    (succeeded : Succeeded call n m data request page) (after : request.afterMessageId = some a) :
    (feeds m).Covers a (idsOf data) (reached (some a) (idsOf data)) := by
  obtain ⟨-, k, _, _, before, last, looked⟩ := succeeded.shown serves channel
  have same := looked.page
  have ids : idsOf data = ((feeds k).above a).take call.input.limit.toNat := by
    rw [idsOf, succeeded.messages, same, after]
    rfl
  rw [reached, ids]
  exact (Feed.Covers.page (feeds k) a call.input.limit.toNat).grows (growing.mono (Nat.le_trans before last))

/-- The rest of a chain starts where a call has stopped. -/
theorem Chain.next {call : Call} {data : Data} {after : Option Nat} {k : Nat}
    (exactly : Exact channelId feeds n k call data after)
    (rest : Chain channelId k (some data.nextCursor) calls m) :
    calls = [] ∨ data.nextCursor.Names (reached after (idsOf data)) := by
  refine (rest.readable rfl).imp_right fun ⟨id, named⟩ => ?_
  rwa [← exactly.moved id named]

/-- The induction is on the chain: what the rest shows adjoins what the first call has shown. -/
theorem Chain.covers (growing : Growing feeds) (serves : Serves channelId feeds)
    (chain : Chain channelId n cursor calls m) {text : CursorText} (given : cursor = some text)
    {a : Nat} (start : calls = [] ∨ text.Names a) :
    ∃ b, (feeds m).Covers a (shownBy calls) b := by
  induction chain generalizing text a with
  | nil => exact ⟨a, Feed.Covers.refl _ a⟩
  | later _ _ ih => exact ih given start
  | call channel follows returned rest ih =>
    obtain ⟨request, page, succeeded⟩ := run_succeeded returned
    obtain ⟨id, named, after⟩ := succeeded.starts.named text (follows.trans given)
    have same : id = a := names_unique named (start.resolve_left (List.cons_ne_nil _ _))
    rw [same] at after
    have first := succeeded.covers growing serves channel after
    have exactly := succeeded.exact serves channel
    rw [after] at exactly
    obtain ⟨b, others⟩ := ih rfl (rest.next exactly)
    exact ⟨b, (first.grows (growing.mono rest.le)).append others⟩

omit [Platform] in
theorem Exact.mono {call : Call} {data : Data} {after : Option Nat} {n' m' : Nat}
    (exactly : Exact channelId feeds n m call data after) (begun : n' ≤ n) (ended : m ≤ m') :
    Exact channelId feeds n' m' call data after := by
  obtain ⟨starts, bounded, ⟨k, j, first, middle, last, looked⟩, moved, timeout⟩ := exactly
  refine ⟨starts, bounded, ⟨k, j, by omega, middle, by omega, looked⟩, moved, fun status => ?_⟩
  obtain ⟨empty, page, limit, k, j, first, last, read⟩ := timeout status
  exact ⟨empty, page, limit, k, j, by omega, by omega, read⟩

theorem Chain.exact (serves : Serves channelId feeds) (chain : Chain channelId n cursor calls m) :
    ∀ entry ∈ calls, ∃ after, Exact channelId feeds n m entry.1 entry.2 after := by
  induction chain with
  | nil => exact fun _ member => absurd member List.not_mem_nil
  | later before _ ih =>
    intro entry member
    obtain ⟨after, exactly⟩ := ih entry member
    exact ⟨after, exactly.mono before (Nat.le_refl _)⟩
  | call channel _ returned rest ih =>
    intro entry member
    rcases List.mem_cons.mp member with rfl | inside
    · obtain ⟨request, page, succeeded⟩ := run_succeeded returned
      exact ⟨_, (succeeded.exact serves channel).mono (Nat.le_refl _) rest.le⟩
    · obtain ⟨after, exactly⟩ := ih entry inside
      exact ⟨after, exactly.mono (forward_run returned) (Nat.le_refl _)⟩

/-- A chain without a cursor begins with the newest messages. -/
theorem Chain.covers_newest (growing : Growing feeds) (positive : ∀ n, ∀ key ∈ feeds n, 0 < key)
    (serves : Serves channelId feeds) (chain : Chain channelId n cursor calls m)
    (fresh : cursor = none) {entry : Call × Data} {others : List (Call × Data)}
    (begins : calls = entry :: others) :
    ∃ k a b, n ≤ k ∧ k ≤ m ∧
      idsOf entry.2 = (feeds k).newest entry.1.input.limit.toNat ∧
      (feeds m).Covers a (shownBy calls) b := by
  induction chain with
  | nil => cases begins
  | later before _ ih =>
    obtain ⟨k, a, b, first, rest⟩ := ih fresh begins
    exact ⟨k, a, b, Nat.le_trans before first, rest⟩
  | @call _ _ _ _ _ call data channel follows returned rest _ =>
    cases begins
    obtain ⟨request, page, succeeded⟩ := run_succeeded returned
    have after := succeeded.starts.fresh (follows.trans fresh)
    have exactly := succeeded.exact serves channel
    obtain ⟨bounded, k, _, first, middle, last, looked⟩ := succeeded.shown serves channel
    have same := looked.page
    have inside : k ≤ _ := Nat.le_trans middle last
    have ids : idsOf data = (feeds k).newest call.input.limit.toNat := by
      rw [idsOf, succeeded.messages, same, after]
      rfl
    rw [after] at exactly
    obtain ⟨a, covers⟩ := (feeds k).newest_covers (positive k) call.input.limit.toNat (by omega)
    rw [← ids] at covers
    have shown := covers.grows (growing.mono (Nat.le_trans inside rest.le))
    obtain ⟨b, others⟩ := rest.covers growing serves rfl (rest.next exactly)
    exact ⟨k, a, b, first, Nat.le_trans inside rest.le, ids, shown.append others⟩

/-- **Cursor coverage.** While messages are only added, with larger ids, a chain of successful calls
shows the messages between its first cursor, or the newest messages of its first page, and the last
message that it shows; and every call says rightly whether there was more, moves its cursor to the last
message it shows, and reports a timeout only after a complete empty read. -/
theorem cursor_coverage (growing : Growing feeds) (positive : ∀ n, ∀ key ∈ feeds n, 0 < key)
    (serves : Serves channelId feeds) (chain : Chain channelId n cursor calls m) :
    (∀ text, cursor = some text → calls ≠ [] →
      ∃ a b, text.Names a ∧ (feeds m).Covers a (shownBy calls) b) ∧
    (∀ entry others, cursor = none → calls = entry :: others → ∃ k a b, n ≤ k ∧ k ≤ m ∧
      idsOf entry.2 = (feeds k).newest entry.1.input.limit.toNat ∧
      (feeds m).Covers a (shownBy calls) b) ∧
    ∀ entry ∈ calls, ∃ after, Exact channelId feeds n m entry.1 entry.2 after := by
  refine ⟨fun text given some => ?_, fun entry others fresh begins => ?_, chain.exact serves⟩
  · obtain ⟨a, named⟩ := (chain.readable given).resolve_left some
    obtain ⟨b, covers⟩ := chain.covers growing serves given (.inr named)
    exact ⟨a, b, named, covers⟩
  · exact chain.covers_newest growing positive serves fresh begins

end Chains

namespace Sample

/-- Message 2 comes while a wait is in progress. -/
def feeds (n : Nat) : Feed Nat :=
  if n < 30 then ⟨[1], by decide⟩ else ⟨[1, 2], by decide⟩

def row (id : Nat) : Json :=
  .obj [("id", .str (toString id)), ("channel_id", .str "5"),
    ("author", .obj [("id", .str "7"), ("username", .str "u")]), ("timestamp", .str "t"),
    ("content", .str "hello"), ("embeds", .arr []), ("attachments", .arr [])]

def bound : Db :=
  { Db.empty with channelBindings := Coordinate.Sample.tableOf ⟨"discord", "5", "w", 0⟩ }

local instance : ChannelHost where
  clock _ := 0
  requestMessages n query := .ok (.arr ((answerIds (feeds n) query).map row))
  capabilities _ _ := .ok ()
  database _ := bound
  history _ _ := .ok ()
  expires _ := false
  waits _ _ := (0, 0)

def client : ChannelPrincipal :=
  ⟨"c", ["coordinate.channel_read", "coordinate.channel_wait"], ["w"], ["discord"]⟩

def first : Call := .read { workspaceId := "w", channelId := "5" } (some client)

def second (cursor : CursorText) : Call :=
  .wait 3 { workspaceId := "w", channelId := "5", afterCursor := some cursor } (some client)

def answer (call : Call) (n : Nat) : Option (Data × Nat) :=
  match call.run n with
  | .ok (.ok data) m => some (data, m)
  | _ => none

theorem exists_answer {call : Call} {n : Nat} {check : Data → Nat → Bool}
    (answered : ((answer call n).any fun result => check result.1 result.2) = true) :
    ∃ data m, call.run n = .ok (.ok data) m ∧ check data m = true := by
  obtain ⟨⟨data, m⟩, found, checked⟩ := Option.any_eq_true _ _ |>.mp answered
  unfold answer at found
  split at found
  · rename_i ran
    cases found
    exact ⟨data, m, ran, checked⟩
  · cases found

theorem growing : Growing feeds := by
  intro n
  by_cases early : n + 1 < 30
  · have same : feeds (n + 1) = feeds n := by
      unfold feeds
      rw [if_pos early, if_pos (by omega)]
    rw [same]
    exact Feed.Grows.refl _
  · unfold feeds Feed.Grows
    rw [if_neg early]
    split
    · exact ⟨[2], rfl⟩
    · exact List.prefix_refl _

theorem positive (n : Nat) : ∀ key ∈ feeds n, 0 < key := by
  unfold feeds
  split
  · exact (by decide : ∀ key ∈ [1], 0 < key)
  · exact (by decide : ∀ key ∈ [1, 2], 0 < key)

theorem serves : Serves "5" feeds := by
  intro n query rows _ answered
  cases answered
  rw [List.map_map]
  exact List.Perm.refl _

/-- A read of one message, and a wait for the next one. -/
theorem sample_coverage : ∃ calls m a b, shownBy calls = [1, 2] ∧ (feeds m).Covers a [1, 2] b := by
  obtain ⟨data, k, read, rest⟩ : ∃ data k, first.run 0 = .ok (.ok data) k ∧
      ((answer (second data.nextCursor) k).any fun result =>
        decide (idsOf data ++ idsOf result.1 = [1, 2])) = true :=
    exists_answer (by decide +kernel)
  obtain ⟨later, m, waited, both⟩ : ∃ later m,
      (second data.nextCursor).run k = .ok (.ok later) m ∧
      decide (idsOf data ++ idsOf later = [1, 2]) = true := exists_answer rest
  have chain : Chain "5" 0 none [(first, data), (second data.nextCursor, later)] m :=
    .call rfl rfl read (.call rfl rfl waited .nil)
  have shown : shownBy [(first, data), (second data.nextCursor, later)] = [1, 2] := by
    simpa [shownBy] using both
  obtain ⟨k, a, b, _, _, _, covers⟩ :=
    (cursor_coverage growing positive serves chain).2.1 _ _ rfl rfl
  rw [shown] at covers
  exact ⟨_, m, a, b, shown, covers⟩

end Sample

end ChannelMessages

end Coordinate
