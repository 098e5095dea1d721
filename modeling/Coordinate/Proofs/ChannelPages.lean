import Coordinate.Library.Feed
import Coordinate.Model.ChannelMessages
import Mathlib.Data.List.Perm.Basic

/-! # The pages of a channel

What a successful `read_page` has shown: the first ids above its cursor at the time of its query, or the
newest ones, and whether there were more at the time of the last look. Discord is assumed to answer a
query with the ids that it asks for.
-/

namespace Coordinate

namespace Calling

variable {α β : Type} {n m : Nat}

theorem bind_ok {x : Calling α} {f : α → Calling β} {b : β} :
    (x >>= f) n = .ok b m ↔ ∃ a k, x n = .ok a k ∧ f a k = .ok b m := by
  change EStateM.bind x f n = _ ↔ _
  unfold EStateM.bind
  cases x n <;> simp

theorem pure_ok {a b : α} : (pure a : Calling α) n = .ok b m ↔ a = b ∧ n = m := by
  change EStateM.Result.ok a n = .ok b m ↔ _
  simp

theorem map_ok {f : α → β} {x : Calling α} {b : β} :
    (f <$> x) n = .ok b m ↔ ∃ a, x n = .ok a m ∧ f a = b := by
  change EStateM.map f x n = _ ↔ _
  unfold EStateM.map
  cases x n <;> simp [and_comm]

theorem lift_ok {result : Except Failure α} {a : α} :
    lift result n = .ok a m ↔ result = .ok a ∧ n = m := by
  unfold lift
  cases result <;> simp

theorem reading_ok {read : Nat → Except Failure α} {a : α} :
    reading read n = .ok a m ↔ read n = .ok a ∧ n + 1 = m := by
  unfold reading
  cases read n <;> simp

theorem tryCatch_ok {x : Calling α} {f : Failure → Calling α} {a : α} :
    (tryCatch x f) n = .ok a m ↔ x n = .ok a m ∨ ∃ e k, x n = .error e k ∧ f e k = .ok a m := by
  change EStateM.tryCatch x f n = _ ↔ _
  unfold EStateM.tryCatch
  cases same : x n <;> simp [EStateM.Backtrackable.restore, EStateM.dummyRestore]

/-- However it ends, a call never goes back to an earlier reading. -/
def Forward (x : Calling α) : Prop := ∀ n, n ≤ (x n).final

theorem Forward.ok {x : Calling α} (forward : Forward x) {a : α} (ran : x n = .ok a m) : n ≤ m := by
  have := forward n
  rwa [ran] at this

theorem forward_pure (a : α) : Forward (pure a : Calling α) := fun n => Nat.le_refl n

theorem forward_throw (e : Failure) : Forward (throw e : Calling α) := fun n => Nat.le_refl n

theorem forward_lift (result : Except Failure α) : Forward (lift result) := by
  intro n
  unfold lift
  cases result <;> exact Nat.le_refl n

theorem forward_reading (read : Nat → Except Failure α) : Forward (reading read) := by
  intro n
  unfold reading
  cases read n <;> exact Nat.le_succ n

theorem forward_bind {x : Calling α} {f : α → Calling β} (first : Forward x)
    (next : ∀ a, Forward (f a)) : Forward (x >>= f) := by
  intro n
  have begun := first n
  change n ≤ (EStateM.bind x f n).final
  unfold EStateM.bind
  cases ran : x n with
  | ok a k =>
    rw [ran] at begun
    exact Nat.le_trans begun (next a k)
  | error e k =>
    rw [ran] at begun
    exact begun

theorem forward_map {f : α → β} {x : Calling α} (forward : Forward x) : Forward (f <$> x) := by
  intro n
  have begun := forward n
  change n ≤ (EStateM.map f x n).final
  unfold EStateM.map
  cases ran : x n <;> (rw [ran] at begun; exact begun)

theorem forward_tryCatch {x : Calling α} {f : Failure → Calling α} (first : Forward x)
    (next : ∀ e, Forward (f e)) : Forward (tryCatch x f) := by
  intro n
  have begun := first n
  change n ≤ (EStateM.tryCatch x f n).final
  unfold EStateM.tryCatch
  cases ran : x n with
  | ok a k =>
    rw [ran] at begun
    exact begun
  | error e k =>
    rw [ran] at begun
    exact Nat.le_trans begun (next e k)

end Calling

namespace DiscordHistory

open Calling

/-- Reading a text as an identifier gives the number that is written so. -/
theorem snowflake_ok {value : Json} {zero : Bool} {id : Nat}
    (valid : snowflake value zero = .ok id) : value = .str (toString id) := by
  unfold snowflake at valid
  split at valid
  · simp only [Except.bind_ok, raiseIf_except_ok] at valid
    obtain ⟨_, _, _, checked, same⟩ := valid
    cases same
    rw [not_or, not_or, ne_eq, not_not] at checked
    exact congrArg Json.str checked.2.2.symm
  · cases valid

theorem toString_injective : Function.Injective fun id : Nat => Json.str (toString id) := by
  intro a b same
  have texts : Nat.repr a = Nat.repr b := Json.str.inj same
  have digits : Nat.toDigits 10 a = Nat.toDigits 10 b := by
    simpa [Nat.repr] using congrArg String.toList texts
  have values := congrArg (Nat.ofDigitChars 10 · 0) digits
  simpa using values

theorem item_ok {value found : Json} {key : String} (has : item value key = .ok found) :
    value.get key = found := by
  unfold item at has
  split at has
  · rename_i field
    cases has
    rw [Json.get, field]
    rfl
  · cases has

theorem keyed_ok {row : Json} {pair : Nat × Json} (read : keyed row = .ok pair) :
    pair.2 = row ∧ row.get "id" = .str (toString pair.1) := by
  unfold keyed at read
  simp only [Except.bind_ok] at read
  obtain ⟨_, has, id, valid, same⟩ := read
  cases same
  exact ⟨rfl, (item_ok has).trans (snowflake_ok valid)⟩

theorem normalizeMessage_ok {raw : Json} {channelId : String} {message : Message}
    (normal : normalizeMessage raw channelId = .ok message) :
    raw.get "id" = .str (toString message.messageId) := by
  unfold normalizeMessage at normal
  simp only [Except.bind_ok] at normal
  obtain ⟨_, _, _, _, _, has, _, valid, _, _, _, _, _, _, _, _, _, _, _, _, _, _, _, _, _, _, _, _, _,
    _, same⟩ := normal
  cases same
  exact (item_ok has).trans (snowflake_ok valid)

theorem mapM_ok {α β : Type} {f : α → Except Failure β} : ∀ {values : List α} {results : List β},
    values.mapM f = .ok results → List.Forall₂ (fun a b => f a = .ok b) values results
  | [], results, ran => by
    cases ran
    exact .nil
  | value :: rest, results, ran => by
    rw [List.mapM_cons] at ran
    simp only [Except.bind_ok] at ran
    obtain ⟨first, read, others, ran, same⟩ := ran
    cases same
    exact .cons read (mapM_ok ran)

/-- The ids of rows that Discord has sent. -/
theorem keyed_ids {rows : List Json} {pairs : List (Nat × Json)}
    (read : rows.mapM keyed = .ok pairs) :
    rows.map (·.get "id") = (pairs.map Prod.fst).map fun id => Json.str (toString id) := by
  rw [List.map_map]
  refine List.forall₂_eq_eq_eq ▸ List.forall₂_map_left_iff.mpr (List.forall₂_map_right_iff.mpr ?_)
  exact (mapM_ok read).imp fun row pair same => (keyed_ok same).2

theorem keyed_keys {rows : List Json} {pairs : List (Nat × Json)}
    (read : rows.mapM keyed = .ok pairs) :
    ∀ pair ∈ pairs, pair.2.get "id" = .str (toString pair.1) := by
  have related := mapM_ok read
  clear read
  induction related with
  | nil => exact fun _ member => absurd member List.not_mem_nil
  | cons first _ ih =>
    obtain ⟨rfl, id⟩ := keyed_ok first
    exact List.forall_mem_cons.mpr ⟨id, ih⟩

/-- The messages of a page have the ids of its rows. -/
theorem normalized_ids {pairs : List (Nat × Json)} {messages : List Message} {channelId : String}
    (normal : pairs.mapM (fun row => normalizeMessage row.2 channelId) = .ok messages)
    (keys : ∀ pair ∈ pairs, pair.2.get "id" = .str (toString pair.1)) :
    messages.map (·.messageId) = pairs.map Prod.fst := by
  have related := mapM_ok normal
  clear normal
  induction related with
  | nil => rfl
  | @cons pair message _ _ first _ ih =>
    have same : Json.str (toString message.messageId) = .str (toString pair.1) :=
      (normalizeMessage_ok first).symm.trans (keys pair List.mem_cons_self)
    rw [List.map_cons, List.map_cons, toString_injective same,
      ih fun other member => keys other (List.mem_cons_of_mem _ member)]

/-- What Discord's query asks for. -/
def answerIds (feed : Feed Nat) (query : MessagesQuery) : List Nat :=
  match query.after with
  | some after => (feed.above after).take query.limit.toNat
  | none => feed.newest query.limit.toNat

/-- Discord answers the queries about a channel with the ids that they ask for, in any order. -/
def Serves [DiscordHost] (channelId : String) (feeds : Nat → Feed Nat) : Prop :=
  ∀ n query rows, query.channelId = channelId →
    DiscordHost.requestMessages n query = .ok (.arr rows) →
    (rows.map (·.get "id")).Perm ((answerIds (feeds n) query).map fun id => .str (toString id))

theorem answerIds_increasing (feed : Feed Nat) (query : MessagesQuery) :
    (answerIds feed query).Pairwise (· < ·) := by
  unfold answerIds
  split
  · exact (feed.above_increasing _).sublist (List.take_sublist ..)
  · exact feed.increasing.sublist (List.drop_sublist ..)

/-- Sorting the rows of an answer gives the ids that were asked for. -/
theorem checkRows_ok {query : MessagesQuery} {rows : List Json} {sorted : List (Nat × Json)}
    {ids : List Nat} (increasing : ids.Pairwise (· < ·))
    (answered : (rows.map (·.get "id")).Perm (ids.map fun id => .str (toString id)))
    (checked : checkRows query rows = .ok sorted) :
    sorted.map Prod.fst = ids ∧ ∀ pair ∈ sorted, pair.2.get "id" = .str (toString pair.1) := by
  have total : Std.Total fun a b : Nat × Json => a.1 ≤ b.1 := ⟨fun a b => Nat.le_total a.1 b.1⟩
  have trans : IsTrans (Nat × Json) fun a b => a.1 ≤ b.1 := ⟨fun _ _ _ => Nat.le_trans⟩
  unfold checkRows at checked
  simp only [Except.bind_ok] at checked
  obtain ⟨pairs, read, _, _, _, _, same⟩ := checked
  cases same
  refine ⟨?_, fun pair member => keyed_keys read pair ((List.mem_insertionSort _).mp member)⟩
  rw [keyed_ids read, List.map_perm_map_iff toString_injective] at answered
  refine List.Perm.eq_of_pairwise' (r := (· ≤ ·)) ?_ (increasing.imp Nat.le_of_lt) ?_
  · rw [List.pairwise_map]
    exact List.pairwise_insertionSort _ pairs
  · exact ((List.perm_insertionSort _ pairs).map Prod.fst).trans answered

section Readings

variable [DiscordHost] {channelId : String} {feeds : Nat → Feed Nat} {n m : Nat}

theorem forward_getRows (query : MessagesQuery) (deadline : Rat) :
    Forward (getRows query deadline) :=
  forward_bind (forward_reading _) fun _ => forward_bind (forward_lift _) fun _ =>
    forward_bind (forward_reading _) fun _ => forward_bind (forward_lift _) fun _ =>
      forward_bind (forward_reading _) fun _ => forward_bind (forward_lift _) fun _ => forward_pure _

theorem forward_probe (channelId : String) (last : Nat) (deadline : Rat) :
    Forward (probe channelId last deadline) :=
  forward_bind (forward_getRows _ _) fun _ => forward_bind (forward_lift _) fun _ =>
    forward_bind (forward_lift _) fun _ => forward_bind (forward_lift _) fun _ => forward_pure _

theorem forward_moreThan (channelId : String) (after : Option Nat) (limit : Int) (deadline : Rat)
    (sorted : List (Nat × Json)) :
    Forward (moreThan channelId after limit deadline sorted) := by
  unfold moreThan
  split
  · exact forward_pure _
  · split
    · exact forward_probe _ _ _
    · exact forward_pure _

theorem forward_readPage (channelId : String) (after : Option Nat) (limit : Int) (timeout : Rat) :
    Forward (readPage channelId after limit timeout) :=
  forward_bind (forward_lift _) fun _ => forward_bind (forward_reading _) fun _ =>
    forward_bind (forward_reading _) fun _ => forward_bind (forward_lift _) fun _ =>
      forward_bind (forward_lift _) fun _ => forward_bind (forward_getRows _ _) fun _ =>
        forward_bind (forward_lift _) fun _ => forward_bind (forward_moreThan _ _ _ _ _) fun _ =>
          forward_bind (forward_lift _) fun _ => forward_bind (forward_reading _) fun _ =>
            forward_pure _

theorem getRows_ok {query : MessagesQuery} {deadline : Rat} {rows : List Json}
    (read : getRows query deadline n = .ok rows m) :
    ∃ k, n ≤ k ∧ k ≤ m ∧ DiscordHost.requestMessages k query = .ok (.arr rows) := by
  unfold getRows clock at read
  simp only [bind_ok, reading_ok, lift_ok, pure_ok] at read
  obtain ⟨_, _, ⟨_, rfl⟩, _, _, ⟨_, rfl⟩, value, _, ⟨answered, rfl⟩, _, _, ⟨isList, rfl⟩, _, _,
    ⟨_, rfl⟩, _, _, ⟨_, rfl⟩, rfl, rfl⟩ := read
  refine ⟨n + 1, by omega, by omega, ?_⟩
  split at isList
  · cases isList
    exact answered
  · cases isList

/-- The last id of a page, or the id after which it begins. -/
def reached (after : Option Nat) (ids : List Nat) : Nat := ids.getLast?.getD (after.getD 0)

/-- The extra request finds a message exactly if there is one beyond the page at that time. -/
theorem probe_ok (serves : Serves channelId feeds) {last : Nat} {deadline : Rat} {more : Bool}
    (probed : probe channelId last deadline n = .ok more m) :
    ∃ k, n ≤ k ∧ k ≤ m ∧ (more = true ↔ ∃ key ∈ feeds k, last < key) := by
  unfold probe at probed
  simp only [bind_ok, lift_ok, pure_ok] at probed
  obtain ⟨rows, _, read, _, _, ⟨_, rfl⟩, _, _, ⟨_, rfl⟩, _, _, ⟨_, rfl⟩, rfl, rfl⟩ := probed
  obtain ⟨k, after, before, answered⟩ := getRows_ok read
  refine ⟨k, after, before, ?_⟩
  have length := (serves k _ rows rfl answered).length_eq
  rw [List.length_map, List.length_map] at length
  change rows.length = (((feeds k).above last).take 1).length at length
  rw [List.length_take] at length
  have nonempty : rows ≠ [] ↔ (feeds k).above last ≠ [] := by
    rw [← List.length_pos_iff, ← List.length_pos_iff]
    omega
  constructor
  · intro found
    have some := nonempty.mp (by simpa using found)
    obtain ⟨key, member⟩ := List.exists_mem_of_ne_nil _ some
    exact ⟨key, Feed.mem_above.mp member⟩
  · rintro ⟨key, member⟩
    simpa using nonempty.mpr (List.ne_nil_of_mem (Feed.mem_above.mpr member))

/-- The ids of a page at the time of its query. -/
def pageIds (feed : Feed Nat) (after : Option Nat) (limit : Int) : List Nat :=
  match after with
  | some after => (feed.above after).take limit.toNat
  | none => feed.newest limit.toNat

def queryOf (channelId : String) (after : Option Nat) (limit : Int) : MessagesQuery :=
  ⟨channelId, if after.isSome then min (limit + 1) 100 else limit, after⟩

omit [DiscordHost] in
/-- A page is the first part of the answer to its query. -/
theorem take_answerIds (feed : Feed Nat) (after : Option Nat) {limit : Int} (atMost : limit ≤ 100) :
    (answerIds feed (queryOf channelId after limit)).take limit.toNat = pageIds feed after limit := by
  cases after with
  | some after =>
    change ((feed.above after).take (min (limit + 1) 100).toNat).take limit.toNat = _
    rw [List.take_take, Nat.min_eq_left (by omega)]
    rfl
  | none =>
    refine List.take_of_length_le ?_
    change (feed.newest limit.toNat).length ≤ _
    rw [Feed.newest, List.length_drop]
    omega

omit [DiscordHost] in
/-- Nothing is beyond an empty page. -/
theorem none_beyond {feed : Feed Nat} {after : Option Nat} {limit : Int} (positive : 1 ≤ limit)
    (empty : pageIds feed after limit = []) (key : Nat) (member : key ∈ feed) :
    ¬ reached after (pageIds feed after limit) < key := by
  rw [empty]
  cases after with
  | some after =>
    intro beyond
    have none : feed.above after = [] := by
      rcases List.take_eq_nil_iff.mp empty with zero | none
      · omega
      · exact none
    have inside : key ∈ feed.above after := Feed.mem_above.mpr ⟨member, beyond⟩
    rw [none] at inside
    cases inside
  | none =>
    have none : feed.keys = [] := by
      have short : feed.keys.length ≤ feed.keys.length - limit.toNat :=
        List.drop_eq_nil_iff.mp empty
      exact List.eq_nil_of_length_eq_zero (by omega)
    change key ∈ feed.keys at member
    rw [none] at member
    cases member

theorem moreThan_ok (serves : Serves channelId feeds) {after : Option Nat} {limit : Int}
    {deadline : Rat} {sorted : List (Nat × Json)} {more : Bool} {k : Nat} (positive : 1 ≤ limit)
    (atMost : limit ≤ 100)
    (ids : sorted.map Prod.fst = answerIds (feeds k) (queryOf channelId after limit)) (before : k ≤ n)
    (looked : moreThan channelId after limit deadline sorted n = .ok more m) :
    ∃ j, k ≤ j ∧ j ≤ m ∧ (j = k ∨ after = none ∨ limit = 100) ∧
      (more = true ↔ ∃ key ∈ feeds j, reached after (pageIds (feeds k) after limit) < key) := by
  have page : (sorted.take limit.toNat).map Prod.fst = pageIds (feeds k) after limit := by
    rw [List.map_take, ids, take_answerIds _ _ atMost]
  cases ending : (sorted.take limit.toNat).getLast? with
  | none =>
    simp only [moreThan, ending] at looked
    obtain ⟨rfl, rfl⟩ := pure_ok.mp looked
    have empty : pageIds (feeds k) after limit = [] := by
      rw [← page, List.getLast?_eq_none_iff.mp ending]
      rfl
    refine ⟨k, Nat.le_refl k, before, .inl rfl, ?_⟩
    simp only [Bool.false_eq_true, false_iff, not_exists, not_and]
    exact none_beyond positive empty
  | some row =>
    obtain ⟨last, row⟩ := row
    simp only [moreThan, ending] at looked
    have ends : reached after (pageIds (feeds k) after limit) = last := by
      rw [reached, ← page, List.getLast?_map, ending]
      rfl
    rw [ends]
    split at looked
    · rename_i asked
      obtain ⟨j, later, earlier, exactly⟩ := probe_ok serves looked
      exact ⟨j, by omega, earlier, .inr asked, exactly⟩
    · rename_i lookAhead
      obtain ⟨rfl, rfl⟩ := pure_ok.mp looked
      refine ⟨k, Nat.le_refl k, before, .inl rfl, ?_⟩
      cases after with
      | none => exact absurd (.inl rfl) lookAhead
      | some after =>
        have short : limit < 100 := lt_of_le_of_ne atMost fun full => lookAhead (.inr full)
        have length : sorted.length = min (limit + 1).toNat ((feeds k).above after).length := by
          have lengths := congrArg List.length ids
          rw [List.length_map] at lengths
          change _ = (((feeds k).above after).take (min (limit + 1) 100).toNat).length at lengths
          have whole : min (limit + 1) 100 = limit + 1 := min_eq_left (by omega)
          rw [lengths, List.length_take, whole]
        have beyond := (feeds k).exists_above_page after limit.toNat (by omega)
        change (∃ key ∈ feeds k, reached (some after) (pageIds (feeds k) (some after) limit) < key) ↔ _
          at beyond
        rw [ends] at beyond
        rw [beyond, decide_eq_true_eq, length]
        generalize ((feeds k).above after).length = total
        omega

/-- What a page has shown at the time `k` of its query, and whether there was more at the time `j` of
the last look, which is the query itself unless Discord was asked for no row too many. -/
structure Looked (feeds : Nat → Feed Nat) (k j : Nat) (after : Option Nat) (limit : Int)
    (ids : List Nat) (hasMore : Bool) : Prop where
  page : ids = pageIds (feeds k) after limit
  look : j = k ∨ after = none ∨ limit = 100
  more : hasMore = true ↔ ∃ key ∈ feeds j, reached after ids < key

/-- A page between two readings. -/
structure Shown (feeds : Nat → Feed Nat) (n m : Nat) (after : Option Nat) (limit : Int) (page : Page) :
    Prop where
  bounded : 1 ≤ limit ∧ limit ≤ 100
  looked : ∃ k j, n ≤ k ∧ k ≤ j ∧ j ≤ m ∧
    Looked feeds k j after limit (page.messages.map (·.messageId)) page.hasMore

/-- The specification of `read_page`. -/
theorem readPage_shown (serves : Serves channelId feeds) {after : Option Nat} {limit : Int}
    {timeout : Rat} {page : Page} (read : readPage channelId after limit timeout n = .ok page m) :
    Shown feeds n m after limit page := by
  unfold readPage at read
  obtain ⟨_, _, first, read⟩ := bind_ok.mp read
  obtain ⟨_, rfl⟩ := lift_ok.mp first
  obtain ⟨started, _, first, read⟩ := bind_ok.mp read
  obtain ⟨_, rfl⟩ := reading_ok.mp first
  obtain ⟨_, _, first, read⟩ := bind_ok.mp read
  obtain ⟨_, rfl⟩ := reading_ok.mp first
  obtain ⟨_, _, first, read⟩ := bind_ok.mp read
  obtain ⟨bounded, rfl⟩ := lift_ok.mp first
  obtain ⟨checked, _, first, read⟩ := bind_ok.mp read
  obtain ⟨valid, rfl⟩ := lift_ok.mp first
  obtain ⟨rows, k₁, queried, read⟩ := bind_ok.mp read
  obtain ⟨sorted, _, first, read⟩ := bind_ok.mp read
  obtain ⟨sortedRows, rfl⟩ := lift_ok.mp first
  obtain ⟨hasMore, k₂, looked, read⟩ := bind_ok.mp read
  obtain ⟨messages, _, first, read⟩ := bind_ok.mp read
  obtain ⟨normal, rfl⟩ := lift_ok.mp first
  obtain ⟨_, _, first, read⟩ := bind_ok.mp read
  obtain ⟨_, rfl⟩ := reading_ok.mp first
  obtain ⟨rfl, rfl⟩ := pure_ok.mp read
  have limits : 1 ≤ limit ∧ limit ≤ 100 := by
    have := raiseIf_except_ok.mp bounded
    omega
  have same : checked = after := by
    cases after with
    | none =>
      cases valid
      rfl
    | some after =>
      obtain ⟨id, scanned, same⟩ := Except.bind_ok.mp valid
      cases same
      exact congrArg some (toString_injective (snowflake_ok scanned)).symm
  subst same
  obtain ⟨k, afterStart, beforeEnd, answered⟩ := getRows_ok queried
  obtain ⟨ids, keys⟩ := checkRows_ok (answerIds_increasing (feeds k) _)
    (serves k _ rows rfl answered) sortedRows
  have page : messages.map (·.messageId) = pageIds (feeds k) checked limit := by
    rw [normalized_ids normal fun pair member => keys pair (List.mem_of_mem_take member),
      List.map_take, ids]
    exact take_answerIds _ _ limits.2
  obtain ⟨j, later, earlier, look, exactly⟩ :=
    moreThan_ok serves limits.1 limits.2 ids beforeEnd looked
  rw [← page] at exactly
  have forward := (forward_moreThan _ _ _ _ _).ok looked
  exact ⟨limits, k, j, by omega, by omega, by omega, page, look, exactly⟩

end Readings

end DiscordHistory

end Coordinate
