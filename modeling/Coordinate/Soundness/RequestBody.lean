import Coordinate.Model.Installation
import Coordinate.Model.RequestBody

/-! # A body is read in one piece

One read takes what the network has delivered, which need not be the whole body.
-/

namespace Coordinate.RequestBody

section Reading

variable [Platform] {Value : Type} {decoder : Decoder Value} {maxBodyBytes : Nat} {request : Request}
  {body : List UInt8} {read : Nat → List UInt8}

/-- What `content.read(n)` may return before anything has been read: some of the first `n` bytes, and nothing
only if there is nothing. -/
structure Delivers (body : List UInt8) (read : Nat → List UInt8) : Prop where
  isPrefix : ∀ n, read n <+: body
  bounded : ∀ n, (read n).length ≤ n
  progress : ∀ n, 0 < n → read n = [] → body = []

/-- The header of the length is right, where there is one. -/
def Announces (request : Request) (body : List UInt8) : Prop :=
  ∀ length ∈ request.contentLength, length = body.length

/-- The answer to a body that is an object, or is none. -/
def answer : Option Value → Except Failure Value
  | some value => .ok value
  | none => .error badBody

/-- What the body alone says: its object, the refusal of a body that is too long, and that of any other. -/
def expected (decoder : Decoder Value) (maxBodyBytes : Nat) (body : List UInt8) : Except Failure Value :=
  if body.length > maxBodyBytes then .error tooLarge else answer (decoder.object? body)

/-- A body over the limit is announced or comes in one piece up to the byte after the limit. A body within it
is read whole, or its beginning and the whole are the same object or both no object; and what is read does
not exhaust the stack. -/
def InOnePiece (decoder : Decoder Value) (maxBodyBytes : Nat) (request : Request) (body raw : List UInt8) : Prop :=
  if body.length > maxBodyBytes then request.contentLength.isSome = true ∨ raw = body.take (maxBodyBytes + 1)
  else (raw = body ∨ decoder.object? raw = decoder.object? body) ∧ decoder.exhausts raw = false

omit [Platform] in
theorem eq_take_iff {raw : List UInt8} {n : Nat} (isPrefix : raw <+: body) (long : n ≤ body.length) :
    raw = body.take n ↔ raw.length = n := by
  constructor
  · intro same
    rw [same, List.length_take, Nat.min_eq_left long]
  · intro length
    rw [← length]
    exact List.prefix_iff_eq_take.mp isPrefix

omit [Platform] in
theorem answer_inj {first second : Option Value} : answer first = answer second ↔ first = second := by
  constructor
  · intro same
    cases first <;> cases second <;> simp_all [answer]
  · rintro rfl
    rfl

omit [Platform] in
theorem answer_ne_recursion (object : Option Value) : answer object ≠ .error .recursion := by
  cases object with
  | none => exact fun same => by cases same
  | some value => exact fun same => by cases same

omit [Platform] in
/-- The refusal of a body that is too long is not the answer to one that fits. -/
theorem answer_ne_tooLarge (object : Option Value) : answer object ≠ .error tooLarge := by
  cases object with
  | none => exact fun same => absurd (Failure.http.inj (Except.error.inj same)).1 (by decide)
  | some value => exact fun same => by cases same

/-- What the reader makes of its one read, where the header lets it read. -/
theorem readJsonObject_eq (json : isJson request.contentType = true)
    (small : request.contentLength.any (· > maxBodyBytes) = false) :
    readJsonObject decoder maxBodyBytes request read =
      if (read (maxBodyBytes + 1)).length > maxBodyBytes then .error tooLarge
      else if decoder.exhausts (read (maxBodyBytes + 1)) then .error .recursion
      else answer (decoder.object? (read (maxBodyBytes + 1))) := by
  unfold readJsonObject
  rw [json, small, if_neg (by decide), if_neg (by decide)]
  generalize read (maxBodyBytes + 1) = raw
  dsimp only
  split
  · rfl
  · by_cases empty : raw = []
    · subst empty
      rw [if_pos rfl, Decoder.exhausts, decoder.refuses _ decoder.loads_nil, decoder.loads_nil]
      rfl
    · rw [if_neg empty]
      unfold Decoder.exhausts
      cases decoded : decoder.loads raw with
      | value payload =>
        rw [decoder.finds raw payload decoded]
        by_cases isDict : decoder.isDict payload = true
        · simp only [isDict, if_true]
          rfl
        · simp only [isDict]
          rfl
      | invalid =>
        rw [decoder.refuses raw decoded]
        rfl
      | tooDeep => rfl

/-- A request over the limit that says so is refused unread. -/
theorem readJsonObject_announced (json : isJson request.contentType = true)
    (large : request.contentLength.any (· > maxBodyBytes) = true) :
    readJsonObject decoder maxBodyBytes request read = .error tooLarge := by
  unfold readJsonObject
  rw [json, large]
  rfl

/-- **The outcome is that of the body exactly if the body comes in one piece.** -/
theorem readJsonObject_expected (json : isJson request.contentType = true) (announced : Announces request body)
    (delivers : Delivers body read) :
    readJsonObject decoder maxBodyBytes request read = expected decoder maxBodyBytes body ↔
      InOnePiece decoder maxBodyBytes request body (read (maxBodyBytes + 1)) := by
  have isPrefix := delivers.isPrefix (maxBodyBytes + 1)
  have bounded := delivers.bounded (maxBodyBytes + 1)
  unfold expected InOnePiece
  by_cases long : body.length > maxBodyBytes
  · rw [if_pos long, if_pos long]
    cases header : request.contentLength with
    | some length =>
      have same := announced length header
      have large : request.contentLength.any (· > maxBodyBytes) = true := by
        rw [header, same]
        simpa using long
      simp [readJsonObject_announced json large]
    | none =>
      rw [readJsonObject_eq json (by rw [header]; rfl), eq_take_iff isPrefix long]
      simp only [Option.isSome_none, Bool.false_eq_true, false_or]
      constructor
      · intro same
        by_contra short
        rw [if_neg (by omega)] at same
        split at same
        · exact absurd (Except.error.inj same) (by decide)
        · exact answer_ne_tooLarge _ same
      · intro whole
        rw [if_pos (by omega)]
  · rw [if_neg long, if_neg long]
    have small : request.contentLength.any (· > maxBodyBytes) = false := by
      cases header : request.contentLength with
      | none => rfl
      | some length =>
        have same := announced length header
        simpa [same] using long
    have shorter : ¬ (read (maxBodyBytes + 1)).length > maxBodyBytes := by
      have := isPrefix.length_le
      omega
    rw [readJsonObject_eq json small, if_neg shorter]
    cases deep : decoder.exhausts (read (maxBodyBytes + 1)) with
    | true =>
      rw [if_pos rfl]
      exact iff_of_false (fun same => answer_ne_recursion _ same.symm) fun whole => absurd whole.2 (by decide)
    | false =>
      rw [if_neg (by decide), answer_inj]
      refine ⟨fun same => ⟨.inr same, rfl⟩, ?_⟩
      rintro ⟨whole | same, -⟩
      · rw [whole]
      · exact same

end Reading

namespace Sample

/-- A decoder that knows one object, `{}`. -/
def decoder : Decoder Unit where
  loads text := if text = [123, 125] then .value () else .invalid
  isDict _ := true
  object? text := if text = [123, 125] then some () else none
  loads_nil := rfl
  finds text value decoded := by
    split at decoded
    · rename_i found
      rw [if_pos found]
      rfl
    · cases decoded
  refuses text decoded := by
    split at decoded
    · cases decoded
    · rename_i other
      rw [if_neg other]

def request : Request := ⟨"application/json; charset=utf-8", some 2⟩

/-- The body `{}`. -/
def body : List UInt8 := [123, 125]

/-- The network delivers the bytes of the body one by one. -/
def first (n : Nat) : List UInt8 := (body.take 1).take n

theorem announced : Announces request body := by
  rintro length ⟨⟩
  rfl

theorem whole_delivers : Delivers body body.take where
  isPrefix n := List.take_prefix n body
  bounded n := List.length_take_le n body
  progress n positive empty := by
    cases n with
    | zero => omega
    | succ n => cases empty

theorem first_delivers : Delivers body first where
  isPrefix n := (List.take_prefix n _).trans (List.take_prefix 1 body)
  bounded n := List.length_take_le n _
  progress n positive empty := by
    cases n with
    | zero => omega
    | succ n => cases empty

/-- The body that comes in one piece is read as what it is. -/
theorem whole_body_expected : readJsonObject decoder 64 request body.take = expected decoder 64 body := by
  refine (readJsonObject_expected (by decide) announced whole_delivers).mpr ?_
  rw [InOnePiece, if_neg (by decide)]
  exact ⟨.inl rfl, by decide⟩

/-- The body `{}` is an object when it comes in one piece, and a bad request when it comes byte by byte. -/
theorem chunks_matter : isJson request.contentType = true ∧ Announces request body ∧ Delivers body body.take ∧
    Delivers body first ∧ expected decoder 64 body = .ok () ∧
    readJsonObject decoder 64 request body.take = .ok () ∧
    readJsonObject decoder 64 request first = .error badBody :=
  ⟨by decide, announced, whole_delivers, first_delivers, by decide, by decide, by decide⟩

end Sample

end Coordinate.RequestBody
