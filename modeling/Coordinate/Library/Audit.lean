import Mathlib.Data.List.Induction
import Mathlib.Tactic.Common

/-! # Reading a log entry by entry

A log is sound when every entry fits the ones before it. A gate reads a log up to the first entry that does
not fit; a monitor reads all of it and keeps what it has found. Either decides soundness, when its state
sums up what it has read.
-/

namespace Log

variable {α σ ε : Type} {fits : List α → α → Prop} {log before : List α} {entry : α}

/-- Every entry fits those before it. -/
def Sound (fits : List α → α → Prop) (log : List α) : Prop :=
  ∀ before entry after, log = before ++ entry :: after → fits before entry

theorem sound_nil : Sound fits [] := by
  intro before entry after same
  simp at same

theorem Sound.of_append {after : List α} (sound : Sound fits (log ++ after)) : Sound fits log := by
  rintro before entry rest rfl
  exact sound before entry (rest ++ after) (by simp)

theorem sound_snoc : Sound fits (log ++ [entry]) ↔ Sound fits log ∧ fits log entry := by
  constructor
  · intro sound
    exact ⟨sound.of_append, sound log entry [] rfl⟩
  · rintro ⟨sound, own⟩ before other after same
    rcases List.eq_nil_or_concat after with rfl | ⟨rest, last, rfl⟩
    · obtain ⟨shorter, last⟩ := List.append_inj' same rfl
      cases List.singleton_inj.mp last
      exact shorter ▸ own
    · rw [List.concat_eq_append, ← List.cons_append, ← List.append_assoc] at same
      obtain ⟨rfl, -⟩ := List.append_inj' same rfl
      exact sound before other rest rfl

theorem Sound.imp {other : List α → α → Prop} (sound : Sound fits log)
    (weaker : ∀ before entry, fits before entry → other before entry) : Sound other log :=
  fun before entry after same => weaker _ _ (sound before entry after same)

theorem sound_and {other : List α → α → Prop} :
    Sound (fun before entry => fits before entry ∧ other before entry) log ↔
      Sound fits log ∧ Sound other log := by
  constructor
  · intro sound
    exact ⟨sound.imp fun _ _ both => both.1, sound.imp fun _ _ both => both.2⟩
  · rintro ⟨first, second⟩ before entry after same
    exact ⟨first before entry after same, second before entry after same⟩

theorem sound_map {β : Type} {g : β → α} {log : List β} :
    Sound fits (log.map g) ↔ Sound (fun before entry => fits (before.map g) (g entry)) log := by
  induction log using List.reverseRecOn with
  | nil => exact ⟨fun _ => sound_nil, fun _ => sound_nil⟩
  | append_singleton before entry ih =>
    rw [List.map_append, List.map_singleton, sound_snoc, sound_snoc, ih]

/-- A property of all prefixes of a reading, entry by entry. -/
theorem foldlM_ok_of {P : List α → σ → Prop} {step : σ → α → Except ε σ} {start state : σ}
    (initial : P [] start)
    (next : ∀ before entry s s', P before s → step s entry = .ok s' → P (before ++ [entry]) s')
    (ran : log.foldlM step start = .ok state) : P log state := by
  induction log using List.reverseRecOn generalizing state with
  | nil =>
    cases ran
    exact initial
  | append_singleton before entry ih =>
    rw [List.foldlM_append] at ran
    cases first : before.foldlM step start with
    | error e => rw [first] at ran; cases ran
    | ok middle =>
      rw [first] at ran
      change [entry].foldlM step middle = .ok state at ran
      rw [List.foldlM_cons] at ran
      cases own : step middle entry with
      | error e => rw [own] at ran; cases ran
      | ok last =>
        rw [own] at ran
        cases ran
        exact next _ _ _ _ (ih first) own

/-- A reading fails at some entry. -/
theorem foldlM_error {step : σ → α → Except ε σ} {start : σ} {e : ε}
    (failed : log.foldlM step start = .error e) :
    ∃ before entry after state, log = before ++ entry :: after ∧
      before.foldlM step start = .ok state ∧ step state entry = .error e := by
  induction log generalizing start with
  | nil => cases failed
  | cons first rest ih =>
    rw [List.foldlM_cons] at failed
    cases own : step start first with
    | error other =>
      rw [own] at failed
      cases failed
      exact ⟨[], first, rest, start, rfl, rfl, own⟩
    | ok next =>
      rw [own] at failed
      obtain ⟨before, entry, after, state, rfl, ran, stopped⟩ := ih failed
      refine ⟨first :: before, entry, after, state, rfl, ?_, stopped⟩
      rw [List.foldlM_cons, own]
      exact ran

theorem foldlM_stops {step : σ → α → Except ε σ} {start state : σ} {after : List α} {e : ε}
    (ran : before.foldlM step start = .ok state) (stopped : step state entry = .error e) :
    (before ++ entry :: after).foldlM step start = .error e := by
  rw [List.foldlM_append, ran]
  change (entry :: after).foldlM step state = _
  rw [List.foldlM_cons, stopped]
  rfl

/-- A reader that stops at the first entry that does not fit. -/
structure Gate (fits : List α → α → Prop) (sums : List α → σ → Prop)
    (step : σ → α → Except ε σ) : Prop where
  accepts : ∀ {before entry s}, Sound fits before → sums before s → fits before entry →
    ∃ s', step s entry = .ok s'
  passed : ∀ {before entry s s'}, Sound fits before → sums before s → step s entry = .ok s' →
    fits before entry ∧ sums (before ++ [entry]) s'

namespace Gate

variable {sums : List α → σ → Prop} {step : σ → α → Except ε σ} {start state : σ}

theorem read (gate : Gate fits sums step) (initial : sums [] start)
    (ran : log.foldlM step start = .ok state) : Sound fits log ∧ sums log state :=
  foldlM_ok_of (P := fun log state => Sound fits log ∧ sums log state) ⟨sound_nil, initial⟩
    (fun _ _ _ _ ⟨sound, summed⟩ stepped =>
      have ⟨own, next⟩ := gate.passed sound summed stepped
      ⟨sound_snoc.mpr ⟨sound, own⟩, next⟩) ran

theorem exists_read (gate : Gate fits sums step) (initial : sums [] start) (sound : Sound fits log) :
    ∃ state, log.foldlM step start = .ok state := by
  cases ran : log.foldlM step start with
  | ok state => exact ⟨state, rfl⟩
  | error e =>
    obtain ⟨before, entry, after, state, rfl, read, stopped⟩ := foldlM_error ran
    obtain ⟨earlier, summed⟩ := gate.read initial read
    obtain ⟨next, stepped⟩ := gate.accepts earlier summed (sound before entry after rfl)
    rw [stopped] at stepped
    cases stepped

end Gate

/-- A reader that keeps what it has found; it may have to stop all the same. -/
structure Monitor (fits : List α → α → Prop) (sums : List α → σ → Prop) (clean : σ → Prop)
    (step : σ → α → Except ε σ) : Prop where
  kept : ∀ {entry s s'}, step s entry = .ok s' → clean s' → clean s
  noticed : ∀ {before entry s s'}, Sound fits before → sums before s → clean s →
    step s entry = .ok s' →
      (clean s' ↔ fits before entry) ∧ (clean s' → sums (before ++ [entry]) s')

/-- **A monitor that has read a log has found nothing just where the log is sound.** -/
theorem Monitor.clean_iff {sums : List α → σ → Prop} {clean : σ → Prop} {step : σ → α → Except ε σ}
    {start state : σ} (monitor : Monitor fits sums clean step) (initial : sums [] start)
    (nothing : clean start) (ran : log.foldlM step start = .ok state) :
    (clean state ↔ Sound fits log) ∧ (clean state → sums log state) := by
  refine foldlM_ok_of (P := fun log state =>
    (clean state ↔ Sound fits log) ∧ (clean state → sums log state))
    ⟨⟨fun _ => sound_nil, fun _ => nothing⟩, fun _ => initial⟩ ?_ ran
  rintro before entry s s' ⟨sound, summed⟩ stepped
  constructor
  · rw [sound_snoc]
    constructor
    · intro found
      have earlier := monitor.kept stepped found
      have noticed := monitor.noticed (sound.mp earlier) (summed earlier) earlier stepped
      exact ⟨sound.mp earlier, noticed.1.mp found⟩
    · rintro ⟨fine, own⟩
      have earlier := sound.mpr fine
      exact (monitor.noticed fine (summed earlier) earlier stepped).1.mpr own
  · intro found
    have earlier := monitor.kept stepped found
    exact (monitor.noticed (sound.mp earlier) (summed earlier) earlier stepped).2 found

end Log
