import Mathlib.Data.Nat.Notation
import Lexis.Report

/-!
# What a writer takes of a report

The bytes that a report writes do not depend on the writer. A writer without a bound takes all of
them, and so does one with enough room. Any other takes as many as it has room for, and the result
is the failure of the first write that does not fit.
-/

namespace Lexis

/-- Different texts have different bytes. -/
theorem utf8_inj {s t : String} : utf8 s = utf8 t ↔ s = t := by
  constructor
  · intro h
    have hdata : s.toUTF8.data = t.toUTF8.data := Array.toList_inj.mp h
    have hbytes : s.toByteArray = t.toByteArray := ByteArray.ext hdata
    exact String.toByteArray_inj.mp hbytes
  · rintro rfl
    rfl

/-- The bytes of two texts in succession are those of one text. -/
theorem utf8_append (s t : String) : utf8 (s ++ t) = utf8 s ++ utf8 t := by
  simp [utf8]

/-- Only the empty text has no bytes. -/
theorem utf8_eq_nil {text : String} : utf8 text = [] ↔ text = "" :=
  utf8_inj (t := "")

/-- The bytes that an action writes. -/
def Action.bytes : Action → List UInt8
  | log _ => []
  | write text _ => utf8 text

/-- A writer with the given room fails at a write that has the failure: what is written before it
fits, and it does not fit behind that. -/
def FailsAt (room : ℕ) (actions : List Action) (failure : Failure) : Prop :=
  ∃ before text later, actions = before ++ .write text failure :: later ∧
    (before.flatMap Action.bytes).length ≤ room ∧
    room < (before.flatMap Action.bytes).length + (utf8 text).length

/-- What fails behind an action fails with it where there is room for the action too. -/
theorem FailsAt.cons {room : ℕ} {later : List Action} {failure : Failure}
    (h : FailsAt room later failure) (action : Action) :
    FailsAt (action.bytes.length + room) (action :: later) failure := by
  obtain ⟨before, text, rest, rfl, hbefore, htext⟩ := h
  refine ⟨action :: before, text, rest, rfl, ?_, ?_⟩
  · rw [List.flatMap_cons, List.length_append]
    omega
  · rw [List.flatMap_cons, List.length_append]
    omega

/-- A writer fails at one write only. -/
theorem FailsAt.unique {room : ℕ} {actions : List Action} {failure failure' : Failure}
    (h : FailsAt room actions failure) (h' : FailsAt room actions failure') :
    failure = failure' := by
  obtain ⟨before, text, later, rfl, hbefore, htext⟩ := h
  obtain ⟨before', text', later', hactions, hbefore', htext'⟩ := h'
  -- The write that stands first does not fit, so nothing can fit behind it.
  rcases List.append_eq_append_iff.mp hactions with ⟨between, rfl, hrest⟩ | ⟨between, rfl, hrest⟩
  all_goals
    cases between with
    | nil =>
      obtain ⟨hwrite, -⟩ := List.cons.inj hrest
      cases hwrite
      rfl
    | cons action between =>
      obtain ⟨rfl, -⟩ := List.cons.inj hrest
      simp only [List.flatMap_append, List.flatMap_cons, List.length_append, Action.bytes] at *
      omega

/-- Says that whichever write fails, the failure is the given one. -/
def FailAlike (failure : Failure) (actions : List Action) : Prop :=
  ∀ text onFull, .write text onFull ∈ actions → onFull = failure

/-- Where all writes fail alike, there is only one failure. -/
theorem FailsAt.eq_of_failAlike {room : ℕ} {actions : List Action} {failure found : Failure}
    (h : FailsAt room actions found) (halike : FailAlike failure actions) : found = failure := by
  obtain ⟨before, text, later, rfl, -, -⟩ := h
  exact halike text found (by simp)

/-- Writes that fail alike may follow one another. -/
theorem FailAlike.append {failure : Failure} {before later : List Action}
    (hbefore : FailAlike failure before) (hlater : FailAlike failure later) :
    FailAlike failure (before ++ later) := by
  intro text onFull hmem
  rcases List.mem_append.mp hmem with hmem | hmem
  · exact hbefore text onFull hmem
  · exact hlater text onFull hmem

/-- A single write has a single failure. -/
theorem failAlike_write (failure : Failure) (text : String) :
    FailAlike failure [.write text failure] := by
  intro found onFull hmem
  cases List.mem_singleton.mp hmem
  rfl

/-- Actions that tell events never fail, and so they fail alike. -/
theorem failAlike_map_log (failure : Failure) (events : List Event) :
    FailAlike failure (events.map Action.log) := by
  intro text onFull hmem
  simp at hmem

/-- `Finer fine coarse`: the actions are the same, but some writes are made in pieces, which fail as
the whole would. -/
inductive Finer : List Action → List Action → Prop
  /-- There is nothing to do. -/
  | nil : Finer [] []
  /-- The first action is the same. -/
  | cons (action : Action) {fine coarse : List Action} (h : Finer fine coarse) :
      Finer (action :: fine) (action :: coarse)
  /-- The first action is a write, and it is made in pieces. -/
  | pieces (texts : List String) (onFull : Failure) {fine coarse : List Action}
      (h : Finer fine coarse) :
      Finer (texts.map (.write · onFull) ++ fine) (.write (String.join texts) onFull :: coarse)

namespace Report

variable {α : Type}

/-- All bytes that a report writes. -/
def bytes (report : Report α) : List UInt8 :=
  report.actions.flatMap Action.bytes

/-- A report that carries out other actions first writes their bytes first. -/
@[simp] theorem bytes_after (actions : List Action) (report : Report α) :
    (report.after actions).bytes = actions.flatMap Action.bytes ++ report.bytes :=
  List.flatMap_append

/-- Actions that tell events write nothing. -/
@[simp] theorem flatMap_bytes_map_log (events : List Event) :
    (events.map Action.log).flatMap Action.bytes = [] := by
  simp [Action.bytes]

/-- A report that only tells events writes nothing. -/
@[simp] theorem bytes_ofEvents (events : List Event) (result : Except Failure α) :
    (ofEvents events result).bytes = [] :=
  flatMap_bytes_map_log events

/-- A writer without a bound takes everything. -/
theorem deliver_none (report : Report α) :
    (report.deliver none).output = report.bytes ∧
      (report.deliver none).result = report.result := by
  obtain ⟨actions, result⟩ := report
  simp only [deliver, bytes]
  induction actions with
  | nil => exact ⟨rfl, rfl⟩
  | cons action later ih =>
    cases action with
    | log event => exact ih
    | write text onFull => exact ⟨congrArg _ ih.1, ih.2⟩

/-- A writer with enough room for a report takes it as a writer without a bound does. -/
theorem deliver_of_le {report : Report α} {room : ℕ} (h : report.bytes.length ≤ room) :
    report.deliver (some room) = report.deliver none := by
  obtain ⟨actions, result⟩ := report
  simp only [deliver, bytes] at h ⊢
  induction actions generalizing room with
  | nil => rfl
  | cons action later ih =>
    rw [List.flatMap_cons, List.length_append] at h
    cases action with
    | log event => rw [deliverActions, deliverActions, ih (by omega)]
    | write text onFull =>
      have hfits : (utf8 text).length ≤ room := by
        simp only [Action.bytes] at h
        omega
      have hlater : (later.flatMap Action.bytes).length ≤ room - (utf8 text).length := by
        simp only [Action.bytes] at h
        omega
      simp only [deliverActions, if_pos hfits, ih hlater]

/-- A writer without enough room takes what it has room for, and fails at some write. -/
theorem deliver_of_lt {report : Report α} {room : ℕ} (h : room < report.bytes.length) :
    (report.deliver (some room)).output = report.bytes.take room ∧
      ∃ failure, FailsAt room report.actions failure ∧
        (report.deliver (some room)).result = .error failure := by
  obtain ⟨actions, result⟩ := report
  simp only [deliver, bytes] at h ⊢
  induction actions generalizing room with
  | nil => cases h
  | cons action later ih =>
    rw [List.flatMap_cons, List.length_append] at h
    cases action with
    | log event =>
      rw [Action.bytes, List.length_nil, Nat.zero_add] at h
      obtain ⟨houtput, failure, hfails, hresult⟩ := ih h
      have hfails := hfails.cons (.log event)
      rw [Action.bytes, List.length_nil, Nat.zero_add] at hfails
      exact ⟨houtput, failure, hfails, hresult⟩
    | write text onFull =>
      rw [Action.bytes] at h
      -- A write that fits leaves less room for what follows; one that does not is the last.
      by_cases hfits : (utf8 text).length ≤ room
      · obtain ⟨left, rfl⟩ := Nat.exists_eq_add_of_le hfits
        obtain ⟨houtput, failure, hfails, hresult⟩ := ih (Nat.lt_of_add_lt_add_left h)
        simp only [deliverActions, if_pos hfits, Nat.add_sub_cancel_left, List.flatMap_cons,
          Action.bytes]
        refine ⟨?_, failure, hfails.cons (.write text onFull), hresult⟩
        rw [houtput, List.take_length_add_append]
      · simp only [deliverActions, if_neg hfits, List.flatMap_cons, Action.bytes]
        refine ⟨?_, onFull, ⟨[], text, later, rfl, Nat.zero_le _, ?_⟩, rfl⟩
        · rw [List.take_append_of_le_length (by omega)]
        · simpa using Nat.lt_of_not_le hfits

/-- The write that fails decides the result. -/
theorem deliver_of_failsAt {report : Report α} {room : ℕ} {failure : Failure}
    (h : FailsAt room report.actions failure) :
    (report.deliver (some room)).output = report.bytes.take room ∧
      (report.deliver (some room)).result = .error failure := by
  have hroom : room < report.bytes.length := by
    obtain ⟨before, text, later, hactions, -, htext⟩ := h
    simp only [bytes, hactions, List.flatMap_append, List.flatMap_cons, List.length_append,
      Action.bytes]
    omega
  obtain ⟨houtput, found, hfails, hresult⟩ := deliver_of_lt hroom
  exact ⟨houtput, hfails.unique h ▸ hresult⟩

/-- Where all writes fail alike, a writer without enough room makes their failure the result. -/
theorem deliver_of_lt_of_failAlike {report : Report α} {room : ℕ} {failure : Failure}
    (h : room < report.bytes.length) (halike : FailAlike failure report.actions) :
    (report.deliver (some room)).output = report.bytes.take room ∧
      (report.deliver (some room)).result = .error failure := by
  obtain ⟨houtput, found, hfails, hresult⟩ := deliver_of_lt h
  exact ⟨houtput, hfails.eq_of_failAlike halike ▸ hresult⟩

/-- A writer takes the same of a text whether it comes at once or in pieces. -/
theorem deliverActions_pieces (result : Except Failure α) (room : Option ℕ) (texts : List String)
    (onFull : Failure) (later : List Action) :
    deliverActions result room (texts.map (.write · onFull) ++ later) =
      deliverActions result room (.write (String.join texts) onFull :: later) := by
  induction texts generalizing room with
  | nil => cases room <;> simp [deliverActions, utf8_eq_nil.mpr]
  | cons text texts ih =>
    rw [List.map_cons, List.cons_append, String.join_cons]
    cases room with
    | none => simp only [deliverActions, ih, utf8_append, List.append_assoc]
    | some room =>
      simp only [deliverActions, ih, utf8_append, List.length_append]
      -- Either the first piece does not fit, or the others decide in the room that it leaves.
      by_cases htext : (utf8 text).length ≤ room
      · rw [if_pos htext]
        by_cases hrest : (utf8 (String.join texts)).length ≤ room - (utf8 text).length
        · rw [if_pos hrest, if_pos (by omega), Nat.sub_sub, List.append_assoc]
        · rw [if_neg hrest, if_neg (by omega), List.take_append, List.take_of_length_le htext]
      · rw [if_neg htext, if_neg (by omega), List.take_append_of_le_length (by omega)]

/-- What a writer takes of a report, what is told and what the result is do not depend on how the
texts are cut into writes. -/
theorem deliver_of_finer {report : Report α} {fine : List Action}
    (h : Finer fine report.actions) (room : Option ℕ) :
    deliver room { report with actions := fine } = report.deliver room := by
  obtain ⟨actions, result⟩ := report
  simp only [deliver] at h ⊢
  induction h generalizing room with
  | nil => rfl
  | cons action h ih =>
    cases action with
    | log event => simp only [deliverActions, ih]
    | write text onFull => cases room <;> simp only [deliverActions, ih]
  | pieces texts onFull h ih =>
    rw [deliverActions_pieces]
    cases room <;> simp only [deliverActions, ih]

end Report

end Lexis
