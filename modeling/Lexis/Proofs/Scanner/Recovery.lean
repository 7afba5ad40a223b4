import Lexis.Proofs.Scanner.Extension
import Lexis.Proofs.Scanner.Parallel
import Lexis.Proofs.Source.LineColumn
import Lexis.Proofs.Text.Blanking

/-!
# Rejected runs do no harm

A scan that carries on after a rejected run goes on as if there had been blanks in its place. With
every rejected run blanked out, the source has the same steps at the same lines and columns, only
without the rejections. The other error, a string that is never closed, can only be met once, and
nothing is found behind it.
-/

namespace Lexis

/-- The error with its offset left out of its place. -/
def LexError.withoutOffset (error : LexError) : LexError :=
  error.movedTo error.location.withoutOffset

/-- An error that was moved is told by where it was moved to. -/
theorem LexError.withoutOffset_movedTo {error : LexError} {place : Location}
    (h : place.withoutOffset = error.location.withoutOffset) :
    (error.movedTo place).withoutOffset = error.withoutOffset := by
  cases error <;> simp_all [withoutOffset, movedTo, location]

namespace Step

/-- The step with the offsets left out of all its places. -/
def withoutOffset (step : Step) : Step where
  start := step.start.withoutOffset
  stop := step.stop.withoutOffset
  outcome := step.outcome.mapError .withoutOffset

/-- Says whether the step rejects a run. -/
def isRejection (step : Step) : Bool :=
  match step.outcome with
  | .error (.invalidToken _ _) => true
  | _ => false

/-- Says whether the step rejects a run that extends over the given offset. -/
def rejectsAt (step : Step) (offset : ℕ) : Bool :=
  step.isRejection && (step.start.offset ≤ offset && offset < step.stop.offset)

/-- A step rejects nothing before its start. -/
theorem rejectsAt_of_lt_start {step : Step} {offset : ℕ} (h : offset < step.start.offset) :
    step.rejectsAt offset = false := by
  simp [rejectsAt, h]

/-- A step rejects nothing from its end on. -/
theorem rejectsAt_of_stop_le {step : Step} {offset : ℕ} (h : step.stop.offset ≤ offset) :
    step.rejectsAt offset = false := by
  simp [rejectsAt, h]

/-- Between its start and its end a step rejects all or nothing. -/
theorem rejectsAt_of_mem {step : Step} {offset : ℕ} (hstart : step.start.offset ≤ offset)
    (hstop : offset < step.stop.offset) : step.rejectsAt offset = step.isRejection := by
  simp [rejectsAt, hstart, hstop]

end Step

/-- A token may still end where it ended if parts of the text behind it are blanked out. -/
theorem Token.EndsBefore.blankWhere {token : Token} {rest : List Char} (h : token.EndsBefore rest)
    (p : ℕ → Bool) (offset : ℕ) : token.EndsBefore (Text.blankWhere p offset rest) := by
  cases rest with
  | nil => exact h
  | cons c rest =>
    rw [Text.blankWhere]
    split
    · exact token.endsBefore_of_head? (by simp)
    · exact h

/-- What is read, unless it is a run that is rejected, is read as well if parts of the text behind
it are blanked out. -/
theorem Reads.blankWhere {start : Location} {text rest : List Char} {result : Except LexError Token}
    (h : Reads start text rest result)
    (hresult : ∀ run place, result ≠ .error (.invalidToken run place)) (p : ℕ → Bool)
    (offset : ℕ) : Reads start text (Text.blankWhere p offset rest) result := by
  cases h with
  | token hspells hends => exact .token hspells (hends.blankWhere p offset)
  | unterminated hbody => exact .unterminated hbody
  | misfit hfirst hrun => exact absurd rfl (hresult _ _)

namespace Scanner

/-- What is ahead of a scanner, with a space for every character of a run that will be rejected. -/
def blankedAhead (s : Scanner) : List Char :=
  Text.blankWhere (fun offset => s.steps.any (·.rejectsAt offset)) s.location.offset s.cursor.ahead

/-- No step starts before the place where the scanner stands. -/
theorem offset_le_start {s : Scanner} {step : Step} (hstep : step ∈ s.steps) :
    s.location.offset ≤ step.start.offset := by
  induction s using request_induction with
  | ended s hend =>
    rw [steps_of_end hend, nextToken_of_isSpace (isSpace_of_answer hend)] at hstep
    obtain rfl := List.mem_singleton.mp hstep
    simp [Reply.step, Location.offset_after]
  | found s hfound ih =>
    obtain ⟨gap, text, rest, result, hfinds⟩ := exists_finds hfound
    rw [steps_of_result hfound] at hstep
    rcases List.mem_cons.mp hstep with rfl | hlater
    · simp [Reply.step, hfinds.tokenStart_eq, Location.offset_after]
    · have hle := ih hlater
      simp only [hfinds.location_nextToken, Location.offset_after] at hle
      omega

/-- No step rejects anything before the place where the scanner stands. -/
theorem any_rejectsAt_of_lt {s : Scanner} {offset : ℕ} (h : offset < s.location.offset) :
    s.steps.any (·.rejectsAt offset) = false := by
  refine List.any_eq_false.mpr fun step hstep => ?_
  have hle := offset_le_start hstep
  simp [Step.rejectsAt_of_lt_start (Nat.lt_of_lt_of_le h hle)]

/-- Where only the end of the text is found, nothing ahead is blanked out. -/
theorem blankedAhead_of_end {s : Scanner} (hend : s.nextToken.answer = .ok none) :
    s.blankedAhead = s.cursor.ahead := by
  have hnone : ∀ n, s.steps.any (·.rejectsAt n) = false := by
    intro n
    simp [steps_of_end hend, Step.rejectsAt, Step.isRejection, Reply.step, hend]
  rw [blankedAhead, Text.blankWhere_eq_map fun n _ _ => hnone n]
  simp

/-- Where a scanner finds something, the next run is blanked out if it is rejected, and the white
space before it stays. -/
theorem Finds.blankedAhead_eq {s : Scanner} {gap text rest : List Char}
    {result : Except LexError Token} (h : s.Finds gap text rest result) :
    s.blankedAhead =
      gap ++ ((text.map fun c => if s.nextToken.step.isRejection then ' ' else c) ++
        s.nextToken.scanner.blankedAhead) := by
  have hfound : s.nextToken.answer ≠ .ok none := by
    rw [h.answer_eq]
    cases result <;> simp [Except.map]
  have hstart : s.nextToken.step.start.offset = s.location.offset + Text.byteSize gap := by
    simp [Reply.step, h.tokenStart_eq, Location.offset_after]
  have hstop : s.nextToken.step.stop.offset =
      s.location.offset + Text.byteSize gap + Text.byteSize text := by
    simp [Reply.step, h.location_nextToken, Location.offset_after]
  have hplace : s.nextToken.scanner.location.offset = s.nextToken.step.stop.offset := rfl
  let p := fun n => s.steps.any (·.rejectsAt n)
  have hp : ∀ n, p n = (s.nextToken.step.rejectsAt n ||
      s.nextToken.scanner.steps.any (·.rejectsAt n)) := by
    intro n
    simp only [p, steps_of_result hfound, List.any_cons]
  -- Only the first step can reject what lies before its end, and it rejects nothing behind it.
  have hgap : Text.blankWhere p s.location.offset gap = gap := by
    have hnone : ∀ n, s.location.offset ≤ n → n < s.location.offset + Text.byteSize gap →
        p n = false := by
      intro n _ hlt
      rw [hp, Step.rejectsAt_of_lt_start (by omega), any_rejectsAt_of_lt (by omega)]
      rfl
    simp [Text.blankWhere_eq_map hnone]
  have htext : Text.blankWhere p (s.location.offset + Text.byteSize gap) text =
      text.map fun c => if s.nextToken.step.isRejection then ' ' else c := by
    refine Text.blankWhere_eq_map fun n hle hlt => ?_
    rw [hp, Step.rejectsAt_of_mem (by omega) (by omega), any_rejectsAt_of_lt (by omega),
      Bool.or_false]
  have hrest : Text.blankWhere p s.nextToken.step.stop.offset rest =
      s.nextToken.scanner.blankedAhead := by
    rw [blankedAhead, h.ahead_nextToken, hplace]
    refine Text.blankWhere_congr (fun n hle => ?_) rest
    rw [hp, Step.rejectsAt_of_stop_le hle, Bool.false_or]
  rw [blankedAhead, h.ahead, Text.blankWhere_append, Text.blankWhere_append, ← hstop]
  exact congrArg₂ _ hgap (congrArg₂ _ htext hrest)

/-- A run that is rejected holds no white space. -/
theorem Finds.isBare_of_isRejection {s : Scanner} {gap text rest : List Char}
    {result : Except LexError Token} (h : s.Finds gap text rest result)
    (hrejection : s.nextToken.step.isRejection = true) : ∀ c ∈ text, Text.isBare c = true := by
  rw [Step.isRejection, Reply.step, h.answer_eq] at hrejection
  cases h.reads with
  | token hspells hends => simp [Except.map] at hrejection
  | unterminated hbody => simp [Except.map] at hrejection
  | misfit hfirst hrun => exact hrun.inside

/-- The scanner `s'` has ahead what is ahead of `s` with the rejected runs blanked out, but for
some white space, behind which it has the line and the column of `s`. -/
def LagsBehind (s s' : Scanner) : Prop :=
  ∃ space, Text.IsSpace space ∧ s'.cursor.ahead = space ++ s.blankedAhead ∧
    (s'.location.after space).withoutOffset = s.location.withoutOffset

namespace LagsBehind

variable {s s' : Scanner}

/-- The scanner of the blanked text does not notice a rejected run: it has more white space to
pass over. -/
theorem of_rejection (h : LagsBehind s s') (hrejection : s.nextToken.step.isRejection = true) :
    LagsBehind s.nextToken.scanner s' := by
  obtain ⟨space, hspace, hahead, hplace⟩ := h
  have hfound : s.nextToken.answer ≠ .ok none := by
    intro hend
    simp [Step.isRejection, Reply.step, hend] at hrejection
  obtain ⟨gap, text, rest, result, hfinds⟩ := exists_finds hfound
  have hline := Text.newline_not_mem (hfinds.isBare_of_isRejection hrejection)
  have hblank : Text.IsSpace (text.map fun _ => ' ') := by simp [Text.IsSpace]
  refine ⟨space ++ (gap ++ text.map fun _ => ' '), ?_, ?_, ?_⟩
  · exact List.forall_mem_append.mpr ⟨hspace, List.forall_mem_append.mpr ⟨hfinds.space, hblank⟩⟩
  · simp [hahead, hfinds.blankedAhead_eq, hrejection]
  · rw [hfinds.location_nextToken, Location.after_append, Location.after_append]
    exact Location.withoutOffset_after_blank (Location.withoutOffset_after hplace gap) hline

/-- The scanner of the blanked text finds what is not rejected behind its white space, at the same
line and column. -/
theorem finds (h : LagsBehind s s') {gap text rest : List Char} {result : Except LexError Token}
    (hfinds : s.Finds gap text rest result) (hrejection : s.nextToken.step.isRejection = false) :
    ∃ gap', s'.Finds gap' text s.nextToken.scanner.blankedAhead
        (result.mapError (·.movedTo (s'.location.after gap'))) ∧
      (s'.location.after gap').withoutOffset = (s.location.after gap).withoutOffset := by
  obtain ⟨space, hspace, hahead, hplace⟩ := h
  have hresult : ∀ run place, result ≠ .error (.invalidToken run place) := by
    rintro run place rfl
    simp [Step.isRejection, Reply.step, hfinds.answer_eq, Except.map] at hrejection
  have hreads := hfinds.reads.blankWhere hresult
    (fun n => s.nextToken.scanner.steps.any (·.rejectsAt n)) s.nextToken.scanner.location.offset
  rw [← hfinds.ahead_nextToken] at hreads
  refine ⟨space ++ gap, ⟨?_, ?_, hreads.movedTo _⟩, ?_⟩
  · simp [hahead, hfinds.blankedAhead_eq, hrejection]
  · exact List.forall_mem_append.mpr ⟨hspace, hfinds.space⟩
  · rw [Location.after_append]
    exact Location.withoutOffset_after hplace gap

/-- Both scanners take the same step over what is not rejected, and the scanner of the blanked text
lags behind from there. -/
theorem nextToken (h : LagsBehind s s') (hfound : s.nextToken.answer ≠ .ok none)
    (hrejection : s.nextToken.step.isRejection = false) :
    LagsBehind s.nextToken.scanner s'.nextToken.scanner ∧
      s'.nextToken.answer ≠ .ok none ∧
      s'.nextToken.step.withoutOffset = s.nextToken.step.withoutOffset := by
  obtain ⟨gap, text, rest, result, hfinds⟩ := exists_finds hfound
  obtain ⟨gap', hfinds', hstart⟩ := h.finds hfinds hrejection
  have hstop := Location.withoutOffset_after hstart text
  refine ⟨⟨[], by simp [Text.IsSpace], hfinds'.ahead_nextToken, ?_⟩, ?_, ?_⟩
  · rwa [Location.after_nil, hfinds.location_nextToken, hfinds'.location_nextToken]
  · rw [hfinds'.answer_eq]
    cases result <;> simp [Except.map, Except.mapError]
  · simp only [Step.withoutOffset, Reply.step, hfinds.tokenStart_eq, hfinds'.tokenStart_eq,
      hfinds.location_nextToken, hfinds'.location_nextToken, hstart, hstop, hfinds.answer_eq,
      hfinds'.answer_eq, Step.mk.injEq, true_and]
    cases result with
    | ok token => rfl
    | error error =>
      have hlocation := hfinds.reads.error_location
      exact congrArg Except.error (LexError.withoutOffset_movedTo (hlocation ▸ hstart))

/-- The steps of the scanner of the blanked text are those of the other scanner, without the
rejections. -/
theorem steps_eq (h : LagsBehind s s') :
    s'.steps.map Step.withoutOffset =
      (s.steps.filter fun step => !step.isRejection).map Step.withoutOffset := by
  induction s using request_induction generalizing s' with
  | ended s hend =>
    obtain ⟨space, hspace, hahead, hplace⟩ := h
    rw [blankedAhead_of_end hend] at hahead
    have hspace' : Text.IsSpace s'.cursor.ahead := by
      rw [hahead]
      exact List.forall_mem_append.mpr ⟨hspace, isSpace_of_answer hend⟩
    have hstop := Location.withoutOffset_after hplace s.cursor.ahead
    rw [← Location.after_append, ← hahead] at hstop
    rw [steps_of_end hend, steps_of_end (answer_of_isSpace hspace'),
      nextToken_of_isSpace (isSpace_of_answer hend), nextToken_of_isSpace hspace']
    simpa [Reply.step, Step.withoutOffset, Step.isRejection, location] using hstop
  | found s hfound ih =>
    rw [steps_of_result hfound]
    cases hrejection : s.nextToken.step.isRejection with
    | true =>
      rw [List.filter_cons_of_neg (by simp [hrejection])]
      exact ih (h.of_rejection hrejection)
    | false =>
      obtain ⟨hlags, hfound', hstep⟩ := h.nextToken hfound hrejection
      rw [List.filter_cons_of_pos (by simp [hrejection]), steps_of_result hfound', List.map_cons,
        List.map_cons, hstep, ih hlags]

end LagsBehind

/-- A scanner that has read the whole source stays at its end, however often it is asked. -/
theorem HasRead.afterRequests_of_end {source : String} {s : Scanner}
    (h : s.HasRead source source.toList) (n : ℕ) :
    (s.afterRequests n).HasRead source source.toList := by
  obtain ⟨more, hmore⟩ := h.afterRequests n
  have hnone : more = [] := by
    have hle := hmore.length_le
    rw [List.length_append, String.length_toList] at hle
    exact List.eq_nil_of_length_eq_zero (by omega)
  rwa [hnone, List.append_nil] at hmore

/-- The only step of a scanner that has read the whole source finds nothing, at the end. -/
theorem HasRead.steps_of_end {source : String} {s : Scanner} (h : s.HasRead source source.toList) :
    s.nextToken.answer = .ok none ∧
      s.steps = [⟨.behind source.toList, .behind source.toList, .ok none⟩] := by
  have hahead : s.cursor.ahead = [] := h.ahead_eq_nil_iff.mpr rfl
  have hspace : Text.IsSpace s.cursor.ahead := by simp [hahead, Text.IsSpace]
  have hlocation : s.location = .behind source.toList := h.location_eq
  have hnext := nextToken_of_isSpace hspace
  refine ⟨by rw [hnext], ?_⟩
  rw [Scanner.steps_of_end (by rw [hnext]), hnext]
  simpa [Reply.step, hahead, location] using hlocation

/-- The step of the given number is the last one before the end of the source. -/
structure EndsBehind (source : String) (i : ℕ) : Prop where
  /-- The only step behind it finds nothing, at the end of the source. -/
  last : (ofSource source).steps.drop (i + 1) =
    [⟨.behind source.toList, .behind source.toList, .ok none⟩]
  /-- Behind the step every request finds nothing. -/
  answer : ∀ n, i < n → ((ofSource source).afterRequests n).nextLocated.answer = .ok none
  /-- Behind the step the scanner stands at the end of the source. -/
  offset : ∀ n, i < n →
    ((ofSource source).afterRequests n).location.offset = source.utf8ByteSize

/-- A string that is never closed leads to the end of the source. -/
theorem endsBehind_of_unterminated {source : String} {i : ℕ} {step : Step} {start : Location}
    (hstep : (ofSource source).steps[i]? = some step)
    (houtcome : step.outcome = .error (.unterminatedString start)) : EndsBehind source i := by
  have hnew : (ofSource source).HasRead source [] := Cursor.hasRead_ofSource source
  obtain ⟨front, hfront⟩ := hnew.afterRequests i
  have hanswer : ((ofSource source).afterRequests i).nextToken.answer =
      .error (.unterminatedString start) := by
    rw [eq_step_of_getElem? hstep] at houtcome
    exact houtcome
  obtain ⟨gap, text, rest, hfinds⟩ := exists_finds_of_error hanswer
  -- The string takes all that is left, so the whole source has been read behind it.
  have hend : ((ofSource source).afterRequests (i + 1)).HasRead source source.toList := by
    have hread := hfront.nextToken_of_finds hfinds
    have hsource := hfront.source_eq_of_finds hfinds
    rw [hfinds.reads.rest_of_unterminated, List.append_nil] at hsource
    rw [← hsource] at hread
    rw [afterRequests_add]
    exact hread
  have hlater : ∀ n, i < n → ((ofSource source).afterRequests n).HasRead source source.toList := by
    intro n hn
    obtain ⟨k, rfl⟩ := Nat.exists_eq_add_of_le (Nat.succ_le_of_lt hn)
    rw [Nat.succ_eq_add_one, afterRequests_add]
    exact hend.afterRequests_of_end k
  refine ⟨?_, ?_, ?_⟩
  · have hlt : i < (ofSource source).steps.length := (List.getElem?_eq_some_iff.mp hstep).1
    have hfound : ((ofSource source).afterRequests i).nextToken.answer ≠ .ok none := by
      simp [hanswer]
    rw [← List.drop_drop, drop_steps hlt, steps_of_result hfound, List.drop_one, List.tail_cons,
      ← hend.steps_of_end.2, afterRequests_add]
    rfl
  · intro n hn
    rw [nextLocated_answer, (hlater n hn).steps_of_end.1]
    rfl
  · intro n hn
    exact (hlater n hn).offset_eq.trans (Text.byteSize_toList source)

end Scanner

/-- The source with a space for every character of a run that a scan of it rejects. -/
def blanked (source : String) : String :=
  String.ofList (Scanner.ofSource source).blankedAhead

/-- A scan that carries on after errors is a sequence of requests for located tokens. The scan of
the source with all rejected runs blanked out takes the same steps in the same order, with the same
results at the same lines and columns, but for the rejections. A string that is never closed is
met at the last step before the end of the source, where every later request stays. -/
theorem rejections_are_local (source : String) :
    (∀ (i : ℕ) (step : Step), (Scanner.ofSource source).steps[i]? = some step →
      ((Scanner.ofSource source).afterRequests i).nextLocated.answer =
        step.outcome.map (Option.map fun token => (step.start, token))) ∧
    (Scanner.ofSource (blanked source)).steps.map Step.withoutOffset =
      ((Scanner.ofSource source).steps.filter fun step => !step.isRejection).map
        Step.withoutOffset ∧
    (∀ (i : ℕ) (step : Step) (start : Location), (Scanner.ofSource source).steps[i]? = some step →
      step.outcome = .error (.unterminatedString start) → Scanner.EndsBehind source i) := by
  refine ⟨?_, ?_, ?_⟩
  · intro i step hstep
    rw [Scanner.eq_step_of_getElem? hstep]
    rfl
  · refine Scanner.LagsBehind.steps_eq ⟨[], by simp [Text.IsSpace], ?_, rfl⟩
    exact String.toList_ofList
  · intro i step start hstep houtcome
    exact Scanner.endsBehind_of_unterminated hstep houtcome

/-- A rejected run that touches a number is blanked out, with a digit of two bytes in it. The
string that is never closed is met once, and what is left of the source belongs to it. -/
theorem rejections_are_local_touching :
    blanked "3.1٣ x\n\"a .5" = "3    x\n\"a .5" ∧
      (Scanner.ofSource "3    x\n\"a .5").steps.map Step.withoutOffset =
        ((Scanner.ofSource "3.1٣ x\n\"a .5").steps.filter fun step => !step.isRejection).map
          Step.withoutOffset ∧
      ((Scanner.ofSource "3.1٣ x\n\"a .5").afterRequests 3).nextLocated.answer =
        .error (.unterminatedString ⟨8, 2, 1⟩) ∧
      Scanner.EndsBehind "3.1٣ x\n\"a .5" 3 := by
  have hblanked : blanked "3.1٣ x\n\"a .5" = "3    x\n\"a .5" := by decide +kernel
  have hopen : (Scanner.ofSource "3.1٣ x\n\"a .5").steps[3]?.map Step.outcome =
      some (.error (.unterminatedString ⟨8, 2, 1⟩)) := by decide +kernel
  obtain ⟨step, hstep, houtcome⟩ := Option.map_eq_some_iff.mp hopen
  obtain ⟨hanswers, hsteps, hend⟩ := rejections_are_local "3.1٣ x\n\"a .5"
  rw [hblanked] at hsteps
  refine ⟨hblanked, hsteps, ?_, hend 3 step _ hstep houtcome⟩
  rw [hanswers 3 step hstep, houtcome]
  rfl

end Lexis
