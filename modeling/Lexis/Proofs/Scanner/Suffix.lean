import Lexis.Proofs.Scanner.Parallel
import Lexis.Proofs.Source.Translation
import Lexis.Scanner.Steps

/-!
# Scanning has no memory

Wherever a scanner stands, and whatever it was asked before, it goes on like a new scanner of the
rest of the source. The places that it reports are those of the new scanner, translated to where it
stands. The words for lines and columns hold them all if they hold the number of characters.
-/

namespace Lexis

/-- The error with its place translated to `origin`. -/
def LexError.translate (origin : Location) (error : LexError) : LexError :=
  error.movedTo (origin.translate error.location)

/-- The step with all its places translated to `origin`. -/
def Step.translate (origin : Location) (step : Step) : Step where
  start := origin.translate step.start
  stop := origin.translate step.stop
  outcome := step.outcome.mapError (.translate origin)

section

variable {front text : List Char}

/-- A shifted place is a translated one. -/
theorem Location.Shifted.eq_translate {m l : Location} (h : Shifted front text m l)
    (hlength : front.length + text.length < UInt32.size - 1) :
    l = (behind front).translate m ∧ (behind front).Fits m := by
  obtain ⟨done, hdone, rfl, rfl⟩ := h
  have hshort : front.length + done.length < UInt32.size - 1 := by
    have hle := hdone.length_le
    omega
  exact ⟨behind_append hshort, fits_behind hshort⟩

/-- An answer with a shifted place is one with the place translated. -/
theorem Relocated.eq_mapError {α : Type} {r r' : Except LexError α} (h : Relocated front text r r')
    (hlength : front.length + text.length < UInt32.size - 1) :
    r' = r.mapError (.translate (.behind front)) ∧
      ∀ error, r = .error error → (Location.behind front).Fits error.location := by
  cases h with
  | ok x => exact ⟨rfl, fun error herror => nomatch herror⟩
  | error hplace =>
    obtain ⟨rfl, hfits⟩ := hplace.eq_translate hlength
    refine ⟨rfl, fun error herror => ?_⟩
    obtain rfl := Except.error.inj herror
    exact hfits

end

namespace Scanner

/-- A request to the scanner `s` is answered as one to `fresh` is, with every place translated to
`origin`. No word overflows. -/
structure AnswersAs (origin : Location) (fresh s : Scanner) : Prop where
  /-- Both give the same token, or the same error at corresponding places, or find the end. -/
  answer : s.nextToken.answer = fresh.nextToken.answer.mapError (.translate origin)
  /-- The places where the token starts correspond. -/
  tokenStart : s.nextToken.scanner.tokenStart =
    origin.translate fresh.nextToken.scanner.tokenStart
  /-- The places where the scanners stand afterwards correspond. -/
  location : s.nextToken.scanner.location = origin.translate fresh.nextToken.scanner.location
  /-- The words hold the place of an error. -/
  errorFits : ∀ error, fresh.nextToken.answer = .error error → origin.Fits error.location
  /-- The words hold the place where the token starts. -/
  startFits : origin.Fits fresh.nextToken.scanner.tokenStart
  /-- The words hold the place where the scanner stands afterwards. -/
  stopFits : origin.Fits fresh.nextToken.scanner.location

/-- A request that is answered as one to another scanner makes the translated step. -/
theorem AnswersAs.step_eq {origin : Location} {fresh s : Scanner} (h : AnswersAs origin fresh s) :
    s.nextToken.step = fresh.nextToken.step.translate origin := by
  simp only [Reply.step, Step.translate, h.answer, h.tokenStart, h.location]

/-- A request that is answered as one to another scanner finds the end of the text where that
does. -/
theorem AnswersAs.end_iff {origin : Location} {fresh s : Scanner} (h : AnswersAs origin fresh s) :
    s.nextToken.answer = .ok none ↔ fresh.nextToken.answer = .ok none := by
  rw [h.answer]
  cases fresh.nextToken.answer <;> simp [Except.mapError]

namespace Parallel

variable {source : String} {front : List Char} {text : String} {t s : Scanner}

/-- Of scanners in parallel, the one with more text in front gives the translated answers. -/
theorem answersAs (h : Parallel source front text t s)
    (hlength : source.length < UInt32.size - 1) : AnswersAs (.behind front) t s := by
  have hboth : front.length + text.toList.length < UInt32.size - 1 := by
    rwa [← List.length_append, ← h.source_eq, String.length_toList]
  obtain ⟨hparallel, hstart, hanswer⟩ := h.nextToken
  obtain ⟨hanswer, herror⟩ := hanswer.eq_mapError hboth
  obtain ⟨hstart, hstartFits⟩ := hstart.eq_translate hboth
  obtain ⟨hstop, hstopFits⟩ := hparallel.location.eq_translate hboth
  exact ⟨hanswer, hstart, hstop, herror, hstartFits, hstopFits⟩

/-- Of scanners in parallel, the one with more text in front takes the translated steps of the
other. -/
theorem steps_eq (h : Parallel source front text t s) (hlength : source.length < UInt32.size - 1) :
    s.steps = t.steps.map (.translate (.behind front)) := by
  induction t using request_induction generalizing s with
  | ended t hend =>
    have halike := h.answersAs hlength
    rw [steps_of_end hend, steps_of_end (halike.end_iff.mpr hend), halike.step_eq]
    rfl
  | found t hfound ih =>
    have halike := h.answersAs hlength
    rw [steps_of_result hfound, steps_of_result (mt halike.end_iff.mp hfound), halike.step_eq,
      ih h.nextToken.1]
    rfl

end Parallel

end Scanner

/-- A scanner that was asked anything before, with whatever result, goes on as a new scanner of the
rest of its source does: every further request gets the translated answer, and so the steps that
are left are the translated steps of the new scanner. -/
theorem scanner_has_no_memory (source : String) (hlength : source.length < UInt32.size - 1)
    (requests : List Scanner.Request) :
    ∃ suffix : String,
      Text.IsSlice source ((Scanner.ofSource source).asked requests).location.offset
        source.utf8ByteSize suffix.toList ∧
      (∀ n, Scanner.AnswersAs ((Scanner.ofSource source).asked requests).location
        ((Scanner.ofSource suffix).afterRequests n)
        (((Scanner.ofSource source).asked requests).afterRequests n)) ∧
      ((Scanner.ofSource source).asked requests).steps = (Scanner.ofSource suffix).steps.map
        (.translate ((Scanner.ofSource source).asked requests).location) := by
  have hnew : (Scanner.ofSource source).HasRead source [] := Cursor.hasRead_ofSource source
  obtain ⟨front, hfront⟩ := hnew.asked requests
  rw [List.nil_append] at hfront
  generalize (Scanner.ofSource source).asked requests = s at hfront
  have hlocation : s.location = .behind front := hfront.location_eq
  have hparallel : Scanner.Parallel source front (String.ofList s.cursor.ahead) (.ofSource _) s :=
    .of_hasRead hfront String.toList_ofList
  refine ⟨String.ofList s.cursor.ahead, ?_, ?_, ?_⟩
  · have hcut : source.toList = front ++ s.cursor.ahead ++ [] := by
      rw [List.append_nil, hfront.text]
    have hend : source.utf8ByteSize = (Location.behind (front ++ s.cursor.ahead)).offset := by
      rw [← hfront.text]
      exact (Text.byteSize_toList source).symm
    rw [hlocation, hend, String.toList_ofList]
    exact Text.isSlice_behind hcut
  · intro n
    rw [hlocation]
    exact (hparallel.afterRequests n).answersAs hlength
  · rw [hlocation]
    exact hparallel.steps_eq hlength

/-- Behind a string over two lines and a misfit run, the name is scanned as on a line of its own.
The places are those of the second line, five columns further on. -/
theorem scanner_has_no_memory_behind_lines :
    "\"a\nb\" .5 c".length < UInt32.size - 1 ∧
      ∀ n, Scanner.AnswersAs ⟨8, 2, 6⟩ ((Scanner.ofSource " c").afterRequests n)
        (((Scanner.ofSource "\"a\nb\" .5 c").asked [.token, .located]).afterRequests n) := by
  have hplace : ((Scanner.ofSource "\"a\nb\" .5 c").asked [.token, .located]).location =
      ⟨8, 2, 6⟩ := by decide +kernel
  have hrest : Text.IsSlice "\"a\nb\" .5 c" 8 10 " c".toList :=
    ⟨"\"a\nb\" .5".toList, [], by decide +kernel⟩
  obtain ⟨suffix, hslice, halike, _⟩ :=
    scanner_has_no_memory "\"a\nb\" .5 c" (by decide) [.token, .located]
  rw [hplace] at hslice halike
  obtain rfl : suffix = " c" := String.toList_inj.mp (hslice.unique hrest)
  exact ⟨by decide, halike⟩

end Lexis
