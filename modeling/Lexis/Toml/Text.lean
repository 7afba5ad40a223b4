import Lexis.Toml.Digit
import Lexis.Toml.Layout

/-!
# Texts

A text stands between quotation marks, which give escapes a meaning, or between apostrophes, which
do not. Three marks on either side let it extend over several lines.
-/

namespace Lexis.Toml

/-- The mark around texts in which a backslash begins an escape. -/
def quote : Char := '"'

/-- The mark around texts without escapes. -/
def apostrophe : Char := '\''

/-- Takes a character given by the hexadecimal digits of its code point, `width` of them. -/
def codePoint? (width : Nat) (s : List Char) : Option (Char × List Char) :=
  let digits := s.take width
  let code := ofDigits 16 digits
  if digits.length = width ∧ digits.all (isDigitOf 16) ∧ code.isValidChar then
    some (Char.ofNat code, s.drop width)
  else none

/-- Takes the character that an escape stands for. The backslash is taken already. -/
def escape? : List Char → Option (Char × List Char)
  | 'b' :: rest => some ('\x08', rest)
  | 't' :: rest => some ('\t', rest)
  | 'n' :: rest => some ('\n', rest)
  | 'f' :: rest => some ('\x0c', rest)
  | 'r' :: rest => some ('\r', rest)
  | '"' :: rest => some ('"', rest)
  | '\\' :: rest => some ('\\', rest)
  | 'u' :: rest => codePoint? 4 rest
  | 'U' :: rest => codePoint? 8 rest
  | _ => none

/-- The text after a backslash at the end of a line: it joins the line to the next text on the
lines that follow. -/
def joinLines? (s : List Char) : Option (List Char) :=
  (afterLineEnd? (skipBlanks s)).map skipBreaks

/-- Taking an escape leaves a text that is no longer than the whole. -/
theorem escape?_length_le {s rest : List Char} {c : Char} (h : escape? s = some (c, rest)) :
    rest.length ≤ s.length := by
  have hcode : ∀ {width : Nat} {s : List Char}, codePoint? width s = some (c, rest) →
      rest.length ≤ s.length := by
    intro width s hs
    simp only [codePoint?] at hs
    split at hs
    · simp only [Option.some.injEq, Prod.mk.injEq] at hs
      simp [← hs.2]
    · cases hs
  unfold escape? at h
  split at h
  case h_8 | h_9 => exact Nat.le_succ_of_le (hcode h)
  case h_10 => cases h
  all_goals
    simp only [Option.some.injEq, Prod.mk.injEq] at h
    simp [← h.2]

/-- Skipping blanks and line ends leaves a text that is no longer than the whole. -/
theorem skipBreaks_length_le (s : List Char) : (skipBreaks s).length ≤ s.length := by
  fun_induction skipBreaks s with
  | case1 rest ih => exact Nat.le_succ_of_le ih
  | case2 rest ih => exact Nat.le_succ_of_le ih
  | case3 rest ih => exact Nat.le_succ_of_le ih
  | case4 rest ih => exact Nat.le_succ_of_le (Nat.le_succ_of_le ih)
  | case5 => exact Nat.le_refl _

/-- The text behind a line end is no longer than the whole. -/
theorem afterLineEnd?_length_le {s rest : List Char} (h : afterLineEnd? s = some rest) :
    rest.length ≤ s.length := by
  unfold afterLineEnd? at h
  split at h
  · cases h
    exact Nat.le_succ _
  · cases h
    exact Nat.le_succ_of_le (Nat.le_succ _)
  · cases h

/-- Joining lines leaves a text that is no longer than the whole. -/
theorem joinLines?_length_le {s rest : List Char} (h : joinLines? s = some rest) :
    rest.length ≤ s.length := by
  simp only [joinLines?, Option.map_eq_some_iff] at h
  obtain ⟨next, hnext, rfl⟩ := h
  have hblanks : (skipBlanks s).length ≤ s.length := (List.dropWhile_sublist _).length_le
  have hend : next.length ≤ (skipBlanks s).length := afterLineEnd?_length_le hnext
  exact Nat.le_trans (skipBreaks_length_le next) (Nat.le_trans hend hblanks)

/-- Reads a text on one line up to its closing mark. What was read before is in `taken`, the last
character first. -/
def lineText (mark : Char) (taken : List Char) (s : List Char) :
    Except Fault (String × List Char) :=
  match s with
  | [] => fault "a text is not closed" s
  | c :: rest =>
    if c = mark then .ok (String.ofList taken.reverse, rest)
    else if mark = quote ∧ c = '\\' then
      match _hescape : escape? rest with
      | some (meant, after) => lineText mark (meant :: taken) after
      | none => fault "unknown escape in a text" rest
    else if isPlain c then lineText mark (c :: taken) rest
    else fault "this character cannot stand in a text" s
termination_by s.length
decreasing_by
  · have := escape?_length_le _hescape
    simp only [List.length_cons]
    omega
  · simp

/-- Reads a text over several lines up to its three closing marks. One or two marks that do not
belong to three belong to the text, also just before the closing ones. -/
def blockText (mark : Char) (taken : List Char) (s : List Char) :
    Except Fault (String × List Char) :=
  match s with
  | [] => fault "a text is not closed" s
  | c :: rest =>
    let marks := (s.takeWhile (· = mark)).length
    if 3 ≤ marks then
      let own := min (marks - 3) 2
      .ok (String.ofList (taken.reverse ++ List.replicate own mark), s.drop (own + 3))
    else if mark = quote ∧ c = '\\' then
      match _hjoin : joinLines? rest with
      | some after => blockText mark taken after
      | none =>
        match _hescape : escape? rest with
        | some (meant, after) => blockText mark (meant :: taken) after
        | none => fault "unknown escape in a text" rest
    else if c = '\r' ∧ rest.head? = some '\n' then blockText mark taken rest
    else if c = '\n' ∨ isPlain c then blockText mark (c :: taken) rest
    else fault "this character cannot stand in a text" s
termination_by s.length
decreasing_by
  · have := joinLines?_length_le _hjoin
    simp only [List.length_cons]
    omega
  · have := escape?_length_le _hescape
    simp only [List.length_cons]
    omega
  · simp
  · simp

/-- The text after one line end, if it begins with one. -/
def skipLineEnd (s : List Char) : List Char :=
  (afterLineEnd? s).getD s

/-- Reads a text on one line or over several, after its first mark. -/
def text (mark : Char) (s : List Char) : Except Fault (String × List Char) :=
  match s with
  | c :: d :: rest =>
    if c = mark ∧ d = mark then blockText mark [] (skipLineEnd rest) else lineText mark [] s
  | _ => lineText mark [] s

end Lexis.Toml
