import Lexis.Proofs.Json.Numerals

/-!
# What is written reads back

A reader finds in a written document what the document means, whichever blanks the layout adds. Of
the escapes in texts the writer needs a few only, and each in one way. What is not escaped neither
ends a text nor begins an escape. A list ends at the first bracket that does not belong to an item,
and a number at the comma, the blank or the bracket behind it.
-/

namespace Lexis.Json

/-- The last two digits of a control character's code give the code back. -/
theorem ofDigits_hexDigit : ∀ n < 0x20,
    ['0', '0', hexDigit (n / 16), hexDigit (n % 16)].all (Toml.isDigitOf 16) = true ∧
      Toml.ofDigits 16 ['0', '0', hexDigit (n / 16), hexDigit (n % 16)] = n ∧
      n.isValidChar := by
  decide

/-- A character is read back from the form in which it stands in a text. -/
theorem character?_escape (c : Char) (rest : List Char) :
    character? (escape c ++ rest) = some (c, rest) := by
  unfold escape
  split
  case h_8 hquote hbackslash _ _ _ _ _ =>
    split
    · next hcontrol =>
      obtain ⟨hdigits, hvalue, hvalid⟩ := ofDigits_hexDigit c.toNat hcontrol
      simp [character?, escaped?, coded?, unit?, hdigits, hvalue, hvalid]
    · next hplain =>
      rw [List.singleton_append, character?]
      · rw [if_neg (by rintro (rfl | hcontrol) <;> contradiction)]
      · rintro rfl
        exact hbackslash rfl
  all_goals rfl

/-- One round takes a character, unless the text ends. -/
theorem characters?_succ {s rest rest' : List Char} {c : Char} {later : List Char} {fuel : ℕ}
    (h : character? s = some (c, rest)) (hlater : characters? fuel rest = some (later, rest')) :
    characters? (fuel + 1) s = some (c :: later, rest') := by
  rw [characters?]
  · simp [h, hlater]
  · rintro rest' rfl
    cases h

/-- The forms of characters one after the other give the characters, up to the closing mark. -/
theorem characters?_flatMap_escape (chars rest : List Char) {fuel : ℕ}
    (hfuel : chars.length < fuel) :
    characters? fuel (chars.flatMap escape ++ '"' :: rest) = some (chars, rest) := by
  induction chars generalizing fuel with
  | nil =>
    obtain ⟨fuel, rfl⟩ := Nat.exists_eq_add_one_of_ne_zero (Nat.ne_zero_of_lt hfuel)
    rfl
  | cons c chars ih =>
    obtain ⟨fuel, rfl⟩ := Nat.exists_eq_add_one_of_ne_zero (Nat.ne_zero_of_lt hfuel)
    rw [List.flatMap_cons, List.append_assoc]
    exact characters?_succ (character?_escape c _) (ih (Nat.lt_of_succ_lt_succ hfuel))

/-- The form of a text has no fewer characters than the text. -/
theorem length_le_flatMap_escape (chars : List Char) :
    chars.length ≤ (chars.flatMap escape).length := by
  induction chars with
  | nil => exact Nat.le_refl _
  | cons c chars ih =>
    have hc : escape c ≠ [] := by
      unfold escape
      split <;> simp
      split <;> simp
    have hlength := List.length_pos_iff.mpr hc
    rw [List.flatMap_cons, List.length_append, List.length_cons]
    omega

/-- A text between quotation marks is read back. -/
theorem text?_quoted (s : String) (rest : List Char) :
    text? (quoted s ++ rest) = some (s, rest) := by
  have hlength := length_le_flatMap_escape s.toList
  have hchars : characters? (s.toList.flatMap escape ++ '"' :: rest).length
      (s.toList.flatMap escape ++ '"' :: rest) = some (s.toList, rest) := by
    refine characters?_flatMap_escape s.toList rest ?_
    rw [List.length_append, List.length_cons]
    omega
  have hquoted : quoted s ++ rest = '"' :: (s.toList.flatMap escape ++ '"' :: rest) := by
    simp [quoted]
  rw [hquoted, text?, hchars]
  exact congrArg some (congrArg (·, rest) String.ofList_toList)

mutual

/-- What a value means to a reader. Doubles are given by their shortest decimals. -/
def meaning : Json → Value
  | text s => .text s
  | natural n => .number false n
  | double x => .number x.isNegative (x.shortest .toEven).value
  | boolean b => .boolean b
  | array items => .array (itemMeanings items)
  | object members => .object (memberMeanings members)

/-- What the items of a list mean to a reader. -/
def itemMeanings : List Json → List Value
  | [] => []
  | item :: rest => meaning item :: itemMeanings rest

/-- What the members of an object mean to a reader, by their names. -/
def memberMeanings : List (String × Json) → List (String × Value)
  | [] => []
  | (name, value) :: rest => (name, meaning value) :: memberMeanings rest

end

mutual

/-- All doubles in a value are finite. Others cannot be written. -/
def Finite : Json → Prop
  | double x => x.isFinite = true
  | array items => ItemsFinite items
  | object members => MembersFinite members
  | _ => True

/-- All doubles in the items of a list are finite. -/
def ItemsFinite : List Json → Prop
  | [] => True
  | item :: rest => Finite item ∧ ItemsFinite rest

/-- All doubles in the members of an object are finite. -/
def MembersFinite : List (String × Json) → Prop
  | [] => True
  | (_, value) :: rest => Finite value ∧ MembersFinite rest

end

/-- A layout adds blanks only, and a colon between a name and its value. -/
structure Layout.AddsBlanks (layout : Layout) : Prop where
  /-- Blanks stand before items and brackets. -/
  lineBreak : ∀ level, (layout.lineBreak level).all isBlank = true
  /-- Blanks may follow the colon. -/
  colon : ∃ gap, layout.colon = ':' :: gap ∧ gap.all isBlank = true

/-- The layout with one item a line adds blanks only. -/
theorem Layout.addsBlanks_pretty : Layout.pretty.AddsBlanks where
  lineBreak := by
    intro level
    simp [Layout.pretty, isBlank]
  colon := ⟨[' '], rfl, rfl⟩

/-- The layout without any blanks adds blanks only. -/
theorem Layout.addsBlanks_compact : Layout.compact.AddsBlanks where
  lineBreak := fun _ => rfl
  colon := ⟨[], rfl, rfl⟩

/-- Blanks are skipped. -/
theorem skipBlanks_append {gap : List Char} (hgap : gap.all isBlank = true) (s : List Char) :
    skipBlanks (gap ++ s) = skipBlanks s := by
  rw [skipBlanks, List.dropWhile_append_of_pos (List.all_eq_true.mp hgap)]
  rfl

/-- A text that begins with no blank is not skipped. -/
theorem skipBlanks_cons {c : Char} (hc : isBlank c = false) (s : List Char) :
    skipBlanks (c :: s) = c :: s := by
  simp [skipBlanks, hc]

/-- Blanks before a value are skipped. -/
theorem value?_append {gap : List Char} (hgap : gap.all isBlank = true) (depth : ℕ)
    (s : List Char) : value? depth (gap ++ s) = value? depth s := by
  cases depth with
  | zero => rfl
  | succ depth => simp only [value?, skipBlanks_append hgap]

/-- A text that begins like a number is read as a number. -/
theorem value?_eq_number? {c : Char} (hc : c = '-' ∨ c.isDigit = true) (depth : ℕ)
    (s : List Char) : value? (depth + 1) (c :: s) = number? (c :: s) := by
  have hblank : isBlank c = false := by
    refine Bool.eq_false_iff.mpr fun hblank => ?_
    simp only [isBlank, Bool.or_eq_true, beq_iff_eq] at hblank
    rcases hblank with ((rfl | rfl) | rfl) | rfl <;> exact absurd hc (by decide)
  rw [value?, skipBlanks_cons hblank]
  split
  case h_7 => rfl
  all_goals
    next hword =>
    obtain ⟨rfl, -⟩ := List.cons.inj hword
    exact absurd hc (by decide)

/-- No value begins with a closing bracket. -/
theorem exists_head_of_value? {depth : ℕ} {s : List Char} {read : Value × List Char}
    (h : value? depth s = some read) : ∃ c rest, skipBlanks s = c :: rest ∧ c ≠ ']' := by
  cases depth with
  | zero => cases h
  | succ depth =>
    rw [value?] at h
    split at h
    case h_7 =>
      cases hs : skipBlanks s with
      | nil =>
        rw [hs] at h
        cases h
      | cons c rest =>
        refine ⟨c, rest, rfl, ?_⟩
        rintro rfl
        rw [hs] at h
        cases h
    all_goals
      next hword => exact ⟨_, _, hword, by decide⟩

/-- A text is read as a text. -/
theorem value?_quoted (s : String) (depth : ℕ) (rest : List Char) :
    value? (depth + 1) (quoted s ++ rest) = some (.text s, rest) := by
  have htext := text?_quoted s rest
  rw [quoted, List.cons_append, List.cons_append] at htext ⊢
  simp only [value?, skipBlanks_cons (show isBlank '"' = false from rfl), htext]
  rfl

section

variable {α : Type} {item : Reader α} {closing : Char} {s rest rest' : List Char} {first : α}
  {later : List α}

/-- A list that is not empty consists of the first item and the others. -/
theorem list?_eq (hitem : item s = some (first, rest))
    (hhead : ∃ c rest, skipBlanks s = c :: rest ∧ c ≠ closing)
    (hlater : more? item closing rest.length rest = some (later, rest')) :
    list? item closing s = some (first :: later, rest') := by
  obtain ⟨c, _, hs, hc⟩ := hhead
  simp [list?, hs, hc, hitem, hlater]

/-- Behind a comma there is another item. -/
theorem more?_comma {fuel : ℕ} (hclosing : closing ≠ ',') (hitem : item s = some (first, rest))
    (hlater : more? item closing fuel rest = some (later, rest')) :
    more? item closing (fuel + 1) (',' :: s) = some (first :: later, rest') := by
  simp [more?, skipBlanks_cons (show isBlank ',' = false from rfl), hclosing.symm, hitem, hlater]

/-- The bracket closes the list. -/
theorem more?_closing (item : Reader α) {fuel : ℕ} (hfuel : 0 < fuel) {gap : List Char}
    (hgap : gap.all isBlank = true) (hclosing : isBlank closing = false) (rest : List Char) :
    more? item closing fuel (gap ++ closing :: rest) = some ([], rest) := by
  obtain ⟨fuel, rfl⟩ := Nat.exists_eq_add_one_of_ne_zero (Nat.ne_of_gt hfuel)
  simp [more?, skipBlanks_append hgap, skipBlanks_cons hclosing]

end

/-- A member is read as its name and its value. -/
theorem member?_eq {layout : Layout} (hlayout : layout.AddsBlanks) {gap : List Char}
    (hgap : gap.all isBlank = true) (name : String) {depth : ℕ} {s rest : List Char}
    {value : Value} (hvalue : value? depth s = some (value, rest)) :
    member? (value? depth) (gap ++ (quoted name ++ (layout.colon ++ s))) =
      some ((name, value), rest) := by
  obtain ⟨colonGap, hcolon, hblank⟩ := hlayout.colon
  have hquoted : skipBlanks (quoted name ++ (layout.colon ++ s)) =
      quoted name ++ (layout.colon ++ s) := by
    rw [quoted, List.cons_append, List.cons_append]
    exact skipBlanks_cons rfl _
  rw [member?, skipBlanks_append hgap, hquoted, text?_quoted, hcolon]
  simp [skipBlanks_cons (show isBlank ':' = false from rfl), value?_append hblank, hvalue]

/-- No member begins with a closing brace. -/
theorem exists_head_of_member? {value : Reader Value} {s : List Char}
    {read : (String × Value) × List Char} (h : member? value s = some read) :
    ∃ c rest, skipBlanks s = c :: rest ∧ c ≠ '\x7d' := by
  cases hs : skipBlanks s with
  | nil =>
    rw [member?, hs] at h
    cases h
  | cons c rest =>
    refine ⟨c, rest, rfl, ?_⟩
    rintro rfl
    rw [member?, hs] at h
    cases h

/-- A text that begins with blanks ends a number if what follows the blanks does. -/
theorem EndsNumber.append {gap rest : List Char} (hgap : gap.all isBlank = true)
    (hrest : EndsNumber rest) : EndsNumber (gap ++ rest) := by
  cases gap with
  | nil => exact hrest
  | cons c gap =>
    intro d hd
    obtain rfl : c = d := by simpa using hd
    have hblank : isBlank c = true := List.all_eq_true.mp hgap c (by simp)
    simp only [isBlank, Bool.or_eq_true, beq_iff_eq] at hblank
    rcases hblank with ((rfl | rfl) | rfl) | rfl <;> decide

/-- A text that begins with a comma or a closing bracket ends a number. -/
theorem endsNumber_cons {c : Char} (hc : c = ',' ∨ c = ']' ∨ c = '\x7d') (rest : List Char) :
    EndsNumber (c :: rest) := by
  intro d hd
  obtain rfl : c = d := by simpa using hd
  rcases hc with rfl | rfl | rfl <;> decide

/-- A number is read as a number. -/
theorem value?_text {n : NumberText} (h : n.Valid) (negative : Bool) (depth : ℕ)
    {rest : List Char} (hrest : EndsNumber rest) :
    value? (depth + 1) ((if negative then ['-'] else []) ++ n.text ++ rest) =
      some (.number negative n.value, rest) := by
  obtain ⟨c, text, htext, hdigit⟩ := h.exists_cons
  rw [← number?_text h negative hrest, htext]
  cases negative with
  | true => exact value?_eq_number? (Or.inl rfl) depth _
  | false => exact value?_eq_number? (Or.inr hdigit) depth _

/-- The items of a list are read between its brackets. -/
theorem value?_array {depth : ℕ} {s rest : List Char} {items : List Value}
    (h : list? (value? depth) ']' s = some (items, rest)) :
    value? (depth + 1) ('[' :: s) = some (.array items, rest) := by
  simp only [value?, skipBlanks_cons (show isBlank '[' = false from rfl), h]
  rfl

/-- The members of an object are read between its braces. -/
theorem value?_object {depth : ℕ} {s rest : List Char} {members : List (String × Value)}
    (h : list? (member? (value? depth)) '\x7d' s = some (members, rest)) :
    value? (depth + 1) ('\x7b' :: s) = some (.object members, rest) := by
  simp only [value?, skipBlanks_cons (show isBlank '\x7b' = false from rfl), h]
  rfl

section

variable {layout : Layout} (hlayout : layout.AddsBlanks)
include hlayout

/-- What follows an item of a list ends a number. -/
theorem endsNumber_writeItems (items : List Json) (level closeLevel : ℕ) (rest : List Char) :
    EndsNumber (writeItems layout level items ++ (layout.lineBreak closeLevel ++ ']' :: rest)) := by
  cases items with
  | nil =>
    rw [writeItems, List.nil_append]
    exact .append (hlayout.lineBreak closeLevel) (endsNumber_cons (Or.inr (Or.inl rfl)) rest)
  | cons item items => exact endsNumber_cons (Or.inl rfl) _

/-- What follows a member of an object ends a number. -/
theorem endsNumber_writeMembers (members : List (String × Json)) (level closeLevel : ℕ)
    (rest : List Char) :
    EndsNumber
      (writeMembers layout level members ++ (layout.lineBreak closeLevel ++ '\x7d' :: rest)) := by
  cases members with
  | nil =>
    rw [writeMembers, List.nil_append]
    exact .append (hlayout.lineBreak closeLevel) (endsNumber_cons (Or.inr (Or.inr rfl)) rest)
  | cons member members => exact endsNumber_cons (Or.inl rfl) _

mutual

/-- A written value is read as what it means. -/
theorem value?_write : (value : Json) → (level depth : ℕ) → {rest : List Char} →
    value.Finite → (write layout level value).length ≤ depth → EndsNumber rest →
    value? depth (write layout level value ++ rest) = some (value.meaning, rest)
  | .text s, level, depth, rest, _, hdepth, _ => by
    simp only [write, quoted, List.length_append, List.length_cons] at hdepth
    obtain ⟨depth, rfl⟩ := Nat.exists_eq_add_one_of_ne_zero (show depth ≠ 0 by omega)
    exact value?_quoted s depth rest
  | .natural n, level, depth, rest, _, hdepth, hrest => by
    obtain ⟨text, hvalid, htext, hvalue⟩ := exists_text_natural n
    have hlength := hvalid.length_pos
    rw [write, htext] at hdepth ⊢
    obtain ⟨depth, rfl⟩ := Nat.exists_eq_add_one_of_ne_zero (show depth ≠ 0 by omega)
    rw [meaning, ← hvalue]
    exact value?_text hvalid false depth hrest
  | .double x, level, depth, rest, hfinite, hdepth, hrest => by
    obtain ⟨text, hvalid, htext, hvalue⟩ := exists_text_double (x := x) hfinite
    have hlength := hvalid.length_pos
    rw [write, htext] at hdepth ⊢
    rw [List.length_append] at hdepth
    obtain ⟨depth, rfl⟩ := Nat.exists_eq_add_one_of_ne_zero (show depth ≠ 0 by omega)
    rw [meaning, ← hvalue]
    exact value?_text hvalid x.isNegative depth hrest
  | .boolean b, level, depth, rest, _, hdepth, _ => by
    have hlength : 0 < (booleanWord b).toList.length := by cases b <;> decide
    rw [write] at hdepth
    obtain ⟨depth, rfl⟩ := Nat.exists_eq_add_one_of_ne_zero (show depth ≠ 0 by omega)
    cases b <;> rfl
  | .array [], level, depth, rest, _, hdepth, _ => by
    obtain ⟨depth, rfl⟩ := Nat.exists_eq_add_one_of_ne_zero (Nat.ne_zero_of_lt hdepth)
    exact value?_array rfl
  | .array (first :: items), level, depth, rest, hfinite, hdepth, _ => by
    -- The bracket takes a character, so one level less is enough for what stands inside.
    simp only [write, List.length_append, List.length_cons] at hdepth
    obtain ⟨depth, rfl⟩ := Nat.exists_eq_add_one_of_ne_zero (show depth ≠ 0 by omega)
    have hfirst := value?_write first (level + 1) depth hfinite.1 (by omega)
      (endsNumber_writeItems hlayout items (level + 1) level rest)
    rw [← value?_append (hlayout.lineBreak (level + 1))] at hfirst
    have hlist := list?_eq hfirst (exists_head_of_value? hfirst)
      (more?_writeItems items (level + 1) depth _ level rest hfinite.2 (by omega)
        (by simp only [List.length_append, List.length_cons]; omega))
    simp only [write, List.append_assoc, List.cons_append, List.nil_append]
    exact value?_array hlist
  | .object [], level, depth, rest, _, hdepth, _ => by
    obtain ⟨depth, rfl⟩ := Nat.exists_eq_add_one_of_ne_zero (Nat.ne_zero_of_lt hdepth)
    exact value?_object rfl
  | .object ((name, value) :: members), level, depth, rest, hfinite, hdepth, _ => by
    simp only [write, List.length_append, List.length_cons] at hdepth
    obtain ⟨depth, rfl⟩ := Nat.exists_eq_add_one_of_ne_zero (show depth ≠ 0 by omega)
    have hvalue := value?_write value (level + 1) depth hfinite.1 (by omega)
      (endsNumber_writeMembers hlayout members (level + 1) level rest)
    have hmember := member?_eq hlayout (hlayout.lineBreak (level + 1)) name hvalue
    have hlist := list?_eq hmember (exists_head_of_member? hmember)
      (more?_writeMembers members (level + 1) depth _ level rest hfinite.2 (by omega)
        (by simp only [List.length_append, List.length_cons]; omega))
    simp only [write, List.append_assoc, List.cons_append, List.nil_append]
    exact value?_object hlist

/-- The items behind the first one are read as what they mean. -/
theorem more?_writeItems : (items : List Json) → (level depth fuel closeLevel : ℕ) →
    (rest : List Char) → ItemsFinite items →
    (writeItems layout level items).length ≤ depth →
    (writeItems layout level items).length < fuel →
    more? (value? depth) ']' fuel
      (writeItems layout level items ++ (layout.lineBreak closeLevel ++ ']' :: rest)) =
        some (itemMeanings items, rest)
  | [], level, depth, fuel, closeLevel, rest, _, _, hfuel =>
    more?_closing _ hfuel (hlayout.lineBreak closeLevel) rfl rest
  | item :: items, level, depth, fuel, closeLevel, rest, hfinite, hdepth, hfuel => by
    simp only [writeItems, List.length_append, List.length_cons] at hdepth hfuel
    obtain ⟨fuel, rfl⟩ := Nat.exists_eq_add_one_of_ne_zero (show fuel ≠ 0 by omega)
    have hitem := value?_write item level depth hfinite.1 (by omega)
      (endsNumber_writeItems hlayout items level closeLevel rest)
    rw [← value?_append (hlayout.lineBreak level)] at hitem
    have hlater := more?_writeItems items level depth fuel closeLevel rest
      hfinite.2 (by omega) (by omega)
    simp only [writeItems, List.append_assoc, List.cons_append]
    exact more?_comma (by decide) hitem hlater

/-- The members behind the first one are read as what they mean. -/
theorem more?_writeMembers : (members : List (String × Json)) → (level depth fuel closeLevel : ℕ) →
    (rest : List Char) → MembersFinite members →
    (writeMembers layout level members).length ≤ depth →
    (writeMembers layout level members).length < fuel →
    more? (member? (value? depth)) '\x7d' fuel
      (writeMembers layout level members ++ (layout.lineBreak closeLevel ++ '\x7d' :: rest)) =
        some (memberMeanings members, rest)
  | [], level, depth, fuel, closeLevel, rest, _, _, hfuel =>
    more?_closing _ hfuel (hlayout.lineBreak closeLevel) rfl rest
  | (name, value) :: members, level, depth, fuel, closeLevel, rest, hfinite, hdepth, hfuel => by
    simp only [writeMembers, List.length_append, List.length_cons] at hdepth hfuel
    obtain ⟨fuel, rfl⟩ := Nat.exists_eq_add_one_of_ne_zero (show fuel ≠ 0 by omega)
    have hvalue := value?_write value level depth hfinite.1 (by omega)
      (endsNumber_writeMembers hlayout members level closeLevel rest)
    have hmember := member?_eq hlayout (hlayout.lineBreak level) name hvalue
    have hlater := more?_writeMembers members level depth fuel closeLevel rest
      hfinite.2 (by omega) (by omega)
    simp only [writeMembers, List.append_assoc, List.cons_append]
    exact more?_comma (by decide) hmember hlater

end

/-- A written document is read as what it means. -/
theorem read?_write (value : Json) (hfinite : value.Finite) :
    read? (write layout 0 value) = some value.meaning := by
  have hends : EndsNumber [] := by simp [EndsNumber]
  have hvalue := value?_write hlayout value 0 _ hfinite (Nat.le_refl _) hends
  rw [List.append_nil] at hvalue
  simp [read?, hvalue]

end

/-- A document in the form with one item a line is read as what it means, and so is one in the form
without blanks. -/
theorem read?_pretty (value : Json) (hfinite : value.Finite) :
    read? value.pretty.toList = some value.meaning ∧
      read? value.compact.toList = some value.meaning := by
  rw [pretty, compact, String.toList_ofList, String.toList_ofList]
  exact ⟨read?_write Layout.addsBlanks_pretty value hfinite,
    read?_write Layout.addsBlanks_compact value hfinite⟩

end Lexis.Json
