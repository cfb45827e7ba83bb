import Mathlib.Data.List.DropRight
import Mathlib.Data.List.Induction
import Soaring.Proofs.Team.Numeral
import Soaring.Proofs.Text.Octets
import Soaring.Record.Inputs
import Soaring.Settings

/-!
Team codes as they are typed. What counts is the text without the white space at its two ends: an
empty one clears the code, five ASCII letters and digits are kept in upper case, and any other text
is refused and changes nothing. So of texts typed one after the other the last one that is not
refused decides. A record takes five letters and digits too, but no white space around them.
-/
namespace Soaring

namespace Text

/-- The second text is the first one without the white space at its two ends. -/
structure Trims (typed kept : List Char) : Prop where
  split : ∃ before after, typed = before ++ kept ++ after ∧
    (∀ c ∈ before, isBlank c = true) ∧ ∀ c ∈ after, isBlank c = true
  first : ∀ c ∈ kept.head?, isBlank c = false
  last : ∀ c ∈ kept.getLast?, isBlank c = false

theorem dropWhile_append_of_blank {before kept : List Char}
    (hBefore : ∀ c ∈ before, isBlank c = true) (hFirst : ∀ c ∈ kept.head?, isBlank c = false) :
    (before ++ kept).dropWhile isBlank = kept := by
  rw [List.dropWhile_append_of_pos hBefore]
  cases kept with
  | nil => rfl
  | cons c rest => rw [List.dropWhile_cons_of_neg (by simp [hFirst c rfl])]

/-- Trimming takes the white space away at both ends and nothing else. -/
theorem trims_trim (typed : List Char) : Trims typed (trim typed) := by
  change Trims typed ((typed.dropWhile isBlank).rdropWhile isBlank)
  have hSplit : typed = typed.takeWhile isBlank ++ (typed.dropWhile isBlank).rdropWhile isBlank ++
      (typed.dropWhile isBlank).rtakeWhile isBlank := by
    rw [List.append_assoc, List.rdropWhile_append_rtakeWhile, List.takeWhile_append_dropWhile]
  refine ⟨⟨_, _, hSplit, fun c hc => List.mem_takeWhile_imp hc,
    fun c hc => List.mem_rtakeWhile_imp hc⟩, ?_, ?_⟩
  · intro c hc
    obtain ⟨rest, hPrefix⟩ := List.rdropWhile_prefix isBlank (typed.dropWhile isBlank)
    have hHead : (typed.dropWhile isBlank).head? = some c := by
      rw [← hPrefix, List.head?_append, Option.mem_def.mp hc]
      rfl
    have hNot := List.head?_dropWhile_not isBlank typed
    rw [hHead] at hNot
    exact hNot
  · intro c hc
    obtain ⟨hSome, hLast⟩ := List.mem_getLast?_eq_getLast hc
    have hNot := List.rdropWhile_last_not isBlank _ hSome
    rw [← hLast] at hNot
    exact Bool.eq_false_iff.mpr hNot

/-- Trimming is the only way to take the white space away at both ends. -/
theorem Trims.eq_trim {typed kept : List Char} (h : Trims typed kept) : kept = trim typed := by
  obtain ⟨⟨before, after, rfl, hBefore, hAfter⟩, hFirst, hLast⟩ := h
  cases kept with
  | nil =>
      have hBlank : (before ++ [] ++ after).dropWhile isBlank = [] := by
        rw [List.dropWhile_eq_nil_iff]
        intro c hc
        rw [List.append_nil, List.mem_append] at hc
        exact hc.elim (hBefore c) (hAfter c)
      rw [trim, hBlank]
      rfl
  | cons c rest =>
      have hReverse : (after.reverse ++ (c :: rest).reverse).dropWhile isBlank =
          (c :: rest).reverse := by
        apply dropWhile_append_of_blank
        · exact fun d hd => hAfter d (List.mem_reverse.mp hd)
        · rwa [List.head?_reverse]
      rw [trim, List.append_assoc, dropWhile_append_of_blank hBefore (by simpa using hFirst),
        List.reverse_append, hReverse, List.reverse_reverse]

/-- There is nothing left to trim. -/
theorem trim_trim (typed : List Char) : trim (trim typed) = trim typed := by
  have hNothing : Trims (trim typed) (trim typed) :=
    ⟨⟨[], [], by simp, by simp, by simp⟩, (trims_trim typed).first, (trims_trim typed).last⟩
  exact hNothing.eq_trim.symm

/-- A text that is as long without the white space around it has none. -/
theorem trim_eq_of_byteCount_le {typed : List Char} (h : byteCount typed ≤ byteCount (trim typed)) :
    trim typed = typed := by
  obtain ⟨before, after, hSplit, -, -⟩ := (trims_trim typed).split
  have hSum := congrArg byteCount hSplit
  rw [byteCount_append, byteCount_append] at hSum
  have hBefore : before = [] := byteCount_eq_zero_iff.mp (by omega)
  have hAfter : after = [] := byteCount_eq_zero_iff.mp (by omega)
  rw [hBefore, hAfter, List.nil_append, List.append_nil] at hSplit
  exact hSplit.symm

end Text

namespace Team

open Soaring.Text (Trims trim byteCount)

/-- Five ASCII letters and digits. -/
def IsCodeText (text : List Char) : Prop :=
  text.length = codeLength ∧ ∀ c ∈ text, c.isAlphanum = true

instance (text : List Char) : Decidable (IsCodeText text) :=
  -- The characters of the text are tried, not all that there are.
  have : Decidable (∀ c ∈ text, c.isAlphanum = true) := List.decidableBAll _ text
  inferInstanceAs (Decidable (_ ∧ _))

theorem byteCount_of_isAlphanum {text : List Char} (h : ∀ c ∈ text, c.isAlphanum = true) :
    byteCount text = text.length := by
  induction text with
  | nil => rfl
  | cons c rest ih =>
      obtain ⟨hFirst, hRest⟩ := List.forall_mem_cons.mp h
      have hSmall := Digit.toNat_lt_of_isAlphanum hFirst
      have hSize : c.utf8Size = 1 := by
        rw [Char.utf8Size_eq_one_iff, UInt32.le_iff_toNat_le]
        exact Nat.le_of_lt_succ hSmall
      rw [byteCount, hSize, ih hRest, List.length_cons, Nat.add_comm]

/-- A code has no white space at its ends, so it is its own trimmed text. -/
theorem IsCodeText.trims {text : List Char} (h : IsCodeText text) : Trims text text := by
  have hPlain : ∀ c ∈ text, Text.isBlank c = false := by
    intro c hc
    have hLetter := h.2 c hc
    have hNot : c.isAlphanum = true → Text.isBlank c = false := by
      apply ascii_forall _ (Digit.toNat_lt_of_isAlphanum hLetter)
      decide
    exact hNot hLetter
  exact ⟨⟨[], [], by simp, by simp, by simp⟩, fun c hc => hPlain c (List.mem_of_mem_head? hc),
    fun c hc => hPlain c (List.mem_of_mem_getLast? hc)⟩

theorem Code.ofDigits?_eq_some_iff {digits : List Digit} {code : Code} :
    ofDigits? digits = some code ↔ code.bearing.digits ++ code.range.digits = digits := by
  constructor
  · intro h
    unfold ofDigits? at h
    split at h
    · cases h
      rfl
    · cases h
  · rintro rfl
    exact ofDigits?_digits code

/-- Five digits always make a code. -/
theorem Code.exists_ofDigits? {digits : List Digit} (h : digits.length = codeLength) :
    ∃ code, ofDigits? digits = some code := by
  match digits, h with
  | [a, b, c, d, e], _ => exact ⟨_, rfl⟩

/-- What is typed is a code if and only if five letters and digits are left of it without the white
space around it; the code has their upper-case form as its text. -/
theorem Code.parse_cases (typed : List Char) :
    (IsCodeText (trim typed) ∧
      ∃ code, parse typed = .ok code ∧ code.text = (trim typed).map Char.toUpper) ∨
    (¬ IsCodeText (trim typed) ∧
      parse typed = .error (.invalidTeamCode
        (if byteCount (trim typed) = codeLength then .notAlphanumeric else .wrongLength))) := by
  unfold parse
  dsimp only
  by_cases hLetters : ∀ c ∈ trim typed, c.isAlphanum = true
  · obtain ⟨digits, hRead⟩ := exists_mapM_ofChar? hLetters
    have hChars := (mapM_ofChar?_eq_some_iff.mp hRead).2
    have hCount := byteCount_of_isAlphanum hLetters
    have hLength : (trim typed).length = digits.length := by
      rw [← List.length_map Char.toUpper, ← hChars, List.length_map]
    by_cases hFive : (trim typed).length = codeLength
    · obtain ⟨code, hCode⟩ := exists_ofDigits? (hLength.symm.trans hFive)
      refine .inl ⟨⟨hFive, hLetters⟩, code, ?_, ?_⟩
      · rw [if_neg (by rw [hCount, hFive]; simp), hRead, Option.bind_some, hCode]
      · rw [text_eq, ofDigits?_eq_some_iff.mp hCode, hChars]
    · refine .inr ⟨fun h => hFive h.1, ?_⟩
      have hBytes : byteCount (trim typed) ≠ codeLength := by rwa [hCount]
      rw [if_pos hBytes, if_neg hBytes]
  · refine .inr ⟨fun h => hLetters h.2, ?_⟩
    have hRead : (trim typed).mapM Digit.ofChar? = none := by
      rw [Option.eq_none_iff_forall_ne_some]
      intro digits hRead
      exact hLetters (mapM_ofChar?_eq_some_iff.mp hRead).1
    by_cases hBytes : byteCount (trim typed) = codeLength
    · rw [if_neg (by simpa using hBytes), if_pos hBytes, hRead]
      rfl
    · rw [if_pos hBytes, if_neg hBytes]

/-- A code that was read is shown as it was typed, trimmed and in upper case. -/
theorem Code.text_of_parse_eq_ok {typed : List Char} {code : Code} (h : parse typed = .ok code) :
    code.text = (trim typed).map Char.toUpper := by
  rcases parse_cases typed with ⟨-, read, hRead, hText⟩ | ⟨-, hError⟩
  · rw [h] at hRead
    cases hRead
    exact hText
  · rw [h] at hError
    cases hError

/-- The codes that a record has are the strings of five letters and digits, read as if typed. -/
theorem decode?_teamCode {json : Record.Json} {code : Code} :
    Record.Layout.teamCode.decode? json = some code ↔
      ∃ string, json = .text string ∧ IsCodeText string.toList ∧
        Code.parse string.toList = .ok code := by
  constructor
  · intro h
    cases json with
    | text string =>
        change (if string.utf8ByteSize ≤ codeLength then
          (Code.parse string.toList).toOption else none) = some code at h
        rw [Text.utf8ByteSize_eq] at h
        split at h
        · next hShort =>
            rcases Code.parse_cases string.toList with ⟨hCode, _, hOk, -⟩ | ⟨-, hError⟩
            · have hFull : byteCount (trim string.toList) = codeLength := by
                rw [byteCount_of_isAlphanum hCode.2, hCode.1]
              have hPlain := Text.trim_eq_of_byteCount_le (hShort.trans (Nat.le_of_eq hFull.symm))
              rw [hPlain] at hCode
              rw [hOk] at h
              cases h
              exact ⟨string, rfl, hCode, hOk⟩
            · rw [hError] at h
              cases h
        · cases h
    | null | bool | integer | number | hugeNumber | brokenText | array | object => cases h
  · rintro ⟨string, rfl, hCode, hOk⟩
    have hBytes : string.utf8ByteSize = codeLength := by
      rw [Text.utf8ByteSize_eq, byteCount_of_isAlphanum hCode.2, hCode.1]
    change (if string.utf8ByteSize ≤ codeLength then
      (Code.parse string.toList).toOption else none) = some code
    rw [if_pos (Nat.le_of_eq hBytes), hOk]
    rfl

end Team

namespace TeamSettings

open Soaring.Team (IsCodeText codeLength)
open Soaring.Text (Trims trim byteCount)

def enterCodes (s : TeamSettings) (texts : List (List Char)) : TeamSettings :=
  texts.foldl (fun s typed => (s.enterCode typed).1) s

/-- The text is taken: nothing is left of it without the white space around it, or a code. -/
def isTaken (typed : List Char) : Bool := trim typed = [] ∨ IsCodeText (trim typed)

/-- All that typing a code can come to: it clears the code, or sets it, or changes nothing. Which of
these does not depend on the settings before. -/
theorem enterCode_cases (typed : List Char) :
    (trim typed = [] ∧ ∀ s : TeamSettings, s.enterCode typed = ({ s with code := none }, .ok ())) ∨
    (IsCodeText (trim typed) ∧ ∃ code, Team.Code.parse typed = .ok code ∧
      code.text = (trim typed).map Char.toUpper ∧
      ∀ s : TeamSettings, s.enterCode typed = ({ s with code := some code }, .ok ())) ∨
    (trim typed ≠ [] ∧ ¬ IsCodeText (trim typed) ∧
      ∀ s : TeamSettings, s.enterCode typed = (s, .error (.invalidTeamCode
        (if byteCount (trim typed) = codeLength then .notAlphanumeric else .wrongLength)))) := by
  have hTwice : Team.Code.parse (trim typed) = Team.Code.parse typed := by
    unfold Team.Code.parse
    rw [Text.trim_trim]
  by_cases hEmpty : trim typed = []
  · exact .inl ⟨hEmpty, fun s => by simp [enterCode, setCodeText, hEmpty]⟩
  · rcases Team.Code.parse_cases typed with ⟨hCode, code, hOk, hText⟩ | ⟨hCode, hError⟩
    · refine .inr (.inl ⟨hCode, code, hOk, hText, fun s => ?_⟩)
      simp [enterCode, setCodeText, hEmpty, hTwice, hOk, Except.map]
    · refine .inr (.inr ⟨hEmpty, hCode, fun s => ?_⟩)
      simp [enterCode, setCodeText, hEmpty, hTwice, hError, Except.map]

/-- What is taken sets the code alone, and always to the same. -/
theorem enterCode_of_isTaken {typed : List Char} (h : isTaken typed = true) :
    ∃ code, ∀ s : TeamSettings, s.enterCode typed = ({ s with code := code }, .ok ()) := by
  have hTaken : trim typed = [] ∨ IsCodeText (trim typed) := of_decide_eq_true h
  rcases enterCode_cases typed with ⟨-, hClears⟩ | ⟨-, code, -, -, hSets⟩ | ⟨hSome, hNoCode, -⟩
  · exact ⟨none, hClears⟩
  · exact ⟨some code, hSets⟩
  · exact absurd hTaken (not_or.mpr ⟨hSome, hNoCode⟩)

/-- A refused text leaves no trace in the settings. -/
theorem enterCode_of_not_isTaken {typed : List Char} (h : ¬ isTaken typed = true)
    (s : TeamSettings) : (s.enterCode typed).1 = s := by
  have hRefused : ¬ (trim typed = [] ∨ IsCodeText (trim typed)) := fun hTaken =>
    h (decide_eq_true hTaken)
  rcases enterCode_cases typed with ⟨hEmpty, -⟩ | ⟨hCode, -⟩ | ⟨-, -, hNothing⟩
  · exact absurd (.inl hEmpty) hRefused
  · exact absurd (.inr hCode) hRefused
  · rw [hNothing s]

theorem enterCodes_concat (s : TeamSettings) (texts : List (List Char)) (typed : List Char) :
    s.enterCodes (texts ++ [typed]) = ((s.enterCodes texts).enterCode typed).1 := by
  rw [enterCodes, List.foldl_append]
  rfl

/-- Whatever is typed touches nothing but the code. -/
theorem exists_code_enterCodes (s : TeamSettings) (texts : List (List Char)) :
    ∃ code, s.enterCodes texts = { s with code := code } := by
  induction texts using List.reverseRecOn with
  | nil => exact ⟨s.code, rfl⟩
  | append_singleton texts typed ih =>
      obtain ⟨code, hBefore⟩ := ih
      rw [enterCodes_concat, hBefore]
      by_cases hTaken : isTaken typed = true
      · obtain ⟨next, hNext⟩ := enterCode_of_isTaken hTaken
        exact ⟨next, by rw [hNext]⟩
      · exact ⟨code, enterCode_of_not_isTaken hTaken _⟩

/-- The last text that is taken decides, whatever was typed before it and refused after it. -/
theorem enterCodes_eq_last (s : TeamSettings) (texts : List (List Char)) :
    s.enterCodes texts =
      (texts.filter isTaken).getLast?.elim s fun typed => (s.enterCode typed).1 := by
  induction texts using List.reverseRecOn with
  | nil => rfl
  | append_singleton texts typed ih =>
      rw [enterCodes_concat, List.filter_append]
      by_cases hTaken : isTaken typed = true
      · obtain ⟨next, hNext⟩ := enterCode_of_isTaken hTaken
        obtain ⟨code, hBefore⟩ := s.exists_code_enterCodes texts
        rw [List.filter_cons_of_pos hTaken, List.filter_nil, List.getLast?_concat, hNext, hBefore]
        exact (congrArg Prod.fst (hNext s)).symm
      · rw [List.filter_cons_of_neg hTaken, List.filter_nil, List.append_nil, ← ih]
        exact enterCode_of_not_isTaken hTaken _

/-- Codes are taken as they are typed, or leave no trace. Whatever was typed before, reference and
contact stay, and the code is that of the last text taken. Of a text counts what is left without
the white space around it, which is determined: if that is empty the code is cleared; if it is five
ASCII letters and digits the code with their upper-case form is set; else the text is refused, for
its length in bytes if that is not five and for its characters if it is, and all settings stay. A
record is read as a code if and only if it is a string of five ASCII letters and digits, and it is
the code that typing them sets. -/
theorem typedCodes_taken_or_traceless (s : TeamSettings) (texts : List (List Char)) :
    let now := s.enterCodes texts
    now.reference = s.reference ∧ now.flarm = s.flarm ∧
    now = (texts.filter isTaken).getLast?.elim s (fun typed => (s.enterCode typed).1) ∧
    (∀ typed, ∃! kept, Trims typed kept) ∧
    (∀ typed kept, Trims typed kept →
      (isTaken typed = true ↔ kept = [] ∨ IsCodeText kept) ∧
      (kept = [] → now.enterCode typed = ({ now with code := none }, .ok ())) ∧
      (IsCodeText kept → ∃ code, code.text = kept.map Char.toUpper ∧
        now.enterCode typed = ({ now with code := some code }, .ok ())) ∧
      (kept ≠ [] → ¬ IsCodeText kept → now.enterCode typed = (now, .error (.invalidTeamCode
        (if byteCount kept = 5 then .notAlphanumeric else .wrongLength))))) ∧
    ∀ json code, Record.Layout.teamCode.decode? json = some code ↔
      ∃ string, json = .text string ∧ IsCodeText string.toList ∧
        now.enterCode string.toList = ({ now with code := some code }, .ok ()) := by
  intro now
  obtain ⟨last, hNow⟩ := s.exists_code_enterCodes texts
  have hNow : now = { s with code := last } := hNow
  refine ⟨by rw [hNow], by rw [hNow], s.enterCodes_eq_last texts, ?_, ?_, ?_⟩
  · exact fun typed => ⟨trim typed, Text.trims_trim typed, fun _ h => h.eq_trim⟩
  · rintro typed kept hTrims
    obtain rfl := hTrims.eq_trim
    have hNotEmpty (hCode : IsCodeText (trim typed)) : trim typed ≠ [] := by
      intro hEmpty
      rw [hEmpty] at hCode
      cases hCode.1
    refine ⟨decide_eq_true_iff, ?_⟩
    rcases enterCode_cases typed with
      ⟨hEmpty, hClears⟩ | ⟨hCode, code, -, hText, hSets⟩ | ⟨hSome, hNoCode, hNothing⟩
    · exact ⟨fun _ => hClears now, fun hCode => absurd hEmpty (hNotEmpty hCode),
        fun hSome => absurd hEmpty hSome⟩
    · exact ⟨fun hEmpty => absurd hEmpty (hNotEmpty hCode), fun _ => ⟨code, hText, hSets now⟩,
        fun _ hNoCode => absurd hCode hNoCode⟩
    · exact ⟨fun hEmpty => absurd hEmpty hSome, fun hCode => absurd hCode hNoCode,
        fun _ _ => hNothing now⟩
  · intro json code
    rw [Team.decode?_teamCode]
    refine exists_congr fun string => and_congr_right fun _ => and_congr_right fun hCode => ?_
    have hPlain := hCode.trims.eq_trim
    rcases enterCode_cases string.toList with
      ⟨hEmpty, -⟩ | ⟨-, other, hOk, -, hSets⟩ | ⟨-, hNoCode, -⟩
    · rw [hPlain, hEmpty] at hCode
      cases hCode.1
    · rw [hOk, hSets]
      simp
    · rw [← hPlain] at hNoCode
      exact absurd hCode hNoCode

/-- A code is taken without the white space around it; then five bytes that are four characters
leave it as it is, although their number is right. -/
theorem fiveBytes_leave_no_trace :
    let typed := [' ', 'b', '7', '0', 'k', '4', '\u3000']
    let now := ({} : TeamSettings).enterCodes [typed]
    Trims typed ['b', '7', '0', 'k', '4'] ∧ IsCodeText ['b', '7', '0', 'k', '4'] ∧
    (∃ code, code.text = ['B', '7', '0', 'K', '4'] ∧
      now.enterCode typed = ({ now with code := some code }, .ok ())) ∧
    Trims ['A', 'B', 'C', 'é'] ['A', 'B', 'C', 'é'] ∧ ['A', 'B', 'C', 'é'] ≠ [] ∧
    ¬ IsCodeText ['A', 'B', 'C', 'é'] ∧
    now.enterCode ['A', 'B', 'C', 'é'] = (now, .error (.invalidTeamCode .notAlphanumeric)) := by
  intro typed now
  obtain ⟨-, -, -, -, hTyped, -⟩ := typedCodes_taken_or_traceless {} [typed]
  have hTrims : Trims typed ['b', '7', '0', 'k', '4'] := Text.trims_trim typed
  have hPlain : Trims ['A', 'B', 'C', 'é'] ['A', 'B', 'C', 'é'] := Text.trims_trim _
  have hCode : IsCodeText ['b', '7', '0', 'k', '4'] := by decide
  have hNoCode : ¬ IsCodeText ['A', 'B', 'C', 'é'] := by decide
  refine ⟨hTrims, hCode, ?_, hPlain, by decide, hNoCode, ?_⟩
  · exact (hTyped typed _ hTrims).2.2.1 hCode
  · exact (hTyped _ _ hPlain).2.2.2 (by decide) hNoCode

end TeamSettings

end Soaring
