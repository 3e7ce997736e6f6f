import Mathlib.Tactic.IntervalCases
import MessageForms.Json.Token
import MessageForms.Proofs.Number.Ascii
import MessageForms.Proofs.Text.Utf8

/-!
# Written tokens are scanned again

Delimiters and strings end by themselves, whatever follows them, so a text written from
such tokens is scanned into the same tokens. Conversely every string that is scanned from a
well-formed text is well-formed: an escape stands between two characters, and all other
bytes of the string are bytes of the text. No token has a NUL byte in it.
-/

namespace MessageForms

namespace Json

/-- A delimiter, or a string that needs no repair. -/
def Token.EndsItself : Token → Prop
  | .atom (.string text) => Utf8.isValid text
  | .atom _ => False
  | _ => True

/-- A token whose string, if it is one, is well-formed. -/
def Token.IsUtf8 : Token → Prop
  | .atom (.string text) => Utf8.isValid text
  | _ => True

/-- One step of the scanner, with the tokens that end there. -/
theorem advance_of_step {scanner next : Scanner} {byte : Byte} {ended : List Token}
    (step : scanner.step byte = some (next, ended)) (found : List Token) :
    advance (scanner, found) byte = some (next, ended.reverse ++ found) := by
  simp [advance, step]

/-- A hexadecimal digit has the value that it was written for. -/
theorem hexValue?_ofHexValue {value : Nat} (bound : value < 16) :
    (Byte.ofHexValue value).hexValue? = some value := by
  interval_cases value <;> rfl

/-- A hexadecimal digit is ASCII, and its value is below sixteen. -/
theorem hexValue?_bound {byte : Byte} {value : Nat} (read : byte.hexValue? = some value) :
    Byte.isAscii byte ∧ value < 16 := by
  unfold Byte.hexValue? at read
  split_ifs at read <;>
    grind [Byte.isAscii, Byte.isDigit, Byte.digitValue, UInt8.le_iff_toNat_le]

/-- A hexadecimal digit is written in ASCII. -/
theorem isAscii_ofHexValue {value : Nat} (bound : value < 16) :
    Byte.isAscii (Byte.ofHexValue value) :=
  (hexValue?_bound (hexValue?_ofHexValue bound)).1

/-- The written form of an ASCII byte is ASCII. -/
theorem isAscii_escapeByte {byte : Byte} (ascii : Byte.isAscii byte) :
    Text.IsAscii (escapeByte byte) := by
  have bound : byte.toNat < 0x100 := byte.toNat_lt
  have high := isAscii_ofHexValue (by omega : byte.toNat / 16 < 16)
  have low := isAscii_ofHexValue (by omega : byte.toNat % 16 < 16)
  have backslash : Byte.isAscii Byte.backslash := rfl
  have zero : Byte.isAscii Byte.zero := rfl
  unfold escapeByte
  split_ifs <;> simp [high, low, backslash, zero, ascii] <;> rfl

/-- A number below `0x80` ends as the byte with that number. -/
theorem endCodePoint_of_ascii {byte : Byte} (small : byte.toNat < 0x80) (content : Text) :
    Scanner.endCodePoint content none byte.toNat = some (.string (byte :: content)) := by
  have notHigh : ¬ (0xD800 ≤ byte.toNat ∧ byte.toNat < 0xDC00) := by omega
  have notLow : ¬ (0xDC00 ≤ byte.toNat ∧ byte.toNat < 0xE000) := by omega
  simp [Scanner.endCodePoint, notHigh, notLow, Utf8.encode, small]

/-- A numbered escape of a control character is that character. -/
theorem foldlM_advance_numbered {byte : Byte} (control : byte < 0x20) (content : Text)
    (found : List Token) :
    [0x75, Byte.zero, Byte.zero, Byte.ofHexValue (byte.toNat / 16),
        Byte.ofHexValue (byte.toNat % 16)].foldlM advance (.escape content, found) =
      some (.string (byte :: content), found) := by
  have small : byte.toNat < 0x20 := UInt8.lt_iff_toNat_lt.mp control
  have third : advance (.codePoint content none 0 2, found)
      (Byte.ofHexValue (byte.toNat / 16)) =
        some (.codePoint content none (byte.toNat / 16) 1, found) := by
    simp [advance, Scanner.step, hexValue?_ofHexValue (by omega : byte.toNat / 16 < 16)]
  have last : advance (.codePoint content none (byte.toNat / 16) 1, found)
      (Byte.ofHexValue (byte.toNat % 16)) = some (.string (byte :: content), found) := by
    have whole : 16 * (byte.toNat / 16) + byte.toNat % 16 = byte.toNat := by omega
    simp [advance, Scanner.step, hexValue?_ofHexValue (by omega : byte.toNat % 16 < 16), whole,
      endCodePoint_of_ascii (by omega : byte.toNat < 0x80)]
  calc
    _ = (advance (.codePoint content none 0 2, found) (Byte.ofHexValue (byte.toNat / 16))).bind
          fun progress => (advance progress (Byte.ofHexValue (byte.toNat % 16))).bind some := rfl
    _ = some (.string (byte :: content), found) := by
      rw [third, Option.bind_some, last, Option.bind_some]

/-- The written form of a byte is scanned as that byte. -/
theorem foldlM_advance_escapeByte (byte : Byte) (content : Text) (found : List Token) :
    (escapeByte byte).foldlM advance (.string content, found) =
      some (.string (byte :: content), found) := by
  unfold escapeByte
  split_ifs with isQuote isBackslash isBackspace isFormFeed isLineFeed isReturn isTab control
  · subst isQuote; rfl
  · subst isBackslash; rfl
  · subst isBackspace; rfl
  · subst isFormFeed; rfl
  · subst isLineFeed; rfl
  · subst isReturn; rfl
  · subst isTab; rfl
  · exact foldlM_advance_numbered control content found
  · have step : (Scanner.string content).step byte = some (.string (byte :: content), []) := by
      simp [Scanner.step, isQuote, isBackslash, control]
    simp [advance_of_step step]

/-- The written bytes of a string are scanned as the string. -/
theorem foldlM_advance_escaped (text content : Text) (found : List Token) :
    (text.flatMap escapeByte).foldlM advance (.string content, found) =
      some (.string (text.reverse ++ content), found) := by
  induction text generalizing content with
  | nil => rfl
  | cons byte text inductionHypothesis =>
    rw [List.flatMap_cons, List.foldlM_append, foldlM_advance_escapeByte]
    simpa using inductionHypothesis (byte :: content)

/-- A token that ends itself is scanned from its written form, and nothing else is begun. -/
theorem foldlM_advance_write {token : Token} (ends : token.EndsItself) (found : List Token) :
    token.write.foldlM advance (.between, found) = some (.between, token :: found) := by
  cases token with
  | openArray | closeArray | openObject | closeObject | colon | comma => rfl
  | atom value =>
    cases value with
    | null | bool | integer | real => exact ends.elim
    | string text =>
      have valid : Utf8.isValid text := ends
      have opened : advance (.between, found) Byte.quote = some (.string [], found) := rfl
      have closed : ∀ content : Text, advance (.string content, found) Byte.quote =
          some (.between, .atom (.string content.reverse) :: found) := fun content => by
        simp [advance, Scanner.step]
      have written : (Token.atom (.string text)).write =
          Byte.quote :: (text.flatMap escapeByte ++ [Byte.quote]) := by
        simp [Token.write, Atom.write, quoted, Utf8.repair_of_isValid valid]
      rw [written, List.foldlM_cons, opened]
      simp [foldlM_advance_escaped, closed]

/-- Tokens that end themselves are scanned from the text they are written to. -/
theorem scan_flatMap_write {tokens : List Token} (ends : ∀ token ∈ tokens, token.EndsItself) :
    scan (tokens.flatMap Token.write) = some tokens := by
  have scanned : ∀ found : List Token,
      (tokens.flatMap Token.write).foldlM advance (.between, found) =
        some (.between, tokens.reverse ++ found) := by
    induction tokens with
    | nil => intro found; rfl
    | cons token tokens inductionHypothesis =>
      intro found
      have rest := inductionHypothesis (fun other member =>
        ends other (List.mem_cons_of_mem _ member)) (token :: found)
      rw [List.flatMap_cons, List.foldlM_append,
        foldlM_advance_write (ends token List.mem_cons_self)]
      simpa using rest
  simp [scan, scanned, Scanner.finish]

/-- A NUL byte begins no token, and stands in none. -/
theorem Scanner.step_nul (scanner : Scanner) : scanner.step Byte.nul = none := by
  have noStart : start Byte.nul = none := rfl
  have noLetter : Byte.isLetter Byte.nul = false := rfl
  have noNumber : isNumberByte Byte.nul = false := rfl
  cases scanner with
  | between => exact noStart
  | name letters => simp [step, noStart, noLetter]
  | number characters => simp [step, noStart, noNumber]
  | string content | escape content | codePoint content high value missing
  | pairBackslash content high | pairLetter content high => rfl

/-- A text that consists of tokens has no NUL byte in it. -/
theorem nul_not_mem_of_scan {text : Text} {tokens : List Token}
    (scanned : scan text = some tokens) : Byte.nul ∉ text := by
  intro member
  obtain ⟨left, right, rfl⟩ := List.append_of_mem member
  obtain ⟨⟨last, found⟩, run, -⟩ := Option.bind_eq_some_iff.mp scanned
  rw [List.foldlM_append] at run
  obtain ⟨middle, -, rest⟩ := Option.bind_eq_some_iff.mp run
  have stuck : advance middle Byte.nul = none := by simp [advance, Scanner.step_nul]
  rw [List.foldlM_cons, stuck] at rest
  cases rest

namespace Scanner

open Utf8 (isValid)
open Utf8.Position (boundary)

/-- Where a scanner is, given the place that the text has reached. The content of a string is
at the same place as the text; in every other state, and within an escape, the text is
between two characters. A numbered character has as many digits as are not missing. -/
def IsAt (position : Utf8.Position) : Scanner → Prop
  | between | name _ | number _ => position = boundary
  | string content => boundary.run content.reverse = some position
  | escape content => position = boundary ∧ isValid content.reverse
  | codePoint content high value missing =>
    position = boundary ∧ isValid content.reverse ∧ (∀ half ∈ high, 0xD800 ≤ half ∧ half < 0xDC00) ∧
      1 ≤ missing ∧ missing ≤ 4 ∧ value < Nat.pow 16 (4 - missing)
  | pairBackslash content high | pairLetter content high =>
    position = boundary ∧ isValid content.reverse ∧ 0xD800 ≤ high ∧ high < 0xDC00

/-- The bytes that begin a token, and the blanks, are ASCII. -/
theorem isAt_start {byte : Byte} {next : Scanner} {ended : List Token}
    (step : start byte = some (next, ended)) :
    Byte.isAscii byte ∧ next.IsAt boundary ∧ ∀ token ∈ ended, token.IsUtf8 := by
  unfold start at step
  repeat' split at step
  all_goals
    grind [IsAt, Token.IsUtf8, Byte.isAscii, Byte.isDigit, Byte.isLetter,
      Utf8.Position.run_nil]

/-- A character after a backslash is ASCII, and so is what it stands for. -/
theorem unescape?_ascii {letter character : Byte} (read : unescape? letter = some character) :
    Byte.isAscii letter ∧ Byte.isAscii character := by
  unfold unescape? at read
  split_ifs at read <;> grind [Byte.isAscii]

/-- A name is no string. -/
theorem isUtf8_of_ofName? {name : Text} {atom : Atom} (read : Atom.ofName? name = some atom) :
    (Token.atom atom).IsUtf8 := by
  unfold Atom.ofName? at read
  split_ifs at read <;> cases read <;> trivial

/-- A number is no string. -/
theorem isUtf8_of_ofNumber? {text : Text} {atom : Atom}
    (read : Atom.ofNumber? text = some atom) : (Token.atom atom).IsUtf8 := by
  unfold Atom.ofNumber? at read
  extract_lets negative unsigned value bound at read
  split at read
  next =>
    split at read
    next =>
      obtain rfl := Option.some.inj read
      trivial
    next =>
      obtain ⟨decimal, -, rounded⟩ := Option.bind_eq_some_iff.mp read
      split at rounded
      next =>
        obtain rfl := Option.some.inj rounded
        trivial
      next => cases rounded
  next => cases read

/-- A numbered character is put after the content, or is the first half of one. -/
theorem isAt_endCodePoint {content : Text} {high : Option Nat} {value : Nat} {next : Scanner}
    (valid : isValid content.reverse) (halves : ∀ half ∈ high, 0xD800 ≤ half ∧ half < 0xDC00)
    (bound : value < 0x10000) (ended : endCodePoint content high value = some next) :
    next.IsAt boundary := by
  have put : ∀ codePoint, codePoint < 0x110000 → (codePoint < 0xD800 ∨ 0xE000 ≤ codePoint) →
      (string ((Utf8.encode codePoint).reverse ++ content)).IsAt boundary := by
    intro codePoint small scalar
    have whole := Utf8.isValid_append valid (Utf8.isValid_encode small scalar)
    simpa [IsAt] using Utf8.isValid_iff.mp whole
  cases high with
  | some half =>
    have isHigh := halves half rfl
    simp only [endCodePoint] at ended
    split at ended
    next isLow =>
      cases ended
      exact put _ (by omega) (by omega)
    next => cases ended
  | none =>
    simp only [endCodePoint] at ended
    split at ended
    next isHigh =>
      cases ended
      exact ⟨rfl, valid, isHigh⟩
    next notHigh =>
      split at ended
      next => cases ended
      next notLow =>
        cases ended
        exact put _ (by omega) (by omega)

/-- An atom ends where the next token begins. -/
theorem isAt_afterAtom {atom? : Option Atom} {byte : Byte} {next : Scanner} {ended : List Token}
    (isUtf8 : ∀ atom, atom? = some atom → (Token.atom atom).IsUtf8)
    (step : (do
      let atom ← atom?
      let (scanner, tokens) ← start byte
      some (scanner, .atom atom :: tokens)) = some (next, ended)) :
    Byte.isAscii byte ∧ next.IsAt boundary ∧ ∀ token ∈ ended, token.IsUtf8 := by
  obtain ⟨atom, isAtom, step⟩ := Option.bind_eq_some_iff.mp step
  obtain ⟨⟨after, tokens⟩, started, step⟩ := Option.bind_eq_some_iff.mp step
  obtain ⟨isAscii, there, strings⟩ := isAt_start started
  cases step
  exact ⟨isAscii, there, List.forall_mem_cons.mpr ⟨isUtf8 atom isAtom, strings⟩⟩

/-- The digits of a numbered character are read from the first on. -/
theorem isAt_numbered {content : Text} {high : Option Nat} (valid : isValid content.reverse)
    (halves : ∀ half ∈ high, 0xD800 ≤ half ∧ half < 0xDC00) :
    (codePoint content high 0 4).IsAt boundary :=
  ⟨rfl, valid, halves, by omega, by omega, by decide⟩

/-- A digit makes the number of a character longer, or ends it. -/
theorem isAt_digit {content : Text} {high : Option Nat} {value missing : Nat} {byte : Byte}
    {next : Scanner} {ended : List Token}
    (here : (codePoint content high value missing).IsAt boundary)
    (step : (codePoint content high value missing).step byte = some (next, ended)) :
    Byte.isAscii byte ∧ next.IsAt boundary ∧ ended = [] := by
  obtain ⟨-, valid, halves, atLeast, atMost, bound⟩ := here
  simp only [Scanner.step] at step
  split at step
  next => cases step
  next digit digitRead =>
    obtain ⟨isAscii, small⟩ := hexValue?_bound digitRead
    split at step
    next isLast =>
      obtain ⟨scanned, last, stepped⟩ := Option.map_eq_some_iff.mp step
      cases stepped
      obtain rfl : missing = 1 := by omega
      have below : value < 0x1000 := bound
      exact ⟨isAscii, isAt_endCodePoint valid halves (by omega) last, rfl⟩
    next more =>
      cases step
      have grown : 16 * value + digit < Nat.pow 16 (4 - (missing - 1)) := by
        have one : 4 - (missing - 1) = (4 - missing) + 1 := by omega
        have power : Nat.pow 16 (4 - missing + 1) = Nat.pow 16 (4 - missing) * 16 := rfl
        rw [one, power]
        omega
      exact ⟨isAscii, ⟨rfl, valid, halves, by omega, by omega, grown⟩, rfl⟩

/-- In a string the scanner goes where the text goes. -/
theorem isAt_inString {content : Text} {position place : Utf8.Position} {byte : Byte}
    {next : Scanner} {ended : List Token} (here : boundary.run content.reverse = some position)
    (sound : position.Sound) (read : position.step byte = some place)
    (step : (string content).step byte = some (next, ended)) :
    next.IsAt place ∧ ∀ token ∈ ended, token.IsUtf8 := by
  simp only [Scanner.step] at step
  split_ifs at step with isQuote isBackslash control
  · cases step
    obtain ⟨rfl, rfl⟩ := Utf8.Position.step_ascii sound (by subst isQuote; rfl) read
    exact ⟨rfl, by simpa [Token.IsUtf8] using Utf8.isValid_iff.mpr here⟩
  · cases step
    obtain ⟨rfl, rfl⟩ := Utf8.Position.step_ascii sound (by subst isBackslash; rfl) read
    exact ⟨⟨rfl, Utf8.isValid_iff.mpr here⟩, by simp⟩
  · cases step
    refine ⟨?_, by simp⟩
    simp [IsAt, Utf8.Position.run_append, here, read]

/-- Outside of strings the scanner reads ASCII only, and stays between two characters. -/
theorem isAt_outside {scanner next : Scanner} {position : Utf8.Position} {byte : Byte}
    {ended : List Token} (here : scanner.IsAt position)
    (outside : ∀ content, scanner ≠ string content)
    (step : scanner.step byte = some (next, ended)) :
    Byte.isAscii byte ∧ next.IsAt boundary ∧ ∀ token ∈ ended, token.IsUtf8 := by
  cases scanner with
  | between => exact isAt_start step
  | name letters =>
    simp only [Scanner.step] at step
    split at step
    next isLetter =>
      cases step
      exact ⟨by grind [Byte.isAscii, Byte.isLetter], rfl, by simp⟩
    next => exact isAt_afterAtom (fun atom => isUtf8_of_ofName?) step
  | number characters =>
    simp only [Scanner.step] at step
    split at step
    next isNumber =>
      cases step
      exact ⟨by grind [Byte.isAscii, isNumberByte, Byte.isDigit, Byte.toLower], rfl, by simp⟩
    next => exact isAt_afterAtom (fun atom => isUtf8_of_ofNumber?) step
  | string content => exact absurd rfl (outside content)
  | escape content =>
    obtain ⟨-, valid⟩ := here
    simp only [Scanner.step] at step
    split at step
    next isNumbered =>
      cases step
      exact ⟨by subst isNumbered; rfl, isAt_numbered valid (by simp), by simp⟩
    next =>
      obtain ⟨character, named, stepped⟩ := Option.map_eq_some_iff.mp step
      cases stepped
      obtain ⟨isAscii, charAscii⟩ := unescape?_ascii named
      have whole : isValid (content.reverse ++ [character]) :=
        Utf8.isValid_append valid (Utf8.isValid_of_ascii (by simpa using charAscii))
      exact ⟨isAscii, by simpa [IsAt] using Utf8.isValid_iff.mp whole, by simp⟩
  | codePoint content high value missing =>
    obtain rfl := here.1
    obtain ⟨isAscii, there, rfl⟩ := isAt_digit here step
    exact ⟨isAscii, there, by simp⟩
  | pairBackslash content high =>
    simp only [Scanner.step] at step
    split at step
    next isBackslash =>
      cases step
      obtain rfl := here.1
      exact ⟨by subst isBackslash; rfl, here, by simp⟩
    next => cases step
  | pairLetter content high =>
    obtain ⟨-, valid, isHigh⟩ := here
    simp only [Scanner.step] at step
    split at step
    next isNumbered =>
      cases step
      refine ⟨by subst isNumbered; rfl, isAt_numbered valid ?_, by simp⟩
      rintro half ⟨⟩
      exact isHigh
    next => cases step

/-- Each step of the scanner goes where the text goes, and ends only well-formed tokens. -/
theorem isAt_step {scanner next : Scanner} {position place : Utf8.Position} {byte : Byte}
    {ended : List Token} (here : scanner.IsAt position) (sound : position.Sound)
    (read : position.step byte = some place) (step : scanner.step byte = some (next, ended)) :
    next.IsAt place ∧ ∀ token ∈ ended, token.IsUtf8 := by
  by_cases inString : ∃ content, scanner = string content
  · obtain ⟨content, rfl⟩ := inString
    exact isAt_inString here sound read step
  · obtain ⟨isAscii, there, strings⟩ := isAt_outside here (not_exists.mp inString) step
    obtain ⟨-, rfl⟩ := Utf8.Position.step_ascii sound isAscii read
    exact ⟨there, strings⟩

/-- A run of the scanner goes where the text goes, and ends only well-formed tokens. -/
theorem isAt_run {text : Text} {scanner next : Scanner} {found tokens : List Token}
    {position place : Utf8.Position} (here : scanner.IsAt position) (sound : position.Sound)
    (strings : ∀ token ∈ found, token.IsUtf8) (read : position.run text = some place)
    (run : text.foldlM advance (scanner, found) = some (next, tokens)) :
    next.IsAt place ∧ ∀ token ∈ tokens, token.IsUtf8 := by
  induction text generalizing scanner found position with
  | nil =>
    cases read
    cases run
    exact ⟨here, strings⟩
  | cons byte text inductionHypothesis =>
    obtain ⟨middle, readByte, readRest⟩ := Option.bind_eq_some_iff.mp read
    obtain ⟨⟨after, more⟩, advanced, runRest⟩ := Option.bind_eq_some_iff.mp run
    obtain ⟨⟨stepped, ended⟩, step, progress⟩ := Option.bind_eq_some_iff.mp advanced
    obtain ⟨rfl, rfl⟩ := Prod.mk.inj (Option.some.inj progress)
    obtain ⟨there, endedStrings⟩ := isAt_step here sound readByte step
    have moreStrings : ∀ token ∈ ended.reverse ++ found, token.IsUtf8 := by
      intro token member
      rcases List.mem_append.mp member with fresh | old
      · exact endedStrings token (List.mem_reverse.mp fresh)
      · exact strings token old
    exact inductionHypothesis there (Utf8.Position.sound_step readByte) moreStrings readRest
      runRest

end Scanner

/-- The strings of a well-formed text are well-formed. -/
theorem isUtf8_of_scan {text : Text} {tokens : List Token} (valid : Utf8.isValid text)
    (scanned : scan text = some tokens) : ∀ token ∈ tokens, token.IsUtf8 := by
  obtain ⟨⟨scanner, found⟩, run, rest⟩ := Option.bind_eq_some_iff.mp scanned
  obtain ⟨last, finished, whole⟩ := Option.bind_eq_some_iff.mp rest
  obtain rfl := Option.some.inj whole
  have atStart : Scanner.between.IsAt Utf8.Position.boundary := rfl
  obtain ⟨-, foundStrings⟩ := Scanner.isAt_run atStart Utf8.Position.sound_boundary (by simp)
    (Utf8.isValid_iff.mp valid) run
  have lastStrings : ∀ token ∈ last, token.IsUtf8 := by
    cases scanner with
    | between =>
      cases finished
      exact nofun
    | name letters =>
      obtain ⟨atom, read, rfl⟩ := Option.map_eq_some_iff.mp finished
      simpa using Scanner.isUtf8_of_ofName? read
    | number characters =>
      obtain ⟨atom, read, rfl⟩ := Option.map_eq_some_iff.mp finished
      simpa using Scanner.isUtf8_of_ofNumber? read
    | _ => cases finished
  intro token member
  rcases List.mem_append.mp member with inFound | inLast
  · exact foundStrings token (List.mem_reverse.mp inFound)
  · exact lastStrings token inLast

/-- Escaping leads to the same place as the text itself. -/
theorem run_escaped {position place : Utf8.Position} (sound : position.Sound) {text : Text}
    (run : position.run text = some place) :
    position.run (text.flatMap escapeByte) = some place := by
  induction text generalizing position with
  | nil => exact run
  | cons byte text inductionHypothesis =>
    obtain ⟨next, step, rest⟩ := Option.bind_eq_some_iff.mp run
    have tail := inductionHypothesis (Utf8.Position.sound_step step) rest
    have head : position.run (escapeByte byte) = some next := by
      by_cases ascii : Byte.isAscii byte
      · obtain ⟨rfl, rfl⟩ := Utf8.Position.step_ascii sound ascii step
        exact Utf8.Position.run_ascii (isAscii_escapeByte ascii)
      · have single : escapeByte byte = [byte] := by
          grind [escapeByte, Byte.isAscii]
        simp [single, step]
    rw [List.flatMap_cons, Utf8.Position.run_append, head]
    exact tail

/-- The texts of the number style of JSON are ASCII. -/
theorem isAscii_realStyle : realStyle.IsAscii := by
  constructor <;> decide +kernel

/-- A string in quotes is well-formed if the string is. -/
theorem isValid_quoted {text : Text} (valid : Utf8.isValid text) :
    Utf8.isValid (quoted text) := by
  have escaped : Utf8.isValid (text.flatMap escapeByte) :=
    Utf8.isValid_iff.mpr (run_escaped Utf8.Position.sound_boundary (Utf8.isValid_iff.mp valid))
  have isQuote : Byte.isAscii Byte.quote := rfl
  rw [quoted, Utf8.repair_of_isValid valid, List.cons_append, Utf8.isValid_cons_iff isQuote]
  exact (Utf8.isValid_append_cons_iff isQuote _ _).mpr ⟨escaped, Utf8.isValid_nil⟩

/-- A token whose string is well-formed is written well-formed. -/
theorem isValid_write {token : Token} (string : token.IsUtf8) : Utf8.isValid token.write := by
  cases token with
  | openArray | closeArray | openObject | closeObject | colon | comma => rfl
  | atom value =>
    cases value with
    | null => decide +kernel
    | bool value => cases value <;> decide +kernel
    | integer value => exact Utf8.isValid_of_ascii (isAscii_textOfInt value)
    | real value =>
      cases value with
      | finite negative magnitude =>
        have ascii := NumberStyle.isAscii_write isAscii_realStyle (.finite negative magnitude)
        exact Utf8.isValid_of_ascii ascii
      | nan => decide +kernel
      | infinite negative => cases negative <;> decide +kernel
    | string text => exact isValid_quoted string

end Json

end MessageForms
