import TicketWave.Library.Table
import Mathlib.Algebra.Group.Nat.Defs
import Mathlib.Data.List.Basic
import Mathlib.Data.List.Forall2

/-!
# UUIDs and their spellings

`UuidText` collects `uuid.Parse`, the input function of Postgres and `String()`
with what the code relies on.  `standardText` reads the 36 character form in
either letter case; in `urnText` `uuid.Parse` also reads the URN form.
-/

namespace TicketWave

/-- The sixteen bytes of a UUID. -/
abbrev UUID := BitVec 128

-- Named, so that membership in a list of IDs has one decision procedure.
instance (priority := 2000) lawfulBEqUUID : LawfulBEq UUID :=
  inferInstance

-- A bounded quantifier is decided along the list or option that bounds it;
-- the instance for `BitVec` would try all the values.
instance (priority := 2000) decidableForallMemList
    {holds : UUID → Prop} [DecidablePred holds] (ids : List UUID) :
    Decidable (∀ id ∈ ids, holds id) :=
  List.decidableBAll holds ids

instance (priority := 2000) decidableForallMemOption
    {holds : UUID → Prop} [DecidablePred holds] (found : Option UUID) :
    Decidable (∀ id ∈ found, holds id) :=
  Option.decidableForallMem found

/-- The readers and the writer of UUID text. -/
structure UuidText where
  /-- `uuid.Parse` -/
  parse : String → Option UUID
  /-- `UUID.String` -/
  string : UUID → String
  /-- Postgres reading a `uuid` column value or parameter -/
  column : String → Option UUID
  parse_string : ∀ id, parse (string id) = some id
  column_string : ∀ id, column (string id) = some id
  column_agrees :
    ∀ {text id stored},
      parse text = some id → column text = some stored → stored = id

namespace UuidText

/-- The text is the spelling that `String()` gives for its value. -/
def Canonical (uuid : UuidText) (text : String) : Prop :=
  (uuid.column text).map uuid.string = some text

instance (uuid : UuidText) (text : String) :
    Decidable (uuid.Canonical text) :=
  inferInstanceAs
    (Decidable ((uuid.column text).map uuid.string = some text))

/-- Read a list of identifiers as a `uuid[]` parameter. -/
def columns (uuid : UuidText) (texts : List String) : Option (List UUID) :=
  texts.mapM uuid.column

theorem columns_cons_eq_some_iff (uuid : UuidText) {text : String}
    {texts : List String} {ids : List UUID} :
    uuid.columns (text :: texts) = some ids ↔
      ∃ id rest, uuid.column text = some id ∧
        uuid.columns texts = some rest ∧ ids = id :: rest :=
  Library.mapM_cons_eq_some_iff

theorem columns_length (uuid : UuidText) {texts : List String} {ids : List UUID}
    (read : uuid.columns texts = some ids) : ids.length = texts.length :=
  Library.length_of_mapM read

theorem columns_map_string (uuid : UuidText) (ids : List UUID) :
    uuid.columns (ids.map uuid.string) = some ids := by
  induction ids with
  | nil => rfl
  | cons id rest ih =>
      rw [List.map_cons, uuid.columns_cons_eq_some_iff]
      exact ⟨id, rest, uuid.column_string id, ih, rfl⟩

theorem string_injective (uuid : UuidText) :
    Function.Injective uuid.string := by
  intro left right same
  have read := uuid.column_string left
  rw [same, uuid.column_string right] at read
  exact (Option.some.inj read).symm

theorem canonical_iff {uuid : UuidText} {text : String} {id : UUID}
    (read : uuid.column text = some id) :
    uuid.Canonical text ↔ uuid.string id = text := by
  unfold Canonical
  rw [read, Option.map_some, Option.some.injEq]

theorem canonical_string (uuid : UuidText) (id : UUID) :
    uuid.Canonical (uuid.string id) :=
  (canonical_iff (uuid.column_string id)).mpr rfl

theorem map_string_of_canonical {uuid : UuidText} {texts : List String}
    {ids : List UUID} (canonical : ∀ text ∈ texts, uuid.Canonical text)
    (read : uuid.columns texts = some ids) : ids.map uuid.string = texts := by
  induction texts generalizing ids with
  | nil =>
      cases read
      rfl
  | cons text rest ih =>
      obtain ⟨id, others, readHead, readRest, rfl⟩ :=
        uuid.columns_cons_eq_some_iff.mp read
      have head :=
        (canonical_iff readHead).mp (canonical text List.mem_cons_self)
      have tail :=
        ih
          (fun other member =>
            canonical other (List.mem_cons_of_mem text member)) readRest
      rw [List.map_cons, head, tail]

end UuidText

/-- The positions of the 36 character form: `true` for a digit, `false` for
a hyphen. -/
def digitMask : List Bool :=
  List.replicate 8 true ++ false :: List.replicate 4 true ++
    false :: List.replicate 4 true ++ false :: List.replicate 4 true ++
    false :: List.replicate 12 true

def hexDigit (digit : Nat) : Char :=
  if digit < 10 then Char.ofNat (48 + digit) else Char.ofNat (87 + digit)

def hexValue (char : Char) : Option Nat :=
  if '0' ≤ char ∧ char ≤ '9' then some (char.toNat - 48)
  else if 'a' ≤ char ∧ char ≤ 'f' then some (char.toNat - 87)
  else if 'A' ≤ char ∧ char ≤ 'F' then some (char.toNat - 55)
  else none

theorem hexValue_hexDigit :
    ∀ digit, digit < 16 → hexValue (hexDigit digit) = some digit := by
  decide

/-- Lay the digits out along the mask. -/
def writeMasked : List Bool → List Nat → List Char
  | [], _ => []
  | true :: mask, digit :: digits => hexDigit digit :: writeMasked mask digits
  | true :: _, [] => []
  | false :: mask, digits => '-' :: writeMasked mask digits

/-- Read the digits back, refusing anything that does not fit the mask. -/
def readMasked : List Bool → List Char → Option (List Nat)
  | [], [] => some []
  | true :: mask, char :: chars =>
      (hexValue char).bind fun digit =>
        (readMasked mask chars).map fun digits => digit :: digits
  | false :: mask, char :: chars =>
      if char = '-' then readMasked mask chars else none
  | _, _ => none

theorem readMasked_writeMasked (mask : List Bool) (digits : List Nat)
    (fits : digits.length = mask.count true)
    (small : ∀ digit ∈ digits, digit < 16) :
    readMasked mask (writeMasked mask digits) = some digits := by
  induction mask generalizing digits with
  | nil =>
      have empty : digits = [] := by simpa using fits
      subst empty
      rfl
  | cons head mask ih =>
      cases head with
      | false =>
          have fitsRest : digits.length = mask.count true := by
            simpa using fits
          simp [writeMasked, readMasked, ih digits fitsRest small]
      | true =>
          cases digits with
          | nil => simp at fits
          | cons digit rest =>
              have fitsRest : rest.length = mask.count true := by
                simpa using fits
              have smallRest : ∀ other ∈ rest, other < 16 :=
                fun other member =>
                  small other (List.mem_cons_of_mem digit member)
              simp [writeMasked, readMasked,
                hexValue_hexDigit digit (small digit List.mem_cons_self),
                ih rest fitsRest smallRest]

/-- The `count` lowest base 16 digits of `value`, highest first. -/
def hexDigits : Nat → Nat → List Nat
  | 0, _ => []
  | count + 1, value => hexDigits count (value / 16) ++ [value % 16]

def hexNumber (digits : List Nat) : Nat :=
  digits.foldl (fun total digit => 16 * total + digit) 0

theorem hexDigits_length (count value : Nat) :
    (hexDigits count value).length = count := by
  induction count generalizing value with
  | zero => rfl
  | succ count ih => simp [hexDigits, ih]

theorem hexDigits_lt (count value : Nat) :
    ∀ digit ∈ hexDigits count value, digit < 16 := by
  induction count generalizing value with
  | zero => simp [hexDigits]
  | succ count ih =>
      intro digit member
      rcases List.mem_append.mp member with earlier | last
      · exact ih (value / 16) digit earlier
      · rw [List.mem_singleton.mp last]
        exact Nat.mod_lt value (by decide)

theorem hexNumber_hexDigits (count value : Nat) :
    hexNumber (hexDigits count value) = value % 16 ^ count := by
  induction count generalizing value with
  | zero => simp [hexDigits, hexNumber, Nat.mod_one]
  | succ count ih =>
      have leading := ih (value / 16)
      rw [hexNumber] at leading
      rw [hexDigits, hexNumber, List.foldl_append, leading]
      simp only [List.foldl_cons, List.foldl_nil]
      rw [Nat.pow_succ, Nat.mul_comm (16 ^ count) 16, Nat.mod_mul]
      omega

def standardString (id : UUID) : String :=
  String.ofList (writeMasked digitMask (hexDigits 32 id.toNat))

def standardParse (text : String) : Option UUID :=
  (readMasked digitMask text.toList).map fun digits =>
    BitVec.ofNat 128 (hexNumber digits)

theorem standardParse_standardString (id : UUID) :
    standardParse (standardString id) = some id := by
  have read :
      readMasked digitMask
          (writeMasked digitMask (hexDigits 32 id.toNat)) =
        some (hexDigits 32 id.toNat) :=
    readMasked_writeMasked digitMask (hexDigits 32 id.toNat)
      (hexDigits_length 32 id.toNat) (hexDigits_lt 32 id.toNat)
  have bounded : id.toNat % 16 ^ 32 = id.toNat := Nat.mod_eq_of_lt id.isLt
  rw [standardParse, standardString, String.toList_ofList, read,
    Option.map_some, hexNumber_hexDigits, bounded, BitVec.ofNat_toNat,
    BitVec.setWidth_eq]

/-- `String()` writes hyphens and lower case digits, and nothing else. -/
def UuidText.Plain (uuid : UuidText) : Prop :=
  ∀ id, ∀ char ∈ (uuid.string id).toList,
    char = '-' ∨ ∃ digit, digit < 16 ∧ char = hexDigit digit

theorem UuidText.Plain.absent {uuid : UuidText} (plain : uuid.Plain)
    {char : Char} (noHyphen : char ≠ '-')
    (noDigit : ∀ digit, digit < 16 → char ≠ hexDigit digit) (id : UUID) :
    char ∉ (uuid.string id).toList := by
  intro member
  rcases plain id char member with isHyphen | ⟨digit, small, isDigit⟩
  · exact noHyphen isHyphen
  · exact noDigit digit small isDigit

theorem mem_writeMasked {mask : List Bool} {digits : List Nat} {char : Char}
    (member : char ∈ writeMasked mask digits) :
    char = '-' ∨ ∃ digit ∈ digits, char = hexDigit digit := by
  induction mask generalizing digits with
  | nil => cases member
  | cons head mask ih =>
      cases head with
      | false =>
          rcases List.mem_cons.mp member with isHyphen | later
          · exact Or.inl isHyphen
          · exact ih later
      | true =>
          cases digits with
          | nil => cases member
          | cons digit rest =>
              rcases List.mem_cons.mp member with isDigit | later
              · exact Or.inr ⟨digit, List.mem_cons_self, isDigit⟩
              · rcases ih later with
                  isHyphen | ⟨other, stored, isDigit⟩
                · exact Or.inl isHyphen
                · exact Or.inr
                    ⟨other, List.mem_cons_of_mem digit stored, isDigit⟩

/-- Both readers restricted to the 36 character form, digits in either
letter case. -/
def standardText : UuidText where
  parse := standardParse
  string := standardString
  column := standardParse
  parse_string := standardParse_standardString
  column_string := standardParse_standardString
  column_agrees := by
    intro text id stored parsed read
    rw [parsed] at read
    exact (Option.some.inj read).symm

theorem standardText_plain : standardText.Plain := by
  intro id char member
  have written :
      char ∈ writeMasked digitMask (hexDigits 32 id.toNat) := by
    rw [← String.toList_ofList (l := writeMasked digitMask _)]
    exact member
  rcases mem_writeMasked written with isHyphen | ⟨digit, stored, isDigit⟩
  · exact Or.inl isHyphen
  · exact Or.inr ⟨digit, hexDigits_lt 32 id.toNat digit stored, isDigit⟩

/-- The texts differ in nothing but letter case. -/
def SameLetters (left right : String) : Prop :=
  left.toList.map Char.toLower = right.toList.map Char.toLower

instance (left right : String) : Decidable (SameLetters left right) :=
  inferInstanceAs
    (Decidable (left.toList.map Char.toLower = right.toList.map Char.toLower))

/-- Neither reader looks at letter case. -/
structure UuidText.CaseBlind (uuid : UuidText) : Prop where
  parse :
    ∀ {left right}, SameLetters left right → uuid.parse left = uuid.parse right
  column :
    ∀ {left right}, SameLetters left right →
      uuid.column left = uuid.column right

theorem UuidText.CaseBlind.columns {uuid : UuidText} (blind : uuid.CaseBlind)
    {left right : List String} (same : List.Forall₂ SameLetters left right) :
    uuid.columns left = uuid.columns right := by
  induction same with
  | nil => rfl
  | cons head _ ih =>
      simp only [UuidText.columns, List.mapM_cons] at ih ⊢
      rw [blind.column head, ih]

theorem capital_cases (char : Char)
    (capital : char.val ≥ 'A'.val ∧ char.val ≤ 'Z'.val) :
    ∃ offset, offset < 26 ∧ char = Char.ofNat (65 + offset) := by
  refine ⟨char.toNat - 65, ?_, ?_⟩
  · have h := capital.2
    have : char.toNat ≤ 90 := h
    omega
  · have low : 65 ≤ char.toNat := capital.1
    rw [Nat.add_sub_cancel' low, Char.ofNat_toNat]

theorem toLower_of_not_capital (char : Char)
    (other : ¬ (char.val ≥ 'A'.val ∧ char.val ≤ 'Z'.val)) :
    char.toLower = char :=
  dif_neg other

theorem hexValue_toLower (char : Char) :
    hexValue char.toLower = hexValue char := by
  by_cases capital : char.val ≥ 'A'.val ∧ char.val ≤ 'Z'.val
  · obtain ⟨offset, small, rfl⟩ := capital_cases char capital
    have every :
        ∀ offset, offset < 26 →
          hexValue (Char.ofNat (65 + offset)).toLower =
            hexValue (Char.ofNat (65 + offset)) := by decide
    exact every offset small
  · rw [toLower_of_not_capital char capital]

theorem toLower_eq_hyphen_iff (char : Char) :
    char.toLower = '-' ↔ char = '-' := by
  by_cases capital : char.val ≥ 'A'.val ∧ char.val ≤ 'Z'.val
  · obtain ⟨offset, small, rfl⟩ := capital_cases char capital
    have every :
        ∀ offset, offset < 26 →
          ((Char.ofNat (65 + offset)).toLower = '-' ↔
            Char.ofNat (65 + offset) = '-') := by decide
    exact every offset small
  · rw [toLower_of_not_capital char capital]

theorem readMasked_toLower (mask : List Bool) (chars : List Char) :
    readMasked mask (chars.map Char.toLower) = readMasked mask chars := by
  induction mask generalizing chars with
  | nil => cases chars <;> rfl
  | cons head mask ih =>
      cases chars with
      | nil => rfl
      | cons char rest =>
          cases head with
          | true =>
              rw [List.map_cons, readMasked, readMasked, hexValue_toLower, ih]
          | false =>
              rw [List.map_cons, readMasked, readMasked, ih]
              simp only [toLower_eq_hyphen_iff]

theorem standardText_caseBlind : standardText.CaseBlind := by
  have blind :
      ∀ {left right}, SameLetters left right →
        standardParse left = standardParse right := by
    intro left right same
    rw [standardParse, standardParse, ← readMasked_toLower digitMask,
      ← readMasked_toLower digitMask right.toList, same]
  exact ⟨blind, blind⟩

def urnTag : String := "urn:uuid:"

/-- `uuid.Parse` on the 36 character form and on the same behind the tag. -/
def urnParse (text : String) : Option UUID :=
  (standardParse text).or
    (if text.toList.take 9 = urnTag.toList then
      standardParse (String.ofList (text.toList.drop 9))
    else
      none)

theorem urnParse_of_standardParse {text : String} {id : UUID}
    (read : standardParse text = some id) : urnParse text = some id := by
  rw [urnParse, read, Option.some_or]

/-- `uuid.Parse` reads the URN form, Postgres only the plain one. -/
def urnText : UuidText where
  parse := urnParse
  string := standardString
  column := standardParse
  parse_string := fun id =>
    urnParse_of_standardParse (standardParse_standardString id)
  column_string := standardParse_standardString
  column_agrees := by
    intro text id stored parsed read
    rw [urnParse_of_standardParse read] at parsed
    exact Option.some.inj parsed

end TicketWave
