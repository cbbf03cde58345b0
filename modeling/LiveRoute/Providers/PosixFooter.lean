import LiveRoute.Library.Calendar
import LiveRoute.Library.EarlyExit
import Mathlib.Data.List.Infix

/-! The POSIX footer of a TZif file: its parser, and the instants of its rules.
A position in the text is what is left of it. -/
namespace LiveRoute.Providers
open Calendar EarlyExit List

structure PosixRule where
  (month week weekday transitionSeconds : Int)
  timeBasis : Char
deriving DecidableEq

structure PosixFooter where
  (standardOffset daylightOffset : Int)
  (daylightStart standardStart : PosixRule)
  hasDaylightTime : Bool
deriving DecidableEq

def digit? (character : Char) : Option Int :=
  if '0' ≤ character ∧ character ≤ '9' then some ((character.toNat : Int) - 48) else none

/-- The division of the source rounds towards zero. -/
def parseDigits (maximum : Int) (description : String) (value : Int) :
    List Char → Except String (Int × List Char)
  | [] => .ok (value, [])
  | character :: rest =>
    match digit? character with
    | none => .ok (value, character :: rest)
    | some digit =>
      if (maximum - digit).tdiv 10 < value then .error description
      else parseDigits maximum description (value * 10 + digit) rest

def parseNumber (maximum : Int) (description : String) (input : List Char) :
    Except String (Int × List Char) := do
  let (value, rest) ← parseDigits maximum description 0 input
  if rest.length = input.length then .error description else .ok (value, rest)

def isLetter (character : Char) : Bool :=
  decide ('A' ≤ character ∧ character ≤ 'Z') || decide ('a' ≤ character ∧ character ≤ 'z')

def skipAbbreviation : List Char → Except String (List Char)
  | [] => .error "POSIX footer lacks abbreviation"
  | '<' :: quoted =>
    match quoted.dropWhile (· != '>') with
    | [] => .error "invalid POSIX quoted abbreviation"
    | _ :: rest =>
      if quoted.head? = some '>' then .error "invalid POSIX quoted abbreviation" else .ok rest
  | input =>
    if (input.takeWhile isLetter).length < 3 then .error "invalid POSIX abbreviation"
    else .ok (input.dropWhile isLetter)

def parseSign : List Char → Int × List Char
  | '-' :: rest => (-1, rest)
  | '+' :: rest => (1, rest)
  | input => (1, input)

/-- `h[:m[:s]]`, in seconds. -/
def parseClock (description : String) (input : List Char) : Except String (Int × List Char) := do
  let (hours, rest) ← parseNumber 167 description input
  match rest with
  | ':' :: rest =>
    let (minutes, rest) ← parseNumber 59 description rest
    match rest with
    | ':' :: rest =>
      let (seconds, rest) ← parseNumber 59 description rest
      .ok (hours * 3600 + minutes * 60 + seconds, rest)
    | _ => .ok (hours * 3600 + minutes * 60, rest)
  | _ => .ok (hours * 3600, rest)

def parsePosixOffset (input : List Char) : Except String (Int × List Char) := do
  let (sign, unsigned) := parseSign input
  let (seconds, rest) ← parseClock "invalid POSIX offset" unsigned
  .ok (-sign * seconds, rest)

def expect (character : Char) (description : String) : List Char → Except String (List Char)
  | found :: rest => if found = character then .ok rest else .error description
  | [] => .error description

def parseRuleTime : List Char → Except String ((Int × Char) × List Char)
  | '/' :: input => do
    let (sign, unsigned) := parseSign input
    let (seconds, afterTime) ← parseClock "invalid POSIX rule time" unsigned
    match afterTime with
    | basis :: rest =>
      if basis ∈ ['w', 's', 'u', 'g', 'z'] then .ok ((sign * seconds, basis), rest)
      else .ok ((sign * seconds, 'w'), afterTime)
    | [] => .ok ((sign * seconds, 'w'), [])
  | input => .ok ((2 * 3600, 'w'), input)

def parseRule (input : List Char) : Except String (PosixRule × List Char) := do
  let rest ← expect 'M' "V1 requires POSIX M transition rules" input
  let (month, rest) ← parseNumber 12 "invalid POSIX month" rest
  if month = 0 then .error "invalid POSIX M rule"
  else
    let rest ← expect '.' "invalid POSIX M rule" rest
    let (week, rest) ← parseNumber 5 "invalid POSIX week" rest
    if week = 0 then .error "invalid POSIX M rule"
    else
      let rest ← expect '.' "invalid POSIX M rule" rest
      let (weekday, rest) ← parseNumber 6 "invalid POSIX weekday" rest
      let ((transitionSeconds, timeBasis), rest) ← parseRuleTime rest
      .ok (⟨month, week, weekday, transitionSeconds, timeBasis⟩, rest)

def noRule : PosixRule := ⟨0, 0, 0, 0, Char.ofNat 0⟩

def parseDaylightOffset (standardOffset : Int) (input : List Char) :
    Except String (Int × List Char) :=
  if input = [] ∨ input.head? = some ',' then .ok (standardOffset + 3600, input)
  else parsePosixOffset input

def parseFooter (input : List Char) : Except String PosixFooter := do
  let rest ← skipAbbreviation input
  let (standardOffset, rest) ← parsePosixOffset rest
  if rest = [] then .ok ⟨standardOffset, standardOffset, noRule, noRule, false⟩
  else
    let rest ← skipAbbreviation rest
    let (daylightOffset, rest) ← parseDaylightOffset standardOffset rest
    let rest ← expect ',' "POSIX daylight footer lacks start rule" rest
    let (start, rest) ← parseRule rest
    let rest ← expect ',' "POSIX daylight footer lacks end rule" rest
    let (finish, rest) ← parseRule rest
    if rest ≠ [] then .error "trailing POSIX footer data"
    else .ok ⟨standardOffset, daylightOffset, start, finish, true⟩

def secondsPerDay : Int := 86400

def ruleDay (year : Int) (rule : PosixRule) : Int :=
  let firstWeekday := Calendar.weekday (sysDays year rule.month 1)
  let day := 1 + (rule.weekday - firstWeekday + 7).tmod 7 + (rule.week - 1) * 7
  if lastDayOfMonth year rule.month < day then day - 7 else day

def localSeconds (year : Int) (rule : PosixRule) : Int :=
  sysDays year rule.month (ruleDay year rule) * secondsPerDay + rule.transitionSeconds

def isDigit (character : Char) : Bool := (digit? character).isSome

def addDigit (value : Int) (character : Char) : Int := value * 10 + (digit? character).getD 0

/-- The decimal value of the digits with which a text begins. -/
def leadingNumber (text : List Char) : Int := (text.takeWhile isDigit).foldl addDigit 0

section Numbers
variable {maximum : Int} {description : String}

theorem digit?_bounds (h : digit? character = some digit) : 0 ≤ digit ∧ digit ≤ 9 := by
  unfold digit? at h
  split at h
  next hdigit =>
    cases h
    have hlow : 48 ≤ character.toNat := hdigit.1
    have hhigh : character.toNat ≤ 57 := hdigit.2
    omega
  next => cases h

theorem tdiv_ten_eq_zero (hlow : -10 < number) (hhigh : number ≤ 0) : number.tdiv 10 = 0 := by
  rw [← Int.neg_neg number, Int.neg_tdiv, Int.tdiv_eq_zero_of_lt (by omega) (by omega),
    Int.neg_zero]

theorem parseDigits_ok (hmax : 0 ≤ maximum) (hvalue : 0 ≤ value ∧ (value ≤ maximum ∨ value ≤ 9))
    (h : parseDigits maximum description value input = .ok (result, rest)) :
    (0 ≤ result ∧ (result ≤ maximum ∨ result ≤ 9)) ∧
      result = (input.takeWhile isDigit).foldl addDigit value ∧ rest = input.dropWhile isDigit := by
  induction input generalizing value with
  | nil =>
    cases h
    exact ⟨hvalue, rfl, rfl⟩
  | cons _ _ ih =>
    unfold parseDigits at h
    split at h
    next hnone =>
      cases h
      simp [hvalue, isDigit, hnone]
    next digit hdigit =>
      have hbounds := digit?_bounds hdigit
      split at h
      next => cases h
      next hroom =>
        have hnext : 0 ≤ value * 10 + digit ∧
            (value * 10 + digit ≤ maximum ∨ value * 10 + digit ≤ 9) := by
          refine ⟨by omega, ?_⟩
          by_cases hle : digit ≤ maximum
          · rw [Int.tdiv_eq_ediv_of_nonneg (by omega)] at hroom
            omega
          · rw [tdiv_ten_eq_zero (by omega) (by omega)] at hroom
            omega
        simpa [isDigit, hdigit, addDigit] using ih hnext h

theorem parseNumber_ok (hmax : 0 ≤ maximum)
    (h : parseNumber maximum description input = .ok (value, rest)) :
    (0 ≤ value ∧ (value ≤ maximum ∨ value ≤ 9)) ∧
      value = leadingNumber input ∧ rest = input.dropWhile isDigit := by
  simp only [parseNumber, bind_eq_ok, Prod.exists, ite_error_eq_ok] at h
  obtain ⟨found, left, hdigits, -, h⟩ := h
  cases h
  exact parseDigits_ok hmax ⟨Int.le_refl 0, .inr (by decide)⟩ hdigits

theorem parseNumber_le_iff (hmax : 0 ≤ maximum) : (∀ input value rest,
    parseNumber maximum description input = .ok (value, rest) → value ≤ maximum) ↔ 9 ≤ maximum := by
  constructor
  · intro h
    by_contra hsmall
    refine absurd (h ['9'] 9 [] ?_) (by omega)
    have hzero : (maximum - 9).tdiv 10 = 0 := tdiv_ten_eq_zero (by omega) (by omega)
    have hdigit : digit? '9' = some 9 := by decide
    simp [parseNumber, parseDigits, hdigit, hzero, bind, Except.bind]
  · intro hlarge input value rest h
    have hbounds := (parseNumber_ok hmax h).1
    omega

end Numbers

def IsClock (time : Int) : Prop :=
  ∃ sign hours minutes seconds : Int, (sign = 1 ∨ sign = -1) ∧ (0 ≤ hours ∧ hours ≤ 167) ∧
    (0 ≤ minutes ∧ minutes ≤ 59) ∧ (0 ≤ seconds ∧ seconds ≤ 59) ∧
      time = sign * (hours * 3600 + minutes * 60 + seconds)

/-- The day of the month on which the rule takes effect. -/
def IsRuleDay (year : Int) (rule : PosixRule) (day : Int) : Prop :=
  (1 ≤ day ∧ day ≤ lastDayOfMonth year rule.month) ∧
    Calendar.weekday (sysDays year rule.month day) = rule.weekday ∧
    if rule.week = 5 then lastDayOfMonth year rule.month < day + 7
    else rule.week * 7 - 7 < day ∧ day ≤ rule.week * 7

structure PosixRule.RangeSafe (rule : PosixRule) : Prop where
  month : 1 ≤ rule.month ∧ rule.month ≤ 12
  week : 1 ≤ rule.week ∧ rule.week ≤ 5
  weekday : 0 ≤ rule.weekday ∧ rule.weekday ≤ 6
  time : IsClock rule.transitionSeconds
  instant : ∀ year, 1970 ≤ year → year ≤ 9999 → ∃ day, IsRuleDay year rule day ∧
    localSeconds year rule = sysDays year rule.month day * secondsPerDay + rule.transitionSeconds

def PosixFooter.rules (footer : PosixFooter) : List PosixRule :=
  if footer.hasDaylightTime then [footer.daylightStart, footer.standardStart] else []

structure PosixFooter.RangeSafe (footer : PosixFooter) : Prop where
  standardOffset : IsClock footer.standardOffset
  daylightOffset : IsClock footer.daylightOffset ∨
    footer.daylightOffset = footer.standardOffset + 3600
  rules : ∀ rule ∈ footer.rules, rule.RangeSafe

section Rules
variable {rule : PosixRule}

/-- One correction is enough: no month is shorter than four weeks. -/
theorem ruleDay_isRuleDay (hweek : 1 ≤ rule.week ∧ rule.week ≤ 5)
    (hweekday : 0 ≤ rule.weekday ∧ rule.weekday ≤ 6) : IsRuleDay year rule (ruleDay year rule) := by
  have hlast := lastDayOfMonth_bounds year rule.month
  unfold IsRuleDay ruleDay
  dsimp only
  rw [Int.tmod_eq_emod_of_nonneg (by unfold Calendar.weekday; omega)]
  unfold Calendar.weekday
  refine ⟨?_, ?_, ?_⟩
  · split <;> omega
  · rw [sysDays_add]
    split <;> omega
  · split <;> split <;> omega

theorem parseClock_ok (h : parseClock description input = .ok (time, rest)) : rest <:+ input ∧
    ∃ hours minutes seconds : Int, (0 ≤ hours ∧ hours ≤ 167) ∧ (0 ≤ minutes ∧ minutes ≤ 59) ∧
      (0 ≤ seconds ∧ seconds ≤ 59) ∧ time = hours * 3600 + minutes * 60 + seconds := by
  simp only [parseClock, bind_eq_ok, Prod.exists] at h
  obtain ⟨hours, afterHours, hhours, h⟩ := h
  obtain ⟨hhours, -, rfl⟩ := parseNumber_ok (by decide) hhours
  have hleft := input.dropWhile_suffix isDigit
  split at h
  next afterHours heq =>
    simp only [bind_eq_ok, Prod.exists] at h
    obtain ⟨minutes, afterMinutes, hminutes, h⟩ := h
    obtain ⟨hminutes, -, rfl⟩ := parseNumber_ok (by decide) hminutes
    have hleft := (afterHours.dropWhile_suffix isDigit).trans ((suffix_cons ..).trans (heq ▸ hleft))
    split at h
    next afterMinutes heq =>
      simp only [bind_eq_ok, Prod.exists] at h
      obtain ⟨seconds, left, hseconds, h⟩ := h
      obtain ⟨hseconds, -, rfl⟩ := parseNumber_ok (by decide) hseconds
      cases h
      refine ⟨(afterMinutes.dropWhile_suffix isDigit).trans
        ((suffix_cons ..).trans (heq ▸ hleft)), hours, minutes, seconds, ?_⟩
      omega
    next =>
      cases h
      exact ⟨hleft, hours, minutes, 0, by omega⟩
  next =>
    cases h
    exact ⟨hleft, hours, 0, 0, by omega⟩

theorem parseSign_ok (input : List Char) : (parseSign input).2 <:+ input ∧
    ((parseSign input).1 = 1 ∨ (parseSign input).1 = -1) := by
  unfold parseSign
  split <;> simp [suffix_cons]

theorem parsePosixOffset_ok (h : parsePosixOffset input = .ok (offset, rest)) :
    rest <:+ input ∧ IsClock offset := by
  simp only [parsePosixOffset, bind_eq_ok, Prod.exists] at h
  obtain ⟨time, left, htime, h⟩ := h
  cases h
  obtain ⟨hleft, hours, minutes, seconds, hparts⟩ := parseClock_ok htime
  obtain ⟨hunsigned, hsign⟩ := parseSign_ok input
  refine ⟨hleft.trans hunsigned, -(parseSign input).1, hours, minutes, seconds, by omega, hparts.1,
    hparts.2.1, hparts.2.2.1, ?_⟩
  rw [hparts.2.2.2]

theorem parseRuleTime_ok (h : parseRuleTime input = .ok (time, rest)) :
    rest <:+ input ∧ IsClock time.1 := by
  unfold parseRuleTime at h
  split at h
  next unsigned =>
    simp only [bind_eq_ok, Prod.exists] at h
    obtain ⟨seconds, left, hseconds, h⟩ := h
    obtain ⟨hleft, hours, minutes, rest, hparts⟩ := parseClock_ok hseconds
    obtain ⟨hunsigned, hsign⟩ := parseSign_ok unsigned
    have hleft := (hleft.trans hunsigned).trans (suffix_cons '/' unsigned)
    have hclock : IsClock ((parseSign unsigned).1 * seconds) :=
      ⟨_, hours, minutes, rest, hsign, hparts.1, hparts.2.1, hparts.2.2.1, by rw [hparts.2.2.2]⟩
    split at h
    next =>
      split at h <;> cases h
      · exact ⟨(suffix_cons ..).trans hleft, hclock⟩
      · exact ⟨hleft, hclock⟩
    next =>
      cases h
      exact ⟨hleft, hclock⟩
  next =>
    cases h
    exact ⟨suffix_rfl, 1, 2, 0, 0, by decide⟩

theorem expect_eq_ok :
    expect character description input = .ok rest ↔ input = character :: rest := by
  cases input with
  | nil => simp [expect]
  | cons found => by_cases h : found = character <;> simp [expect, h]

/-- The week and the weekday of a rule `m.w.d`, as they are written. -/
def ruleInRange (text : List Char) : Bool :=
  let week := (text.dropWhile isDigit).tail
  let weekday := (week.dropWhile isDigit).tail
  decide (leadingNumber week ≤ 5 ∧ leadingNumber weekday ≤ 6)

/-- The parts of a rule that are read with a maximum of two digits are in range. -/
theorem parseRule_ok (h : parseRule input = .ok (rule, rest)) : ∃ text, input = 'M' :: text ∧
    rest <:+ text ∧ (ruleInRange text → rule.RangeSafe) := by
  simp only [parseRule, bind_eq_ok, Prod.exists, ite_error_eq_ok, expect_eq_ok] at h
  obtain ⟨text, rfl, month, _, hmonth, hmonthPos, weekText, hweekText, week, _, hweek, hweekPos,
    weekdayText, hweekdayText, weekday, _, hweekday, time, basis, _, htime, h⟩ := h
  cases h
  obtain ⟨hmonth, -, rfl⟩ := parseNumber_ok (by decide) hmonth
  obtain ⟨hweek, hweekEq, rfl⟩ := parseNumber_ok (by decide) hweek
  obtain ⟨hweekday, hweekdayEq, rfl⟩ := parseNumber_ok (by decide) hweekday
  obtain ⟨hrest, hclock⟩ := parseRuleTime_ok htime
  have hweekLeft : weekText <:+ text :=
    (suffix_cons ..).trans (hweekText ▸ text.dropWhile_suffix isDigit)
  have hweekdayLeft : weekdayText <:+ weekText :=
    (suffix_cons ..).trans (hweekdayText ▸ weekText.dropWhile_suffix isDigit)
  refine ⟨text, rfl, ?_, fun hrange => ?_⟩
  · exact (hrest.trans (dropWhile_suffix _)).trans (hweekdayLeft.trans hweekLeft)
  · simp only [ruleInRange, hweekText, tail_cons, hweekdayText, decide_eq_true_eq, ← hweekEq,
      ← hweekdayEq] at hrange
    have hweek : 1 ≤ week ∧ week ≤ 5 := ⟨by omega, hrange.1⟩
    have hweekday : 0 ≤ weekday ∧ weekday ≤ 6 := ⟨by omega, hrange.2⟩
    exact {
      month := ⟨by dsimp only; omega, by dsimp only; omega⟩
      week := hweek
      weekday := hweekday
      time := hclock
      instant := fun year _ _ => ⟨_, ruleDay_isRuleDay hweek hweekday, rfl⟩ }

end Rules

/-- Every rule `,Mm.w.d` that occurs in the text has its numbers in range. -/
def footerInRange (input : List Char) : Bool :=
  input.tails.all fun
    | ',' :: 'M' :: text => ruleInRange text
    | _ => true

theorem skipAbbreviation_suffix (h : skipAbbreviation input = .ok rest) : rest <:+ input := by
  unfold skipAbbreviation at h
  split at h
  next => cases h
  next quoted =>
    split at h
    next => cases h
    next heq =>
      obtain ⟨-, h⟩ := ite_error_eq_ok.mp h
      cases h
      have hquoted := heq ▸ quoted.dropWhile_suffix (· != '>')
      exact (suffix_cons ..).trans (hquoted.trans (suffix_cons ..))
  next =>
    obtain ⟨-, h⟩ := ite_error_eq_ok.mp h
    cases h
    exact dropWhile_suffix _

theorem parseDaylightOffset_ok
    (h : parseDaylightOffset standardOffset input = .ok (offset, rest)) :
    rest <:+ input ∧ (IsClock offset ∨ offset = standardOffset + 3600) := by
  unfold parseDaylightOffset at h
  split at h
  next =>
    cases h
    exact ⟨suffix_rfl, .inr rfl⟩
  next => exact (parsePosixOffset_ok h).imp_right .inl

end LiveRoute.Providers
