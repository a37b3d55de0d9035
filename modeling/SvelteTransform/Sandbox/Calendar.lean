import SvelteTransform.Sandbox.Numeral
import SvelteTransform.Sandbox.Octets

/-! Dates and times of day, counted from the beginning of 1970. The only zone is that of the
clock. -/
namespace SvelteTransform.Sandbox.Calendar

structure Date where
  year : Int
  month : Nat
  day : Nat
  deriving DecidableEq, Repr

def daysTo (year month day : Int) : Int :=
  let months := year * 12 + month - 1
  let year := months.fdiv 12
  let month := months.fmod 12 + 1
  let year := if month ≤ 2 then year - 1 else year
  let era := year.fdiv 400
  let ofEra := year - era * 400
  let ofYear := (153 * (if 2 < month then month - 3 else month + 9) + 2) / 5
  era * 146097 + ofEra * 365 + ofEra / 4 - ofEra / 100 + ofYear + day - 1 - 719468

def dateOf (days : Int) : Date :=
  let days := days + 719468
  let era := days.fdiv 146097
  let ofEra := days - era * 146097
  let years := (ofEra - ofEra / 1460 + ofEra / 36524 - ofEra / 146096) / 365
  let ofYear := ofEra - (365 * years + years / 4 - years / 100)
  let fromMarch := (5 * ofYear + 2) / 153
  let day := ofYear - (153 * fromMarch + 2) / 5 + 1
  let month := if fromMarch < 10 then fromMarch + 3 else fromMarch - 9
  ⟨years + era * 400 + (if month ≤ 2 then 1 else 0), month.toNat, day.toNat⟩

structure Moment where
  days : Int
  second : Nat
  nanosecond : Nat
  deriving DecidableEq, Repr

namespace Moment

def ofMilliseconds (n : Int) : Moment :=
  let seconds := n.fdiv 1000
  ⟨seconds.fdiv 86400, (seconds.fmod 86400).toNat, (n.fmod 1000).toNat * 1000000⟩

def seconds (m : Moment) : Int := m.days * 86400 + m.second

def milliseconds (m : Moment) : Int := m.seconds * 1000 + m.nanosecond / 1000000

def date (m : Moment) : Date := dateOf m.days

def weekday (m : Moment) : Nat := ((m.days + 4).fmod 7).toNat

def yearDay (m : Moment) : Nat := (m.days - daysTo m.date.year 1 1).toNat

def hour (m : Moment) : Nat := m.second / 3600

def twelve (m : Moment) : Nat := if m.hour % 12 = 0 then 12 else m.hour % 12

def week (m : Moment) : Int × Nat :=
  let fromMonday := (m.weekday + 6) % 7
  let thursday := m.days - fromMonday + 3
  let year := (dateOf thursday).year
  (year, ((thursday - daysTo year 1 1) / 7).toNat + 1)

end Moment

def weekdays : List String :=
  ["Sunday", "Monday", "Tuesday", "Wednesday", "Thursday", "Friday", "Saturday"]

def months : List String :=
  ["January", "February", "March", "April", "May", "June", "July", "August", "September",
   "October", "November", "December"]

structure Layout where
  fill : Option Char := none
  width : Option Nat := none
  upper : Bool := false
  swaps : Bool := false

def number (l : Layout) (width : Nat) (fill : Char) (n : Int) : Octets :=
  let digits := Nat.toDigits 10 n.natAbs
  let sign := if n < 0 then ['-'] else []
  match l.fill with
  | some '-' => sign ++ digits
  | chosen =>
    let gap := l.width.getD width - digits.length - sign.length
    let c := chosen.getD fill
    if c = '0' then sign ++ List.replicate gap '0' ++ digits
    else List.replicate gap ' ' ++ sign ++ digits

def word (l : Layout) (text : String) : Octets :=
  let text := text.toList
  let isUpper := text.all fun c => !Octets.isLower c
  let text := if l.upper then text.map Char.toUpper
    else if l.swaps then text.map (if isUpper then Char.toLower else Char.toUpper) else text
  let gap := l.width.getD 0 - text.length
  List.replicate gap (if l.fill = some '0' then '0' else ' ') ++ text

def joined (letter : Char) : Option String :=
  match letter with
  | 'F' => some "%Y-%m-%d"
  | 'T' | 'X' => some "%H:%M:%S"
  | 'R' => some "%H:%M"
  | 'r' => some "%I:%M:%S %p"
  | 'D' | 'x' => some "%m/%d/%y"
  | 'c' => some "%a %b %e %H:%M:%S %Y"
  | 'h' => some "%b"
  | _ => none

def part (m : Moment) (l : Layout) (letter : Char) : Option Octets :=
  let d := m.date
  match letter with
  | 'Y' => some (number l 1 '0' d.year)
  | 'C' => some (number l 2 '0' (d.year.fdiv 100))
  | 'y' => some (number l 2 '0' (d.year.fmod 100))
  | 'm' => some (number l 2 '0' d.month)
  | 'd' => some (number l 2 '0' d.day)
  | 'e' => some (number l 2 ' ' d.day)
  | 'H' => some (number l 2 '0' m.hour)
  | 'k' => some (number l 2 ' ' m.hour)
  | 'I' => some (number l 2 '0' m.twelve)
  | 'l' => some (number l 2 ' ' m.twelve)
  | 'M' => some (number l 2 '0' (m.second / 60 % 60 : Nat))
  | 'S' => some (number l 2 '0' (m.second % 60 : Nat))
  | 's' => some (number l 1 '0' m.seconds)
  | 'j' => some (number l 3 '0' (m.yearDay + 1 : Nat))
  | 'q' => some (number l 1 '0' ((d.month + 2) / 3 : Nat))
  | 'u' => some (number l 1 '0' (if m.weekday = 0 then 7 else m.weekday : Nat))
  | 'w' => some (number l 1 '0' m.weekday)
  | 'U' => some (number l 2 '0' ((m.yearDay + 7 - m.weekday) / 7 : Nat))
  | 'W' => some (number l 2 '0' ((m.yearDay + 7 - (m.weekday + 6) % 7) / 7 : Nat))
  | 'V' => some (number l 2 '0' m.week.2)
  | 'G' => some (number l 1 '0' m.week.1)
  | 'g' => some (number l 2 '0' (m.week.1.fmod 100))
  | 'N' =>
    let digits := number {} 9 '0' m.nanosecond
    some (digits.take (l.width.getD 9))
  | 'a' => some (word l ((weekdays.getD m.weekday "").take 3).toString)
  | 'A' => some (word l (weekdays.getD m.weekday ""))
  | 'b' => some (word l ((months.getD (d.month - 1) "").take 3).toString)
  | 'B' => some (word l (months.getD (d.month - 1) ""))
  | 'p' => some (word l (if m.hour < 12 then "AM" else "PM"))
  | 'P' => some (word l (if m.hour < 12 then "am" else "pm"))
  | 'z' => some "+0000".toList
  | 'Z' => some (word l "UTC")
  | 'n' => some ['\n']
  | 't' => some ['\t']
  | '%' => some ['%']
  | _ => none

def format (m : Moment) : (fuel : Nat) → Octets → Octets
  | fuel + 1, '%' :: text =>
    let flags := text.takeWhile ("-_0^#+".toList.contains ·)
    let rest := text.drop flags.length
    let width := rest.takeWhile Octets.isDigit
    let rest := rest.drop width.length
    let fill := (flags.reverse.find? ("-_0".toList.contains ·)).map fun c => if c = '_' then ' ' else c
    let l : Layout := {
      fill, upper := flags.contains '^', swaps := flags.contains '#'
      width := if width = [] then none else some (Octets.natural width) }
    let colons := rest.takeWhile (· = ':')
    match rest.drop colons.length with
    | 'z' :: more =>
      let zone := match colons.length with
        | 0 => "+0000"
        | 1 => "+00:00"
        | 2 => "+00:00:00"
        | _ => "+00"
      zone.toList ++ format m fuel more
    | letter :: more =>
      match joined letter with
      | some text =>
        let text := format m fuel text.toList
        let gap := l.width.getD 0 - text.length
        let text := if l.upper then text.map Char.toUpper else text
        List.replicate gap ' ' ++ text ++ format m fuel more
      | none =>
        match part m l letter with
        | some text => text ++ format m fuel more
        | none => '%' :: text.take (text.length - more.length) ++ format m fuel more
    | [] => '%' :: text
  | fuel + 1, c :: rest => c :: format m fuel rest
  | _, _ => []

def shown (m : Moment) (text : String) : Octets := format m (text.length + 40) text.toList

inductive Token where
  | word (text : Octets)
  | number (sign : Option Char) (digits fraction : Octets)
  | mark (c : Char)
  deriving DecidableEq, Repr

def isLetter (c : Char) : Bool := Octets.isLower c || Octets.isUpper c

def tokens : (fuel : Nat) → Octets → Option (List Token)
  | _, [] => some []
  | 0, _ => none
  | fuel + 1, c :: rest =>
    if Octets.isSpace c then tokens fuel rest
    else if isLetter c then do
      let text := (c :: rest).takeWhile fun c => isLetter c || c = '.'
      return .word ((text.filter (· != '.')).map Char.toLower) ::
        (← tokens fuel ((c :: rest).drop text.length))
    else
      let sign := if c = '+' || c = '-' then some c else none
      let digits := (if sign.isSome then rest else c :: rest).takeWhile Octets.isDigit
      if digits = [] then do
        if ":/,@-+".toList.contains c then return .mark c :: (← tokens fuel rest) else none
      else
        let after := (if sign.isSome then rest else c :: rest).drop digits.length
        match after with
        | '.' :: more =>
          let fraction := more.takeWhile Octets.isDigit
          if fraction = [] then none
          else do return .number sign digits fraction :: (← tokens fuel (more.drop fraction.length))
        | _ => do return .number sign digits [] :: (← tokens fuel after)

structure Seen where
  date : Option (Int × Int × Int) := none
  time : Option Int := none
  zone : Option Int := none
  weekday : Option (Int × Nat) := none
  months : Int := 0
  days : Int := 0
  milliseconds : Int := 0
  keepsTime : Bool := false

def thousandths (fraction : Octets) : Int := Octets.natural ((fraction ++ ['0', '0', '0']).take 3)

def fullYear (digits : Octets) : Int :=
  let n := Octets.natural digits
  if digits.length ≤ 2 then if n < 69 then 2000 + n else 1900 + n else n

def monthOf? (text : Octets) : Option Int :=
  let found := months.findIdx? fun name =>
    let name := name.toList.map Char.toLower
    text = name || text = name.take 3 || (text = "sept".toList && name.take 3 = "sep".toList)
  found.map fun n => (n : Int) + 1

def weekdayOf? (text : Octets) : Option Nat :=
  weekdays.findIdx? fun name =>
    let name := name.toList.map Char.toLower
    text = name || text = name.take 3

def shifted (s : Seen) (n : Int) (unit : Octets) : Option Seen :=
  let unit := if 1 < unit.length && unit.getLast? = some 's' && unit != "hrs".toList then unit.dropLast else unit
  match String.ofList unit with
  | "year" => some { s with months := s.months + 12 * n, keepsTime := true }
  | "month" => some { s with months := s.months + n, keepsTime := true }
  | "fortnight" => some { s with days := s.days + 14 * n, keepsTime := true }
  | "week" => some { s with days := s.days + 7 * n, keepsTime := true }
  | "day" => some { s with days := s.days + n, keepsTime := true }
  | "hour" => some { s with milliseconds := s.milliseconds + 3600000 * n, keepsTime := true }
  | "min" | "minute" => some { s with milliseconds := s.milliseconds + 60000 * n, keepsTime := true }
  | "sec" | "second" => some { s with milliseconds := s.milliseconds + 1000 * n, keepsTime := true }
  | _ => none

def ordinal? (text : Octets) : Option Int :=
  match String.ofList text with
  | "last" => some (-1)
  | "this" => some 0
  | "next" => some 1
  | _ => none

def inSign (sign : Option Char) (n : Nat) : Int := if sign = some '-' then -n else n

def clockTime (s : Seen) (hour minute second : Nat) (fraction : Octets) (rest : List Token) :
    Option (Seen × List Token) := do
  guard (s.time.isNone && minute < 60 && second ≤ 60)
  let (hour, rest) ← match rest with
    | .word half :: more =>
      if half = "am".toList || half = "pm".toList then
        if 1 ≤ hour && hour ≤ 12 then
          some (hour % 12 + (if half = "pm".toList then 12 else 0), more)
        else none
      else some (hour, rest)
    | _ => some (hour, rest)
  guard (hour < 24)
  let time : Int := ((hour * 60 + minute) * 60 + second : Nat) * 1000 + thousandths fraction
  return ({ s with time := some time }, rest)

def withDate (s : Seen) (year month day : Int) : Option Seen := do
  guard (s.date.isNone && 1 ≤ month && month ≤ 12 && 1 ≤ day && day ≤ 31)
  return { s with date := some (year, month, day) }

def step (year : Int) (s : Seen) (input : List Token) : Option (Seen × List Token) := do
  match input with
  -- A date in digits.
  | .number none y [] :: .number (some '-') m [] :: .number (some '-') d [] :: rest =>
    return (← withDate s (fullYear y) (Octets.natural m) (Octets.natural d), rest)
  | .number none m [] :: .mark '/' :: .number none d [] :: .mark '/' :: .number none y [] :: rest =>
    if 4 ≤ m.length then
      return (← withDate s (fullYear m) (Octets.natural d) (Octets.natural y), rest)
    return (← withDate s (fullYear y) (Octets.natural m) (Octets.natural d), rest)
  | .number none m [] :: .mark '/' :: .number none d [] :: rest =>
    return (← withDate s year (Octets.natural m) (Octets.natural d), rest)
  -- A time.
  | .number none h [] :: .mark ':' :: .number none m [] :: .mark ':' :: .number none sec f :: rest =>
    clockTime s (Octets.natural h) (Octets.natural m) (Octets.natural sec) f rest
  | .number none h [] :: .mark ':' :: .number none m [] :: rest =>
    clockTime s (Octets.natural h) (Octets.natural m) 0 [] rest
  -- A zone after a time.
  | .number (some sign) h [] :: .mark ':' :: .number none m [] :: rest =>
    guard (s.time.isSome && s.zone.isNone)
    return ({ s with zone := some (inSign sign (Octets.natural h * 60 + Octets.natural m)) }, rest)
  | .number none n [] :: .word text :: rest =>
    if text = "am".toList || text = "pm".toList then
      return ← clockTime s (Octets.natural n) 0 0 [] (.word text :: rest)
    match monthOf? text with
    | some month =>
      match rest with
      | .mark ',' :: .number none y [] :: rest | .number none y [] :: rest =>
        match rest with
        | .mark ':' :: _ => return (← withDate s year month (Octets.natural n), input.drop 2)
        | _ => return (← withDate s (fullYear y) month (Octets.natural n), rest)
      | .mark '-' :: .number none y [] :: rest | .number (some '-') y [] :: rest =>
        return (← withDate s (fullYear y) month (Octets.natural n), rest)
      | _ => return (← withDate s year month (Octets.natural n), rest)
    | none =>
      let (back, rest) := match rest with
        | .word ago :: more => if ago = "ago".toList then (true, more) else (false, rest)
        | _ => (false, rest)
      let n : Int := Octets.natural n
      if text = ['t'] && 8 ≤ (Octets.ofInt n).length then
        return (← withDate s (n / 10000) (n / 100 % 100) (n % 100), rest)
      return (← shifted s (if back then -n else n) text, rest)
  | .number (some sign) n [] :: .word text :: rest =>
    let (back, rest) := match rest with
      | .word ago :: more => if ago = "ago".toList then (true, more) else (false, rest)
      | _ => (false, rest)
    let n := inSign (some sign) (Octets.natural n)
    return (← shifted s (if back then -n else n) text, rest)
  | .number (some sign) n [] :: rest =>
    guard (s.time.isSome && s.zone.isNone)
    let minutes := if n.length ≤ 2 then Octets.natural n * 60
      else Octets.natural n / 100 * 60 + Octets.natural n % 100
    return ({ s with zone := some (inSign (some sign) minutes) }, rest)
  | .number none n [] :: rest =>
    let v : Int := Octets.natural n
    if n.length = 8 && s.date.isNone then
      return (← withDate s (v / 10000) (v / 100 % 100) (v % 100), rest)
    else if n.length ≤ 2 then clockTime s v.toNat 0 0 [] rest
    else if n.length ≤ 4 then clockTime s (v / 100).toNat (v % 100).toNat 0 [] rest
    else none
  | .word text :: rest =>
    match String.ofList text with
    | "now" => return ({ s with keepsTime := true }, rest)
    | "today" => return ({ s with keepsTime := true }, rest)
    | "yesterday" => return ({ s with days := s.days - 1, keepsTime := true }, rest)
    | "tomorrow" => return ({ s with days := s.days + 1, keepsTime := true }, rest)
    | "noon" => clockTime s 12 0 0 [] rest
    | "midnight" => clockTime s 0 0 0 [] rest
    | "z" | "utc" | "gmt" | "ut" =>
      guard s.zone.isNone
      return ({ s with zone := some 0 }, rest)
    | "t" => if s.date.isSome && s.time.isNone then return (s, rest) else none
    | _ =>
      match ordinal? text, rest with
      | some n, .word unit :: rest =>
        match weekdayOf? unit with
        | some day => return ({ s with weekday := some (n, day) }, rest)
        | none => return (← shifted s n unit, rest)
      | some _, _ => none
      | none, _ =>
        match monthOf? text, rest with
        | some month, .number none d [] :: .mark ',' :: .number none y [] :: rest =>
          return (← withDate s (fullYear y) month (Octets.natural d), rest)
        | some month, .number none d [] :: .number none y [] :: rest =>
          match rest with
          | .mark ':' :: _ =>
            return (← withDate s year month (Octets.natural d), .number none y [] :: rest)
          | _ => return (← withDate s (fullYear y) month (Octets.natural d), rest)
        | some month, .number none d [] :: rest =>
          return (← withDate s year month (Octets.natural d), rest)
        | _, _ =>
          match weekdayOf? text with
          | some day =>
            let rest := match rest with
              | .mark ',' :: rest => rest
              | rest => rest
            return ({ s with weekday := some (0, day) }, rest)
          | none => return (← shifted s 1 text, rest)
  | _ => none

def steps (year : Int) : (fuel : Nat) → Seen → List Token → Option Seen
  | _, s, [] => some s
  | 0, _, _ => none
  | fuel + 1, s, input => do
    let (s, rest) ← step year s input
    steps year fuel s rest

def read? (now : Int) (text : Octets) : Option Int := do
  let from_ := Moment.ofMilliseconds now
  match ← tokens (text.length + 1) text with
  | [.mark '@', .number sign digits fraction] =>
    let n : Int := Octets.natural digits * 1000 + thousandths fraction
    return if sign = some '-' then -n else n
  | input =>
    let s ← steps from_.date.year (input.length + 1) {} input
    let (year, month, day) := s.date.getD
      (from_.date.year, (from_.date.month : Int), (from_.date.day : Int))
    let known := daysTo year month day
    -- A day that the month does not have is refused.
    guard (s.date.isNone || dateOf known = ⟨year, month.toNat, day.toNat⟩)
    let days := daysTo year (month + s.months) day + s.days
    let days := match s.weekday with
      | none => days
      | some (n, weekday) =>
        let ahead := ((weekday : Int) - (days + 4)).fmod 7
        days + ahead + 7 * (if 0 < n && ahead != 0 then n - 1 else n)
    let time := match s.time with
      | some time => time
      | none =>
        if s.keepsTime && s.date.isNone && s.weekday.isNone then
          now - from_.days * 86400000
        else 0
    return days * 86400000 + time + s.milliseconds - s.zone.getD 0 * 60000

def ofDigits? (now : Int) (text : Octets) : Option Int := do
  let digits := text.takeWhile (· != '.')
  let second ← match text.drop digits.length with
    | [] => some 0
    | _ :: s => if s.length = 2 && s.all Octets.isDigit then some (Octets.natural s) else none
  guard (digits.all Octets.isDigit)
  let rest := digits.drop (digits.length - 8)
  let year : Int ← match digits.length with
    | 8 => some (Moment.ofMilliseconds now).date.year
    | 10 => some (fullYear (digits.take 2))
    | 12 => some (Octets.natural (digits.take 4) : Int)
    | _ => none
  let two (n : Nat) : Nat := Octets.natural ((rest.drop n).take 2)
  let days := daysTo year (two 0) (two 2)
  guard (dateOf days = ⟨year, two 0, two 2⟩ && two 4 < 24 && two 6 < 60 && second ≤ 60)
  return (days * 86400 + ((two 4 * 60 + two 6) * 60 + second : Nat)) * 1000

end SvelteTransform.Sandbox.Calendar
