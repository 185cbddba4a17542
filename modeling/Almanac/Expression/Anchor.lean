import Almanac.Text.Blank
import Almanac.Text.LetterCase
import Almanac.Zone.Basic

namespace Almanac

/-- A word for a time that depends on the present, or for an end of time. -/
inductive Anchor
  | now | min | max | distantPast | distantFuture | morning | midnight | noon
  | today | tomorrow | yesterday | dayAfterTomorrow | dayBeforeYesterday
  | beginningMonth | endMonth | beginningYear | endYear | beginningWeek | endWeek
  | nextMonth | lastMonth | nextYear | lastYear
deriving DecidableEq

/-- Words are separated by white space, underscores or both. -/
def isGap (c : Char) : Bool :=
  isBlank c || c == '_'

/-- A text with one space for each of its gaps. -/
def collapseGaps : List Char → List Char
  | [] => []
  | c :: rest =>
    if isGap c then
      if (rest.head?.map isGap).getD false then collapseGaps rest else ' ' :: collapseGaps rest
    else c :: collapseGaps rest

/-- The form in which a text is compared with the keywords of the anchors. -/
def keywordForm (text : List Char) : List Char :=
  lower (collapseGaps (trim text))

namespace Anchor

def all : List Anchor :=
  [now, min, max, distantPast, distantFuture, morning, midnight, noon,
   today, tomorrow, yesterday, dayAfterTomorrow, dayBeforeYesterday,
   beginningMonth, endMonth, beginningYear, endYear, beginningWeek, endWeek,
   nextMonth, lastMonth, nextYear, lastYear]

def keyword : Anchor → String
  | now => "now"
  | min => "min"
  | max => "max"
  | distantPast => "distant past"
  | distantFuture => "distant future"
  | morning => "morning"
  | midnight => "midnight"
  | noon => "noon"
  | today => "today"
  | tomorrow => "tomorrow"
  | yesterday => "yesterday"
  | dayAfterTomorrow => "day after tomorrow"
  | dayBeforeYesterday => "day before yesterday"
  | beginningMonth => "beginning month"
  | endMonth => "end month"
  | beginningYear => "beginning year"
  | endYear => "end year"
  | beginningWeek => "beginning week"
  | endWeek => "end week"
  | nextMonth => "next month"
  | lastMonth => "last month"
  | nextYear => "next year"
  | lastYear => "last year"

def find? (text : List Char) : Option Anchor :=
  all.find? (·.keyword.toList = keywordForm text)

/-- The date and time of an anchor in a zone where it is `present` now. Weeks begin on Sunday; the
end of a period is the beginning of the following one. -/
def resolve (a : Anchor) (present : DateTime) (zone : Zone) : DateTime :=
  match a with
  | now => present
  | min | distantPast => zone.dateTime .startOfYearZero
  | max | distantFuture => zone.dateTime .lastDayOfYear9999
  | morning => { present with time := ⟨9, 0, 0, 0⟩ }
  | midnight => { present with time := .midnight }
  | noon => { present with time := ⟨12, 0, 0, 0⟩ }
  | today => present.startOfDay
  | tomorrow => present.startOfDay.plus 1 .day
  | yesterday => present.startOfDay.plus (-1) .day
  | dayAfterTomorrow => present.startOfDay.plus 2 .day
  | dayBeforeYesterday => present.startOfDay.plus (-2) .day
  | beginningMonth => present.startOfDay.firstOfMonth
  | endMonth => present.startOfDay.firstOfNextMonth
  | beginningYear => present.startOfDay.firstOfYear
  | endYear => present.startOfDay.firstOfNextYear
  | beginningWeek => present.startOfDay.previous .sunday
  | endWeek => present.startOfDay.next .sunday
  | nextMonth => present.plus 1 .month
  | lastMonth => present.plus (-1) .month
  | nextYear => present.plus 1 .year
  | lastYear => present.plus (-1) .year

theorem mem_all (a : Anchor) : a ∈ all := by
  cases a <;> decide

end Anchor

end Almanac
