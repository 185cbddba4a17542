import Almanac.Calendar.Date
import Almanac.Text.LetterCase

namespace Almanac

def englishMonths : List String :=
  ["January", "February", "March", "April", "May", "June",
   "July", "August", "September", "October", "November", "December"]

/-- The names of the months by language. -/
def monthNames : List (String × List String) :=
  [("en", englishMonths),
   ("de", ["Januar", "Februar", "März", "April", "Mai", "Juni",
      "Juli", "August", "September", "Oktober", "November", "Dezember"]),
   ("nl", ["januari", "februari", "maart", "april", "mei", "juni",
      "juli", "augustus", "september", "oktober", "november", "december"]),
   ("fr", ["janvier", "février", "mars", "avril", "mai", "juin",
      "juillet", "août", "septembre", "octobre", "novembre", "décembre"]),
   ("es", ["enero", "febrero", "marzo", "abril", "mayo", "junio",
      "julio", "agosto", "septiembre", "octubre", "noviembre", "diciembre"]),
   ("it", ["gennaio", "febbraio", "marzo", "aprile", "maggio", "giugno",
      "luglio", "agosto", "settembre", "ottobre", "novembre", "dicembre"]),
   ("pt", ["janeiro", "fevereiro", "março", "abril", "maio", "junho",
      "julho", "agosto", "setembro", "outubro", "novembro", "dezembro"]),
   ("sv", ["januari", "februari", "mars", "april", "maj", "juni",
      "juli", "augusti", "september", "oktober", "november", "december"]),
   ("fi", ["tammikuu", "helmikuu", "maaliskuu", "huhtikuu", "toukokuu", "kesäkuu",
      "heinäkuu", "elokuu", "syyskuu", "lokakuu", "marraskuu", "joulukuu"])]

/-- The language of a locale such as `de_AT.UTF-8`, in lower case. -/
def languageOf (locale : String) : String :=
  String.ofList (lower (locale.toList.takeWhile fun c => !(['-', '_', '.', '@'].contains c)))

/-- The months in the language of a locale, in English for one that is unknown. -/
def monthsIn (locale : String) : List String :=
  ((monthNames.find? (·.1 = languageOf locale)).map (·.2)).getD englishMonths

def monthName? (month : Int) (locale : String) : Option String :=
  (monthSlot? month).bind fun slot => (monthsIn locale)[(slot - 1).toNat]?

theorem length_monthsIn (locale : String) : (monthsIn locale).length = 12 := by
  have all : ∀ months ∈ monthNames, months.2.length = 12 := by decide
  unfold monthsIn
  cases found : monthNames.find? (·.1 = languageOf locale) with
  | none => rfl
  | some months => exact all months (List.mem_of_find?_eq_some found)

/-- The months have names in every locale. -/
theorem exists_monthName {month : Int} (first : 1 ≤ month) (last : month ≤ 12) (locale : String) :
    ∃ name ∈ monthsIn locale, monthName? month locale = some name := by
  have inside : (month - 1).toNat < (monthsIn locale).length := by
    rw [length_monthsIn]
    omega
  refine ⟨(monthsIn locale)[(month - 1).toNat], List.getElem_mem inside, ?_⟩
  unfold monthName? monthSlot?
  rw [if_pos ⟨first, last⟩, Option.bind_some, List.getElem?_eq_getElem inside]

end Almanac
