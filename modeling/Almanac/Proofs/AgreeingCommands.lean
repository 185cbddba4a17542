import Almanac.Proofs.IsoReading
import Almanac.Proofs.IsoWeeks
import Almanac.Proofs.JsonReading
import Almanac.Proofs.LookupRange
import Almanac.Proofs.PersistedSettings
import Almanac.Proofs.PrintedLines
import Almanac.Proofs.Sums

namespace Almanac

variable {file : SettingsFile} {around : Surroundings} {zone? : Option String}
  {expression : String} {context : Context} {i : Instant}

/-- A command finds an instant: settings come out of the file and the environment, they have a
context, and the expression names the instant in it. -/
structure Finds (file : SettingsFile) (around : Surroundings) (zone? : Option String)
    (expression : String) (context : Context) (i : Instant) : Prop where
  settled : ∃ settings, (file.bootstrap [] around.env false around.now).2 = .ok settings
    ∧ settings.contextIn zone? around.now = .ok context
  evaluated : context.evaluate expression around.now = .ok i

theorem inContext_of_settled {settings : Settings}
    (settled : (file.bootstrap [] around.env false around.now).2 = .ok settings)
    (made : settings.contextIn zone? around.now = .ok context) (act : Settings → Context → Outcome) :
    inContext file around zone? act = act settings context := by
  unfold inContext
  rw [settled]
  dsimp only
  rw [made]

/-- Without settings, or without a context for them, a command ends with exit code 1. -/
theorem exists_settled {act : Settings → Context → Outcome}
    (succeeds : (inContext file around zone? act).exitCode = 0) :
    ∃ settings context, (file.bootstrap [] around.env false around.now).2 = .ok settings
      ∧ settings.contextIn zone? around.now = .ok context := by
  unfold inContext at succeeds
  split at succeeds
  next => simp at succeeds
  next settings settled =>
    split at succeeds
    next => simp at succeeds
    next context made => exact ⟨settings, context, settled, made⟩

/-- A command that succeeds in just those contexts in which its expression names an instant succeeds
just where it finds one. -/
theorem exitCode_inContext_iff {act : Settings → Context → Outcome}
    (ends : ∀ settings context, (act settings context).exitCode = 0
      ↔ ∃ i, context.evaluate expression around.now = .ok i) :
    (inContext file around zone? act).exitCode = 0
      ↔ ∃ context i, Finds file around zone? expression context i := by
  constructor
  · intro succeeds
    obtain ⟨settings, context, settled, made⟩ := exists_settled succeeds
    rw [inContext_of_settled settled made, ends] at succeeds
    obtain ⟨i, evaluated⟩ := succeeds
    exact ⟨context, i, ⟨settings, settled, made⟩, evaluated⟩
  · rintro ⟨context, i, ⟨settings, settled, made⟩, evaluated⟩
    rw [inContext_of_settled settled made, ends]
    exact ⟨i, evaluated⟩

/-- Every locale has a name for the month that an instant falls in. -/
theorem Zone.exists_monthYear (z : Zone) (i : Instant) (locale : String) :
    ∃ name ∈ monthsIn locale,
      z.monthYear i locale = name.toList ++ ',' :: ' ' :: decimal (z.dateTime i).date.year := by
  have date : (z.dateTime i).date.Valid := (i.valid_dateTime (z.offsetAt i)).1
  obtain ⟨name, known, named⟩ := exists_monthName date.1 date.2.1 locale
  refine ⟨name, known, ?_⟩
  unfold monthYear
  dsimp only
  rw [named, Option.getD_some]

/-- The milliseconds of an instant are not too many to be written unless its year is very far. -/
theorem Instant.short_epochMillis (near : (i.dateTime 0).date.year.natAbs ≤ 70000000) :
    ¬ TooLong i.epochMillis := by
  have years := (i.valid_dateTime 0).wallSecond_lt_newYearSecond_iff
  rw [DateTime.wallSecond_dateTime, Int.add_zero] at years
  have after := mt (years (-70000000)).mp (by omega)
  have before := (years 70000001).mpr (by omega)
  rw [show newYearSecond (-70000000) = -2209048807219200 by decide] at after
  rw [show newYearSecond 70000001 = 2208924504403200 by decide] at before
  have limit : 10 ^ 20 ≤ smallestLong := pow_le_smallestLong (by decide)
  rw [tooLong_iff]
  unfold epochSecond millisPerSecond at after before
  omega

/-- The weeks of a date are counted in a year near its own. -/
theorem Date.Valid.isoWeek_near {d : Date} (h : d.Valid) :
    d.isoWeek.1.natAbs ≤ d.year.natAbs + 2 := by
  have number := d.number_weekday
  have valid := valid_ofEpochDay (d.epochDay + 4 - d.weekday.number)
  have day := epochDay_ofEpochDay (d.epochDay + 4 - d.weekday.number)
  have up := h.year_le valid (n := 1) (by omega) (by omega)
  have down := valid.year_le h (n := 1) (by omega) (by omega)
  unfold isoWeek
  dsimp only
  omega

theorem year_near_of_evaluate {text : Text} {zone : Zone} {now : Instant} (ordinary : zone.Ordinary)
    (h : evaluate (some text) zone now = .ok i) :
    (i.dateTime 0).date.year.natAbs ≤ (now.dateTime 0).date.year.natAbs + 30000000 := by
  have here := year_of_evaluate ordinary h
  have utc : (0 : Int).natAbs < 86400000000000 := by decide
  have there := i.year_near (ordinary.offsetAt_lt i) utc
  have back := now.year_near utc (ordinary.offsetAt_lt now)
  unfold Zone.dateTime at here
  omega

/-- The present of a context is near the one that the clock shows, also where it is pinned. -/
theorem Settings.context_near {s : Settings} {now : Instant} (made : s.context now = .ok context) :
    context.zone.Ordinary
      ∧ ((context.now now).dateTime 0).date.year.natAbs
        ≤ (now.dateTime 0).date.year.natAbs + 30000000 := by
  unfold Settings.context at made
  split at made
  next => cases made
  next zone found =>
    have ordinary := Zone.ordinary_of_resolve found
    split at made
    next =>
      cases made
      exact ⟨ordinary, Nat.le_add_right _ _⟩
    next text pinned =>
      split at made
      next => cases made
      next i named =>
        cases made
        exact ⟨ordinary, year_near_of_evaluate ordinary named⟩

theorem Settings.contextIn_near {s : Settings} {now : Instant}
    (made : s.contextIn zone? now = .ok context) :
    context.zone.Ordinary
      ∧ ((context.now now).dateTime 0).date.year.natAbs
        ≤ (now.dateTime 0).date.year.natAbs + 30000000 := by
  unfold contextIn at made
  split at made
  next => cases made
  next own found =>
    have near := context_near found
    split at made
    next =>
      cases made
      exact near
    next id given =>
      split at made
      next => cases made
      next zone resolved =>
        cases made
        exact ⟨Zone.ordinary_of_resolve resolved, near.2⟩

/-- What a command prints of the instant that it finds can be written. The clock of a machine shows
a year of four digits, and no expression leads from there to a year of too many. -/
theorem Finds.written (found : Finds file around zone? expression context i)
    (clock : (around.now.dateTime 0).date.Short) (form : Instant → List Char) (locale : String) :
    i.written form = .ok (form i) ∧ ¬ TooLong i.epochMillis
      ∧ context.zone.monthYearText i locale = .ok (context.zone.monthYear i locale)
      ∧ context.zone.weekYearText i = .ok (context.zone.weekYear i) := by
  obtain ⟨settings, -, made⟩ := found.settled
  obtain ⟨ordinary, present⟩ := Settings.contextIn_near made
  have named := year_near_of_evaluate ordinary found.evaluated
  obtain ⟨low, high⟩ := clock
  have near : (i.dateTime 0).date.year.natAbs ≤ 60010000 := by omega
  have shown := i.year_near (show (0 : Int).natAbs < _ by decide) (ordinary.offsetAt_lt i)
  have week := (i.valid_dateTime (context.zone.offsetAt i)).1.isoWeek_near
  have limit := le_smallestLong
  have short {year : Int} (few : year.natAbs ≤ 70000000) : ¬ TooLong year := by
    rw [tooLong_iff]
    omega
  exact ⟨Instant.written_of_short (short (by omega)), Instant.short_epochMillis (by omega),
    if_neg (short (by unfold Zone.dateTime; omega)), if_neg (short (by unfold Zone.dateTime; omega))⟩

/-- The members that `parse` prints are strings, apart from the milliseconds of the instant. -/
theorem exists_parsedJson_members (expression : String) (zone : Zone) (i : Instant)
    (format : OutputFormat) :
    ∃ members, parsedJson expression zone i format = .object members ∧ members.length = 5
      ∧ (∀ member ∈ members, (∃ t : Text, t.Whole ∧ member.2 = .string t)
        ∨ member.2 = .integer i.epochMillis)
      ∧ member? "instant" members = some (.string (String.ofList i.isoForm))
      ∧ member? "epochMillis" members = some (.integer i.epochMillis) := by
  refine ⟨_, rfl, rfl, ?_, rfl, rfl⟩
  simp only [List.forall_mem_cons]
  have text (s : String) : ∃ t : Text, t.Whole ∧ Json.string s = .string t :=
    ⟨_, Text.whole_ofChars _, rfl⟩
  exact ⟨.inl (text _), .inl (text _), .inl (text _), .inr trivial, .inl (text _), nofun⟩

theorem printed_parsedJson (expression : String) (zone : Zone) (i : Instant)
    (format : OutputFormat) : Printed (parsedJson expression zone i format).line := by
  obtain ⟨members, whole, -, each, -⟩ := exists_parsedJson_members expression zone i format
  rw [whole]
  apply Json.printed_object_line
  intro member mem
  rcases each member mem with ⟨t, -, value⟩ | value
  · rw [value]
    exact printed_jsonString t
  · rw [value]
    exact printed_decimal _

/-- The line that `parse` prints is read as the object it is of, unless the milliseconds have too
many digits to be read. -/
theorem read_parsedJson (expression : String) (zone : Zone) (format : OutputFormat)
    (short : (Nat.toDigits 10 i.epochMillis.natAbs).length ≤ digitLimit) :
    Json.read (parsedJson expression zone i format).line
      = .ok (parsedJson expression zone i format) := by
  obtain ⟨tail, text⟩ : ∃ tail, (parsedJson expression zone i format).line
      = '{' :: '\x22' :: 'e' :: tail := ⟨_, rfl⟩
  obtain ⟨members, whole, count, each, -⟩ := exists_parsedJson_members expression zone i format
  have spelled : Json.Spells (Json.object members).line (.object members)
      (1 + members.length + 1) := by
    refine Json.spells_object_line (List.ne_nil_of_length_pos (by omega)) fun member mem => ?_
    rcases each member mem with ⟨t, whole, value⟩ | value
    · rw [value]
      exact Json.spells_string whole
    · rw [value]
      exact Json.spells_integer short
  rw [whole] at text ⊢
  refine spelled.read ?_
  rw [text, count]
  simp only [List.length_cons]
  omega

namespace Command

/-- A command succeeds if it ends with exit code 0. -/
def Succeeds (c : Command) (file : SettingsFile) (around : Surroundings) : Prop :=
  (c.run file around).2.exitCode = 0

theorem validate_succeeds_iff :
    (validate expression zone?).Succeeds file around
      ↔ ∃ context i, Finds file around zone? expression context i := by
  refine exitCode_inContext_iff fun _ context => ?_
  unfold isValid Context.evaluate
  cases evaluate (some expression) context.zone (context.now around.now) with
  | ok i => simp
  | error failure =>
    dsimp only
    cases failure.category?.isSome with
    | true => simp [Outcome.exitCode]
    | false => simp

theorem parse_succeeds_iff {format : OutputFormat} {json : Bool} :
    (parse expression zone? format json).Succeeds file around
      ↔ ∃ context i, Finds file around zone? expression context i := by
  refine exitCode_inContext_iff fun _ context => ?_
  cases context.evaluate expression around.now with
  | error failure => simp
  | ok i => cases json <;> simp

theorem render_succeeds_iff {locale? : Option String} :
    (render expression zone? locale?).Succeeds file around
      ↔ ∃ context i, Finds file around zone? expression context i := by
  refine exitCode_inContext_iff fun _ context => ?_
  cases context.evaluate expression around.now with
  | error failure => simp
  | ok i => simp

theorem parse_json_of_finds (found : Finds file around zone? expression context i)
    (format : OutputFormat) :
    (parse expression zone? format true).run file around
      = (file, .printed (String.ofList (parsedJson expression context.zone i format).line)) := by
  obtain ⟨settings, settled, made⟩ := found.settled
  refine Prod.ext rfl ((inContext_of_settled settled made _).trans ?_)
  rw [found.evaluated]
  rfl

/-- The commands for expressions agree. From the same file, surroundings and zone, `validate`,
`parse` and `render` succeed for the same expressions, whatever the format and the locale, and the
file stays as it is. What `parse` prints as JSON is one line, the same on a terminal and elsewhere.
It is read as an object whose text for the instant names the instant that its milliseconds count.
Where an expression is rendered, every locale has a name for the month. -/
theorem expressions_agree (file : SettingsFile) (around : Surroundings) (zone? : Option String)
    (expression : String) (format : OutputFormat) (json : Bool) (locale? : Option String) :
    ((validate expression zone?).Succeeds file around
        ↔ (parse expression zone? format json).Succeeds file around)
      ∧ ((parse expression zone? format json).Succeeds file around
        ↔ (render expression zone? locale?).Succeeds file around)
      ∧ (∀ c ∈ [validate expression zone?, parse expression zone? format json,
          render expression zone? locale?], (c.run file around).1 = file)
      ∧ (file.bootstrap [] around.env false around.now).1 = file
      ∧ ((parse expression zone? format true).Succeeds file around →
        ∃ context i line, Finds file around zone? expression context i
          ∧ (parse expression zone? format true).run file around
            = (file, .printed (String.ofList line))
          ∧ (Outcome.printed (String.ofList line)).plain = .printed (String.ofList line)
          ∧ (-9999 ≤ (i.dateTime 0).date.year → (i.dateTime 0).date.year ≤ 9999 →
            ∃ members text, Json.read line = .ok (.object members)
              ∧ member? "instant" members = some (.string text)
              ∧ member? "epochMillis" members = some (.integer i.epochMillis)
              ∧ ∀ zone now, evaluate (some text) zone now = .ok i))
      ∧ ((render expression zone? locale?).Succeeds file around →
        ∃ context i, Finds file around zone? expression context i
          ∧ ∀ locale, ∃ name ∈ monthsIn locale, context.zone.monthYear i locale
            = name.toList ++ ',' :: ' ' :: decimal (context.zone.dateTime i).date.year) := by
  refine ⟨validate_succeeds_iff.trans parse_succeeds_iff.symm,
    parse_succeeds_iff.trans render_succeeds_iff.symm, ?_, file.bootstrap_kept [] _ _, ?_, ?_⟩
  · simp only [List.forall_mem_cons]
    exact ⟨rfl, rfl, rfl, nofun⟩
  · intro succeeds
    obtain ⟨context, i, found⟩ := parse_succeeds_iff.mp succeeds
    refine ⟨context, i, _, found, parse_json_of_finds found format,
      (printed_parsedJson _ _ _ _).plain_printed, fun low high => ?_⟩
    obtain ⟨members, whole, -, -, instant, millis⟩ :=
      exists_parsedJson_members expression context.zone i format
    have short := Instant.short_epochMillis (i := i) (by omega)
    have read := read_parsedJson expression context.zone format (Nat.not_lt.mp short)
    rw [whole] at read ⊢
    refine ⟨members, _, read, instant, millis, fun zone now => ?_⟩
    rw [Text.ofString_ofList, evaluate_isoForm_eq_ite, if_pos ⟨low, high⟩]
  · intro succeeds
    obtain ⟨context, i, found⟩ := render_succeeds_iff.mp succeeds
    exact ⟨context, i, found, context.zone.exists_monthYear i⟩

end Command

end Almanac
