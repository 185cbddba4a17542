import Almanac.Proofs.LongYears
import Almanac.Proofs.RegularRules
import Almanac.Proofs.Trimming
import Almanac.Zone.Id

namespace Almanac

theorem regular_of_mem_namedZones : ∀ entry ∈ namedZones, entry.2.Regular := by
  decide +kernel

theorem OffsetFields.total?_range {o : OffsetFields} {seconds : Int}
    (h : o.total? = some seconds) : -68399 ≤ seconds ∧ seconds ≤ 68399 := by
  unfold total? at h
  split at h
  · cases h
    split <;> omega
  · cases h

theorem readOffset?_range {text : List Char} {offset : Int} (h : readOffset? text = some offset) :
    -68399 ≤ offset ∧ offset ≤ 68399 := by
  unfold readOffset? at h
  dsimp only at h
  split at h
  · split at h
    · cases h
    · split at h
      · exact OffsetFields.total?_range h
      · obtain ⟨fields, -, total⟩ := Option.bind_eq_some_iff.mp h
        exact OffsetFields.total?_range total
  · cases h

namespace Zone

/-- The offsets that zones are made of are those of a length of time, in whole seconds. -/
theorem ofOffset_eq_ok_iff {offset : Int} {z : Zone} :
    ofOffset offset = .ok z
      ↔ (-86399999913600 ≤ offset ∧ offset < 86400000000000) ∧ z = atOffset offset := by
  unfold ofOffset Lapse.ofMicros? microsPerDay
  by_cases long : TooLong (offset.natAbs / 3600)
  · have large := le_smallestLong
    have digits := tooLong_iff.mp long
    rw [if_pos long]
    refine iff_of_false nofun fun made => ?_
    omega
  · rw [if_neg long]
    by_cases near : -999999999 ≤ offset * 1000000 / 86400000000
        ∧ offset * 1000000 / 86400000000 ≤ 999999999
    · rw [dif_pos near]
      have range : -86399999913600 ≤ offset ∧ offset < 86400000000000 := by omega
      simp [range, eq_comm]
    · rw [dif_neg near]
      refine iff_of_false nofun fun made => near ?_
      omega

/-- The zones that callers can get: UTC, a fixed offset of less than 1000000000 days, the zone of an
id and a named zone. -/
inductive Available : Zone → Prop
  | utc : Available utc
  | ofOffset {offset : Int} (near : offset.natAbs < 86400000000000) : Available (atOffset offset)
  | resolved {text : Text} {z : Zone} (h : resolve text = .ok z) : Available z
  | named {name : List Char} {z : Zone} (h : named? name = some z) : Available z

/-- A clock that always has the same offset, or one that follows regular rules. -/
def Ordinary (z : Zone) : Prop :=
  (∃ offset : Int, z.clock = .fixed offset ∧ offset.natAbs < 86400000000000)
    ∨ ∃ rules, z.clock = .ruled rules ∧ rules.Regular

theorem natAbs_offsetAt_lt {z : Zone} {limit : Nat} (large : 54000 < limit)
    (h : (∃ offset : Int, z.clock = .fixed offset ∧ offset.natAbs < limit)
      ∨ ∃ rules, z.clock = .ruled rules ∧ rules.Regular) (i : Instant) :
    (z.offsetAt i).natAbs < limit := by
  unfold offsetAt
  rcases h with ⟨offset, clock, near⟩ | ⟨rules, clock, regular⟩
  · rw [clock]
    exact near
  · rw [clock]
    have := regular.offset_range i.lookup.epochSecond
    dsimp only
    omega

theorem Ordinary.offsetAt_lt {z : Zone} (h : z.Ordinary) (i : Instant) :
    (z.offsetAt i).natAbs < 86400000000000 :=
  natAbs_offsetAt_lt (by decide) h i

/-- A clock less than a day from UTC that always has the same offset, or one that follows regular
rules. -/
def NearUtc (z : Zone) : Prop :=
  (∃ offset : Int, z.clock = .fixed offset ∧ offset.natAbs < 86400)
    ∨ ∃ rules, z.clock = .ruled rules ∧ rules.Regular

theorem NearUtc.ordinary {z : Zone} (h : z.NearUtc) : z.Ordinary :=
  h.imp_left fun ⟨offset, clock, near⟩ => ⟨offset, clock, by omega⟩

theorem NearUtc.offsetAt_lt {z : Zone} (h : z.NearUtc) (i : Instant) :
    (z.offsetAt i).natAbs < 86400 :=
  natAbs_offsetAt_lt (by decide) h i

theorem nearUtc_utc : utc.NearUtc :=
  .inl ⟨0, rfl, by decide⟩

theorem nearUtc_of_readOffset? {z : Zone} {text : List Char} {offset : Int}
    (read : readOffset? text = some offset) (clock : z.clock = .fixed offset) : z.NearUtc := by
  have := readOffset?_range read
  exact .inl ⟨offset, clock, by omega⟩

theorem regular_of_rules? {id : List Char} {rules : ZoneRules} (h : rules? id = some rules) :
    rules.Regular := by
  unfold rules? at h
  obtain ⟨entry, found, rfl⟩ := Option.map_eq_some_iff.mp h
  exact regular_of_mem_namedZones entry (List.mem_of_find?_eq_some found)

theorem nearUtc_of_named? {name : List Char} {z : Zone} (h : named? name = some z) :
    z.NearUtc := by
  unfold named? at h
  obtain ⟨rules, found, rfl⟩ := Option.map_eq_some_iff.mp h
  exact .inr ⟨rules, rfl, regular_of_rules? found⟩

theorem nearUtc_of_short? {id : List Char} {z : Zone} (h : short? id = some z) : z.NearUtc := by
  unfold short? at h
  obtain ⟨entry, -, h⟩ := Option.bind_eq_some_iff.mp h
  split at h
  next offset read =>
    cases Option.some.inj h
    exact nearUtc_of_readOffset? read rfl
  · obtain ⟨rules, found, rfl⟩ := Option.map_eq_some_iff.mp h
    exact .inr ⟨rules, rfl, regular_of_rules? found⟩

/-- What an id is when there is no white space around it: a name of UTC, an offset, or one of the
short ids and names that are listed. -/
inductive IsIdOf (id : List Char) : Zone → Prop
  | utc (name : isUtcName id = true) : IsIdOf id utc
  | offset {offset : Int} (other : isUtcName id = false) (read : readOffset? id = some offset) :
    IsIdOf id (atOffset offset)
  | listed {z : Zone} (other : isUtcName id = false) (unread : readOffset? id = none)
    (found : (short? id).or (named? id) = some z) : IsIdOf id z

theorem resolve_ok_iff {text : Text} {z : Zone} :
    resolve text = .ok z ↔ trim text.chars ≠ [] ∧ IsIdOf (trim text.chars) z := by
  have trimmed : (trimSymbols text.symbols).map Symbol.reading = trim text.chars :=
    map_reading_trimSymbols text.symbols
  unfold resolve
  dsimp only
  rw [trimmed]
  constructor
  · intro h
    split at h
    · cases h
    next filled =>
      refine ⟨filled, ?_⟩
      split at h
      next name =>
        cases h
        exact .utc name
      next other =>
        have other := eq_false_of_ne_true other
        split at h
        next offset read =>
          cases h
          exact .offset other read
        next unread =>
          split at h
          next zone found =>
            cases h
            exact .listed other unread found
          · cases h
  · rintro ⟨filled, isId⟩
    rw [if_neg filled]
    cases isId with
    | utc name => rw [if_pos name]
    | offset other read => rw [if_neg (by simp [other]), read]
    | listed other unread found => rw [if_neg (by simp [other]), unread, found]

theorem nearUtc_of_resolve {text : Text} {z : Zone} (h : resolve text = .ok z) : z.NearUtc := by
  obtain ⟨-, isId⟩ := resolve_ok_iff.mp h
  cases isId with
  | utc => exact nearUtc_utc
  | offset _ read => exact nearUtc_of_readOffset? read rfl
  | listed _ _ found =>
    rcases Option.or_eq_some_iff.mp found with short | ⟨-, named⟩
    · exact nearUtc_of_short? short
    · exact nearUtc_of_named? named

theorem ordinary_of_resolve {text : Text} {z : Zone} (h : resolve text = .ok z) : z.Ordinary :=
  (nearUtc_of_resolve h).ordinary

theorem failure_of_resolve {text : Text} {failure : Failure} (h : resolve text = .error failure) :
    failure = .blankZone ∨ ∃ id, failure = .unknownZone id := by
  unfold resolve at h
  dsimp only at h
  split at h
  · cases h
    exact .inl rfl
  · split at h
    · cases h
    · split at h
      · cases h
      · split at h
        · cases h
        · cases h
          exact .inr ⟨_, rfl⟩

/-- The zone that is made of an offset is one that callers can get. -/
theorem available_of_ofOffset {offset : Int} {z : Zone} (made : ofOffset offset = .ok z) :
    z.Available := by
  obtain ⟨range, rfl⟩ := ofOffset_eq_ok_iff.mp made
  exact .ofOffset (by omega)

theorem Available.ordinary {z : Zone} (h : z.Available) : z.Ordinary := by
  cases h with
  | utc => exact nearUtc_utc.ordinary
  | ofOffset near => exact .inl ⟨_, rfl, near⟩
  | resolved h => exact ordinary_of_resolve h
  | named h => exact (nearUtc_of_named? h).ordinary

end Zone

end Almanac
