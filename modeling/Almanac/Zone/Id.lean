import Almanac.Failure
import Almanac.Zone.Basic
import Almanac.Zone.Table.Africa
import Almanac.Zone.Table.America
import Almanac.Zone.Table.Asia
import Almanac.Zone.Table.Australasia
import Almanac.Zone.Table.Etcetera
import Almanac.Zone.Table.Europe

namespace Almanac

/-- The zones that have a name. -/
def namedZones : List (String × ZoneRules) :=
  africanZones ++ americanZones ++ asianZones ++ australasianZones ++ europeanZones ++ otherZones

/-- Ids of three letters, for an offset or a named zone. -/
def shortIds : List (String × String) :=
  [("ACT", "Australia/Darwin"),
   ("AET", "Australia/Sydney"),
   ("AGT", "America/Argentina/Buenos_Aires"),
   ("ART", "Africa/Cairo"),
   ("AST", "America/Anchorage"),
   ("BET", "America/Sao_Paulo"),
   ("BST", "Asia/Dhaka"),
   ("CAT", "Africa/Harare"),
   ("CNT", "America/St_Johns"),
   ("CST", "America/Chicago"),
   ("CTT", "Asia/Shanghai"),
   ("EAT", "Africa/Addis_Ababa"),
   ("ECT", "Europe/Paris"),
   ("EST", "-05:00"),
   ("HST", "-10:00"),
   ("IET", "America/Indiana/Indianapolis"),
   ("IST", "Asia/Kolkata"),
   ("JST", "Asia/Tokyo"),
   ("MIT", "Pacific/Apia"),
   ("MST", "-07:00"),
   ("NET", "Asia/Yerevan"),
   ("NST", "Pacific/Auckland"),
   ("PLT", "Asia/Karachi"),
   ("PNT", "America/Phoenix"),
   ("PRT", "America/Puerto_Rico"),
   ("PST", "America/Los_Angeles"),
   ("SST", "Pacific/Guadalcanal"),
   ("VST", "Asia/Ho_Chi_Minh")]

namespace Zone

/-- A name of UTC, in any mix of cases. -/
def isUtcName (id : List Char) : Bool :=
  ["z".toList, "utc".toList, "gmt".toList, "ut".toList].contains (id.map Char.toLower)

/-- The rules of a named zone, whose name may be written with spaces for underscores. -/
def rules? (id : List Char) : Option ZoneRules :=
  (namedZones.find? fun entry =>
    entry.1.toList = id.map fun c => if c = ' ' then '_' else c).map (·.2)

/-- The zone of a name, under the id it is asked for. -/
def named? (id : List Char) : Option Zone :=
  (rules? id).map fun rules => ⟨String.ofList id, .ruled rules⟩

/-- The zone that a short id stands for. -/
def short? (id : List Char) : Option Zone :=
  (shortIds.find? (·.1.toList = id)).bind fun entry =>
    match readOffset? entry.2.toList with
    | some offset => some ⟨entry.1, .fixed offset⟩
    | none => (rules? entry.2.toList).map fun rules => ⟨entry.1, .ruled rules⟩

/-- The zone of an id: a name of UTC, an offset, a short id or the name of a zone. No offset that is
read is too far from UTC to have a zone. -/
def resolve (text : Text) : Except Failure Zone :=
  let trimmed := trimSymbols text.symbols
  let id := trimmed.map Symbol.reading
  if id = [] then .error .blankZone
  else if isUtcName id then .ok utc
  else
    match readOffset? id with
    | some offset => .ok (atOffset offset)
    | none =>
      match (short? id).or (named? id) with
      | some zone => .ok zone
      | none => .error (.unknownZone (.ofSymbols trimmed))

end Zone

end Almanac
