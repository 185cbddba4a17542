import Almanac.Zone.Rules

namespace Almanac

def trollRules : ZoneRules where
  initial := 0
  changes := [
    ⟨1108166400, 0⟩]
  yearly := some {
    standard := 0
    daylight := 7200
    toDaylight := ⟨3, 5, 0, 3600⟩
    toStandard := ⟨10, 5, 0, 10800⟩ }

def fiveHoursWestRules : ZoneRules where
  initial := -18000
  changes := []
  yearly := none

def otherZones : List (String × ZoneRules) :=
  [("Antarctica/Troll", trollRules),
   ("Etc/GMT+5", fiveHoursWestRules)]

end Almanac
